import DaemonReply.Proofs.Nesting
import DaemonReply.Record.Assembler

/-!
# Open records and open elements

An assembler does not count elements, so what its two flags mean has to be said from outside. Read
beside the names of the open elements, **a record is open only inside a boundary element, and text
is collected only inside some element** (`RecordWithin`, `LeafWithin`): both survive every nested
run of events. So balanced events leave no record open if none was open before, and an assembler
that was idle is idle again (`Idle.run`).

The converse fails: inside a boundary element no record is open once a boundary nested in it has
closed.
-/

namespace DaemonReply

open Markup Markup.Event

namespace Assembler

variable {β ρ : Type} {family : RecordFamily β ρ} {a : Assembler β ρ} {names left : List String}
  {events : List Event}

/-! ### Records -/

/-- A record is open only if one of the open elements is a boundary. -/
def RecordWithin (family : RecordFamily β ρ) (names : List String) (a : Assembler β ρ) : Prop :=
  a.recordOpen = true → ∃ name ∈ names, family.isBoundary name = true

/-- A boundary that opens leaves a record open. -/
theorem openElement_recordOpen (family : RecordFamily β ρ) (a : Assembler β ρ) (name : String) :
    (a.openElement family name).recordOpen = (a.recordOpen || family.isBoundary name) := by
  rw [openElement]
  cases a.recordOpen <;> cases family.isBoundary name <;> rfl

theorem RecordWithin.opened (h : RecordWithin family names a) (name : String) :
    RecordWithin family (name :: names) (a.openElement family name) := by
  intro hopen
  rw [openElement_recordOpen, Bool.or_eq_true] at hopen
  rcases hopen with hbefore | hname
  · obtain ⟨boundary, hmem, hboundary⟩ := h hbefore
    exact ⟨boundary, List.mem_cons_of_mem name hmem, hboundary⟩
  · exact ⟨name, List.mem_cons_self, hname⟩

theorem addText_recordOpen (a : Assembler β ρ) (content : String) :
    (a.addText content).recordOpen = a.recordOpen := by
  rw [addText]
  split <;> rfl

/-- A boundary that closes leaves no record open. -/
theorem closeElement_recordOpen (family : RecordFamily β ρ) (a : Assembler β ρ) (name : String) :
    (a.closeElement family name).recordOpen = (a.recordOpen && !family.isBoundary name) := by
  by_cases hname : family.isBoundary name = true
  · by_cases hopen : a.recordOpen = true
    · simp only [closeElement, hname, hopen, endRecord, if_true]
      split <;> simp [report]
    · simp [closeElement, hname, hopen]
  · by_cases hopen : a.recordOpen = true
    · simp [closeElement, hname, hopen, endField]
    · simp [closeElement, hname, hopen, report]

theorem RecordWithin.closed {name : String} (h : RecordWithin family (name :: names) a) :
    RecordWithin family names (a.closeElement family name) := by
  intro hopen
  rw [closeElement_recordOpen, Bool.and_eq_true, Bool.not_eq_true'] at hopen
  obtain ⟨hbefore, hname⟩ := hopen
  obtain ⟨boundary, hmem, hboundary⟩ := h hbefore
  -- the element that closes is no boundary, so it is another one
  rcases List.mem_cons.mp hmem with rfl | hmem
  · simp [hname] at hboundary
  · exact ⟨boundary, hmem, hboundary⟩

theorem RecordWithin.run (h : RecordWithin family names a)
    (hevents : openAfter? names events = some left) :
    RecordWithin family left (a.run family events) := by
  induction events generalizing a names with
  | nil =>
    obtain rfl : names = left := by simpa using hevents
    exact h
  | cons event rest ih =>
    cases event with
    | opened name attributes => exact ih (h.opened name) hevents
    | text content =>
      refine ih (fun hopen => h ?_) hevents
      rwa [step, addText_recordOpen] at hopen
    | closed name =>
      obtain ⟨outer, rfl, hrest⟩ := exists_outer_of_openAfter?_closed hevents
      exact ih h.closed hrest

/-- **Balanced events leave no record open** if none was open before. -/
theorem recordOpen_run_of_balanced (hidle : a.recordOpen = false) (h : Balanced events) :
    (a.run family events).recordOpen = false := by
  have hwithin : RecordWithin family [] a := fun hopen => by simp [hidle] at hopen
  rw [Bool.eq_false_iff]
  intro hopen
  obtain ⟨boundary, hmem, -⟩ := hwithin.run (h.openAfter? []) hopen
  exact absurd hmem List.not_mem_nil

/-! ### Text -/

/-- Text is collected only if some element is open. -/
def LeafWithin (names : List String) (a : Assembler β ρ) : Prop :=
  a.leafOpen = true → names ≠ []

/-- Behind an opening text is collected, unless the opening began a record. -/
theorem openElement_leafOpen (family : RecordFamily β ρ) (a : Assembler β ρ) (name : String) :
    (a.openElement family name).leafOpen = (a.recordOpen || !family.isBoundary name) := by
  rw [openElement]
  cases a.recordOpen <;> cases family.isBoundary name <;> rfl

theorem addText_leafOpen (a : Assembler β ρ) (content : String) :
    (a.addText content).leafOpen = a.leafOpen := by
  rw [addText]
  split <;> rfl

theorem LeafWithin.run (h : LeafWithin names a) (hevents : openAfter? names events = some left) :
    LeafWithin left (a.run family events) := by
  induction events generalizing a names with
  | nil =>
    obtain rfl : names = left := by simpa using hevents
    exact h
  | cons event rest ih =>
    cases event with
    | opened name attributes => exact ih (fun _ => List.cons_ne_nil name names) hevents
    | text content =>
      refine ih (fun hopen => h ?_) hevents
      rwa [step, addText_leafOpen] at hopen
    | closed name =>
      obtain ⟨outer, rfl, hrest⟩ := exists_outer_of_openAfter?_closed hevents
      refine ih (fun hopen => ?_) hrest
      simp [step] at hopen

/-! ### Idle assemblers -/

/-- An assembler in the middle of nothing: no record is open, and no text is collected. -/
structure Idle (a : Assembler β ρ) : Prop where
  recordOpen : a.recordOpen = false
  leafOpen : a.leafOpen = false

theorem idle_new (family : RecordFamily β ρ) : (new family).Idle := ⟨rfl, rfl⟩

/-- **Balanced events leave an idle assembler idle.** -/
theorem Idle.run (hidle : a.Idle) (h : Balanced events) : (a.run family events).Idle := by
  refine ⟨recordOpen_run_of_balanced hidle.recordOpen h, ?_⟩
  have hwithin : LeafWithin [] a := fun hopen => by simp [hidle.leafOpen] at hopen
  rw [Bool.eq_false_iff]
  intro hopen
  exact hwithin.run (h.openAfter? []) hopen rfl

/-- Text means nothing to an idle assembler. -/
theorem Idle.addText (hidle : a.Idle) (content : String) : a.addText content = a := by
  simp [Assembler.addText, hidle.leafOpen]

end Assembler

end DaemonReply
