import DaemonReply.Proofs.Batch
import DaemonReply.Proofs.OpenElements
import DaemonReply.Record.Message

/-!
# What one event changes

Each kind of event touches little of an assembler. An opening empties the text, and more text is
collected unless the opening began a record; text goes to the text, and only while text is
collected; a closing ends the collecting and leaves the text alone. The records only grow, by one
at a time and at the end (`step_records_toList`), and so do they over any run
(`records_prefix_run`).

All this holds in any state. One more thing holds in the states that a new assembler comes to:
**outside a record the draft is blank** (`BlankOutside`), whether the last record was kept or not.
For no event outside a record touches the draft, and every end of a record puts a blank one in its
place.

Main statement: both together, for every state that is reached and every next event
(`step_frame`).
-/

namespace DaemonReply

open Markup

namespace Assembler

variable {β ρ : Type} {family : RecordFamily β ρ} {a : Assembler β ρ}

/-! ### Blank drafts -/

/-- Outside a record the draft is blank. -/
def BlankOutside (family : RecordFamily β ρ) (a : Assembler β ρ) : Prop :=
  a.recordOpen = false → a.draft = family.blank

theorem blankOutside_new (family : RecordFamily β ρ) : BlankOutside family (new family) :=
  fun _ => rfl

theorem BlankOutside.opened (h : BlankOutside family a) (name : String) :
    BlankOutside family (a.openElement family name) := by
  intro hafter
  -- a record would be open but for a leaf outside any record
  obtain ⟨hopen, hname⟩ : a.recordOpen = false ∧ family.isBoundary name = false := by
    simpa [openElement_recordOpen] using hafter
  have hkept : (a.openElement family name).draft = a.draft := by
    simp [openElement, hopen, hname]
  rw [hkept]
  exact h hopen

theorem BlankOutside.addText (h : BlankOutside family a) (content : String) :
    BlankOutside family (a.addText content) := by
  intro hafter
  rw [addText_recordOpen] at hafter
  rw [Assembler.addText]
  split <;> exact h hafter

theorem endRecord_draft (family : RecordFamily β ρ) (a : Assembler β ρ) :
    (a.endRecord family).draft = family.blank := by
  rw [endRecord]
  split <;> rfl

theorem BlankOutside.closed (h : BlankOutside family a) (name : String) :
    BlankOutside family (a.closeElement family name) := by
  intro hafter
  cases hopen : a.recordOpen with
  | false =>
    have hkept : (a.closeElement family name).draft = a.draft := by
      simp only [closeElement, hopen, report]
      split <;> rfl
    rw [hkept]
    exact h hopen
  | true =>
    -- a record that was open and is not any more has ended
    have hname : family.isBoundary name = true := by
      simpa [closeElement_recordOpen, hopen] using hafter
    have hended : (a.closeElement family name).draft = (a.endRecord family).draft := by
      simp [closeElement, hopen, hname]
    rw [hended, endRecord_draft]

/-- **One event** leaves the draft blank outside records. -/
theorem BlankOutside.step (h : BlankOutside family a) (event : Event) :
    BlankOutside family (a.step family event) := by
  cases event with
  | opened name attributes => exact h.opened name
  | text content => exact h.addText content
  | closed name => exact h.closed name

theorem BlankOutside.run (h : BlankOutside family a) (events : List Event) :
    BlankOutside family (a.run family events) := by
  induction events generalizing a with
  | nil => exact h
  | cons event rest ih => exact ih (h.step event)

/-! ### Growing records -/

/-- **The records after one event** are those before, and at the end of a record what its draft
amounts to. -/
theorem step_records_toList (family : RecordFamily β ρ) (a : Assembler β ρ) (event : Event) :
    (a.step family event).records.toList = a.records.toList ++
      if family.closesRecord event = true ∧ a.recordOpen = true then
        (family.complete a.draft).toList
      else [] := by
  cases hclose : family.closesRecord event with
  | false => simp [step_records hclose]
  | true =>
    cases hopen : a.recordOpen with
    | true => simpa using (step_closing hopen hclose).2
    | false =>
      have hstray : family.opensRecord event = false := by
        obtain ⟨name, rfl, -⟩ := RecordFamily.exists_of_closesRecord hclose
        rfl
      simp [(step_idle hopen hstray).2]

/-- A run changes none of the records there are, and puts new ones behind them. -/
theorem records_prefix_run (family : RecordFamily β ρ) (a : Assembler β ρ) (events : List Event) :
    a.records.toList <+: (a.run family events).records.toList := by
  induction events generalizing a with
  | nil => exact List.prefix_rfl
  | cons event rest ih =>
    have hstep : a.records.toList <+: (a.step family event).records.toList := by
      rw [step_records_toList]
      exact List.prefix_append _ _
    exact hstep.trans (ih _)

/-! ### Reached states -/

theorem addText_eq (a : Assembler β ρ) (content : String) :
    a.addText content =
      { a with text := if a.leafOpen then a.text ++ content else a.text } := by
  rw [addText]
  split <;> rfl

/-- **What an event changes in a state that a new assembler has come to.** The draft is blank
unless a record is open, and the records that there are stay in front of those to come. -/
theorem step_frame (family : RecordFamily β ρ) (events : List Event) (event : Event) :
    let a := (new family).run family events
    let next := a.step family event
    (a.recordOpen = false → a.draft = family.blank) ∧
      (next.records.toList = a.records.toList ++
          (if family.closesRecord event = true ∧ a.recordOpen = true then
            (family.complete a.draft).toList
          else []) ∧
        ∀ later, a.records.toList <+: (a.run family later).records.toList) ∧
      (∀ content, event = .text content →
        next = { a with text := if a.leafOpen then a.text ++ content else a.text }) ∧
      (∀ name, event = .closed name → next.leafOpen = false ∧ next.text = a.text) ∧
      ∀ name attributes, event = .opened name attributes →
        next.text = "" ∧
          (next.leafOpen = false ↔ a.recordOpen = false ∧ next.recordOpen = true) ∧
          (next.leafOpen = false ↔ a.recordOpen = false ∧ family.isBoundary name = true) := by
  intro a next
  have hblank : BlankOutside family a := (blankOutside_new family).run events
  refine ⟨hblank, ⟨step_records_toList family a event, records_prefix_run family a⟩, ?_, ?_, ?_⟩
  · rintro content rfl
    exact addText_eq a content
  · rintro name rfl
    exact ⟨closeElement_leafOpen family a name, closeElement_text family a name⟩
  · rintro name attributes rfl
    have hleaf : next.leafOpen = false ↔ a.recordOpen = false ∧ family.isBoundary name = true := by
      simp [next, step, openElement_leafOpen]
    have hbegins : a.recordOpen = false ∧ next.recordOpen = true ↔
        a.recordOpen = false ∧ family.isBoundary name = true := by
      simp +contextual [next, step, openElement_recordOpen]
    exact ⟨openElement_text family a name, hleaf.trans hbegins.symm, hleaf⟩

/-- A message without a number is dropped, and nothing of it is in the draft of the next one. -/
theorem step_frame_dropped :
    let a := (new Message.family).run Message.family
      [.opened "msg" [], .opened "body" [], .text "lost", .closed "body", .closed "msg"]
    a.recordOpen = false ∧ a.records = #[] ∧ a.draft = Message.empty ∧
      (a.step Message.family (.opened "msg" [])).text = "" ∧
      (a.step Message.family (.opened "msg" [])).leafOpen = false := by
  intro a
  have hclosed : a.recordOpen = false := by decide +kernel
  have hdropped : a.records = #[] := by decide +kernel
  have hname : Message.family.isBoundary "msg" = true := by decide +kernel
  obtain ⟨hblank, -, -, -, hopened⟩ := step_frame Message.family
    [.opened "msg" [], .opened "body" [], .text "lost", .closed "body", .closed "msg"]
    (.opened "msg" [])
  obtain ⟨htext, -, hleaf⟩ := hopened "msg" [] rfl
  exact ⟨hclosed, hdropped, hblank hclosed, htext, hleaf.mpr ⟨hclosed, hname⟩⟩

end Assembler

end DaemonReply
