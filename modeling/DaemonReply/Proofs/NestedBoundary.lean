import DaemonReply.Proofs.Batch
import DaemonReply.Proofs.OpenElements
import DaemonReply.Record.Message

/-!
# Boundaries inside boundaries

An assembler has one flag for "a record is open", however deep elements nest. The flag is set when
**a boundary has opened since one has closed last** (`Assembler.recordOpen_run_new`). A boundary
that opens inside another one changes nothing, but the first closing ends the record for both: the
rest of the outer element is then outside any record, and the fields that close there are strays.

So the flag says at every moment whether a boundary is open if and only if no boundary closes inside
another (`Assembler.flagTellsBoundary_iff`). In the other direction it never errs: a record is
open only inside a boundary.

Main statement: `recordOpen_along_scan`.
-/

namespace DaemonReply

open Markup Markup.Event

/-! ### Open boundaries -/

namespace RecordFamily

variable {β ρ : Type} (family : RecordFamily β ρ) {events : List Event} {names : List String}

/-- Whether one of the elements that are open after events is a boundary. -/
def boundaryOpen (events : List Event) : Bool :=
  ((openAfter? [] events).getD []).any family.isBoundary

/-- Whether a boundary has opened since one has closed last. -/
def openedSinceClosing (events : List Event) : Bool :=
  (events.rtakeWhile (!family.closesRecord ·)).any family.opensRecord

theorem openedSinceClosing_concat (events : List Event) (event : Event) :
    family.openedSinceClosing (events ++ [event]) =
      (!family.closesRecord event &&
        (family.openedSinceClosing events || family.opensRecord event)) := by
  cases hclose : family.closesRecord event with
  | true =>
    have hback : (events ++ [event]).rtakeWhile (!family.closesRecord ·) = [] :=
      List.rtakeWhile_concat_neg _ _ _ (by simp [hclose])
    simp [openedSinceClosing, hback]
  | false =>
    have hback : (events ++ [event]).rtakeWhile (!family.closesRecord ·) =
        events.rtakeWhile (!family.closesRecord ·) ++ [event] :=
      List.rtakeWhile_concat_pos _ _ _ (by simp [hclose])
    simp [openedSinceClosing, hback]

/-- No boundary closes inside another one. -/
def ClosesOutermost (events : List Event) : Prop :=
  ∀ front name, front ++ [.closed name] <+: events → family.isBoundary name = true →
    family.boundaryOpen (front ++ [.closed name]) = false

theorem boundaryOpen_eq_any (h : openAfter? [] events = some names) :
    family.boundaryOpen events = names.any family.isBoundary := by
  simp [boundaryOpen, h]

/-- As long as no boundary closes, those stay open that are, and others may open. -/
theorem boundaryOpen_concat {event : Event} (h : openAfter? [] (events ++ [event]) = some names)
    (hevent : family.closesRecord event = false) :
    family.boundaryOpen (events ++ [event]) =
      (family.boundaryOpen events || family.opensRecord event) := by
  obtain ⟨before, hbefore, hlast⟩ := exists_openAfter?_append h
  rw [family.boundaryOpen_eq_any h, family.boundaryOpen_eq_any hbefore]
  cases event with
  | opened name attributes =>
    obtain rfl : name :: before = names := by simpa using hlast
    rw [List.any_cons, Bool.or_comm, opensRecord]
  | text content =>
    obtain rfl : before = names := by simpa using hlast
    exact (Bool.or_false _).symm
  | closed name =>
    obtain ⟨outer, rfl, hrest⟩ := exists_outer_of_openAfter?_closed hlast
    obtain rfl : outer = names := by simpa using hrest
    have hname : family.isBoundary name = false := hevent
    rw [List.any_cons, hname, Bool.false_or]
    exact (Bool.or_false _).symm

end RecordFamily

/-! ### The flag -/

namespace Assembler

variable {β ρ : Type} {family : RecordFamily β ρ} {events : List Event} {names : List String}

theorem step_recordOpen (family : RecordFamily β ρ) (a : Assembler β ρ) (event : Event) :
    (a.step family event).recordOpen =
      (!family.closesRecord event && (a.recordOpen || family.opensRecord event)) := by
  cases event with
  | opened name attributes => simp [step, openElement_recordOpen, RecordFamily.closesRecord,
      RecordFamily.opensRecord]
  | text content => simp [step, addText_recordOpen, RecordFamily.closesRecord,
      RecordFamily.opensRecord]
  | closed name => simp [step, closeElement_recordOpen, RecordFamily.closesRecord,
      RecordFamily.opensRecord, Bool.and_comm]

/-- **What the flag says**: a boundary has opened since one has closed last. -/
theorem recordOpen_run_new (family : RecordFamily β ρ) (events : List Event) :
    ((new family).run family events).recordOpen = family.openedSinceClosing events := by
  induction events using List.reverseRecOn with
  | nil => rfl
  | append_singleton front event ih =>
    rw [run_append, run_cons, run_nil, step_recordOpen, ih,
      RecordFamily.openedSinceClosing_concat]

/-- A record is open only inside a boundary. -/
theorem boundaryOpen_of_recordOpen (hnames : openAfter? [] events = some names)
    (h : ((new family).run family events).recordOpen = true) :
    family.boundaryOpen events = true := by
  have hwithin : RecordWithin family [] (new family) := fun hopen => by simp [new] at hopen
  obtain ⟨name, hname, hboundary⟩ := hwithin.run hnames h
  rw [family.boundaryOpen_eq_any hnames]
  exact List.any_eq_true.mpr ⟨name, hname, hboundary⟩

/-- The flag says at every moment of a run whether a boundary is open. -/
def FlagTellsBoundary (family : RecordFamily β ρ) (events : List Event) : Prop :=
  ∀ front, front <+: events →
    ((new family).run family front).recordOpen = family.boundaryOpen front

/-- **The flag is right** as long as no boundary closes inside another, and no longer. -/
theorem flagTellsBoundary_iff (hnames : openAfter? [] events = some names) :
    FlagTellsBoundary family events ↔ family.ClosesOutermost events := by
  constructor
  · intro hflag front name hfront hname
    rw [← hflag _ hfront, run_append, run_cons, run_nil, step_recordOpen,
      RecordFamily.closesRecord, hname, Bool.not_true, Bool.false_and]
  · intro hcloses front
    induction front using List.reverseRecOn with
    | nil => exact fun _ => rfl
    | append_singleton before event ih =>
      intro hfront
      rw [run_append, run_cons, run_nil, step_recordOpen,
        ih ((List.prefix_append before [event]).trans hfront)]
      cases hclose : family.closesRecord event with
      | true =>
        obtain ⟨name, rfl, hname⟩ := RecordFamily.exists_of_closesRecord hclose
        rw [hcloses before name hfront hname, Bool.not_true, Bool.false_and]
      | false =>
        obtain ⟨back, rfl⟩ := hfront
        obtain ⟨inside, hinside, -⟩ := exists_openAfter?_append hnames
        rw [family.boundaryOpen_concat hinside hclose, Bool.not_false, Bool.true_and]

/-- A field is reported as a stray if and only if no record is open. -/
theorem closeElement_log_eq_push_iff {a : Assembler β ρ} {name : String}
    (hname : family.isBoundary name = false) :
    (a.closeElement family name).log = a.log.push (.strayField name) ↔ a.recordOpen = false := by
  cases hopen : a.recordOpen with
  | false => simp [closeElement, hname, hopen, report]
  | true =>
    simp only [closeElement, hname, hopen, endField]
    cases (family.assign a.draft name a.text).rejected with
    | none => simp [Diagnostic.ofRejected]
    | some rejection => simp [Diagnostic.ofRejected, Array.push_eq_push]

end Assembler

/-- **What an open record means along a scan.** A record is open if and only if a boundary has
opened since one has closed last, and then it is open inside a boundary. The converse, that a
record is open whenever a boundary is, holds at every moment if and only if no boundary closes
inside another; then no field that closes inside a boundary is reported as a stray. -/
theorem recordOpen_along_scan {β ρ : Type} (family : RecordFamily β ρ) (reply : String) :
    (∀ front, front <+: (scan reply).events →
      (((Assembler.new family).run family front).recordOpen = true ↔
        family.openedSinceClosing front = true) ∧
      (((Assembler.new family).run family front).recordOpen = true →
        family.boundaryOpen front = true)) ∧
    (Assembler.FlagTellsBoundary family (scan reply).events ↔
      family.ClosesOutermost (scan reply).events) ∧
    (family.ClosesOutermost (scan reply).events →
      ∀ front name, front ++ [.closed name] <+: (scan reply).events →
        family.isBoundary name = false → family.boundaryOpen front = true →
        ((Assembler.new family).run family (front ++ [.closed name])).log ≠
          ((Assembler.new family).run family front).log.push (.strayField name)) := by
  obtain ⟨names, hnames⟩ := exists_openAfter?_of_prefix_scan (List.prefix_refl (scan reply).events)
  refine ⟨fun front hfront => ⟨?_, fun hopen => ?_⟩, Assembler.flagTellsBoundary_iff hnames, ?_⟩
  · rw [Assembler.recordOpen_run_new]
  · obtain ⟨inside, hinside⟩ := exists_openAfter?_of_prefix_scan hfront
    exact Assembler.boundaryOpen_of_recordOpen hinside hopen
  · intro hcloses front name hfront hname hboundary hstray
    have hflag := (Assembler.flagTellsBoundary_iff hnames).mpr hcloses
    have hopen := hflag front ((List.prefix_append front _).trans hfront)
    rw [Assembler.run_append] at hstray
    have hidle := (Assembler.closeElement_log_eq_push_iff hname).mp hstray
    simp [hidle, hboundary] at hopen

/-- A message inside another one: once the inner one has closed no record is open, although the
outer one is, and what closes in the rest of it is a stray. -/
theorem recordOpen_false_behind_nested :
    let reply := "<msg><seqno>1</seqno><msg></msg><body>lost</body></msg>"
    let front : List Event := [.opened "msg" [], .opened "seqno" [], .text "1", .closed "seqno",
      .opened "msg" [], .closed "msg"]
    (scan reply).result = .ok () ∧ front <+: (scan reply).events ∧
      Message.family.boundaryOpen front = true ∧
      ((Assembler.new Message.family).run Message.family front).recordOpen = false ∧
      ¬ Assembler.FlagTellsBoundary Message.family (scan reply).events ∧
      (Message.parse reply).value = [{ Message.empty with sequenceNumber := 1 }] ∧
      (Message.parse reply).log = [.strayField "body"] := by
  intro reply front
  have hfront : front <+: (scan reply).events := by decide +kernel
  have hboundary : Message.family.boundaryOpen front = true := by decide +kernel
  have hidle : ((Assembler.new Message.family).run Message.family front).recordOpen = false := by
    decide +kernel
  refine ⟨by decide +kernel, hfront, hboundary, hidle, fun hflag => ?_, by decide +kernel,
    by decide +kernel⟩
  have hopen := hflag front hfront
  simp [hidle, hboundary] at hopen

end DaemonReply
