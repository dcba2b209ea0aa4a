import DaemonReply.Proofs.Calls
import DaemonReply.Proofs.Frame
import DaemonReply.Proofs.LetterCase
import DaemonReply.Proofs.NestedBoundary

/-!
# Nothing is lost silently

What a reply contains and what is made of it balance. A reply with sound markup is a document
(`Document`), and each of its elements is accounted for exactly once:

* a boundary element without another one inside ends a record, which is kept or reported as
  incomplete. A boundary element with another one inside ends none: the inner one has ended the
  record, and no record is open any more when the outer one closes;
* any other element is either assigned to the open record, or reported as a stray.

How often a family is asked to assign is counted by asking another family in its place, one that
does the same and reports what it is asked (`RecordFamily.watching`). Both go through the same
states (`Assembler.SameState.step_watching`).

Main statement: the balance of every reply (`nothing_lost_silently`).
-/

namespace DaemonReply

open Markup Markup.Event Value

/-! ### Documents -/

/-- The elements and texts of a reply, as a tree. -/
inductive Document where
  | empty
  | text (content : String) (rest : Document)
  | element (name : String) (attributes : List Attribute) (inner rest : Document)

namespace Document

/-- What is heard of a document. -/
def events : Document → List Event
  | empty => []
  | text content rest => .text content :: rest.events
  | element name attributes inner rest =>
    .opened name attributes :: (inner.events ++ .closed name :: rest.events)

/-- The number of elements whose name is of a kind. -/
def count (kind : String → Bool) : Document → Nat
  | empty => 0
  | text _ rest => rest.count kind
  | element name _ inner rest =>
    (if kind name then 1 else 0) + inner.count kind + rest.count kind

/-- The number of elements of a kind that contain no other of that kind. -/
def innermost (kind : String → Bool) : Document → Nat
  | empty => 0
  | text _ rest => rest.innermost kind
  | element name _ inner rest =>
    (if kind name && inner.count kind == 0 then 1 else 0) + inner.innermost kind +
      rest.innermost kind

/-- **Balanced events** are those of a document. -/
theorem exists_of_balanced {events : List Event} (h : Balanced events) :
    ∃ doc : Document, doc.events = events := by
  induction h with
  | nil => exact ⟨empty, rfl⟩
  | text content _ ih =>
    obtain ⟨rest, rfl⟩ := ih
    exact ⟨text content rest, rfl⟩
  | element name attributes _ _ ihinner ihrest =>
    obtain ⟨inner, rfl⟩ := ihinner
    obtain ⟨rest, rfl⟩ := ihrest
    exact ⟨element name attributes inner rest, rfl⟩

end Document

/-- Whether an event is the closing of an element of a kind. -/
def Markup.Event.closes (kind : String → Bool) : Event → Bool
  | .closed name => kind name
  | _ => false

/-- Every element closes once. -/
theorem Document.countP_closes (kind : String → Bool) (doc : Document) :
    doc.events.countP (closes kind) = doc.count kind := by
  induction doc with
  | empty => rfl
  | text content rest ih => simpa [events, count, closes] using ih
  | element name attributes inner rest ihinner ihrest =>
    have hopened : closes kind (.opened name attributes) ≠ true := Bool.false_ne_true
    rw [events, List.countP_cons_of_neg hopened, List.countP_append, List.countP_cons, ihinner,
      ihrest, count, closes]
    omega

/-! ### Counting diagnostics -/

/-- The number of diagnostics that say a message. -/
def countMessage (message : String) (log : List Diagnostic) : Nat :=
  log.countP (·.message == message)

/-- The diagnostics of texts that could not be read. -/
def countUnreadable (log : List Diagnostic) : Nat :=
  countMessage "ignoring unparseable numeric value" log

/-- The diagnostics of records that were not complete. -/
def countIncomplete (log : List Diagnostic) : Nat :=
  countMessage "dropping incomplete record" log

/-- The diagnostics of fields outside any record. -/
def countStray (log : List Diagnostic) : Nat :=
  countMessage "ignoring field outside any record" log

theorem countMessage_append (message : String) (front back : List Diagnostic) :
    countMessage message (front ++ back) =
      countMessage message front + countMessage message back :=
  List.countP_append

namespace Assembler

variable {β ρ : Type} {family : RecordFamily β ρ} {a a' : Assembler β ρ}

/-- What an event makes an assembler report. -/
def reports (family : RecordFamily β ρ) (a : Assembler β ρ) : Event → List Diagnostic
  | .closed name =>
    if family.isBoundary name then
      if a.recordOpen && (family.complete a.draft).isNone then
        [.incompleteRecord family.boundary]
      else []
    else if a.recordOpen then
      Diagnostic.ofRejected (family.assign a.draft name a.text).rejected
    else [.strayField name]
  | _ => []

/-- **One event** adds to the log what it makes the assembler report. -/
theorem step_log (family : RecordFamily β ρ) (a : Assembler β ρ) (event : Event) :
    (a.step family event).log.toList = a.log.toList ++ a.reports family event := by
  cases event with
  | opened name attributes =>
    simp only [step, openElement, reports]
    split
    · simp
    · split <;> simp
  | text content =>
    simp only [step, addText, reports]
    split <;> simp
  | closed name =>
    simp only [step, closeElement, reports]
    rcases family.isBoundary name with _ | _
    · rcases a.recordOpen with _ | _ <;> simp [endField, report]
    · rcases a.recordOpen with _ | _
      · simp
      · rcases hrecord : family.complete a.draft with _ | record <;>
          simp [endRecord, hrecord, report]

theorem countMessage_step (message : String) (family : RecordFamily β ρ) (a : Assembler β ρ)
    (event : Event) : countMessage message (a.step family event).log.toList =
      countMessage message a.log.toList + countMessage message (a.reports family event) := by
  rw [step_log, countMessage_append]

/-- The assignment that an event leads to, if it is of a kind, as a number. -/
def assigns (family : RecordFamily β ρ) (kind : β → String → String → Bool)
    (a : Assembler β ρ) : Event → Nat
  | .closed name =>
    if !family.isBoundary name && a.recordOpen && kind a.draft name a.text then 1 else 0
  | _ => 0

/-- **What an event is reported as**: a text that is assigned and rejected as unreadable, a record
that ends without being complete as incomplete, and any other closing outside a record as a
stray. -/
theorem count_reports (family : RecordFamily β ρ) (a : Assembler β ρ) (event : Event) :
    countUnreadable (a.reports family event) = a.assigns family
        (fun draft name text => (family.assign draft name text).rejected.isSome) event ∧
      countIncomplete (a.reports family event) =
        (if family.closesRecord event && a.recordOpen && (family.complete a.draft).isNone then 1
          else 0) ∧
      countStray (a.reports family event) =
        if closes (fun name => !family.isBoundary name) event && !a.recordOpen then 1 else 0 := by
  cases event with
  | opened name attributes => exact ⟨rfl, rfl, rfl⟩
  | text content => exact ⟨rfl, rfl, rfl⟩
  | closed name =>
    rw [countUnreadable, countIncomplete, countStray, assigns, closes, RecordFamily.closesRecord]
    rcases hname : family.isBoundary name with _ | _ <;> rcases hopen : a.recordOpen with _ | _
    · simp [reports, hname, hopen, countMessage, Diagnostic.message]
    · rcases hrejected : (family.assign a.draft name a.text).rejected with _ | rejection <;>
        simp [reports, hname, hopen, hrejected, countMessage, Diagnostic.ofRejected,
          Diagnostic.message]
    · simp [reports, hname, hopen, countMessage]
    · rcases hrecord : family.complete a.draft with _ | record <;>
        simp [reports, hname, hopen, hrecord, countMessage, Diagnostic.message]

/-- No event makes an assembler warn, or report the loss of a reply. -/
theorem level_reports {event : Event} {d : Diagnostic} (h : d ∈ a.reports family event) :
    d.level ≠ .warn ∧ d.message ≠ "discarding unparseable rpc reply" := by
  cases event with
  | opened name attributes => exact absurd h List.not_mem_nil
  | text content => exact absurd h List.not_mem_nil
  | closed name =>
    simp only [reports] at h
    split at h
    · split at h
      · rw [List.mem_singleton.mp h]
        simp [Diagnostic.level, Diagnostic.message]
      · exact absurd h List.not_mem_nil
    · split at h
      · obtain ⟨rejection, -, rfl⟩ : ∃ rejection, _ ∧ Diagnostic.unreadableValue rejection = d := by
          simpa [Diagnostic.ofRejected] using h
        simp [Diagnostic.level, Diagnostic.message]
      · rw [List.mem_singleton.mp h]
        simp [Diagnostic.level, Diagnostic.message]

theorem level_run {events : List Event} (hlog : ∀ d ∈ a.log.toList,
      d.level ≠ .warn ∧ d.message ≠ "discarding unparseable rpc reply") :
    ∀ d ∈ (a.run family events).log.toList,
      d.level ≠ .warn ∧ d.message ≠ "discarding unparseable rpc reply" := by
  induction events generalizing a with
  | nil => exact hlog
  | cons event events ih =>
    refine ih ?_
    rw [step_log]
    exact List.forall_mem_append.mpr ⟨hlog, fun d hd => level_reports hd⟩

/-! ### Records kept and records dropped -/

/-- The number of records that have ended, kept or not. -/
def ended (a : Assembler β ρ) : Nat :=
  a.records.size + countIncomplete a.log.toList

/-- A record is kept when it ends and is complete. -/
theorem size_records_step (family : RecordFamily β ρ) (a : Assembler β ρ) (event : Event) :
    (a.step family event).records.size = a.records.size +
      if family.closesRecord event && a.recordOpen && (family.complete a.draft).isSome then 1
      else 0 := by
  rw [← Array.length_toList, step_records_toList, List.length_append, Array.length_toList]
  rcases family.closesRecord event with _ | _
  · simp
  · rcases a.recordOpen with _ | _
    · simp
    · rcases family.complete a.draft with _ | record <;> simp

/-- **A record ends** when a boundary closes while one is open: it is kept or reported. -/
theorem ended_step (family : RecordFamily β ρ) (a : Assembler β ρ) (event : Event) :
    (a.step family event).ended =
      a.ended + if family.closesRecord event && a.recordOpen then 1 else 0 := by
  have hsize := size_records_step family a event
  have hlog : countIncomplete (a.step family event).log.toList =
      countIncomplete a.log.toList + countIncomplete (a.reports family event) :=
    countMessage_step _ family a event
  obtain ⟨-, hincomplete, -⟩ := count_reports family a event
  rw [ended, hlog, ended, hsize, hincomplete]
  rcases family.complete a.draft with _ | record
  · simp only [Option.isSome_none, Option.isNone_none, Bool.and_false, Bool.and_true,
      Bool.false_eq_true, if_false, Nat.add_zero, Nat.add_assoc]
  · simp only [Option.isSome_some, Option.isNone_some, Bool.and_false, Bool.and_true,
      Bool.false_eq_true, if_false, Nat.add_zero, Nat.add_right_comm]

/-- **Over a document** a record ends for every boundary element without another one inside, and
one is still open if one was before and no boundary element has closed. -/
theorem ended_run (family : RecordFamily β ρ) (a : Assembler β ρ) (doc : Document) :
    (a.run family doc.events).ended = a.ended + doc.innermost family.isBoundary ∧
      (a.run family doc.events).recordOpen =
        (a.recordOpen && doc.count family.isBoundary == 0) := by
  induction doc generalizing a with
  | empty => simp [Document.events, Document.innermost, Document.count]
  | text content rest ih =>
    obtain ⟨hended, hopen⟩ := ih (a.step family (.text content))
    rw [ended_step] at hended
    rw [step_recordOpen] at hopen
    rw [Document.events, run_cons, hended, hopen]
    simp [Document.innermost, Document.count, RecordFamily.closesRecord,
      RecordFamily.opensRecord]
  | element name attributes inner rest ihinner ihrest =>
    have hopened := ended_step family a (.opened name attributes)
    obtain ⟨hinner, hinnerOpen⟩ := ihinner (a.step family (.opened name attributes))
    have hclosed := ended_step family
      ((a.step family (.opened name attributes)).run family inner.events) (.closed name)
    obtain ⟨hrest, hrestOpen⟩ := ihrest
      (((a.step family (.opened name attributes)).run family inner.events).step family
        (.closed name))
    rw [Document.events, run_cons, run_append, run_cons, hrest, hrestOpen, hclosed, hinner,
      step_recordOpen, hinnerOpen, step_recordOpen, hopened]
    -- a boundary ends a record if and only if no other one inside has ended it before
    rcases hname : family.isBoundary name with _ | _
    · simp only [Document.innermost, Document.count, RecordFamily.closesRecord,
        RecordFamily.opensRecord, hname, Bool.false_and, Bool.or_false, Bool.not_false,
        Bool.true_and, Bool.false_eq_true, if_false, Nat.add_zero, Nat.zero_add]
      refine ⟨Nat.add_assoc _ _ _, ?_⟩
      rw [Bool.and_assoc, Bool.eq_iff_iff]
      simp
    · simp only [Document.innermost, Document.count, RecordFamily.closesRecord,
        RecordFamily.opensRecord, hname, Bool.false_and, Bool.or_true, Bool.not_false,
        Bool.true_and, Bool.false_eq_true, if_false, if_true, Nat.add_zero, Bool.not_true]
      exact ⟨by omega, by simp⟩

end Assembler

/-! ### Counting what a family is asked -/

namespace RecordFamily

variable {β ρ : Type}

/-- A family that does the same as another, and reports whatever it is asked to assign if that is
of a kind. The kind may depend on the draft, the name and the text. -/
def watching (family : RecordFamily β ρ) (kind : β → String → String → Bool) :
    RecordFamily β ρ :=
  { family with
    assign := fun draft name text =>
      ⟨(family.assign draft name text).value,
        if kind draft name text then some ⟨name, text⟩ else none⟩ }

/-- How often a family is asked to assign something of a kind while a reply is read. -/
def assignCount (family : RecordFamily β ρ) (kind : β → String → String → Bool)
    (reply : String) : Nat :=
  countUnreadable ((family.watching kind).parse reply).log

@[simp] theorem isBoundary_watching (family : RecordFamily β ρ)
    (kind : β → String → String → Bool) (name : String) :
    (family.watching kind).isBoundary name = family.isBoundary name := rfl

end RecordFamily

namespace Assembler

variable {β ρ : Type} {family : RecordFamily β ρ} {kind : β → String → String → Bool}
  {a a' : Assembler β ρ} {events : List Event}

/-- **To watch changes nothing** but what is reported. -/
theorem SameState.step_watching (h : a.SameState a') (event : Event) :
    (a.step family event).SameState (a'.step (family.watching kind) event) := by
  cases event with
  | opened name attributes =>
    obtain ⟨⟨hdraft, hopen, hrecords⟩, -, -⟩ := h
    simp only [Assembler.step, openElement, RecordFamily.isBoundary_watching, hopen, hdraft]
    split
    · exact ⟨⟨rfl, rfl, hrecords⟩, rfl, rfl⟩
    · by_cases hname : family.isBoundary name = true
      · simp only [hname, if_true]
        exact ⟨⟨rfl, rfl, hrecords⟩, rfl, rfl⟩
      · simp only [hname]
        exact ⟨⟨rfl, rfl, hrecords⟩, rfl, rfl⟩
  | text content => exact h.addText content
  | closed name =>
    obtain ⟨⟨hdraft, hopen, hrecords⟩, htext, -⟩ := h
    simp only [Assembler.step, closeElement, RecordFamily.isBoundary_watching, hopen]
    split
    · split
      · have hcomplete : (family.watching kind).complete a'.draft = family.complete a.draft := by
          rw [hdraft]
          rfl
        simp only [endRecord, hcomplete]
        split
        · exact ⟨⟨rfl, rfl, by simp only [hrecords]⟩, htext, rfl⟩
        · exact ⟨⟨rfl, rfl, hrecords⟩, htext, rfl⟩
      · exact ⟨⟨hdraft, hopen, hrecords⟩, htext, rfl⟩
    · split
      · refine ⟨⟨?_, hopen, hrecords⟩, htext, rfl⟩
        simp [endField, RecordFamily.watching, hdraft, htext]
      · exact ⟨⟨hdraft, hopen, hrecords⟩, htext, rfl⟩

/-- A field that closes is assigned or reported as a stray. -/
theorem countStray_reports (family : RecordFamily β ρ) (a : Assembler β ρ) (event : Event) :
    countStray (a.reports family event) + a.assigns family (fun _ _ _ => true) event =
      if closes (fun name => !family.isBoundary name) event then 1 else 0 := by
  obtain ⟨-, -, hstray⟩ := count_reports family a event
  rw [hstray]
  cases event with
  | opened name attributes => rfl
  | text content => rfl
  | closed name => rcases hopen : a.recordOpen with _ | _ <;> simp [closes, assigns, hopen]

/-- What a watching family reports as unreadable is what the other one is asked to assign. -/
theorem SameState.countUnreadable_reports_watching (h : a.SameState a') (event : Event) :
    countUnreadable (a'.reports (family.watching kind) event) = a.assigns family kind event := by
  rw [(count_reports _ a' event).1]
  cases event with
  | opened name attributes => rfl
  | text content => rfl
  | closed name =>
    rcases hkind : kind a.draft name a.text with _ | _ <;>
      simp [assigns, RecordFamily.watching, RecordFamily.isBoundary, ← h.recordOpen_eq,
        ← h.draft_eq, ← h.text_eq, hkind]

/-- **Strays and assignments** make up the fields that close in a run. -/
theorem SameState.countStray_run (h : a.SameState a') (family : RecordFamily β ρ)
    (events : List Event) :
    countStray (a.run family events).log.toList +
        countUnreadable (a'.run (family.watching fun _ _ _ => true) events).log.toList =
      countStray a.log.toList + countUnreadable a'.log.toList +
        events.countP (closes fun name => !family.isBoundary name) := by
  induction events generalizing a a' with
  | nil => rfl
  | cons event events ih =>
    have hwatched : (a.step family event).SameState
        (a'.step (family.watching fun _ _ _ => true) event) := h.step_watching event
    have hrest := ih hwatched
    have hreports := countStray_reports family a event
    rw [← h.countUnreadable_reports_watching event] at hreports
    have hstray : countStray (a.step family event).log.toList =
        countStray a.log.toList + countStray (a.reports family event) :=
      countMessage_step _ family a event
    have hunreadable :
        countUnreadable (a'.step (family.watching fun _ _ _ => true) event).log.toList =
          countUnreadable a'.log.toList +
            countUnreadable (a'.reports (family.watching fun _ _ _ => true) event) :=
      countMessage_step _ _ a' event
    rw [run_cons, run_cons, List.countP_cons]
    omega

/-- **Unreadable texts** are the assignments of the kind that a family cannot read. -/
theorem SameState.countUnreadable_run (h : a.SameState a')
    (hkind : ∀ draft name text, (family.assign draft name text).rejected.isSome =
      kind draft name text)
    (hlog : countUnreadable a.log.toList = countUnreadable a'.log.toList) (events : List Event) :
    countUnreadable (a.run family events).log.toList =
      countUnreadable (a'.run (family.watching kind) events).log.toList := by
  induction events generalizing a a' with
  | nil => exact hlog
  | cons event events ih =>
    refine ih (h.step_watching event) ?_
    have hreports := (count_reports family a event).1
    simp only [hkind] at hreports
    calc countUnreadable (a.step family event).log.toList
      _ = countUnreadable a.log.toList + countUnreadable (a.reports family event) :=
        countMessage_step _ family a event
      _ = countUnreadable a'.log.toList +
          countUnreadable (a'.reports (family.watching kind) event) := by
        rw [hlog, hreports, h.countUnreadable_reports_watching]
      _ = countUnreadable (a'.step (family.watching kind) event).log.toList :=
        (countMessage_step _ _ a' event).symm

end Assembler

/-! ### Whole replies -/

namespace RecordFamily

variable {β ρ : Type} (family : RecordFamily β ρ) (origin : Origin) {reply : String}

theorem parseFor_of_ok (h : (scan reply).result = .ok ()) :
    family.parseFor origin reply =
      ⟨((Assembler.new family).run family (scan reply).events).records.toList,
        ((Assembler.new family).run family (scan reply).events).log.toList⟩ := by
  simp only [parseFor, Assembler.read, h]

theorem parseFor_of_error {error : ScanError} (h : (scan reply).result = .error error) :
    family.parseFor origin reply =
      ⟨[], ((Assembler.new family).run family (scan reply).events).log.toList ++
        [.discardedReply origin family.boundary error]⟩ := by
  simp only [parseFor, Assembler.read, h]

/-- That a reply was lost is no text that could not be read. -/
theorem countUnreadable_parseFor (reply : String) :
    countUnreadable (family.parseFor origin reply).log =
      countUnreadable ((Assembler.new family).run family (scan reply).events).log.toList := by
  rcases hresult : (scan reply).result with error | ⟨⟩
  · rw [parseFor_of_error family origin hresult, countUnreadable, countMessage_append]
    simp [countUnreadable, countMessage, Diagnostic.message]
  · rw [parseFor_of_ok family origin hresult]

theorem countUnreadable_parseFor_eq_assignCount {kind : β → String → String → Bool}
    (hkind : ∀ draft name text, (family.assign draft name text).rejected.isSome =
      kind draft name text) (reply : String) :
    countUnreadable (family.parseFor origin reply).log = family.assignCount kind reply := by
  have hsame : (Assembler.new family).SameState (Assembler.new (family.watching kind)) :=
    ⟨⟨rfl, rfl, rfl⟩, rfl, rfl⟩
  rw [assignCount, parse, countUnreadable_parseFor, countUnreadable_parseFor]
  exact hsame.countUnreadable_run hkind rfl _

/-- **The balance of a document.** -/
theorem accounted_for (h : (scan reply).result = .ok ()) {doc : Document}
    (hdoc : doc.events = (scan reply).events) :
    (family.parseFor origin reply).value.length +
        countIncomplete (family.parseFor origin reply).log = doc.innermost family.isBoundary ∧
      doc.count (fun name => !family.isBoundary name) =
        family.assignCount (fun _ _ _ => true) reply +
          countStray (family.parseFor origin reply).log := by
  have hsame : (Assembler.new family).SameState
      (Assembler.new (family.watching fun _ _ _ => true)) := ⟨⟨rfl, rfl, rfl⟩, rfl, rfl⟩
  rw [assignCount, parse, countUnreadable_parseFor, parseFor_of_ok family origin h, ← hdoc]
  constructor
  · have hended := ((Assembler.new family).ended_run family doc).1
    simpa [Assembler.ended, Assembler.new, countIncomplete, countMessage] using hended
  · have hstray := hsame.countStray_run family doc.events
    rw [doc.countP_closes] at hstray
    have hnone : countStray (Assembler.new family).log.toList +
        countUnreadable (Assembler.new (family.watching fun _ _ _ => true)).log.toList = 0 := rfl
    dsimp only
    omega

end RecordFamily

/-! ### Texts that cannot be read -/

/-- Whether a message cannot read a text that stands under a name. -/
def Message.isUnreadable (_ : Message) (name text : String) : Bool :=
  (isOneOf ["pri", "priority", "seqno"] name && (readInt32? text).isNone) ||
    (isOneOf ["time", "timestamp"] name && (readSeconds? text).isNone)

/-- Whether an application version cannot read a text that stands under a name. -/
def AppVersion.isUnreadable (_ : AppVersion) (name text : String) : Bool :=
  isOneOf ["version_num"] name && (readInt32? text).isNone

/-- Whether a transfer cannot read a text that stands under a name. A persisted count is not even
read if there is a count other than zero. -/
def Transfer.isUnreadable (t : Transfer) (name text : String) : Bool :=
  (isOneOf ["generated_locally", "is_upload"] name && (readFlag? text).isNone) ||
    (isOneOf ["status"] name && (readInt32? text).isNone) ||
    (isOneOf ["nbytes", "time_so_far", "next_request_time", "project_backoff", "bytes_xferred",
      "xfer_speed"] name && (readSeconds? text).isNone) ||
    (isOneOf ["last_bytes_xferred"] name && t.bytesTransferred == 0 && (readSeconds? text).isNone)

theorem Message.rejected_assign (m : Message) (name text : String) :
    (family.assign m name text).rejected.isSome = m.isUnreadable name text := by
  have hnumber : isOneOf ["pri", "priority", "seqno"] name =
      (fields.find? name).any ([Field.priority, .sequenceNumber].contains ·) :=
    FieldTable.isOneOf_flatMap_keysOf byTable.lower [Field.priority, .sequenceNumber] name
  have htime : isOneOf ["time", "timestamp"] name =
      (fields.find? name).any ([Field.time].contains ·) :=
    FieldTable.isOneOf_flatMap_keysOf byTable.lower [Field.time] name
  rw [isUnreadable, hnumber, htime, byTable.assign_eq]
  rcases fields.find? name with _ | field
  · rfl
  · cases field <;> simp [set]

theorem AppVersion.rejected_assign (v : AppVersion) (name text : String) :
    (family.assign v name text).rejected.isSome = v.isUnreadable name text := by
  have hnumber : isOneOf ["version_num"] name =
      (fields.find? name).any ([Field.versionNumber].contains ·) :=
    FieldTable.isOneOf_flatMap_keysOf byTable.lower [Field.versionNumber] name
  rw [isUnreadable, hnumber, byTable.assign_eq]
  rcases fields.find? name with _ | field
  · rfl
  · cases field <;> simp [set]

theorem Transfer.rejected_assign (t : Transfer) (name text : String) :
    (family.assign t name text).rejected.isSome = t.isUnreadable name text := by
  have hflag : isOneOf ["generated_locally", "is_upload"] name =
      (fields.find? name).any ([Field.generatedLocally, .isUpload].contains ·) :=
    FieldTable.isOneOf_flatMap_keysOf byTable.lower [Field.generatedLocally, .isUpload] name
  have hstatus : isOneOf ["status"] name = (fields.find? name).any ([Field.status].contains ·) :=
    FieldTable.isOneOf_flatMap_keysOf byTable.lower [Field.status] name
  have hcount : isOneOf ["nbytes", "time_so_far", "next_request_time", "project_backoff",
      "bytes_xferred", "xfer_speed"] name = (fields.find? name).any
        ([Field.size, .timeSoFar, .nextRequestTime, .projectBackoff, .liveBytes, .speed].contains
          ·) :=
    FieldTable.isOneOf_flatMap_keysOf byTable.lower
      [Field.size, .timeSoFar, .nextRequestTime, .projectBackoff, .liveBytes, .speed] name
  have hpersisted : isOneOf ["last_bytes_xferred"] name =
      (fields.find? name).any ([Field.persistedBytes].contains ·) :=
    FieldTable.isOneOf_flatMap_keysOf byTable.lower [Field.persistedBytes] name
  rw [isUnreadable, hflag, hstatus, hcount, hpersisted, byTable.assign_eq]
  rcases fields.find? name with _ | field
  · rfl
  · by_cases hzero : t.bytesTransferred = 0 <;> cases field <;> simp [set, hzero]

/-- **Nothing is lost silently.** If the markup of a reply is sound, no warning is reported, and the
reply is a document all of whose elements are accounted for: the records that are returned and
those reported as incomplete are as many as the boundary elements without another boundary element
inside, and the assignments and the strays reported are as many as the other elements. If the
markup is broken, nothing is returned, and the one warning, that the reply is discarded, comes
last. In either case the texts of messages, application versions and transfers that are reported
as unreadable are those assigned that cannot be read. -/
theorem nothing_lost_silently :
    (∀ {β ρ : Type} (family : RecordFamily β ρ) (origin : Origin) (reply : String),
      let parsed := family.parseFor origin reply
      ((scan reply).result = .ok () →
        (∀ d ∈ parsed.log, d.level ≠ .warn ∧ d.message ≠ "discarding unparseable rpc reply") ∧
        (∃ doc : Document, doc.events = (scan reply).events) ∧
        ∀ doc : Document, doc.events = (scan reply).events →
          parsed.value.length + countIncomplete parsed.log = doc.innermost family.isBoundary ∧
          doc.count (fun name => !family.isBoundary name) =
            family.assignCount (fun _ _ _ => true) reply + countStray parsed.log) ∧
      ∀ error, (scan reply).result = .error error →
        parsed.value = [] ∧ ∃ before last, parsed.log = before ++ [last] ∧
          last.level = .warn ∧ last.message = "discarding unparseable rpc reply" ∧
          ∀ d ∈ before, d.level ≠ .warn ∧ d.message ≠ "discarding unparseable rpc reply") ∧
    ∀ reply,
      countUnreadable (Message.parse reply).log =
        Message.family.assignCount Message.isUnreadable reply ∧
      countUnreadable (AppVersion.parse reply).log =
        AppVersion.family.assignCount AppVersion.isUnreadable reply ∧
      countUnreadable (Transfer.parse reply).log =
        Transfer.family.assignCount Transfer.isUnreadable reply := by
  refine ⟨fun family origin reply => ⟨fun hok => ⟨?_, ?_, fun doc hdoc => ?_⟩,
    fun error herror => ?_⟩, fun reply => ⟨?_, ?_, ?_⟩⟩
  · rw [family.parseFor_of_ok origin hok]
    exact Assembler.level_run (fun d hd => absurd hd (by simp [Assembler.new]))
  · exact Document.exists_of_balanced ((scan_nested reply).1 hok)
  · exact family.accounted_for origin hok hdoc
  · rw [family.parseFor_of_error origin herror]
    exact ⟨rfl, _, _, rfl, rfl, rfl,
      Assembler.level_run (fun d hd => absurd hd (by simp [Assembler.new]))⟩
  · exact Message.family.countUnreadable_parseFor_eq_assignCount _ Message.rejected_assign reply
  · exact AppVersion.family.countUnreadable_parseFor_eq_assignCount _ AppVersion.rejected_assign
      reply
  · exact Transfer.family.countUnreadable_parseFor_eq_assignCount _ Transfer.rejected_assign reply

/-- A reply in which a message ends inside another one, with a field behind it that nobody gets,
and one that is broken. -/
theorem nothing_lost_silently_sample :
    let reply := "<msg><msg><seqno>x</seqno></msg><pri>1</pri></msg>"
    let parsed := Message.family.parse reply
    (parsed.value.length + countIncomplete parsed.log = 1 ∧
        2 = Message.family.assignCount (fun _ _ _ => true) reply + countStray parsed.log) ∧
      countUnreadable parsed.log = Message.family.assignCount Message.isUnreadable reply ∧
      (Message.family.parse "<msg>").value = [] := by
  intro reply parsed
  obtain ⟨hreplies, hunreadable⟩ := nothing_lost_silently
  let doc : Document := .element "msg" [] (.element "msg" [] (.element "seqno" [] (.text "x" .empty)
    .empty) (.element "pri" [] (.text "1" .empty) .empty)) .empty
  have hscan : (scan reply).result = .ok () ∧ doc.events = (scan reply).events := by
    decide +kernel
  have hbroken : (scan "<msg>").result = .error (.unclosed 1) := rfl
  obtain ⟨-, -, hbalance⟩ := (hreplies Message.family .assembly reply).1 hscan.1
  have hinnermost : doc.innermost Message.family.isBoundary = 1 := by decide +kernel
  have hcount : doc.count (fun name => !Message.family.isBoundary name) = 2 := by decide +kernel
  refine ⟨?_, (hunreadable reply).1, ?_⟩
  · rw [← hinnermost, ← hcount]
    exact hbalance doc hscan.2
  · exact ((hreplies Message.family .assembly "<msg>").2 _ hbroken).1

end DaemonReply
