import DaemonReply.Diagnostic.Basic
import DaemonReply.Markup.Scanner
import DaemonReply.Record.Family

/-!
# Assembling records from events

An **assembler** takes markup events one at a time and turns them into the records of one family.
It knows whether a record is open, keeps the draft of that record, and collects the text of the
latest leaf, an element being a leaf from its opening to the next closing:

* a boundary opens while no record is open: a record begins, from the blank draft;
* anything else opens: a leaf begins, its text empty, and the family may take note of it;
* text belongs to the leaf, or to nothing if there is none;
* a boundary closes: the open record ends, and is kept if its draft is complete;
* anything else closes: it is a field of the open record, with the text collected last, and a
  stray outside any record.

A stray never reaches a draft, so no value leaks into a record from the markup around it. Each
kind of loss is reported: incomplete records, strays, and field texts that could not be read.
-/

namespace DaemonReply

open Markup Value

/-- The state between two events. -/
structure Assembler (β ρ : Type) where
  /-- The open record so far, or the blank draft. -/
  draft : β
  /-- The text collected for the latest leaf. -/
  text : String := ""
  /-- Whether text is being collected. -/
  leafOpen : Bool := false
  /-- Whether a record is open. -/
  recordOpen : Bool := false
  /-- The records kept, in the order in which they ended. -/
  records : Array ρ := #[]
  /-- The diagnostics reported, in order. -/
  log : Array Diagnostic := #[]

namespace Assembler

variable {β ρ : Type}

/-- The state before any event. -/
def new (family : RecordFamily β ρ) : Assembler β ρ :=
  { draft := family.blank }

/-- Reports a diagnostic. -/
def report (a : Assembler β ρ) (diagnostic : Diagnostic) : Assembler β ρ :=
  { a with log := a.log.push diagnostic }

/-! ### The three kinds of events -/

/-- An element opens. -/
def openElement (family : RecordFamily β ρ) (a : Assembler β ρ) (name : String) :
    Assembler β ρ :=
  if a.recordOpen then
    { a with draft := family.enter a.draft name, leafOpen := true, text := "" }
  else if family.isBoundary name then
    { a with draft := family.blank, recordOpen := true, leafOpen := false, text := "" }
  else { a with leafOpen := true, text := "" }

/-- Character data arrives. -/
def addText (a : Assembler β ρ) (content : String) : Assembler β ρ :=
  if a.leafOpen then { a with text := a.text ++ content } else a

/-- The open record ends. -/
def endRecord (family : RecordFamily β ρ) (a : Assembler β ρ) : Assembler β ρ :=
  match family.complete a.draft with
  | some record =>
    { a with draft := family.blank, recordOpen := false, records := a.records.push record }
  | none =>
    { a with draft := family.blank, recordOpen := false }.report
      (.incompleteRecord family.boundary)

/-- A field of the open record ends. -/
def endField (family : RecordFamily β ρ) (a : Assembler β ρ) (name : String) : Assembler β ρ :=
  let stored := family.assign a.draft name a.text
  { a with
    draft := stored.value
    log := a.log ++ Diagnostic.ofRejected stored.rejected }

/-- An element closes, and with it any leaf. -/
def closeElement (family : RecordFamily β ρ) (a : Assembler β ρ) (name : String) :
    Assembler β ρ :=
  let closed :=
    if family.isBoundary name then
      if a.recordOpen then a.endRecord family else a
    else if a.recordOpen then a.endField family name
    else a.report (.strayField name)
  { closed with leafOpen := false }

/-- Every opening empties the text. -/
@[simp] theorem openElement_text (family : RecordFamily β ρ) (a : Assembler β ρ) (name : String) :
    (a.openElement family name).text = "" := by
  unfold openElement
  split
  · rfl
  · split <;> rfl

/-- After a closing no text is collected. -/
@[simp] theorem closeElement_leafOpen (family : RecordFamily β ρ) (a : Assembler β ρ)
    (name : String) : (a.closeElement family name).leafOpen = false := rfl

/-- A closing leaves the text collected last as it was. -/
@[simp] theorem closeElement_text (family : RecordFamily β ρ) (a : Assembler β ρ)
    (name : String) : (a.closeElement family name).text = a.text := by
  simp only [closeElement, endRecord, endField, report]
  split
  · split
    · split <;> rfl
    · rfl
  · split <;> rfl

/-! ### Runs of events -/

/-- Takes one event. -/
def step (family : RecordFamily β ρ) (a : Assembler β ρ) : Event → Assembler β ρ
  | .opened name _ => a.openElement family name
  | .text content => a.addText content
  | .closed name => a.closeElement family name

/-- Takes events in order. -/
def run (family : RecordFamily β ρ) (a : Assembler β ρ) (events : List Event) : Assembler β ρ :=
  events.foldl (step family) a

@[simp] theorem run_nil (family : RecordFamily β ρ) (a : Assembler β ρ) :
    a.run family [] = a := rfl

@[simp] theorem run_cons (family : RecordFamily β ρ) (a : Assembler β ρ) (event : Event)
    (events : List Event) :
    a.run family (event :: events) = (a.step family event).run family events := rfl

/-- **Events may come in pieces.** -/
theorem run_append (family : RecordFamily β ρ) (a : Assembler β ρ) (front back : List Event) :
    a.run family (front ++ back) = (a.run family front).run family back := by
  simp [run]

/-- Takes all events of a reply, also those before a fault in its markup, and tells whether the
markup was sound. -/
def read (family : RecordFamily β ρ) (a : Assembler β ρ) (reply : String) :
    Assembler β ρ × Except ScanError Unit :=
  let outcome := scan reply
  (a.run family outcome.events, outcome.result)

end Assembler

end DaemonReply
