import DaemonReply.Record.Parse
import DaemonReply.Value.Numeral

/-!
# Messages of the event log

A reply about the event log holds one `<msg>` block for every message. A message is kept if its
sequence number was set; every other field falls back to its default when it is missing or
cannot be read.
-/

namespace DaemonReply

open Value

/-- A message that the daemon has logged. -/
structure Message where
  /-- The place in the event log, `Message.unset` if it was never set. -/
  sequenceNumber : Int32
  /-- The severity class, `Message.unset` if it was never set. -/
  priority : Int32
  /-- The project that the message is about; empty for the daemon's own messages. -/
  project : String := ""
  /-- Whole seconds since the epoch. -/
  timestamp : Int64 := 0
  body : String := ""
  deriving DecidableEq, Repr

namespace Message

/-- The number that stands for a number never set. -/
def unset : Int32 := -1

/-- The message before any field. -/
def empty : Message :=
  { sequenceNumber := unset, priority := unset }

instance : Inhabited Message := ⟨empty⟩

/-- Whether the sequence number was set. -/
def isNumbered (m : Message) : Bool :=
  m.sequenceNumber != unset

/-- The fields of a message. -/
inductive Field where
  | body
  | priority
  | project
  | time
  | sequenceNumber
  deriving DecidableEq, Repr

/-- The names of the fields; two of them have a short and a long one. -/
def fields : FieldTable Field where
  entries :=
    [("body", .body), ("pri", .priority), ("priority", .priority), ("project", .project),
      ("time", .time), ("timestamp", .time), ("seqno", .sequenceNumber)]

/-- Sets a field from its text, under its name as written. -/
def set (m : Message) (field : Field) (name text : String) : Stored Message :=
  match field with
  | .body => { value := { m with body := text } }
  | .project => { value := { m with project := text } }
  | .priority =>
    (store m.priority (readInt32? text) name text).map fun v => { m with priority := v }
  | .sequenceNumber =>
    (store m.sequenceNumber (readInt32? text) name text).map
      fun v => { m with sequenceNumber := v }
  | .time =>
    (store m.timestamp (readSeconds? text) name text).map fun v => { m with timestamp := v }

/-- The boundary of one message. -/
def boundary : String := "msg"

/-- How messages are built. -/
def family : RecordFamily Message Message where
  boundary := boundary
  blank := empty
  assign m name text :=
    match fields.find? name with
    | some field => m.set field name text
    | none => { value := m }
  complete m := if m.isNumbered then some m else none

/-- The messages in a reply, or what is wrong with its markup. -/
def tryParse (reply : String) : Except Markup.ScanError (List Message) :=
  family.tryParse reply

/-- The messages in a reply; broken markup yields none. -/
def parse (reply : String) : Logged (List Message) :=
  family.parse reply

end Message

end DaemonReply
