import DaemonReply.Diagnostic.Level
import DaemonReply.Markup.Error
import DaemonReply.Value.Store

/-!
# Diagnostics

Nothing that a reply contains makes the reading of records fail halfway: what cannot be used is
passed over, and a **diagnostic** says what it was. There are five kinds, each with a level, a
message and named fields. A computation that reports diagnostics returns them beside its value,
in the order in which they arose (`Logged`).
-/

namespace DaemonReply

open Markup Value

/-- The part of the program that reports a diagnostic. -/
inductive Origin where
  /-- The reading of values from text. -/
  | conversion
  /-- The building of records from events. -/
  | assembly
  /-- The reading of the account manager's description. -/
  | accountManager
  /-- The paging through the event log. -/
  | eventLog
  deriving DecidableEq, Repr

/-- The path by which settings name a part of the program. -/
def Origin.target : Origin → String
  | conversion => "gridmon_core::convert"
  | assembly => "gridmon_core::tracker"
  | accountManager => "gridmon_core::acct_mgr"
  | eventLog => "gridmon_core::event_log"

/-- What was passed over, or seen on the way. -/
inductive Diagnostic where
  /-- The text of a field could not be read. -/
  | unreadableValue (rejection : Rejection)
  /-- A record closed without what makes it complete. -/
  | incompleteRecord (boundary : String)
  /-- An element closed outside any record. -/
  | strayField (element : String)
  /-- The markup of a reply was broken, and its records were given up. -/
  | discardedReply (origin : Origin) (boundary : String) (error : ScanError)
  /-- A page of the event log arrived, with messages numbered from `first` to `last`. -/
  | eventLogPage (count : Nat) (lowerBound first last : Int32)
  deriving DecidableEq, Repr

/-- The value of a field of a diagnostic. -/
inductive FieldValue where
  /-- A text that is shown in quotes. -/
  | quoted (text : String)
  /-- A text that is shown as it is. -/
  | plain (text : String)
  | number (value : Int)
  deriving DecidableEq, Repr

namespace Diagnostic

/-- How grave a diagnostic is. -/
def level : Diagnostic → Level
  | unreadableValue _ => .debug
  | incompleteRecord _ => .trace
  | strayField _ => .trace
  | discardedReply .. => .warn
  | eventLogPage .. => .debug

/-- Where a diagnostic comes from. -/
def origin : Diagnostic → Origin
  | unreadableValue _ => .conversion
  | incompleteRecord _ => .assembly
  | strayField _ => .assembly
  | discardedReply origin .. => origin
  | eventLogPage .. => .eventLog

/-- What a diagnostic says. -/
def message : Diagnostic → String
  | unreadableValue _ => "ignoring unparseable numeric value"
  | incompleteRecord _ => "dropping incomplete record"
  | strayField _ => "ignoring field outside any record"
  | discardedReply .. => "discarding unparseable rpc reply"
  | eventLogPage .. => "event log page"

/-- The named values that a diagnostic carries. -/
def fields : Diagnostic → List (String × FieldValue)
  | unreadableValue rejection =>
    [("field", .quoted rejection.field), ("text", .quoted rejection.text)]
  | incompleteRecord boundary => [("boundary", .quoted boundary)]
  | strayField element => [("element", .quoted element)]
  | discardedReply _ boundary error =>
    [("boundary", .quoted boundary), ("error", .plain error.message)]
  | eventLogPage count lowerBound first last =>
    [("count", .number count), ("lower_bound", .number lowerBound.toInt),
      ("first", .number first.toInt), ("last", .number last.toInt)]

/-- The names that a filter may ask a diagnostic for: its message has one, too. -/
def fieldNames (d : Diagnostic) : List String :=
  "message" :: d.fields.map Prod.fst

/-- The diagnostic, if any, of an attempt to store a value. -/
def ofRejected (rejected : Option Rejection) : List Diagnostic :=
  (rejected.map unreadableValue).toList

end Diagnostic

/-- A value with the diagnostics reported on the way to it, in order. -/
structure Logged (α : Type) where
  value : α
  log : List Diagnostic := []

end DaemonReply
