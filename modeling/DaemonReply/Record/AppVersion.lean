import DaemonReply.Record.Parse
import DaemonReply.Value.Integer

/-!
# Application versions

A reply about the daemon's state holds one `<app_version>` block for every application version.
A version is kept if its application has a name.
-/

namespace DaemonReply

open Value

/-- An application version that the daemon knows. -/
structure AppVersion where
  appName : String := ""
  versionNumber : Int32 := 0
  deriving DecidableEq, Repr, Inhabited

namespace AppVersion

/-- The fields of an application version. -/
inductive Field where
  | appName
  | versionNumber
  deriving DecidableEq, Repr

/-- The names of the fields. -/
def fields : FieldTable Field where
  entries := [("app_name", .appName), ("version_num", .versionNumber)]

/-- Sets a field from its text, under its name as written. -/
def set (v : AppVersion) (field : Field) (name text : String) : Stored AppVersion :=
  match field with
  | .appName => { value := { v with appName := text } }
  | .versionNumber =>
    (store v.versionNumber (readInt32? text) name text).map fun n => { v with versionNumber := n }

/-- The boundary of one application version. -/
def boundary : String := "app_version"

/-- How application versions are built. -/
def family : RecordFamily AppVersion AppVersion where
  boundary := boundary
  blank := {}
  assign v name text :=
    match fields.find? name with
    | some field => v.set field name text
    | none => { value := v }
  complete v := if v.appName.isEmpty then none else some v

/-- The application versions in a reply, or what is wrong with its markup. -/
def tryParse (reply : String) : Except Markup.ScanError (List AppVersion) :=
  family.tryParse reply

/-- The application versions in a reply; broken markup yields none. -/
def parse (reply : String) : Logged (List AppVersion) :=
  family.parse reply

end AppVersion

end DaemonReply
