import DaemonReply.Record.Parse
import DaemonReply.Value.Integer
import DaemonReply.Value.Numeral

/-!
# File transfers

A reply about transfers holds one `<file_transfer>` block for every file. Inside may stand two
containers: the persistent state of the transfer and, while it runs, a `<file_xfer>` with the
live counters. Containers nest, but the fields inside are told apart by their names alone. The
bytes transferred may be stated in both, and then the live counter wins over the persisted one.
A transfer is kept if both the file's name and the project's address are known.
-/

namespace DaemonReply

open Value

/-- A file on its way to or from a project. -/
structure Transfer where
  name : String := ""
  projectUrl : String := ""
  generatedLocally : Bool := false
  isUpload : Bool := false
  /-- Whether the transfer is running. -/
  active : Bool := false
  status : Int32 := 0
  /-- The size of the file in bytes. -/
  size : Int64 := 0
  bytesTransferred : Int64 := 0
  timeSoFar : Int64 := 0
  nextRequestTime : Int64 := 0
  projectBackoff : Int64 := 0
  /-- Bytes per second. -/
  speed : Int64 := 0
  deriving DecidableEq, Repr, Inhabited

namespace Transfer

/-- The fields of a transfer. -/
inductive Field where
  | name
  | projectUrl
  | generatedLocally
  | isUpload
  | size
  | status
  | timeSoFar
  | nextRequestTime
  | projectBackoff
  | liveBytes
  | persistedBytes
  | speed
  deriving DecidableEq, Repr

/-- The names of the fields. -/
def fields : FieldTable Field where
  entries :=
    [("name", .name), ("project_url", .projectUrl), ("generated_locally", .generatedLocally),
      ("is_upload", .isUpload), ("nbytes", .size), ("status", .status),
      ("time_so_far", .timeSoFar), ("next_request_time", .nextRequestTime),
      ("project_backoff", .projectBackoff), ("bytes_xferred", .liveBytes),
      ("last_bytes_xferred", .persistedBytes), ("xfer_speed", .speed)]

/-- Sets a field from its text, under its name as written. A persisted byte count is not even
read once there is a count other than zero. -/
def set (t : Transfer) (field : Field) (name text : String) : Stored Transfer :=
  match field with
  | .name => { value := { t with name := text } }
  | .projectUrl => { value := { t with projectUrl := text } }
  | .generatedLocally =>
    (store t.generatedLocally (readFlag? text) name text).map
      fun v => { t with generatedLocally := v }
  | .isUpload => (store t.isUpload (readFlag? text) name text).map fun v => { t with isUpload := v }
  | .size => (store t.size (readSeconds? text) name text).map fun v => { t with size := v }
  | .status => (store t.status (readInt32? text) name text).map fun v => { t with status := v }
  | .timeSoFar =>
    (store t.timeSoFar (readSeconds? text) name text).map fun v => { t with timeSoFar := v }
  | .nextRequestTime =>
    (store t.nextRequestTime (readSeconds? text) name text).map
      fun v => { t with nextRequestTime := v }
  | .projectBackoff =>
    (store t.projectBackoff (readSeconds? text) name text).map
      fun v => { t with projectBackoff := v }
  | .liveBytes =>
    (store t.bytesTransferred (readSeconds? text) name text).map
      fun v => { t with bytesTransferred := v }
  | .persistedBytes =>
    if t.bytesTransferred = 0 then
      (store t.bytesTransferred (readSeconds? text) name text).map
        fun v => { t with bytesTransferred := v }
    else { value := t }
  | .speed => (store t.speed (readSeconds? text) name text).map fun v => { t with speed := v }

/-- The boundary of one transfer. -/
def boundary : String := "file_transfer"

/-- The container of the live counters, whose existence means that the transfer is running. -/
def liveContainer : String := "file_xfer"

/-- How transfers are built. -/
def family : RecordFamily Transfer Transfer where
  boundary := boundary
  blank := {}
  enter t name := if sameTag name liveContainer then { t with active := true } else t
  assign t name text :=
    match fields.find? name with
    | some field => t.set field name text
    | none => { value := t }
  complete t := if t.name.isEmpty || t.projectUrl.isEmpty then none else some t

/-- The transfers in a reply, or what is wrong with its markup. -/
def tryParse (reply : String) : Except Markup.ScanError (List Transfer) :=
  family.tryParse reply

/-- The transfers in a reply; broken markup yields none. -/
def parse (reply : String) : Logged (List Transfer) :=
  family.parse reply

end Transfer

end DaemonReply
