import DaemonReply.Proofs.Writers
import Mathlib.Data.List.Induction

/-!
# What a finished record holds

To a family a record is a list of **calls**: openings inside the record, and closings of fields with
their texts. Most slots of a draft are **columns** (`RecordFamily.IsColumn`): a column holds the
last value that was read under one of its tags, whatever else was called and in whatever order
(`RecordFamily.IsColumn.performAll`), and calls that do not both concern one column commute. A slot
to which only one field of a table is written is a column (`RecordFamily.ByTable.hasColumn`).

Two slots of a transfer are no columns. `active` tells whether the container of the live counters
has opened. `bytesTransferred` is written under two tags: the live counter always, the persisted
one only while the slot is zero (`Transfer.CountsBytes`).

Main statement: the finished records of all four families in closed form
(`families_hold_last_readings`).
-/

namespace DaemonReply

open Value

/-! ### Calls and readings -/

/-- What a family is asked to do with the draft of a record. -/
inductive Call where
  /-- An element opens inside the record. -/
  | opened (name : String)
  /-- A field closes, with its text. -/
  | closed (name text : String)
  deriving DecidableEq, Repr

/-- Whether a name is one of some tags, up to letter case. -/
def isOneOf (tags : List String) (name : String) : Bool :=
  tags.any (sameTag name)

namespace Call

variable {α : Type}

/-- Whether a call is the opening of a tag. -/
def opens (tag : String) : Call → Bool
  | opened name => sameTag name tag
  | closed _ _ => false

/-- What a call says under some tags: what can be read from the text of a field with such a name. -/
def reading? (read? : String → Option α) (tags : List String) : Call → Option α
  | opened _ => none
  | closed name text => if isOneOf tags name then read? text else none

/-- Whether two calls close fields that are written to the same slot, given the tags of every
slot. -/
def shareSlot (slots : List (List String)) : Call → Call → Bool
  | closed name _, closed name' _ => slots.any fun tags => isOneOf tags name && isOneOf tags name'
  | _, _ => false

/-- A call that says nothing under some tags says nothing under fewer. -/
theorem reading?_eq_none_of_subset {read? : String → Option α} {tags tags' : List String}
    (hsubset : tags' ⊆ tags) {c : Call} (h : c.reading? read? tags = none) :
    c.reading? read? tags' = none := by
  cases c with
  | opened name => rfl
  | closed name text =>
    simp only [reading?, ite_eq_right_iff, isOneOf, List.any_eq_true] at h ⊢
    rintro ⟨tag, htag, hname⟩
    exact h ⟨tag, hsubset htag, hname⟩

/-- Of two calls that do not share a slot at most one says something under its tags. -/
theorem reading?_eq_none_or {slots : List (List String)} {tags : List String} {c c' : Call}
    (read? : String → Option α) (h : shareSlot slots c c' = false) (htags : tags ∈ slots) :
    c.reading? read? tags = none ∨ c'.reading? read? tags = none := by
  cases c with
  | opened name => exact .inl rfl
  | closed name text =>
    cases c' with
    | opened name' => exact .inr rfl
    | closed name' text' =>
      have hnot := List.any_eq_false.mp h tags htags
      rcases hname : isOneOf tags name with _ | _
      · exact .inl (if_neg (by simp [hname]))
      · exact .inr (if_neg (by simpa [hname] using hnot))

end Call

section LastReading

variable {α : Type} {read? : String → Option α} {tags : List String} {calls : List Call}

/-- The last value that calls say under some tags. Texts that cannot be read do not count. -/
def lastReading (read? : String → Option α) (tags : List String) (calls : List Call) : Option α :=
  (calls.filterMap (Call.reading? read? tags)).getLast?

@[simp] theorem lastReading_nil : lastReading read? tags [] = none := rfl

/-- A further call counts if it says something. -/
theorem lastReading_concat (calls : List Call) (c : Call) :
    lastReading read? tags (calls ++ [c]) =
      (c.reading? read? tags).or (lastReading read? tags calls) := by
  rw [lastReading, List.filterMap_append, List.getLast?_append, lastReading]
  congr 1
  cases hreading : c.reading? read? tags <;> simp [hreading]

theorem lastReading_eq_none_iff :
    lastReading read? tags calls = none ↔ ∀ c ∈ calls, c.reading? read? tags = none := by
  simp [lastReading]

/-- The last value comes from a call behind which nothing is said. -/
theorem exists_of_lastReading_eq_some {value : α}
    (h : lastReading read? tags calls = some value) :
    ∃ front c back, calls = front ++ c :: back ∧ c.reading? read? tags = some value ∧
      ∀ c' ∈ back, c'.reading? read? tags = none := by
  induction calls using List.reverseRecOn with
  | nil => exact absurd h (by simp)
  | append_singleton calls last ih =>
    rw [lastReading_concat] at h
    rcases hlast : last.reading? read? tags with _ | value'
    · obtain ⟨front, c, back, rfl, hc, hback⟩ := ih (by simpa [hlast] using h)
      refine ⟨front, c, back ++ [last], by simp, hc, ?_⟩
      intro c' hc'
      rcases List.mem_append.mp hc' with hc' | hc'
      · exact hback c' hc'
      · rw [List.mem_singleton.mp hc', hlast]
    · obtain rfl : value' = value := by simpa [hlast] using h
      exact ⟨calls, last, [], rfl, hlast, by simp⟩

end LastReading

/-! ### Columns -/

namespace RecordFamily

variable {β ρ : Type} (family : RecordFamily β ρ)

/-- What one call does to a draft. -/
def perform (draft : β) : Call → β
  | .opened name => family.enter draft name
  | .closed name text => (family.assign draft name text).value

/-- What calls do to a draft, in order. -/
def performAll (draft : β) (calls : List Call) : β :=
  calls.foldl family.perform draft

/-- What the calls of a whole record amount to. -/
def finish (calls : List Call) : Option ρ :=
  family.complete (family.performAll family.blank calls)

/-- Two calls may be exchanged wherever they follow each other. -/
def Commute (c c' : Call) : Prop :=
  ∀ draft, family.perform (family.perform draft c) c' = family.perform (family.perform draft c') c

@[simp] theorem performAll_nil (draft : β) : family.performAll draft [] = draft := rfl

@[simp] theorem performAll_cons (draft : β) (c : Call) (calls : List Call) :
    family.performAll draft (c :: calls) = family.performAll (family.perform draft c) calls := rfl

theorem performAll_append (draft : β) (front back : List Call) :
    family.performAll draft (front ++ back) =
      family.performAll (family.performAll draft front) back := by
  simp [performAll]

/-- A slot of the draft that holds the last value read under one of some tags: a call that says
something under these tags overwrites it, any other call leaves it as it was. -/
def IsColumn {α : Type} (slot : β → α) (read? : String → Option α) (tags : List String) : Prop :=
  ∀ draft c, slot (family.perform draft c) = (c.reading? read? tags).getD (slot draft)

namespace IsColumn

variable {family} {α : Type} {slot : β → α} {read? : String → Option α} {tags : List String}

/-- **A column holds the last reading.** -/
theorem performAll (h : family.IsColumn slot read? tags) (draft : β) (calls : List Call) :
    slot (family.performAll draft calls) = (lastReading read? tags calls).getD (slot draft) := by
  induction calls using List.reverseRecOn with
  | nil => rfl
  | append_singleton calls c ih =>
    rw [performAll_append, performAll_cons, performAll_nil, h, ih, lastReading_concat]
    cases c.reading? read? tags <;> rfl

/-- Calls that do not share a slot may be exchanged, as far as a column is concerned. -/
theorem comm (h : family.IsColumn slot read? tags) {slots : List (List String)} {c c' : Call}
    (hshare : Call.shareSlot slots c c' = false) (htags : tags ∈ slots) (draft : β) :
    slot (family.perform (family.perform draft c) c') =
      slot (family.perform (family.perform draft c') c) := by
  rw [h, h, h, h]
  rcases Call.reading?_eq_none_or read? hshare htags with hnone | hnone <;> simp [hnone]

end IsColumn

end RecordFamily

/-! ### Columns of a field table -/

namespace FieldTable

variable {φ : Type} {table : FieldTable φ}

/-- The keys that stand for a field. -/
def keysOf [DecidableEq φ] (table : FieldTable φ) (field : φ) : List String :=
  (table.entries.filter fun entry => entry.2 = field).map Prod.fst

/-- **A name stands for a field** if it is one of the keys of that field. -/
theorem isOneOf_keysOf [DecidableEq φ] (hlower : table.isLower = true) (field : φ)
    (name : String) :
    isOneOf (table.keysOf field) name = decide (table.find? name = some field) := by
  rw [Bool.eq_iff_iff, decide_eq_true_iff, find?_eq_some_iff hlower]
  simp [isOneOf, keysOf]

/-- A name is one of the keys of some fields if it stands for one of these fields. -/
theorem isOneOf_flatMap_keysOf [DecidableEq φ] (hlower : table.isLower = true) (fields : List φ)
    (name : String) : isOneOf (fields.flatMap table.keysOf) name =
      (table.find? name).any (fields.contains ·) := by
  have hkeys : isOneOf (fields.flatMap table.keysOf) name =
      fields.any fun field => isOneOf (table.keysOf field) name := List.any_flatMap
  simp only [hkeys, isOneOf_keysOf hlower]
  rcases table.find? name with _ | field
  · simp
  · rw [Bool.eq_iff_iff]
    simp

end FieldTable

/-- A slot of a draft, and how the texts for it are read. -/
structure Slot (β : Type) where
  {α : Type}
  get : β → α
  read? : String → Option α

namespace RecordFamily

variable {β ρ φ : Type} [DecidableEq φ] {family : RecordFamily β ρ} {table : FieldTable φ}
  {set : β → φ → String → String → Stored β} {slot : φ → Slot β}

/-- The slot of a field is a column under the keys of that field. -/
def HasColumn (family : RecordFamily β ρ) (table : FieldTable φ) (slot : φ → Slot β) (field : φ) :
    Prop :=
  family.IsColumn (slot field).get (slot field).read? (table.keysOf field)

/-- **A slot that only one field is written to is a column.** -/
theorem ByTable.hasColumn (h : family.ByTable table set) {field : φ}
    (henter : ∀ draft name, (slot field).get (family.enter draft name) = (slot field).get draft)
    (hset : ∀ draft field' name text, (slot field).get (set draft field' name text).value =
      if field' = field then ((slot field).read? text).getD ((slot field).get draft)
      else (slot field).get draft) : family.HasColumn table slot field := by
  intro draft c
  cases c with
  | opened name => exact henter draft name
  | closed name text =>
    simp only [perform, Call.reading?, FieldTable.isOneOf_keysOf h.lower, decide_eq_true_iff,
      h.assign_eq]
    rcases table.find? name with _ | field'
    · simp
    · simp only [Option.some.injEq, hset]
      split <;> rfl

/-- A draft is made of columns, one for each field of a table. -/
structure IsColumnar (family : RecordFamily β ρ) (table : FieldTable φ) (slot : φ → Slot β) :
    Prop where
  hasColumn : ∀ field, family.HasColumn table slot field
  ext : ∀ draft draft', (∀ field, (slot field).get draft = (slot field).get draft') →
    draft = draft'

namespace IsColumnar

/-- **What calls make of a draft**: the draft that has the last reading in every column. -/
theorem performAll_eq (h : family.IsColumnar table slot) {draft draft' : β} {calls : List Call}
    (hslots : ∀ field, (slot field).get draft' =
      (lastReading (slot field).read? (table.keysOf field) calls).getD ((slot field).get draft)) :
    family.performAll draft calls = draft' :=
  h.ext _ _ fun field => ((h.hasColumn field).performAll draft calls).trans (hslots field).symm

/-- Calls that do not share a slot may be exchanged. -/
theorem commute (h : family.IsColumnar table slot) {slots : List (List String)}
    (hslots : ∀ field, table.keysOf field ∈ slots) {c c' : Call}
    (hshare : Call.shareSlot slots c c' = false) : family.Commute c c' :=
  fun draft => h.ext _ _ fun field => (h.hasColumn field).comm hshare (hslots field) draft

end IsColumnar

end RecordFamily

/-! ### Messages -/

attribute [ext] Message AppVersion Transfer AccountManager

namespace Message

variable {calls : List Call}

/-- The tags of every slot of a message. -/
def slotTags : List (List String) :=
  [["body"], ["pri", "priority"], ["project"], ["time", "timestamp"], ["seqno"]]

/-- The slot of each field. -/
def Field.slot : Field → Slot Message
  | .body => ⟨(·.body), some⟩
  | .priority => ⟨(·.priority), readInt32?⟩
  | .project => ⟨(·.project), some⟩
  | .time => ⟨(·.timestamp), readSeconds?⟩
  | .sequenceNumber => ⟨(·.sequenceNumber), readInt32?⟩

theorem isColumnar : family.IsColumnar fields Field.slot where
  hasColumn field := byTable.hasColumn (fun _ _ => rfl) fun _ field' _ _ => by
    cases field <;> cases field' <;> simp [set, Field.slot]
  ext _ _ h := Message.ext (h .sequenceNumber) (h .priority) (h .project) (h .time) (h .body)

/-- The draft that calls make of the blank one. -/
def ofCalls (calls : List Call) : Message where
  body := (lastReading some ["body"] calls).getD ""
  priority := (lastReading readInt32? ["pri", "priority"] calls).getD unset
  project := (lastReading some ["project"] calls).getD ""
  timestamp := (lastReading readSeconds? ["time", "timestamp"] calls).getD 0
  sequenceNumber := (lastReading readInt32? ["seqno"] calls).getD unset

theorem performAll_blank (calls : List Call) :
    family.performAll family.blank calls = ofCalls calls :=
  isColumnar.performAll_eq fun field => by cases field <;> rfl

theorem commute {c c' : Call} (h : Call.shareSlot slotTags c c' = false) : family.Commute c c' :=
  isColumnar.commute (fun field => by cases field <;> decide) h

/-- A message is kept unless its final sequence number is the one that stands for none. -/
theorem finish_eq (calls : List Call) : family.finish calls =
    if (ofCalls calls).sequenceNumber = -1 then none else some (ofCalls calls) := by
  rw [RecordFamily.finish, performAll_blank]
  by_cases hunset : (ofCalls calls).sequenceNumber = -1 <;>
    simp [family, isNumbered, unset, hunset]

/-- A later -1 makes a message lost. -/
theorem finish_concat_unset (calls : List Call) {name text : String}
    (hname : sameTag name "seqno" = true) (htext : readInt32? text = some (-1)) :
    family.finish (calls ++ [.closed name text]) = none := by
  have hlast : (ofCalls (calls ++ [.closed name text])).sequenceNumber = -1 := by
    simp [ofCalls, lastReading_concat, Call.reading?, isOneOf, hname, htext]
  rw [finish_eq, if_pos hlast]

/-- A later text that is no number does not. -/
theorem finish_concat_unread (calls : List Call) {name text : String}
    (hname : sameTag name "seqno" = true) (htext : readInt32? text = none) :
    family.finish (calls ++ [.closed name text]) = family.finish calls := by
  have hfield : fields.find? name = some .sequenceNumber := by
    have hkeys := FieldTable.isOneOf_keysOf byTable.lower .sequenceNumber name
    rw [show fields.keysOf .sequenceNumber = ["seqno"] from rfl] at hkeys
    simpa [isOneOf, hname] using hkeys
  rw [RecordFamily.finish, RecordFamily.performAll_append, RecordFamily.performAll_cons,
    RecordFamily.performAll_nil, RecordFamily.perform, byTable.assign_eq, hfield]
  simp [set, htext, RecordFamily.finish]

end Message

/-! ### Application versions -/

namespace AppVersion

/-- The tags of every slot of an application version. -/
def slotTags : List (List String) :=
  [["app_name"], ["version_num"]]

/-- The slot of each field. -/
def Field.slot : Field → Slot AppVersion
  | .appName => ⟨(·.appName), some⟩
  | .versionNumber => ⟨(·.versionNumber), readInt32?⟩

theorem isColumnar : family.IsColumnar fields Field.slot where
  hasColumn field := byTable.hasColumn (fun _ _ => rfl) fun _ field' _ _ => by
    cases field <;> cases field' <;> simp [set, Field.slot]
  ext _ _ h := AppVersion.ext (h .appName) (h .versionNumber)

/-- The draft that calls make of the blank one. -/
def ofCalls (calls : List Call) : AppVersion where
  appName := (lastReading some ["app_name"] calls).getD ""
  versionNumber := (lastReading readInt32? ["version_num"] calls).getD 0

theorem performAll_blank (calls : List Call) :
    family.performAll family.blank calls = ofCalls calls :=
  isColumnar.performAll_eq fun field => by cases field <;> rfl

theorem commute {c c' : Call} (h : Call.shareSlot slotTags c c' = false) : family.Commute c c' :=
  isColumnar.commute (fun field => by cases field <;> decide) h

/-- An application version is kept if its final name is not empty. -/
theorem finish_eq (calls : List Call) : family.finish calls =
    if (ofCalls calls).appName = "" then none else some (ofCalls calls) := by
  rw [RecordFamily.finish, performAll_blank]
  by_cases hname : (ofCalls calls).appName = "" <;> simp [family, hname]

end AppVersion

/-! ### The account manager -/

namespace AccountManager

/-- The tags of every slot of an account manager. -/
def slotTags : List (List String) :=
  [["acct_mgr_name"], ["acct_mgr_url"], ["have_credentials"], ["cookie_required"],
    ["cookie_failure_url"]]

/-- A flag by presence can be read from any text. -/
def readPresence? (text : String) : Option Bool :=
  some (presenceFlag text)

/-- The slot of each field. -/
def Field.slot : Field → Slot AccountManager
  | .name => ⟨(·.name), some⟩
  | .url => ⟨(·.url), some⟩
  | .haveCredentials => ⟨(·.haveCredentials), readPresence?⟩
  | .cookieRequired => ⟨(·.cookieRequired), readPresence?⟩
  | .cookieFailureUrl => ⟨(·.cookieFailureUrl), some⟩

theorem isColumnar : family.IsColumnar fields Field.slot where
  hasColumn field := byTable.hasColumn (fun _ _ => rfl) fun _ field' _ _ => by
    cases field <;> cases field' <;> simp [set, Field.slot, readPresence?]
  ext _ _ h := AccountManager.ext (h .name) (h .url) (h .haveCredentials) (h .cookieRequired)
    (h .cookieFailureUrl)

/-- The draft that calls make of the blank one. -/
def ofCalls (calls : List Call) : AccountManager where
  name := (lastReading some ["acct_mgr_name"] calls).getD ""
  url := (lastReading some ["acct_mgr_url"] calls).getD ""
  haveCredentials := (lastReading readPresence? ["have_credentials"] calls).getD false
  cookieRequired := (lastReading readPresence? ["cookie_required"] calls).getD false
  cookieFailureUrl := (lastReading some ["cookie_failure_url"] calls).getD ""

theorem performAll_blank (calls : List Call) :
    family.performAll family.blank calls = ofCalls calls :=
  isColumnar.performAll_eq fun field => by cases field <;> rfl

theorem commute {c c' : Call} (h : Call.shareSlot slotTags c c' = false) : family.Commute c c' :=
  isColumnar.commute (fun field => by cases field <;> decide) h

/-- An account manager is always kept. -/
theorem finish_eq (calls : List Call) : family.finish calls = some (ofCalls calls) := by
  rw [RecordFamily.finish, performAll_blank]
  rfl

end AccountManager

/-! ### File transfers -/

namespace Transfer

variable {t : Transfer} {calls front back : List Call} {c : Call}

/-- The tags of every slot of a transfer. The two byte counts are written to one slot. -/
def slotTags : List (List String) :=
  [["name"], ["project_url"], ["generated_locally"], ["is_upload"], ["nbytes"], ["status"],
    ["time_so_far"], ["next_request_time"], ["project_backoff"],
    ["bytes_xferred", "last_bytes_xferred"], ["xfer_speed"]]

/-- An opening changes nothing but whether the transfer is running. -/
theorem slot_enter {α : Type} {slot : Transfer → α}
    (h : ∀ t : Transfer, slot { t with active := true } = slot t) (t : Transfer) (name : String) :
    slot (family.enter t name) = slot t := by
  simp only [family]
  split
  · exact h t
  · rfl

/-- The slot of each field. -/
def Field.slot : Field → Slot Transfer
  | .name => ⟨(·.name), some⟩
  | .projectUrl => ⟨(·.projectUrl), some⟩
  | .generatedLocally => ⟨(·.generatedLocally), readFlag?⟩
  | .isUpload => ⟨(·.isUpload), readFlag?⟩
  | .size => ⟨(·.size), readSeconds?⟩
  | .status => ⟨(·.status), readInt32?⟩
  | .timeSoFar => ⟨(·.timeSoFar), readSeconds?⟩
  | .nextRequestTime => ⟨(·.nextRequestTime), readSeconds?⟩
  | .projectBackoff => ⟨(·.projectBackoff), readSeconds?⟩
  | .liveBytes | .persistedBytes => ⟨(·.bytesTransferred), readSeconds?⟩
  | .speed => ⟨(·.speed), readSeconds?⟩

/-- The two fields that are written to one slot. -/
def countFields : List Field :=
  [.liveBytes, .persistedBytes]

/-- All other fields have a slot of their own. -/
theorem hasColumn {field : Field} (hfield : field ∉ countFields) :
    family.HasColumn fields Field.slot field :=
  byTable.hasColumn (slot_enter fun _ => by cases field <;> rfl) fun _ field' _ _ => by
    cases field with
    | liveBytes => exact absurd hfield (by decide)
    | persistedBytes => exact absurd hfield (by decide)
    | _ => cases field' <;> simp [set, Field.slot, apply_ite]

/-- A transfer is its columns, its byte count, and whether it is running. -/
theorem eq_of_slots {t t' : Transfer}
    (hcolumns : ∀ field, field ∉ countFields → field.slot.get t = field.slot.get t')
    (hactive : t.active = t'.active) (hbytes : t.bytesTransferred = t'.bytesTransferred) :
    t = t' :=
  Transfer.ext (hcolumns .name (by decide)) (hcolumns .projectUrl (by decide))
    (hcolumns .generatedLocally (by decide)) (hcolumns .isUpload (by decide)) hactive
    (hcolumns .status (by decide)) (hcolumns .size (by decide)) hbytes
    (hcolumns .timeSoFar (by decide)) (hcolumns .nextRequestTime (by decide))
    (hcolumns .projectBackoff (by decide)) (hcolumns .speed (by decide))

/-- A transfer is running once the container of the live counters has opened. -/
theorem active_perform (t : Transfer) (c : Call) :
    (family.perform t c).active = (t.active || c.opens liveContainer) := by
  cases c with
  | opened name =>
    simp only [RecordFamily.perform, family, Call.opens]
    split <;> simp [*]
  | closed name text =>
    simp only [RecordFamily.perform, byTable.assign_eq, Call.opens, Bool.or_false]
    rcases fields.find? name with _ | field
    · rfl
    · cases field <;> simp [set, apply_ite]

theorem active_performAll (t : Transfer) (calls : List Call) :
    (family.performAll t calls).active = (t.active || calls.any (Call.opens liveContainer)) := by
  induction calls generalizing t with
  | nil => simp
  | cons c calls ih => simp [ih, active_perform, Bool.or_assoc]

/-! ### The byte counts of a transfer -/

/-- What a call says as the live counter. -/
def liveCount? : Call → Option Int64 :=
  Call.reading? readSeconds? ["bytes_xferred"]

/-- What a call says as the persisted counter. -/
def persistedCount? : Call → Option Int64 :=
  Call.reading? readSeconds? ["last_bytes_xferred"]

/-- The first persisted count other than zero, and zero if there is none. -/
def firstPersisted (calls : List Call) : Int64 :=
  ((calls.filterMap persistedCount?).find? (· != 0)).getD 0

/-- A live count is written, a persisted one only over zero. -/
theorem bytesTransferred_perform (t : Transfer) (c : Call) :
    (family.perform t c).bytesTransferred = (liveCount? c).getD
      (if t.bytesTransferred = 0 then (persistedCount? c).getD 0 else t.bytesTransferred) := by
  cases c with
  | opened name =>
    have henter : (family.enter t name).bytesTransferred = t.bytesTransferred :=
      slot_enter (fun _ => rfl) t name
    simp only [RecordFamily.perform, henter, liveCount?, persistedCount?, Call.reading?]
    split <;> simp [*]
  | closed name text =>
    have hlive : isOneOf ["bytes_xferred"] name = decide (fields.find? name = some .liveBytes) :=
      FieldTable.isOneOf_keysOf byTable.lower .liveBytes name
    have hpersisted : isOneOf ["last_bytes_xferred"] name =
        decide (fields.find? name = some .persistedBytes) :=
      FieldTable.isOneOf_keysOf byTable.lower .persistedBytes name
    simp only [RecordFamily.perform, byTable.assign_eq, liveCount?, persistedCount?, Call.reading?,
      hlive, hpersisted]
    rcases fields.find? name with _ | field
    · by_cases hzero : t.bytesTransferred = 0 <;> simp [hzero]
    · by_cases hzero : t.bytesTransferred = 0 <;> cases field <;> simp [set, hzero]

/-- A call that says neither count leaves the bytes transferred as they were. -/
theorem bytesTransferred_perform_of_none
    (h : c.reading? readSeconds? ["bytes_xferred", "last_bytes_xferred"] = none) (t : Transfer) :
    (family.perform t c).bytesTransferred = t.bytesTransferred := by
  have hlive : liveCount? c = none := Call.reading?_eq_none_of_subset (by simp) h
  have hpersisted : persistedCount? c = none := Call.reading?_eq_none_of_subset (by simp) h
  rw [bytesTransferred_perform, hlive, hpersisted]
  split <;> simp [*]

/-- As long as no live count is said, the slot keeps what it holds, or takes the first persisted
count other than zero. -/
theorem bytesTransferred_of_no_live (hlive : ∀ c ∈ calls, liveCount? c = none) (t : Transfer) :
    (family.performAll t calls).bytesTransferred =
      if t.bytesTransferred = 0 then firstPersisted calls else t.bytesTransferred := by
  induction calls generalizing t with
  | nil => simp [firstPersisted]
  | cons c calls ih =>
    have hc : liveCount? c = none := hlive c List.mem_cons_self
    rw [RecordFamily.performAll_cons, ih fun c' hc' => hlive c' (List.mem_cons_of_mem c hc'),
      bytesTransferred_perform, hc]
    by_cases hzero : t.bytesTransferred = 0
    · rcases hpersisted : persistedCount? c with _ | count
      · simp [hzero, firstPersisted, hpersisted]
      · by_cases hcount : count = 0 <;> simp [hzero, firstPersisted, hpersisted, hcount]
    · simp [hzero]

/-- From the last live count on only the persisted counts behind it matter. -/
theorem bytesTransferred_of_last_live {count : Int64} (hc : liveCount? c = some count)
    (hback : ∀ c' ∈ back, liveCount? c' = none) (t : Transfer) :
    (family.performAll t (front ++ c :: back)).bytesTransferred =
      if count = 0 then firstPersisted back else count := by
  rw [RecordFamily.performAll_append, RecordFamily.performAll_cons,
    bytesTransferred_of_no_live hback, bytesTransferred_perform, hc, Option.getD_some]

/-- There is no first persisted count other than zero if all are zero. -/
theorem firstPersisted_eq_zero_iff : firstPersisted calls = 0 ↔
    ∀ c ∈ calls, ∀ count, persistedCount? c = some count → count = 0 := by
  rw [firstPersisted]
  rcases hfirst : (calls.filterMap persistedCount?).find? (· != 0) with _ | first
  · refine iff_of_true rfl fun c hc count hcount => ?_
    simpa using List.find?_eq_none.mp hfirst count (List.mem_filterMap.mpr ⟨c, hc, hcount⟩)
  · have hne : first ≠ 0 := by simpa using List.find?_some hfirst
    obtain ⟨c, hc, hcount⟩ := List.mem_filterMap.mp (List.mem_of_find?_eq_some hfirst)
    exact iff_of_false hne fun h => hne (h c hc first hcount)

/-- Calls that say no persisted count may be left out before others. -/
theorem firstPersisted_append_left (h : ∀ c ∈ front, persistedCount? c = none) :
    firstPersisted (front ++ back) = firstPersisted back := by
  rw [firstPersisted, List.filterMap_append, List.filterMap_eq_nil_iff.mpr h, List.nil_append,
    firstPersisted]

/-- Calls that say no persisted count may be left out behind others. -/
theorem firstPersisted_append_right (h : ∀ c ∈ back, persistedCount? c = none) :
    firstPersisted (front ++ back) = firstPersisted front := by
  rw [firstPersisted, List.filterMap_append, List.filterMap_eq_nil_iff.mpr h, List.append_nil,
    firstPersisted]

/-- What the two counts of a transfer amount to, unless a live count of zero meets a persisted one
other than zero: the last live count, if it is not zero; without live counts the first persisted
count other than zero; and the last live count, whatever it is, if no persisted count is other than
zero. -/
structure CountsBytes (calls : List Call) (bytes : Int64) : Prop where
  live_wins : ∀ count, lastReading readSeconds? ["bytes_xferred"] calls = some count → count ≠ 0 →
    bytes = count
  no_live : lastReading readSeconds? ["bytes_xferred"] calls = none → bytes = firstPersisted calls
  no_persisted : firstPersisted calls = 0 →
    bytes = (lastReading readSeconds? ["bytes_xferred"] calls).getD 0

theorem countsBytes (calls : List Call) :
    CountsBytes calls (family.performAll family.blank calls).bytesTransferred where
  live_wins count hlast hcount := by
    obtain ⟨front, c, back, rfl, hc, hback⟩ := exists_of_lastReading_eq_some hlast
    rw [bytesTransferred_of_last_live hc hback, if_neg hcount]
  no_live hnone := bytesTransferred_of_no_live (lastReading_eq_none_iff.mp hnone) family.blank
  no_persisted hzero := by
    rcases hlast : lastReading readSeconds? ["bytes_xferred"] calls with _ | count
    · rw [bytesTransferred_of_no_live (lastReading_eq_none_iff.mp hlast), hzero]
      rfl
    · obtain ⟨front, c, back, rfl, hc, hback⟩ := exists_of_lastReading_eq_some hlast
      have hbehind : firstPersisted back = 0 := firstPersisted_eq_zero_iff.mpr fun c' hc' =>
        firstPersisted_eq_zero_iff.mp hzero c' (by simp [hc'])
      rw [bytesTransferred_of_last_live hc hback, hbehind, Option.getD_some]
      split <;> simp [*]

/-- The draft that calls make of the blank one, given the bytes transferred. -/
def ofCalls (bytes : Int64) (calls : List Call) : Transfer where
  name := (lastReading some ["name"] calls).getD ""
  projectUrl := (lastReading some ["project_url"] calls).getD ""
  generatedLocally := (lastReading readFlag? ["generated_locally"] calls).getD false
  isUpload := (lastReading readFlag? ["is_upload"] calls).getD false
  active := calls.any (Call.opens "file_xfer")
  status := (lastReading readInt32? ["status"] calls).getD 0
  size := (lastReading readSeconds? ["nbytes"] calls).getD 0
  bytesTransferred := bytes
  timeSoFar := (lastReading readSeconds? ["time_so_far"] calls).getD 0
  nextRequestTime := (lastReading readSeconds? ["next_request_time"] calls).getD 0
  projectBackoff := (lastReading readSeconds? ["project_backoff"] calls).getD 0
  speed := (lastReading readSeconds? ["xfer_speed"] calls).getD 0

theorem performAll_blank (calls : List Call) : family.performAll family.blank calls =
    ofCalls (family.performAll family.blank calls).bytesTransferred calls := by
  refine eq_of_slots (fun field hfield => ?_) (active_performAll _ calls) rfl
  refine ((hasColumn hfield).performAll family.blank calls).trans ?_
  cases field with
  | liveBytes => exact absurd hfield (by decide)
  | persistedBytes => exact absurd hfield (by decide)
  | _ => rfl

theorem commute {c c' : Call} (h : Call.shareSlot slotTags c c' = false) :
    family.Commute c c' := by
  intro draft
  have hactive : (family.perform (family.perform draft c) c').active =
      (family.perform (family.perform draft c') c).active := by
    simp only [active_perform, Bool.or_right_comm]
  have hbytes : (family.perform (family.perform draft c) c').bytesTransferred =
      (family.perform (family.perform draft c') c).bytesTransferred := by
    -- one of the two calls says no count, so it does not matter when it comes
    rcases Call.reading?_eq_none_or readSeconds? h
      (show ["bytes_xferred", "last_bytes_xferred"] ∈ slotTags by simp [slotTags]) with
      hnone | hnone
    · rw [bytesTransferred_perform_of_none hnone, bytesTransferred_perform,
        bytesTransferred_perform_of_none hnone, ← bytesTransferred_perform]
    · rw [bytesTransferred_perform_of_none hnone, bytesTransferred_perform,
        bytesTransferred_perform, bytesTransferred_perform_of_none hnone]
  have hkeys : ∀ field, field ∉ countFields → fields.keysOf field ∈ slotTags :=
    fun field => by cases field <;> decide
  exact eq_of_slots (fun field hfield => (hasColumn hfield).comm h (hkeys field hfield) draft)
    hactive hbytes

/-- A transfer is kept if its final name and its final address are not empty. -/
theorem exists_finish_eq (calls : List Call) : ∃ bytes, CountsBytes calls bytes ∧
    let t := ofCalls bytes calls
    family.performAll family.blank calls = t ∧
      family.finish calls = if t.name = "" ∨ t.projectUrl = "" then none else some t := by
  refine ⟨_, countsBytes calls, performAll_blank calls, ?_⟩
  rw [RecordFamily.finish, ← performAll_blank]
  generalize family.performAll family.blank calls = t
  by_cases hname : t.name = "" <;> by_cases hurl : t.projectUrl = "" <;>
    simp [family, hname, hurl]

end Transfer

/-! ### The finished records -/

/-- **A finished record holds what its calls said last.** For each of the four families, and any
calls on a blank draft: a text, number or explicit flag is the last that could be read under one of
the tags of its slot, and the default if none could; a flag by presence is that of the last text
under its tag; a transfer is running if `file_xfer` has opened, and its bytes are what its two
counts amount to. A message is kept unless its final sequence number is -1, so that a later -1 makes
it lost while a later text that is no number does not. An application version is kept if its final
name is not empty, a transfer if its final name and address are not, an account manager always.
Calls that do not write to one slot may be exchanged. -/
theorem families_hold_last_readings :
    ((∀ calls, Message.family.finish calls =
        if (Message.ofCalls calls).sequenceNumber = -1 then none
        else some (Message.ofCalls calls)) ∧
      (∀ calls name text, sameTag name "seqno" = true →
        (readInt32? text = some (-1) →
          Message.family.finish (calls ++ [.closed name text]) = none) ∧
        (readInt32? text = none →
          Message.family.finish (calls ++ [.closed name text]) = Message.family.finish calls)) ∧
      ∀ c c', Call.shareSlot Message.slotTags c c' = false → Message.family.Commute c c') ∧
    ((∀ calls, AppVersion.family.finish calls =
        if (AppVersion.ofCalls calls).appName = "" then none else some (AppVersion.ofCalls calls)) ∧
      ∀ c c', Call.shareSlot AppVersion.slotTags c c' = false → AppVersion.family.Commute c c') ∧
    ((∀ calls, ∃ bytes, Transfer.CountsBytes calls bytes ∧
        let t := Transfer.ofCalls bytes calls
        Transfer.family.performAll Transfer.family.blank calls = t ∧
          Transfer.family.finish calls =
            if t.name = "" ∨ t.projectUrl = "" then none else some t) ∧
      ∀ c c', Call.shareSlot Transfer.slotTags c c' = false → Transfer.family.Commute c c') ∧
    ((∀ calls, AccountManager.family.finish calls = some (AccountManager.ofCalls calls)) ∧
      ∀ c c', Call.shareSlot AccountManager.slotTags c c' = false →
        AccountManager.family.Commute c c') :=
  ⟨⟨Message.finish_eq, fun calls _ _ hname => ⟨Message.finish_concat_unset calls hname,
      Message.finish_concat_unread calls hname⟩, fun _ _ => Message.commute⟩,
    ⟨AppVersion.finish_eq, fun _ _ => AppVersion.commute⟩,
    ⟨Transfer.exists_finish_eq, fun _ _ => Transfer.commute⟩,
    ⟨AccountManager.finish_eq, fun _ _ => AccountManager.commute⟩⟩

/-- A message whose number is lost by an explicit -1, and a transfer of which the persisted count
stands between the two live ones. -/
theorem families_hold_last_readings_sample :
    Message.family.finish [.closed "seqno" "7", .closed "pri" "2", .closed "seqno" "-1"] = none ∧
      (Transfer.family.finish [.closed "name" "f", .closed "project_url" "u",
        .closed "bytes_xferred" "10", .closed "last_bytes_xferred" "1500", .opened "file_xfer",
        .closed "bytes_xferred" "2000.5", .closed "bytes_xferred" "?"]) =
        some { ({} : Transfer) with
          name := "f", projectUrl := "u", active := true, bytesTransferred := 2000 } := by
  obtain ⟨⟨-, hmessage, -⟩, -, ⟨htransfer, -⟩, -⟩ := families_hold_last_readings
  refine ⟨(hmessage [.closed "seqno" "7", .closed "pri" "2"] "seqno" "-1" (sameTag_self _)).1
    (by decide +kernel), ?_⟩
  obtain ⟨bytes, hcounts, -, hfinish⟩ := htransfer [.closed "name" "f", .closed "project_url" "u",
    .closed "bytes_xferred" "10", .closed "last_bytes_xferred" "1500", .opened "file_xfer",
    .closed "bytes_xferred" "2000.5", .closed "bytes_xferred" "?"]
  obtain rfl : bytes = 2000 := hcounts.live_wins 2000 (by decide +kernel) (by decide)
  rw [hfinish]
  decide +kernel

/-- **The bytes transferred are no column**: neither of both tags, as the live count wins over a
persisted one that comes later, nor of the live one alone, as a persisted count alone is taken. -/
theorem bytesTransferred_ne_lastReading :
    ¬ (∀ calls, (Transfer.family.performAll Transfer.family.blank calls).bytesTransferred =
        (lastReading readSeconds? ["bytes_xferred", "last_bytes_xferred"] calls).getD 0) ∧
      ¬ (∀ calls, (Transfer.family.performAll Transfer.family.blank calls).bytesTransferred =
        (lastReading readSeconds? ["bytes_xferred"] calls).getD 0) := by
  refine ⟨fun h => ?_, fun h => ?_⟩
  · have hboth := h [.closed "bytes_xferred" "2000", .closed "last_bytes_xferred" "1500"]
    revert hboth
    decide +kernel
  · have hpersisted := h [.closed "last_bytes_xferred" "1500"]
    revert hpersisted
    decide +kernel

end DaemonReply
