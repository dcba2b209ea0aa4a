import DaemonReply.Proofs.Decimal
import DaemonReply.Proofs.WrittenReply
import DaemonReply.Record.AccountManager
import DaemonReply.Record.AppVersion
import DaemonReply.Record.Message
import DaemonReply.Record.Transfer
import Mathlib.Data.List.Forall2

/-!
# How the records of each family are written

The `RecordWriter`s of the four record families. A record has one leaf for every field: text is
escaped, numbers are written in decimal, flags as the family reads them. Seconds and counts are
read by way of binary64, and so have to be of a size up to which that is exact.

What the leaves do to a draft is a list of updates, one per leaf, and since no two of them set the
same field **the updates commute**: the leaves may be written in any order
(`RecordFamily.FilledBy.foldl_eq_of_perm`).
-/

namespace DaemonReply

open Markup Value

/-! ### Leaves as updates -/

namespace RecordFamily

variable {β ρ : Type} {family : RecordFamily β ρ} {written : List (String × String)}
  {updates : List (β → β)}

/-- Every leaf is filled in by an update of its own. -/
def FilledBy (family : RecordFamily β ρ) (written : List (String × String))
    (updates : List (β → β)) : Prop :=
  List.Forall₂ (fun entry update => ∀ draft, family.fill draft entry = update draft) written updates

theorem FilledBy.exists_of_mem (h : family.FilledBy written updates) {entry : String × String}
    (hentry : entry ∈ written) :
    ∃ update ∈ updates, ∀ draft, family.fill draft entry = update draft := by
  induction h with
  | nil => exact absurd hentry List.not_mem_nil
  | @cons first update _ _ hfirst _ ih =>
    rcases List.mem_cons.mp hentry with rfl | hrest
    · exact ⟨update, List.mem_cons_self, hfirst⟩
    · obtain ⟨other, hother, hfill⟩ := ih hrest
      exact ⟨other, List.mem_cons_of_mem update hother, hfill⟩

theorem FilledBy.append {written' : List (String × String)} {updates' : List (β → β)}
    (h : family.FilledBy written updates) (h' : family.FilledBy written' updates') :
    family.FilledBy (written ++ written') (updates ++ updates') :=
  List.rel_append h h'

theorem FilledBy.foldl_eq (h : family.FilledBy written updates) (draft : β) :
    written.foldl family.fill draft =
      updates.foldl (fun draft update => update draft) draft := by
  induction h generalizing draft with
  | nil => rfl
  | cons hfirst _ ih => rw [List.foldl_cons, List.foldl_cons, hfirst, ih]

/-- **Leaves whose updates commute** may be filled in in any order. -/
theorem FilledBy.foldl_eq_of_perm (h : family.FilledBy written updates)
    (hcomm : ∀ f ∈ updates, ∀ g ∈ updates, ∀ draft, g (f draft) = f (g draft))
    {entries : List (String × String)} (hperm : entries.Perm written) (draft : β) :
    entries.foldl family.fill draft =
      updates.foldl (fun draft update => update draft) draft := by
  rw [← h.foldl_eq]
  refine hperm.foldl_eq' (fun first hfirst second hsecond between => ?_) draft
  obtain ⟨f, hf, hfillFirst⟩ := h.exists_of_mem (hperm.mem_iff.mp hfirst)
  obtain ⟨g, hg, hfillSecond⟩ := h.exists_of_mem (hperm.mem_iff.mp hsecond)
  -- both leaves are filled in by updates of the same list, in either order
  rw [hfillFirst, hfillSecond, hfillSecond, hfillFirst]
  exact hcomm f hf g hg between

/-- A family reads its fields by a table: a field is set by its text alone, and the letter case
of a name does not matter. -/
structure ByTable {φ : Type} (family : RecordFamily β ρ) (table : FieldTable φ)
    (set : β → φ → String → String → Stored β) : Prop where
  lower : table.isLower = true
  assign_eq : ∀ draft name text, family.assign draft name text =
    match table.find? name with
    | some field => set draft field name text
    | none => { value := draft }
  set_congr : ∀ draft field name name' text,
    (set draft field name text).value = (set draft field name' text).value
  enter_foldCase : ∀ draft name, family.enter draft (foldCase name) = family.enter draft name

namespace ByTable

variable {φ : Type} {table : FieldTable φ} {set : β → φ → String → String → Stored β}

/-- A leaf whose name is a key sets the field of that key. -/
theorem fill_of_get? (h : family.ByTable table set) {name : String} {field : φ}
    (hname : table.get? name = some field) (draft : β) (text : String) :
    family.fill draft (name, text) = (set (family.enter draft name) field name text).value := by
  rw [fill, h.assign_eq, FieldTable.find?_eq_of_get? hname]

theorem fill_foldCase (h : family.ByTable table set) (draft : β) (name text : String) :
    family.fill draft (foldCase name, text) = family.fill draft (name, text) := by
  simp only [fill, h.assign_eq, h.enter_foldCase, FieldTable.find?_eq_get?_foldCase h.lower,
    foldCase_foldCase]
  rcases table.get? (foldCase name) with _ | field
  · rfl
  · exact h.set_congr _ field _ _ text

end ByTable

/-- Names in lower case are not that of the boundary if they differ from it. -/
theorem isBoundary_eq_false_of_mem {names : List String}
    (hboundary : family.boundary.toList.any Char.isUpper = false)
    (hall : names.all (fun name => !name.toList.any Char.isUpper && name != family.boundary) = true)
    {name : String} (hname : name ∈ names) : family.isBoundary name = false := by
  obtain ⟨hlower, hne⟩ : name.toList.any Char.isUpper = false ∧ name ≠ family.boundary := by
    simpa using List.all_eq_true.mp hall name hname
  rw [isBoundary, sameTag, foldCase_eq_self hlower, foldCase_eq_self hboundary]
  exact decide_eq_false hne

/-- Leaves with such names, in any order, are inside a record. -/
theorem isBoundary_eq_false_of_perm {names : List String} {entries : List (String × String)}
    (hboundary : family.boundary.toList.any Char.isUpper = false)
    (hnames : written.map Prod.fst = names)
    (hall : names.all (fun name => !name.toList.any Char.isUpper && name != family.boundary) = true)
    (hperm : entries.Perm written) : ∀ entry ∈ entries, family.isBoundary entry.1 = false := by
  intro entry hentry
  have hname : entry.1 ∈ written.map Prod.fst :=
    List.mem_map.mpr ⟨entry, hperm.mem_iff.mp hentry, rfl⟩
  exact isBoundary_eq_false_of_mem hboundary hall (hnames ▸ hname)

end RecordFamily

/-! ### Messages -/

namespace Message

theorem byTable : family.ByTable fields set where
  lower := by decide
  assign_eq m name text := by
    rcases hfield : fields.find? name with _ | field <;> simp [family, hfield]
  set_congr m field name name' text := by
    cases field <;> simp [set]
  enter_foldCase _ _ := rfl

/-- The leaves of a message, for a choice between the two names of two fields. -/
def entries (m : Message) (priority time : String) : List (String × String) :=
  [("body", m.body), (priority, toString m.priority.toInt), ("project", m.project),
    (time, toString m.timestamp.toInt), ("seqno", toString m.sequenceNumber.toInt)]

/-- What the leaves of a message do to a draft. -/
def updates (m : Message) : List (Message → Message) :=
  [fun draft => { draft with body := m.body },
    fun draft => { draft with priority := m.priority },
    fun draft => { draft with project := m.project },
    fun draft => { draft with timestamp := m.timestamp },
    fun draft => { draft with sequenceNumber := m.sequenceNumber }]

theorem map_fst_entries (m : Message) (priority time : String) :
    (m.entries priority time).map Prod.fst = ["body", priority, "project", time, "seqno"] := rfl

theorem filledBy_updates (m : Message) {priority time : String}
    (hpriority : fields.get? priority = some .priority) (htime : fields.get? time = some .time)
    (hexact : m.timestamp.toInt.natAbs ≤ 2 ^ 53) :
    family.FilledBy (m.entries priority time) m.updates := by
  refine .cons ?_ (.cons ?_ (.cons ?_ (.cons ?_ (.cons ?_ .nil))))
  · intro draft
    rw [byTable.fill_of_get? (show fields.get? "body" = some .body from rfl), set]
    rfl
  · intro draft
    rw [byTable.fill_of_get? hpriority, set, readInt32?_toString]
    rfl
  · intro draft
    rw [byTable.fill_of_get? (show fields.get? "project" = some .project from rfl), set]
    rfl
  · intro draft
    rw [byTable.fill_of_get? htime, set, readSeconds?_toString hexact]
    rfl
  · intro draft
    rw [byTable.fill_of_get? (show fields.get? "seqno" = some .sequenceNumber from rfl), set,
      readInt32?_toString]
    rfl

theorem updates_comm (m : Message) :
    ∀ f ∈ m.updates, ∀ g ∈ m.updates, ∀ draft, g (f draft) = f (g draft) := by
  intro f hf g hg draft
  simp only [updates, List.mem_cons, List.not_mem_nil, or_false] at hf hg
  rcases hf with rfl | rfl | rfl | rfl | rfl <;> rcases hg with rfl | rfl | rfl | rfl | rfl <;> rfl

/-- How messages are written. -/
def writer : RecordWriter family where
  Writes m entries :=
    m.timestamp.toInt.natAbs ≤ 2 ^ 53 ∧ ∃ priority ∈ ["pri", "priority"],
      ∃ time ∈ ["time", "timestamp"], entries.Perm (m.entries priority time)
  kept m := m.sequenceNumber != unset
  inside := by
    rintro m entries ⟨-, priority, hpriority, time, htime, hperm⟩
    refine RecordFamily.isBoundary_eq_false_of_perm (by decide) (m.map_fst_entries priority time)
      ?_ hperm
    simp only [List.mem_cons, List.not_mem_nil, or_false] at hpriority htime
    rcases hpriority with rfl | rfl <;> rcases htime with rfl | rfl <;> decide
  fill_foldCase := byTable.fill_foldCase
  complete_foldl := by
    rintro m entries ⟨hexact, priority, hpriority, time, htime, hperm⟩
    simp only [List.mem_cons, List.not_mem_nil, or_false] at hpriority htime
    have hfilled : family.FilledBy (m.entries priority time) m.updates := by
      refine m.filledBy_updates ?_ ?_ hexact
      · rcases hpriority with rfl | rfl <;> rfl
      · rcases htime with rfl | rfl <;> rfl
    rw [hfilled.foldl_eq_of_perm m.updates_comm hperm]
    rfl

end Message

/-! ### Application versions -/

namespace AppVersion

theorem byTable : family.ByTable fields set where
  lower := by decide
  assign_eq v name text := by
    rcases hfield : fields.find? name with _ | field <;> simp [family, hfield]
  set_congr v field name name' text := by
    cases field <;> simp [set]
  enter_foldCase _ _ := rfl

/-- The leaves of an application version. -/
def entries (v : AppVersion) : List (String × String) :=
  [("app_name", v.appName), ("version_num", toString v.versionNumber.toInt)]

/-- What the leaves of an application version do to a draft. -/
def updates (v : AppVersion) : List (AppVersion → AppVersion) :=
  [fun draft => { draft with appName := v.appName },
    fun draft => { draft with versionNumber := v.versionNumber }]

theorem map_fst_entries (v : AppVersion) :
    v.entries.map Prod.fst = ["app_name", "version_num"] := rfl

theorem filledBy_updates (v : AppVersion) : family.FilledBy v.entries v.updates := by
  refine .cons ?_ (.cons ?_ .nil)
  · intro draft
    rw [byTable.fill_of_get? (show fields.get? "app_name" = some .appName from rfl), set]
    rfl
  · intro draft
    rw [byTable.fill_of_get? (show fields.get? "version_num" = some .versionNumber from rfl), set,
      readInt32?_toString]
    rfl

theorem updates_comm (v : AppVersion) :
    ∀ f ∈ v.updates, ∀ g ∈ v.updates, ∀ draft, g (f draft) = f (g draft) := by
  intro f hf g hg draft
  simp only [updates, List.mem_cons, List.not_mem_nil, or_false] at hf hg
  rcases hf with rfl | rfl <;> rcases hg with rfl | rfl <;> rfl

/-- How application versions are written. -/
def writer : RecordWriter family where
  Writes v entries := entries.Perm v.entries
  kept v := v.appName != ""
  inside := by
    intro v entries hperm
    exact RecordFamily.isBoundary_eq_false_of_perm (by decide) v.map_fst_entries (by decide) hperm
  fill_foldCase := byTable.fill_foldCase
  complete_foldl := by
    intro v entries hperm
    rw [v.filledBy_updates.foldl_eq_of_perm v.updates_comm hperm]
    by_cases hname : v.appName = "" <;> simp [updates, family, hname]

end AppVersion

/-! ### File transfers -/

namespace Transfer

theorem byTable : family.ByTable fields set where
  lower := by decide
  assign_eq t name text := by
    rcases hfield : fields.find? name with _ | field <;> simp [family, hfield]
  set_congr t field name name' text := by
    cases field <;> simp [set]
    split <;> simp
  enter_foldCase t name := by
    simp [family, sameTag]

/-- The leaves for the fields of a transfer. -/
def fieldEntries (t : Transfer) : List (String × String) :=
  [("name", t.name), ("project_url", t.projectUrl),
    ("generated_locally", flagText t.generatedLocally), ("is_upload", flagText t.isUpload),
    ("nbytes", toString t.size.toInt), ("status", toString t.status.toInt),
    ("time_so_far", toString t.timeSoFar.toInt),
    ("next_request_time", toString t.nextRequestTime.toInt),
    ("project_backoff", toString t.projectBackoff.toInt),
    ("bytes_xferred", toString t.bytesTransferred.toInt),
    ("xfer_speed", toString t.speed.toInt)]

/-- The leaves of a transfer: if it is running, the container of the live counters is there. -/
def entries (t : Transfer) : List (String × String) :=
  t.fieldEntries ++ if t.active then [("file_xfer", "")] else []

/-- The names of the leaves of a transfer. -/
def leafNames : List String :=
  ["name", "project_url", "generated_locally", "is_upload", "nbytes", "status", "time_so_far",
    "next_request_time", "project_backoff", "bytes_xferred", "xfer_speed", "file_xfer"]

theorem map_fst_entries_subset (t : Transfer) : t.entries.map Prod.fst ⊆ leafNames := by
  rcases hactive : t.active with _ | _ <;> simp [entries, fieldEntries, leafNames, hactive]

/-- Whether all numbers of a transfer that are read by way of binary64 are read exactly. -/
def IsExact (t : Transfer) : Prop :=
  ∀ v ∈ [t.size, t.timeSoFar, t.nextRequestTime, t.projectBackoff, t.bytesTransferred, t.speed],
    v.toInt.natAbs ≤ 2 ^ 53

/-- What the leaves for the fields of a transfer do to a draft. -/
def fieldUpdates (t : Transfer) : List (Transfer → Transfer) :=
  [fun draft => { draft with name := t.name },
    fun draft => { draft with projectUrl := t.projectUrl },
    fun draft => { draft with generatedLocally := t.generatedLocally },
    fun draft => { draft with isUpload := t.isUpload },
    fun draft => { draft with size := t.size },
    fun draft => { draft with status := t.status },
    fun draft => { draft with timeSoFar := t.timeSoFar },
    fun draft => { draft with nextRequestTime := t.nextRequestTime },
    fun draft => { draft with projectBackoff := t.projectBackoff },
    fun draft => { draft with bytesTransferred := t.bytesTransferred },
    fun draft => { draft with speed := t.speed }]

/-- What the container of the live counters does to a draft. -/
def activate (draft : Transfer) : Transfer :=
  { draft with active := true }

/-- What the leaves of a transfer do to a draft. -/
def updates (t : Transfer) : List (Transfer → Transfer) :=
  t.fieldUpdates ++ if t.active then [activate] else []

/-- No field has the name of the live container, so the opening of a field does nothing. -/
theorem fill_field {name : String} {field : Field} (hname : fields.get? name = some field)
    (draft : Transfer) (text : String) :
    family.fill draft (name, text) = (draft.set field name text).value := by
  have hlower : foldCase name = name := FieldTable.foldCase_of_get? byTable.lower hname
  have hne : name ≠ liveContainer := by
    rintro rfl
    exact Option.some_ne_none field (hname.symm.trans rfl)
  have hlive : sameTag name liveContainer = false := by
    rw [sameTag, hlower, foldCase_eq_self (by decide)]
    exact decide_eq_false hne
  have henter : family.enter draft name = draft := by
    simp [family, hlive]
  rw [byTable.fill_of_get? hname, henter]

theorem fill_liveContainer (draft : Transfer) :
    family.fill draft ("file_xfer", "") = activate draft := by
  have hnone : fields.find? "file_xfer" = none := by
    rw [FieldTable.find?_eq_get?_foldCase byTable.lower, foldCase_eq_self (by decide)]
    rfl
  simp [RecordFamily.fill, family, hnone, liveContainer, activate]

theorem filledBy_fieldUpdates {t : Transfer} (hexact : t.IsExact) :
    family.FilledBy t.fieldEntries t.fieldUpdates := by
  refine .cons ?_ (.cons ?_ (.cons ?_ (.cons ?_ (.cons ?_ (.cons ?_ (.cons ?_ (.cons ?_
    (.cons ?_ (.cons ?_ (.cons ?_ .nil)))))))))) <;> intro draft
  · rw [fill_field (show fields.get? "name" = some .name from rfl), set]
  · rw [fill_field (show fields.get? "project_url" = some .projectUrl from rfl), set]
  · rw [fill_field (show fields.get? "generated_locally" = some .generatedLocally from rfl), set,
      readFlag?_flagText]
    rfl
  · rw [fill_field (show fields.get? "is_upload" = some .isUpload from rfl), set,
      readFlag?_flagText]
    rfl
  · rw [fill_field (show fields.get? "nbytes" = some .size from rfl), set,
      readSeconds?_toString (hexact t.size (by simp))]
    rfl
  · rw [fill_field (show fields.get? "status" = some .status from rfl), set, readInt32?_toString]
    rfl
  · rw [fill_field (show fields.get? "time_so_far" = some .timeSoFar from rfl), set,
      readSeconds?_toString (hexact t.timeSoFar (by simp))]
    rfl
  · rw [fill_field (show fields.get? "next_request_time" = some .nextRequestTime from rfl), set,
      readSeconds?_toString (hexact t.nextRequestTime (by simp))]
    rfl
  · rw [fill_field (show fields.get? "project_backoff" = some .projectBackoff from rfl), set,
      readSeconds?_toString (hexact t.projectBackoff (by simp))]
    rfl
  · rw [fill_field (show fields.get? "bytes_xferred" = some .liveBytes from rfl), set,
      readSeconds?_toString (hexact t.bytesTransferred (by simp))]
    rfl
  · rw [fill_field (show fields.get? "xfer_speed" = some .speed from rfl), set,
      readSeconds?_toString (hexact t.speed (by simp))]
    rfl

theorem filledBy_updates {t : Transfer} (hexact : t.IsExact) :
    family.FilledBy t.entries t.updates := by
  refine (filledBy_fieldUpdates hexact).append ?_
  rcases t.active with _ | _
  · exact .nil
  · exact .cons fill_liveContainer .nil

theorem updates_comm (t : Transfer) :
    ∀ f ∈ t.updates, ∀ g ∈ t.updates, ∀ draft, g (f draft) = f (g draft) := by
  have hall : ∀ f ∈ t.updates, f ∈ activate :: t.fieldUpdates := by
    intro f hf
    rcases List.mem_append.mp hf with hf | hf
    · exact List.mem_cons_of_mem _ hf
    · rcases hactive : t.active with _ | _
      · simp [hactive] at hf
      · simp_all
  intro f hf g hg draft
  have hf := hall f hf
  have hg := hall g hg
  simp only [fieldUpdates, List.mem_cons, List.not_mem_nil, or_false] at hf hg
  -- each update sets one member of the structure, so any two can be exchanged
  rcases hf with rfl | rfl | rfl | rfl | rfl | rfl | rfl | rfl | rfl | rfl | rfl | rfl <;>
    rcases hg with rfl | rfl | rfl | rfl | rfl | rfl | rfl | rfl | rfl | rfl | rfl | rfl <;> rfl

theorem foldl_updates (t : Transfer) :
    t.updates.foldl (fun draft update => update draft) family.blank = t := by
  rcases hactive : t.active with _ | _
  · simp only [updates, hactive]
    obtain ⟨name, projectUrl, generatedLocally, isUpload, active, _⟩ := t
    obtain rfl : active = false := hactive
    rfl
  · simp only [updates, hactive]
    obtain ⟨name, projectUrl, generatedLocally, isUpload, active, _⟩ := t
    obtain rfl : active = true := hactive
    rfl

/-- How transfers are written. -/
def writer : RecordWriter family where
  Writes t entries := t.IsExact ∧ entries.Perm t.entries
  kept t := t.name != "" && t.projectUrl != ""
  inside := by
    rintro t entries ⟨-, hperm⟩ entry hentry
    have hname := t.map_fst_entries_subset (List.mem_map_of_mem (hperm.mem_iff.mp hentry))
    exact RecordFamily.isBoundary_eq_false_of_mem (by decide) (by decide) hname
  fill_foldCase := byTable.fill_foldCase
  complete_foldl := by
    rintro t entries ⟨hexact, hperm⟩
    rw [(filledBy_updates hexact).foldl_eq_of_perm t.updates_comm hperm, t.foldl_updates]
    by_cases hname : t.name = "" <;> by_cases hurl : t.projectUrl = "" <;>
      simp [family, hname, hurl]

end Transfer

/-! ### The account manager -/

namespace AccountManager

/-- A table entry of the account manager is set by its text alone. -/
theorem byTable : family.ByTable fields fun a field _ text => { value := a.set field text } where
  lower := by decide
  assign_eq a name text := by
    rcases hfield : fields.find? name with _ | field <;> simp [family, hfield]
  set_congr _ _ _ _ _ := rfl
  enter_foldCase _ _ := rfl

/-- The text of a flag by presence: none if it is set. -/
def presenceText (flag : Bool) : String :=
  if flag then "" else "0"

theorem presenceFlag_presenceText (flag : Bool) : presenceFlag (presenceText flag) = flag := by
  rcases flag with _ | _
  · exact presenceFlag_zero
  · exact presenceFlag_empty

/-- The leaves of an account manager. -/
def entries (a : AccountManager) : List (String × String) :=
  [("acct_mgr_name", a.name), ("acct_mgr_url", a.url),
    ("have_credentials", presenceText a.haveCredentials),
    ("cookie_required", presenceText a.cookieRequired),
    ("cookie_failure_url", a.cookieFailureUrl)]

/-- What the leaves of an account manager do to a draft. -/
def updates (a : AccountManager) : List (AccountManager → AccountManager) :=
  [fun draft => { draft with name := a.name },
    fun draft => { draft with url := a.url },
    fun draft => { draft with haveCredentials := a.haveCredentials },
    fun draft => { draft with cookieRequired := a.cookieRequired },
    fun draft => { draft with cookieFailureUrl := a.cookieFailureUrl }]

theorem map_fst_entries (a : AccountManager) :
    a.entries.map Prod.fst = ["acct_mgr_name", "acct_mgr_url", "have_credentials",
      "cookie_required", "cookie_failure_url"] := rfl

theorem filledBy_updates (a : AccountManager) : family.FilledBy a.entries a.updates := by
  refine .cons ?_ (.cons ?_ (.cons ?_ (.cons ?_ (.cons ?_ .nil)))) <;> intro draft
  · rw [byTable.fill_of_get? (show fields.get? "acct_mgr_name" = some .name from rfl)]
    rfl
  · rw [byTable.fill_of_get? (show fields.get? "acct_mgr_url" = some .url from rfl)]
    rfl
  · rw [byTable.fill_of_get? (show fields.get? "have_credentials" = some .haveCredentials from rfl),
      set, presenceFlag_presenceText]
    rfl
  · rw [byTable.fill_of_get? (show fields.get? "cookie_required" = some .cookieRequired from rfl),
      set, presenceFlag_presenceText]
    rfl
  · rw [byTable.fill_of_get?
      (show fields.get? "cookie_failure_url" = some .cookieFailureUrl from rfl)]
    rfl

theorem updates_comm (a : AccountManager) :
    ∀ f ∈ a.updates, ∀ g ∈ a.updates, ∀ draft, g (f draft) = f (g draft) := by
  intro f hf g hg draft
  simp only [updates, List.mem_cons, List.not_mem_nil, or_false] at hf hg
  rcases hf with rfl | rfl | rfl | rfl | rfl <;> rcases hg with rfl | rfl | rfl | rfl | rfl <;> rfl

/-- How account managers are written. -/
def writer : RecordWriter family where
  Writes a entries := entries.Perm a.entries
  kept _ := true
  inside := by
    intro a entries hperm
    exact RecordFamily.isBoundary_eq_false_of_perm (by decide) a.map_fst_entries (by decide) hperm
  fill_foldCase := byTable.fill_foldCase
  complete_foldl := by
    intro a entries hperm
    rw [a.filledBy_updates.foldl_eq_of_perm a.updates_comm hperm]
    rfl

end AccountManager

end DaemonReply
