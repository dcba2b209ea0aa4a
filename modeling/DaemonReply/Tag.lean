/-!
# Tags and field tables

The daemon's tag names are matched without regard to the letter case of ASCII letters; no other
character is folded. A record family knows its fields by a **field table**, whose keys differ
from each other and are written in lower case.

Two matchers use the same folding: `sameTag` compares a name with one tag, and
`FieldTable.find?` looks a name up, first as written and then in lower case.
-/

namespace DaemonReply

/-- A name with its ASCII letters in lower case. -/
def foldCase (name : String) : String :=
  name.map Char.toLower

/-- Whether two names are the same up to the letter case of ASCII letters. -/
def sameTag (name tag : String) : Bool :=
  foldCase name = foldCase tag

@[simp] theorem sameTag_self (name : String) : sameTag name name = true := by
  simp [sameTag]

/-- A character that is no upper-case letter is not folded. -/
theorem toLower_of_isUpper_eq_false {c : Char} (h : c.isUpper = false) : c.toLower = c :=
  dif_neg (of_decide_eq_false h)

/-- A digit has no letter case. -/
theorem toLower_of_isDigit {c : Char} (hc : c.isDigit = true) : c.toLower = c := by
  simp only [Char.isDigit, Bool.and_eq_true, decide_eq_true_eq] at hc
  refine toLower_of_isUpper_eq_false (decide_eq_false ?_)
  rintro ⟨hle, -⟩
  have hnine : (65 : UInt32) ≤ 57 := UInt32.le_trans hle hc.2
  exact absurd hnine (by decide)

theorem isUpper_iff {c : Char} :
    c.isUpper = true ↔ 'A'.toNat ≤ c.toNat ∧ c.toNat ≤ 'Z'.toNat :=
  decide_eq_true_iff.trans (and_congr UInt32.le_iff_toNat_le UInt32.le_iff_toNat_le)

/-- A capital is folded to the letter 32 places behind it. -/
theorem toNat_toLower {c : Char} (h : c.isUpper = true) : c.toLower.toNat = c.toNat + 32 := by
  have hval : c.toLower.val = c.val + ('a'.val - 'A'.val) :=
    congrArg Char.val (dif_pos (of_decide_eq_true h))
  obtain ⟨-, hlast⟩ := isUpper_iff.mp h
  rw [Char.toNat] at hlast
  have hZ : 'Z'.toNat = 90 := rfl
  have hshift : ('a'.val - 'A'.val).toNat = 32 := rfl
  -- the sum is far from wrapping around
  rw [Char.toNat, Char.toNat, hval, UInt32.toNat_add, hshift]
  omega

/-- A folded character is no upper-case letter. -/
theorem isUpper_toLower (c : Char) : c.toLower.isUpper = false := by
  cases h : c.isUpper with
  | false => rw [toLower_of_isUpper_eq_false h, h]
  | true =>
    obtain ⟨hfirst, -⟩ := isUpper_iff.mp h
    rw [Bool.eq_false_iff]
    intro hupper
    obtain ⟨-, hlast⟩ := isUpper_iff.mp hupper
    rw [toNat_toLower h] at hlast
    -- the lower-case letters lie behind the upper-case ones
    have hA : 'A'.toNat = 65 := rfl
    have hZ : 'Z'.toNat = 90 := rfl
    omega

/-- Folding twice is folding once. -/
@[simp] theorem foldCase_foldCase (name : String) : foldCase (foldCase name) = foldCase name := by
  have hchar : ∀ c : Char, c.toLower.toLower = c.toLower := fun c =>
    toLower_of_isUpper_eq_false (isUpper_toLower c)
  simp [foldCase, ← String.toList_inj, hchar]

@[simp] theorem sameTag_foldCase (name : String) : sameTag (foldCase name) name = true := by
  simp [sameTag]

/-- A name without upper-case letters is in lower case. -/
theorem foldCase_eq_self {name : String} (h : name.toList.any Char.isUpper = false) :
    foldCase name = name := by
  have hchar : ∀ c ∈ name.toList, c.toLower = c := by
    intro c hc
    exact toLower_of_isUpper_eq_false (by simpa using List.any_eq_false.mp h c hc)
  rw [foldCase, ← String.toList_inj, String.toList_map]
  exact (List.map_congr_left hchar).trans (List.map_id _)

/-! ### Field tables -/

/-- What the names of a record family stand for. -/
structure FieldTable (α : Type) where
  entries : List (String × α)
  nodup : (entries.map Prod.fst).Nodup := by decide

namespace FieldTable

variable {α : Type}

/-- The entry under a key, as written. -/
def get? (table : FieldTable α) (key : String) : Option α :=
  table.entries.lookup key

/-- The entry of a key is found under it, as no other has the same key. -/
theorem get?_eq_some_iff {table : FieldTable α} {key : String} {field : α} :
    table.get? key = some field ↔ (key, field) ∈ table.entries := by
  rw [get?, List.lookup_eq_some_iff]
  constructor
  · rintro ⟨front, back, hentries, -⟩
    simp [hentries]
  · intro hmem
    obtain ⟨front, back, hentries⟩ := List.append_of_mem hmem
    refine ⟨front, back, hentries, fun entry hentry => ?_⟩
    have hnodup := table.nodup
    rw [hentries, List.map_append, List.map_cons, List.nodup_append] at hnodup
    -- an earlier entry with this key would be a second one
    have hne := hnodup.2.2 entry.1 (List.mem_map_of_mem hentry) key List.mem_cons_self
    simpa using hne.symm

/-- What a name stands for: its own entry if there is one, otherwise, if it has an upper-case
ASCII letter, the entry of the name in lower case. -/
def find? (table : FieldTable α) (name : String) : Option α :=
  match table.get? name with
  | some field => some field
  | none => if name.toList.any Char.isUpper then table.get? (foldCase name) else none

/-- Whether no key has an upper-case letter. -/
def isLower (table : FieldTable α) : Bool :=
  table.entries.all fun entry => !entry.1.toList.any Char.isUpper

/-- The keys of a table in lower case are in lower case. -/
theorem foldCase_of_get? {table : FieldTable α} (hlower : table.isLower = true) {key : String}
    {field : α} (h : table.get? key = some field) : foldCase key = key := by
  have hkey := List.all_eq_true.mp hlower (key, field) (get?_eq_some_iff.mp h)
  exact foldCase_eq_self (by simpa using hkey)

/-- **Looking a name up is looking it up in lower case**, if the table is in lower case. -/
theorem find?_eq_get?_foldCase {table : FieldTable α} (hlower : table.isLower = true)
    (name : String) : table.find? name = table.get? (foldCase name) := by
  rw [find?]
  split
  · rename_i field hfield
    rw [foldCase_of_get? hlower hfield, hfield]
  · rename_i hnone
    split
    · rfl
    · rename_i hname
      rw [foldCase_eq_self (by simpa using hname), hnone]

/-- In a table in lower case a name matches no key but itself in lower case. -/
theorem key_eq_foldCase {table : FieldTable α} (hlower : table.isLower = true) {key name : String}
    {field : α} (hmem : (key, field) ∈ table.entries) (hname : sameTag name key = true) :
    key = foldCase name := by
  have hkey : foldCase key = key := foldCase_of_get? hlower (get?_eq_some_iff.mpr hmem)
  have hfold : foldCase name = foldCase key := by simpa [sameTag] using hname
  rw [hfold, hkey]

/-- **A name finds the entry of the key that it matches**, if the table is in lower case. -/
theorem find?_eq_some_iff {table : FieldTable α} (hlower : table.isLower = true) {name : String}
    {field : α} : table.find? name = some field ↔
      ∃ key, (key, field) ∈ table.entries ∧ sameTag name key = true := by
  rw [find?_eq_get?_foldCase hlower, get?_eq_some_iff]
  constructor
  · intro hmem
    exact ⟨foldCase name, hmem, by simp [sameTag]⟩
  · rintro ⟨key, hmem, hname⟩
    rwa [← key_eq_foldCase hlower hmem hname]

/-- A name that is a key finds its own entry, whatever its letter case. -/
theorem find?_eq_of_get? {table : FieldTable α} {name : String} {field : α}
    (h : table.get? name = some field) : table.find? name = some field := by
  simp [find?, h]

end FieldTable

end DaemonReply
