import DaemonReply.Record.AccountManager
import DaemonReply.Record.AppVersion
import DaemonReply.Record.Message
import DaemonReply.Record.Transfer
import Mathlib.Data.List.Forall2

/-!
# Comparing a name and looking it up

A boundary or a container is recognised by comparing a name with its tag, a field by looking the
name up in a table, first as written and then in lower case. The comparison is one of characters:
the two names are equally long, and at each place stands the same character or **one ASCII letter
in its two cases** (`sameTag_iff_forall₂`). No other character is folded, whatever cases it has.

The look-up is this comparison with every key, if the table is in lower case
(`FieldTable.find?_eq_some_iff`); such a table has at most one key that a name matches, since the
name in lower case is the only candidate (`FieldTable.eq_of_sameTag`). Without a condition on the
table a name that is a key comes first (`FieldTable.find?_eq_or`).

Main statement: the two matchers agree (`matchers_agree`).
-/

namespace DaemonReply

/-! ### Letters -/

/-- An ASCII letter in upper case and the same letter in lower case. -/
def IsCapitalOf (capital small : Char) : Prop :=
  'A'.toNat ≤ capital.toNat ∧ capital.toNat ≤ 'Z'.toNat ∧ small.toNat = capital.toNat + 32

/-- Two characters that are the same, or one ASCII letter in its two cases. -/
def SameLetter (c d : Char) : Prop :=
  c = d ∨ IsCapitalOf c d ∨ IsCapitalOf d c

/-- Whether a character is one of the 128 of ASCII. -/
def IsAscii (c : Char) : Prop :=
  c.toNat < 128

instance (capital small : Char) : Decidable (IsCapitalOf capital small) :=
  inferInstanceAs (Decidable (_ ∧ _ ∧ _))

instance : DecidableRel SameLetter := fun c d =>
  inferInstanceAs (Decidable (c = d ∨ _ ∨ _))

instance (c : Char) : Decidable (IsAscii c) :=
  inferInstanceAs (Decidable (c.toNat < 128))

variable {c d : Char} {name tag : String}

theorem isCapitalOf_iff : IsCapitalOf c d ↔ c.isUpper = true ∧ d = c.toLower := by
  rw [isUpper_iff, IsCapitalOf, ← and_assoc]
  refine and_congr_right fun hc => ?_
  rw [← toNat_toLower (isUpper_iff.mpr hc), Char.toNat_inj]

/-- **Two characters are folded alike** if they are the same letter. -/
theorem toLower_eq_toLower_iff : c.toLower = d.toLower ↔ SameLetter c d := by
  rw [SameLetter, isCapitalOf_iff, isCapitalOf_iff]
  cases hc : c.isUpper with
  | true =>
    cases hd : d.isUpper with
    | true =>
      -- the fold moves all capitals by as much
      have hcd : c.toLower = d.toLower ↔ c = d := by
        rw [← Char.toNat_inj, toNat_toLower hc, toNat_toLower hd, Nat.add_right_cancel_iff,
          Char.toNat_inj]
      have hne : d ≠ c.toLower := fun h => by rw [h, isUpper_toLower] at hd; cases hd
      have hne' : c ≠ d.toLower := fun h => by rw [h, isUpper_toLower] at hc; cases hc
      simp [hcd, hne, hne']
    | false =>
      have hne : c ≠ d := fun h => by simp [h, hd] at hc
      simp [toLower_of_isUpper_eq_false hd, hne, eq_comm]
  | false =>
    cases hd : d.isUpper with
    | true =>
      have hne : c ≠ d := fun h => by simp [h, hd] at hc
      simp [toLower_of_isUpper_eq_false hc, hne]
    | false => simp [toLower_of_isUpper_eq_false hc, toLower_of_isUpper_eq_false hd]

/-- Outside ASCII no two characters are the same letter. -/
theorem SameLetter.eq_of_not_isAscii (h : SameLetter c d) (hascii : ¬ (IsAscii c ∧ IsAscii d)) :
    c = d := by
  have hZ : 'Z'.toNat = 90 := rfl
  rcases h with h | ⟨-, hlast, hsmall⟩ | ⟨-, hlast, hsmall⟩
  · exact h
  · exact absurd (by unfold IsAscii; omega) hascii
  · exact absurd (by unfold IsAscii; omega) hascii

/-! ### Names -/

/-- **Two names match character by character.** -/
theorem sameTag_iff_forall₂ :
    sameTag name tag = true ↔ List.Forall₂ SameLetter name.toList tag.toList := by
  have hletter : SameLetter = fun c d => c.toLower = d.toLower := by
    funext c d
    exact propext toLower_eq_toLower_iff.symm
  rw [sameTag, decide_eq_true_iff, foldCase, foldCase, ← String.toList_inj, String.toList_map,
    String.toList_map, hletter, ← List.forall₂_eq_eq_eq, List.forall₂_map_left_iff,
    List.forall₂_map_right_iff]

/-- Names do not match if they differ in a character outside ASCII. -/
theorem sameTag_eq_false_of_ne {i : Nat} (hc : name.toList[i]? = some c)
    (hd : tag.toList[i]? = some d) (hne : c ≠ d) (hascii : ¬ (IsAscii c ∧ IsAscii d)) :
    sameTag name tag = false := by
  rw [Bool.eq_false_iff]
  intro hmatch
  obtain ⟨hi, rfl⟩ := List.getElem?_eq_some_iff.mp hc
  obtain ⟨hi', rfl⟩ := List.getElem?_eq_some_iff.mp hd
  have hletter := (sameTag_iff_forall₂.mp hmatch).get hi hi'
  exact hne (hletter.eq_of_not_isAscii hascii)

/-! ### Tables -/

namespace FieldTable

variable {α : Type} {table : FieldTable α} {entry entry' : String × α}

/-- No name matches two keys of a table in lower case. -/
theorem eq_of_sameTag (hlower : table.isLower = true) (hentry : entry ∈ table.entries)
    (hentry' : entry' ∈ table.entries) (hname : sameTag name entry.1 = true)
    (hname' : sameTag name entry'.1 = true) : entry = entry' := by
  obtain ⟨key, field⟩ := entry
  obtain ⟨key', field'⟩ := entry'
  obtain rfl : key = key' :=
    (key_eq_foldCase hlower hentry hname).trans (key_eq_foldCase hlower hentry' hname').symm
  have hget : table.get? key = some field := get?_eq_some_iff.mpr hentry
  have hget' : table.get? key = some field' := get?_eq_some_iff.mpr hentry'
  rw [Option.some.inj (hget.symm.trans hget')]

/-- A name is looked up as it is written, and then in lower case. -/
theorem find?_eq_or (table : FieldTable α) (name : String) :
    table.find? name = (table.get? name).or (table.get? (foldCase name)) := by
  rw [find?]
  cases hget : table.get? name with
  | some field => rfl
  | none =>
    split_ifs with hupper
    · rfl
    -- a name in lower case has been looked up already
    · rw [foldCase_eq_self (by simpa using hupper), hget]
      rfl

end FieldTable

/-- The name in lower case is the spelling of a name that has no upper-case ASCII letter. -/
theorem foldCase_spells (name : String) :
    List.Forall₂ SameLetter name.toList (foldCase name).toList ∧
      ∀ c ∈ (foldCase name).toList, c.isUpper = false := by
  refine ⟨sameTag_iff_forall₂.mp (by simp [sameTag]), fun c hc => ?_⟩
  rw [foldCase, String.toList_map, List.mem_map] at hc
  obtain ⟨d, -, rfl⟩ := hc
  exact isUpper_toLower d

/-- **The two matchers agree.** A name matches a tag letter by letter, where nothing but the case
of ASCII letters may differ. What a name finds in a table in lower case, as the tables of all four
families are, is the entry of the one key that it matches; in any table it is its own entry if
there is one, and otherwise that of the name in lower case. -/
theorem matchers_agree {α : Type} (table : FieldTable α) (name : String) :
    ((∀ tag, sameTag name tag = true ↔ List.Forall₂ SameLetter name.toList tag.toList) ∧
        ∀ tag (i : Nat) c d, name.toList[i]? = some c → tag.toList[i]? = some d → c ≠ d →
          ¬ (IsAscii c ∧ IsAscii d) → sameTag name tag = false) ∧
      (table.isLower = true →
        (∀ field, table.find? name = some field ↔
          ∃ key, (key, field) ∈ table.entries ∧ sameTag name key = true) ∧
        ∀ entry ∈ table.entries, ∀ entry' ∈ table.entries, sameTag name entry.1 = true →
          sameTag name entry'.1 = true → entry = entry') ∧
      (Message.fields.isLower = true ∧ AppVersion.fields.isLower = true ∧
        Transfer.fields.isLower = true ∧ AccountManager.fields.isLower = true) ∧
      (∀ field, (name, field) ∈ table.entries → table.find? name = some field) ∧
      ((∀ field, (name, field) ∉ table.entries) → ∀ field,
        table.find? name = some field ↔ (foldCase name, field) ∈ table.entries) ∧
      List.Forall₂ SameLetter name.toList (foldCase name).toList ∧
        ∀ c ∈ (foldCase name).toList, c.isUpper = false := by
  refine ⟨⟨fun tag => sameTag_iff_forall₂, fun tag i c d hc hd => sameTag_eq_false_of_ne hc hd⟩,
    fun hlower => ⟨fun field => FieldTable.find?_eq_some_iff hlower,
      fun entry hentry entry' hentry' => FieldTable.eq_of_sameTag hlower hentry hentry'⟩,
    by decide, ?_, ?_, foldCase_spells name⟩
  · intro field hmem
    exact FieldTable.find?_eq_of_get? (FieldTable.get?_eq_some_iff.mpr hmem)
  · intro hmissing field
    have hget : table.get? name = none := Option.eq_none_iff_forall_ne_some.mpr fun field hfield =>
      hmissing field (FieldTable.get?_eq_some_iff.mp hfield)
    rw [FieldTable.find?_eq_or, hget, Option.none_or, FieldTable.get?_eq_some_iff]

/-- A field is found in whatever case its name is written; a letter outside ASCII keeps its case. -/
theorem matchers_agree_transfer :
    Transfer.fields.find? "Last_Bytes_XFERRED" = some .persistedBytes ∧
      sameTag "É" "é" = false := by
  obtain ⟨⟨hletters, -⟩, htable, ⟨-, -, hlower, -⟩, -⟩ :=
    matchers_agree Transfer.fields "Last_Bytes_XFERRED"
  obtain ⟨⟨-, hother⟩, -⟩ := matchers_agree Transfer.fields "É"
  have hmatch : sameTag "Last_Bytes_XFERRED" "last_bytes_xferred" = true :=
    (hletters "last_bytes_xferred").mpr (by decide)
  refine ⟨((htable hlower).1 .persistedBytes).mpr ⟨_, ?_, hmatch⟩, ?_⟩
  · simp [Transfer.fields]
  · exact hother "é" 0 'É' 'é' rfl rfl (by decide) (by decide)

end DaemonReply
