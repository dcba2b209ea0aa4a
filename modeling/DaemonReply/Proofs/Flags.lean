import DaemonReply.Proofs.LetterCase
import DaemonReply.Proofs.Numerals

/-!
# What flags mean

A flag is read in two ways. As an **explicit** flag a text has to be an integer of 32 bits or one of
two words, and nothing else. As a flag by **presence** it is false only if it is an explicit false
between white space. Here the texts are described apart from the readers (`WritesFalse`,
`WritesTrue`). As no white space is part of them, the readers agree wherever both of them read
(`presenceFlag_of_readFlag?`). They differ only where the explicit reader reads nothing: to it an
integer beyond 32 bits is no flag, while its presence counts.

Main statement: the texts that each reader takes for true and for false (`flags_meaning`).
-/

namespace DaemonReply.Value

/-! ### The texts -/

/-- Whether a text is an optional sign and one or more zeros. -/
def WritesZero (text : String) : Prop :=
  ∃ (sign : Sign) (n : Nat), text.toList = sign.chars ++ List.replicate (n + 1) '0'

/-- Whether a text is an optional sign and digits that write a number of 32 bits other than
zero. -/
def WritesNonzero (text : String) : Prop :=
  ∃ w : WrittenInteger, w.chars = text.toList ∧ w.value ≠ 0 ∧ -2 ^ 31 ≤ w.value ∧ w.value < 2 ^ 31

/-- Whether a text is an explicit false. -/
def WritesFalse (text : String) : Prop :=
  WritesZero text ∨ SameLetters text "false"

/-- Whether a text is an explicit true. -/
def WritesTrue (text : String) : Prop :=
  WritesNonzero text ∨ SameLetters text "true"

/-- Whether one text stands in another between white space. -/
def StandsInWhiteSpace (core text : String) : Prop :=
  ∃ front back, front ++ core.toList ++ back = text.toList ∧
    (∀ c ∈ front, Text.isWhiteSpace c = true) ∧ ∀ c ∈ back, Text.isWhiteSpace c = true

variable {text core word : String} {a : Int32} {b : Bool}

/-! ### Integers -/

namespace WrittenInteger

variable {w : WrittenInteger}

/-- Only zeros write zero, whatever their sign. -/
theorem value_eq_zero_iff : w.value = 0 ↔ ∀ c ∈ w.digits.chars, c = '0' := by
  rw [← Digits.value_eq_zero_iff, value, signed]
  split_ifs <;> omega

/-- An integer is no word. -/
theorem map_toLower_chars_ne {letters : List Char}
    (hletters : letters.all (!Char.isDigit ·) = true) : w.chars.map Char.toLower ≠ letters := by
  obtain ⟨c, hc⟩ := List.exists_mem_of_ne_nil _ w.ne_nil
  exact map_toLower_ne_of_isDigit (List.mem_append_right _ hc) (w.digits.isDigit c hc) hletters

end WrittenInteger

theorem writesZero_iff :
    WritesZero text ↔ ∃ w : WrittenInteger, w.chars = text.toList ∧ w.value = 0 := by
  constructor
  · rintro ⟨sign, n, htext⟩
    have hdigit : ∀ c ∈ List.replicate (n + 1) '0', c.isDigit = true := fun c hc =>
      List.eq_of_mem_replicate hc ▸ by decide
    exact ⟨⟨sign, ⟨_, hdigit⟩, by simp⟩, htext.symm,
      WrittenInteger.value_eq_zero_iff.mpr fun c hc => List.eq_of_mem_replicate hc⟩
  · rintro ⟨w, htext, hvalue⟩
    obtain ⟨n, hlength⟩ := Nat.exists_eq_succ_of_ne_zero (List.length_pos_iff.mpr w.ne_nil).ne'
    refine ⟨w.sign, n, ?_⟩
    rw [← htext, WrittenInteger.chars,
      List.eq_replicate_iff.mpr ⟨hlength, WrittenInteger.value_eq_zero_iff.mp hvalue⟩]

/-- **An integer of 32 bits is read exactly if it is written so.** -/
theorem readInt32?_eq_some_iff : readInt32? text = some a ↔
    ∃ w : WrittenInteger, w.chars = text.toList ∧ w.value = a.toInt := by
  have hmin : Int32.minValue.toInt = -2 ^ 31 := by decide
  have hmax : Int32.maxValue.toInt = 2 ^ 31 - 1 := by decide
  have hlow : -2 ^ 31 ≤ a.toInt := a.le_toInt
  have hhigh : a.toInt < 2 ^ 31 := a.toInt_lt
  rw [readInt32?, hmin, hmax]
  constructor
  · intro h
    split at h
    · rename_i value hread
      obtain ⟨w, hw, rfl⟩ := WrittenInteger.readInteger?_eq_some_iff.mp hread
      split_ifs at h with hrange
      rw [← Option.some.inj h]
      exact ⟨w, hw, (Int32.toInt_ofInt_of_le hrange.1 (by omega)).symm⟩
    · cases h
  · rintro ⟨w, hw, hvalue⟩
    simp only [← hw, w.readInteger?_chars, hvalue, Int32.ofInt_toInt]
    exact if_pos ⟨hlow, by omega⟩

theorem readInt32?_eq_zero_iff : readInt32? text = some 0 ↔ WritesZero text := by
  rw [readInt32?_eq_some_iff, writesZero_iff]
  rfl

theorem exists_readInt32?_ne_zero_iff :
    (∃ a, readInt32? text = some a ∧ a ≠ 0) ↔ WritesNonzero text := by
  simp only [readInt32?_eq_some_iff]
  constructor
  · rintro ⟨a, ⟨w, hw, hvalue⟩, hne⟩
    refine ⟨w, hw, ?_, hvalue ▸ a.le_toInt, hvalue ▸ a.toInt_lt⟩
    rw [hvalue]
    exact fun hzero => hne (Int32.toInt_inj.mp hzero)
  · rintro ⟨w, hw, hne, hlow, hhigh⟩
    have hvalue : (Int32.ofInt w.value).toInt = w.value := Int32.toInt_ofInt_of_le hlow hhigh
    refine ⟨Int32.ofInt w.value, ⟨w, hw, hvalue.symm⟩, ?_⟩
    intro hzero
    rw [← hvalue, hzero] at hne
    exact hne rfl

/-! ### The explicit reader -/

theorem not_sameLetters_of_readInt32? (h : readInt32? text = some a)
    (hword : (word.toList.map Char.toLower).all (!Char.isDigit ·) = true) :
    ¬ SameLetters text word := by
  obtain ⟨w, hw, -⟩ := readInt32?_eq_some_iff.mp h
  rw [SameLetters, ← hw]
  exact WrittenInteger.map_toLower_chars_ne hword

theorem readFlag?_of_readInt32? (h : readInt32? text = some a) :
    readFlag? text = some (a != 0) := by
  rw [readFlag?, h]

/-- What is no integer is read as a word. -/
theorem readFlag?_of_readInt32?_eq_none (h : readInt32? text = none) : readFlag? text =
    if SameLetters text "true" then some true
    else if SameLetters text "false" then some false else none := by
  simp only [readFlag?, h, sameTag_iff_sameLetters]

/-- The two words differ. -/
theorem not_sameLetters_false (h : SameLetters text "true") : ¬ SameLetters text "false" :=
  fun h' => absurd (h.symm.trans h') (by decide)

theorem readFlag?_eq_some_false_iff : readFlag? text = some false ↔ WritesFalse text := by
  rw [WritesFalse, ← readInt32?_eq_zero_iff]
  rcases hread : readInt32? text with _ | a
  · rw [readFlag?_of_readInt32?_eq_none hread]
    split_ifs with htrue hfalse
    · simp [not_sameLetters_false htrue]
    · simp [hfalse]
    · simp [hfalse]
  · have hword : ¬ SameLetters text "false" := not_sameLetters_of_readInt32? hread (by decide)
    simp [readFlag?_of_readInt32? hread, hword]

theorem readFlag?_eq_some_true_iff : readFlag? text = some true ↔ WritesTrue text := by
  rw [WritesTrue, ← exists_readInt32?_ne_zero_iff]
  rcases hread : readInt32? text with _ | a
  · rw [readFlag?_of_readInt32?_eq_none hread]
    split_ifs with htrue hfalse <;> simp [htrue]
  · have hword : ¬ SameLetters text "true" := not_sameLetters_of_readInt32? hread (by decide)
    simp [readFlag?_of_readInt32? hread, hword]

theorem readFlag?_eq_none_iff :
    readFlag? text = none ↔ ¬ WritesFalse text ∧ ¬ WritesTrue text := by
  rw [← readFlag?_eq_some_false_iff, ← readFlag?_eq_some_true_iff]
  rcases readFlag? text with _ | _ | _ <;> simp

/-- There is no white space in an explicit flag. -/
theorem isWhiteSpace_of_readFlag? (h : readFlag? text = some b) :
    ∀ c ∈ text.toList, Text.isWhiteSpace c = false := by
  suffices hprinted : ∀ c ∈ text.toList, isPrinted c = true from
    fun c hc => isWhiteSpace_of_isPrinted (hprinted c hc)
  rcases hread : readInt32? text with _ | a
  · rw [readFlag?_of_readInt32?_eq_none hread] at h
    split_ifs at h with htrue hfalse
    · exact isPrinted_of_map_toLower htrue (by decide)
    · exact isPrinted_of_map_toLower hfalse (by decide)
  · obtain ⟨w, hw, -⟩ := readInt32?_eq_some_iff.mp hread
    rw [← hw]
    exact w.isPrinted_of_mem

/-! ### The reader by presence -/

/-- **The readers agree** on a text that is an explicit flag, also if white space is put around it
for the reader by presence. -/
theorem presenceFlag_of_readFlag? (hcore : StandsInWhiteSpace core text)
    (h : readFlag? core = some b) : presenceFlag text = b := by
  have htrim : Text.trim Text.isWhiteSpace text.toList = core.toList :=
    (Text.trim_eq_iff (isWhiteSpace_of_readFlag? h)).mpr hcore
  have hne : core.isEmpty = false := by
    have hempty : readFlag? "" = none := by decide +kernel
    rw [String.isEmpty_eq_false_iff]
    rintro rfl
    exact Option.some_ne_none b (h.symm.trans hempty)
  simp only [presenceFlag, htrim, String.ofList_toList, hne, h, Bool.false_or, Option.getD_some]

/-- By presence only an explicit false is false. -/
theorem presenceFlag_eq_false_iff :
    presenceFlag text = false ↔ ∃ core, StandsInWhiteSpace core text ∧ WritesFalse core := by
  constructor
  · intro h
    refine ⟨String.ofList (Text.trim Text.isWhiteSpace text.toList), ?_, ?_⟩
    · rw [StandsInWhiteSpace, String.toList_ofList]
      exact Text.exists_append_trim Text.isWhiteSpace text.toList
    · rw [presenceFlag, Bool.or_eq_false_iff] at h
      rw [← readFlag?_eq_some_false_iff]
      rcases hread : readFlag? (String.ofList (Text.trim Text.isWhiteSpace text.toList)) with _ | b
      · simp [hread] at h
      · simpa [hread] using h.2
  · rintro ⟨core, hcore, hfalse⟩
    exact presenceFlag_of_readFlag? hcore (readFlag?_eq_some_false_iff.mpr hfalse)

/-- **What flags mean**, for every text. By presence a flag is false exactly if an explicit false
stands between white space. The explicit reader takes exactly the explicit texts for false and for
true and refuses all others. Where it reads a flag, presence gives the same one, with any white
space around it. -/
theorem flags_meaning :
    (∀ text, presenceFlag text = false ↔
        ∃ core, StandsInWhiteSpace core text ∧ WritesFalse core) ∧
      (∀ text, (readFlag? text = some false ↔ WritesFalse text) ∧
        (readFlag? text = some true ↔ WritesTrue text) ∧
        (readFlag? text = none ↔ ¬ WritesFalse text ∧ ¬ WritesTrue text)) ∧
      ∀ core text b, StandsInWhiteSpace core text → readFlag? core = some b →
        presenceFlag text = b :=
  ⟨fun _ => presenceFlag_eq_false_iff, fun _ => ⟨readFlag?_eq_some_false_iff,
    readFlag?_eq_some_true_iff, readFlag?_eq_none_iff⟩, fun _ _ _ => presenceFlag_of_readFlag?⟩

/-- A zero between two kinds of white space, and a number beyond 32 bits, which only the explicit
reader refuses. -/
theorem flags_meaning_sample :
    presenceFlag "\u2003-00\n" = false ∧ readFlag? "2147483648" = none ∧
      presenceFlag "2147483648" = true := by
  obtain ⟨-, -, hagree⟩ := flags_meaning
  refine ⟨hagree "-00" _ false ?_ (by decide), by decide +kernel, by decide +kernel⟩
  exact ⟨['\u2003'], ['\n'], by decide, List.forall_mem_singleton.mpr (by decide),
    List.forall_mem_singleton.mpr (by decide)⟩

end DaemonReply.Value
