import DaemonReply.Proofs.Decimal
import Mathlib.Algebra.Order.Field.Rat
import Mathlib.Algebra.Order.Field.Power
import Mathlib.Data.List.Induction
import Mathlib.Order.WithBotTop
import Mathlib.Tactic.FieldSimp
import Mathlib.Tactic.Ring

/-!
# Written numbers

An integer or a numeral as it may stand in a reply is a structure of its parts: a sign, digits, a
point with more digits, an exponent, or one of the words for what is no finite number. The parts can
be put together to a text (`chars`), and what the text means is computed from the parts
(`WrittenInteger.value`, `WrittenNumeral.value?`), not from what a reader makes of it.

Main statements: the readers accept exactly the texts that are written so, and read what they mean
(`WrittenInteger.readInteger?_eq_some_iff`, `WrittenNumeral.read?_eq_some_iff` with
`WrittenDecimal.magnitude_eq`). All of these texts consist of printed characters of ASCII, so that
blanks around them can be told apart.
-/

namespace DaemonReply.Value

/-! ### Signs and digits -/

/-- The sign in front of a number. -/
inductive Sign where
  | absent
  | plus
  | minus
  deriving DecidableEq, Repr

namespace Sign

/-- A sign as it is written. -/
def chars : Sign → List Char
  | absent => []
  | plus => ['+']
  | minus => ['-']

def isNegative : Sign → Bool
  | absent => false
  | plus => false
  | minus => true

end Sign

/-- The characters that are split off as a sign. -/
def isSign (c : Char) : Bool :=
  c = '+' || c = '-'

theorem isSign_iff {c : Char} : isSign c = true ↔ c = '+' ∨ c = '-' := by
  simp [isSign]

/-- A sign is split off from what does not begin with another one. -/
theorem splitSign_append (sign : Sign) {body : List Char}
    (hbody : ∀ c, body.head? = some c → isSign c = false) :
    splitSign (sign.chars ++ body) = (sign.isNegative, body) := by
  cases sign with
  | plus => rfl
  | minus => rfl
  | absent =>
    rw [Sign.chars, List.nil_append, splitSign]
    · rfl
    · rintro rest rfl
      exact absurd (hbody '-' rfl) (by decide)
    · rintro rest rfl
      exact absurd (hbody '+' rfl) (by decide)

theorem exists_sign (text : List Char) :
    ∃ sign : Sign, sign.chars ++ (splitSign text).2 = text ∧
      sign.isNegative = (splitSign text).1 := by
  fun_cases splitSign text with
  | case1 rest => exact ⟨.minus, rfl, rfl⟩
  | case2 rest => exact ⟨.plus, rfl, rfl⟩
  | case3 => exact ⟨.absent, rfl, rfl⟩

/-- Decimal digits, perhaps none. -/
structure Digits where
  chars : List Char
  isDigit : ∀ c ∈ chars, c.isDigit = true

/-- No digits at all. -/
def Digits.empty : Digits :=
  ⟨[], fun _ hc => absurd hc List.not_mem_nil⟩

/-- The number that digits write. -/
def Digits.value (digits : Digits) : Nat :=
  digitsValue digits.chars

/-- Digits behind others move them to the left. -/
theorem digitsValue_append (front back : List Char) :
    digitsValue (front ++ back) = digitsValue front * 10 ^ back.length + digitsValue back := by
  induction back using List.reverseRecOn with
  | nil => simp
  | append_singleton back c ih =>
    rw [← List.append_assoc, digitsValue_append_singleton, digitsValue_append_singleton, ih,
      List.length_append, List.length_singleton, pow_succ]
    ring

/-- The value of a single digit. -/
theorem digit_sub_le {c : Char} (hc : c.isDigit = true) :
    c.toNat - '0'.toNat ≤ 9 ∧ (c.toNat - '0'.toNat = 0 → c = '0') := by
  simp only [Char.isDigit, Bool.and_eq_true, decide_eq_true_eq, ge_iff_le,
    UInt32.le_iff_toNat_le] at hc
  have hzero : '0'.toNat ≤ c.toNat := hc.1
  have hnine : c.toNat ≤ '9'.toNat := hc.2
  have hspan : '9'.toNat = '0'.toNat + 9 := rfl
  exact ⟨by omega, fun h => Char.toNat_inj.mp (by omega)⟩

namespace Digits

/-- Digits write less than a one with as many zeros. -/
theorem value_lt (digits : Digits) : digits.value < 10 ^ digits.chars.length := by
  obtain ⟨chars, hchars⟩ := digits
  rw [value]
  induction chars using List.reverseRecOn with
  | nil => exact Nat.one_pos
  | append_singleton chars c ih =>
    have hvalue := ih fun c' hc' => hchars c' (List.mem_append_left _ hc')
    have hc := (digit_sub_le (hchars c (by simp))).1
    simp only [digitsValue_append_singleton, List.length_append, List.length_singleton, pow_succ]
      at hvalue ⊢
    omega

/-- Only zeros write zero. -/
theorem value_eq_zero_iff (digits : Digits) : digits.value = 0 ↔ ∀ c ∈ digits.chars, c = '0' := by
  obtain ⟨chars, hchars⟩ := digits
  rw [value]
  induction chars using List.reverseRecOn with
  | nil => simp
  | append_singleton chars c ih =>
    have hvalue := ih fun c' hc' => hchars c' (List.mem_append_left _ hc')
    have hc : c.toNat - '0'.toNat = 0 ↔ c = '0' :=
      ⟨(digit_sub_le (hchars c (by simp))).2, fun h => by rw [h, Nat.sub_self]⟩
    simp only [digitsValue_append_singleton, Nat.add_eq_zero_iff, Nat.mul_eq_zero, hc,
      List.forall_mem_append, List.forall_mem_singleton] at hvalue ⊢
    simp [hvalue]

end Digits

theorem isSign_of_isDigit {c : Char} (hc : c.isDigit = true) : isSign c = false := by
  by_contra hsign
  rcases isSign_iff.mp (Bool.of_not_eq_false hsign) with rfl | rfl <;>
    exact absurd hc (by decide)

/-- Lower case does not make a word of a text in which there is a digit. -/
theorem map_toLower_ne_of_isDigit {text letters : List Char} {c : Char} (hc : c ∈ text)
    (hdigit : c.isDigit = true) (hletters : letters.all (!Char.isDigit ·) = true) :
    text.map Char.toLower ≠ letters := by
  rintro rfl
  have hmem : c ∈ text.map Char.toLower := List.mem_map.mpr ⟨c, hc, toLower_of_isDigit hdigit⟩
  simpa [hdigit] using List.all_eq_true.mp hletters c hmem

namespace Digits

/-- Digits in front of something else are told apart from it. -/
theorem takeWhile_append (digits : Digits) {rest : List Char}
    (hrest : ∀ c, rest.head? = some c → c.isDigit = false) :
    (digits.chars ++ rest).takeWhile Char.isDigit = digits.chars := by
  rw [List.takeWhile_append_of_pos digits.isDigit]
  cases rest with
  | nil => simp
  | cons c rest => simp [hrest c rfl]

theorem dropWhile_append (digits : Digits) {rest : List Char}
    (hrest : ∀ c, rest.head? = some c → c.isDigit = false) :
    (digits.chars ++ rest).dropWhile Char.isDigit = rest := by
  rw [List.dropWhile_append_of_pos digits.isDigit]
  cases rest with
  | nil => rfl
  | cons c rest => simp [hrest c rfl]

/-- The digits that a text begins with. -/
def ofText (text : List Char) : Digits where
  chars := text.takeWhile Char.isDigit
  isDigit _ hc := List.mem_takeWhile_imp hc

end Digits

/-! ### Integers -/

/-- An integer as it is written: an optional sign and at least one digit. -/
structure WrittenInteger where
  sign : Sign := .absent
  digits : Digits
  ne_nil : digits.chars ≠ []

namespace WrittenInteger

def chars (w : WrittenInteger) : List Char :=
  w.sign.chars ++ w.digits.chars

def value (w : WrittenInteger) : Int :=
  signed w.sign.isNegative w.digits.value

theorem readInteger?_chars (w : WrittenInteger) : readInteger? w.chars = some w.value := by
  have hsplit : splitSign w.chars = (w.sign.isNegative, w.digits.chars) :=
    splitSign_append w.sign fun c hc =>
      isSign_of_isDigit (w.digits.isDigit c (List.mem_of_mem_head? hc))
  have hdigits : w.digits.chars ≠ [] ∧ w.digits.chars.all Char.isDigit = true :=
    ⟨w.ne_nil, List.all_eq_true.mpr w.digits.isDigit⟩
  simp only [readInteger?, hsplit, if_pos hdigits]
  rfl

/-- **An integer is read exactly if it is written so.** -/
theorem readInteger?_eq_some_iff {text : List Char} {value : Int} :
    readInteger? text = some value ↔ ∃ w : WrittenInteger, w.chars = text ∧ w.value = value := by
  constructor
  · intro h
    obtain ⟨sign, htext, hsign⟩ := exists_sign text
    simp only [readInteger?, Option.ite_none_right_eq_some, Option.some.injEq] at h
    obtain ⟨⟨hne, hdigits⟩, hvalue⟩ := h
    refine ⟨⟨sign, ⟨_, List.all_eq_true.mp hdigits⟩, hne⟩, htext, ?_⟩
    rw [← hvalue, ← hsign]
    rfl
  · rintro ⟨w, rfl, rfl⟩
    exact w.readInteger?_chars

end WrittenInteger

/-! ### Fractions and exponents -/

/-- The digits behind a point. -/
def fractionDigits : Option Digits → Digits
  | none => Digits.empty
  | some digits => digits

/-- A point and the digits behind it, if there are any. -/
def fractionChars : Option Digits → List Char
  | none => []
  | some digits => '.' :: digits.chars

/-- The letter in front of an exponent. -/
inductive ExponentMark where
  | lower
  | upper
  deriving DecidableEq, Repr

def ExponentMark.char : ExponentMark → Char
  | lower => 'e'
  | upper => 'E'

/-- An exponent as it is written. -/
structure WrittenExponent where
  mark : ExponentMark := .lower
  power : WrittenInteger

def exponentChars : Option WrittenExponent → List Char
  | none => []
  | some e => e.mark.char :: e.power.chars

/-- The exponent, which is zero if none is written. -/
def exponentValue : Option WrittenExponent → Int
  | none => 0
  | some e => e.power.value

theorem head?_exponentChars {exponent : Option WrittenExponent} {c : Char}
    (hc : (exponentChars exponent).head? = some c) : c.isDigit = false ∧ c ≠ '.' := by
  rcases exponent with _ | ⟨mark, power⟩
  · exact absurd hc (by simp [exponentChars])
  · obtain rfl : mark.char = c := Option.some.inj hc
    cases mark <;> exact ⟨by decide, by decide⟩

theorem head?_fractionChars {fraction : Option Digits} {exponent : Option WrittenExponent}
    {c : Char} (hc : (fractionChars fraction ++ exponentChars exponent).head? = some c) :
    c.isDigit = false := by
  rcases fraction with _ | digits
  · exact (head?_exponentChars hc).1
  · obtain rfl : '.' = c := Option.some.inj hc
    decide

theorem splitFraction_chars (fraction : Option Digits) (exponent : Option WrittenExponent) :
    Numeral.splitFraction (fractionChars fraction ++ exponentChars exponent) =
      ((fractionDigits fraction).chars, exponentChars exponent) := by
  rcases fraction with _ | digits
  · rw [fractionChars, fractionDigits, List.nil_append, Numeral.splitFraction]
    · rfl
    · intro rest hrest
      exact (head?_exponentChars (by rw [hrest]; rfl)).2 rfl
  · have hrest : ∀ c, (exponentChars exponent).head? = some c → c.isDigit = false := fun c hc =>
      (head?_exponentChars hc).1
    rw [fractionChars, fractionDigits, List.cons_append, Numeral.splitFraction,
      digits.takeWhile_append hrest, digits.dropWhile_append hrest]

theorem exists_fraction (rest : List Char) : ∃ fraction : Option Digits,
    fractionChars fraction ++ (Numeral.splitFraction rest).2 = rest ∧
      (fractionDigits fraction).chars = (Numeral.splitFraction rest).1 := by
  fun_cases Numeral.splitFraction rest with
  | case1 rest =>
    refine ⟨some (Digits.ofText rest), ?_, rfl⟩
    exact congrArg ('.' :: ·) List.takeWhile_append_dropWhile
  | case2 => exact ⟨none, rfl, rfl⟩

theorem readExponent?_eq_some_iff {text : List Char} {value : Int} :
    Numeral.readExponent? text = some value ↔
      ∃ exponent, exponentChars exponent = text ∧ exponentValue exponent = value := by
  constructor
  · intro h
    rcases text with _ | ⟨c, rest⟩
    · exact ⟨none, rfl, Option.some.inj h⟩
    · rw [Numeral.readExponent?, Option.ite_none_right_eq_some] at h
      obtain ⟨hmark, hvalue⟩ := h
      obtain ⟨power, rfl, rfl⟩ := WrittenInteger.readInteger?_eq_some_iff.mp hvalue
      rcases hmark with rfl | rfl
      · exact ⟨some ⟨.lower, power⟩, rfl, rfl⟩
      · exact ⟨some ⟨.upper, power⟩, rfl, rfl⟩
  · rintro ⟨exponent, rfl, rfl⟩
    rcases exponent with _ | ⟨mark, power⟩
    · rfl
    · have hmark : mark.char = 'e' ∨ mark.char = 'E' := by cases mark <;> decide
      rw [exponentChars, Numeral.readExponent?, if_pos hmark]
      exact power.readInteger?_chars

/-! ### Decimals -/

/-- A decimal as it is written: an optional sign, digits, perhaps a point and more digits, perhaps
an exponent. There is at least one digit before or behind the point. -/
structure WrittenDecimal where
  sign : Sign := .absent
  whole : Digits
  fraction : Option Digits := none
  exponent : Option WrittenExponent := none
  hasDigit : ¬ (whole.chars = [] ∧ (fractionDigits fraction).chars = [])

namespace WrittenDecimal

variable (d : WrittenDecimal)

/-- A decimal without its sign. -/
def body : List Char :=
  d.whole.chars ++ (fractionChars d.fraction ++ exponentChars d.exponent)

def chars : List Char :=
  d.sign.chars ++ d.body

/-- The number that a decimal writes, without its sign. -/
def magnitude : ℚ :=
  (d.whole.value + (fractionDigits d.fraction).value /
    10 ^ (fractionDigits d.fraction).chars.length) * 10 ^ exponentValue d.exponent

/-- The number that a decimal writes. -/
def value : ℚ :=
  if d.sign.isNegative then -d.magnitude else d.magnitude

/-- The decimal as it is read. -/
def numeral : Numeral :=
  .finite d.sign.isNegative (digitsValue (d.whole.chars ++ (fractionDigits d.fraction).chars))
    (exponentValue d.exponent - (fractionDigits d.fraction).chars.length)

/-- Reading moves the point behind the last digit. -/
theorem magnitude_eq :
    d.magnitude = digitsValue (d.whole.chars ++ (fractionDigits d.fraction).chars) *
      10 ^ (exponentValue d.exponent - (fractionDigits d.fraction).chars.length) := by
  rw [digitsValue_append, magnitude, Digits.value, Digits.value, zpow_sub₀ (by norm_num),
    zpow_natCast]
  push_cast
  field_simp

/-- Without an exponent the digits behind the point add less than one. -/
theorem magnitude_of_exponent_eq_none (h : d.exponent = none) : d.magnitude = d.whole.value +
    (fractionDigits d.fraction).value / 10 ^ (fractionDigits d.fraction).chars.length := by
  rw [magnitude, h, exponentValue, zpow_zero, mul_one]

theorem readFinite?_body :
    Numeral.readFinite? d.sign.isNegative d.body = some d.numeral := by
  have hhead : ∀ c, (fractionChars d.fraction ++ exponentChars d.exponent).head? = some c →
      c.isDigit = false := fun _ => head?_fractionChars
  have hexponent : Numeral.readExponent? (exponentChars d.exponent) =
      some (exponentValue d.exponent) := readExponent?_eq_some_iff.mpr ⟨_, rfl, rfl⟩
  simp only [Numeral.readFinite?, body, d.whole.takeWhile_append hhead,
    d.whole.dropWhile_append hhead, splitFraction_chars, if_neg d.hasDigit, hexponent]
  rfl

theorem exists_of_readFinite? (sign : Sign) {text : List Char} {n : Numeral}
    (h : Numeral.readFinite? sign.isNegative text = some n) :
    ∃ d : WrittenDecimal, d.sign = sign ∧ d.body = text ∧ d.numeral = n := by
  obtain ⟨fraction, hrest, hfraction⟩ := exists_fraction (text.dropWhile Char.isDigit)
  simp only [Numeral.readFinite?, Option.ite_none_left_eq_some, Option.map_eq_some_iff,
    ← hfraction] at h
  obtain ⟨hdigits, value, hvalue, hn⟩ := h
  obtain ⟨exponent, hexponent, rfl⟩ := readExponent?_eq_some_iff.mp hvalue
  refine ⟨⟨sign, Digits.ofText text, fraction, exponent, hdigits⟩, rfl, ?_, hn⟩
  rw [body, hexponent, hrest]
  exact List.takeWhile_append_dropWhile

/-- A decimal begins with a digit or a point behind its sign. -/
theorem head?_body {c : Char} (hc : d.body.head? = some c) : c.isDigit = true ∨ c = '.' := by
  obtain ⟨sign, whole, fraction, exponent, hasDigit⟩ := d
  rw [body] at hc
  rcases hwhole : whole.chars with _ | ⟨first, rest⟩
  · rcases fraction with _ | digits
    · exact absurd ⟨hwhole, rfl⟩ hasDigit
    · rw [hwhole] at hc
      exact .inr (Option.some.inj hc).symm
  · rw [hwhole] at hc
    obtain rfl : first = c := Option.some.inj hc
    exact .inl (whole.isDigit first (by simp [hwhole]))

/-- There is a digit in a decimal. -/
theorem exists_isDigit : ∃ c ∈ d.body, c.isDigit = true := by
  obtain ⟨sign, whole, fraction, exponent, hasDigit⟩ := d
  rcases hwhole : whole.chars with _ | ⟨first, rest⟩
  · rcases fraction with _ | digits
    · exact absurd ⟨hwhole, rfl⟩ hasDigit
    · obtain ⟨c, hc⟩ := List.exists_mem_of_ne_nil digits.chars fun h => hasDigit ⟨hwhole, h⟩
      exact ⟨c, by simp [body, fractionChars, hc], digits.isDigit c hc⟩
  · have hmem : first ∈ whole.chars := by simp [hwhole]
    exact ⟨first, List.mem_append_left _ hmem, whole.isDigit first hmem⟩

/-- A decimal is no word. -/
theorem map_toLower_body_ne {letters : List Char}
    (hletters : letters.all (!Char.isDigit ·) = true) : d.body.map Char.toLower ≠ letters := by
  obtain ⟨c, hc, hdigit⟩ := d.exists_isDigit
  exact map_toLower_ne_of_isDigit hc hdigit hletters

end WrittenDecimal

/-! ### Numerals -/

/-- A rational number or one of the two infinities. -/
abbrev ExtendedRat := WithBotTop ℚ

/-- Whether a word means infinity, in any letter case. -/
def IsInfinityWord (word : List Char) : Prop :=
  word.map Char.toLower = "inf".toList ∨ word.map Char.toLower = "infinity".toList

/-- Whether a word means that there is no number, in any letter case. -/
def IsNanWord (word : List Char) : Prop :=
  word.map Char.toLower = "nan".toList

/-- A numeral as it is written. -/
inductive WrittenNumeral where
  | decimal (d : WrittenDecimal)
  | infinity (sign : Sign) (word : List Char) (hword : IsInfinityWord word)
  | nan (sign : Sign) (word : List Char) (hword : IsNanWord word)

namespace WrittenNumeral

def chars : WrittenNumeral → List Char
  | decimal d => d.chars
  | infinity sign word _ => sign.chars ++ word
  | nan sign word _ => sign.chars ++ word

/-- The number that a numeral writes, if it is one. -/
def value? : WrittenNumeral → Option ExtendedRat
  | decimal d => some (d.value : ℚ)
  | infinity sign _ _ => some (if sign.isNegative then ⊥ else ⊤)
  | nan _ _ _ => none

/-- The numeral as it is read. -/
def numeral : WrittenNumeral → Numeral
  | decimal d => d.numeral
  | infinity sign _ _ => .infinite sign.isNegative
  | nan _ _ _ => .nan

/-- A word does not begin with a sign. -/
theorem isSign_of_map_toLower {word letters : List Char} (hword : word.map Char.toLower = letters)
    (hletters : letters.all (!isSign ·) = true) {c : Char} (hc : word.head? = some c) :
    isSign c = false := by
  have hlower : isSign c.toLower = false := by
    have hmem : c.toLower ∈ letters := hword ▸ List.mem_map_of_mem (List.mem_of_mem_head? hc)
    simpa using List.all_eq_true.mp hletters _ hmem
  by_contra hsign
  rcases isSign_iff.mp (Bool.of_not_eq_false hsign) with rfl | rfl <;>
    exact absurd hlower (by decide)

theorem read?_chars (w : WrittenNumeral) : Numeral.read? w.chars = some w.numeral := by
  cases w with
  | decimal d =>
    have hsplit : splitSign d.chars = (d.sign.isNegative, d.body) := by
      refine splitSign_append d.sign fun c hc => ?_
      rcases d.head?_body hc with hdigit | rfl
      · exact isSign_of_isDigit hdigit
      · decide
    have hinfinity : ¬ IsInfinityWord d.body := by
      rintro (hword | hword)
      · exact d.map_toLower_body_ne (by decide) hword
      · exact d.map_toLower_body_ne (by decide) hword
    have hnan : ¬ IsNanWord d.body := d.map_toLower_body_ne (by decide)
    rw [IsInfinityWord] at hinfinity
    rw [IsNanWord] at hnan
    simp only [Numeral.read?, chars, hsplit, Numeral.readUnsigned?, if_neg hinfinity, if_neg hnan]
    exact d.readFinite?_body
  | infinity sign word hword =>
    have hsplit : splitSign (sign.chars ++ word) = (sign.isNegative, word) := by
      refine splitSign_append sign fun c hc => ?_
      rcases hword with hword | hword
      · exact isSign_of_map_toLower hword (by decide) hc
      · exact isSign_of_map_toLower hword (by decide) hc
    rw [IsInfinityWord] at hword
    simp only [Numeral.read?, chars, hsplit, Numeral.readUnsigned?, if_pos hword]
    rfl
  | nan sign word hword =>
    have hsplit : splitSign (sign.chars ++ word) = (sign.isNegative, word) :=
      splitSign_append sign fun c hc => isSign_of_map_toLower hword (by decide) hc
    have hinfinity : ¬ IsInfinityWord word := by
      rw [IsInfinityWord, hword]
      decide
    rw [IsInfinityWord] at hinfinity
    rw [IsNanWord] at hword
    simp only [Numeral.read?, chars, hsplit, Numeral.readUnsigned?, if_neg hinfinity, if_pos hword]
    rfl

/-- **A numeral is read exactly if it is written so.** -/
theorem read?_eq_some_iff {text : List Char} {n : Numeral} :
    Numeral.read? text = some n ↔ ∃ w : WrittenNumeral, w.chars = text ∧ w.numeral = n := by
  constructor
  · intro h
    obtain ⟨sign, htext, hsign⟩ := exists_sign text
    simp only [Numeral.read?, ← hsign, Numeral.readUnsigned?] at h
    split_ifs at h with hinfinity hnan
    · exact ⟨.infinity sign _ hinfinity, htext, Option.some.inj h⟩
    · exact ⟨.nan sign _ hnan, htext, Option.some.inj h⟩
    · obtain ⟨d, rfl, hbody, hn⟩ := WrittenDecimal.exists_of_readFinite? sign h
      refine ⟨.decimal d, ?_, hn⟩
      rw [chars, WrittenDecimal.chars, hbody, htext]
  · rintro ⟨w, rfl, rfl⟩
    exact w.read?_chars

end WrittenNumeral

/-- The number that a numeral is, if it is one. -/
def Numeral.value? : Numeral → Option ExtendedRat
  | nan => none
  | infinite negative => some (if negative then ⊥ else ⊤)
  | finite negative digits exponent =>
    some ((if negative then -(digits * 10 ^ exponent) else digits * 10 ^ exponent : ℚ))

namespace WrittenNumeral

/-- **What is read is the number that is written.** -/
theorem value?_numeral (w : WrittenNumeral) : w.numeral.value? = w.value? := by
  cases w with
  | decimal d =>
    rw [numeral, WrittenDecimal.numeral, Numeral.value?, value?, WrittenDecimal.value,
      d.magnitude_eq]
  | infinity sign word hword => rfl
  | nan sign word hword => rfl

/-- What a text means does not depend on how it is taken apart. -/
theorem value?_eq_of_chars_eq {w w' : WrittenNumeral} (h : w.chars = w'.chars) :
    w.value? = w'.value? := by
  have hread : some w.numeral = some w'.numeral := by rw [← read?_chars, h, read?_chars]
  rw [← value?_numeral, Option.some.inj hread, value?_numeral]

end WrittenNumeral

/-! ### Printed characters -/

/-- The characters of ASCII that leave a mark. -/
def isPrinted (c : Char) : Bool :=
  '!' ≤ c && c ≤ '~'

theorem isPrinted_iff {c : Char} : isPrinted c = true ↔ 33 ≤ c.toNat ∧ c.toNat ≤ 126 := by
  simp only [isPrinted, Bool.and_eq_true, decide_eq_true_eq, Char.le_def, UInt32.le_iff_toNat_le]
  exact Iff.rfl

theorem isSpaceOrControl_of_isPrinted {c : Char} (hc : isPrinted c = true) :
    Text.isSpaceOrControl c = false := by
  rw [isPrinted_iff] at hc
  refine decide_eq_false fun hle => ?_
  have hnat : c.toNat ≤ 32 := hle
  omega

theorem isWhiteSpace_of_isPrinted {c : Char} (hc : isPrinted c = true) :
    Text.isWhiteSpace c = false := by
  rw [isPrinted_iff] at hc
  have hne : ∀ d : Char, 126 < d.toNat → c ≠ d := by
    rintro d hd rfl
    omega
  have hspace : c ≠ ' ' := by
    rintro rfl
    exact absurd hc (by decide)
  have hlow : ¬ c ≤ '\r' := fun hle => by
    have hnat : c.toNat ≤ 13 := hle
    omega
  have hhigh : ¬ '\u2000' ≤ c := fun hle => by
    have hnat : 8192 ≤ c.toNat := hle
    omega
  simp [Text.isWhiteSpace, hspace, hlow, hhigh, hne]

theorem isPrinted_of_isDigit {c : Char} (hc : c.isDigit = true) : isPrinted c = true := by
  simp only [Char.isDigit, Bool.and_eq_true, decide_eq_true_eq, ge_iff_le,
    UInt32.le_iff_toNat_le] at hc
  have hzero : 48 ≤ c.toNat := hc.1
  have hnine : c.toNat ≤ 57 := hc.2
  rw [isPrinted_iff]
  omega

theorem isPrinted_of_toLower {c : Char} (hc : isPrinted c.toLower = true) :
    isPrinted c = true := by
  cases hupper : c.isUpper with
  | false => rwa [toLower_of_isUpper_eq_false hupper] at hc
  | true =>
    obtain ⟨hfirst, hlast⟩ := of_decide_eq_true hupper
    have hA : 65 ≤ c.toNat := hfirst
    have hZ : c.toNat ≤ 90 := hlast
    rw [isPrinted_iff]
    omega

/-- The letters of a word are printed, in any letter case. -/
theorem isPrinted_of_map_toLower {word letters : List Char}
    (hword : word.map Char.toLower = letters) (hletters : letters.all isPrinted = true) :
    ∀ c ∈ word, isPrinted c = true := by
  intro c hc
  have hmem : c.toLower ∈ letters := hword ▸ List.mem_map_of_mem hc
  exact isPrinted_of_toLower (List.all_eq_true.mp hletters _ hmem)

theorem Sign.isPrinted_of_mem {sign : Sign} : ∀ c ∈ sign.chars, isPrinted c = true := by
  cases sign <;> simp [Sign.chars, isPrinted]

theorem Digits.isPrinted_of_mem {digits : Digits} : ∀ c ∈ digits.chars, isPrinted c = true :=
  fun c hc => isPrinted_of_isDigit (digits.isDigit c hc)

theorem WrittenInteger.isPrinted_of_mem {w : WrittenInteger} :
    ∀ c ∈ w.chars, isPrinted c = true :=
  List.forall_mem_append.mpr ⟨Sign.isPrinted_of_mem, Digits.isPrinted_of_mem⟩

theorem isPrinted_of_mem_fractionChars {fraction : Option Digits} :
    ∀ c ∈ fractionChars fraction, isPrinted c = true := by
  rcases fraction with _ | digits
  · simp [fractionChars]
  · exact List.forall_mem_cons.mpr ⟨by decide, Digits.isPrinted_of_mem⟩

theorem isPrinted_of_mem_exponentChars {exponent : Option WrittenExponent} :
    ∀ c ∈ exponentChars exponent, isPrinted c = true := by
  rcases exponent with _ | ⟨mark, power⟩
  · simp [exponentChars]
  · have hmark : isPrinted mark.char = true := by cases mark <;> decide
    exact List.forall_mem_cons.mpr ⟨hmark, WrittenInteger.isPrinted_of_mem⟩

/-- There is no blank in a numeral. -/
theorem WrittenNumeral.isPrinted_of_mem {w : WrittenNumeral} :
    ∀ c ∈ w.chars, isPrinted c = true := by
  cases w with
  | decimal d =>
    simp only [chars, WrittenDecimal.chars, WrittenDecimal.body, List.forall_mem_append]
    exact ⟨Sign.isPrinted_of_mem, Digits.isPrinted_of_mem, isPrinted_of_mem_fractionChars,
      isPrinted_of_mem_exponentChars⟩
  | infinity sign word hword =>
    refine List.forall_mem_append.mpr ⟨Sign.isPrinted_of_mem, ?_⟩
    rcases hword with hword | hword <;> exact isPrinted_of_map_toLower hword (by decide)
  | nan sign word hword =>
    exact List.forall_mem_append.mpr
      ⟨Sign.isPrinted_of_mem, isPrinted_of_map_toLower hword (by decide)⟩

end DaemonReply.Value
