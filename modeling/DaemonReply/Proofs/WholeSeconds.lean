import DaemonReply.Proofs.Numerals
import DaemonReply.Proofs.Rounding
import Mathlib.Algebra.Order.Floor.Semifield

/-!
# Whole seconds

Seconds and counts are rounded to binary64 before their fraction is cut off. That is not the same
as cutting off the fraction of the number that is written: `4503599627370497.5` becomes
`4503599627370498`. The fraction is cut off **exactly** as long as some number with 53 bits lies
between the decimal and the next whole number, since rounding passes no such number
(`WrittenDecimal.exists_roundsTo_between`). A millionth is more than `2 ^ (-20)`, so for decimals
with six places there is one below `2 ^ 33` (`exists_isBinary_between`).

What always holds is that the **order** is kept: rounding keeps it, cutting off keeps it, and the
limits of 64 bits are the greatest and the least result.

Main statements: the daemon's decimals are truncated exactly (`readSeconds?_truncates`); reading
is monotone over everything that can be read (`readSeconds?_monotone`).
-/

namespace DaemonReply.Value

/-! ### Cutting off -/

namespace Magnitude

variable {m m' : Magnitude}

/-- The whole part of a magnitude, as far as it matters for 64 bits. -/
def whole (m : Magnitude) : Nat :=
  m.floor?.elim (2 ^ 63) (min (2 ^ 63))

/-- Cutting off keeps the whole part, except that `2 ^ 63` itself does not fit. -/
theorem toInt_truncate (m : Magnitude) (negative : Bool) :
    (m.truncate negative).toInt = min (signed negative m.whole) (2 ^ 63 - 1) := by
  have hmin : Int64.minValue.toInt = -2 ^ 63 := by decide
  have hmax : Int64.maxValue.toInt = 2 ^ 63 - 1 := by decide
  rw [truncate, whole]
  rcases m.floor? with _ | n
  · cases negative <;> decide
  · simp only [Option.elim_some, Int64.toInt_ofIntClamp_eq, signed, hmin, hmax]
    split_ifs <;> omega

theorem floor?_finite (significand : Nat) (exponent : Int) :
    (finite significand exponent).floor? = some ⌊(significand : ℚ) * 2 ^ exponent⌋₊ := by
  have hpower : (powNum 2 exponent : ℚ) / powDen 2 exponent = 2 ^ exponent :=
    mod_cast powNum_div_powDen 2 exponent
  rw [floor?, ← hpower, ← mul_div_assoc, ← Nat.cast_mul, Nat.floor_div_eq_div]

theorem whole_le (m : Magnitude) : m.whole ≤ 2 ^ 63 := by
  rw [whole]
  rcases m.floor? with _ | n
  · exact le_rfl
  · exact min_le_left _ _

/-- A whole number is not beyond the whole part exactly if it is not beyond the value. -/
theorem le_whole_iff {n : Nat} (hn : n ≤ 2 ^ 63) :
    n ≤ m.whole ↔ ((n : ℚ) : WithTop ℚ) ≤ m.value := by
  cases m with
  | infinite => exact iff_of_true hn le_top
  | finite significand exponent =>
    rw [whole, floor?_finite, Option.elim_some, le_min_iff, Nat.le_floor_iff (by positivity), value,
      WithTop.coe_le_coe]
    exact and_iff_right hn

theorem whole_mono (hle : m.value ≤ m'.value) : m.whole ≤ m'.whole :=
  (le_whole_iff m.whole_le).mpr (((le_whole_iff m.whole_le).mp le_rfl).trans hle)

/-- The whole part is the number that is reached while the next one is not. -/
theorem whole_eq_iff {n : Nat} (hn : n < 2 ^ 63) : m.whole = n ↔
    ((n : ℚ) : WithTop ℚ) ≤ m.value ∧ m.value < (((n + 1 : Nat) : ℚ) : WithTop ℚ) := by
  rw [← le_whole_iff hn.le, ← not_le, ← le_whole_iff (Nat.succ_le_of_lt hn)]
  omega

end Magnitude

/-! ### Rounded decimals -/

theorem isBinary_natCast {n : Nat} (hn : n ≤ 2 ^ 53) : IsBinary n :=
  ⟨n, 0, hn, by decide, by simp⟩

namespace WrittenDecimal

variable {d d' : WrittenDecimal}

/-- What a decimal is rounded to, without its sign. -/
def rounded (d : WrittenDecimal) : Magnitude :=
  Magnitude.ofDecimal (digitsValue (d.whole.chars ++ (fractionDigits d.fraction).chars))
    (exponentValue d.exponent - (fractionDigits d.fraction).chars.length)

theorem toInt_truncate (d : WrittenDecimal) : d.numeral.truncate.toInt =
    min (signed d.sign.isNegative d.rounded.whole) (2 ^ 63 - 1) :=
  d.rounded.toInt_truncate d.sign.isNegative

theorem magnitude_nonneg (d : WrittenDecimal) : 0 ≤ d.magnitude := by
  rw [magnitude]
  positivity

/-- **A decimal is rounded correctly.** -/
theorem exists_roundsTo (d : WrittenDecimal) :
    ∃ r, RoundsTo d.magnitude r ∧ d.rounded.value = Magnitude.overflow r := by
  rw [magnitude_eq]
  exact Magnitude.exists_roundsTo_ofDecimal _ _

theorem whole_rounded_mono (hle : d.magnitude ≤ d'.magnitude) :
    d.rounded.whole ≤ d'.rounded.whole := by
  rw [magnitude_eq, magnitude_eq] at hle
  exact Magnitude.whole_mono (Magnitude.value_ofDecimal_mono hle)

/-- A whole number is reached and not passed if the next one is kept off by a number with
53 bits. -/
theorem exists_roundsTo_between {n : Nat} {g : ℚ} (hn : n ≤ 2 ^ 53) (hg : IsBinary g)
    (hlt : g < n + 1) (hle : n ≤ d.magnitude) (hle' : d.magnitude ≤ g) :
    ∃ r : ℚ, RoundsTo d.magnitude r ∧ d.rounded.value = r ∧ n ≤ r ∧ r < n + 1 := by
  obtain ⟨r, hr, hvalue⟩ := d.exists_roundsTo
  have hlow : (n : ℚ) ≤ r := hr.ge_of_isBinary d.magnitude_nonneg (isBinary_natCast hn) hle
  have hhigh : r ≤ g := hr.le_of_isBinary d.magnitude_nonneg hg hle'
  have hfinite : r < 2 ^ 1024 := by
    have hn' : (n : ℚ) ≤ 2 ^ 53 := by exact_mod_cast hn
    have hlimit : (2 : ℚ) ^ 53 + 1 ≤ 2 ^ 54 := by norm_num
    have hpowers : (2 : ℚ) ^ 54 ≤ 2 ^ 1024 := pow_le_pow_right₀ one_le_two (by norm_num)
    calc r < n + 1 := hhigh.trans_lt hlt
      _ ≤ 2 ^ 53 + 1 := by linarith only [hn']
      _ ≤ 2 ^ 1024 := hlimit.trans hpowers
  refine ⟨r, hr, ?_, hlow, hhigh.trans_lt hlt⟩
  rw [hvalue, Magnitude.overflow, if_neg hfinite.not_ge]

theorem whole_rounded_eq {n : Nat} {g : ℚ} (hn : n ≤ 2 ^ 53) (hg : IsBinary g)
    (hlt : g < n + 1) (hle : n ≤ d.magnitude) (hle' : d.magnitude ≤ g) : d.rounded.whole = n := by
  obtain ⟨r, -, hvalue, hlow, hhigh⟩ := exists_roundsTo_between hn hg hlt hle hle'
  rw [Magnitude.whole_eq_iff (by omega), hvalue, WithTop.coe_le_coe, WithTop.coe_lt_coe]
  exact ⟨hlow, by exact_mod_cast hhigh⟩

/-- From `2 ^ 63` on the whole part is at its limit. -/
theorem whole_rounded_of_le (hle : 2 ^ 63 ≤ d.magnitude) : d.rounded.whole = 2 ^ 63 := by
  have hbinary : IsBinary ((2 ^ 63 : Nat) : ℚ) := ⟨1, 63, by norm_num, by decide, by norm_num⟩
  rw [magnitude_eq] at hle
  refine le_antisymm (Magnitude.whole_le _) ((Magnitude.le_whole_iff le_rfl).mpr ?_)
  exact Magnitude.le_value_ofDecimal hbinary (by exact_mod_cast hle)

/-- Up to a half there is no whole part. -/
theorem whole_rounded_eq_zero (hle : d.magnitude ≤ 1 / 2) : d.rounded.whole = 0 := by
  have hbinary : IsBinary (1 / 2) := ⟨1, -1, by norm_num, by decide, by norm_num⟩
  have hzero : ((0 : Nat) : ℚ) ≤ d.magnitude := by exact_mod_cast d.magnitude_nonneg
  exact whole_rounded_eq (by norm_num) hbinary (by norm_num) hzero hle

/-- **Cutting decimals off keeps their order.** -/
theorem truncate_mono (hle : d.value ≤ d'.value) : d.numeral.truncate ≤ d'.numeral.truncate := by
  have hnonneg : 0 ≤ d.magnitude := d.magnitude_nonneg
  have hnonneg' : 0 ≤ d'.magnitude := d'.magnitude_nonneg
  rw [Int64.le_iff_toInt_le, toInt_truncate, toInt_truncate]
  rcases hsign : d.sign.isNegative with _ | _ <;> rcases hsign' : d'.sign.isNegative with _ | _ <;>
    simp only [hsign, hsign', value, signed, if_true, if_false, Bool.false_eq_true] at hle ⊢
  · have hwhole : d.rounded.whole ≤ d'.rounded.whole := whole_rounded_mono hle
    omega
  -- a number that is not negative is at most one that is not positive only if both are zero
  · have hzero : d.rounded.whole = 0 := whole_rounded_eq_zero (by linarith)
    have hzero' : d'.rounded.whole = 0 := whole_rounded_eq_zero (by linarith)
    omega
  · omega
  · have hwhole : d'.rounded.whole ≤ d.rounded.whole := whole_rounded_mono (neg_le_neg_iff.mp hle)
    omega

theorem truncate_of_le (hle : 2 ^ 63 ≤ d.value) : d.numeral.truncate = Int64.maxValue := by
  have hnonneg : 0 ≤ d.magnitude := d.magnitude_nonneg
  rw [← Int64.toInt_inj, toInt_truncate]
  rw [value] at hle
  rcases hsign : d.sign.isNegative with _ | _
  · rw [hsign, if_neg Bool.false_ne_true] at hle
    rw [whole_rounded_of_le hle]
    decide
  · rw [hsign, if_pos rfl] at hle
    linarith

theorem truncate_of_ge (hle : d.value ≤ -2 ^ 63) : d.numeral.truncate = Int64.minValue := by
  have hnonneg : 0 ≤ d.magnitude := d.magnitude_nonneg
  rw [← Int64.toInt_inj, toInt_truncate]
  rw [value] at hle
  rcases hsign : d.sign.isNegative with _ | _
  · rw [hsign, if_neg Bool.false_ne_true] at hle
    linarith
  · rw [hsign, if_pos rfl] at hle
    rw [whole_rounded_of_le (neg_le_neg_iff.mp hle)]
    decide

theorem truncate_of_small (hlow : -1 / 2 ≤ d.value) (hhigh : d.value ≤ 1 / 2) :
    d.numeral.truncate = 0 := by
  have hsmall : d.magnitude ≤ 1 / 2 := by
    rw [value] at hlow hhigh
    split_ifs at hlow hhigh <;> linarith
  rw [← Int64.toInt_inj, toInt_truncate, whole_rounded_eq_zero hsmall]
  cases d.sign.isNegative <;> decide

end WrittenDecimal

/-! ### The order of numerals -/

theorem le_limit64 (i : Int64) : i ≤ limit64 false :=
  Int64.le_iff_toInt_le.mpr i.toInt_le

theorem limit64_le (i : Int64) : limit64 true ≤ i :=
  Int64.le_iff_toInt_le.mpr i.minValue_le_toInt

namespace WrittenNumeral

variable {w w' : WrittenNumeral} {v v' : ExtendedRat} {q : ℚ}

/-- A numeral that writes a number is an infinity, which becomes a limit, or a decimal. -/
theorem value?_cases (hv : w.value? = some v) :
    (v = ⊥ ∧ w.numeral.truncate = limit64 true) ∨ (v = ⊤ ∧ w.numeral.truncate = limit64 false) ∨
      ∃ d : WrittenDecimal, w = .decimal d ∧ v = (d.value : ℚ) := by
  cases w with
  | decimal d => exact .inr (.inr ⟨d, rfl, (Option.some.inj hv).symm⟩)
  | nan sign word hword => cases hv
  | infinity sign word hword =>
    rw [numeral, Numeral.truncate]
    rw [value?, Option.some.injEq] at hv
    rcases hsign : sign.isNegative with _ | _
    · exact .inr (.inl ⟨by rw [← hv, hsign, if_neg Bool.false_ne_true], rfl⟩)
    · exact .inl ⟨by rw [← hv, hsign, if_pos rfl], rfl⟩

/-- What is no number becomes zero. -/
theorem truncate_of_none (h : w.value? = none) : w.numeral.truncate = 0 := by
  cases w with
  | decimal d => cases h
  | infinity sign word hword => cases h
  | nan sign word hword => rfl

/-- **Cutting off keeps the order.** -/
theorem truncate_mono (hv : w.value? = some v) (hv' : w'.value? = some v') (hle : v ≤ v') :
    w.numeral.truncate ≤ w'.numeral.truncate := by
  obtain ⟨-, hlow⟩ | ⟨rfl, -⟩ | ⟨d, rfl, rfl⟩ := value?_cases hv
  · rw [hlow]
    exact limit64_le _
  · obtain ⟨rfl, -⟩ | ⟨-, hhigh⟩ | ⟨d', rfl, rfl⟩ := value?_cases hv'
    · exact absurd hle bot_lt_top.not_ge
    · rw [hhigh]
      exact le_limit64 _
    · exact absurd hle (WithBot.coe_lt_coe.mpr (WithTop.coe_lt_top d'.value)).not_ge
  · obtain ⟨rfl, -⟩ | ⟨-, hhigh⟩ | ⟨d', rfl, rfl⟩ := value?_cases hv'
    · exact absurd hle (WithBot.not_coe_le_bot _)
    · rw [hhigh]
      exact le_limit64 _
    · exact WrittenDecimal.truncate_mono (WithBotTop.coe_le_coe.mp hle)

/-- Where the limits and zero are reached for certain. -/
theorem truncate_extremes (hv : w.value? = some v) :
    (((2 ^ 63 : ℚ) : ExtendedRat) ≤ v → w.numeral.truncate = Int64.maxValue) ∧
      (v ≤ ((-2 ^ 63 : ℚ) : ExtendedRat) → w.numeral.truncate = Int64.minValue) ∧
      (((-1 / 2 : ℚ) : ExtendedRat) ≤ v → v ≤ ((1 / 2 : ℚ) : ExtendedRat) →
        w.numeral.truncate = 0) := by
  obtain ⟨rfl, hlow⟩ | ⟨rfl, hhigh⟩ | ⟨d, rfl, rfl⟩ := value?_cases hv
  · exact ⟨fun h => absurd h (WithBot.not_coe_le_bot _), fun _ => hlow,
      fun h => absurd h (WithBot.not_coe_le_bot _)⟩
  · have htop : ∀ q : ℚ, ¬ (⊤ : ExtendedRat) ≤ (q : ExtendedRat) := fun q =>
      (WithBot.coe_lt_coe.mpr (WithTop.coe_lt_top q)).not_ge
    exact ⟨fun _ => hhigh, fun h => absurd h (htop _), fun _ h => absurd h (htop _)⟩
  · simp only [WithBotTop.coe_le_coe]
    exact ⟨WrittenDecimal.truncate_of_le, WrittenDecimal.truncate_of_ge,
      WrittenDecimal.truncate_of_small⟩

end WrittenNumeral

/-! ### Written seconds -/

/-- Seconds or a count as it is written: a numeral between spaces and control characters. -/
structure WrittenSeconds where
  front : List Char := []
  numeral : WrittenNumeral
  back : List Char := []
  front_blank : ∀ c ∈ front, c ≤ ' '
  back_blank : ∀ c ∈ back, c ≤ ' '

namespace WrittenSeconds

def text (s : WrittenSeconds) : String :=
  String.ofList (s.front ++ s.numeral.chars ++ s.back)

/-- The blanks around the numeral are trimmed off, and nothing else is. -/
theorem trim_eq_chars_iff {text : String} (w : WrittenNumeral) :
    Text.trim Text.isSpaceOrControl text.toList = w.chars ↔
      ∃ s : WrittenSeconds, s.text = text ∧ s.numeral = w := by
  have hblank : ∀ c ∈ w.chars, Text.isSpaceOrControl c = false := fun c hc =>
    isSpaceOrControl_of_isPrinted (w.isPrinted_of_mem c hc)
  rw [Text.trim_eq_iff hblank]
  constructor
  · rintro ⟨front, back, htext, hfront, hback⟩
    refine ⟨⟨front, w, back, fun c hc => of_decide_eq_true (hfront c hc),
      fun c hc => of_decide_eq_true (hback c hc)⟩, ?_, rfl⟩
    rw [WrittenSeconds.text, htext, String.ofList_toList]
  · rintro ⟨s, rfl, rfl⟩
    refine ⟨s.front, s.back, ?_, fun c hc => decide_eq_true (s.front_blank c hc),
      fun c hc => decide_eq_true (s.back_blank c hc)⟩
    rw [WrittenSeconds.text, String.toList_ofList]

theorem trim_text (s : WrittenSeconds) :
    Text.trim Text.isSpaceOrControl s.text.toList = s.numeral.chars :=
  (trim_eq_chars_iff s.numeral).mpr ⟨s, rfl, rfl⟩

/-- **Seconds are read exactly if they are written so.** -/
theorem readSeconds?_eq_some_iff {text : String} {a : Int64} :
    readSeconds? text = some a ↔
      ∃ s : WrittenSeconds, s.text = text ∧ s.numeral.numeral.truncate = a := by
  rw [readSeconds?, Option.map_eq_some_iff]
  constructor
  · rintro ⟨n, hread, rfl⟩
    obtain ⟨w, hw, rfl⟩ := WrittenNumeral.read?_eq_some_iff.mp hread
    obtain ⟨s, htext, rfl⟩ := (trim_eq_chars_iff w).mp hw.symm
    exact ⟨s, htext, rfl⟩
  · rintro ⟨s, rfl, rfl⟩
    rw [trim_text]
    exact ⟨_, s.numeral.read?_chars, rfl⟩

theorem readSeconds?_text (s : WrittenSeconds) :
    readSeconds? s.text = some s.numeral.numeral.truncate :=
  readSeconds?_eq_some_iff.mpr ⟨s, rfl, rfl⟩

/-- What a text means does not depend on how it is taken apart. -/
theorem value?_eq_of_text_eq {s t : WrittenSeconds} (h : s.text = t.text) :
    s.numeral.value? = t.numeral.value? := by
  refine WrittenNumeral.value?_eq_of_chars_eq ?_
  rw [← s.trim_text, h, t.trim_text]

end WrittenSeconds

/-! ### Truncation -/

/-- Below `2 ^ 33` numbers with 53 bits lie so close that one of them is between a decimal with at
most six places and the next whole number: a millionth is more than `2 ^ (-20)`. -/
theorem exists_isBinary_between {n f places : Nat} (hn : n < 2 ^ 33) (hf : f < 10 ^ places)
    (hplaces : places ≤ 6) : ∃ g : ℚ, IsBinary g ∧ g < n + 1 ∧ (n : ℚ) + f / 10 ^ places ≤ g := by
  have hunits : (((n + 1) * 2 ^ 20 - 1 : Nat) : ℚ) * 2 ^ (-20 : Int) = n + 1 - 1 / 2 ^ 20 := by
    rw [Nat.cast_sub (by omega), zpow_neg]
    push_cast
    norm_num
    ring
  refine ⟨n + 1 - 1 / 2 ^ 20, ⟨_, -20, ?_, by decide, hunits.symm⟩, by norm_num, ?_⟩
  · omega
  have hpower : (0 : ℚ) < 10 ^ places := by positivity
  have hfraction : (f : ℚ) / 10 ^ places ≤ 1 - 1 / 10 ^ places := by
    have hf' : (f : ℚ) + 1 ≤ 10 ^ places := by exact_mod_cast hf
    rw [div_le_iff₀ hpower, sub_mul, one_mul, div_mul_cancel₀ _ hpower.ne']
    linarith
  have hplace : (1 : ℚ) / 10 ^ 6 ≤ 1 / 10 ^ places :=
    one_div_le_one_div_of_le hpower (pow_le_pow_right₀ (by norm_num) hplaces)
  have hmillionth : (1 : ℚ) / 2 ^ 20 ≤ 1 / 10 ^ 6 := by norm_num
  linarith

/-- **Seconds are truncated exactly**: a plain decimal with at most six places, between any spaces
and control characters, is read as its whole part with its sign if that is less than `2 ^ 33`. If
the places are all zero, up to `2 ^ 53` is enough. What the reader rounds the decimal to, correctly,
stays below the next whole number. -/
theorem readSeconds?_truncates (front back : List Char) (sign : Sign) (whole : Digits)
    (fraction : Option Digits) (hfront : ∀ c ∈ front, c ≤ ' ') (hback : ∀ c ∈ back, c ≤ ' ')
    (hwhole : whole.chars ≠ []) (hplaces : (fractionDigits fraction).chars.length ≤ 6)
    (hsize : whole.value < 2 ^ 33 ∨
      whole.value ≤ 2 ^ 53 ∧ ∀ c ∈ (fractionDigits fraction).chars, c = '0') :
    (∃ a, readSeconds? (String.ofList
        (front ++ (sign.chars ++ whole.chars ++ fractionChars fraction) ++ back)) = some a ∧
      a.toInt = signed sign.isNegative whole.value) ∧
    ∃ r : ℚ, RoundsTo (whole.value + (fractionDigits fraction).value /
        10 ^ (fractionDigits fraction).chars.length) r ∧
      (Magnitude.ofDecimal (digitsValue (whole.chars ++ (fractionDigits fraction).chars))
        (-(fractionDigits fraction).chars.length)).value = r ∧
      whole.value ≤ r ∧ r < whole.value + 1 := by
  let d : WrittenDecimal :=
    { sign := sign, whole := whole, fraction := fraction, hasDigit := fun h => hwhole h.1 }
  let s : WrittenSeconds :=
    { front := front, numeral := .decimal d, back := back, front_blank := hfront,
      back_blank := hback }
  have htext : s.text = String.ofList
      (front ++ (sign.chars ++ whole.chars ++ fractionChars fraction) ++ back) := by
    simp [WrittenSeconds.text, s, d, WrittenNumeral.chars, WrittenDecimal.chars,
      WrittenDecimal.body, exponentChars]
  have hmagnitude : d.magnitude = whole.value + (fractionDigits fraction).value /
      10 ^ (fractionDigits fraction).chars.length := d.magnitude_of_exponent_eq_none rfl
  have hrounded : d.rounded = Magnitude.ofDecimal
      (digitsValue (whole.chars ++ (fractionDigits fraction).chars))
      (-(fractionDigits fraction).chars.length) :=
    congrArg (Magnitude.ofDecimal _) (zero_sub _)
  have hbits : whole.value ≤ 2 ^ 53 := by
    rcases hsize with hsmall | ⟨hbits, -⟩ <;> omega
  have hle : (whole.value : ℚ) ≤ d.magnitude := by
    rw [hmagnitude]
    exact le_add_of_nonneg_right (by positivity)
  obtain ⟨g, hg, hlt, hle'⟩ : ∃ g, IsBinary g ∧ g < whole.value + 1 ∧ d.magnitude ≤ g := by
    rw [hmagnitude]
    rcases hsize with hsmall | ⟨-, hzeros⟩
    · exact exists_isBinary_between hsmall (fractionDigits fraction).value_lt hplaces
    · rw [(fractionDigits fraction).value_eq_zero_iff.mpr hzeros]
      exact ⟨whole.value, isBinary_natCast hbits, by simp, by simp⟩
  constructor
  · refine ⟨d.numeral.truncate, htext ▸ s.readSeconds?_text, ?_⟩
    rw [d.toInt_truncate, WrittenDecimal.whole_rounded_eq hbits hg hlt hle hle', signed]
    split_ifs <;> omega
  · rw [← hmagnitude, ← hrounded]
    exact WrittenDecimal.exists_roundsTo_between hbits hg hlt hle hle'

/-- The last decimal with six places before `-2 ^ 33`, and `2 ^ 53` itself. -/
theorem readSeconds?_truncates_sample :
    readSeconds? "\n -8589934591.999999\n" = some (-8589934591) ∧
      readSeconds? "+0009007199254740992.000" = some 9007199254740992 := by
  have hblank : '\n' ≤ ' ' := by decide
  obtain ⟨⟨a, hread, ha⟩, -⟩ := readSeconds?_truncates ['\n', ' '] ['\n'] .minus
    (.ofText "8589934591".toList) (some (.ofText "999999".toList)) (by simp [hblank])
    (by simp [hblank]) (by decide) (by decide) (.inl (by decide))
  obtain ⟨⟨b, hread', hb⟩, -⟩ := readSeconds?_truncates [] [] .plus
    (.ofText "0009007199254740992".toList) (some (.ofText "000".toList)) (by simp) (by simp)
    (by decide) (by decide) (.inr ⟨by decide, (Digits.value_eq_zero_iff _).mp (by decide)⟩)
  have ha' : a = -8589934591 := Int64.toInt_inj.mp (ha.trans (by decide))
  have hb' : b = 9007199254740992 := Int64.toInt_inj.mp (hb.trans (by decide))
  exact ⟨ha' ▸ hread, hb' ▸ hread'⟩

/-! ### Order -/

/-- Whether a text writes seconds that are a number, and which. -/
def WritesNumber (text : String) (v : ExtendedRat) : Prop :=
  ∃ s : WrittenSeconds, s.text = text ∧ s.numeral.value? = some v

/-- Whether a text writes seconds that are no number. -/
def WritesNan (text : String) : Prop :=
  ∃ s : WrittenSeconds, s.text = text ∧ s.numeral.value? = none

/-- **Reading keeps the order.** A text that is read writes no number, which is read as zero, or
exactly one number, finite or not. Of two numbers the greater one is never read as less, whatever
their exponents. From `2 ^ 63` on either side of zero the limits of 64 bits are read, and up to a
half zero. -/
theorem readSeconds?_monotone :
    (∀ text a, readSeconds? text = some a →
      WritesNan text ∧ a = 0 ∨ ∃! v, WritesNumber text v) ∧
      (∀ text text' v v', WritesNumber text v → WritesNumber text' v' → v ≤ v' →
        ∃ a b, readSeconds? text = some a ∧ readSeconds? text' = some b ∧ a ≤ b) ∧
      ∀ text v, WritesNumber text v →
        ∃ a, readSeconds? text = some a ∧ Int64.minValue ≤ a ∧ a ≤ Int64.maxValue ∧
          (((2 ^ 63 : ℚ) : ExtendedRat) ≤ v → a = Int64.maxValue) ∧
          (v ≤ ((-2 ^ 63 : ℚ) : ExtendedRat) → a = Int64.minValue) ∧
          (((-1 / 2 : ℚ) : ExtendedRat) ≤ v → v ≤ ((1 / 2 : ℚ) : ExtendedRat) → a = 0) := by
  refine ⟨?_, ?_, ?_⟩
  · intro text a hread
    obtain ⟨s, hs, rfl⟩ := WrittenSeconds.readSeconds?_eq_some_iff.mp hread
    rcases hvalue : s.numeral.value? with _ | v
    · exact .inl ⟨⟨s, hs, hvalue⟩, s.numeral.truncate_of_none hvalue⟩
    · refine .inr ⟨v, ⟨s, hs, hvalue⟩, ?_⟩
      rintro v' ⟨t, ht, hvalue'⟩
      have heq := WrittenSeconds.value?_eq_of_text_eq (ht.trans hs.symm)
      rw [hvalue, hvalue'] at heq
      exact Option.some.inj heq
  · rintro _ _ v v' ⟨s, rfl, hv⟩ ⟨t, rfl, hv'⟩ hle
    exact ⟨_, _, s.readSeconds?_text, t.readSeconds?_text,
      WrittenNumeral.truncate_mono hv hv' hle⟩
  · rintro _ v ⟨s, rfl, hv⟩
    exact ⟨_, s.readSeconds?_text, limit64_le _, le_limit64 _,
      WrittenNumeral.truncate_extremes hv⟩

/-- A tie, which is rounded up to the even number, below a number beyond 64 bits. -/
theorem readSeconds?_monotone_sample :
    ∃ a b, readSeconds? "4503599627370497.5" = some a ∧ readSeconds? "\n1e30\t" = some b ∧
      a = 4503599627370498 ∧ b = Int64.maxValue ∧ a ≤ b := by
  let tie : WrittenDecimal :=
    { whole := .ofText "4503599627370497".toList, fraction := some (.ofText "5".toList)
      hasDigit := by decide }
  let huge : WrittenDecimal :=
    { whole := .ofText "1".toList, hasDigit := by decide
      exponent := some ⟨.lower, { digits := .ofText "30".toList, ne_nil := by decide }⟩ }
  have htie : WritesNumber "4503599627370497.5" (tie.value : ℚ) :=
    ⟨{ numeral := .decimal tie, front_blank := by simp, back_blank := by simp }, by decide, rfl⟩
  have hhuge : WritesNumber "\n1e30\t" (huge.value : ℚ) :=
    ⟨{ front := ['\n'], numeral := .decimal huge, back := ['\t']
       front_blank := List.forall_mem_singleton.mpr (by decide)
       back_blank := List.forall_mem_singleton.mpr (by decide) }, by decide, rfl⟩
  have htie' : tie.value = 4503599627370497.5 := by
    have hdigits : (Digits.ofText "4503599627370497".toList).value = 4503599627370497 := by decide
    have hplace : (fractionDigits tie.fraction).value = 5 := by decide
    have hplaces : (fractionDigits tie.fraction).chars.length = 1 := by decide
    have hvalue : tie.value = tie.magnitude := if_neg Bool.false_ne_true
    rw [hvalue, tie.magnitude_of_exponent_eq_none rfl, hdigits, hplace, hplaces]
    norm_num
  have hhuge' : huge.value = 10 ^ 30 := by
    have hdigit : (Digits.ofText "1".toList).value = 1 := by decide
    have hexponent : exponentValue huge.exponent = 30 := by decide
    have hvalue : huge.value = huge.magnitude := if_neg Bool.false_ne_true
    rw [hvalue, WrittenDecimal.magnitude, hexponent, hdigit]
    norm_num [huge, fractionDigits, Digits.empty, Digits.value]
  rw [htie'] at htie
  rw [hhuge'] at hhuge
  obtain ⟨-, hmono, hlimits⟩ := readSeconds?_monotone
  obtain ⟨a, b, ha, hb, hle⟩ := hmono _ _ _ _ htie hhuge
    (WithBotTop.coe_le_coe.mpr (by norm_num))
  obtain ⟨b', hb', -, -, hmax, -⟩ := hlimits _ _ hhuge
  refine ⟨a, b, ha, hb, ?_, ?_, hle⟩
  · have hread : readSeconds? "4503599627370497.5" = some 4503599627370498 := by decide +kernel
    exact Option.some.inj (ha.symm.trans hread)
  · rw [Option.some.inj (hb.symm.trans hb')]
    exact hmax (WithBotTop.coe_le_coe.mpr (by norm_num))

end DaemonReply.Value
