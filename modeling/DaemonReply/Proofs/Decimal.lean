import DaemonReply.ForStd
import DaemonReply.Value.Integer
import DaemonReply.Value.Numeral
import Mathlib.Algebra.Ring.Nat
import Mathlib.Data.List.TakeWhile
import Mathlib.Tactic.SplitIfs

/-!
# Decimal numbers

Numbers that are written in decimal are read back. For integers that is a fact about digit
strings (`readInteger?_toString`). Seconds and counts are rounded to binary64 on the way, and
**whole numbers of at most `2 ^ 53` are not changed by that** (`Magnitude.floor?_ofDecimal`): up
to there the unit is a power of two that divides the number.
-/

namespace DaemonReply.Value

/-! ### Digits and signs -/

theorem digitsValue_toDigits (n : Nat) : digitsValue (Nat.toDigits 10 n) = n :=
  Nat.ofDigitChars_ten_toDigits

theorem isDigit_of_mem_toDigits {n : Nat} {c : Char} (hc : c ∈ Nat.toDigits 10 n) :
    c.isDigit = true :=
  Nat.isDigit_of_mem_toDigits (by decide) (by decide) hc

/-- The sign of a written integer is split off. -/
theorem splitSign_toString (z : Int) :
    splitSign (toString z).toList = (decide (z < 0), Nat.toDigits 10 z.natAbs) := by
  rw [Int.toList_toString]
  split_ifs with hz
  · rw [splitSign, decide_eq_true hz]
  · rw [decide_eq_false hz]
    obtain ⟨d, rest, hdigits⟩ := List.exists_cons_of_ne_nil (@Nat.toDigits_ne_nil z.natAbs 10)
    have hd : d.isDigit = true := isDigit_of_mem_toDigits (hdigits ▸ List.mem_cons_self)
    -- a digit is no sign, so the last equation of `splitSign` applies
    rw [hdigits, splitSign]
    · rintro _ ⟨rfl⟩
      exact absurd hd (by decide)
    · rintro _ ⟨rfl⟩
      exact absurd hd (by decide)

theorem signed_natAbs (z : Int) : signed (decide (z < 0)) z.natAbs = z := by
  rw [signed]
  split_ifs with hz
  · rw [decide_eq_true_eq] at hz
    omega
  · rw [decide_eq_true_eq] at hz
    omega

/-! ### Integers -/

/-- **An integer is read back.** -/
theorem readInteger?_toString (z : Int) : readInteger? (toString z).toList = some z := by
  have hdigits : Nat.toDigits 10 z.natAbs ≠ [] ∧
      (Nat.toDigits 10 z.natAbs).all Char.isDigit = true :=
    ⟨Nat.toDigits_ne_nil, List.all_eq_true.mpr fun _ hc => isDigit_of_mem_toDigits hc⟩
  simp only [readInteger?, splitSign_toString, if_pos hdigits, digitsValue_toDigits, signed_natAbs]

/-- **An integer of 32 bits is read back.** -/
theorem readInt32?_toString (i : Int32) : readInt32? (toString i.toInt) = some i := by
  have hrange : Int32.minValue.toInt ≤ i.toInt ∧ i.toInt ≤ Int32.maxValue.toInt :=
    ⟨i.minValue_le_toInt, i.toInt_le⟩
  simp only [readInt32?, readInteger?_toString, if_pos hrange, Int32.ofInt_toInt]

/-! ### Flags -/

/-- An explicit flag as a number. -/
def flagText (flag : Bool) : String :=
  if flag then "1" else "0"

/-- **An explicit flag is read back.** -/
theorem readFlag?_flagText (flag : Bool) : readFlag? (flagText flag) = some flag := by
  cases flag <;> decide

/-- A flag that is present without a text is set. -/
theorem presenceFlag_empty : presenceFlag "" = true := by
  decide

/-- A flag that is present with a zero is not set. -/
theorem presenceFlag_zero : presenceFlag "0" = false := by
  decide

/-! ### Rounding of whole numbers -/

@[simp] theorem powNum_natCast (base k : Nat) : powNum base (k : Int) = base ^ k := rfl

@[simp] theorem powDen_neg_natCast (base k : Nat) : powDen base (-(k : Int)) = base ^ k := by
  rw [powDen, Int.neg_neg]
  rfl

/-- A quotient that is whole is not rounded. -/
theorem divNearest_mul_right (q : Nat) {den : Nat} (hden : 0 < den) :
    divNearest (q * den) den = q := by
  have hrest : q * den % den = 0 := Nat.mul_mod_left q den
  rw [divNearest, hrest, if_pos (.inl (by omega)), Nat.mul_div_cancel q hden]

/-- The binary logarithm of a whole number. -/
theorem log2Quotient_one {n : Nat} (hn : n ≠ 0) : log2Quotient n 1 = n.log2 := by
  have hestimate : (n.log2 : Int) - (1 : Nat).log2 = n.log2 := by
    rw [show (1 : Nat).log2 = 0 by decide]
    omega
  have hle : twoPowLe (n.log2 : Int) n 1 := by
    have hself : 2 ^ n.log2 ≤ n := Nat.log2_self_le hn
    have hden : powDen 2 (n.log2 : Int) = 1 := by simp [powDen]
    rw [twoPowLe, powNum_natCast, hden]
    omega
  rw [log2Quotient, hestimate, if_pos hle]

/-- A whole number of at most 53 bits has a unit that is not coarser than one. -/
theorem unitExponent_one {n : Nat} (hn : n ≠ 0) (hlog : n.log2 ≤ 52) :
    Magnitude.unitExponent n 1 = -((52 - n.log2 : Nat) : Int) := by
  rw [Magnitude.unitExponent, log2Quotient_one hn, Magnitude.minExponent]
  omega

/-- A number is below all powers of two that are not less than one above it. -/
theorem not_powNum_le {n k limit : Nat} (hn : n < 2 ^ k) (hk : k ≤ limit) :
    ¬ powNum 2 (limit : Int) ≤ n := by
  rw [powNum_natCast]
  exact Nat.not_le_of_lt (Nat.lt_of_lt_of_le hn (Nat.pow_le_pow_right (by decide) hk))

namespace Magnitude

/-- A whole number of at most 53 bits is a whole number of units. -/
theorem floor?_nearest {n : Nat} (hn : n ≠ 0) (hlog : n.log2 ≤ 52) :
    (nearest n 1).floor? = some n := by
  -- the number of units has at most 53 bits, far from what is infinite
  have hbound : n * 2 ^ (52 - n.log2) < 2 ^ 53 := by
    calc n * 2 ^ (52 - n.log2) < 2 ^ (n.log2 + 1) * 2 ^ (52 - n.log2) :=
          Nat.mul_lt_mul_of_pos_right Nat.lt_log2_self (Nat.two_pow_pos _)
      _ = 2 ^ 53 := by rw [← Nat.pow_add, show n.log2 + 1 + (52 - n.log2) = 53 by omega]
  have hnum : powNum 2 (-((52 - n.log2 : Nat) : Int)) = 1 := by
    rw [powNum, show (-((52 - n.log2 : Nat) : Int)).toNat = 0 by omega]
  have hunits : significand (-((52 - n.log2 : Nat) : Int)) n 1 = n * 2 ^ (52 - n.log2) := by
    rw [significand, hnum, powDen_neg_natCast]
    simpa using divNearest_mul_right (n * 2 ^ (52 - n.log2)) Nat.one_pos
  have hfinite : nearest n 1 = finite (n * 2 ^ (52 - n.log2)) (-((52 - n.log2 : Nat) : Int)) := by
    rw [nearest, if_neg hn]
    simp only [unitExponent_one hn hlog, hunits, hnum, Nat.mul_one]
    exact if_neg (@not_powNum_le _ 53 1024 hbound (by decide))
  rw [hfinite, floor?, hnum, powDen_neg_natCast, Nat.mul_one,
    Nat.mul_div_cancel n (Nat.two_pow_pos _)]

/-- **Whole numbers of at most `2 ^ 53` are not rounded.** -/
theorem floor?_ofDecimal {n : Nat} (hn : n ≤ 2 ^ 53) : (ofDecimal n 0).floor? = some n := by
  rcases Nat.eq_zero_or_pos n with rfl | hpos
  · rw [ofDecimal, if_pos rfl, zero, floor?, Nat.zero_mul, Nat.zero_div]
  · have hne : n ≠ 0 := Nat.ne_of_gt hpos
    have hmultiplied : ofDecimal n 0 = nearest n 1 := by
      rw [ofDecimal, if_neg hne, if_neg (by omega), if_neg (by omega)]
      simp [powNum, powDen]
    rw [hmultiplied]
    rcases Nat.lt_or_ge n (2 ^ 53) with hlt | hge
    · have hlog : n.log2 < 53 := (Nat.log2_lt hne).mpr hlt
      exact floor?_nearest hne (by omega)
    -- only here is the unit coarser than one, and it still divides the number
    · obtain rfl : n = 2 ^ 53 := Nat.le_antisymm hn hge
      decide +kernel

end Magnitude

/-! ### Seconds and counts -/

/-- A digit is no blank. -/
theorem isSpaceOrControl_of_isDigit {c : Char} (hc : c.isDigit = true) :
    Text.isSpaceOrControl c = false := by
  simp only [Char.isDigit, Bool.and_eq_true, decide_eq_true_eq] at hc
  rw [Text.isSpaceOrControl, decide_eq_false_iff_not]
  intro hle
  have hspace : (48 : UInt32) ≤ 32 := UInt32.le_trans hc.1 hle
  exact absurd hspace (by decide)

/-- Digits without a sign are a numeral, and a whole one. -/
theorem readUnsigned?_digits (negative : Bool) {digits : List Char} (hne : digits ≠ [])
    (hdigits : ∀ c ∈ digits, c.isDigit = true) :
    Numeral.readUnsigned? negative digits =
      some (.finite negative (digitsValue digits) 0) := by
  have hchar : ∀ c ∈ digits, c.toLower = c := fun c hc => toLower_of_isDigit (hdigits c hc)
  have hlower : digits.map Char.toLower = digits :=
    (List.map_congr_left hchar).trans (List.map_id _)
  have hword : ∀ word : List Char, word.head?.all (!·.isDigit) = true → digits ≠ word := by
    rintro word hword rfl
    obtain ⟨d, rest, rfl⟩ := List.exists_cons_of_ne_nil hne
    simp [hdigits d (by simp)] at hword
  have hwhole : digits.takeWhile Char.isDigit = digits := List.takeWhile_eq_self_iff.mpr hdigits
  have hrest : digits.dropWhile Char.isDigit = [] := List.dropWhile_eq_nil_iff.mpr hdigits
  -- no word for an infinity or for no number begins with a digit
  simp only [Numeral.readUnsigned?, hlower]
  rw [if_neg, if_neg (hword _ (by decide))]
  · simp [Numeral.readFinite?, hwhole, hrest, Numeral.splitFraction, hne, Numeral.readExponent?]
  · rintro (h | h)
    · exact hword _ (by decide) h
    · exact hword _ (by decide) h

/-- A written integer neither begins nor ends with a blank. -/
theorem trim_toString (z : Int) :
    Text.trim Text.isSpaceOrControl (toString z).toList = (toString z).toList := by
  have hall : ∀ c ∈ (toString z).toList, Text.isSpaceOrControl c = false := by
    intro c hc
    rw [Int.toList_toString] at hc
    split_ifs at hc
    · rcases List.mem_cons.mp hc with rfl | hc
      · decide
      · exact isSpaceOrControl_of_isDigit (isDigit_of_mem_toDigits hc)
    · exact isSpaceOrControl_of_isDigit (isDigit_of_mem_toDigits hc)
  exact Text.trim_eq_self (fun c hc => hall c (List.mem_of_mem_head? hc))
    (fun c hc => hall c (List.mem_of_getLast? hc))

/-- **A whole number of seconds is read back** if it has at most `2 ^ 53` of them. -/
theorem readSeconds?_toString {v : Int64} (hv : v.toInt.natAbs ≤ 2 ^ 53) :
    readSeconds? (toString v.toInt) = some v := by
  have hnumeral : Numeral.read? (toString v.toInt).toList =
      some (.finite (decide (v.toInt < 0)) v.toInt.natAbs 0) := by
    simp only [Numeral.read?, splitSign_toString]
    rw [readUnsigned?_digits _ Nat.toDigits_ne_nil fun c hc => isDigit_of_mem_toDigits hc,
      digitsValue_toDigits]
  rw [readSeconds?, trim_toString, hnumeral, Option.map_some, Numeral.truncate,
    Magnitude.truncate, Magnitude.floor?_ofDecimal hv]
  simp only [signed_natAbs, Int64.ofIntClamp_toInt]

end DaemonReply.Value
