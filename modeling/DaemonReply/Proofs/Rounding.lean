import DaemonReply.Proofs.Decimal
import Mathlib.Algebra.Order.Field.Power
import Mathlib.Data.Int.Log
import Mathlib.Data.Rat.Floor
import Mathlib.Tactic.Linarith
import Mathlib.Tactic.NormNum
import Mathlib.Tactic.Positivity
import Mathlib.Tactic.Ring

/-!
# Correct rounding

`Magnitude.ofDecimal` computes with numerators, denominators and estimates of logarithms. Here it
is compared with exact arithmetic on rational numbers. A number is rounded in a **unit**, the power
of two that leaves it 53 significant bits and is not finer than the finest one (`unitOf`), to the
nearest multiple of that unit, an even one in a tie (`RoundsTo`).

The unit changes from one power of two to the next, and yet no number with 53 bits in any unit at
all is nearer (`RoundsTo.abs_sub_le`), and another one is as near only if the significand that is
taken is even (`RoundsTo.exists_even_of_tie`). All that is needed later follows from nearness:
rounding does not pass a number with 53 bits, and it keeps the order (`RoundsTo.mono`).

Main statement: a decimal becomes what it is rounded to, or infinite from `2 ^ 1024` on, also where
it is not multiplied out (`Magnitude.exists_roundsTo_ofDecimal`).
-/

namespace DaemonReply.Value

/-! ### Quotients and powers -/

/-- A power is its numerator divided by its denominator. -/
theorem powNum_div_powDen (base : Nat) (exponent : Int) :
    (powNum base exponent : ℚ) / powDen base exponent = (base : ℚ) ^ exponent := by
  obtain ⟨k, rfl | rfl⟩ := exponent.eq_nat_or_neg
  · have hden : powDen base (k : Int) = 1 := by simp [powDen]
    rw [powNum_natCast, hden, zpow_natCast]
    simp
  · have hnum : powNum base (-(k : Int)) = 1 := by simp [powNum]
    rw [hnum, powDen_neg_natCast, zpow_neg, zpow_natCast]
    simp

theorem powNum_pos {base : Nat} (hbase : 0 < base) (exponent : Int) : 0 < powNum base exponent :=
  Nat.pow_pos hbase

theorem powDen_pos {base : Nat} (hbase : 0 < base) (exponent : Int) : 0 < powDen base exponent :=
  Nat.pow_pos hbase

/-- Multiplying out compares a quotient with a power of two. -/
theorem twoPowLe_iff {num den : Nat} (hden : 0 < den) (exponent : Int) :
    twoPowLe exponent num den ↔ (2 : ℚ) ^ exponent ≤ (num : ℚ) / den := by
  have hpow : (0 : ℚ) < powDen 2 exponent := by exact_mod_cast powDen_pos two_pos exponent
  have hquot : (0 : ℚ) < den := by exact_mod_cast hden
  have hpower : (powNum 2 exponent : ℚ) / powDen 2 exponent = 2 ^ exponent :=
    mod_cast powNum_div_powDen 2 exponent
  rw [← hpower, div_le_div_iff₀ hpow hquot, twoPowLe, mul_comm den]
  exact_mod_cast Iff.rfl

/-- The exponent that is found is the binary logarithm. -/
theorem log2Quotient_eq_log {num den : Nat} (hnum : 0 < num) (hden : 0 < den) :
    log2Quotient num den = Int.log 2 ((num : ℚ) / den) := by
  have hquot : (0 : ℚ) < den := by exact_mod_cast hden
  have hpos : (0 : ℚ) < (num : ℚ) / den := div_pos (by exact_mod_cast hnum) hquot
  have hle : ∀ e : Int, (2 : ℚ) ^ e ≤ (num : ℚ) / den ↔ e ≤ Int.log 2 ((num : ℚ) / den) := by
    intro e
    exact_mod_cast Int.zpow_le_iff_le_log (R := ℚ) one_lt_two hpos
  -- the estimate is at most one too great
  have hlow : (num.log2 : Int) - den.log2 - 1 ≤ Int.log 2 ((num : ℚ) / den) := by
    rw [← hle, le_div_iff₀ hquot]
    have hden' : (den : ℚ) ≤ 2 ^ (den.log2 + 1) := by exact_mod_cast Nat.lt_log2_self.le
    have hnum' : (2 : ℚ) ^ num.log2 ≤ num := by exact_mod_cast Nat.log2_self_le hnum.ne'
    calc (2 : ℚ) ^ ((num.log2 : Int) - den.log2 - 1) * den
        ≤ 2 ^ ((num.log2 : Int) - den.log2 - 1) * 2 ^ (den.log2 + 1) := by gcongr
      _ = 2 ^ num.log2 := by
          rw [← zpow_natCast, ← zpow_natCast, ← zpow_add₀ two_ne_zero]
          congr 1
          push_cast
          ring
      _ ≤ num := hnum'
  have hhigh : Int.log 2 ((num : ℚ) / den) < (num.log2 : Int) - den.log2 + 1 := by
    rw [← not_le, ← hle, not_le, div_lt_iff₀ hquot]
    have hden' : (2 : ℚ) ^ den.log2 ≤ den := by exact_mod_cast Nat.log2_self_le hden.ne'
    have hnum' : (num : ℚ) < 2 ^ (num.log2 + 1) := by exact_mod_cast Nat.lt_log2_self
    calc (num : ℚ) < 2 ^ (num.log2 + 1) := hnum'
      _ = 2 ^ ((num.log2 : Int) - den.log2 + 1) * 2 ^ den.log2 := by
          rw [← zpow_natCast, ← zpow_natCast, ← zpow_add₀ two_ne_zero]
          congr 1
          push_cast
          ring
      _ ≤ 2 ^ ((num.log2 : Int) - den.log2 + 1) * den := by gcongr
  rw [log2Quotient]
  simp only [twoPowLe_iff hden, hle]
  split_ifs <;> omega

/-! ### The nearest natural number -/

/-- A number is not near to two natural numbers at once. -/
theorem one_le_abs_sub_add_abs_sub (x : ℚ) {n m : ℕ} (hne : n ≠ m) :
    1 ≤ |x - n| + |x - m| := by
  have htriangle : |(n : ℚ) - m| ≤ |x - n| + |x - m| := by
    rw [abs_sub_comm x n]
    exact abs_sub_le _ _ _
  refine le_trans ?_ htriangle
  rcases Nat.lt_or_gt_of_ne hne with hlt | hlt
  · have hstep : (n : ℚ) + 1 ≤ m := by exact_mod_cast hlt
    exact le_abs.mpr (.inr (by linarith))
  · have hstep : (m : ℚ) + 1 ≤ n := by exact_mod_cast hlt
    exact le_abs.mpr (.inl (by linarith))

/-- A natural number next to a number; of two equally near ones, the even one. -/
structure IsNearest (x : ℚ) (n : ℕ) : Prop where
  abs_sub_le_half : |x - n| ≤ 1 / 2
  even_of_tie : |x - n| = 1 / 2 → Even n

namespace IsNearest

variable {x : ℚ} {n m : ℕ}

/-- No natural number is nearer. -/
theorem abs_sub_le (h : IsNearest x n) (m : ℕ) : |x - n| ≤ |x - m| := by
  rcases eq_or_ne n m with rfl | hne
  · exact le_rfl
  · linarith [h.abs_sub_le_half, one_le_abs_sub_add_abs_sub x hne]

/-- Another natural number is as near only if the nearest one is even. -/
theorem even_of_abs_sub_eq (h : IsNearest x n) (hne : n ≠ m) (htie : |x - n| = |x - m|) :
    Even n := by
  have hfar : 1 ≤ |x - n| + |x - m| := one_le_abs_sub_add_abs_sub x hne
  exact h.even_of_tie (le_antisymm h.abs_sub_le_half (by linarith))

/-- There is only one: of two neighbours one is odd. -/
theorem unique (hn : IsNearest x n) (hm : IsNearest x m) : n = m := by
  by_contra hne
  have htie : |x - n| = |x - m| := le_antisymm (hn.abs_sub_le m) (hm.abs_sub_le n)
  have hn' : Even n := hn.even_of_abs_sub_eq hne htie
  have hm' : Even m := hm.even_of_abs_sub_eq (Ne.symm hne) htie.symm
  have hbelow : (n : ℚ) ≤ m + 1 := by
    linarith [(abs_le.mp hn.abs_sub_le_half).1, (abs_le.mp hm.abs_sub_le_half).2]
  have habove : (m : ℚ) ≤ n + 1 := by
    linarith [(abs_le.mp hm.abs_sub_le_half).1, (abs_le.mp hn.abs_sub_le_half).2]
  have hbelow' : n ≤ m + 1 := by exact_mod_cast hbelow
  have habove' : m ≤ n + 1 := by exact_mod_cast habove
  rw [Nat.even_iff] at hn' hm'
  omega

/-- Before a natural number the nearest one is not beyond it. -/
theorem le_of_le (h : IsNearest x n) (hm : x ≤ m) : n ≤ m := by
  have hnear : |x - n| ≤ |x - m| := h.abs_sub_le m
  rw [abs_of_nonpos (sub_nonpos.mpr hm)] at hnear
  have hle : (n : ℚ) ≤ m := by linarith [(abs_le.mp hnear).1]
  exact_mod_cast hle

end IsNearest

/-- **Quotients are rounded to the nearest natural number.** -/
theorem isNearest_divNearest (num : Nat) {den : Nat} (hden : 0 < den) :
    IsNearest ((num : ℚ) / den) (divNearest num den) := by
  have hquot : (0 : ℚ) < den := by exact_mod_cast hden
  have hsplit : (num : ℚ) / den - (num / den : ℕ) = (num % den : ℕ) / den := by
    have hnum : (num : ℚ) = den * (num / den : ℕ) + (num % den : ℕ) := by
      exact_mod_cast (Nat.div_add_mod num den).symm
    rw [sub_eq_iff_eq_add, eq_comm, div_add' _ _ _ hquot.ne', hnum, mul_comm, add_comm]
  have hnonneg : (0 : ℚ) ≤ (num % den : ℕ) / den := by positivity
  have hless : ((num % den : ℕ) : ℚ) / den < 1 / 2 ↔ 2 * (num % den) < den := by
    rw [div_lt_iff₀ hquot, one_div_mul_eq_div, lt_div_iff₀ two_pos, mul_comm]
    exact_mod_cast Iff.rfl
  have htie : ((num % den : ℕ) : ℚ) / den = 1 / 2 ↔ 2 * (num % den) = den := by
    rw [div_eq_iff hquot.ne', one_div_mul_eq_div, eq_div_iff two_ne_zero, mul_comm]
    exact_mod_cast Iff.rfl
  have hwhole : ((num % den : ℕ) : ℚ) / den < 1 := by
    rw [div_lt_one hquot]
    exact_mod_cast Nat.mod_lt num hden
  rw [divNearest]
  generalize hrest : ((num % den : ℕ) : ℚ) / den = rest at *
  simp only [← hless, ← htie, ← Nat.even_iff]
  split_ifs with hdown
  · constructor
    · rw [hsplit, abs_of_nonneg hnonneg]
      exact hdown.elim le_of_lt fun h => h.1.le
    · rw [hsplit, abs_of_nonneg hnonneg]
      exact fun hhalf => hdown.elim (fun h => absurd hhalf h.ne) And.right
  · have hhalf : 1 / 2 ≤ rest := not_lt.mp fun h => hdown (.inl h)
    have hup : (num : ℚ) / den - (num / den + 1 : ℕ) = -(1 - rest) := by
      rw [Nat.cast_add_one, ← sub_sub, hsplit, neg_sub]
    constructor
    · rw [hup, abs_neg, abs_of_nonneg (by linarith)]
      linarith
    · rw [hup, abs_neg, abs_of_nonneg (by linarith), Nat.even_add_one]
      exact fun hup heven => hdown (.inr ⟨by linarith, heven⟩)

/-! ### Rounding to 53 bits -/

/-- The exponent of the unit in which a positive number is rounded. -/
def unitOf (x : ℚ) : ℤ :=
  max (Int.log 2 x - 52) Magnitude.minExponent

/-- A number becomes another one when it is rounded to 53 bits: the nearest multiple of its unit,
and of two equally near ones the even multiple. There is no greatest number here. -/
def RoundsTo (x r : ℚ) : Prop :=
  ∃ n : ℕ, IsNearest (x / 2 ^ unitOf x) n ∧ r = n * 2 ^ unitOf x

/-- The numbers with a significand of 53 bits, none in a finer unit than the finest. The significand
`2 ^ 53` is `2 ^ 52` in the next unit. -/
def IsBinary (x : ℚ) : Prop :=
  ∃ (n : ℕ) (e : ℤ), n ≤ 2 ^ 53 ∧ Magnitude.minExponent ≤ e ∧ x = n * 2 ^ e

variable {x y r s g : ℚ}

/-- A number is less than `2 ^ 53` units. -/
theorem lt_two_zpow_unitOf (x : ℚ) : x < 2 ^ (unitOf x + 53) := by
  have hlog : x < ((2 : ℕ) : ℚ) ^ (Int.log 2 x + 1) := Int.lt_zpow_succ_log_self one_lt_two x
  rw [Nat.cast_ofNat] at hlog
  refine hlog.trans_le (zpow_le_zpow_right₀ one_le_two ?_)
  have hunit : Int.log 2 x - 52 ≤ unitOf x := le_max_left _ _
  omega

/-- A number whose unit is not the finest one is at least `2 ^ 52` units. -/
theorem two_zpow_unitOf_le (hx : 0 < x) (hunit : Magnitude.minExponent < unitOf x) :
    2 ^ (unitOf x + 52) ≤ x := by
  have hlog : unitOf x + 52 = Int.log 2 x := by
    rw [unitOf] at hunit ⊢
    rw [max_eq_left (by omega)]
    omega
  rw [hlog]
  exact_mod_cast Int.zpow_log_le_self (R := ℚ) one_lt_two hx

/-- A number with 53 bits is a multiple of the unit, or some multiple is nearer: one in a finer unit
is below `2 ^ 52` units, as those are not more than the number that is rounded. -/
theorem IsBinary.exists_multiple (hg : IsBinary g) (hx : 0 ≤ x) :
    ∃ m : ℕ, g = m * 2 ^ unitOf x ∨ |x - m * 2 ^ unitOf x| < |x - g| := by
  obtain ⟨n, e, hn, he, rfl⟩ := hg
  rcases hx.eq_or_lt with rfl | hpos
  · refine ⟨0, ?_⟩
    rw [Nat.cast_zero, zero_mul, sub_zero, abs_zero, zero_sub, abs_neg, abs_pos]
    exact em _
  rcases le_or_gt (unitOf x) e with hcoarse | hfine
  · obtain ⟨k, rfl⟩ := Int.le.dest hcoarse
    refine ⟨n * 2 ^ k, .inl ?_⟩
    rw [zpow_add₀ two_ne_zero, zpow_natCast]
    push_cast
    ring
  · have hmultiple : ((2 ^ 52 : ℕ) : ℚ) * 2 ^ unitOf x ≤ x := by
      have hunit := two_zpow_unitOf_le hpos (he.trans_lt hfine)
      rw [add_comm, zpow_add₀ two_ne_zero] at hunit
      exact_mod_cast hunit
    have hbelow : (n : ℚ) * 2 ^ e ≤ (2 ^ 52 : ℕ) * 2 ^ unitOf x :=
      calc (n : ℚ) * 2 ^ e ≤ 2 ^ 53 * 2 ^ (unitOf x - 1) := by
            gcongr
            · exact_mod_cast hn
            · exact one_le_two
            · omega
        _ = (2 ^ 52 : ℕ) * 2 ^ unitOf x := by
            rw [zpow_sub_one₀ two_ne_zero]
            push_cast
            ring
    refine ⟨2 ^ 52, hbelow.eq_or_lt.imp_right fun hlt => ?_⟩
    rw [abs_of_nonneg (by linarith), abs_of_nonneg (by linarith)]
    linarith

/-- Distances in units. -/
theorem abs_sub_mul {u : ℚ} (hu : 0 < u) (x : ℚ) (n : ℕ) : |x - n * u| = |x / u - n| * u := by
  rw [← abs_of_pos hu, ← abs_mul, abs_of_pos hu, sub_mul, div_mul_cancel₀ x hu.ne']

/-- A number is rounded to at most `2 ^ 53` units. -/
theorem IsNearest.le_two_pow {n : ℕ} (h : IsNearest (x / 2 ^ unitOf x) n) : n ≤ 2 ^ 53 := by
  have hunit : (0 : ℚ) < 2 ^ unitOf x := by positivity
  have hlt := lt_two_zpow_unitOf x
  rw [zpow_add₀ two_ne_zero, ← div_lt_iff₀' hunit] at hlt
  exact h.le_of_le (by exact_mod_cast hlt.le)

namespace RoundsTo

theorem unique (hr : RoundsTo x r) (hs : RoundsTo x s) : r = s := by
  obtain ⟨n, hn, rfl⟩ := hr
  obtain ⟨m, hm, rfl⟩ := hs
  rw [hn.unique hm]

/-- What is rounded has 53 bits. -/
theorem isBinary (h : RoundsTo x r) : IsBinary r := by
  obtain ⟨n, hn, rfl⟩ := h
  exact ⟨n, unitOf x, hn.le_two_pow, le_max_right _ _, rfl⟩

/-- No multiple of the unit is nearer. -/
theorem abs_sub_le_multiple (h : RoundsTo x r) (m : ℕ) :
    |x - r| ≤ |x - m * 2 ^ unitOf x| := by
  obtain ⟨n, hn, rfl⟩ := h
  have hunit : (0 : ℚ) < 2 ^ unitOf x := by positivity
  rw [abs_sub_mul hunit, abs_sub_mul hunit]
  exact mul_le_mul_of_nonneg_right (hn.abs_sub_le m) hunit.le

/-- **No number with 53 bits is nearer.** -/
theorem abs_sub_le (h : RoundsTo x r) (hx : 0 ≤ x) (hg : IsBinary g) : |x - r| ≤ |x - g| := by
  obtain ⟨m, rfl | hnear⟩ := hg.exists_multiple hx
  · exact h.abs_sub_le_multiple m
  · exact (h.abs_sub_le_multiple m).trans hnear.le

/-- **A tie goes to the even significand.** -/
theorem exists_even_of_tie (h : RoundsTo x r) (hx : 0 ≤ x) (hg : IsBinary g) (hne : r ≠ g)
    (htie : |x - r| = |x - g|) : ∃ n : ℕ, Even n ∧ r = n * 2 ^ unitOf x := by
  obtain ⟨m, rfl | hnear⟩ := hg.exists_multiple hx
  · obtain ⟨n, hn, rfl⟩ := h
    have hunit : (0 : ℚ) < 2 ^ unitOf x := by positivity
    rw [abs_sub_mul hunit, abs_sub_mul hunit, mul_left_inj' hunit.ne'] at htie
    exact ⟨n, hn.even_of_abs_sub_eq (fun hnm => hne (by rw [hnm])) htie, rfl⟩
  · exact absurd htie ((h.abs_sub_le_multiple m).trans_lt hnear).ne

/-- Rounding does not pass a number with 53 bits. -/
theorem le_of_isBinary (h : RoundsTo x r) (hx : 0 ≤ x) (hg : IsBinary g) (hle : x ≤ g) :
    r ≤ g := by
  have hnear : |x - r| ≤ |x - g| := h.abs_sub_le hx hg
  rw [abs_of_nonpos (sub_nonpos.mpr hle)] at hnear
  linarith [(abs_le.mp hnear).1]

theorem ge_of_isBinary (h : RoundsTo x r) (hx : 0 ≤ x) (hg : IsBinary g) (hle : g ≤ x) :
    g ≤ r := by
  have hnear : |x - r| ≤ |x - g| := h.abs_sub_le hx hg
  rw [abs_of_nonneg (sub_nonneg.mpr hle)] at hnear
  linarith [(abs_le.mp hnear).2]

/-- **Rounding keeps the order.** If two numbers were rounded past each other, each of them would be
nearer to what the other becomes. -/
theorem mono (hr : RoundsTo x r) (hs : RoundsTo y s) (hx : 0 ≤ x) (hxy : x ≤ y) : r ≤ s := by
  rcases hxy.eq_or_lt with rfl | hlt
  · exact (hr.unique hs).le
  have hy : 0 ≤ y := hx.trans hxy
  by_contra! hcross
  have hsx : s < x := lt_of_not_ge fun hle => hcross.not_ge (hr.le_of_isBinary hx hs.isBinary hle)
  have hyr : y < r := lt_of_not_ge fun hle => hcross.not_ge (hs.ge_of_isBinary hy hr.isBinary hle)
  have hnear : |x - r| ≤ |x - s| := hr.abs_sub_le hx hs.isBinary
  have hnear' : |y - s| ≤ |y - r| := hs.abs_sub_le hy hr.isBinary
  rw [abs_of_neg (by linarith), abs_of_pos (by linarith)] at hnear
  rw [abs_of_pos (by linarith), abs_of_neg (by linarith)] at hnear'
  linarith

end RoundsTo

/-! ### Magnitudes -/

namespace Magnitude

/-- The number that a magnitude is. -/
def value : Magnitude → WithTop ℚ
  | finite significand exponent => ((significand * 2 ^ exponent : ℚ) : WithTop ℚ)
  | infinite => ⊤

/-- Numbers from `2 ^ 1024` on are infinite. -/
def overflow (r : ℚ) : WithTop ℚ :=
  if 2 ^ 1024 ≤ r then ⊤ else r

theorem unitExponent_eq {num den : Nat} (hnum : 0 < num) (hden : 0 < den) :
    unitExponent num den = unitOf ((num : ℚ) / den) := by
  rw [unitExponent, unitOf, log2Quotient_eq_log hnum hden]

/-- The significand is the nearest number of units. -/
theorem isNearest_significand (exponent : Int) (num : Nat) {den : Nat} (hden : 0 < den) :
    IsNearest ((num : ℚ) / den / 2 ^ exponent) (significand exponent num den) := by
  have hunits : (num : ℚ) / den / 2 ^ exponent =
      (num * powDen 2 exponent : ℕ) / (den * powNum 2 exponent : ℕ) := by
    have hpower : (powNum 2 exponent : ℚ) / powDen 2 exponent = 2 ^ exponent :=
      mod_cast powNum_div_powDen 2 exponent
    rw [← hpower, div_div_div_eq]
    push_cast
    rfl
  rw [hunits]
  exact isNearest_divNearest _ (Nat.mul_pos hden (powNum_pos two_pos exponent))

theorem roundsTo_significand {num den : Nat} (hnum : 0 < num) (hden : 0 < den) :
    RoundsTo ((num : ℚ) / den)
      (significand (unitExponent num den) num den * 2 ^ unitExponent num den) := by
  rw [unitExponent_eq hnum hden]
  exact ⟨_, isNearest_significand _ num hden, rfl⟩

theorem roundsTo_zero : RoundsTo 0 0 :=
  ⟨0, ⟨by simp, by simp⟩, by simp⟩

theorem value_zero : zero.value = overflow 0 := by
  simp [zero, value, overflow]

/-- Whether a number is infinite can be seen without multiplying its unit out: a number of 53 bits
is far below `2 ^ 1024` if its unit is at most one. -/
theorem powNum_le_mul_powNum_iff {n : ℕ} (hn : n ≤ 2 ^ 53) (e : Int) :
    powNum 2 1024 ≤ n * powNum 2 e ↔ (2 : ℚ) ^ 1024 ≤ n * 2 ^ e := by
  have hlimit : powNum 2 1024 = 2 ^ 1024 := powNum_natCast 2 1024
  have hsmall : (2 : ℚ) ^ 53 < 2 ^ 1024 := pow_lt_pow_right₀ one_lt_two (by norm_num)
  have hn' : (n : ℚ) ≤ 2 ^ 53 := by exact_mod_cast hn
  rw [hlimit]
  obtain ⟨k, rfl | rfl⟩ := e.eq_nat_or_neg
  · rw [powNum_natCast, zpow_natCast]
    exact_mod_cast Iff.rfl
  · have hnum : powNum 2 (-(k : Int)) = 1 := by simp [powNum]
    have hunit : (2 : ℚ) ^ (-(k : Int)) ≤ 1 := zpow_le_one_of_nonpos₀ one_le_two (by omega)
    have hproduct : (n : ℚ) * 2 ^ (-(k : Int)) ≤ n := mul_le_of_le_one_right n.cast_nonneg hunit
    refine iff_of_false ?_ (not_le.mpr (hproduct.trans_lt (hn'.trans_lt hsmall)))
    rw [hnum, mul_one, not_le]
    exact_mod_cast hn'.trans_lt hsmall

/-- **A quotient is rounded correctly.** -/
theorem exists_roundsTo_nearest (num : Nat) {den : Nat} (hden : 0 < den) :
    ∃ r, RoundsTo ((num : ℚ) / den) r ∧ (nearest num den).value = overflow r := by
  rcases Nat.eq_zero_or_pos num with rfl | hnum
  · refine ⟨0, ?_, ?_⟩
    · rw [Nat.cast_zero, zero_div]
      exact roundsTo_zero
    · rw [nearest, if_pos rfl, value_zero]
  · have hround := roundsTo_significand hnum hden
    refine ⟨_, hround, ?_⟩
    have hbound : significand (unitExponent num den) num den ≤ 2 ^ 53 := by
      have hnearest := isNearest_significand (unitExponent num den) num hden
      rw [unitExponent_eq hnum hden] at hnearest ⊢
      exact hnearest.le_two_pow
    simp only [nearest, if_neg hnum.ne', powNum_le_mul_powNum_iff hbound, overflow]
    split_ifs <;> rfl

/-- Every number has something that it is rounded to. -/
theorem exists_roundsTo {x : ℚ} (hx : 0 ≤ x) : ∃ r, RoundsTo x r := by
  obtain ⟨r, hr, -⟩ := exists_roundsTo_nearest x.num.toNat x.den_pos
  have hnum : (x.num.toNat : ℚ) = x.num := by
    exact_mod_cast Int.toNat_of_nonneg (Rat.num_nonneg.mpr hx)
  rw [hnum, Rat.num_div_den] at hr
  exact ⟨r, hr⟩

/-- A number far below the finest unit becomes zero. -/
theorem roundsTo_zero_of_lt {x : ℚ} (hx : 0 ≤ x) (hlt : x < 2 ^ (minExponent - 1)) :
    RoundsTo x 0 := by
  rcases hx.eq_or_lt with rfl | hpos
  · exact roundsTo_zero
  have hunit : unitOf x = minExponent := by
    have hlog : Int.log 2 x < minExponent - 1 :=
      (Int.lt_zpow_iff_log_lt (R := ℚ) one_lt_two hpos).mp (by exact_mod_cast hlt)
    rw [unitOf]
    omega
  have hhalf : x / 2 ^ unitOf x < 1 / 2 := by
    rw [hunit, div_lt_iff₀ (by positivity)]
    rwa [zpow_sub_one₀ two_ne_zero, mul_comm, ← one_div] at hlt
  refine ⟨0, ⟨?_, ?_⟩, by simp⟩
  · rw [Nat.cast_zero, sub_zero, abs_of_nonneg (by positivity)]
    exact hhalf.le
  · exact fun _ => ⟨0, rfl⟩

theorem decimal_nonneg (digits : Nat) (exponent : Int) : (0 : ℚ) ≤ digits * 10 ^ exponent := by
  positivity

/-- **A decimal is rounded correctly**, also if it is not multiplied out. -/
theorem exists_roundsTo_ofDecimal (digits : Nat) (exponent : Int) :
    ∃ r, RoundsTo (digits * 10 ^ exponent) r ∧ (ofDecimal digits exponent).value = overflow r := by
  have hx : (0 : ℚ) ≤ digits * 10 ^ exponent := decimal_nonneg digits exponent
  rw [ofDecimal]
  split_ifs with hzero hgreat hsmall
  · refine ⟨0, ?_, value_zero⟩
    rw [hzero, Nat.cast_zero, zero_mul]
    exact roundsTo_zero
  · obtain ⟨r, hr⟩ := exists_roundsTo hx
    have hpowers : 2 ^ 1024 ≤ 10 ^ 310 := by decide +kernel
    have hlimit : (2 : ℚ) ^ 1024 ≤ digits * 10 ^ exponent :=
      calc (2 : ℚ) ^ 1024 ≤ 1 * 10 ^ (310 : Int) := by
            rw [one_mul]
            exact_mod_cast hpowers
        _ ≤ digits * 10 ^ exponent := by
          gcongr
          · exact_mod_cast Nat.one_le_iff_ne_zero.mpr hzero
          · norm_num
    have hbinary : IsBinary (2 ^ 1024) := ⟨1, 1024, by norm_num, by decide, by norm_num⟩
    have hover : 2 ^ 1024 ≤ r := hr.ge_of_isBinary hx hbinary hlimit
    exact ⟨r, hr, by rw [overflow, if_pos hover, value]⟩
  · refine ⟨0, roundsTo_zero_of_lt hx ?_, value_zero⟩
    have hpowers : 2 ^ 1075 ≤ 10 ^ 330 := by decide +kernel
    have hdigits : (digits : ℚ) < 10 ^ (digits.log2 + 1) := by
      have hlog : digits < 10 ^ (digits.log2 + 1) :=
        Nat.lt_log2_self.trans_le (Nat.pow_le_pow_left (by decide) _)
      exact_mod_cast hlog
    calc (digits : ℚ) * 10 ^ exponent < 10 ^ (digits.log2 + 1) * 10 ^ exponent := by gcongr
      _ = 10 ^ (exponent + digits.log2 + 1) := by
          rw [← zpow_natCast, ← zpow_add₀ (by norm_num)]
          congr 1
          push_cast
          ring
      _ ≤ 10 ^ (-330 : Int) := by
          gcongr
          norm_num
      _ ≤ 2 ^ (-1075 : Int) := by
          rw [zpow_neg, zpow_neg]
          exact inv_anti₀ (by positivity) (by exact_mod_cast hpowers)
  · have hden : 0 < powDen 10 exponent := powDen_pos (by decide) exponent
    obtain ⟨r, hr, hvalue⟩ := exists_roundsTo_nearest (digits * powNum 10 exponent) hden
    refine ⟨r, ?_, hvalue⟩
    have hpower : (powNum 10 exponent : ℚ) / powDen 10 exponent = 10 ^ exponent :=
      mod_cast powNum_div_powDen 10 exponent
    rwa [Nat.cast_mul, mul_div_assoc, hpower] at hr

/-! ### What rounding keeps -/

theorem overflow_mono (hle : r ≤ s) : overflow r ≤ overflow s := by
  rw [overflow, overflow]
  split_ifs with hr hs hs
  · exact le_rfl
  · exact absurd (hr.trans hle) hs
  · exact le_top
  · exact WithTop.coe_le_coe.mpr hle

theorem coe_le_overflow (r : ℚ) : (r : WithTop ℚ) ≤ overflow r := by
  rw [overflow]
  split_ifs
  · exact le_top
  · exact le_rfl

variable {digits digits' : Nat} {exponent exponent' : Int}

/-- **Reading decimals keeps their order.** -/
theorem value_ofDecimal_mono
    (hle : (digits : ℚ) * 10 ^ exponent ≤ digits' * 10 ^ exponent') :
    (ofDecimal digits exponent).value ≤ (ofDecimal digits' exponent').value := by
  obtain ⟨r, hr, hvalue⟩ := exists_roundsTo_ofDecimal digits exponent
  obtain ⟨s, hs, hvalue'⟩ := exists_roundsTo_ofDecimal digits' exponent'
  rw [hvalue, hvalue']
  exact overflow_mono (hr.mono hs (decimal_nonneg _ _) hle)

/-- A decimal does not fall below a number with 53 bits. -/
theorem le_value_ofDecimal (hg : IsBinary g) (hle : g ≤ digits * 10 ^ exponent) :
    (g : WithTop ℚ) ≤ (ofDecimal digits exponent).value := by
  obtain ⟨r, hr, hvalue⟩ := exists_roundsTo_ofDecimal digits exponent
  rw [hvalue]
  exact (WithTop.coe_le_coe.mpr (hr.ge_of_isBinary (decimal_nonneg _ _) hg hle)).trans
    (coe_le_overflow r)

end Magnitude

end DaemonReply.Value
