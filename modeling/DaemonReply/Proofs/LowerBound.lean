import DaemonReply.EventLog
import DaemonReply.ForStd
import Mathlib.Algebra.Order.Ring.Int

/-!
# The bound of a page in unbounded integers

The bound is computed in 32 bits, by two saturating subtractions and a clamp at zero. Each of the
three steps may clamp, and at either end: page sizes and counts may be negative. Yet a value that
has been clamped at the lower end ends up at zero in any case, and behind the upper end there is
nothing left to clamp. So **the steps come to the exact difference, clamped from above once before
the slack is taken off and from below once behind it** (`toInt_clamped_sub`).

Main statement: the exact bound, its range, and when the count is consulted
(`lowerBound_clamped`).
-/

namespace DaemonReply

open Value

/-! ### Saturating steps -/

namespace Value

/-- A difference is clamped once, to the nearest limit. -/
theorem toInt_saturatingSub (a b : Int32) :
    (saturatingSub a b).toInt = max (-2147483648) (min (a.toInt - b.toInt) 2147483647) :=
  Int32.toInt_ofIntClamp_eq (a.toInt - b.toInt)

/-- **Two saturating steps and a clamp at zero** clamp at most once at each end. -/
theorem toInt_clamped_sub (a b : Int32) {slack : Int32} (hslack : 0 ≤ slack) :
    (max (saturatingSub (saturatingSub a b) slack) 0).toInt =
      max 0 (min (a.toInt - b.toInt) (2 ^ 31 - 1) - slack.toInt) := by
  have hnonneg : 0 ≤ slack.toInt := Int32.le_iff_toInt_le.mp hslack
  rw [Int32.toInt_max_zero, toInt_saturatingSub, toInt_saturatingSub]
  omega

end Value

/-! ### Exact bounds -/

namespace EventLog

/-- The bound in unbounded integers: a difference that is never above 32 bits, less some slack, and
never below zero. -/
def exactBound (seqNo number count : Int) : Int :=
  if 0 < seqNo then max 0 (min (seqNo - number) (2 ^ 31 - 1) - 2)
  else max 0 (min (count - number) (2 ^ 31 - 1) - 1)

section ExactBound

variable {seqNo number number' count : Int}

theorem exactBound_nonneg : 0 ≤ exactBound seqNo number count := by
  unfold exactBound
  split_ifs <;> omega

theorem exactBound_le : exactBound seqNo number count ≤ 2 ^ 31 - 2 := by
  unfold exactBound
  split_ifs <;> omega

/-- The difference of two numbers of 32 bits is within 32 bits if the second is not negative. -/
theorem exactBound_of_nonneg (hnumber : 0 ≤ number) (hseqNo : seqNo < 2 ^ 31)
    (hcount : count < 2 ^ 31) : exactBound seqNo number count =
      if 0 < seqNo then max 0 (seqNo - number - 2) else max 0 (count - number - 1) := by
  unfold exactBound
  split_ifs <;> omega

/-- A larger page reaches at least as far back. -/
theorem exactBound_le_of_le (h : number ≤ number') :
    exactBound seqNo number' count ≤ exactBound seqNo number count := by
  unfold exactBound
  split_ifs <;> omega

end ExactBound

/-! ### The bounds asked with -/

theorem toInt_olderBound {seqNo : Int32} (hpos : 0 < seqNo) (number count : Int32) :
    (olderBound seqNo number).toInt = exactBound seqNo.toInt number.toInt count.toInt := by
  have hseqNo : 0 < seqNo.toInt := Int32.lt_iff_toInt_lt.mp hpos
  rw [exactBound, if_pos hseqNo]
  exact toInt_clamped_sub seqNo number (by decide)

theorem toInt_newestBound {seqNo : Int32} (hpos : ¬ 0 < seqNo) (number count : Int32) :
    (newestBound count number).toInt = exactBound seqNo.toInt number.toInt count.toInt := by
  have hseqNo : ¬ 0 < seqNo.toInt := Int32.lt_iff_toInt_lt.not.mp hpos
  rw [exactBound, if_neg hseqNo]
  exact toInt_clamped_sub count number (by decide)

variable {σ : Type}

/-- What asking for a bound gives, and the state that it leaves behind. -/
theorem run_lowerBound (seqNo number : Int32) (count : StateM σ Int32) (s : σ) :
    (lowerBound seqNo number count).run s =
      if 0 < seqNo then (olderBound seqNo number, s)
      else (newestBound (count.run s).1 number, (count.run s).2) := by
  rw [lowerBound]
  split_ifs <;> rfl

theorem toInt_lowerBound (seqNo number : Int32) (count : StateM σ Int32) (s : σ) :
    ((lowerBound seqNo number count).run s).1.toInt =
      exactBound seqNo.toInt number.toInt (count.run s).1.toInt := by
  rw [run_lowerBound]
  split_ifs with hpos
  · exact toInt_olderBound hpos number _
  · exact toInt_newestBound hpos number _

/-- **The bound is the exact one.** There is room for one more above it, for a page size that is not
negative nothing is clamped from above, a larger page has no larger bound, and the count is
consulted, and only once, exactly if the newest page is asked for. -/
theorem lowerBound_clamped (seqNo number : Int32) (count : StateM σ Int32) (s : σ) :
    let c := (count.run s).1
    let bound := ((lowerBound seqNo number count).run s).1
    (bound.toInt =
        if 0 < seqNo.toInt then max 0 (min (seqNo.toInt - number.toInt) (2 ^ 31 - 1) - 2)
        else max 0 (min (c.toInt - number.toInt) (2 ^ 31 - 1) - 1)) ∧
      (0 ≤ bound.toInt ∧ bound.toInt ≤ 2 ^ 31 - 2 ∧ (bound + 1).toInt = bound.toInt + 1) ∧
      (0 ≤ number.toInt → bound.toInt =
        if 0 < seqNo.toInt then max 0 (seqNo.toInt - number.toInt - 2)
        else max 0 (c.toInt - number.toInt - 1)) ∧
      (∀ number', number ≤ number' → ((lowerBound seqNo number' count).run s).1 ≤ bound) ∧
      ((lowerBound seqNo number count).run s).2 = if seqNo ≤ 0 then (count.run s).2 else s := by
  intro c bound
  have hvalue : bound.toInt = exactBound seqNo.toInt number.toInt c.toInt :=
    toInt_lowerBound seqNo number count s
  have hlow : 0 ≤ bound.toInt := hvalue ▸ exactBound_nonneg
  have hhigh : bound.toInt ≤ 2 ^ 31 - 2 := hvalue ▸ exactBound_le
  refine ⟨hvalue, ⟨hlow, hhigh, ?_⟩, fun hnumber => ?_, fun number' hnumber => ?_, ?_⟩
  · have hone : (1 : Int32).toInt = 1 := rfl
    rw [Int32.toInt_add, hone]
    exact Int.bmod_eq_of_le (by omega) (by omega)
  · exact hvalue.trans (exactBound_of_nonneg hnumber seqNo.toInt_lt c.toInt_lt)
  · rw [Int32.le_iff_toInt_le, hvalue, toInt_lowerBound]
    exact exactBound_le_of_le (Int32.le_iff_toInt_le.mp hnumber)
  · rw [run_lowerBound]
    by_cases hpos : 0 < seqNo
    · rw [if_pos hpos, if_neg (Int32.not_le.mpr hpos)]
    · rw [if_neg hpos, if_pos (Int32.not_lt.mp hpos)]

/-- The newest page of twenty or of thirty messages, with a count that tells how often it was
consulted; and the largest difference of all. -/
theorem lowerBound_clamped_sample :
    let count : StateM Nat Int32 := fun asked => (100, asked + 1)
    ((lowerBound 0 20 count).run 0).1.toInt = 79 ∧
      ((lowerBound 0 30 count).run 0).1 ≤ ((lowerBound 0 20 count).run 0).1 ∧
      ((lowerBound 0 20 count).run 0).2 = 1 ∧
      ((lowerBound Int32.maxValue Int32.minValue count).run 0).1.toInt = 2 ^ 31 - 3 ∧
      ((lowerBound Int32.maxValue Int32.minValue count).run 0).2 = 0 := by
  intro count
  obtain ⟨-, -, hexact, hlarger, hasked⟩ := lowerBound_clamped 0 20 count 0
  obtain ⟨hvalue, -, -, -, hnever⟩ := lowerBound_clamped Int32.maxValue Int32.minValue count 0
  exact ⟨hexact (by decide), hlarger 30 (by decide), hasked, hvalue, hnever⟩

end EventLog

end DaemonReply
