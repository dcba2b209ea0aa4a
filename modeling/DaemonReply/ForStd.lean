/-!
# Lemmas for the standard library

Facts about outcomes, lists, written integers and machine integers that have nothing to do with
replies.
-/

namespace Except

variable {ε α β : Type}

/-- A mapped outcome is a success exactly if the outcome is one. -/
theorem map_eq_ok_iff {f : α → β} {outcome : Except ε α} {b : β} :
    outcome.map f = .ok b ↔ ∃ a, outcome = .ok a ∧ f a = b := by
  cases outcome <;> simp [Except.map]

end Except

namespace List

variable {α : Type}

/-- A list has a first element of a kind, or none. -/
theorem exists_first (kind : α → Bool) (l : List α) :
    (∀ a ∈ l, kind a = false) ∨
      ∃ front a back, l = front ++ a :: back ∧ (∀ b ∈ front, kind b = false) ∧ kind a = true := by
  rcases hfind : l.find? kind with _ | a
  · exact .inl (by simpa using hfind)
  · obtain ⟨ha, front, back, hl, hfront⟩ := List.find?_eq_some_iff_append.mp hfind
    exact .inr ⟨front, a, back, hl, by simpa using hfront, ha⟩

end List

namespace Int

/-- An integer is written as its sign, if it is negative, and the digits of its magnitude. -/
theorem toList_toString (z : Int) :
    (toString z).toList =
      if z < 0 then '-' :: Nat.toDigits 10 z.natAbs else Nat.toDigits 10 z.natAbs := by
  rw [Int.toString_eq_repr, Int.repr_eq_if]
  by_cases hz : z < 0
  · have hmagnitude : (-z).toNat = z.natAbs := by omega
    rw [if_neg (by omega), if_pos hz, String.toList_append, Nat.toList_repr, hmagnitude]
    rfl
  · have hmagnitude : z.toNat = z.natAbs := by omega
    rw [if_pos (by omega), if_neg hz, Nat.toList_repr, hmagnitude]

end Int

/-- An integer beyond 32 bits becomes the nearest limit. -/
theorem Int32.toInt_ofIntClamp_eq (v : Int) :
    (Int32.ofIntClamp v).toInt = max Int32.minValue.toInt (min v Int32.maxValue.toInt) := by
  have hlimits : Int32.minValue.toInt ≤ Int32.maxValue.toInt := by decide
  rw [Int32.ofIntClamp]
  split
  · split
    · rw [Int32.toInt_ofIntLE]
      omega
    · omega
  · omega

/-- An integer beyond 64 bits becomes the nearest limit. -/
theorem Int64.toInt_ofIntClamp_eq (v : Int) :
    (Int64.ofIntClamp v).toInt = max Int64.minValue.toInt (min v Int64.maxValue.toInt) := by
  have hlimits : Int64.minValue.toInt ≤ Int64.maxValue.toInt := by decide
  rw [Int64.ofIntClamp]
  split
  · split
    · rw [Int64.toInt_ofIntLE]
      omega
    · omega
  · omega

/-- A clamp at zero is the same in 32 bits. -/
theorem Int32.toInt_max_zero (a : Int32) : (max a 0).toInt = max a.toInt 0 := by
  have hzero : (0 : Int32).toInt = 0 := rfl
  rw [show max a 0 = if a ≤ 0 then 0 else a from rfl]
  split
  · rename_i h
    rw [Int32.le_iff_toInt_le, hzero] at h
    omega
  · rename_i h
    rw [Int32.le_iff_toInt_le, hzero] at h
    omega
