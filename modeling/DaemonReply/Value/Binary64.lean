/-!
# Rounding to binary64

The daemon's fractional numbers are read with the precision of the binary64 format: a magnitude
is rounded to the nearest multiple of a power of two with a significand of at most 53 bits, a tie
goes to the even significand, and no unit is finer than `2 ^ -1074`. What rounds to `2 ^ 1024`
or more is infinite.

The rounding is exact arithmetic on natural numbers. `Magnitude.nearest` rounds a quotient: it
fixes the unit from the quotient's binary logarithm and then rounds the number of units.
-/

namespace DaemonReply.Value

/-- A magnitude in the binary64 format. -/
inductive Magnitude where
  /-- The number `significand * 2 ^ exponent`. -/
  | finite (significand : Nat) (exponent : Int)
  | infinite
  deriving DecidableEq, Repr

/-! ### Powers with an integer exponent

The power `base ^ exponent` is the quotient of `powNum` and `powDen`, one of which is one. -/

/-- The numerator of a power. -/
def powNum (base : Nat) (exponent : Int) : Nat :=
  base.pow exponent.toNat

/-- The denominator of a power. -/
def powDen (base : Nat) (exponent : Int) : Nat :=
  base.pow (-exponent).toNat

/-! ### Rounding a quotient -/

/-- The natural number nearest to a quotient; of two equally near ones, the even one. -/
def divNearest (num den : Nat) : Nat :=
  let floor := num / den
  let rest := num % den
  if 2 * rest < den ∨ (2 * rest = den ∧ floor % 2 = 0) then floor else floor + 1

/-- Whether a quotient is at least a power of two. -/
def twoPowLe (exponent : Int) (num den : Nat) : Prop :=
  den * powNum 2 exponent ≤ num * powDen 2 exponent

instance (exponent : Int) (num den : Nat) : Decidable (twoPowLe exponent num den) :=
  inferInstanceAs (Decidable (_ ≤ _))

/-- The exponent of the greatest power of two that is at most a positive quotient. -/
def log2Quotient (num den : Nat) : Int :=
  let estimate : Int := num.log2 - den.log2
  if twoPowLe estimate num den then estimate else estimate - 1

namespace Magnitude

/-- The exponent of the finest unit. -/
def minExponent : Int := -1074

/-- Zero, in the finest unit. -/
def zero : Magnitude := finite 0 minExponent

/-- The exponent of the unit in which a positive quotient is rounded: 53 significant bits, unless
that is finer than the finest unit. -/
def unitExponent (num den : Nat) : Int :=
  max (log2Quotient num den - 52) minExponent

/-- The number of units in a quotient, rounded. -/
def significand (exponent : Int) (num den : Nat) : Nat :=
  divNearest (num * powDen 2 exponent) (den * powNum 2 exponent)

/-- The magnitude nearest to a quotient. -/
def nearest (num den : Nat) : Magnitude :=
  if num = 0 then zero
  else
    let exponent := unitExponent num den
    let units := significand exponent num den
    if powNum 2 1024 ≤ units * powNum 2 exponent then infinite else finite units exponent

/-- The magnitude nearest to `digits * 10 ^ exponent`. Numbers so great or so small that they
are beyond all doubt infinite or zero are not multiplied out. -/
def ofDecimal (digits : Nat) (exponent : Int) : Magnitude :=
  if digits = 0 then zero
  else if 310 ≤ exponent then infinite
  else if exponent + digits.log2 + 1 ≤ -330 then zero
  else nearest (digits * powNum 10 exponent) (powDen 10 exponent)

/-- The number of finest units in a magnitude; an infinite one has more than all others. -/
def units : Magnitude → Nat
  | finite significand exponent => significand * powNum 2 (exponent - minExponent)
  | infinite => powNum 2 (1024 - minExponent)

/-- The whole part, if the magnitude is finite. -/
def floor? : Magnitude → Option Nat
  | finite significand exponent =>
    some (significand * powNum 2 exponent / powDen 2 exponent)
  | infinite => none

end Magnitude

end DaemonReply.Value
