import DaemonReply.Value.Binary64

/-!
# The shortest decimal of a magnitude

A magnitude in the binary64 format stands for an interval of numbers, those that are rounded to
it; the two ends belong to it exactly if its significand is even. It is written with the fewest
digits that lie in the interval. Of two numbers with so many digits the one nearer to the
magnitude is taken, and of two equally near ones the greater.

The comparison with the ends is exact arithmetic on natural numbers. The coarsest decimal unit
that has a multiple in the interval is searched for; if one of its multiples lies in the interval,
so does one of the two multiples next to the magnitude. The finest magnitude is itself a multiple
of the finest decimal unit that is tried, so the search always ends with a find.
-/

namespace DaemonReply.Value

/-- The number `digits * 10 ^ exponent`. -/
structure Decimal where
  digits : Nat
  exponent : Int
  deriving DecidableEq, Repr

namespace Decimal

/-- A decimal written out with all its places and without an exponent. -/
def text (d : Decimal) : String :=
  let digits := Nat.toDigits 10 d.digits
  if 0 ≤ d.exponent then String.ofList (digits ++ List.replicate d.exponent.toNat '0')
  else
    let places := (-d.exponent).toNat
    let padded := List.replicate (places + 1 - digits.length) '0' ++ digits
    let whole := padded.length - places
    String.ofList (padded.take whole ++ '.' :: padded.drop whole)

end Decimal

/-! ### The interval of a magnitude

A magnitude is given by its significand and the exponent of its unit. The ends of its interval are
multiples of a quarter of that unit. -/

/-- The least significand of full precision, `2 ^ 52`. -/
def fullSignificand : Nat := 4503599627370496

/-- The same magnitude in the next unit, if its significand is one digit too long. -/
def normalUnits (significand : Nat) (exponent : Int) : Nat × Int :=
  if significand = 2 * fullSignificand then (fullSignificand, exponent + 1)
  else (significand, exponent)

/-- The lower end, in quarters of the unit. The magnitude below a power of two is only half as far
away as the one above. -/
def lowerEnd (significand : Nat) (exponent : Int) : Nat :=
  4 * significand -
    if significand = fullSignificand ∧ Magnitude.minExponent < exponent then 1 else 2

/-- The upper end, in quarters of the unit. -/
def upperEnd (significand : Nat) : Nat :=
  4 * significand + 2

/-- Whether a decimal lies in the interval of a magnitude. -/
def readsBack (significand : Nat) (exponent : Int) (d : Decimal) : Bool :=
  let scaled := d.digits * powNum 10 d.exponent * powDen 2 (exponent - 2)
  let quarter := powNum 2 (exponent - 2) * powDen 10 d.exponent
  let low := lowerEnd significand exponent * quarter
  let high := upperEnd significand * quarter
  if significand % 2 = 0 then low ≤ scaled && scaled ≤ high else low < scaled && scaled < high

/-- The better one of the two multiples of a decimal unit next to a magnitude, if one of them lies
in its interval. -/
def nearestMultiple? (significand : Nat) (exponent unit : Int) : Option Decimal :=
  let num := significand * powNum 2 exponent * powDen 10 unit
  let den := powDen 2 exponent * powNum 10 unit
  let below : Decimal := ⟨num / den, unit⟩
  let above : Decimal := ⟨num / den + 1, unit⟩
  match readsBack significand exponent below, readsBack significand exponent above with
  | true, true => some (if 2 * (num % den) < den then below else above)
  | true, false => some below
  | false, true => some above
  | false, false => none

namespace Magnitude

/-- The exponent of the coarsest decimal unit that is tried. -/
def coarsestUnit : Int := 309

/-- The number of decimal units that are tried, down to the finest binary unit. -/
def unitCount : Nat := 1384

/-- The shortest decimal of a positive magnitude. -/
def shortest (significand : Nat) (exponent : Int) : Decimal :=
  let (significand, exponent) := normalUnits significand exponent
  ((List.range unitCount).findSome? fun i =>
    nearestMultiple? significand exponent (coarsestUnit - (i : Nat))).getD ⟨0, 0⟩

/-- A magnitude as it is written. -/
def text : Magnitude → String
  | finite significand exponent =>
    if significand = 0 then "0" else (shortest significand exponent).text
  | infinite => "inf"

end Magnitude

end DaemonReply.Value
