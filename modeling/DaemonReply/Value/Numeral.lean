import DaemonReply.Value.Binary64
import DaemonReply.Value.Integer

/-!
# Numerals, seconds and counts

A numeral is the written form of a number that need not be whole: an optional sign and then, in
any letter case, `inf`, `infinity` or `nan`, or decimal digits with an optional point and an
optional exponent. At least one digit stands on one side of the point, and an exponent has at
least one digit. It is read **exactly**, as a whole number of powers of ten.

Times, durations and byte counts are written as numerals and kept as whole numbers of 64 bits.
The text may be surrounded by spaces and control characters. The numeral is rounded to binary64,
then its fraction is cut off, and what lies beyond 64 bits becomes the nearest limit; a numeral
that denotes no number is zero.
-/

namespace DaemonReply.Value

/-- What a numeral denotes. -/
inductive Numeral where
  | nan
  | infinite (negative : Bool)
  /-- The number `± digits * 10 ^ exponent`. -/
  | finite (negative : Bool) (digits : Nat) (exponent : Int)
  deriving DecidableEq, Repr

namespace Numeral

/-- Splits the digits behind a decimal point off; without a point there are none. -/
def splitFraction : List Char → List Char × List Char
  | '.' :: rest => (rest.takeWhile Char.isDigit, rest.dropWhile Char.isDigit)
  | text => ([], text)

/-- Reads what may follow the digits: nothing or an exponent. -/
def readExponent? : List Char → Option Int
  | [] => some 0
  | c :: rest => if c = 'e' ∨ c = 'E' then readInteger? rest else none

/-- Reads digits with an optional point and an optional exponent. -/
def readFinite? (negative : Bool) (text : List Char) : Option Numeral :=
  let whole := text.takeWhile Char.isDigit
  let (fraction, rest) := splitFraction (text.dropWhile Char.isDigit)
  if whole = [] ∧ fraction = [] then none
  else
    (readExponent? rest).map fun exponent =>
      finite negative (digitsValue (whole ++ fraction)) (exponent - fraction.length)

/-- Reads a numeral without its sign. -/
def readUnsigned? (negative : Bool) (text : List Char) : Option Numeral :=
  let word := text.map Char.toLower
  if word = "inf".toList ∨ word = "infinity".toList then some (infinite negative)
  else if word = "nan".toList then some nan
  else readFinite? negative text

/-- Reads a numeral. -/
def read? (text : List Char) : Option Numeral :=
  let (negative, rest) := splitSign text
  readUnsigned? negative rest

end Numeral

/-! ### Seconds and counts -/

/-- The limit of 64 bits on one side of zero. -/
def limit64 (negative : Bool) : Int64 :=
  if negative then Int64.minValue else Int64.maxValue

/-- A magnitude with a sign, cut to a whole number of 64 bits. -/
def Magnitude.truncate (negative : Bool) (magnitude : Magnitude) : Int64 :=
  match magnitude.floor? with
  | some whole => Int64.ofIntClamp (signed negative whole)
  | none => limit64 negative

/-- A numeral as a whole number of 64 bits. -/
def Numeral.truncate : Numeral → Int64
  | .nan => 0
  | .infinite negative => limit64 negative
  | .finite negative digits exponent => (Magnitude.ofDecimal digits exponent).truncate negative

/-- Reads seconds, a time or a count. -/
def readSeconds? (text : String) : Option Int64 :=
  (Numeral.read? (Text.trim Text.isSpaceOrControl text.toList)).map Numeral.truncate

end DaemonReply.Value
