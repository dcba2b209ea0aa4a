import DaemonReply.Text.Pattern
import DaemonReply.Value.Integer
import DaemonReply.Value.Numeral
import DaemonReply.Value.Shortest

/-!
# Conditions on fields

A condition asks for a field by its name and may ask for a value, too. A value is written as a
truth value, as a number, or as a pattern for its text; what can be read in more than one of these
ways is read in the first of them. A condition is shown with its value in a uniform spelling.

Conditions are ordered: those on a value are greater than those on the name alone. Both the order
of values and that of conditions are given by keys, which are compared as words are.
-/

namespace DaemonReply

open Value

/-- A text as part of a key. The sign that ends it comes before all characters, so a text comes
before its continuations. -/
def textKey (text : String) : List Int :=
  text.toList.map (fun c => (c.toNat : Int)) ++ [-1]

/-- The value that a condition asks for. -/
inductive Wanted where
  | truth (value : Bool)
  | real (negative : Bool) (magnitude : Magnitude)
  | nan
  | natural (value : UInt64)
  | integer (value : Int64)
  | pattern (text : String)
  deriving DecidableEq, Repr

namespace Wanted

/-- Reads a truth value. -/
def readTruth? (text : List Char) : Option Wanted :=
  if text = "true".toList then some (truth true)
  else if text = "false".toList then some (truth false)
  else none

/-- What a numeral asks for. -/
def ofNumeral : Numeral → Wanted
  | .nan => nan
  | .infinite negative => real negative .infinite
  | .finite negative digits exponent => real negative (Magnitude.ofDecimal digits exponent)

/-- Reads a wanted value. -/
def read? (text : List Char) : Option Wanted :=
  readTruth? text <|> (readUInt64? text).map natural <|> (readInt64? text).map integer <|>
    (Numeral.read? text).map ofNumeral <|>
    if Text.isPattern text then some (pattern (String.ofList text)) else none

/-- A wanted value as it is shown. -/
def text : Wanted → String
  | truth value => if value then "true" else "false"
  | real negative magnitude => (if negative then "-" else "") ++ magnitude.text
  | nan => "NaN"
  | natural value => toString value.toNat
  | integer value => toString value.toInt
  | pattern text => text

/-- The place of a value among others: truth values, numbers with a fraction, then those without,
and patterns. Zero has one place, whatever its sign. -/
def key : Wanted → List Int
  | truth value => [0, if value then 1 else 0]
  | real negative magnitude => [1, signed negative magnitude.units]
  | nan => [2]
  | natural value => [3, value.toNat]
  | integer value => [4, value.toInt]
  | pattern text => 5 :: textKey text

end Wanted

/-- A field that a rule asks for. -/
structure Condition where
  field : String
  wanted : Option Wanted := none
  deriving DecidableEq, Repr

namespace Condition

/-- Reads a condition: the name of a field, and behind a sign of equality its value. What a second
sign of equality is followed by does not matter. -/
def read? (text : List Char) : Option Condition :=
  let field := text.takeWhile (· ≠ '=')
  match text.drop field.length with
  | [] => if field = [] then none else some ⟨String.ofList field, none⟩
  | _ :: rest => (Wanted.read? (rest.takeWhile (· ≠ '='))).map fun wanted =>
      ⟨String.ofList field, some wanted⟩

/-- A condition as it is shown. -/
def text (c : Condition) : String :=
  match c.wanted with
  | none => c.field
  | some wanted => s!"{c.field}={wanted.text}"

/-- The place of a condition among others. -/
def key (c : Condition) : List Int :=
  match c.wanted with
  | none => 0 :: textKey c.field
  | some wanted => 1 :: (textKey c.field ++ wanted.key)

end Condition

end DaemonReply
