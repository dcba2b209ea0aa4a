import DaemonReply.Tag
import DaemonReply.Text.Trim

/-!
# Integers and flags

An integer is written as an optional sign and at least one decimal digit, and nothing else: no
blank, no point, no separator. Leading zeros are allowed in any number. `readInteger?` reads it
without a bound; `readInt32?` and `readInt64?` accept what fits into so many bits. A natural
number takes a plus sign only, and `readUInt64?` accepts what fits into 64 bits.

There are two ways to write a flag. An **explicit** flag is an integer, of which zero is false,
or one of the words `true` and `false` in any letter case. A flag by **presence** is set by the
mere existence of its element, unless its text is an explicit false.
-/

namespace DaemonReply.Value

/-- Splits an optional sign off; `true` stands for a minus. -/
def splitSign : List Char → Bool × List Char
  | '-' :: rest => (true, rest)
  | '+' :: rest => (false, rest)
  | text => (false, text)

/-- The number that a string of decimal digits writes. -/
def digitsValue (digits : List Char) : Nat :=
  digits.foldl (fun value c => 10 * value + (c.toNat - '0'.toNat)) 0

/-- A magnitude with a sign. -/
def signed (negative : Bool) (magnitude : Nat) : Int :=
  if negative then -magnitude else magnitude

/-- Reads an integer of any size. -/
def readInteger? (text : List Char) : Option Int :=
  let (negative, digits) := splitSign text
  if digits ≠ [] ∧ digits.all Char.isDigit then some (signed negative (digitsValue digits))
  else none

/-- Reads an integer of 32 bits. -/
def readInt32? (text : String) : Option Int32 :=
  match readInteger? text.toList with
  | some value =>
    if Int32.minValue.toInt ≤ value ∧ value ≤ Int32.maxValue.toInt then some (Int32.ofInt value)
    else none
  | none => none

/-- Reads an integer of 64 bits. -/
def readInt64? (text : List Char) : Option Int64 :=
  match readInteger? text with
  | some value =>
    if Int64.minValue.toInt ≤ value ∧ value ≤ Int64.maxValue.toInt then some (Int64.ofInt value)
    else none
  | none => none

/-- Reads a natural number of 64 bits. -/
def readUInt64? (text : List Char) : Option UInt64 :=
  match splitSign text with
  | (true, _) => none
  | (false, digits) =>
    if digits ≠ [] ∧ digits.all Char.isDigit ∧ digitsValue digits < UInt64.size then
      some (UInt64.ofNat (digitsValue digits))
    else none

/-! ### Digit strings -/

@[simp] theorem digitsValue_nil : digitsValue [] = 0 := rfl

/-- A further digit multiplies by ten and adds. -/
theorem digitsValue_append_singleton (digits : List Char) (c : Char) :
    digitsValue (digits ++ [c]) = 10 * digitsValue digits + (c.toNat - '0'.toNat) := by
  simp [digitsValue]

/-! ### Flags -/

/-- Reads an explicit flag. -/
def readFlag? (text : String) : Option Bool :=
  match readInt32? text with
  | some value => some (value != 0)
  | none =>
    if sameTag text "true" then some true
    else if sameTag text "false" then some false
    else none

/-- The value of a flag that is present with a text. -/
def presenceFlag (text : String) : Bool :=
  let trimmed := String.ofList (Text.trim Text.isWhiteSpace text.toList)
  trimmed.isEmpty || (readFlag? trimmed).getD true

end DaemonReply.Value
