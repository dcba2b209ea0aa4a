import DaemonReply.Text.Pattern.Basic

/-!
# Escapes in patterns

Behind a backslash stands a character that would otherwise be a sign, the letter of a control
character, the number of a character in hexadecimal digits, or the letter of a class or a place.
-/

namespace DaemonReply.Text.Pattern

/-- What an escape, or a character that stands for itself, denotes. -/
inductive Item where
  | character (c : Char)
  | characters
  | place
  deriving DecidableEq, Repr

/-- The value of a hexadecimal digit. -/
def hexDigit? (c : Char) : Option Nat :=
  if c.isDigit then some (c.toNat - '0'.toNat)
  else if 'a' ≤ c ∧ c ≤ 'f' then some (c.toNat - 'a'.toNat + 10)
  else if 'A' ≤ c ∧ c ≤ 'F' then some (c.toNat - 'A'.toNat + 10)
  else none

/-- Reads so many hexadecimal digits, behind a value read already. -/
def readHex? (flags : Flags) : Nat → Nat → List Char → Option (Nat × List Char)
  | 0, value, text => some (value, text)
  | count + 1, value, text =>
    match skip flags text with
    | [] => none
    | c :: rest => (hexDigit? c).bind fun digit => readHex? flags count (16 * value + digit) rest

/-- Reads a character by its number. -/
def readNumber? (flags : Flags) (count : Nat) (text : List Char) : Option (Item × List Char) :=
  match readHex? flags count 0 text with
  | some (value, rest) =>
    if value.isValidChar ∧ (flags.unicode ∨ 2 < count ∨ value < 0x80) then
      some (.character (Char.ofNat value), rest)
    else none
  | none => none

/-- The control characters that have a letter of their own. -/
def controls : List (Char × Char) :=
  [('a', '\x07'), ('f', '\x0c'), ('t', '\t'), ('n', '\n'), ('r', '\r'), ('v', '\x0b')]

/-- Whether a character may always be escaped: the punctuation and the controls of ASCII, but not
angle brackets, which mark places. -/
def isEscapable (c : Char) : Bool :=
  c.toNat < 0x80 && !c.isAlphanum && c != '<' && c != '>'

/-- Reads an escape, from behind its backslash on. -/
def readEscape? (flags : Flags) : List Char → Option (Item × List Char)
  | [] => none
  | c :: rest =>
    if c = 'x' then readNumber? flags 2 rest
    else if c = 'u' then readNumber? flags 4 rest
    else if c = 'U' then readNumber? flags 8 rest
    else if isEscapable c then some (.character c, rest)
    else if c = 'A' ∨ c = 'z' then some (.place, rest)
    else if flags.unicode = false ∧ c ∈ ['d', 's', 'w'] then some (.characters, rest)
    else if flags.unicode = false ∧ c ∈ ['b', 'B', '<', '>'] then some (.place, rest)
    else (controls.lookup c).map fun control => (.character control, rest)

end DaemonReply.Text.Pattern
