import DaemonReply.Text.CodePoints

/-!
# Quoted text

Text on the console stands between double quotes. A quote or a backslash inside is preceded by a
backslash, the commonest control characters are written as a backslash and a letter, and every
other character without a shape of its own is written by its number in hexadecimal digits. All
else stands for itself, an apostrophe too.

A character has **no shape of its own** if it would leave no mark, or would change how its
neighbours look. These are the characters of the general categories control, format, separator
(the space excepted), private use and unassigned, the combining marks, and the letters that stand
for a missing one.
-/

namespace DaemonReply.Text

/-! ### Characters without a shape of their own -/

/-- Controls, formats, separators other than the space, and private use. -/
def invisibles : CodePoints :=
    [(0x0000, 0x001F), (0x007F, 0x00A0), (0x00AD, 0x00AD), (0x0600, 0x0605), (0x061C, 0x061C),
      (0x06DD, 0x06DD), (0x070F, 0x070F), (0x0890, 0x0891), (0x08E2, 0x08E2), (0x1680, 0x1680),
      (0x180E, 0x180E), (0x2000, 0x200F), (0x2028, 0x202F), (0x205F, 0x2064), (0x2066, 0x206F),
      (0x3000, 0x3000), (0xE000, 0xF8FF), (0xFEFF, 0xFEFF), (0xFFF9, 0xFFFB), (0x110BD, 0x110BD),
      (0x110CD, 0x110CD), (0x13430, 0x1343F), (0x1BCA0, 0x1BCA3), (0x1D173, 0x1D17A),
      (0xE0001, 0xE0001), (0xE0020, 0xE007F), (0xF0000, 0xFFFFD), (0x100000, 0x10FFFD)]

/-- The letters of the Korean script that fill the place of a missing one and are not drawn. -/
def fillers : CodePoints :=
    [(0x115F, 0x1160), (0x3164, 0x3164), (0xFFA0, 0xFFA0)]

/-- Whether a character has no shape of its own. -/
def isShapeless (c : Char) : Bool :=
  invisibles.contains c || combiningMarks.contains c || fillers.contains c || unassigned.contains c

/-! ### Quoting -/

/-- The number of a character, as it is written in quoted text. -/
def escapeNumber (c : Char) : String :=
  "\\u\x7b" ++ String.ofList (Nat.toDigits 16 c.toNat) ++ "\x7d"

/-- A character as it is written in quoted text. -/
def escape (c : Char) : String :=
  if c = '"' then "\\\""
  else if c = '\\' then "\\\\"
  else if c = '\n' then "\\n"
  else if c = '\r' then "\\r"
  else if c = '\t' then "\\t"
  else if c = '\x00' then "\\0"
  else if isShapeless c then escapeNumber c
  else c.toString

/-- A text in quotes. -/
def quote (text : String) : String :=
  "\"" ++ String.join (text.toList.map escape) ++ "\""

end DaemonReply.Text
