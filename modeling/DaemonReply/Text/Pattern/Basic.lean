import DaemonReply.Text.Trim

/-!
# Flags and nesting of patterns

A pattern is read under flags, which decide what may be named and what is ignored. While a pattern
or a class of characters is read, a `Row` counts the items that stand side by side and measures
how deeply they are nested.
-/

namespace DaemonReply.Text.Pattern

/-- The flags that matter to the form of a pattern. -/
structure Flags where
  ignoreCase : Bool := false
  unicode : Bool := true
  /-- Whether blanks are ignored and comments are allowed. -/
  verbose : Bool := false
  deriving DecidableEq, Repr

namespace Flags

/-- The flags after one of them is turned on or off. -/
def set (flags : Flags) (letter : Char) (value : Bool) : Flags :=
  if letter = 'i' then { flags with ignoreCase := value }
  else if letter = 'u' then { flags with unicode := value }
  else if letter = 'x' then { flags with verbose := value }
  else flags

/-- Whether characters may be named. -/
def allowCharacters (flags : Flags) : Bool :=
  !(flags.ignoreCase && flags.unicode)

end Flags

/-- A text without the blanks and the comments at its start; a comment begins with `#` and ends
with its line. -/
def skipComments (inComment : Bool) : List Char → List Char
  | [] => []
  | c :: rest =>
    if inComment then skipComments (c ≠ '\n') rest
    else if c = '#' then skipComments true rest
    else if isWhiteSpace c then skipComments false rest
    else c :: rest

/-- A text without what the flags say to ignore at its start. -/
def skip (flags : Flags) (text : List Char) : List Char :=
  if flags.verbose then skipComments false text else text

/-! ### Nesting -/

/-- A row of items, and what stood before the last sign that separates rows. -/
structure Row where
  /-- The number of items. -/
  count : Nat := 0
  /-- The depth of the deepest item. -/
  deepest : Nat := 0
  /-- The depth of all before the last separating sign, if there is one. -/
  earlier : Option Nat := none
  deriving DecidableEq, Repr

namespace Row

/-- The depth of the items together: a single item needs no level of its own. -/
def itemsDepth (row : Row) : Nat :=
  if row.count ≤ 1 then row.deepest else row.deepest + 1

/-- The depth of all that has been read; separated rows are one level deeper than each. -/
def depth (row : Row) : Nat :=
  match row.earlier with
  | none => row.itemsDepth
  | some earlier => max earlier row.itemsDepth + 1

/-- The row with a further item. -/
def add (row : Row) (depth : Nat) : Row :=
  { row with count := row.count + 1, deepest := max row.deepest depth }

end Row

end DaemonReply.Text.Pattern
