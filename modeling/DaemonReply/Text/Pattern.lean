import DaemonReply.Text.Pattern.Bracket
import DaemonReply.Text.Pattern.Group

/-!
# Patterns

A pattern is a regular expression for the text of a value. This module decides which texts are
patterns; it does not match with them.

A pattern is a sequence of items, some of which stand for characters: a character for itself, `.`
for any, a class in brackets for those that it lists, an escape for what its letter says. An item
may be repeated by `*`, `+` or `?`, items may be grouped in parentheses, and `|` separates
alternatives. Flags in a group (`i`, `m`, `s`, `U`, `u`, `R`, `x`) change how the rest of the
group, or the group that they open, is read.

Classes that would need a table of characters are no part of patterns: unless the flag `u` is
turned off, there are no escapes for digits, blanks and word characters and no word boundaries,
and the flag `i` allows no characters behind it. With `u` turned off, patterns keep to ASCII where
they could split a character. Counted repetitions are no part of patterns either.

The nesting of a pattern has a limit. A group, a repetition, a class, a sequence of items, and
alternatives are each one level deeper than the deepest of their parts.
-/

namespace DaemonReply.Text

namespace Pattern

/-- The greatest depth of a pattern. -/
def depthLimit : Nat := 250

/-- What has been read of a group, or of the pattern itself. -/
structure Frame where
  flags : Flags := {}
  row : Row := {}
  /-- The depth of the item that a repetition would be for, if there is one. -/
  last : Option Nat := none
  deriving Repr

namespace Frame

/-- A further item, of a depth. -/
def addItem (frame : Frame) (depth : Nat) : Frame :=
  ⟨frame.flags, frame.row.add depth, some depth⟩

/-- A change of flags, which is an item that cannot be repeated. -/
def setFlags (frame : Frame) (flags : Flags) : Frame :=
  ⟨flags, frame.row.add 0, none⟩

/-- The repetition of the last item. -/
def repeatLast? (frame : Frame) : Option Frame :=
  frame.last.map fun depth =>
    ⟨frame.flags, { frame.row with deepest := max frame.row.deepest (depth + 1) }, some (depth + 1)⟩

/-- The end of an alternative. -/
def endAlternative (frame : Frame) : Frame :=
  ⟨frame.flags, { earlier := some (max (frame.row.earlier.getD 0) frame.row.itemsDepth) }, none⟩

end Frame

/-- Where the reading of a pattern stands. -/
structure State where
  /-- The innermost open group, or the pattern itself. -/
  inner : Frame := {}
  /-- What is around it, the innermost first. -/
  outer : List Frame := []
  /-- The names of groups so far. -/
  names : List (List Char) := []
  deriving Repr

namespace State

/-- The state after an item of a depth. -/
def afterItem (s : State) (depth : Nat) : State :=
  { s with inner := s.inner.addItem depth }

/-- The state after a character, if one may be named. -/
def afterCharacter? (s : State) : Option State :=
  if s.inner.flags.allowCharacters then some (s.afterItem 0) else none

/-- The state behind an opening parenthesis. -/
def enter? (s : State) : Opening → Option State
  | .setFlags flags => some { s with inner := s.inner.setFlags flags }
  | .group flags name =>
    if name = [] then some ⟨{ flags := flags }, s.inner :: s.outer, s.names⟩
    else if name ∈ s.names then none
    else some ⟨{ flags := flags }, s.inner :: s.outer, name :: s.names⟩

/-- The state behind a closing parenthesis. -/
def leave? (s : State) : Option State :=
  match s.outer with
  | [] => none
  | around :: outer => some ⟨around.addItem (s.inner.row.depth + 1), outer, s.names⟩

/-- Whether a pattern may end in a state. -/
def isComplete (s : State) : Bool :=
  s.outer.isEmpty && s.inner.row.depth ≤ depthLimit

end State

/-- Reads one item or sign of a pattern. -/
def step? (s : State) (text : List Char) : Option (State × List Char) :=
  let flags := s.inner.flags
  match text with
  | [] => none
  | '(' :: rest => do
    let (opening, rest) ← readOpening? flags rest
    return (← s.enter? opening, rest)
  | ')' :: rest => s.leave?.map (·, rest)
  | '|' :: rest => some ({ s with inner := s.inner.endAlternative }, rest)
  | '[' :: rest => do
    let (depth, rest) ← readBracket? flags rest
    return (s.afterItem depth, rest)
  | '\\' :: rest => do
    let (item, rest) ← readEscape? flags rest
    match item with
    | .character _ => return (← s.afterCharacter?, rest)
    | _ => return (s.afterItem 0, rest)
  | c :: rest =>
    if c = '*' ∨ c = '+' ∨ c = '?' then
      s.inner.repeatLast?.map fun inner =>
        ({ s with inner := inner }, if rest.head? = some '?' then rest.drop 1 else rest)
    else if c = '\x7b' then none
    else if c = '.' then if flags.unicode then some (s.afterItem 0, rest) else none
    else if c = '^' ∨ c = '$' then some (s.afterItem 0, rest)
    else s.afterCharacter?.map (·, rest)

/-- Whether a text can follow in a state. Every step takes a character, so the length of the text
is fuel enough. -/
def accepts : Nat → State → List Char → Bool
  | 0, _, _ => false
  | fuel + 1, s, text =>
    match skip s.inner.flags text with
    | [] => s.isComplete
    | text =>
      match step? s text with
      | some (s, rest) => accepts fuel s rest
      | none => false

end Pattern

/-- Whether a text is a pattern. -/
def isPattern (text : List Char) : Bool :=
  Pattern.accepts (text.length + 1) {} text

end DaemonReply.Text
