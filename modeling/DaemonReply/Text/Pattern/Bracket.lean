import DaemonReply.Text.Pattern.Escape

/-!
# Classes of characters in patterns

A class in brackets lists characters, ranges, classes with a name and further classes in brackets.
The signs `&&`, `--` and `~~` separate operands, which are combined from the left. An operand may
be empty, so there are classes that name no character at all, such as `[&&]`; they are allowed
under all flags.
-/

namespace DaemonReply.Text.Pattern

/-- The names of classes that may stand in brackets and colons inside a class. -/
def classNames : List String :=
  ["alnum", "alpha", "ascii", "blank", "cntrl", "digit", "graph", "lower", "print", "punct",
    "space", "upper", "word", "xdigit"]

/-- Reads a named class, from behind its opening bracket on; the flag tells whether it is
negated. -/
def readNamedClass? : List Char → Option (Bool × List Char)
  | ':' :: text =>
    let negated := text.head? = some '^'
    let text := if negated then text.drop 1 else text
    let name := text.takeWhile (· ≠ ':')
    match text.drop name.length with
    | ':' :: ']' :: rest =>
      if String.ofList name ∈ classNames then some (negated, rest) else none
    | _ => none
  | _ => none

/-- Counts the dashes at the start of a text and drops them, with what the flags say to ignore. -/
def leadingDashes (flags : Flags) (inComment : Bool) (count : Nat) :
    List Char → Nat × List Char
  | [] => (count, [])
  | c :: rest =>
    if inComment then leadingDashes flags (c ≠ '\n') count rest
    else if c = '-' then leadingDashes flags false (count + 1) rest
    else if flags.verbose ∧ c = '#' then leadingDashes flags true count rest
    else if flags.verbose ∧ isWhiteSpace c then leadingDashes flags false count rest
    else (count, c :: rest)

/-- Reads the start of a class, from behind its opening bracket on: a sign of negation, and dashes
or a closing bracket that stand for themselves. -/
def openClass? (flags : Flags) (text : List Char) : Option (Row × List Char) :=
  let text := skip flags text
  let negated := text.head? = some '^'
  if negated ∧ flags.unicode = false then none
  else
    match leadingDashes flags false 0 (if negated then skip flags (text.drop 1) else text) with
    | (0, ']' :: rest) =>
      if flags.allowCharacters then some (({} : Row).add 0, rest) else none
    | (count, rest) =>
      if count = 0 ∨ flags.allowCharacters then some (⟨count, 0, none⟩, rest) else none

/-- Reads one item of a class. -/
def readClassItem? (flags : Flags) (text : List Char) : Option (Item × List Char) :=
  let read := match text with
    | [] => none
    | '\\' :: rest => readEscape? flags rest
    | c :: rest => some (.character c, rest)
  read.filter fun (item, _) =>
    match item with
    | .character c => flags.allowCharacters && (flags.unicode || c.toNat < 0x80)
    | .characters => true
    | .place => false

/-- The character that tells what a dash before a text means. Where blanks are ignored, it is
looked for behind them and behind the sign of a comment, but not behind the comment itself. -/
def signBehind (flags : Flags) (text : List Char) : Option Char :=
  if flags.verbose then
    match text.dropWhile isWhiteSpace with
    | '#' :: comment => (comment.dropWhile isWhiteSpace).head?
    | rest => rest.head?
  else text.head?

/-- Reads one item of a class or a range between two characters. A dash before a closing bracket
or before another dash makes no range. -/
def readRange? (flags : Flags) (text : List Char) : Option (List Char) := do
  let (first, rest) ← readClassItem? flags text
  let rest := skip flags rest
  if rest.head? = some '-' then
    let sign := signBehind flags (rest.drop 1)
    if sign = some ']' ∨ sign = some '-' then some rest
    else
      let (last, rest) ← readClassItem? flags (skip flags (rest.drop 1))
      match first, last with
      | .character low, .character high => if low ≤ high then some rest else none
      | _, _ => none
  else some rest

/-- Reads a class to its end and measures it. The rows of the classes around it are the outer
ones, the innermost first. Every step takes a character, so the length of the text is fuel
enough. -/
def readClass? (flags : Flags) : Nat → Row → List Row → List Char → Option (Nat × List Char)
  | 0, _, _, _ => none
  | fuel + 1, row, outer, text =>
    match skip flags text with
    | [] => none
    | '[' :: rest =>
      match readNamedClass? rest with
      | some (negated, rest) =>
        if flags.allowCharacters && (flags.unicode || !negated) then
          readClass? flags fuel (row.add 0) outer rest
        else none
      | none => (openClass? flags rest).bind fun (inner, rest) =>
          readClass? flags fuel inner (row :: outer) rest
    | ']' :: rest =>
      match outer with
      | [] => some (row.depth + 1, rest)
      | around :: outer => readClass? flags fuel (around.add (row.depth + 1)) outer rest
    | '&' :: '&' :: rest => readClass? flags fuel { earlier := some row.depth } outer rest
    | '-' :: '-' :: rest => readClass? flags fuel { earlier := some row.depth } outer rest
    | '~' :: '~' :: rest => readClass? flags fuel { earlier := some row.depth } outer rest
    | text => (readRange? flags text).bind (readClass? flags fuel (row.add 0) outer)

/-- Reads a class, from behind its opening bracket on, and measures it. -/
def readBracket? (flags : Flags) (text : List Char) : Option (Nat × List Char) :=
  (openClass? flags text).bind fun (row, rest) =>
    readClass? flags (text.length + 1) row [] rest

end DaemonReply.Text.Pattern
