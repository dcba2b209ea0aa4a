import DaemonReply.Text.Alphanumeric
import DaemonReply.Text.Pattern.Basic

/-!
# Groups and flags in patterns

Behind an opening parenthesis may stand the name of a group, or flags: up to a colon they are for
the group alone, up to the closing parenthesis for the rest of the group around them.
-/

namespace DaemonReply.Text.Pattern

/-- What may stand behind an opening parenthesis. -/
inductive Opening where
  /-- A group, which may have a name. -/
  | group (flags : Flags) (name : List Char)
  /-- Flags for the rest of the group around them. -/
  | setFlags (flags : Flags)
  deriving DecidableEq, Repr

/-- Reads flags up to the character that ends them. -/
def readFlags? (flags : Flags) (seen : List Char) : List Char → Option (Opening × List Char)
  | [] => none
  | c :: rest =>
    if c = ':' ∨ c = ')' then
      if seen.head? = some '-' ∨ (c = ')' ∧ seen = []) then none
      else some (if c = ':' then .group flags [] else .setFlags flags, rest)
    else if c ∈ seen then none
    else if c = '-' then readFlags? flags (c :: seen) rest
    else if c ∈ ['i', 'm', 's', 'U', 'u', 'R', 'x'] then
      readFlags? (flags.set c ('-' ∉ seen)) (c :: seen) rest
    else none

/-- Whether a text can be the name of a group. -/
def isGroupName : List Char → Bool
  | [] => false
  | first :: rest => (first = '_' || isAlphabetic first) &&
      rest.all fun c => isAlphanumeric c || c ∈ ['_', '.', '[', ']']

/-- Reads the name of a group. -/
def readName? (flags : Flags) (text : List Char) : Option (Opening × List Char) :=
  let name := text.takeWhile (· ≠ '>')
  match text.drop name.length with
  | [] => none
  | _ :: rest => if isGroupName name then some (.group flags name, rest) else none

/-- Reads what follows an opening parenthesis. -/
def readOpening? (flags : Flags) (text : List Char) : Option (Opening × List Char) :=
  match skip flags text with
  | '?' :: 'P' :: '<' :: rest => readName? flags rest
  | '?' :: '<' :: rest => readName? flags rest
  | '?' :: rest => readFlags? flags [] rest
  | rest => some (.group flags [], rest)

end DaemonReply.Text.Pattern
