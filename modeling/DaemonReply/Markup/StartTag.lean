import DaemonReply.Markup.Event
import DaemonReply.Markup.Reference

/-!
# Start tags

What stands between the `<` and the `>` of a start tag is its **content**: the element's name,
which runs to the first blank, and then the attributes. A `/` at the end of the content makes
the element empty and belongs to neither.

A name may carry a prefix, as in `x:msg`; events report the **local** part, which is all that
follows the first colon. No character is refused in a name.

Attributes are read character by character, in the five phases of `AttributePhase`: a gap, a
key, what may stand between a key and its `=`, what may stand before a value, and the value.
Every fault is found at the character that shows it, or at the end of the content, so the first
fault from the left decides. No blank is needed between a value and the next key.
-/

namespace DaemonReply.Markup

open Text

/-! ### Names -/

/-- The blanks that separate names and attributes inside a tag. -/
def isBlank (c : Char) : Bool :=
  c = ' ' || c = '\t' || c = '\n' || c = '\r'

/-- The part of a name after its first colon, or the whole name if it has none. -/
def localName (name : List Char) : List Char :=
  if ':' ∈ name then (name.dropWhile (· != ':')).tail else name

/-- A name without a colon is its own local name. -/
theorem localName_eq_self {name : List Char} (h : ':' ∉ name) : localName name = name :=
  if_neg h

/-- A prefix without a colon is dropped together with the colon that ends it. -/
theorem localName_append_colon {front : List Char} (name : List Char) (h : ':' ∉ front) :
    localName (front ++ ':' :: name) = name := by
  have hpos : ∀ c ∈ front, (c != ':') = true := by
    intro c hc
    simpa using fun heq : c = ':' => h (heq ▸ hc)
  rw [localName, if_pos (by simp), List.dropWhile_append_of_pos hpos]
  simp

/-! ### Attributes -/

/-- Where the reader of attributes stands. Characters kept are the latest first. -/
inductive AttributePhase where
  /-- Before a key. -/
  | gap
  /-- Inside the key that began at byte `first`. -/
  | key (first : Nat) (written : List Char)
  /-- Behind a key, before its `=`. -/
  | afterKey (first : Nat) (written : List Char)
  /-- Behind the `=` of a key, before the opening quote. -/
  | beforeValue (key : List Char)
  /-- Inside the value of a key. -/
  | value (key : List Char) (quote : Char) (written : List Char)
  deriving DecidableEq, Repr

/-- A reader of attributes: its phase, the bytes of the content before it, the keys met so far
with the byte each began at, and the attributes read so far. -/
structure AttributeReader where
  phase : AttributePhase := .gap
  offset : Nat
  keys : List (List Char × Nat) := []
  attributes : List Attribute := []
  deriving Repr

namespace AttributeReader

/-- Moves past a character into a phase. -/
def advance (r : AttributeReader) (c : Char) (phase : AttributePhase) : AttributeReader :=
  { r with phase, offset := r.offset + c.utf8Size }

/-- Takes the `=` behind a key, which has to be a new one. -/
def takeEquals (r : AttributeReader) (first : Nat) (written : List Char) (c : Char) :
    Except MarkupError AttributeReader :=
  let key := written.reverse
  match r.keys.lookup key with
  | some previous => .error (.badAttribute (.duplicated first previous))
  | none => .ok { r.advance c (.beforeValue key) with keys := (key, first) :: r.keys }

/-- Takes the quote that closes a value. -/
def takeValue (r : AttributeReader) (key written : List Char) (c : Char) :
    Except MarkupError AttributeReader :=
  match Reference.decode written.reverse with
  | .error cause => .error (.badReference cause)
  | .ok value =>
    let read : Attribute := ⟨String.ofList (localName key), String.ofList value⟩
    .ok { r.advance c .gap with attributes := r.attributes ++ [read] }

/-- Reads one character. The first character of a key is never its `=`. -/
def step (r : AttributeReader) (c : Char) : Except MarkupError AttributeReader :=
  match r.phase with
  | .gap => .ok (r.advance c (if isBlank c then .gap else .key r.offset [c]))
  | .key first written =>
    if c = '=' then r.takeEquals first written c
    else if isBlank c then .ok (r.advance c (.afterKey first written))
    else .ok (r.advance c (.key first (c :: written)))
  | .afterKey first written =>
    if c = '=' then r.takeEquals first written c
    else if isBlank c then .ok (r.advance c (.afterKey first written))
    else .error (.badAttribute (.expectedEquals r.offset))
  | .beforeValue key =>
    if isBlank c then .ok (r.advance c (.beforeValue key))
    else if c = '"' ∨ c = '\'' then .ok (r.advance c (.value key c []))
    else .error (.badAttribute (.unquotedValue r.offset))
  | .value key quote written =>
    if c = quote then r.takeValue key written c
    else .ok (r.advance c (.value key quote (c :: written)))

/-- What has been read, if the content may end here. -/
def finish (r : AttributeReader) : Except MarkupError (List Attribute) :=
  match r.phase with
  | .gap => .ok r.attributes
  | .key .. | .afterKey .. => .error (.badAttribute (.expectedEquals r.offset))
  | .beforeValue _ => .error (.badAttribute (.expectedValue r.offset))
  | .value _ quote _ => .error (.badAttribute (.expectedQuote r.offset quote))

end AttributeReader

/-- The attributes in a text that begins at byte `offset` of a tag's content. -/
def readAttributes (offset : Nat) (text : List Char) : Except MarkupError (List Attribute) := do
  let r ← text.foldlM AttributeReader.step { offset }
  r.finish

/-! ### Whole tags -/

/-- A start tag: the element's full name, its attributes, and whether the element ends with the
tag. -/
structure StartTag where
  name : List Char
  attributes : List Attribute
  empty : Bool
  deriving Repr

/-- Splits the mark of an empty element off the end of a tag's content. -/
def splitEmptyMark (content : List Char) : List Char × Bool :=
  if content.getLast? = some '/' then (content.dropLast, true) else (content, false)

/-- Reads the content of a start tag. -/
def StartTag.read (content : List Char) : Except MarkupError StartTag := do
  let (content, empty) := splitEmptyMark content
  let name := content.takeWhile (!isBlank ·)
  let attributes ← readAttributes (utf8Length name) (content.dropWhile (!isBlank ·))
  return { name, attributes, empty }

end DaemonReply.Markup
