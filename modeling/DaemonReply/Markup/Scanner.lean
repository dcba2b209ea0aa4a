import DaemonReply.Markup.Payload
import DaemonReply.Markup.StartTag

/-!
# Scanning a reply

A scanner reads the payload of a reply one character at a time and delivers events as soon as
the markup that causes them is complete. It is strict about structure: every end tag has to name
the innermost open element, nothing may be left open, and the first fault ends the scan. It is
lenient about content: no name is checked for its characters, text keeps its blanks, and
comments, processing instructions and doctypes are passed over.

`Mode` says where in the markup the scanner stands, `Scanner.step` is total on every character,
and `Scanner.feed` folds it over a text. So a scan never looks ahead and never takes an event
back: what it has delivered after a text is what it has delivered after any longer one, up to
that place (`Scanner.feed_append`). Only the text before the end of input is decided by `finish`.

Positions in errors count the bytes of the payload: a fault in text is placed where the text
ends, a bad `<!` just after its `<`, markup that is never closed at the end of input, and every
other fault after the `>` of the markup at fault.
-/

namespace DaemonReply.Markup

/-! ### The scanner's state -/

/-- Where in the markup a scanner stands. Characters kept are the latest first. -/
inductive Mode where
  /-- In character data. -/
  | text (written : List Char)
  /-- Just after a `<`. -/
  | tagOpening
  /-- In a start tag, perhaps inside quotes. -/
  | startTag (written : List Char) (quote : Option Char)
  /-- In an end tag, after its `</`, perhaps inside quotes. -/
  | endTag (written : List Char) (quote : Option Char)
  /-- Just after `<!`. -/
  | bang
  /-- Just after `<!-`. -/
  | commentOpening
  /-- In a comment, past the character after `<!-`, which was a dash if `wellOpened`; of the
  characters since, the last `dashes` ones were dashes. -/
  | comment (wellOpened : Bool) (dashes : Nat)
  /-- In a character data section, after its `<![`. -/
  | cdata (written : List Char)
  /-- In a doctype, after its `<!`, with `nested` angle brackets still open inside. -/
  | doctype (written : List Char) (nested : Nat)
  /-- Just after `<?`. -/
  | instructionOpening
  /-- In a processing instruction; the last character was a question mark if `questioned`. -/
  | instruction (questioned : Bool)
  /-- The scan has failed and reads no further. -/
  | failed (error : ScanError)
  deriving DecidableEq, Repr

/-- A scan under way: its mode, the full names of the open elements from the innermost out, the
number of elements counted as open, the bytes read so far, and the events delivered so far. -/
structure Scanner where
  mode : Mode := .text []
  openNames : List String := []
  depth : Nat := 0
  offset : Nat := 0
  delivered : Array Event := #[]
  deriving Repr

/-- The outcome of a scan: all events delivered, also those before an error. -/
structure Scan where
  events : List Event
  result : Except ScanError Unit

namespace Scanner

/-- Stops at a cause, placed at a byte of the payload. -/
def fail (s : Scanner) (cause : MarkupError) (position : Nat) : Scanner :=
  { s with mode := .failed (.malformed cause position) }

/-- Delivers an event. -/
def deliver (s : Scanner) (event : Event) : Scanner :=
  { s with delivered := s.delivered.push event }

/-- Moves past a character into a mode. -/
def advance (s : Scanner) (c : Char) (mode : Mode) : Scanner :=
  { s with mode, offset := s.offset + c.utf8Size }

/-! ### Completed markup -/

/-- Delivers character data, unless it is empty. -/
def deliverText (s : Scanner) (content : List Char) : Scanner :=
  if content = [] then s else s.deliver (.text (String.ofList content))

/-- Ends a run of character data, in which references stand for characters, and goes on
from there. -/
def endText (s : Scanner) (written : List Char) (next : Scanner → Scanner) : Scanner :=
  match Reference.decode written.reverse with
  | .ok content => next (s.deliverText content)
  | .error cause => s.fail (.badReference cause) s.offset

/-- Delivers the closing of an element, given its full name. The count of open elements stops at
zero. -/
def closeElement (s : Scanner) (name : List Char) : Scanner :=
  { s with depth := s.depth - 1 }.deliver (.closed (String.ofList (localName name)))

/-- Acts on the content of a complete start tag: the element opens, and an empty one closes at
once. It is counted before its attributes are read. -/
def endStartTag (s : Scanner) (content : List Char) : Scanner :=
  let counted := { s with depth := s.depth + 1 }
  match StartTag.read content with
  | .error cause => counted.fail cause s.offset
  | .ok tag =>
    let opened := counted.deliver (.opened (String.ofList (localName tag.name)) tag.attributes)
    if tag.empty then opened.closeElement tag.name
    else { opened with openNames := String.ofList tag.name :: s.openNames }

/-- The name in an end tag: blanks behind it are no part of it, but a name of blanks alone
stays. -/
def endTagName (content : List Char) : List Char :=
  match content.reverse.dropWhile isBlank with
  | [] => content
  | trimmed => trimmed.reverse

/-- Acts on the content of a complete end tag: it has to name the innermost open element. -/
def endEndTag (s : Scanner) (content : List Char) : Scanner :=
  let name := endTagName content
  match s.openNames with
  | [] => s.fail (.unmatchedEndTag (String.ofList name)) s.offset
  | expected :: outer =>
    if String.ofList name = expected then { s.closeElement name with openNames := outer }
    else s.fail (.mismatchedEndTag expected (String.ofList name)) s.offset

/-- The word that opens a character data section after its `<![`. -/
def cdataOpening : List Char := ['C', 'D', 'A', 'T', 'A', '[']

/-- Acts on a complete character data section, given all between its `<![` and its `]]>`. -/
def endCData (s : Scanner) (body : List Char) : Scanner :=
  if cdataOpening.isPrefixOf body then s.deliverText (body.drop cdataOpening.length)
  else s.fail .unclosedCData s.offset

/-- The word that opens a doctype after its `<!`, in lower case. -/
def doctypeOpening : List Char := ['d', 'o', 'c', 't', 'y', 'p', 'e']

/-- Acts on a complete doctype, given all between its `<!` and its `>`. -/
def endDoctype (s : Scanner) (body : List Char) : Scanner :=
  if (body.take doctypeOpening.length).map Char.toLower ≠ doctypeOpening then
    s.fail .unclosedDoctype s.offset
  else if (body.drop doctypeOpening.length).all isBlank then s.fail .missingDoctypeName s.offset
  else s

/-! ### Reading -/

/-- The quote that a character of a tag leaves open, given the one open before it. -/
def nextQuote (quote : Option Char) (c : Char) : Option Char :=
  match quote with
  | none => if c = '"' ∨ c = '\'' then some c else none
  | some q => if c = q then none else some q

/-- Reads one character of a start tag. -/
def stepStartTag (s : Scanner) (written : List Char) (quote : Option Char) (c : Char) : Scanner :=
  if c = '>' ∧ quote = none then (s.advance c (.text [])).endStartTag written.reverse
  else s.advance c (.startTag (c :: written) (nextQuote quote c))

/-- Reads one character. -/
def step (s : Scanner) (c : Char) : Scanner :=
  match s.mode with
  | .failed _ => s
  | .text written =>
    if c = '<' then s.endText written (·.advance c .tagOpening)
    else s.advance c (.text (c :: written))
  | .tagOpening =>
    if c = '!' then s.advance c .bang
    else if c = '?' then s.advance c .instructionOpening
    else if c = '/' then s.advance c (.endTag [] none)
    else s.stepStartTag [] none c
  | .startTag written quote => s.stepStartTag written quote c
  | .endTag written quote =>
    if c = '>' ∧ quote = none then (s.advance c (.text [])).endEndTag written.reverse
    else s.advance c (.endTag (c :: written) (nextQuote quote c))
  | .bang =>
    if c = '-' then s.advance c .commentOpening
    else if c = '[' then s.advance c (.cdata [])
    else if c = 'D' ∨ c = 'd' then s.advance c (.doctype [c] 0)
    else s.fail .invalidBangMarkup (s.offset - 1)
  | .commentOpening => s.advance c (.comment (c = '-') 0)
  | .comment wellOpened dashes =>
    if c = '-' then s.advance c (.comment wellOpened (dashes + 1))
    else if c = '>' ∧ 2 ≤ dashes then
      if wellOpened then s.advance c (.text [])
      else (s.advance c (.text [])).fail .unclosedComment (s.offset + c.utf8Size)
    else s.advance c (.comment wellOpened 0)
  | .cdata written =>
    match c, written with
    | '>', ']' :: ']' :: body => (s.advance c (.text [])).endCData body.reverse
    | _, _ => s.advance c (.cdata (c :: written))
  | .doctype written nested =>
    if c = '<' then s.advance c (.doctype (c :: written) (nested + 1))
    else if c = '>' then
      match nested with
      | 0 => (s.advance c (.text [])).endDoctype written.reverse
      | outer + 1 => s.advance c (.doctype (c :: written) outer)
    else s.advance c (.doctype (c :: written) nested)
  | .instructionOpening =>
    if c = '>' then (s.advance c (.text [])).fail .unclosedInstruction (s.offset + c.utf8Size)
    else s.advance c (.instruction (c = '?'))
  | .instruction questioned =>
    if c = '>' ∧ questioned then s.advance c (.text [])
    else s.advance c (.instruction (c = '?'))

/-- Reads a text. -/
def feed (s : Scanner) (text : List Char) : Scanner :=
  text.foldl step s

/-! ### The end of input -/

/-- The cause for which input may not end in a mode, and how many bytes before the end it is
placed; character data may end anywhere. -/
def pendingFault : Mode → Option (MarkupError × Nat)
  | .text _ | .failed _ => none
  | .tagOpening | .startTag .. | .endTag .. => some (.unclosedTag, 0)
  | .bang => some (.invalidBangMarkup, 1)
  | .commentOpening | .comment .. => some (.unclosedComment, 0)
  | .cdata _ => some (.unclosedCData, 0)
  | .doctype .. => some (.unclosedDoctype, 0)
  | .instructionOpening | .instruction _ => some (.unclosedInstruction, 0)

/-- Ends the input: a last run of character data is delivered, and markup under way fails. -/
def close (s : Scanner) : Scanner :=
  match s.mode with
  | .text written => s.endText written id
  | mode =>
    match pendingFault mode with
    | some (cause, back) => s.fail cause (s.offset - back)
    | none => s

/-- What a scan amounts to when the input ends here. -/
def finish (s : Scanner) : Scan :=
  let closed := s.close
  { events := closed.delivered.toList
    result :=
      match closed.mode with
      | .failed error => .error error
      | _ =>
        if 0 < closed.depth then .error (.unclosed closed.depth) else .ok () }

/-! ### Feeding in pieces -/

@[simp] theorem feed_nil (s : Scanner) : s.feed [] = s := rfl

@[simp] theorem feed_cons (s : Scanner) (c : Char) (rest : List Char) :
    s.feed (c :: rest) = (s.step c).feed rest := rfl

/-- **Feeding is piecewise.** -/
theorem feed_append (s : Scanner) (front back : List Char) :
    s.feed (front ++ back) = (s.feed front).feed back := by
  simp [feed]

/-- A failed scan reads no further. -/
theorem feed_of_failed {s : Scanner} {error : ScanError} (h : s.mode = .failed error)
    (text : List Char) : s.feed text = s := by
  induction text with
  | nil => rfl
  | cons c rest ih =>
    have hstep : s.step c = s := by simp [step, h]
    rw [feed_cons, hstep, ih]

end Scanner

/-- Scans a reply: its payload is read from no open element. -/
def scan (reply : String) : Scan :=
  (Scanner.feed {} (payload reply)).finish

end DaemonReply.Markup
