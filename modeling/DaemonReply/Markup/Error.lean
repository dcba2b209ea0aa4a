/-!
# What can be wrong with markup

Every fault that ends the reading of a reply is a value that names its **cause**: a broken
reference, a broken attribute, markup that is not closed, end tags that do not pair up. The
wording of a cause is decided in one place, its `message`.
-/

namespace DaemonReply.Markup

/-- Why the digits of a character reference are no number. -/
inductive DigitsError where
  | empty
  | badDigit
  | tooLarge
  deriving DecidableEq, Repr

namespace DigitsError

/-- The wording of a digits error. -/
def message : DigitsError → String
  | empty => "cannot parse integer from empty string"
  | badDigit => "invalid digit found in string"
  | tooLarge => "number too large to fit in target type"

end DigitsError

/-- Why a character reference stands for no character. -/
inductive CharacterReferenceError where
  /-- A sign before the digits. -/
  | unexpectedSign
  /-- The digits are no number of at most 32 bits. -/
  | invalidNumber (cause : DigitsError)
  /-- The number is no Unicode scalar value. -/
  | invalidCodepoint (code : Nat)
  /-- The number is zero, and markup has no such character. -/
  | nullCharacter
  deriving DecidableEq, Repr

namespace CharacterReferenceError

/-- The wording of a character reference error. -/
def message : CharacterReferenceError → String
  | unexpectedSign => "unexpected number sign"
  | invalidNumber cause => cause.message
  | invalidCodepoint code => s!"`{code}` is not a valid codepoint"
  | nullCharacter => "0x0 character is not permitted in XML"

end CharacterReferenceError

/-- Why a reference cannot be replaced. Ranges are bytes of the piece of text it stands in. -/
inductive ReferenceError where
  /-- The name between `&` and `;` is none of the known ones; the range is that of the name. -/
  | unrecognized (name : String) (start stop : Nat)
  /-- No `;` follows; the range goes from the `&` to the end of the piece. -/
  | unterminated (start stop : Nat)
  /-- A character reference stands for no character. -/
  | character (cause : CharacterReferenceError)
  deriving DecidableEq, Repr

namespace ReferenceError

/-- The wording of a reference error. -/
def message : ReferenceError → String
  | unrecognized name start stop => s!"at {start}..{stop}: unrecognized entity `{name}`"
  | unterminated start stop =>
    s!"Error while escaping character at range {start}..{stop}: Cannot find ';' after '&'"
  | character cause => s!"invalid character reference: {cause.message}"

end ReferenceError

/-- Why the attributes of a tag cannot be read. Positions are bytes from the start of the tag's
content, just after its `<`. -/
inductive AttributeError where
  /-- No `=` follows a key; the position is that of what was found, or the content's end. -/
  | expectedEquals (position : Nat)
  /-- Nothing follows an `=`. -/
  | expectedValue (position : Nat)
  /-- What follows an `=` is no quote. -/
  | unquotedValue (position : Nat)
  /-- A value's closing quote is missing. -/
  | expectedQuote (position : Nat) (quote : Char)
  /-- A key has been used before, at `previous`. -/
  | duplicated (position previous : Nat)
  deriving DecidableEq, Repr

namespace AttributeError

/-- Where in the tag's content the fault was found. -/
def position : AttributeError → Nat
  | expectedEquals position | expectedValue position | unquotedValue position
  | expectedQuote position _ | duplicated position _ => position

/-- What was wrong there. -/
def description : AttributeError → String
  | expectedEquals _ => "attribute key must be directly followed by `=` or space"
  | expectedValue _ => "`=` must be followed by an attribute value"
  | unquotedValue _ => "attribute value must be enclosed in `\"` or `'`"
  | expectedQuote _ quote => s!"missing closing quote `{quote}` in attribute value"
  | duplicated _ previous => s!"duplicated attribute, previous declaration at position {previous}"

/-- The wording of an attribute error. -/
def message (e : AttributeError) : String :=
  s!"position {e.position}: {e.description}"

end AttributeError

/-- The cause for which markup is rejected. -/
inductive MarkupError where
  /-- `<!` begins neither a comment nor a character data section nor a doctype. -/
  | invalidBangMarkup
  | unclosedInstruction
  | unclosedComment
  | unclosedDoctype
  | unclosedCData
  | unclosedTag
  /-- A doctype without a name. -/
  | missingDoctypeName
  /-- An end tag where no element is open. -/
  | unmatchedEndTag (name : String)
  /-- An end tag that does not name the innermost open element. -/
  | mismatchedEndTag (expected found : String)
  /-- The attributes of a start tag cannot be read. -/
  | badAttribute (cause : AttributeError)
  /-- A reference in text or in an attribute value cannot be replaced. -/
  | badReference (cause : ReferenceError)
  deriving DecidableEq, Repr

namespace MarkupError

/-- The wording for a piece of markup whose closing mark was not found. -/
def notClosed (what mark : String) : String :=
  s!"syntax error: {what} not closed: `{mark}` not found before end of input"

/-- The wording of a markup error. -/
def message : MarkupError → String
  | invalidBangMarkup => "syntax error: unknown or missed symbol in markup"
  | unclosedInstruction => notClosed "processing instruction or xml declaration" "?>"
  | unclosedComment => notClosed "comment" "-->"
  | unclosedDoctype => notClosed "DOCTYPE" ">"
  | unclosedCData => notClosed "CDATA" "]]>"
  | unclosedTag => notClosed "tag" ">"
  | missingDoctypeName =>
    "ill-formed document: `<!DOCTYPE>` declaration does not contain a name of a document type"
  | unmatchedEndTag name =>
    s!"ill-formed document: close tag `</{name}>` does not match any open tag"
  | mismatchedEndTag expected found =>
    s!"ill-formed document: expected `</{expected}>`, but `</{found}>` was found"
  | badAttribute cause => s!"error while parsing attribute: {cause.message}"
  | badReference cause => cause.message

end MarkupError

/-- Why the scan of a reply fails. -/
inductive ScanError where
  /-- The markup is broken; the position counts the bytes of the payload before the fault. -/
  | malformed (cause : MarkupError) (position : Nat)
  /-- The payload ends with `depth` elements open. -/
  | unclosed (depth : Nat)
  deriving DecidableEq, Repr

namespace ScanError

/-- The wording of a scan error. -/
def message : ScanError → String
  | malformed cause position => s!"malformed markup near byte {position}: {cause.message}"
  | unclosed depth => s!"{depth} element(s) still open at end of input"

end ScanError

end DaemonReply.Markup
