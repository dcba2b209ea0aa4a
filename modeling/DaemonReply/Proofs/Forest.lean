import DaemonReply.Proofs.Nesting
import DaemonReply.Proofs.TextRuns
import DaemonReply.Proofs.WrittenTag
import Mathlib.Data.List.Induction

/-!
# Forests of markup

A `Forest` is a sequence of texts and elements, each together with the way it is written: text
is spelled out or stands in a character data section, an element without children may be written
as one tag, and blanks may stand in tags. `Forest.written` is what is written, and
`Forest.events` what it means.

A scanner in character data has two parts of a text in hand, one delivered and one not yet
decoded, and where it is cut is of no interest. `Scanner.InText` therefore speaks about all that
has been heard, in single characters; every node of a forest adds its own events to that
(`Scanner.InText.feed_forest`).

Main statement: scanning undoes writing. The scan of a written forest succeeds, and its events
are those of the forest, however text is cut (`scan_written`).
-/

namespace DaemonReply.Markup

open Event Text

/-! ### Forests -/

/-- The mark that ends a character data section. -/
def cdataEnd : List Char := [']', ']', '>']

/-- A text as it is written. -/
inductive WrittenText where
  /-- Character by character. -/
  | spelled (characters : List (Spelling isPlainInText))
  /-- As one character data section, which ends at the first mark of its end. -/
  | cdata (content : List Char) (hend : ¬ cdataEnd <:+: content)
      (hterminator : terminator ∉ content)

namespace WrittenText

/-- The text that is written. -/
def text : WrittenText → List Char
  | spelled characters => characters.map Spelling.char
  | cdata content _ _ => content

/-- How the text is written. -/
def written : WrittenText → List Char
  | spelled characters => Spelling.write characters
  | cdata content _ _ =>
    '<' :: '!' :: '[' :: (Scanner.cdataOpening ++ (content ++ cdataEnd))

end WrittenText

/-- The event at the end of an element. -/
def Tag.closing (tag : Tag) : Event :=
  .closed tag.name.reported

/-- Texts and elements as they are written. -/
inductive Forest where
  | nil
  | text (node : WrittenText) (rest : Forest)
  /-- An element without children, written as one tag. -/
  | emptyElement (tag : Tag) (rest : Forest)
  /-- An element between two tags, with perhaps some blanks before the end of the second. -/
  | element (tag : Tag) (children : Forest) (blanks : Blanks) (rest : Forest)

namespace Forest

/-- How a forest is written. -/
def written : Forest → List Char
  | nil => []
  | text node rest => node.written ++ rest.written
  | emptyElement tag rest => ('<' :: ((tag.content ++ ['/']) ++ ['>'])) ++ rest.written
  | element tag children blanks rest =>
    ('<' :: (tag.content ++ ['>'])) ++ (children.written ++
      (('<' :: '/' :: ((tag.name.written ++ blanks.chars) ++ ['>'])) ++ rest.written))

/-- What a forest means: an element opens, has its children, and closes. -/
def events : Forest → List Event
  | nil => []
  | text node rest => .text (String.ofList node.text) :: rest.events
  | emptyElement tag rest => tag.opening :: tag.closing :: rest.events
  | element tag children _ rest =>
    tag.opening :: (children.events ++ tag.closing :: rest.events)

/-- Whether a forest begins with an element. -/
def BeginsWithElement : Forest → Prop
  | emptyElement .. | element .. => True
  | nil | text .. => False

end Forest

/-! ### Reading character by character -/

namespace Scanner

variable {s : Scanner}

/-- A scanner that has moved past a text into a mode. -/
def past (s : Scanner) (text : List Char) (mode : Mode) : Scanner :=
  { s with mode, offset := s.offset + utf8Length text }

theorem past_nil {mode : Mode} (h : s.mode = mode) : s.past [] mode = s := by
  subst h
  rfl

theorem past_advance (c : Char) (text : List Char) (mode mode' : Mode) :
    (s.advance c mode).past text mode' = s.past (c :: text) mode' := by
  simp [past, Scanner.advance, Nat.add_assoc]

theorem advance_past (text : List Char) (c : Char) (mode mode' : Mode) :
    (s.past text mode).advance c mode' = s.past (text ++ [c]) mode' := by
  simp [past, Scanner.advance, Nat.add_assoc]

/-- A text whose characters only move the mode along moves it to where the whole text does. -/
theorem feed_along (mode : List Char → Mode) {text : List Char}
    (hstep : ∀ front c back, text = front ++ c :: back →
      ∀ t : Scanner, t.mode = mode front → t.step c = t.advance c (mode (front ++ [c])))
    (hs : s.mode = mode []) : s.feed text = s.past text (mode text) := by
  induction text using List.reverseRecOn with
  | nil => rw [past_nil hs, feed_nil]
  | append_singleton front c ih =>
    have hfront := ih fun front' d back hsplit =>
      hstep front' d (back ++ [c]) (by simp [hsplit])
    rw [feed_append, hfront, feed_cons, feed_nil, hstep front c [] rfl _ rfl, advance_past]

/-- The content of a tag moves the mode along, as long as no `>` stands outside quotes. -/
theorem feed_tag (mode : List Char → Option Char → Mode)
    (hstep : ∀ (t : Scanner) written quote c, t.mode = mode written quote →
      ¬ (c = '>' ∧ quote = none) → t.step c = t.advance c (mode (c :: written) (nextQuote quote c)))
    {text written : List Char} {quote left : Option Char} (hs : s.mode = mode written quote)
    (hpass : passQuotes quote text = some left) :
    s.feed text = s.past text (mode (text.reverse ++ written) left) := by
  induction text generalizing s written quote with
  | nil =>
    obtain rfl : quote = left := by simpa [passQuotes] using hpass
    rw [List.reverse_nil, List.nil_append, past_nil hs, feed_nil]
  | cons c rest ih =>
    rw [passQuotes] at hpass
    split at hpass
    · simp at hpass
    · rename_i hc
      have hrest := @ih (s.advance c (mode (c :: written) (nextQuote quote c))) (c :: written)
        (nextQuote quote c) rfl hpass
      rw [feed_cons, hstep s written quote c hs hc, hrest, past_advance, List.reverse_cons,
        List.append_assoc, List.singleton_append]

end Scanner

/-! ### Where a scanner stands -/

namespace Scanner

variable {s : Scanner} {names : List String} {heard : List Event}

/-- A scanner in a mode, with names open, whose delivered events come to `heard`. -/
structure Stands (s : Scanner) (mode : Mode) (names : List String) (heard : List Event) :
    Prop where
  mode_eq : s.mode = mode
  openNames_eq : s.openNames = names
  scatter_eq : scatter s.delivered.toList = heard

/-- A scanner in character data, with names open, whose delivered events come to `heard`
together with the characters it has not delivered yet. -/
structure InText (s : Scanner) (names : List String) (heard : List Event) : Prop where
  openNames_eq : s.openNames = names
  pending : ∃ written text, s.mode = .text written ∧
    Reference.decode written.reverse = .ok text ∧
    scatter s.delivered.toList ++ letters text = heard

theorem Stands.advance {mode mode' : Mode} (h : s.Stands mode names heard) (c : Char) :
    (s.advance c mode').Stands mode' names heard :=
  ⟨rfl, h.openNames_eq, h.scatter_eq⟩

/-- A scanner that has nothing in hand. -/
theorem Stands.inText (h : s.Stands (.text []) names heard) : s.InText names heard :=
  ⟨h.openNames_eq, [], [], h.mode_eq, rfl, by simpa using h.scatter_eq⟩

theorem scatter_deliverText (s : Scanner) (content : List Char) :
    scatter (s.deliverText content).delivered.toList =
      scatter s.delivered.toList ++ letters content := by
  rw [deliverText]
  split
  · rename_i hcontent
    simp [hcontent]
  · simp [deliver]

@[simp] theorem deliverText_mode (s : Scanner) (content : List Char) :
    (s.deliverText content).mode = s.mode := by
  rw [deliverText]
  split <;> rfl

@[simp] theorem deliverText_openNames (s : Scanner) (content : List Char) :
    (s.deliverText content).openNames = s.openNames := by
  rw [deliverText]
  split <;> rfl

@[simp] theorem deliverText_depth (s : Scanner) (content : List Char) :
    (s.deliverText content).depth = s.depth := by
  rw [deliverText]
  split <;> rfl

/-- A `<` ends the text in hand. -/
theorem InText.step_lt (h : s.InText names heard) :
    (s.step '<').Stands .tagOpening names heard := by
  obtain ⟨written, text, hmode, hdecode, hheard⟩ := h.pending
  simp only [step, hmode, if_true, endText, hdecode]
  refine ⟨rfl, ?_, ?_⟩
  · simpa [Scanner.advance] using h.openNames_eq
  · rw [← hheard, ← scatter_deliverText]
    rfl

/-- Spelled characters join the text in hand. -/
theorem InText.feed_spelled (h : s.InText names heard)
    (characters : List (Spelling isPlainInText)) :
    (s.feed (Spelling.write characters)).InText names
      (heard ++ letters (characters.map Spelling.char)) := by
  obtain ⟨written, text, hmode, hdecode, hheard⟩ := h.pending
  have hlt : '<' ∉ Spelling.write characters := fun hmem =>
    absurd (Spelling.plain_of_mem_write (by simp) hmem) (by decide)
  -- text is decoded only where it ends, so it is the decoding of all of it that has to be known
  have hfeed := @feed_along s (fun front => .text (front.reverse ++ written))
    (Spelling.write characters) (fun front c back hsplit t ht => by
      have hc : c ≠ '<' := by
        rintro rfl
        exact hlt (by simp [hsplit])
      simp [step, ht, hc]) hmode
  have hall := Reference.decode_append hdecode (Spelling.decode_write (by decide) characters)
  rw [hfeed]
  refine ⟨h.openNames_eq, _, _, rfl, by simpa using hall, ?_⟩
  rw [letters_append, ← List.append_assoc, ← hheard]
  rfl

/-! ### Character data sections -/

/-- A complete character data section is heard in full. -/
theorem Stands.endCData (h : s.Stands (.text []) names heard) (content : List Char) :
    (s.endCData (cdataOpening ++ content)).InText names (heard ++ letters content) := by
  have hopening : cdataOpening.isPrefixOf (cdataOpening ++ content) = true := by simp
  rw [Scanner.endCData, if_pos hopening, List.drop_left]
  refine Stands.inText ⟨?_, ?_, ?_⟩
  · rw [deliverText_mode, h.mode_eq]
  · rw [deliverText_openNames, h.openNames_eq]
  · rw [scatter_deliverText, h.scatter_eq]

/-- Behind a `<` the characters `![` begin a character data section. -/
private theorem Stands.step_cdata (h : s.Stands .tagOpening names heard) :
    ((s.step '!').step '[').Stands (.cdata []) names heard := by
  have hbang : s.step '!' = s.advance '!' .bang := by simp [step, h.mode_eq]
  have hbracket : (s.advance '!' .bang).step '[' = (s.advance '!' .bang).advance '[' (.cdata []) :=
    rfl
  rw [hbang, hbracket]
  exact (h.advance '!').advance '['

/-- The word that opens a character data section has no part in a mark of its end. -/
private theorem cdataEnd_infix_of_append {content front back : List Char}
    (h : cdataOpening ++ content = front ++ (cdataEnd ++ back)) : cdataEnd <:+: content := by
  -- a mark that began in the opening word would put a bracket there that the word does not have
  rcases List.append_eq_append_iff.mp h with ⟨front', -, hcontent⟩ | ⟨overlap, hopening, hback⟩
  · exact ⟨front', back, by rw [hcontent, List.append_assoc]⟩
  · cases overlap with
    | nil => exact ⟨[], back, by simpa using hback⟩
    | cons c rest =>
      obtain rfl : ']' = c := (List.cons.inj hback).1
      have hmem : ']' ∈ cdataOpening := by simp [hopening]
      exact absurd hmem (by decide)

/-- Inside a character data section nothing ends it but the mark of its end. -/
private theorem feed_cdata {content : List Char} (hend : ¬ cdataEnd <:+: content)
    (hs : s.mode = .cdata []) :
    s.feed (cdataOpening ++ content) =
      s.past (cdataOpening ++ content) (.cdata (cdataOpening ++ content).reverse) := by
  refine feed_along (fun front => .cdata front.reverse) (fun front c back hsplit t ht => ?_) hs
  simp only [step, ht]
  split
  -- a `>` behind two brackets is the mark that the content does not have
  · rename_i body hfront
    have hfront' : front = body.reverse ++ [']', ']'] := by
      simpa using congrArg List.reverse hfront
    refine absurd (@cdataEnd_infix_of_append content body.reverse back ?_) hend
    simp [hsplit, hfront', cdataEnd]
  · simp

/-- The mark of its end completes a character data section. -/
private theorem feed_cdataEnd {body : List Char} (hs : s.mode = .cdata body.reverse) :
    s.feed cdataEnd = (s.past cdataEnd (.text [])).endCData body := by
  simp [cdataEnd, step, hs, Scanner.advance, past, Nat.add_assoc]

/-- **A text** is heard in full, whichever way it is written. -/
theorem InText.feed_text (h : s.InText names heard) (node : WrittenText) :
    (s.feed node.written).InText names (heard ++ letters node.text) := by
  cases node with
  | spelled characters => exact h.feed_spelled characters
  | cdata content hend hterminator =>
    have hstands := h.step_lt.step_cdata
    rw [WrittenText.written, feed_cons, feed_cons, feed_cons]
    generalize ((s.step '<').step '!').step '[' = t at hstands ⊢
    rw [← List.append_assoc, feed_append, feed_cdata hend hstands.mode_eq, feed_cdataEnd rfl]
    refine Stands.endCData ⟨rfl, ?_, ?_⟩ content
    · exact hstands.openNames_eq
    · exact hstands.scatter_eq

/-! ### Tags -/

/-- The content of a start tag is acted on at the `>` that ends it. -/
theorem Stands.feed_startTag (h : s.Stands .tagOpening names heard) {content : List Char}
    (hhead : ∀ c, content.head? = some c → c ≠ '!' ∧ c ≠ '?' ∧ c ≠ '/') (hne : content ≠ [])
    (hpass : passQuotes none content = some none) :
    ∃ t : Scanner, s.feed (content ++ ['>']) = t.endStartTag content ∧
      t.Stands (.text []) names heard := by
  obtain ⟨c, rest, rfl⟩ := List.exists_cons_of_ne_nil hne
  obtain ⟨hbang, hquestion, hslash⟩ := hhead c rfl
  have hc : c ≠ '>' := by
    rintro rfl
    simp [passQuotes] at hpass
  -- the first character decides that this is a start tag, the others only lead to its end
  have hfirst : s.step c = s.advance c (.startTag [c] (nextQuote none c)) := by
    simp [step, h.mode_eq, hbang, hquestion, hslash, stepStartTag, hc]
  have hrest : (s.advance c (.startTag [c] (nextQuote none c))).feed rest =
      (s.advance c (.startTag [c] (nextQuote none c))).past rest
        (.startTag (rest.reverse ++ [c]) none) := by
    refine feed_tag .startTag (fun t written quote d ht hd => ?_) rfl ?_
    · simp only [step, ht, stepStartTag, if_neg hd]
    · simpa [passQuotes, hc] using hpass
  refine ⟨s.past ((c :: rest) ++ ['>']) (.text []), ?_, ⟨rfl, h.openNames_eq, h.scatter_eq⟩⟩
  rw [List.cons_append, feed_cons, hfirst, feed_append, hrest, past_advance, feed_cons, feed_nil]
  simp [step, stepStartTag, past, Scanner.advance, Nat.add_assoc]

/-- The content of an end tag is acted on at the `>` that ends it. -/
theorem Stands.feed_endTag (h : s.Stands .tagOpening names heard) {content : List Char}
    (hpass : passQuotes none content = some none) :
    ∃ t : Scanner, s.feed ('/' :: (content ++ ['>'])) = t.endEndTag content ∧
      t.Stands (.text []) names heard := by
  have hfirst : s.step '/' = s.advance '/' (.endTag [] none) := by
    simp [step, h.mode_eq]
  have hrest : (s.advance '/' (.endTag [] none)).feed content =
      (s.advance '/' (.endTag [] none)).past content (.endTag (content.reverse ++ []) none) := by
    refine feed_tag .endTag (fun t written quote d ht hd => ?_) rfl hpass
    simp only [step, ht, if_neg hd]
  refine ⟨s.past ('/' :: (content ++ ['>'])) (.text []), ?_, ⟨rfl, h.openNames_eq, h.scatter_eq⟩⟩
  rw [feed_cons, hfirst, feed_append, hrest, past_advance, feed_cons, feed_nil]
  simp [step, past, Scanner.advance, Nat.add_assoc]

/-- A complete start tag opens its element. -/
theorem Stands.endStartTag (h : s.Stands (.text []) names heard) (tag : Tag) :
    (s.endStartTag tag.content).InText (String.ofList tag.name.written :: names)
      (heard ++ [tag.opening]) := by
  simp only [Scanner.endStartTag, tag.read_content]
  refine Stands.inText ⟨h.mode_eq, ?_, ?_⟩
  · simp [h.openNames_eq]
  · simp [deliver, h.scatter_eq, ElementName.localName_written, Tag.opening, ElementName.reported]

/-- The complete tag of an empty element opens and closes it. -/
theorem Stands.endStartTag_empty (h : s.Stands (.text []) names heard) (tag : Tag) :
    (s.endStartTag (tag.content ++ ['/'])).InText names
      (heard ++ [tag.opening, tag.closing]) := by
  simp only [Scanner.endStartTag, tag.read_emptyContent]
  refine Stands.inText ⟨h.mode_eq, h.openNames_eq, ?_⟩
  simp [closeElement, deliver, h.scatter_eq, ElementName.localName_written, Tag.opening,
    Tag.closing, ElementName.reported]

/-- Blanks behind a name in an end tag are no part of the name. -/
theorem endTagName_written (name : ElementName) (blanks : Blanks) :
    endTagName (name.written ++ blanks.chars) = name.written := by
  have hblanks : ∀ c ∈ blanks.chars.reverse, isBlank c = true := fun c hc =>
    blanks.isBlank_of_mem (by simpa using hc)
  have hdrop : (name.written ++ blanks.chars).reverse.dropWhile isBlank = name.written.reverse := by
    rw [List.reverse_append, List.dropWhile_append_of_pos hblanks]
    cases hname : name.written.reverse with
    | nil => rfl
    | cons c rest =>
      have hc : c ∈ name.written := by
        rw [← List.mem_reverse, hname]
        exact List.mem_cons_self
      simp [ElementName.isBlank_eq_false_of_mem hc]
  rw [endTagName, hdrop]
  split
  · rename_i hnil
    exact absurd (by simpa using hnil) name.written_ne_nil
  · exact List.reverse_reverse _

/-- A complete end tag closes the innermost element, if that has its name. -/
theorem Stands.endEndTag {name : ElementName}
    (h : s.Stands (.text []) (String.ofList name.written :: names) heard) (blanks : Blanks) :
    (s.endEndTag (name.written ++ blanks.chars)).InText names
      (heard ++ [.closed name.reported]) := by
  simp only [Scanner.endEndTag, h.openNames_eq, endTagName_written, if_true]
  refine Stands.inText ⟨h.mode_eq, rfl, ?_⟩
  simp [closeElement, deliver, h.scatter_eq, ElementName.localName_written, ElementName.reported]

/-- Nothing that stands behind a `<` for another purpose begins the content of a tag. -/
private theorem head?_content {tag : Tag} {mark : List Char} {c : Char}
    (hc : (tag.content ++ mark).head? = some c) : c ≠ '!' ∧ c ≠ '?' ∧ c ≠ '/' := by
  obtain ⟨d, rest, hname⟩ := List.exists_cons_of_ne_nil tag.name.written_ne_nil
  obtain rfl : d = c := by simpa [Tag.content, hname] using hc
  have hmem : d ∈ tag.name.written := by simp [hname]
  refine ⟨?_, ?_, ?_⟩ <;> rintro rfl <;> exact ElementName.notMem_written (by simp) hmem

private theorem content_append_ne_nil (tag : Tag) (mark : List Char) :
    tag.content ++ mark ≠ [] := by
  simp [Tag.content, tag.name.written_ne_nil]

/-- **A start tag** opens its element. -/
theorem InText.feed_startTag (h : s.InText names heard) (tag : Tag) :
    (s.feed ('<' :: (tag.content ++ ['>']))).InText (String.ofList tag.name.written :: names)
      (heard ++ [tag.opening]) := by
  obtain ⟨t, hfeed, ht⟩ := h.step_lt.feed_startTag
    (fun c hc => head?_content (by rwa [List.append_nil]))
    (by simpa using content_append_ne_nil tag []) tag.passQuotes_content
  rw [feed_cons, hfeed]
  exact ht.endStartTag tag

/-- **The tag of an empty element** opens and closes it. -/
theorem InText.feed_emptyTag (h : s.InText names heard) (tag : Tag) :
    (s.feed ('<' :: ((tag.content ++ ['/']) ++ ['>']))).InText names
      (heard ++ [tag.opening, tag.closing]) := by
  have hpass : passQuotes none (tag.content ++ ['/']) = some none := by
    rw [passQuotes_append, tag.passQuotes_content]
    rfl
  obtain ⟨t, hfeed, ht⟩ := h.step_lt.feed_startTag (fun c hc => head?_content hc)
    (content_append_ne_nil tag ['/']) hpass
  rw [feed_cons, hfeed]
  exact ht.endStartTag_empty tag

/-- **An end tag** closes the innermost element. -/
theorem InText.feed_endTag {name : ElementName}
    (h : s.InText (String.ofList name.written :: names) heard) (blanks : Blanks) :
    (s.feed ('<' :: '/' :: ((name.written ++ blanks.chars) ++ ['>']))).InText names
      (heard ++ [.closed name.reported]) := by
  have hpass : passQuotes none (name.written ++ blanks.chars) = some none := by
    rw [passQuotes_append, passQuotes_elementName]
    exact passQuotes_blanks blanks
  obtain ⟨t, hfeed, ht⟩ := h.step_lt.feed_endTag hpass
  rw [feed_cons, hfeed]
  exact ht.endEndTag blanks

/-! ### Whole forests -/

/-- **Scanning a forest** adds its events to those heard before, and leaves open what was open. -/
theorem InText.feed_forest (h : s.InText names heard) (forest : Forest) :
    (s.feed forest.written).InText names (heard ++ scatter forest.events) := by
  induction forest generalizing s names heard with
  | nil => simpa [Forest.written, Forest.events] using h
  | text node rest ih =>
    rw [Forest.written, feed_append, Forest.events, scatter_text, String.toList_ofList,
      ← List.append_assoc]
    exact ih (h.feed_text node)
  | emptyElement tag rest ih =>
    rw [Forest.written, feed_append]
    simpa [Forest.events, Tag.opening, Tag.closing] using ih (h.feed_emptyTag tag)
  | element tag children blanks rest ihchildren ihrest =>
    -- start tag, children and end tag, each from where the one before has left the scanner
    rw [Forest.written, feed_append, feed_append, feed_append]
    have hchildren := ihchildren (h.feed_startTag tag)
    have hrest := ihrest (hchildren.feed_endTag blanks)
    simpa [Forest.events, Tag.opening, Tag.closing] using hrest

/-- A scanner in character data with nothing open ends well, and delivers what it has in hand. -/
theorem InText.finish (h : s.InText [] heard) (hdepth : s.depth = 0) :
    s.finish.result = .ok () ∧ scatter s.finish.events = heard := by
  obtain ⟨written, text, hmode, hdecode, hheard⟩ := h.pending
  have hclose : s.close = s.deliverText text := by
    simp [close, hmode, endText, hdecode]
  refine ⟨?_, ?_⟩
  · simp [Scanner.finish, hclose, hmode, hdepth]
  · simp only [Scanner.finish, hclose]
    rw [scatter_deliverText, hheard]

/-- A scan that has come to character data with nothing open counts no open elements. -/
theorem InText.depth_eq_zero {text : List Char} (h : (feed {} text).InText [] heard) :
    (feed {} text).depth = 0 := by
  obtain ⟨written, content, hmode, -, -⟩ := h.pending
  -- a sound scanner counts the open ones
  rcases sound_initial.feed text with hsound | hstopped
  · rw [hsound.counted, h.openNames_eq, List.length_nil]
  · obtain ⟨error, hfailed⟩ := hstopped.failed
    simp [hmode] at hfailed

end Scanner

/-! ### Replies -/

/-- A reply that reads as a written forest is scanned as the forest. -/
theorem scan_of_payload_eq_written {reply : String} {forest : Forest}
    (h : payload reply = forest.written) :
    (scan reply).result = .ok () ∧ scatter (scan reply).events = scatter forest.events := by
  have hinitial : Scanner.InText {} [] [] := ⟨rfl, [], [], rfl, rfl, rfl⟩
  have htext := hinitial.feed_forest forest
  rw [scan, h]
  simpa using htext.finish htext.depth_eq_zero

/-! ### No terminator is written -/

theorem Blanks.terminator_notMem (blanks : Blanks) : terminator ∉ blanks.chars := fun hmem =>
  absurd (blanks.isBlank_of_mem hmem) (by decide)

theorem ElementName.terminator_notMem (name : ElementName) : terminator ∉ name.written :=
  notMem_written (by decide)

/-- A spelling avoids the terminator wherever that may not stand as itself. -/
theorem Spelling.terminator_notMem {plain : Char → Bool} (hplain : plain terminator = false)
    (spelled : List (Spelling plain)) : terminator ∉ write spelled := fun hmem => by
  have := plain_of_mem_write (by decide) hmem
  simp [hplain] at this

theorem WrittenAttribute.terminator_notMem (a : WrittenAttribute) : terminator ∉ a.written := by
  have hname : terminator ∉ a.name.chars := ElementName.terminator_notMem { base := a.name }
  have hvalue := Spelling.terminator_notMem (by decide) a.value
  have hequals : terminator ≠ '=' := by decide
  have hquote : terminator ≠ '"' := by decide
  simp [written, Blanks.terminator_notMem, hname, hvalue, hequals, hquote]

theorem Tag.terminator_notMem (tag : Tag) : terminator ∉ tag.content := by
  simp only [content, tail, List.mem_append, List.mem_flatMap, not_or, not_exists, not_and]
  refine ⟨tag.name.terminator_notMem, ?_, tag.trail.terminator_notMem⟩
  exact fun a _ => a.terminator_notMem

theorem WrittenText.terminator_notMem (node : WrittenText) : terminator ∉ node.written := by
  cases node with
  | spelled characters => exact Spelling.terminator_notMem (by decide) characters
  | cdata content hend hterminator =>
    have hopening : terminator ∉ ['<', '!', '['] ++ Scanner.cdataOpening := by decide
    have hmark : terminator ∉ cdataEnd := by decide
    intro hmem
    have hsplit :
        terminator ∈ (['<', '!', '['] ++ Scanner.cdataOpening) ++ content ++ cdataEnd := by
      simpa [written] using hmem
    simp only [List.mem_append] at hsplit
    rcases hsplit with (hmem | hmem) | hmem
    · exact hopening (by simpa [or_assoc] using hmem)
    · exact hterminator hmem
    · exact hmark hmem

/-- A written forest is not cut short. -/
theorem Forest.terminator_notMem (forest : Forest) : terminator ∉ forest.written := by
  have hmarks : terminator ∉ ['<', '/', '>'] := by decide
  simp only [List.mem_cons, List.not_mem_nil, or_false, not_or] at hmarks
  obtain ⟨hlt, hslash, hgt⟩ := hmarks
  induction forest with
  | nil => simp [written]
  | text node rest ih => simp [written, node.terminator_notMem, ih]
  | emptyElement tag rest ih =>
    simp [written, hlt, hslash, hgt, tag.terminator_notMem, ih]
  | element tag children blanks rest ihchildren ihrest =>
    simp [written, hlt, hslash, hgt, tag.terminator_notMem, tag.name.terminator_notMem,
      blanks.terminator_notMem, ihchildren, ihrest]

/-- What does not begin with a byte-order mark is kept from its start. -/
theorem dropByteOrderMark_eq_self {text : List Char} (h : text.head? ≠ some byteOrderMark) :
    dropByteOrderMark text = text := by
  cases text with
  | nil => rfl
  | cons c rest =>
    have hc : c ≠ byteOrderMark := by simpa using h
    rw [dropByteOrderMark, if_neg hc]

/-- The payload of a written forest is the forest, whatever follows a terminator behind it. -/
theorem payload_written_append (forest : Forest)
    (hstart : forest.written.head? ≠ some byteOrderMark) (rest : List Char) :
    payload (String.ofList (forest.written ++ terminator :: rest)) = forest.written := by
  rw [payload, String.toList_ofList,
    beforeTerminator_append_terminator rest forest.terminator_notMem,
    dropByteOrderMark_eq_self hstart]

theorem payload_written (forest : Forest) (hstart : forest.written.head? ≠ some byteOrderMark) :
    payload (String.ofList forest.written) = forest.written := by
  rw [payload, String.toList_ofList, beforeTerminator_eq_self forest.terminator_notMem,
    dropByteOrderMark_eq_self hstart]

/-- A forest that begins with an element begins with a `<`. -/
theorem Forest.head?_written {forest : Forest} (h : forest.BeginsWithElement) :
    forest.written.head? ≠ some byteOrderMark := by
  have hlt : '<' ≠ byteOrderMark := by decide
  cases forest with
  | nil => exact h.elim
  | text node rest => exact h.elim
  | emptyElement tag rest => simpa [written] using hlt
  | element tag children blanks rest => simpa [written] using hlt

/-- **Scanning undoes writing.** The scan of a forest that begins with an element succeeds,
whichever way the forest is written, and delivers its events, up to the way in which runs of text
are cut and to empty texts. -/
theorem scan_written (forest : Forest) (h : forest.BeginsWithElement) :
    (scan (String.ofList forest.written)).result = .ok () ∧
      coalesce (scan (String.ofList forest.written)).events = coalesce forest.events := by
  obtain ⟨hok, hscatter⟩ :=
    scan_of_payload_eq_written (payload_written forest (forest.head?_written h))
  exact ⟨hok, coalesce_eq_of_scatter_eq hscatter⟩

/-- A forest with a prefix, an attribute, every kind of text and an empty element. -/
def sampleForest : Forest :=
  .element
    { name := { front := some { chars := ['x'] }, base := { chars := ['a'] } }
      attributes :=
        [{ gap := { chars := ['\t'] }
           gap_ne_nil := by decide
           name := { chars := ['k'] }
           value := [.raw '>' (by decide), .named .quot] }]
      distinct := by simp }
    (.text (.spelled [.raw 't' (by decide), .named .amp,
        .numbered .hexadecimal [⟨⟨4, by decide⟩, false⟩, ⟨⟨11, by decide⟩, true⟩] 'K' (by decide)
          (by decide)])
      (.text (.cdata ['<', ']', ']'] (by decide) (by decide))
        (.emptyElement { name := { base := { chars := ['b'] } } } .nil)))
    { chars := [' '] } .nil

/-- The sample forest is read back from what it writes. -/
theorem scan_written_sampleForest :
    sampleForest.BeginsWithElement ∧
      String.ofList sampleForest.written =
        "<x:a\tk=\">&quot;\">t&amp;&#x4B;<![CDATA[<]]]]><b/></x:a >" ∧
      (scan (String.ofList sampleForest.written)).result = .ok () ∧
      coalesce (scan (String.ofList sampleForest.written)).events =
        [.opened "a" [⟨"k", ">\""⟩], .text "t&K<]]", .opened "b" [], .closed "b", .closed "a"] := by
  obtain ⟨hok, hevents⟩ := scan_written sampleForest trivial
  refine ⟨trivial, by decide, hok, hevents.trans ?_⟩
  decide

end DaemonReply.Markup
