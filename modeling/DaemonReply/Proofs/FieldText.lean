import DaemonReply.Proofs.Batch
import DaemonReply.Proofs.OpenElements
import DaemonReply.Proofs.Truncation
import DaemonReply.Record.Transfer

/-!
# The text that a field is given

An assembler collects text in one place, for the latest leaf only. A field without elements inside
is given its own text (`Event.ownText`): the character data between its tags, in however many
pieces it came. A field with elements inside is given something else: **the text of the element
that opened last in it**. Its own text, on both sides of that element, is lost.

For this nothing has to be known of the record but that it is still open when the field closes. No
boundary has closed inside the field then, so the element that opened last in it is no boundary
either, and its opening began a leaf.

Main statement: `field_text_along_scan`.
-/

namespace DaemonReply

open Markup Markup.Event

/-! ### Elements in events -/

namespace Markup.Event

/-- The text in events that stands inside no element, given that `depth` elements are open
before. -/
def outermostText : Nat → List Event → String
  | _, [] => ""
  | depth, .opened _ _ :: rest => outermostText (depth + 1) rest
  | 0, .text content :: rest => content ++ outermostText 0 rest
  | depth + 1, .text _ :: rest => outermostText (depth + 1) rest
  | depth, .closed _ :: rest => outermostText (depth - 1) rest

/-- The text that belongs to an element itself and not to an element in it, given the events
between its opening and its closing. -/
def ownText (inner : List Event) : String :=
  outermostText 0 inner

theorem TextOnly.ownText {events : List Event} (h : TextOnly events) :
    Event.ownText events = gatherText events := by
  induction events with
  | nil => rfl
  | cons event rest ih =>
    obtain ⟨content, rfl⟩ := h.exists_text List.mem_cons_self
    obtain ⟨-, hrest⟩ := List.forall_mem_cons.mp h
    exact congrArg (content ++ ·) (ih hrest)

theorem TextOnly.isOpen {events : List Event} (h : TextOnly events) :
    ∀ event ∈ events, event.isOpen = false := by
  intro event hevent
  obtain ⟨content, rfl⟩ := h.exists_text hevent
  rfl

theorem Balanced.append {front back : List Event} (hfront : Balanced front)
    (hback : Balanced back) : Balanced (front ++ back) := by
  rw [balanced_iff, openAfter?_append, hfront.openAfter?, Option.bind_some, hback.openAfter?]

/-- **The innermost open element** has opened somewhere, and what it holds so far is balanced. -/
theorem exists_innermost {events : List Event} {name : String} {outer : List String}
    (h : openAfter? [] events = some (name :: outer)) :
    ∃ before attributes inner, events = before ++ .opened name attributes :: inner ∧
      Balanced inner ∧ openAfter? [] before = some outer := by
  induction hlength : events.length using Nat.strong_induction_on
    generalizing events name outer with
  | _ n ih =>
    rcases List.eq_nil_or_concat' events with rfl | ⟨front, last, rfl⟩
    · simp at h
    obtain ⟨names, hnames, hlast⟩ := exists_openAfter?_append h
    have hshorter : front.length < n := by simp [← hlength]
    cases last with
    | opened opening attributes =>
      obtain ⟨rfl, rfl⟩ : opening = name ∧ names = outer := by simpa using hlast
      exact ⟨front, attributes, [], rfl, .nil, hnames⟩
    | text content =>
      obtain rfl : names = name :: outer := by simpa using hlast
      obtain ⟨before, attributes, inner, rfl, hinner, hbefore⟩ := ih _ hshorter hnames rfl
      exact ⟨before, attributes, inner ++ [.text content], by simp,
        hinner.append (.text content .nil), hbefore⟩
    | closed closing =>
      obtain ⟨left, rfl, hleft⟩ := exists_outer_of_openAfter?_closed hlast
      obtain rfl : left = name :: outer := by simpa using hleft
      -- the element that closes here is one of those inside
      obtain ⟨between, attributes', child, rfl, hchild, hbetween⟩ := ih _ hshorter hnames rfl
      have hshorterStill : between.length < n :=
        Nat.lt_of_le_of_lt (by simp) hshorter
      obtain ⟨before, attributes, inner, rfl, hinner, hbefore⟩ := ih _ hshorterStill hbetween rfl
      exact ⟨before, attributes,
        inner ++ .opened closing attributes' :: (child ++ [.closed closing]), by simp,
        hinner.append (.element closing attributes' hchild .nil), hbefore⟩

/-- Balanced events are text, or have **an element that opens last**, with text in it and no
opening behind. -/
theorem Balanced.exists_last_element {events : List Event} (h : Balanced events) :
    TextOnly events ∨ ∃ before name attributes leaf rest,
      events = before ++ .opened name attributes :: (leaf ++ .closed name :: rest) ∧
        TextOnly leaf ∧ ∀ event ∈ rest, event.isOpen = false := by
  induction h with
  | nil => exact .inl textOnly_nil
  | text content _ ih =>
    rcases ih with htext | ⟨before, name, attributes, leaf, rest, rfl, hleaf, hrest⟩
    · left
      rintro event (_ | ⟨_, hevent⟩)
      · rfl
      · exact htext event hevent
    · exact .inr ⟨.text content :: before, name, attributes, leaf, rest, rfl, hleaf, hrest⟩
  | @element name attributes inner rest _ _ ihinner ihrest =>
    right
    rcases ihrest with hrest | ⟨before, child, attributes', leaf, after, rfl, hleaf, hafter⟩
    · rcases ihinner with hinner | ⟨before, child, attributes', leaf, after, rfl, hleaf, hafter⟩
      · exact ⟨[], name, attributes, inner, rest, rfl, hinner, hrest.isOpen⟩
      · refine ⟨.opened name attributes :: before, child, attributes', leaf,
          after ++ .closed name :: rest, by simp, hleaf, fun event hevent => ?_⟩
        rcases List.mem_append.mp hevent with hevent | hevent
        · exact hafter event hevent
        · rcases List.mem_cons.mp hevent with rfl | hevent
          · rfl
          · exact hrest.isOpen event hevent
    · exact ⟨.opened name attributes :: (inner ++ .closed name :: before), child, attributes', leaf,
        after, by simp, hleaf, hafter⟩

/-- The text that is collected for an element, given the events in it: its own text if it holds no
element, and otherwise the text of the element that opens last in it. -/
inductive CollectedText : List Event → String → Prop
  | own {inner : List Event} (hinner : TextOnly inner) : CollectedText inner (ownText inner)
  | ofLast {before leaf rest : List Event} {name : String} {attributes : List Attribute}
      (hleaf : TextOnly leaf) (hrest : ∀ event ∈ rest, event.isOpen = false) :
      CollectedText (before ++ .opened name attributes :: (leaf ++ .closed name :: rest))
        (ownText leaf)

end Markup.Event

/-! ### What is collected -/

namespace Assembler

variable {β ρ : Type} {family : RecordFamily β ρ} {a : Assembler β ρ} {name : String}
  {attributes : List Attribute} {leaf rest : List Event}

/-- Text goes to the leaf that is open. -/
theorem text_run_of_textOnly (hopen : a.leafOpen = true) (h : TextOnly leaf) :
    (a.run family leaf).text = a.text ++ gatherText leaf := by
  induction leaf generalizing a with
  | nil => simp [gatherText]
  | cons event leaf ih =>
    obtain ⟨content, rfl⟩ := h.exists_text List.mem_cons_self
    obtain ⟨-, hleaf⟩ := List.forall_mem_cons.mp h
    have hstep : (a.addText content).text = a.text ++ content := by simp [addText, hopen]
    rw [run_cons, step, ih ((addText_leafOpen a content).trans hopen) hleaf, hstep, gatherText,
      String.append_assoc]

/-- Behind a leaf no text is collected before another element opens. -/
theorem text_run_of_no_opening (hclosed : a.leafOpen = false)
    (h : ∀ event ∈ rest, event.isOpen = false) : (a.run family rest).text = a.text := by
  induction rest generalizing a with
  | nil => rfl
  | cons event rest ih =>
    obtain ⟨hevent, hrest⟩ := List.forall_mem_cons.mp h
    cases event with
    | text content =>
      have hstep : a.addText content = a := by simp [addText, hclosed]
      rw [run_cons, step, hstep, ih hclosed hrest]
    | closed name =>
      rw [run_cons, step, ih (closeElement_leafOpen family a name) hrest, closeElement_text]
    | opened name attributes => simp at hevent

/-- **A leaf's text** is what stands in it. -/
theorem text_run_leaf (a : Assembler β ρ) (hname : family.isBoundary name = false)
    (hleaf : TextOnly leaf) :
    (a.run family (.opened name attributes :: leaf)).text = gatherText leaf := by
  have hopen : (a.openElement family name).leafOpen = true := by simp [openElement_leafOpen, hname]
  rw [run_cons, step, text_run_of_textOnly hopen hleaf, openElement_text, String.empty_append]

/-- The text of a leaf stays until another element opens. -/
theorem text_run_leaf_append (a : Assembler β ρ) (hname : family.isBoundary name = false)
    (hleaf : TextOnly leaf) (hrest : ∀ event ∈ rest, event.isOpen = false) :
    (a.run family (.opened name attributes :: (leaf ++ .closed name :: rest))).text =
      gatherText leaf := by
  rw [← List.cons_append, run_append, run_cons, step,
    text_run_of_no_opening (closeElement_leafOpen family _ name) hrest, closeElement_text,
    a.text_run_leaf hname hleaf]

/-- Behind a boundary that has closed no record is open before another one opens. -/
theorem recordOpen_run_of_closed (a : Assembler β ρ) (hname : family.isBoundary name = true)
    (hrest : ∀ event ∈ rest, event.isOpen = false) :
    (a.run family (.closed name :: rest)).recordOpen = false := by
  rw [run_cons]
  refine (run_idle ?_ fun event hevent => ?_).1
  · simp [step, closeElement_recordOpen, hname]
  · have hopen := hrest event hevent
    cases event with
    | opened name attributes => simp at hopen
    | text content => rfl
    | closed name => rfl

/-- **What is collected for a field** that closes while a record is open. -/
theorem collectedText_run {inner : List Event} (a : Assembler β ρ)
    (hname : family.isBoundary name = false) (hinner : Balanced inner)
    (hopen : (a.run family (.opened name attributes :: inner)).recordOpen = true) :
    CollectedText inner (a.run family (.opened name attributes :: inner)).text := by
  rcases hinner.exists_last_element with
    htext | ⟨before, child, attributes', leaf, rest, rfl, hleaf, hrest⟩
  · rw [a.text_run_leaf hname htext, ← htext.ownText]
    exact .own htext
  · have hchild : family.isBoundary child = false := by
      by_contra hchild
      have hclosed : (a.run family (.opened name attributes :: (before ++
          .opened child attributes' :: (leaf ++ .closed child :: rest)))).recordOpen = false := by
        rw [← List.cons_append, run_append, ← List.cons_append, run_append]
        exact recordOpen_run_of_closed _ (by simpa using hchild) hrest
      exact Bool.false_ne_true (hclosed.symm.trans hopen)
    have htext : (a.run family (.opened name attributes :: (before ++
        .opened child attributes' :: (leaf ++ .closed child :: rest)))).text = ownText leaf := by
      rw [← List.cons_append, run_append, text_run_leaf_append _ hchild hleaf hrest,
        hleaf.ownText]
    rw [htext]
    exact .ofLast hleaf hrest

end Assembler

/-- **The text that a field is given.** Whenever an element that is no boundary closes in an open
record, the family is given the text collected last. The element has opened before, with balanced
events in it since, and that text is its own if it holds no element, and otherwise that of the
element that opened last in it. -/
theorem field_text_along_scan {β ρ : Type} (family : RecordFamily β ρ) (reply : String)
    {front back : List Event} {name : String}
    (hevents : (scan reply).events = front ++ .closed name :: back)
    (hopen : ((Assembler.new family).run family front).recordOpen = true)
    (hname : family.isBoundary name = false) :
    let a := (Assembler.new family).run family front
    (a.closeElement family name).draft = (family.assign a.draft name a.text).value ∧
      ∃ before attributes inner, front = before ++ .opened name attributes :: inner ∧
        Balanced inner ∧ CollectedText inner a.text := by
  intro a
  refine ⟨by simp [Assembler.closeElement, Assembler.endField, hname, a, hopen], ?_⟩
  have hclose : front ++ [.closed name] <+: (scan reply).events := ⟨back, by simp [hevents]⟩
  obtain ⟨outer, houter⟩ := exists_openAfter?_of_prefix_scan hclose
  obtain ⟨names, hnames, hclosed⟩ := exists_openAfter?_append houter
  obtain ⟨outer, rfl, -⟩ := exists_outer_of_openAfter?_closed hclosed
  obtain ⟨before, attributes, inner, rfl, hinner, -⟩ := exists_innermost hnames
  refine ⟨before, attributes, inner, rfl, hinner, ?_⟩
  simp only [a, Assembler.run_append] at hopen ⊢
  exact Assembler.collectedText_run _ hname hinner hopen

/-- A container is given the text of the last field in it, and its family ignores that. -/
theorem field_text_along_scan_container :
    let reply :=
      "<file_transfer><file_xfer><bytes_xferred>5</bytes_xferred>\n</file_xfer></file_transfer>"
    let front : List Event := [.opened "file_transfer" [], .opened "file_xfer" [],
      .opened "bytes_xferred" [], .text "5", .closed "bytes_xferred", .text "\n"]
    let a := (Assembler.new Transfer.family).run Transfer.family front
    (scan reply).events = front ++ [.closed "file_xfer", .closed "file_transfer"] ∧
      a.recordOpen = true ∧
      (a.closeElement Transfer.family "file_xfer").draft =
        (Transfer.family.assign a.draft "file_xfer" "5").value := by
  intro reply front a
  have hevents : (scan reply).events =
      front ++ [.closed "file_xfer", .closed "file_transfer"] := by decide +kernel
  have hopen : a.recordOpen = true := by decide +kernel
  have htext : a.text = "5" := by decide +kernel
  obtain ⟨hdraft, -⟩ :=
    field_text_along_scan Transfer.family reply hevents hopen (by decide +kernel)
  exact ⟨hevents, hopen, htext ▸ hdraft⟩

/-- A message whose body holds an element: what the body says itself is lost, on both sides of the
element, and the text of the element takes its place. -/
theorem field_text_ne_ownText :
    let reply := "<msg><seqno>1</seqno><body>a<b>x</b>c</body></msg>"
    let inner : List Event := [.text "a", .opened "b" [], .text "x", .closed "b", .text "c"]
    let front : List Event := [.opened "msg" [], .opened "seqno" [], .text "1", .closed "seqno",
      .opened "body" []] ++ inner
    let a := (Assembler.new Message.family).run Message.family front
    (scan reply).result = .ok () ∧
      (scan reply).events = front ++ [.closed "body", .closed "msg"] ∧ a.recordOpen = true ∧
      a.text = "x" ∧ ownText inner = "ac" ∧
      Message.tryParse reply =
        .ok [{ Message.empty with sequenceNumber := 1, body := "x" }] := by
  decide +kernel

end DaemonReply
