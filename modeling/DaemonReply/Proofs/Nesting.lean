import DaemonReply.Markup.Scanner
import Mathlib.Tactic.SplitIfs

/-!
# Nesting of markup events

The events of a sound reply are **balanced**: every opening is followed by its own closing, with
the same name, and what stands between them is balanced again. `openAfter?` reads events with a
stack of the names that are open, and decides the same thing (`balanced_iff`).

A scanner compares the full names of tags but delivers local ones, and counts the open elements
in a number of its own. `Scanner.Sound` ties the three together: the stack left by the delivered
events holds the local parts of the open full names, and the count is their number. Every
character read keeps this (`Scanner.Sound.step`), up to the fault that ends the scan.

Main statement: what a scan delivers is balanced if it succeeds, and the beginning of something
balanced if it does not (`scan_nested`).
-/

namespace DaemonReply.Markup

namespace Event

/-! ### Balanced events -/

/-- Every opening has its own closing, of the same name, and nothing else closes. -/
inductive Balanced : List Event → Prop
  | nil : Balanced []
  | text (content : String) {rest : List Event} (hrest : Balanced rest) :
      Balanced (.text content :: rest)
  | element (name : String) (attributes : List Attribute) {inner rest : List Event}
      (hinner : Balanced inner) (hrest : Balanced rest) :
      Balanced (.opened name attributes :: (inner ++ .closed name :: rest))

/-- The names open after events, the innermost first, given those open before. There is no
answer if some closing does not carry the name of the innermost open element. -/
def openAfter? (names : List String) : List Event → Option (List String)
  | [] => some names
  | .opened name _ :: rest => openAfter? (name :: names) rest
  | .text _ :: rest => openAfter? names rest
  | .closed name :: rest =>
    match names with
    | [] => none
    | innermost :: outer => if name = innermost then openAfter? outer rest else none

@[simp] theorem openAfter?_nil (names : List String) : openAfter? names [] = some names := rfl

@[simp] theorem openAfter?_opened (names : List String) (name : String)
    (attributes : List Attribute) (rest : List Event) :
    openAfter? names (.opened name attributes :: rest) = openAfter? (name :: names) rest := rfl

@[simp] theorem openAfter?_text (names : List String) (content : String) (rest : List Event) :
    openAfter? names (.text content :: rest) = openAfter? names rest := rfl

@[simp] theorem openAfter?_closed_self (outer : List String) (name : String)
    (rest : List Event) :
    openAfter? (name :: outer) (.closed name :: rest) = openAfter? outer rest := if_pos rfl

/-- A closing that is accepted names the innermost open element. -/
theorem exists_outer_of_openAfter?_closed {names left : List String} {name : String}
    {rest : List Event} (h : openAfter? names (.closed name :: rest) = some left) :
    ∃ outer, names = name :: outer ∧ openAfter? outer rest = some left := by
  rcases names with _ | ⟨innermost, outer⟩
  · simp [openAfter?] at h
  · simp only [openAfter?] at h
    split at h
    · rename_i hname
      exact ⟨outer, by rw [hname], h⟩
    · simp at h

/-- **Events may be read in pieces.** -/
theorem openAfter?_append (names : List String) (front back : List Event) :
    openAfter? names (front ++ back) =
      (openAfter? names front).bind fun left => openAfter? left back := by
  induction front generalizing names with
  | nil => rfl
  | cons event front ih =>
    cases event with
    | opened name attributes => exact ih (name :: names)
    | text content => exact ih names
    | closed name =>
      rcases names with _ | ⟨innermost, outer⟩
      · rfl
      · simp only [List.cons_append, openAfter?]
        split
        · exact ih outer
        · rfl

/-- Whatever is open after all events, some names were open after the first of them. -/
theorem exists_openAfter?_append {names left : List String} {front back : List Event}
    (h : openAfter? names (front ++ back) = some left) :
    ∃ between, openAfter? names front = some between ∧ openAfter? between back = some left :=
  Option.bind_eq_some_iff.mp (openAfter?_append names front back ▸ h)

/-- Balanced events leave open what was open. -/
theorem Balanced.openAfter? {events : List Event} (h : Balanced events) (names : List String) :
    openAfter? names events = some names := by
  induction h generalizing names with
  | nil => rfl
  | text content _ ih => exact ih names
  | element name attributes _ _ ihinner ihrest =>
    rw [openAfter?_opened, openAfter?_append, ihinner, Option.bind_some,
      openAfter?_closed_self, ihrest]

/-- Events that close the elements with the given names, the innermost first: balanced ones
before each of the closings, and after the last. -/
private def Closes : List String → List Event → Prop
  | [], events => Balanced events
  | name :: outer, events =>
    ∃ inner rest, events = inner ++ .closed name :: rest ∧ Balanced inner ∧ Closes outer rest

/-- What turns balanced events into balanced events may stand before closings. -/
private theorem Closes.of_balanced {front : List Event}
    (hfront : ∀ {rest}, Balanced rest → Balanced (front ++ rest)) {names : List String}
    {events : List Event} (h : Closes names events) : Closes names (front ++ events) := by
  cases names with
  | nil => exact hfront h
  | cons name outer =>
    obtain ⟨inner, rest, rfl, hinner, hrest⟩ := h
    exact ⟨front ++ inner, rest, by simp, hfront hinner, hrest⟩

/-- Events that leave nothing open close all that was open before. -/
private theorem closes_of_openAfter? {names : List String} {events : List Event}
    (h : openAfter? names events = some []) : Closes names events := by
  induction events generalizing names with
  | nil =>
    obtain rfl : names = [] := by simpa using h
    exact .nil
  | cons event rest ih =>
    cases event with
    | opened name attributes =>
      -- the first closing among those still due is that of this very element
      obtain ⟨inner, rest, rfl, hinner, hrest⟩ := @ih (name :: names) h
      have hfront : ∀ {back}, Balanced back →
          Balanced ((.opened name attributes :: (inner ++ [.closed name])) ++ back) := by
        intro back hback
        simpa using Balanced.element name attributes hinner hback
      simpa using hrest.of_balanced hfront
    | text content =>
      have hfront : ∀ {back}, Balanced back → Balanced ([.text content] ++ back) := .text content
      exact (@ih names h).of_balanced hfront
    | closed name =>
      obtain ⟨outer, rfl, houter⟩ := exists_outer_of_openAfter?_closed h
      exact ⟨[], rest, rfl, .nil, ih houter⟩

/-- **The stack decides what is balanced.** -/
theorem balanced_iff {events : List Event} : Balanced events ↔ openAfter? [] events = some [] :=
  ⟨fun h => h.openAfter? [], closes_of_openAfter?⟩

/-- What is open underneath stays open. -/
theorem openAfter?_append_names {names left : List String} {events : List Event}
    (outer : List String) (h : openAfter? names events = some left) :
    openAfter? (names ++ outer) events = some (left ++ outer) := by
  induction events generalizing names with
  | nil =>
    obtain rfl : names = left := by simpa using h
    rfl
  | cons event rest ih =>
    cases event with
    | opened name attributes => exact @ih (name :: names) h
    | text content => exact ih h
    | closed name =>
      obtain ⟨names', rfl, hrest⟩ := exists_outer_of_openAfter?_closed h
      rw [List.cons_append, openAfter?_closed_self]
      exact ih hrest

/-- A beginning of balanced events closes nothing but what it has opened. -/
theorem Balanced.exists_openAfter? {front events : List Event} (h : Balanced events)
    (hfront : front <+: events) : ∃ names, Event.openAfter? [] front = some names := by
  obtain ⟨back, rfl⟩ := hfront
  obtain ⟨names, hnames, -⟩ := exists_openAfter?_append (h.openAfter? [])
  exact ⟨names, hnames⟩

/-- Closing all names that are open leaves nothing open. -/
theorem openAfter?_map_closed (names : List String) :
    openAfter? names (names.map .closed) = some [] := by
  induction names with
  | nil => rfl
  | cons name outer ih => rw [List.map_cons, openAfter?_closed_self, ih]

/-- Events that leave names open become balanced once those are closed. -/
theorem balanced_append_map_closed {events : List Event} {names : List String}
    (h : openAfter? [] events = some names) : Balanced (events ++ names.map .closed) := by
  rw [balanced_iff, openAfter?_append, h, Option.bind_some, openAfter?_map_closed]

/-- What is open at the end and what has closed is what was open before and what has opened. -/
theorem countP_isOpen_add_length {names left : List String} {events : List Event}
    (h : openAfter? names events = some left) :
    events.countP isOpen + names.length = events.countP isClose + left.length := by
  induction events generalizing names with
  | nil =>
    obtain rfl : names = left := by simpa using h
    rfl
  | cons event rest ih =>
    cases event with
    | opened name attributes =>
      have hrest := @ih (name :: names) h
      simp only [List.countP_cons, isOpen, isClose, List.length_cons] at hrest ⊢
      simp only [Bool.false_eq_true, if_true, if_false]
      omega
    | text content =>
      have hrest := @ih names h
      simpa [List.countP_cons, isOpen, isClose] using hrest
    | closed name =>
      obtain ⟨outer, rfl, houter⟩ := exists_outer_of_openAfter?_closed h
      have hrest := ih houter
      simp only [List.countP_cons, isOpen, isClose, List.length_cons] at hrest ⊢
      simp only [Bool.false_eq_true, if_true, if_false]
      omega

end Event

open Event

namespace Scanner

/-! ### What a scanner has delivered -/

/-- The name under which the events report an element, given its full name. -/
def reportedName (full : String) : String :=
  String.ofList (localName full.toList)

@[simp] theorem reportedName_ofList (full : List Char) :
    reportedName (String.ofList full) = String.ofList (localName full) := by
  simp [reportedName]

/-- The events delivered are nested, their stack being the open names, and no text is empty. The
only faults are those of markup, since open elements are no fault before the end. -/
structure Nested (s : Scanner) : Prop where
  openAfter : openAfter? [] s.delivered.toList = some (s.openNames.map reportedName)
  filled : Event.text "" ∉ s.delivered.toList
  not_unclosed : ∀ depth, s.mode ≠ .failed (.unclosed depth)

/-- A nested scanner that counts its open elements right. -/
structure Sound (s : Scanner) : Prop extends s.Nested where
  counted : s.depth = s.openNames.length

/-- A nested scanner at a fault. -/
structure Stopped (s : Scanner) : Prop extends s.Nested where
  failed : ∃ error, s.mode = .failed error

/-- A scan begins sound. -/
theorem sound_initial : Sound {} where
  openAfter := rfl
  filled := by simp
  not_unclosed := by simp
  counted := rfl

variable {s : Scanner}

/-- Where a scanner stands does not matter, short of a fault. -/
theorem Sound.advance (h : s.Sound) (c : Char) {mode : Mode}
    (hmode : ∀ error, mode ≠ .failed error) : (s.advance c mode).Sound where
  openAfter := h.openAfter
  filled := h.filled
  not_unclosed _ := hmode _
  counted := h.counted

theorem Nested.fail (h : s.Nested) (cause : MarkupError) (position : Nat) :
    (s.fail cause position).Stopped where
  openAfter := h.openAfter
  filled := h.filled
  not_unclosed depth := by simp [Scanner.fail]
  failed := ⟨_, rfl⟩

/-- A fault found by a sound scanner leaves its count right. -/
theorem Sound.fail (h : s.Sound) (cause : MarkupError) (position : Nat) :
    (s.fail cause position).Sound where
  toNested := (h.toNested.fail cause position).toNested
  counted := h.counted

/-! ### Completed markup -/

theorem Sound.deliverText (h : s.Sound) (content : List Char) : (s.deliverText content).Sound := by
  rw [Scanner.deliverText]
  split
  · exact h
  · rename_i hcontent
    refine ⟨⟨?_, ?_, h.not_unclosed⟩, h.counted⟩
    · simp [Scanner.deliver, openAfter?_append, h.openAfter]
    · have hne : "" ≠ String.ofList content := by
        intro heq
        exact hcontent (by simpa using (congrArg String.toList heq).symm)
      simpa [Scanner.deliver, h.filled] using hne

theorem Sound.endText (h : s.Sound) (written : List Char) {next : Scanner → Scanner}
    (hnext : ∀ {t : Scanner}, t.Sound → (next t).Sound) : (s.endText written next).Sound := by
  rw [Scanner.endText]
  split
  · exact hnext (h.deliverText _)
  · exact h.fail _ _

/-- An element that has been counted and reported closes: the stack is what it was. -/
private theorem nested_closeElement {name : List Char} {names : List String}
    (hopen : openAfter? [] s.delivered.toList =
      some (String.ofList (localName name) :: names.map reportedName))
    (hfilled : Event.text "" ∉ s.delivered.toList)
    (hmode : ∀ depth, s.mode ≠ .failed (.unclosed depth)) :
    ({ s.closeElement name with openNames := names } : Scanner).Nested where
  openAfter := by simp [Scanner.closeElement, Scanner.deliver, openAfter?_append, hopen]
  filled := by simpa [Scanner.closeElement, Scanner.deliver] using hfilled
  not_unclosed := hmode

theorem Sound.endEndTag (h : s.Sound) (content : List Char) : (s.endEndTag content).Sound := by
  simp only [Scanner.endEndTag]
  split
  · exact h.fail _ _
  · rename_i expected outer hnames
    split
    · rename_i hname
      have hopen := h.openAfter
      rw [hnames, ← hname, List.map_cons, reportedName_ofList] at hopen
      refine ⟨nested_closeElement hopen h.filled h.not_unclosed, ?_⟩
      have hdepth : s.depth = outer.length + 1 := by rw [h.counted, hnames, List.length_cons]
      simp [Scanner.closeElement, Scanner.deliver, hdepth]
    · exact h.fail _ _

/-- A start tag counts its element before it can turn out to be faulty. -/
theorem Sound.endStartTag (h : s.Sound) (content : List Char) :
    (s.endStartTag content).Sound ∨ (s.endStartTag content).Stopped := by
  simp only [Scanner.endStartTag]
  split
  -- the element is counted but will never open: from here on the count is one too high
  · have hcounted : ({ s with depth := s.depth + 1 } : Scanner).Nested :=
      ⟨h.openAfter, h.filled, h.not_unclosed⟩
    exact .inr (hcounted.fail _ _)
  · rename_i tag _
    let opened : Scanner := { s with depth := s.depth + 1 }.deliver
      (.opened (String.ofList (localName tag.name)) tag.attributes)
    have hopen : openAfter? [] opened.delivered.toList =
        some (String.ofList (localName tag.name) :: s.openNames.map reportedName) := by
      simp [opened, Scanner.deliver, openAfter?_append, h.openAfter]
    have hfilled : Event.text "" ∉ opened.delivered.toList := by
      simpa [opened, Scanner.deliver] using h.filled
    left
    split
    · refine ⟨@nested_closeElement opened tag.name s.openNames hopen hfilled ?_, ?_⟩
      · exact h.not_unclosed
      · exact h.counted
    · refine ⟨⟨?_, hfilled, h.not_unclosed⟩, ?_⟩
      · simpa using hopen
      · simp [Scanner.deliver, h.counted]

theorem Sound.endCData (h : s.Sound) (body : List Char) : (s.endCData body).Sound := by
  rw [Scanner.endCData]
  split
  · exact h.deliverText _
  · exact h.fail _ _

theorem Sound.endDoctype (h : s.Sound) (body : List Char) : (s.endDoctype body).Sound := by
  rw [Scanner.endDoctype]
  split
  · exact h.fail _ _
  · split
    · exact h.fail _ _
    · exact h

/-! ### Reading -/

theorem Sound.stepStartTag (h : s.Sound) (written : List Char) (quote : Option Char) (c : Char) :
    (s.stepStartTag written quote c).Sound ∨ (s.stepStartTag written quote c).Stopped := by
  rw [Scanner.stepStartTag]
  split
  · exact (h.advance c (by simp)).endStartTag _
  · exact .inl (h.advance c (by simp))

/-- **One character** keeps a scanner sound, or shows a fault. -/
theorem Sound.step (h : s.Sound) (c : Char) : (s.step c).Sound ∨ (s.step c).Stopped := by
  -- only a start tag can leave the count wrong; everywhere else the scanner stays sound
  cases hmode : s.mode with
  | failed error =>
    simp only [Scanner.step, hmode]
    exact .inl h
  | text written =>
    simp only [Scanner.step, hmode]
    left
    split
    · exact h.endText _ fun ht => ht.advance c (by simp)
    · exact h.advance c (by simp)
  | tagOpening =>
    simp only [Scanner.step, hmode]
    split_ifs
    · exact .inl (h.advance c (by simp))
    · exact .inl (h.advance c (by simp))
    · exact .inl (h.advance c (by simp))
    · exact h.stepStartTag _ _ c
  | startTag written quote =>
    simp only [Scanner.step, hmode]
    exact h.stepStartTag _ _ c
  | endTag written quote =>
    simp only [Scanner.step, hmode]
    left
    split
    · exact (h.advance c (by simp)).endEndTag _
    · exact h.advance c (by simp)
  | bang =>
    simp only [Scanner.step, hmode]
    left
    split_ifs
    · exact h.advance c (by simp)
    · exact h.advance c (by simp)
    · exact h.advance c (by simp)
    · exact h.fail _ _
  | commentOpening =>
    simp only [Scanner.step, hmode]
    exact .inl (h.advance c (by simp))
  | comment wellOpened dashes =>
    simp only [Scanner.step, hmode]
    left
    split_ifs
    · exact h.advance c (by simp)
    · exact h.advance c (by simp)
    · exact (h.advance c (by simp)).fail _ _
    · exact h.advance c (by simp)
  | cdata written =>
    simp only [Scanner.step, hmode]
    left
    split
    · exact (h.advance _ (by simp)).endCData _
    · exact h.advance c (by simp)
  | doctype written nested =>
    simp only [Scanner.step, hmode]
    left
    split_ifs
    · exact h.advance c (by simp)
    · split
      · exact (h.advance c (by simp)).endDoctype _
      · exact h.advance c (by simp)
    · exact h.advance c (by simp)
  | instructionOpening =>
    simp only [Scanner.step, hmode]
    left
    split
    · exact (h.advance c (by simp)).fail _ _
    · exact h.advance c (by simp)
  | instruction questioned =>
    simp only [Scanner.step, hmode]
    left
    split
    · exact h.advance c (by simp)
    · exact h.advance c (by simp)

/-- **A whole text** keeps a scanner sound, or shows a fault. -/
theorem Sound.feed (h : s.Sound) (text : List Char) :
    (s.feed text).Sound ∨ (s.feed text).Stopped := by
  induction text generalizing s with
  | nil => exact .inl h
  | cons c rest ih =>
    rw [feed_cons]
    rcases h.step c with hstep | hstep
    · exact ih hstep
    -- nothing is read behind a fault
    · obtain ⟨error, herror⟩ := hstep.failed
      rw [feed_of_failed herror]
      exact .inr hstep

/-- The end of input keeps a scanner sound. -/
theorem Sound.close (h : s.Sound) : s.close.Sound := by
  rw [Scanner.close]
  split
  · exact h.endText _ id
  · split
    · exact h.fail _ _
    · exact h

/-- A fault stays where it is at the end of input. -/
theorem close_of_failed {error : ScanError} (h : s.mode = .failed error) : s.close = s := by
  simp [Scanner.close, h, pendingFault]

theorem Stopped.close (h : s.Stopped) : s.close.Stopped := by
  obtain ⟨error, herror⟩ := h.failed
  rwa [close_of_failed herror]

/-- The count, the openings and the closings of a sound scanner agree. -/
theorem Sound.countP_isOpen (h : s.Sound) :
    s.delivered.toList.countP isOpen = s.delivered.toList.countP isClose + s.depth := by
  simpa [h.counted] using countP_isOpen_add_length h.openAfter

/-! ### Outcomes -/

/-- A scan that ends without an error was sound to the end, with nothing left open. -/
theorem sound_of_finish_ok (h : s.close.Sound ∨ s.close.Stopped)
    (hok : s.finish.result = .ok ()) : s.close.Sound ∧ s.close.depth = 0 := by
  rcases h with hsound | hstopped
  · refine ⟨hsound, ?_⟩
    simp only [finish] at hok
    split at hok
    · simp at hok
    · split at hok
      · simp at hok
      · omega
  · obtain ⟨error, herror⟩ := hstopped.failed
    simp [finish, herror] at hok

/-- Elements are reported as left open by a scanner that was sound to the end. -/
theorem sound_of_finish_unclosed (h : s.close.Sound ∨ s.close.Stopped) {depth : Nat}
    (herror : s.finish.result = .error (.unclosed depth)) :
    s.close.Sound ∧ s.close.depth = depth ∧ 0 < depth := by
  have hnested : s.close.Nested := h.elim (·.toNested) (·.toNested)
  simp only [finish] at herror
  split at herror
  · rename_i error hmode
    obtain rfl : error = .unclosed depth := by simpa using herror
    exact absurd hmode (hnested.not_unclosed depth)
  · rename_i hmode
    split at herror
    · rename_i hpos
      obtain rfl : s.close.depth = depth := by simpa using herror
      refine ⟨h.resolve_right fun hstopped => ?_, rfl, hpos⟩
      obtain ⟨error, hfailed⟩ := hstopped.failed
      exact hmode error hfailed
    · simp at herror

end Scanner

/-- At the end of a reply the scanner is sound or at a fault. -/
theorem scan_sound_or_stopped (reply : String) :
    (Scanner.feed {} (payload reply)).close.Sound ∨
      (Scanner.feed {} (payload reply)).close.Stopped :=
  (Scanner.sound_initial.feed (payload reply)).imp (·.close) (·.close)

/-- At every moment of a scan the events delivered so far are nested. -/
theorem exists_openAfter?_of_prefix_scan {reply : String} {front : List Event}
    (h : front <+: (scan reply).events) : ∃ names, openAfter? [] front = some names := by
  obtain ⟨back, hback⟩ := h
  have hnested : (Scanner.feed {} (payload reply)).close.Nested :=
    (scan_sound_or_stopped reply).elim (·.toNested) (·.toNested)
  have hsame := congrArg (openAfter? []) hback
  obtain ⟨names, hnames, -⟩ := exists_openAfter?_append (hsame.trans hnested.openAfter)
  exact ⟨names, hnames⟩

/-- **Events are properly nested.** What a successful scan delivers is balanced; after an error,
what has been delivered is balanced once the elements still open are closed. When elements are
left open at the end, their number is that of the openings without a closing. The scanner's own
count never stops short at zero: as long as there is no fault, the closings delivered and the
count make up the openings delivered. No text is empty. -/
theorem scan_nested (reply : String) :
    ((scan reply).result = .ok () → Balanced (scan reply).events) ∧
    (∀ error, (scan reply).result = .error error →
      ∃ names, openAfter? [] (scan reply).events = some names ∧
        Balanced ((scan reply).events ++ names.map .closed)) ∧
    (∀ depth, (scan reply).result = .error (.unclosed depth) →
      0 < depth ∧
        (scan reply).events.countP isOpen = (scan reply).events.countP isClose + depth) ∧
    (∀ front, front <+: payload reply →
      (∃ error, (Scanner.feed {} front).mode = .failed error) ∨
        (Scanner.feed {} front).delivered.toList.countP isOpen =
          (Scanner.feed {} front).delivered.toList.countP isClose +
            (Scanner.feed {} front).depth) ∧
    .text "" ∉ (scan reply).events := by
  have hend := scan_sound_or_stopped reply
  have hnested : (Scanner.feed {} (payload reply)).close.Nested :=
    hend.elim (·.toNested) (·.toNested)
  refine ⟨fun hok => ?_, fun error _ => ?_, fun depth herror => ?_, fun front _ => ?_, ?_⟩
  · obtain ⟨hsound, hdepth⟩ := Scanner.sound_of_finish_ok hend hok
    have hnames : (Scanner.feed {} (payload reply)).close.openNames = [] := by
      rw [← List.length_eq_zero_iff, ← hsound.counted, hdepth]
    have hopen := hsound.openAfter
    rw [hnames] at hopen
    exact balanced_iff.mpr hopen
  · exact ⟨_, hnested.openAfter, balanced_append_map_closed hnested.openAfter⟩
  · obtain ⟨hsound, rfl, hpos⟩ := Scanner.sound_of_finish_unclosed hend herror
    exact ⟨hpos, hsound.countP_isOpen⟩
  · rcases Scanner.sound_initial.feed front with hsound | hstopped
    · exact .inr hsound.countP_isOpen
    · exact .inl hstopped.failed
  · exact hnested.filled

/-- A reply that ends inside its outermost element. -/
theorem scan_nested_unclosed :
    (scan "<x:a>1<b/>").result = .error (.unclosed 1) ∧
      (∃ names, openAfter? [] (scan "<x:a>1<b/>").events = some names ∧
        Balanced ((scan "<x:a>1<b/>").events ++ names.map .closed)) ∧
      (scan "<x:a>1<b/>").events.countP isOpen =
        (scan "<x:a>1<b/>").events.countP isClose + 1 := by
  have hresult : (scan "<x:a>1<b/>").result = .error (.unclosed 1) := rfl
  obtain ⟨_, hopen, hdepth, _⟩ := scan_nested "<x:a>1<b/>"
  exact ⟨hresult, hopen _ hresult, (hdepth 1 hresult).2⟩

end DaemonReply.Markup
