import DaemonReply.Proofs.Nesting

/-!
# What one character does to a scanner

What a scanner does with a character depends on its mode alone: it moves on, completes a piece of
markup, or finds a fault. `Mode.action` says which, and `Scanner.perform` does it
(`Scanner.step_eq_perform`), so whatever holds of every kind of action holds of a step.

Two facts follow for all texts. **Nothing delivered is taken back**: a longer text only adds to
the events of a shorter one (`Scanner.delivered_prefix_feed`). And **only a `>` completes a
tag**: whatever else a character adds to the events is text (`Scanner.exists_added`).

The end of input is no character, but it fits in: a scan may end only with nothing open, in
character data that can be decoded (`Scanner.finish_result_eq_ok_iff`).
-/

namespace DaemonReply.Markup

open Event

/-! ### Actions -/

/-- What a character makes a scanner do. -/
inductive Action where
  /-- Nothing, since the scan has failed. -/
  | rest
  /-- Moves past the character into a mode. -/
  | move (mode : Mode)
  /-- Ends a run of character data; what begins is markup. -/
  | endText (written : List Char)
  /-- Completes a start tag. -/
  | endStartTag (content : List Char)
  /-- Completes an end tag. -/
  | endEndTag (content : List Char)
  /-- Completes a character data section. -/
  | endCData (body : List Char)
  /-- Completes a doctype. -/
  | endDoctype (body : List Char)
  /-- Finds a fault, which is placed just before the character read last. -/
  | refuse (cause : MarkupError)
  /-- Finds a fault, which is placed behind the character. -/
  | refuseBehind (cause : MarkupError)

/-- What a character does in a start tag. -/
def Action.inStartTag (written : List Char) (quote : Option Char) (c : Char) : Action :=
  if c = '>' ∧ quote = none then .endStartTag written.reverse
  else .move (.startTag (c :: written) (Scanner.nextQuote quote c))

/-- What a character does in a mode. -/
def Mode.action (mode : Mode) (c : Char) : Action :=
  match mode with
  | .failed _ => .rest
  | .text written => if c = '<' then .endText written else .move (.text (c :: written))
  | .tagOpening =>
    if c = '!' then .move .bang
    else if c = '?' then .move .instructionOpening
    else if c = '/' then .move (.endTag [] none)
    else .inStartTag [] none c
  | .startTag written quote => .inStartTag written quote c
  | .endTag written quote =>
    if c = '>' ∧ quote = none then .endEndTag written.reverse
    else .move (.endTag (c :: written) (Scanner.nextQuote quote c))
  | .bang =>
    if c = '-' then .move .commentOpening
    else if c = '[' then .move (.cdata [])
    else if c = 'D' ∨ c = 'd' then .move (.doctype [c] 0)
    else .refuse .invalidBangMarkup
  | .commentOpening => .move (.comment (c = '-') 0)
  | .comment wellOpened dashes =>
    if c = '-' then .move (.comment wellOpened (dashes + 1))
    else if c = '>' ∧ 2 ≤ dashes then
      if wellOpened then .move (.text []) else .refuseBehind .unclosedComment
    else .move (.comment wellOpened 0)
  | .cdata written =>
    match c, written with
    | '>', ']' :: ']' :: body => .endCData body.reverse
    | _, _ => .move (.cdata (c :: written))
  | .doctype written nested =>
    if c = '<' then .move (.doctype (c :: written) (nested + 1))
    else if c = '>' then
      match nested with
      | 0 => .endDoctype written.reverse
      | outer + 1 => .move (.doctype (c :: written) outer)
    else .move (.doctype (c :: written) nested)
  | .instructionOpening =>
    if c = '>' then .refuseBehind .unclosedInstruction else .move (.instruction (c = '?'))
  | .instruction questioned =>
    if c = '>' ∧ questioned then .move (.text []) else .move (.instruction (c = '?'))

/-- A character that does not complete the mark of its end stays in a character data section. -/
theorem Mode.action_cdata {written : List Char} {c : Char}
    (h : ∀ body, c = '>' → written = ']' :: ']' :: body → False) :
    (Mode.cdata written).action c = .move (.cdata (c :: written)) := by
  unfold Mode.action
  dsimp only
  split
  · exact (h _ rfl rfl).elim
  · rfl

namespace Scanner

/-- Does what a character asks for. -/
def perform (s : Scanner) (c : Char) : Action → Scanner
  | .rest => s
  | .move mode => s.advance c mode
  | .endText written => s.endText written (·.advance c .tagOpening)
  | .endStartTag content => (s.advance c (.text [])).endStartTag content
  | .endEndTag content => (s.advance c (.text [])).endEndTag content
  | .endCData body => (s.advance c (.text [])).endCData body
  | .endDoctype body => (s.advance c (.text [])).endDoctype body
  | .refuse cause => s.fail cause (s.offset - 1)
  | .refuseBehind cause => (s.advance c (.text [])).fail cause (s.offset + c.utf8Size)

theorem stepStartTag_eq_perform (s : Scanner) (written : List Char) (quote : Option Char)
    (c : Char) : s.stepStartTag written quote c = s.perform c (.inStartTag written quote c) := by
  rw [stepStartTag, Action.inStartTag]
  split_ifs <;> rfl

/-- **A step does what the mode and the character ask for.** -/
theorem step_eq_perform (s : Scanner) (c : Char) : s.step c = s.perform c (s.mode.action c) := by
  cases hmode : s.mode with
  | failed error => simp only [step, hmode, Mode.action, perform]
  | text written =>
    simp only [step, hmode, Mode.action]
    split_ifs <;> rfl
  | tagOpening =>
    simp only [step, hmode, Mode.action]
    split_ifs
    · rfl
    · rfl
    · rfl
    · exact s.stepStartTag_eq_perform [] none c
  | startTag written quote =>
    simp only [step, hmode, Mode.action]
    exact s.stepStartTag_eq_perform written quote c
  | endTag written quote =>
    simp only [step, hmode, Mode.action]
    split_ifs <;> rfl
  | bang =>
    simp only [step, hmode, Mode.action]
    split_ifs <;> rfl
  | commentOpening => simp only [step, hmode, Mode.action, perform]
  | comment wellOpened dashes =>
    simp only [step, hmode, Mode.action]
    split_ifs <;> rfl
  | cdata written =>
    simp only [step, hmode]
    split
    · rfl
    · rename_i hother
      rw [Mode.action_cdata hother]
      rfl
  | doctype written nested =>
    simp only [step, hmode, Mode.action]
    split_ifs
    · rfl
    · cases nested <;> rfl
    · rfl
  | instructionOpening =>
    simp only [step, hmode, Mode.action]
    split_ifs <;> rfl
  | instruction questioned =>
    simp only [step, hmode, Mode.action]
    split_ifs <;> rfl

end Scanner

namespace Action

/-- Whether an action completes a tag. -/
def completesTag : Action → Bool
  | endStartTag _ | endEndTag _ => true
  | _ => false

theorem completesTag_inStartTag (written : List Char) (quote : Option Char) {c : Char}
    (hc : c ≠ '>') : (inStartTag written quote c).completesTag = false := by
  have hgoes : inStartTag written quote c =
      move (.startTag (c :: written) (Scanner.nextQuote quote c)) := if_neg fun h => hc h.1
  rw [hgoes]
  rfl

end Action

/-- **Only a `>` completes a tag.** -/
theorem Mode.completesTag_action (mode : Mode) {c : Char} (hc : c ≠ '>') :
    (mode.action c).completesTag = false := by
  cases mode with
  | text written =>
    simp only [Mode.action]
    split_ifs <;> rfl
  | tagOpening =>
    simp only [Mode.action]
    split_ifs
    · rfl
    · rfl
    · rfl
    · exact Action.completesTag_inStartTag [] none hc
  | startTag written quote => exact Action.completesTag_inStartTag written quote hc
  | endTag written quote =>
    simp only [Mode.action, hc, false_and, if_false]
    rfl
  | bang =>
    simp only [Mode.action]
    split_ifs <;> rfl
  | commentOpening => rfl
  | comment wellOpened dashes =>
    simp only [Mode.action]
    split_ifs <;> rfl
  | cdata written =>
    simp only [Mode.action]
    split <;> rfl
  | doctype written nested =>
    simp only [Mode.action, hc, if_false]
    split_ifs <;> rfl
  | instructionOpening =>
    simp only [Mode.action]
    split_ifs <;> rfl
  | instruction questioned =>
    simp only [Mode.action]
    split_ifs <;> rfl
  | failed error => rfl

/-! ### What is delivered -/

/-- Events among which no element opens or closes. -/
def Event.TextOnly (events : List Event) : Prop :=
  ∀ event ∈ events, event.name? = none

namespace Event

theorem textOnly_nil : TextOnly [] := fun _ h => absurd h List.not_mem_nil

theorem TextOnly.exists_text {events : List Event} (h : TextOnly events) {event : Event}
    (hevent : event ∈ events) : ∃ content, event = .text content := by
  have hname := h event hevent
  cases event with
  | text content => exact ⟨content, rfl⟩
  | opened name attributes => simp at hname
  | closed name => simp at hname

/-- A kind of events that has no text has none of these. -/
theorem TextOnly.countP_eq_zero {events : List Event} (h : TextOnly events) {kind : Event → Bool}
    (hkind : ∀ content, kind (.text content) = false) : events.countP kind = 0 := by
  rw [List.countP_eq_zero]
  intro event hevent
  obtain ⟨content, rfl⟩ := h.exists_text hevent
  simp [hkind]

theorem textOnly_singleton (content : String) : TextOnly [.text content] := by
  intro event hevent
  rw [List.mem_singleton.mp hevent]
  rfl

end Event

namespace Scanner

variable {s : Scanner}

/-- Character data adds at most a text. -/
theorem exists_added_deliverText (s : Scanner) (content : List Char) :
    ∃ added, (s.deliverText content).delivered.toList = s.delivered.toList ++ added ∧
      TextOnly added := by
  rw [deliverText]
  split
  · exact ⟨[], (List.append_nil _).symm, textOnly_nil⟩
  · exact ⟨[.text (String.ofList content)], by simp [deliver], textOnly_singleton _⟩

/-- The end of a run of character data adds at most a text, if what comes next adds nothing. -/
theorem exists_added_endText (s : Scanner) (written : List Char) {next : Scanner → Scanner}
    (hnext : ∀ t : Scanner, (next t).delivered = t.delivered) :
    ∃ added, (s.endText written next).delivered.toList = s.delivered.toList ++ added ∧
      TextOnly added := by
  rw [endText]
  split
  · rename_i content _
    obtain ⟨added, hadded, htext⟩ := s.exists_added_deliverText content
    exact ⟨added, by rw [hnext, hadded], htext⟩
  · exact ⟨[], (List.append_nil _).symm, textOnly_nil⟩

theorem exists_added_endStartTag (s : Scanner) (content : List Char) :
    ∃ added, (s.endStartTag content).delivered.toList = s.delivered.toList ++ added := by
  simp only [endStartTag]
  split
  · exact ⟨[], (List.append_nil _).symm⟩
  · rename_i tag _
    let opened : Event := .opened (String.ofList (localName tag.name)) tag.attributes
    let closed : Event := .closed (String.ofList (localName tag.name))
    split
    · exact ⟨[opened, closed], by simp [closeElement, deliver, opened, closed]⟩
    · exact ⟨[opened], by simp [deliver, opened]⟩

theorem exists_added_endEndTag (s : Scanner) (content : List Char) :
    ∃ added, (s.endEndTag content).delivered.toList = s.delivered.toList ++ added := by
  simp only [endEndTag]
  split
  · exact ⟨[], (List.append_nil _).symm⟩
  · split
    · exact ⟨[.closed (String.ofList (localName (endTagName content)))],
        by simp [closeElement, deliver]⟩
    · exact ⟨[], (List.append_nil _).symm⟩

/-- **One character only adds** to what has been delivered, and nothing but text unless it is a
`>`. -/
theorem exists_added (s : Scanner) (c : Char) :
    ∃ added, (s.step c).delivered.toList = s.delivered.toList ++ added ∧
      (c ≠ '>' → TextOnly added) := by
  have hnothing : ∃ added, s.delivered.toList = s.delivered.toList ++ added ∧
      (c ≠ '>' → TextOnly added) := ⟨[], (List.append_nil _).symm, fun _ => textOnly_nil⟩
  rw [step_eq_perform]
  cases haction : s.mode.action c with
  | rest => exact hnothing
  | move mode => exact hnothing
  | endText written =>
    obtain ⟨added, hadded, htext⟩ :=
      @exists_added_endText s written (·.advance c .tagOpening) fun _ => rfl
    exact ⟨added, hadded, fun _ => htext⟩
  | endStartTag content =>
    obtain ⟨added, hadded⟩ := (s.advance c (.text [])).exists_added_endStartTag content
    refine ⟨added, hadded, fun hc => ?_⟩
    have hopen := s.mode.completesTag_action hc
    simp [haction, Action.completesTag] at hopen
  | endEndTag content =>
    obtain ⟨added, hadded⟩ := (s.advance c (.text [])).exists_added_endEndTag content
    refine ⟨added, hadded, fun hc => ?_⟩
    have hclosed := s.mode.completesTag_action hc
    simp [haction, Action.completesTag] at hclosed
  | endCData body =>
    simp only [perform, endCData]
    split
    · obtain ⟨added, hadded, htext⟩ := (s.advance c (.text [])).exists_added_deliverText
        (body.drop cdataOpening.length)
      exact ⟨added, hadded, fun _ => htext⟩
    · exact hnothing
  | endDoctype body =>
    simp only [perform, endDoctype]
    split_ifs <;> exact hnothing
  | refuse cause => exact hnothing
  | refuseBehind cause => exact hnothing

/-- **Nothing delivered is taken back.** -/
theorem delivered_prefix_feed (s : Scanner) (text : List Char) :
    s.delivered.toList <+: (s.feed text).delivered.toList := by
  induction text generalizing s with
  | nil => exact List.prefix_rfl
  | cons c rest ih =>
    obtain ⟨added, hadded, -⟩ := s.exists_added c
    exact List.IsPrefix.trans ⟨added, hadded.symm⟩ (ih (s.step c))

/-- The end of input adds at most a text. -/
theorem exists_added_finish (s : Scanner) :
    ∃ added, s.finish.events = s.delivered.toList ++ added ∧ TextOnly added := by
  have hnothing : ∃ added, s.delivered.toList = s.delivered.toList ++ added ∧ TextOnly added :=
    ⟨[], (List.append_nil _).symm, textOnly_nil⟩
  simp only [finish, close]
  split
  · rename_i written _
    exact s.exists_added_endText written fun _ => rfl
  · split <;> exact hnothing

/-! ### The end of input -/

/-- **Where a scan may end**: with nothing open, in character data that can be decoded. -/
theorem finish_result_eq_ok_iff (s : Scanner) :
    s.finish.result = .ok () ↔
      s.depth = 0 ∧
        ∃ written text, s.mode = .text written ∧ Reference.decode written.reverse = .ok text := by
  have hfault : ∀ t : Scanner, (∃ error, t.mode = .failed error) → s.close = t →
      s.finish.result ≠ .ok () := by
    rintro t ⟨error, herror⟩ rfl
    simp [finish, herror]
  cases hmode : s.mode with
  | text written =>
    cases hdecode : Reference.decode written.reverse with
    | error cause =>
      have hclose : s.close = s.fail (.badReference cause) s.offset := by
        simp [close, hmode, endText, hdecode]
      simp [hfault _ ⟨_, rfl⟩ hclose, hdecode]
    | ok content =>
      have hclose : s.close.mode = .text written ∧ s.close.depth = s.depth := by
        simp only [close, hmode, endText, hdecode, deliverText, id]
        split <;> exact ⟨hmode, rfl⟩
      simp [finish, hclose, hdecode, Nat.pos_iff_ne_zero]
  | failed error => simp [hfault s ⟨error, hmode⟩ (close_of_failed hmode)]
  | _ =>
    have hclose : ∃ t : Scanner, (∃ error, t.mode = .failed error) ∧ s.close = t := by
      simp only [close, hmode, pendingFault]
      exact ⟨_, ⟨_, rfl⟩, rfl⟩
    obtain ⟨t, herror, hclose⟩ := hclose
    simp [hfault t herror hclose]

/-- **Nothing may be left open** at the end of input. -/
theorem Sound.exists_error (h : s.Sound) (hopen : s.openNames ≠ []) :
    ∃ error, s.finish.result = .error error := by
  cases hresult : s.finish.result with
  | error error => exact ⟨error, rfl⟩
  | ok =>
    obtain ⟨hdepth, -⟩ := s.finish_result_eq_ok_iff.mp hresult
    rw [h.counted, List.length_eq_zero_iff] at hdepth
    exact absurd hdepth hopen

end Scanner

/-- A scan that succeeds has been sound all the way. -/
theorem sound_of_scan_ok {reply : String} (hok : (scan reply).result = .ok ()) {front : List Char}
    (hfront : front <+: payload reply) : (Scanner.feed {} front).Sound := by
  rcases Scanner.sound_initial.feed front with hsound | hstopped
  · exact hsound
  · obtain ⟨error, herror⟩ := hstopped.failed
    obtain ⟨back, hback⟩ := hfront
    rw [scan, ← hback, Scanner.feed_append, Scanner.feed_of_failed herror] at hok
    obtain ⟨-, written, text, hmode, -⟩ := (Scanner.finish_result_eq_ok_iff _).mp hok
    simp [herror] at hmode

end DaemonReply.Markup
