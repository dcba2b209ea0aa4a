import DaemonReply.Proofs.Actions
import DaemonReply.Proofs.Batch
import DaemonReply.Proofs.Payloads
import DaemonReply.Record.AccountManager
import DaemonReply.Record.Message

/-!
# Truncated replies

A reply that is cut short is not read in part. If the markup of a reply is one element, then what
is left of it when it is cut before that element is complete gives no records at all, however many
of them are complete in what is left; and as soon as the element has been opened, the cut is
reported as a fault.

The element is complete with the `>` that makes the scan deliver its closing, and it is open with
the `>` that makes the scan deliver its opening (`DeliversBehind`). There is exactly one such
place each (`existsUnique_deliversBehind`), because a scan never takes an event back and only a
`>` completes a tag.

Main statement: `truncated_reply_yields_nothing`.
-/

namespace DaemonReply

open Markup Markup.Event

namespace Markup

/-! ### Where an event is delivered -/

section Delivery

variable {kind : Event → Bool} {n : Nat}

/-- With texts out of the count, the scan of a reply has delivered all at the end of the
payload. -/
theorem countP_scan (hkind : ∀ content, kind (.text content) = false) (reply : String) :
    (scan reply).events.countP kind =
      (Scanner.feed {} (payload reply)).delivered.toList.countP kind := by
  obtain ⟨added, hadded, htext⟩ := (Scanner.feed {} (payload reply)).exists_added_finish
  rw [scan, hadded, List.countP_append, htext.countP_eq_zero hkind, Nat.add_zero]

/-- A longer text delivers no less. -/
theorem Scanner.countP_delivered_le (s : Scanner) {front text : List Char} (h : front <+: text) :
    (s.feed front).delivered.toList.countP kind ≤ (s.feed text).delivered.toList.countP kind := by
  obtain ⟨back, rfl⟩ := h
  rw [feed_append]
  exact ((s.feed front).delivered_prefix_feed back).sublist.countP_le

theorem countP_scan_le (hkind : ∀ content, kind (.text content) = false) {cut reply : String}
    (h : cut.toList <+: reply.toList) :
    (scan cut).events.countP kind ≤ (scan reply).events.countP kind := by
  rw [countP_scan hkind, countP_scan hkind]
  exact Scanner.countP_delivered_le {} (prefix_payload h)

/-- What has not been delivered before a text and has been behind it, is delivered with some `>`
in it. -/
theorem Scanner.exists_crossing (hkind : ∀ content, kind (.text content) = false) {s : Scanner}
    {text : List Char} (hbefore : s.delivered.toList.countP kind < n)
    (hbehind : n ≤ (s.feed text).delivered.toList.countP kind) :
    ∃ front, front ++ ['>'] <+: text ∧ (s.feed front).delivered.toList.countP kind < n ∧
      n ≤ (s.feed (front ++ ['>'])).delivered.toList.countP kind := by
  induction text generalizing s with
  | nil => exact absurd hbehind (by simpa using hbefore)
  | cons c rest ih =>
    by_cases hstep : n ≤ (s.step c).delivered.toList.countP kind
    · obtain ⟨added, hadded, htext⟩ := s.exists_added c
      -- another character would have added nothing but text
      have hc : c = '>' := by
        by_contra hc
        rw [hadded, List.countP_append, (htext hc).countP_eq_zero hkind] at hstep
        omega
      subst hc
      exact ⟨[], by simp, hbefore, by simpa using hstep⟩
    · obtain ⟨front, hfront, hless, hmore⟩ := ih (Nat.lt_of_not_le hstep) hbehind
      exact ⟨c :: front, by simpa using hfront, hless, hmore⟩

/-- The scan of a reply delivers its `n`th event of a kind with the `>` behind `front`: not yet
behind `front`, but behind that `>`. -/
structure DeliversBehind (reply : String) (kind : Event → Bool) (n : Nat) (front : String) :
    Prop where
  mark : (front ++ ">").toList <+: reply.toList
  before : (scan front).events.countP kind < n
  behind : n ≤ (scan (front ++ ">")).events.countP kind

theorem DeliversBehind.isPrefix {reply front : String} (h : DeliversBehind reply kind n front) :
    front.toList <+: reply.toList :=
  (List.prefix_append _ _).trans (String.toList_append ▸ h.mark)

/-- Of two such places the later one would lie behind the `>` of the other. -/
theorem DeliversBehind.eq_of_prefix (hkind : ∀ content, kind (.text content) = false)
    {reply front front' : String} (h : DeliversBehind reply kind n front)
    (h' : DeliversBehind reply kind n front') (hle : front.toList <+: front'.toList) :
    front = front' := by
  by_contra hne
  have hlength : (front ++ ">").toList.length ≤ front'.toList.length := by
    have hlt : front.toList.length < front'.toList.length :=
      Nat.lt_of_le_of_ne hle.length_le fun heq =>
        hne (String.toList_inj.mp (hle.eq_of_length heq))
    rw [String.toList_append, List.length_append]
    exact hlt
  have hbehind : (front ++ ">").toList <+: front'.toList :=
    List.prefix_of_prefix_length_le h.mark h'.isPrefix hlength
  have hle := countP_scan_le hkind hbehind
  have hbefore := h'.before
  have hmore := h.behind
  omega

/-- **Every opening and every closing has its own place** in a reply. -/
theorem existsUnique_deliversBehind (hkind : ∀ content, kind (.text content) = false)
    {reply : String} (hpos : 0 < n) (hn : n ≤ (scan reply).events.countP kind) :
    ∃! front, DeliversBehind reply kind n front := by
  obtain ⟨mark, hmark⟩ := exists_mark_front reply
  rw [countP_scan hkind] at hn
  obtain ⟨front, hfront, hless, hmore⟩ := Scanner.exists_crossing hkind (s := {})
    (by simpa using hpos) hn
  have hgt : String.ofList (mark ++ front) ++ ">" = String.ofList (mark ++ (front ++ ['>'])) := by
    simp [← String.toList_inj]
  obtain ⟨hpayload, -⟩ := hmark front ((List.prefix_append front ['>']).trans hfront)
  obtain ⟨hpayloadGt, hreply⟩ := hmark (front ++ ['>']) hfront
  have h : DeliversBehind reply kind n (String.ofList (mark ++ front)) := by
    refine ⟨?_, ?_, ?_⟩
    · rwa [hgt, String.toList_ofList]
    · rwa [countP_scan hkind, hpayload]
    · rwa [hgt, countP_scan hkind, hpayloadGt]
  refine ⟨_, h, fun front' h' => ?_⟩
  rcases List.prefix_or_prefix_of_prefix h.isPrefix h'.isPrefix with hfront | hfront
  · exact (h.eq_of_prefix hkind h' hfront).symm
  · exact h'.eq_of_prefix hkind h hfront

end Delivery

/-! ### A single element -/

namespace Event

/-- The events are those of one element, with nothing but text around it. -/
def SingleElement (events : List Event) : Prop :=
  ∃ before name attributes inner after,
    events = before ++ .opened name attributes :: (inner ++ .closed name :: after) ∧
      TextOnly before ∧ Balanced inner ∧ TextOnly after

theorem TextOnly.openAfter? {events : List Event} (h : TextOnly events) (names : List String) :
    Event.openAfter? names events = some names := by
  induction events with
  | nil => rfl
  | cons event rest ih =>
    obtain ⟨content, rfl⟩ := h.exists_text List.mem_cons_self
    obtain ⟨-, hrest⟩ := List.forall_mem_cons.mp h
    exact ih hrest

/-- As long as a single element has not closed, either it has not opened yet and all is text, or
it is still open, the outermost of what is. -/
theorem textOnly_or_open {before inner front : List Event} {name : String}
    {attributes : List Attribute} (hbefore : TextOnly before) (hinner : Balanced inner)
    (hfront : front <+: before ++ .opened name attributes :: inner) :
    TextOnly front ∨ ∃ names, Event.openAfter? [] front = some (names ++ [name]) := by
  rcases List.prefix_or_prefix_of_prefix hfront (List.prefix_append before _) with
    hshort | ⟨portion, rfl⟩
  · exact .inl fun event hevent => hbefore event (hshort.subset hevent)
  rcases List.prefix_cons_iff.mp ((List.prefix_append_right_inj before).mp hfront) with
    rfl | ⟨inside, rfl, hinside⟩
  · rw [List.append_nil]
    exact .inl hbefore
  · obtain ⟨names, hnames⟩ := hinner.exists_openAfter? hinside
    refine .inr ⟨names, ?_⟩
    rw [openAfter?_append, hbefore.openAfter?, Option.bind_some, openAfter?_opened]
    exact openAfter?_append_names [name] hnames

/-- The same of a beginning that lacks the last closing. -/
theorem SingleElement.textOnly_or_open {events front : List Event} (h : SingleElement events)
    (hfront : front <+: events) (hcount : front.countP isClose < events.countP isClose) :
    TextOnly front ∨ ∃ names name, Event.openAfter? [] front = some (names ++ [name]) := by
  obtain ⟨before, name, attributes, inner, after, rfl, hbefore, hinner, hafter⟩ := h
  let unclosed := before ++ .opened name attributes :: inner
  have hsplit : before ++ .opened name attributes :: (inner ++ .closed name :: after) =
      unclosed ++ [.closed name] ++ after := by simp [unclosed]
  rw [hsplit] at hfront hcount
  rw [List.countP_append, hafter.countP_eq_zero fun _ => rfl, Nat.add_zero] at hcount
  -- with the last closing in it, the beginning would have as many closings as all events
  have hlacks : front <+: unclosed := by
    rcases List.prefix_or_prefix_of_prefix hfront (List.prefix_append _ after) with hle | hle
    · rcases List.prefix_concat_iff.mp hle with rfl | hle
      · exact absurd hcount (Nat.lt_irrefl _)
      · exact hle
    · exact absurd hcount (Nat.not_lt_of_le hle.sublist.countP_le)
  rcases Event.textOnly_or_open hbefore hinner hlacks with htext | ⟨names, hopen⟩
  · exact .inl htext
  · exact .inr ⟨names, name, hopen⟩

end Event

/-! ### The end of a truncated reply -/

/-- A beginning that lacks the last closing of a single element is at fault, or has nothing but
text in it. -/
theorem error_or_textOnly {reply cut : String} (hok : (scan reply).result = .ok ())
    (hsingle : SingleElement (scan reply).events) (hcut : cut.toList <+: reply.toList)
    (hcount : (scan cut).events.countP isClose < (scan reply).events.countP isClose) :
    (∃ error, (scan cut).result = .error error) ∨ TextOnly (scan cut).events := by
  have hpayload : payload cut <+: payload reply := prefix_payload hcut
  have hsound : (Scanner.feed {} (payload cut)).Sound := sound_of_scan_ok hok hpayload
  rw [countP_scan fun _ => rfl] at hcount
  -- what is delivered by then is a beginning of all events
  have hdelivered : (Scanner.feed {} (payload cut)).delivered.toList <+: (scan reply).events := by
    obtain ⟨back, hback⟩ := hpayload
    obtain ⟨added, hadded, -⟩ := (Scanner.feed {} (payload reply)).exists_added_finish
    rw [scan, hadded, ← hback, Scanner.feed_append]
    exact (Scanner.delivered_prefix_feed _ back).trans (List.prefix_append _ added)
  rcases hsingle.textOnly_or_open hdelivered hcount with htext | ⟨names, name, hopen⟩
  · obtain ⟨added, hadded, hend⟩ := (Scanner.feed {} (payload cut)).exists_added_finish
    right
    rw [scan, hadded]
    intro event hevent
    rcases List.mem_append.mp hevent with hevent | hevent
    · exact htext event hevent
    · exact hend event hevent
  · left
    refine hsound.exists_error ?_
    intro hnone
    have hnames := hsound.openAfter
    simp [hnone, hopen] at hnames

end Markup

/-! ### Records -/

namespace RecordFamily

variable {β ρ : Type}

/-- Text alone makes no record. -/
theorem parseFor_value_of_textOnly (family : RecordFamily β ρ) (origin : Origin) {reply : String}
    (h : TextOnly (scan reply).events) : (family.parseFor origin reply).value = [] := by
  cases hresult : (scan reply).result with
  | error error => exact parseFor_value_of_error origin (family.tryParse_of_error hresult)
  | ok =>
    have hidle : ∀ event ∈ (scan reply).events, family.opensRecord event = false := by
      intro event hevent
      have hname := h event hevent
      cases event with
      | opened name attributes => simp at hname
      | text content => rfl
      | closed name => rfl
    obtain ⟨-, hrecords⟩ := Assembler.run_idle (a := Assembler.new family) rfl hidle
    rw [parseFor_value_of_tryParse origin (family.tryParse_of_ok hresult), hrecords]
    rfl

end RecordFamily

/-- **A truncated reply yields nothing.** If the markup of a reply is one element, there is one
`>` that opens it and one that completes it, and every beginning of the reply that ends before
the latter gives no records, for any family of records. If the beginning holds the former, it is
reported as a fault. -/
theorem truncated_reply_yields_nothing (reply : String) (hok : (scan reply).result = .ok ())
    (hsingle : SingleElement (scan reply).events) :
    (∃! opening, DeliversBehind reply isOpen 1 opening) ∧
    (∃! body, DeliversBehind reply isClose ((scan reply).events.countP isClose) body) ∧
    ∀ opening, DeliversBehind reply isOpen 1 opening →
    ∀ body, DeliversBehind reply isClose ((scan reply).events.countP isClose) body →
    ∀ cut : String, cut.toList <+: body.toList →
      (∀ {β ρ : Type} (family : RecordFamily β ρ), (family.parse cut).value = []) ∧
      (AccountManager.parse cut).value = none ∧
      ((opening ++ ">").toList <+: cut.toList →
        (∀ {β ρ : Type} (family : RecordFamily β ρ), ∃ e, family.tryParse cut = .error e) ∧
        ∃ e, AccountManager.tryParse cut = .error e) := by
  have hevents := hsingle
  obtain ⟨before, name, attributes, inner, after, hsplit, -, -, -⟩ := hevents
  have hopens : 1 ≤ (scan reply).events.countP isOpen :=
    List.countP_pos_iff.mpr ⟨.opened name attributes, by simp [hsplit], rfl⟩
  have hcloses : 0 < (scan reply).events.countP isClose :=
    List.countP_pos_iff.mpr ⟨.closed name, by simp [hsplit], rfl⟩
  refine ⟨existsUnique_deliversBehind (fun _ => rfl) Nat.one_pos hopens,
    existsUnique_deliversBehind (fun _ => rfl) hcloses le_rfl, ?_⟩
  intro opening hopening body hbody cut hcut
  have hcount : (scan cut).events.countP isClose < (scan reply).events.countP isClose :=
    Nat.lt_of_le_of_lt (countP_scan_le (fun _ => rfl) hcut) hbody.before
  have hend := error_or_textOnly hok hsingle (hcut.trans hbody.isPrefix) hcount
  have hnothing : ∀ {β ρ : Type} (family : RecordFamily β ρ) (origin : Origin),
      (family.parseFor origin cut).value = [] := by
    intro β ρ family origin
    rcases hend with ⟨error, herror⟩ | htext
    · exact RecordFamily.parseFor_value_of_error origin (family.tryParse_of_error herror)
    · exact family.parseFor_value_of_textOnly origin htext
  refine ⟨fun family => hnothing family .assembly, ?_, fun hheld => ?_⟩
  · simp [AccountManager.parse, hnothing]
  · have hopened : 0 < (scan cut).events.countP isOpen :=
      Nat.lt_of_lt_of_le hopening.behind (countP_scan_le (fun _ => rfl) hheld)
    rcases hend with ⟨error, herror⟩ | htext
    · refine ⟨fun family => ⟨error, family.tryParse_of_error herror⟩, error, ?_⟩
      rw [AccountManager.tryParse, RecordFamily.tryParse_of_error _ herror]
      rfl
    · rw [htext.countP_eq_zero fun _ => rfl] at hopened
      exact absurd hopened (Nat.lt_irrefl 0)

/-- A reply with one message, cut just before its end: the message is complete, but not read. -/
theorem truncated_reply_yields_nothing_sample :
    (scan "<r a='>'><msg><seqno>1</seqno></msg></r>").result = .ok () ∧
      DeliversBehind "<r a='>'><msg><seqno>1</seqno></msg></r>" isOpen 1 "<r a='>'" ∧
      DeliversBehind "<r a='>'><msg><seqno>1</seqno></msg></r>" isClose 3
        "<r a='>'><msg><seqno>1</seqno></msg></r" ∧
      (Message.parse "<r a='>'><msg><seqno>1</seqno></msg></r").value = [] ∧
      ∃ e, Message.tryParse "<r a='>'><msg><seqno>1</seqno></msg></r" = .error e := by
  have hok : (scan "<r a='>'><msg><seqno>1</seqno></msg></r>").result = .ok () := rfl
  have hinner : Balanced [.opened "msg" [], .opened "seqno" [], .text "1", .closed "seqno",
      .closed "msg"] := balanced_iff.mpr rfl
  have hsingle : SingleElement (scan "<r a='>'><msg><seqno>1</seqno></msg></r>").events :=
    ⟨[], "r", [⟨"a", ">"⟩], _, [], rfl, textOnly_nil, hinner, textOnly_nil⟩
  have hopening : DeliversBehind "<r a='>'><msg><seqno>1</seqno></msg></r>" isOpen 1 "<r a='>'" :=
    ⟨by decide, by decide +kernel, by decide +kernel⟩
  have hbody : DeliversBehind "<r a='>'><msg><seqno>1</seqno></msg></r>" isClose 3
      "<r a='>'><msg><seqno>1</seqno></msg></r" :=
    ⟨by decide, by decide +kernel, by decide +kernel⟩
  obtain ⟨-, -, hcut⟩ := truncated_reply_yields_nothing _ hok hsingle
  obtain ⟨hparse, -, herror⟩ := hcut _ hopening _ hbody _ List.prefix_rfl
  exact ⟨hok, hopening, hbody, hparse Message.family, (herror (by decide)).1 Message.family⟩

end DaemonReply
