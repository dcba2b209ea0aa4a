import DaemonReply.Proofs.Actions
import DaemonReply.Proofs.Batch
import DaemonReply.Proofs.OpenElements
import DaemonReply.Proofs.Payloads
import DaemonReply.Proofs.WrittenReply
import DaemonReply.Record.AccountManager

/-!
# Replies one behind the other

Two sound replies written one behind the other are a sound reply, with the records of both. The
scan of the second one goes on from where the first one has left the scanner, with some text in
hand that has not been delivered, and what it delivers is what it would have delivered on its own
(`Scanner.Continues`): text at the junction comes in one piece instead of two, and a byte-order
mark of the second reply becomes text, but text outside all elements means nothing to an assembler.

Main statement: `replies_compose`.
-/

namespace DaemonReply

open Markup Markup.Event

namespace Markup

namespace Scanner

variable {s t : Scanner} {heard said : List Event} {names : List String}

/-! ### Scanners side by side -/

/-- Whether a scan has failed. -/
def HasFailed (s : Scanner) : Prop :=
  ∃ error, s.mode = .failed error

/-- What every step keeps of two scanners, as long as the second one does not fail, is kept over a
whole text. -/
theorem feed_of_step {R : Scanner → Scanner → Prop}
    (hstep : ∀ {s t : Scanner}, R s t → ∀ c, R (s.step c) (t.step c) ∨ (t.step c).HasFailed)
    (h : R s t) (text : List Char) :
    R (s.feed text) (t.feed text) ∨ (t.feed text).HasFailed := by
  induction text generalizing s t with
  | nil => exact .inl h
  | cons c rest ih =>
    rw [feed_cons, feed_cons]
    rcases hstep h c with hnext | ⟨error, herror⟩
    · exact ih hnext
    -- once a scanner has failed it reads nothing more
    · exact .inr ⟨error, by rw [feed_of_failed herror, herror]⟩

/-- Two scanners at the same place in the markup, the first of which has heard `heard` in
advance. -/
structure Aligned (s t : Scanner) (heard : List Event) : Prop where
  openNames_eq : s.openNames = t.openNames
  depth_eq : s.depth = t.depth
  mode_eq : s.mode = t.mode
  scatter_eq : scatter s.delivered.toList = heard ++ scatter t.delivered.toList

namespace Aligned

theorem advance (h : s.Aligned t heard) (c : Char) (mode : Mode) :
    (s.advance c mode).Aligned (t.advance c mode) heard :=
  ⟨h.openNames_eq, h.depth_eq, rfl, h.scatter_eq⟩

theorem deliver (h : s.Aligned t heard) (event : Event) :
    (s.deliver event).Aligned (t.deliver event) heard :=
  ⟨h.openNames_eq, h.depth_eq, h.mode_eq, by simp [Scanner.deliver, h.scatter_eq]⟩

theorem deliverText (h : s.Aligned t heard) (content : List Char) :
    (s.deliverText content).Aligned (t.deliverText content) heard := by
  rw [Scanner.deliverText, Scanner.deliverText]
  split
  · exact h
  · exact h.deliver _

theorem closeElement (h : s.Aligned t heard) (name : List Char) :
    (s.closeElement name).Aligned (t.closeElement name) heard := by
  have hcounted :
      Aligned { s with depth := s.depth - 1 } { t with depth := t.depth - 1 } heard :=
    ⟨h.openNames_eq, congrArg (· - 1) h.depth_eq, h.mode_eq, h.scatter_eq⟩
  exact hcounted.deliver _

/-- A start tag is read the same way at the same place. -/
theorem endStartTag (h : s.Aligned t heard) (content : List Char) :
    (s.endStartTag content).Aligned (t.endStartTag content) heard ∨
      (t.endStartTag content).HasFailed := by
  simp only [Scanner.endStartTag]
  cases StartTag.read content with
  | error cause => exact .inr ⟨_, rfl⟩
  | ok tag =>
    have hcounted :
        Aligned { s with depth := s.depth + 1 } { t with depth := t.depth + 1 } heard :=
      ⟨h.openNames_eq, congrArg (· + 1) h.depth_eq, h.mode_eq, h.scatter_eq⟩
    have hopened :=
      hcounted.deliver (.opened (String.ofList (localName tag.name)) tag.attributes)
    left
    dsimp only
    split
    · exact hopened.closeElement tag.name
    · refine ⟨?_, hopened.depth_eq, hopened.mode_eq, hopened.scatter_eq⟩
      simp only [h.openNames_eq]

theorem endEndTag (h : s.Aligned t heard) (content : List Char) :
    (s.endEndTag content).Aligned (t.endEndTag content) heard ∨
      (t.endEndTag content).HasFailed := by
  simp only [Scanner.endEndTag, h.openNames_eq]
  cases t.openNames with
  | nil => exact .inr ⟨_, rfl⟩
  | cons expected outer =>
    by_cases hname : String.ofList (endTagName content) = expected
    · have hclosed := h.closeElement (endTagName content)
      simp only [hname, if_true]
      exact .inl ⟨rfl, hclosed.depth_eq, hclosed.mode_eq, hclosed.scatter_eq⟩
    · simp only [hname, if_false]
      exact .inr ⟨_, rfl⟩

/-- **What a character asks for** keeps two scanners side by side, up to a fault. -/
theorem perform (h : s.Aligned t heard) (c : Char) (action : Action) :
    (s.perform c action).Aligned (t.perform c action) heard ∨
      (t.perform c action).HasFailed := by
  cases action with
  | rest => exact .inl h
  | move mode => exact .inl (h.advance c mode)
  | endText written =>
    simp only [Scanner.perform, endText]
    cases Reference.decode written.reverse with
    | ok content => exact .inl ((h.deliverText content).advance c .tagOpening)
    | error cause => exact .inr ⟨_, rfl⟩
  | endStartTag content => exact (h.advance c (.text [])).endStartTag content
  | endEndTag content => exact (h.advance c (.text [])).endEndTag content
  | endCData body =>
    simp only [Scanner.perform, endCData]
    split
    · exact .inl ((h.advance c (.text [])).deliverText _)
    · exact .inr ⟨_, rfl⟩
  | endDoctype body =>
    simp only [Scanner.perform, endDoctype]
    split_ifs
    · exact .inr ⟨_, rfl⟩
    · exact .inr ⟨_, rfl⟩
    · exact .inl (h.advance c (.text []))
  | refuse cause => exact .inr ⟨_, rfl⟩
  | refuseBehind cause => exact .inr ⟨_, rfl⟩

theorem step (h : s.Aligned t heard) (c : Char) :
    (s.step c).Aligned (t.step c) heard ∨ (t.step c).HasFailed := by
  rw [step_eq_perform, step_eq_perform, h.mode_eq]
  exact h.perform c (t.mode.action c)

end Aligned

/-! ### A text in two halves -/

/-- Two scanners in one run of character data, the first of which already had `lead` of it in
hand when the second began. -/
structure InSameText (s t : Scanner) (heard : List Event) : Prop where
  openNames_eq : s.openNames = t.openNames
  depth_eq : s.depth = t.depth
  pending : ∃ written lead text, s.mode = .text (written ++ lead) ∧ t.mode = .text written ∧
    Reference.decode lead.reverse = .ok text ∧
    scatter s.delivered.toList ++ letters text = heard ++ scatter t.delivered.toList

/-- The text goes on for both, or ends for both and leaves them side by side. -/
theorem InSameText.step (h : s.InSameText t heard) (c : Char) :
    (s.step c).InSameText (t.step c) heard ∨ (s.step c).Aligned (t.step c) heard ∨
      (t.step c).HasFailed := by
  obtain ⟨written, lead, text, hs, ht, hlead, hheard⟩ := h.pending
  simp only [Scanner.step, hs, ht]
  by_cases hc : c = '<'
  · simp only [hc, if_true, endText]
    right
    cases hwritten : Reference.decode written.reverse with
    | error cause => exact .inr ⟨_, rfl⟩
    | ok content =>
      have hboth : Reference.decode (written ++ lead).reverse = .ok (text ++ content) := by
        rw [List.reverse_append]
        exact Reference.decode_append hlead hwritten
      rw [hboth]
      refine .inl ⟨?_, ?_, rfl, ?_⟩
      · simpa [Scanner.advance] using h.openNames_eq
      · simpa [Scanner.advance] using h.depth_eq
      · simp only [Scanner.advance]
        rw [scatter_deliverText, scatter_deliverText, letters_append, ← List.append_assoc, hheard,
          List.append_assoc]
  · simp only [hc, if_false]
    exact .inl ⟨h.openNames_eq, h.depth_eq, c :: written, lead, text, rfl, rfl, hlead, hheard⟩

/-! ### Going on -/

/-- A scanner that reads on where another one began: both are in the text that the first one had
in hand, or side by side. -/
def Continues (s t : Scanner) (heard : List Event) : Prop :=
  s.InSameText t heard ∨ s.Aligned t heard

theorem Continues.step (h : s.Continues t heard) (c : Char) :
    (s.step c).Continues (t.step c) heard ∨ (t.step c).HasFailed := by
  rcases h with htext | haligned
  · rcases htext.step c with htext | haligned | hfailed
    · exact .inl (.inl htext)
    · exact .inl (.inr haligned)
    · exact .inr hfailed
  · exact (haligned.step c).imp_left .inr

theorem Continues.feed (h : s.Continues t heard) (text : List Char) :
    (s.feed text).Continues (t.feed text) heard ∨ (t.feed text).HasFailed :=
  feed_of_step (R := fun s t => s.Continues t heard) (fun h c => h.step c) h text

/-- What the second scanner has heard, the first one has heard behind all it had heard before. -/
theorem Continues.inText (h : s.Continues t heard) (ht : t.InText names said) :
    s.InText names (heard ++ said) := by
  obtain ⟨written, content, hmode, hdecode, hsaid⟩ := ht.pending
  rcases h with htext | haligned
  · obtain ⟨written', lead, text, hs, ht', hlead, hheard⟩ := htext.pending
    obtain rfl : written' = written := by simpa [ht'] using hmode
    refine ⟨htext.openNames_eq.trans ht.openNames_eq, _, text ++ content, hs, ?_, ?_⟩
    · rw [List.reverse_append]
      exact Reference.decode_append hlead hdecode
    · rw [letters_append, ← List.append_assoc, hheard, List.append_assoc, hsaid]
  · refine ⟨haligned.openNames_eq.trans ht.openNames_eq, written, content, ?_, hdecode, ?_⟩
    · rw [haligned.mode_eq, hmode]
    · rw [haligned.scatter_eq, List.append_assoc, hsaid]

/-- With nothing open, a scanner goes on from its text like one that begins. -/
theorem InText.continues (h : s.InText [] heard) (hdepth : s.depth = 0) :
    s.Continues {} heard := by
  obtain ⟨lead, text, hmode, hlead, hheard⟩ := h.pending
  exact .inl ⟨h.openNames_eq, hdepth, [], lead, text, hmode, rfl, hlead, by simpa using hheard⟩

end Scanner

/-! ### Scans -/

/-- Where a scan that succeeds has come to at the end of the payload. -/
theorem inText_of_scan_ok {reply : String} (hok : (scan reply).result = .ok ()) :
    (Scanner.feed {} (payload reply)).InText [] (scatter (scan reply).events) := by
  have hsound := sound_of_scan_ok hok List.prefix_rfl
  obtain ⟨hdepth, written, text, hmode, hdecode⟩ := (Scanner.finish_result_eq_ok_iff _).mp hok
  refine ⟨?_, written, text, hmode, hdecode, ?_⟩
  · rw [hsound.counted] at hdepth
    exact List.eq_nil_of_length_eq_zero hdepth
  · simp only [scan, Scanner.finish, Scanner.close, hmode, Scanner.endText, hdecode]
    exact (Scanner.scatter_deliverText _ text).symm

/-- A byte-order mark that is not at the start of a reply is text. -/
theorem Scanner.InText.feed_mark {s : Scanner} {names : List String} {heard : List Event}
    (h : s.InText names heard) {mark : List Char} (hmark : mark = [] ∨ mark = [byteOrderMark]) :
    (s.feed mark).InText names (heard ++ letters mark) := by
  rcases hmark with rfl | rfl
  · simpa using h
  · exact h.feed_spelled [.raw byteOrderMark (by decide)]

/-- **Scans compose.** If two replies scan, then so do both of them one behind the other, and what
is heard is what is heard of each, with at most a byte-order mark between. -/
theorem scan_append {a b : String} (hterminator : terminator ∉ a.toList)
    (ha : (scan a).result = .ok ()) (hb : (scan b).result = .ok ()) :
    (scan (a ++ b)).result = .ok () ∧
      ∃ mark, scatter (scan (a ++ b)).events =
        scatter (scan a).events ++ letters mark ++ scatter (scan b).events := by
  obtain ⟨mark, hmark, hpayload⟩ := exists_payload_append b hterminator
  -- the scanner behind the first reply and the mark goes on as one that begins with the second
  have hbehind := (inText_of_scan_ok ha).feed_mark hmark
  rw [← Scanner.feed_append] at hbehind
  have hwhole : (Scanner.feed {} (payload (a ++ b))).InText []
      (scatter (scan a).events ++ letters mark ++ scatter (scan b).events) := by
    rw [hpayload, ← List.append_assoc, Scanner.feed_append]
    rcases (hbehind.continues hbehind.depth_eq_zero).feed (payload b) with hgoes | ⟨error, herror⟩
    · exact hgoes.inText (inText_of_scan_ok hb)
    · obtain ⟨-, written, text, hmode, -⟩ := (Scanner.finish_result_eq_ok_iff _).mp hb
      simp [herror] at hmode
  obtain ⟨hok, hevents⟩ := hwhole.finish hwhole.depth_eq_zero
  exact ⟨hok, mark, hevents⟩

/-- What a successful scan delivers is balanced. -/
theorem balanced_of_scan_ok {reply : String} (hok : (scan reply).result = .ok ()) :
    Balanced (scan reply).events := by
  obtain ⟨hsound, hdepth⟩ := Scanner.sound_of_finish_ok (scan_sound_or_stopped reply) hok
  rw [hsound.counted, List.length_eq_zero_iff] at hdepth
  have hopen := hsound.openAfter
  rw [hdepth] at hopen
  exact balanced_iff.mpr hopen

end Markup

/-! ### Records -/

theorem Assembler.records_run_new {β ρ : Type} (family : RecordFamily β ρ)
    (events : List Event) :
    ((new family).run family events).records.toList = family.batch events :=
  run_records_of_idle events (idle_new family).recordOpen

/-- The records of a sound reply are the batch of its events. -/
theorem RecordFamily.tryParse_eq_batch {β ρ : Type} (family : RecordFamily β ρ) {reply : String}
    (hok : (scan reply).result = .ok ()) :
    family.tryParse reply = .ok (family.batch (scan reply).events) := by
  rw [family.tryParse_of_ok hok, Assembler.records_run_new]

namespace Assembler

variable {a b : String} {β ρ : Type} (family : RecordFamily β ρ)

/-- A sound reply leaves an assembler in the middle of nothing. -/
theorem idle_run_scan (ha : (scan a).result = .ok ()) :
    ((new family).run family (scan a).events).Idle :=
  (idle_new family).run (balanced_of_scan_ok ha)

/-- One assembler for two replies makes of them what it makes of one behind the other: the text
between means nothing to it. -/
theorem run_scan_append (hterminator : terminator ∉ a.toList) (ha : (scan a).result = .ok ())
    (hb : (scan b).result = .ok ()) :
    (new family).run family (scan (a ++ b)).events =
      ((new family).run family (scan a).events).run family (scan b).events := by
  obtain ⟨-, mark, hevents⟩ := scan_append hterminator ha hb
  rw [← run_scatter, hevents, run_append, run_append, run_scatter, run_scatter, run_letters,
    (idle_run_scan family ha).addText]

theorem records_run_scan (ha : (scan a).result = .ok ()) :
    (((new family).run family (scan a).events).run family (scan b).events).records.toList =
      family.batch (scan a).events ++ family.batch (scan b).events := by
  rw [run_records_of_idle _ (idle_run_scan family ha).recordOpen, records_run_new]

end Assembler

/-- Behind a reply without a terminator another one is read as well. -/
theorem RecordFamily.tryParse_append {β ρ : Type} (family : RecordFamily β ρ) {a b : String}
    (hterminator : terminator ∉ a.toList) (ha : (scan a).result = .ok ())
    (hb : (scan b).result = .ok ()) :
    family.tryParse (a ++ b) =
      .ok (family.batch (scan a).events ++ family.batch (scan b).events) := by
  obtain ⟨hok, -⟩ := scan_append hterminator ha hb
  rw [family.tryParse_of_ok hok, Assembler.run_scan_append family hterminator ha hb,
    Assembler.records_run_scan family ha]

/-- **Replies compose.** Two replies that scan, the first of which is not ended by a terminator,
may be written one behind the other: the records of the whole are those of the first followed by
those of the second. One assembler that reads them one after the other gets the same records, and
is in the middle of nothing after each of them. Of two account managers the second one counts. -/
theorem replies_compose (a b : String) (hterminator : terminator ∉ a.toList)
    (ha : (scan a).result = .ok ()) (hb : (scan b).result = .ok ()) :
    (∀ {β ρ : Type} (family : RecordFamily β ρ), ∃ first second : List ρ,
      family.tryParse a = .ok first ∧ family.tryParse b = .ok second ∧
      family.tryParse (a ++ b) = .ok (first ++ second) ∧
      ∃ between behind : Assembler β ρ,
        (Assembler.new family).read family a = (between, .ok ()) ∧ between.Idle ∧
        between.read family b = (behind, .ok ()) ∧ behind.Idle ∧
        behind.records.toList = first ++ second) ∧
    ∃ first second : Option AccountManager,
      AccountManager.tryParse a = .ok first ∧ AccountManager.tryParse b = .ok second ∧
      AccountManager.tryParse (a ++ b) = .ok (second.or first) := by
  constructor
  · intro β ρ family
    have hbetween := Assembler.idle_run_scan family ha
    refine ⟨_, _, family.tryParse_eq_batch ha, family.tryParse_eq_batch hb,
      family.tryParse_append hterminator ha hb, _, _, ?_, hbetween, ?_, ?_,
      Assembler.records_run_scan family ha⟩
    · rw [Assembler.read, ha]
    · rw [Assembler.read, hb]
    · exact hbetween.run (balanced_of_scan_ok hb)
  · simp only [AccountManager.tryParse, RecordFamily.tryParse_eq_batch _ ha,
      RecordFamily.tryParse_eq_batch _ hb, RecordFamily.tryParse_append _ hterminator ha hb]
    exact ⟨_, _, rfl, rfl, congrArg Except.ok List.getLast?_append⟩

/-- A second reply that begins with a byte-order mark, and knows of no account manager. -/
theorem replies_compose_mark :
    (scan "<acct_mgr_info><acct_mgr_info/></acct_mgr_info>\n").result = .ok () ∧
      (scan "\uFEFF1<r/>").result = .ok () ∧
      AccountManager.tryParse "\uFEFF1<r/>" = .ok none ∧
      AccountManager.tryParse "<acct_mgr_info><acct_mgr_info/></acct_mgr_info>\n\uFEFF1<r/>" =
        .ok (some {}) := by
  have hterminator :
      terminator ∉ "<acct_mgr_info><acct_mgr_info/></acct_mgr_info>\n".toList := by decide
  have hfirst : AccountManager.tryParse "<acct_mgr_info><acct_mgr_info/></acct_mgr_info>\n" =
      .ok (some {}) := by decide +kernel
  have hsecond : AccountManager.tryParse "\uFEFF1<r/>" = .ok none := by decide +kernel
  obtain ⟨-, first, second, hfirst', hsecond', hwhole⟩ :=
    replies_compose _ "\uFEFF1<r/>" hterminator rfl rfl
  obtain rfl : some {} = first := by simpa [hfirst] using hfirst'
  obtain rfl : none = second := by simpa [hsecond] using hsecond'
  exact ⟨rfl, rfl, hsecond, hwhole⟩

end DaemonReply
