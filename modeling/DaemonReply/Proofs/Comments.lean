import DaemonReply.Proofs.Concatenation
import DaemonReply.Record.Message

/-!
# Comments

A comment may be put into a reply wherever the reply is in character data: between two pieces of
markup, or in the middle of a text, but not in the middle of a reference (`InCharacterData`). It
ends at the first `-->` behind its `<!--`, so nothing else that its body holds matters, be it a `>`
at its start or dashes at its end.

A comment cuts the text around it in two. What stands before it is decoded and delivered on its
own, while the scanner of the reply without it still has that part in hand; from there on both read
the same, and hear the same by the next piece of markup (`Scanner.Resumes`).

Main statement: `comments_ignored`.
-/

namespace DaemonReply

open Markup Markup.Event

namespace Markup

/-! ### References -/

namespace Reference

/-- Every `&` has a `;` behind it, so that the end of the text is inside no reference. -/
def Closed (text : List Char) : Prop :=
  ∀ name, '&' :: name <:+ text → ';' ∈ name

theorem Closed.tail {c : Char} {rest : List Char} (h : Closed (c :: rest)) : Closed rest :=
  fun name hname => h name (hname.trans (List.suffix_cons c rest))

/-- What a text decodes to does not depend on where it stands. -/
theorem decodeFrom_eq_ok {size offset : Nat} (size' offset' : Nat) {pending : Option (List Char)}
    {text out : List Char} (h : decodeFrom size offset pending text = .ok out) :
    decodeFrom size' offset' pending text = .ok out := by
  have hall := decodeFrom_append size' offset' [] h
  simpa [decodeFrom, Except.map] using hall

/-- If a text decodes, then so does every beginning of it that breaks off inside no reference. -/
theorem exists_decodeFrom_front {size offset : Nat} {pending : Option (List Char)}
    {front back out : List Char} (h : decodeFrom size offset pending (front ++ back) = .ok out)
    (hpending : ∀ name, pending = some name → ';' ∈ front) (hclosed : Closed front) :
    ∃ decoded, decodeFrom size offset pending front = .ok decoded := by
  induction front generalizing offset pending out with
  | nil =>
    cases pending with
    | none => exact ⟨[], rfl⟩
    | some name => exact absurd (hpending name rfl) List.not_mem_nil
  | cons c rest ih =>
    cases pending with
    | none =>
      simp only [List.cons_append, decodeFrom] at h ⊢
      split at h
      -- a reference begins, and its end is in the rest
      · rename_i hc
        have hname : ';' ∈ rest := hclosed rest (hc ▸ List.suffix_rfl)
        rw [if_pos hc]
        exact ih h (fun _ _ => hname) hclosed.tail
      · rename_i hc
        obtain ⟨tail, htail, -⟩ := Except.map_eq_ok_iff.mp h
        obtain ⟨decoded, hdecoded⟩ := ih htail (by simp) hclosed.tail
        rw [if_neg hc, hdecoded]
        exact ⟨c :: decoded, rfl⟩
    | some name =>
      simp only [List.cons_append, decodeFrom] at h ⊢
      split at h
      -- the reference under way ends here
      · rename_i hc
        rw [if_pos hc]
        split at h
        · rename_i r _
          obtain ⟨tail, htail, -⟩ := Except.map_eq_ok_iff.mp h
          obtain ⟨decoded, hdecoded⟩ := ih htail (by simp) hclosed.tail
          rw [hdecoded]
          exact ⟨r :: decoded, rfl⟩
        · simp at h
      · rename_i hc
        split at h
        · simp at h
        · rename_i hamp
          have hmore : ';' ∈ rest := by simpa [Ne.symm hc] using hpending name rfl
          rw [if_neg hc, if_neg hamp]
          exact ih h (fun _ _ => hmore) hclosed.tail

theorem exists_decode_front {front back out : List Char} (h : decode (front ++ back) = .ok out)
    (hclosed : Closed front) : ∃ decoded, decode front = .ok decoded := by
  obtain ⟨decoded, hdecoded⟩ := exists_decodeFrom_front h (by simp) hclosed
  exact ⟨decoded, decodeFrom_eq_ok _ _ hdecoded⟩

/-- The second half of a text that decodes, if the first one does. -/
theorem exists_decode_back {front back out decoded : List Char}
    (h : decode (front ++ back) = .ok out) (hfront : decode front = .ok decoded) :
    ∃ rest, decode back = .ok rest ∧ decoded ++ rest = out := by
  rw [decode, decodeFrom_append _ _ back hfront] at h
  obtain ⟨rest, hrest, hout⟩ := Except.map_eq_ok_iff.mp h
  exact ⟨rest, decodeFrom_eq_ok _ _ hrest, hout⟩

end Reference

/-! ### Reading a comment -/

/-- The mark that ends a comment. -/
def commentEnd : List Char := ['-', '-', '>']

/-- A comment as it is written. -/
def writtenComment (body : List Char) : List Char :=
  '<' :: '!' :: '-' :: '-' :: (body ++ commentEnd)

namespace Scanner

variable {s t : Scanner} {heard said : List Event} {names : List String}

/-- **The body of a comment** is passed over up to the mark of its end. Of what has been read of it
before, the dashes at the end count, since they may begin that mark. -/
theorem feed_commentBody {body : List Char} {dashes : Nat}
    (hend : ¬ commentEnd <:+: List.replicate dashes '-' ++ body)
    (hs : s.mode = .comment true dashes) :
    s.feed (body ++ commentEnd) = s.past (body ++ commentEnd) (.text []) := by
  induction body generalizing s dashes with
  | nil => simp [commentEnd, step, hs, Scanner.advance, past, Nat.add_assoc]
  | cons c rest ih =>
    by_cases hc : c = '-'
    · subst hc
      have hstep : s.step '-' = s.advance '-' (.comment true (dashes + 1)) := by simp [step, hs]
      have hmore : ¬ commentEnd <:+: List.replicate (dashes + 1) '-' ++ rest := by
        rwa [List.replicate_succ', List.append_assoc, List.singleton_append]
      rw [List.cons_append, feed_cons, hstep, ih hmore rfl, past_advance]
    · have hnone : ¬ (c = '>' ∧ 2 ≤ dashes) := by
        rintro ⟨rfl, hdashes⟩
        have hlast : List.replicate dashes '-' =
            List.replicate (dashes - 2) '-' ++ ['-', '-'] := by
          rw [← Nat.sub_add_cancel hdashes, List.replicate_add, Nat.add_sub_cancel]
          rfl
        exact hend ⟨List.replicate (dashes - 2) '-', rest, by simp [hlast, commentEnd]⟩
      have hstep : s.step c = s.advance c (.comment true 0) := by simp [step, hs, hc, hnone]
      have hrest : ¬ commentEnd <:+: List.replicate 0 '-' ++ rest := fun hmark =>
        hend (hmark.trans ⟨List.replicate dashes '-' ++ [c], [], by simp⟩)
      rw [List.cons_append, feed_cons, hstep, ih hrest rfl, past_advance]

/-- **A comment** ends the text in hand, and is passed over. -/
theorem feed_comment {body written text : List Char} (hend : ¬ commentEnd <:+: body)
    (hmode : s.mode = .text written) (hdecode : Reference.decode written.reverse = .ok text) :
    s.feed (writtenComment body) = (s.deliverText text).past (writtenComment body) (.text []) := by
  have hopening : (((s.step '<').step '!').step '-').step '-' =
      (s.deliverText text).past ['<', '!', '-', '-'] (.comment true 0) := by
    simp [step, hmode, endText, hdecode, Scanner.advance, past, Nat.add_assoc]
  rw [writtenComment, feed_cons, feed_cons, feed_cons, feed_cons, hopening,
    feed_commentBody (by simpa using hend) rfl]
  simp [past, Nat.add_assoc]

/-! ### Going on behind a comment -/

theorem Aligned.symm (h : s.Aligned t []) : t.Aligned s [] :=
  ⟨h.openNames_eq.symm, h.depth_eq.symm, h.mode_eq.symm, by simpa using h.scatter_eq.symm⟩

/-- What is broken in the second half of a text is broken in the whole. -/
theorem InSameText.hasFailed {c : Char} (h : s.InSameText t heard)
    (hfailed : (t.step c).HasFailed) : (s.step c).HasFailed := by
  obtain ⟨written, lead, text, hs, ht, hlead, -⟩ := h.pending
  obtain ⟨error, herror⟩ := hfailed
  by_cases hc : c = '<'
  · simp only [Scanner.step, ht, hc, if_true, endText] at herror
    cases hwhole : Reference.decode (written ++ lead).reverse with
    | error cause =>
      simp only [Scanner.step, hs, hc, if_true, endText, hwhole]
      exact ⟨_, rfl⟩
    | ok content =>
      rw [List.reverse_append] at hwhole
      obtain ⟨rest, hrest, -⟩ := Reference.exists_decode_back hwhole hlead
      simp [hrest, Scanner.advance] at herror
  · simp [Scanner.step, ht, hc, Scanner.advance] at herror

/-- A scanner `t` that has read a comment in addition: it has delivered the part of the text before
the comment, which `s` still has in hand, or both are side by side. -/
def Resumes (s t : Scanner) : Prop :=
  s.InSameText t [] ∨ t.Aligned s []

theorem Resumes.step (h : s.Resumes t) (c : Char) :
    (s.step c).Resumes (t.step c) ∨ (s.step c).HasFailed := by
  rcases h with htext | haligned
  · rcases htext.step c with hstep | hstep | hfailed
    · exact .inl (.inl hstep)
    · exact .inl (.inr hstep.symm)
    · exact .inr (htext.hasFailed hfailed)
  · exact (haligned.step c).imp_left .inr

theorem Resumes.feed (h : s.Resumes t) (text : List Char) :
    (s.feed text).Resumes (t.feed text) ∨ (s.feed text).HasFailed :=
  feed_of_step (R := fun t s => s.Resumes t) (fun h c => h.step c) h text

/-- Both have heard the same. -/
theorem Resumes.inText (h : s.Resumes t) (hs : s.InText names said) : t.InText names said := by
  obtain ⟨written, content, hmode, hdecode, hsaid⟩ := hs.pending
  rcases h with htext | haligned
  · obtain ⟨written', lead, text, hs', ht', hlead, hheard⟩ := htext.pending
    obtain rfl : written' ++ lead = written := by simpa [hs'] using hmode
    rw [List.reverse_append] at hdecode
    obtain ⟨rest, hrest, rfl⟩ := Reference.exists_decode_back hdecode hlead
    refine ⟨htext.openNames_eq.symm.trans hs.openNames_eq, written', rest, ht', hrest, ?_⟩
    rw [← hsaid, letters_append, ← List.append_assoc, hheard, List.nil_append]
  · refine ⟨haligned.openNames_eq.trans hs.openNames_eq, written, content, ?_, hdecode, ?_⟩
    · rw [haligned.mode_eq, hmode]
    · rw [haligned.scatter_eq, List.nil_append, hsaid]

/-- A scanner that reads a comment in character data goes on like one that does not. -/
theorem resumes_feed_comment {body written text : List Char} (hend : ¬ commentEnd <:+: body)
    (hmode : s.mode = .text written) (hdecode : Reference.decode written.reverse = .ok text) :
    s.Resumes (s.feed (writtenComment body)) := by
  rw [feed_comment hend hmode hdecode]
  refine .inl ⟨?_, ?_, [], written, text, hmode, rfl, hdecode, ?_⟩
  · simp [past]
  · simp [past]
  · exact (scatter_deliverText s text).symm

/-- In a scan that succeeds, the text in hand is the beginning of one that decodes. -/
theorem exists_decode_of_finish_ok {written rest : List Char} (hmode : s.mode = .text written)
    (hok : (s.feed rest).finish.result = .ok ()) :
    ∃ run out, Reference.decode (written.reverse ++ run) = .ok out := by
  induction rest generalizing s written with
  | nil =>
    obtain ⟨-, written', out, hmode', hdecode⟩ := (finish_result_eq_ok_iff s).mp hok
    obtain rfl : written = written' := by simpa [hmode] using hmode'
    exact ⟨[], out, by simpa using hdecode⟩
  | cons c rest ih =>
    rw [feed_cons] at hok
    by_cases hc : c = '<'
    · cases hdecode : Reference.decode written.reverse with
      | ok out => exact ⟨[], out, by simpa using hdecode⟩
      | error cause =>
        have hfailed : (s.step c).mode = .failed (.malformed (.badReference cause) s.offset) := by
          simp [step, hmode, hc, endText, hdecode, fail]
        rw [feed_of_failed hfailed] at hok
        obtain ⟨-, _, _, hmode', -⟩ := (finish_result_eq_ok_iff _).mp hok
        simp [hfailed] at hmode'
    · have hstep : (s.step c).mode = .text (c :: written) := by
        simp [step, hmode, hc, Scanner.advance]
      obtain ⟨run, out, hdecode⟩ := ih hstep hok
      exact ⟨c :: run, out, by simpa using hdecode⟩

end Scanner

/-! ### Places for a comment -/

/-- A reply that begins with `front` is in character data behind it: it is inside no other markup,
and inside no reference. -/
def InCharacterData (front : String) : Prop :=
  ∃ written, (Scanner.feed {} (payload front)).mode = .text written ∧
    Reference.Closed written.reverse

/-- A comment as a text of its own. -/
def commentText (body : String) : String :=
  "<!--" ++ body ++ "-->"

theorem toList_commentText (body : String) :
    (commentText body).toList = writtenComment body.toList := by
  simp [commentText, writtenComment, commentEnd]

theorem terminator_notMem_writtenComment {body : List Char} (h : terminator ∉ body) :
    terminator ∉ writtenComment body := by
  have hmarks : terminator ∉ '<' :: '!' :: '-' :: '-' :: commentEnd := by decide
  simp only [List.mem_cons, not_or] at hmarks
  simp [writtenComment, h, hmarks]

/-- A comment alone is a sound reply that says nothing. -/
theorem scan_commentText {body : String} (hend : ¬ commentEnd <:+: body.toList)
    (hbody : terminator ∉ body.toList) :
    (scan (commentText body)).result = .ok () ∧ (scan (commentText body)).events = [] := by
  have hpayload : payload (commentText body) = writtenComment body.toList := by
    rw [payload, toList_commentText,
      beforeTerminator_eq_self (terminator_notMem_writtenComment hbody)]
    rfl
  rw [scan, hpayload, @Scanner.feed_comment {} _ [] [] hend rfl rfl]
  exact ⟨rfl, rfl⟩

/-- Behind some text a comment stands in the payload as it is written. -/
theorem payload_commented {front body : String} (back : String) (hne : front.toList ≠ [])
    (hterminator : terminator ∉ front.toList) (hbody : terminator ∉ body.toList) :
    payload (front ++ commentText body ++ back) =
      payload front ++ (writtenComment body.toList ++ beforeTerminator back.toList) := by
  have hcomment := terminator_notMem_writtenComment hbody
  have hbehind : terminator ∉ (front ++ commentText body).toList := by
    rw [String.toList_append, toList_commentText, List.mem_append, not_or]
    exact ⟨hterminator, hcomment⟩
  rw [payload_append_of_ne_nil back (by simp [hne]) hbehind,
    payload_append_of_ne_nil _ hne hterminator, toList_commentText,
    beforeTerminator_eq_self hcomment, List.append_assoc]

/-- If all of a reply is sound, the text in hand at a place for a comment decodes. -/
theorem InCharacterData.exists_decode {front : String} {rest : List Char}
    (hplace : InCharacterData front)
    (hok : ((Scanner.feed {} (payload front)).feed rest).finish.result = .ok ()) :
    ∃ written text, (Scanner.feed {} (payload front)).mode = .text written ∧
      Reference.decode written.reverse = .ok text := by
  obtain ⟨written, hmode, hclosed⟩ := hplace
  obtain ⟨run, out, hrun⟩ := Scanner.exists_decode_of_finish_ok hmode hok
  obtain ⟨text, hdecode⟩ := Reference.exists_decode_front hrun hclosed
  exact ⟨written, text, hmode, hdecode⟩

/-- **A comment in character data** changes neither the outcome of a scan nor what is heard, but
for a byte-order mark that it keeps from standing at the start. -/
theorem scan_commented {front back body : String} (hterminator : terminator ∉ front.toList)
    (hplace : InCharacterData front) (hok : (scan (front ++ back)).result = .ok ())
    (hend : ¬ commentEnd <:+: body.toList) (hbody : terminator ∉ body.toList) :
    (scan (front ++ commentText body ++ back)).result = .ok () ∧
      ∃ mark, scatter (scan (front ++ commentText body ++ back)).events =
        letters mark ++ scatter (scan (front ++ back)).events := by
  by_cases hfront : front.toList = []
  -- a comment at the start is a reply of its own before the other one
  · obtain rfl : front = "" := String.toList_inj.mp hfront
    obtain ⟨hcomment, hnothing⟩ := scan_commentText hend hbody
    rw [String.empty_append] at hok
    have hlone : terminator ∉ (commentText body).toList := by
      rw [toList_commentText]
      exact terminator_notMem_writtenComment hbody
    simpa [hnothing] using scan_append hlone hcomment hok
  · have hplain : payload (front ++ back) = payload front ++ beforeTerminator back.toList :=
      payload_append_of_ne_nil back hfront hterminator
    have hwhole := inText_of_scan_ok hok
    rw [scan, hplain, Scanner.feed_append] at hok
    obtain ⟨written, text, hmode, hdecode⟩ := hplace.exists_decode hok
    have hresumed : (Scanner.feed {} (payload (front ++ commentText body ++ back))).InText []
        (scatter (scan (front ++ back)).events) := by
      rw [payload_commented back hfront hterminator hbody, Scanner.feed_append,
        Scanner.feed_append]
      rw [hplain, Scanner.feed_append] at hwhole
      -- the scanner without the comment reads to the end, and so does the one that goes on like it
      rcases (Scanner.resumes_feed_comment hend hmode hdecode).feed
        (beforeTerminator back.toList) with hgoes | ⟨error, herror⟩
      · exact hgoes.inText hwhole
      · obtain ⟨-, _, _, hfailed, -⟩ := (Scanner.finish_result_eq_ok_iff _).mp hok
        simp [herror] at hfailed
    obtain ⟨hresult, hevents⟩ := hresumed.finish hresumed.depth_eq_zero
    exact ⟨hresult, [], hevents⟩

end Markup

/-- **Comments are ignored.** A comment may be put into a sound reply at any place before the
terminator where the reply is in character data, whatever the body of the comment, as long as it
holds neither the mark that ends a comment nor a terminator. The markup is sound as before, and
assemblers of every family end in the same state as without the comment, one that keeps all texts it
is given included: the same records, fields and reports. -/
theorem comments_ignored (front back body : String) (hterminator : terminator ∉ front.toList)
    (hplace : InCharacterData front) (hok : (scan (front ++ back)).result = .ok ())
    (hend : ¬ commentEnd <:+: body.toList) (hbody : terminator ∉ body.toList) :
    (scan (front ++ commentText body ++ back)).result = .ok () ∧
    (∀ {β ρ : Type} (family : RecordFamily β ρ),
      (Assembler.new family).run family (scan (front ++ commentText body ++ back)).events =
        (Assembler.new family).run family (scan (front ++ back)).events ∧
      family.tryParse (front ++ commentText body ++ back) = family.tryParse (front ++ back) ∧
      family.parse (front ++ commentText body ++ back) = family.parse (front ++ back)) ∧
    AccountManager.tryParse (front ++ commentText body ++ back) =
      AccountManager.tryParse (front ++ back) ∧
    AccountManager.parse (front ++ commentText body ++ back) =
      AccountManager.parse (front ++ back) := by
  obtain ⟨hcommented, mark, hevents⟩ := scan_commented hterminator hplace hok hend hbody
  have hrun : ∀ {β ρ : Type} (family : RecordFamily β ρ),
      (Assembler.new family).run family (scan (front ++ commentText body ++ back)).events =
        (Assembler.new family).run family (scan (front ++ back)).events := by
    intro β ρ family
    -- only a byte-order mark may have become text, and no element is open at the start
    rw [← Assembler.run_scatter, hevents, Assembler.run_append, Assembler.run_letters,
      (Assembler.idle_new family).addText, Assembler.run_scatter]
  have hparse : ∀ {β ρ : Type} (family : RecordFamily β ρ) (origin : Origin),
      family.parseFor origin (front ++ commentText body ++ back) =
        family.parseFor origin (front ++ back) := by
    intro β ρ family origin
    simp only [RecordFamily.parseFor, Assembler.read, hcommented, hok, hrun]
  have htry : ∀ {β ρ : Type} (family : RecordFamily β ρ),
      family.tryParse (front ++ commentText body ++ back) = family.tryParse (front ++ back) := by
    intro β ρ family
    rw [family.tryParse_of_ok hcommented, family.tryParse_of_ok hok, hrun]
  refine ⟨hcommented, fun family => ⟨hrun family, htry family, hparse family .assembly⟩, ?_, ?_⟩
  · rw [AccountManager.tryParse, AccountManager.tryParse, htry]
  · simp only [AccountManager.parse, hparse]

/-- A comment in the middle of a body, right behind a reference: its own body begins like the end
of a comment, and ends in dashes. -/
theorem comments_ignored_dashes :
    let front := "<msg><seqno>1</seqno><body>a&lt;"
    let back := "b&gt;</body></msg>\x03-->"
    terminator ∉ front.toList ∧ InCharacterData front ∧
      (scan (front ++ back)).result = .ok () ∧
      (scan (front ++ commentText "->&-- <body>--" ++ back)).result = .ok () ∧
      Message.tryParse (front ++ commentText "->&-- <body>--" ++ back) =
        .ok [{ Message.empty with sequenceNumber := 1, body := "a<b>" }] := by
  intro front back
  have hterminator : terminator ∉ front.toList := by decide +kernel
  have hclosed : Reference.Closed "a&lt;".toList := by
    intro name hname
    have hsuffix : '&' :: name = "&lt;".toList := by
      simpa [List.suffix_cons_iff] using hname
    obtain rfl : name = "lt;".toList := (List.cons.inj hsuffix).2
    decide +kernel
  have hplace : InCharacterData front :=
    ⟨"a&lt;".toList.reverse, by decide +kernel, by simpa using hclosed⟩
  have hok : (scan (front ++ back)).result = .ok () := by decide +kernel
  obtain ⟨hresult, hsame, -⟩ := comments_ignored front back "->&-- <body>--" hterminator hplace hok
    (by decide +kernel) (by decide +kernel)
  have hplain : Message.tryParse (front ++ back) =
      .ok [{ Message.empty with sequenceNumber := 1, body := "a<b>" }] := by decide +kernel
  exact ⟨hterminator, hplace, hok, hresult, (hsame Message.family).2.1.trans hplain⟩

end DaemonReply
