import DaemonReply.Proofs.Actions
import DaemonReply.Proofs.Payloads
import Mathlib.Data.List.DropRight

/-!
# Scanning as the data arrive

A scan of what has arrived of a reply already says something about the whole. Whatever the mode in
which the arrived part breaks off, what arrives later is read from there, so **an opening or a
closing once delivered stays**: only the text behind the last of them was cut short by the end of
what had arrived, and may come otherwise (`Event.throughLastTag`).

A fault is final if a character has shown it, since the scanner then reads no further
(`scan_append_of_failed`). The faults of complete tags are all of this kind (`TagFault`); a broken
reference in text need not be, and markup under way never is.

Main statement: `scan_online`.
-/

namespace DaemonReply.Markup

open Event

/-! ### Events up to a tag -/

namespace Event

/-- The events up to the last opening or closing. -/
def throughLastTag (events : List Event) : List Event :=
  events.rdropWhile (·.name?.isNone)

/-- Text behind the last opening or closing does not count. -/
theorem throughLastTag_append_textOnly (events : List Event) {added : List Event}
    (h : TextOnly added) : throughLastTag (events ++ added) = throughLastTag events := by
  have htext : ∀ event ∈ added.reverse, event.name?.isNone = true := fun event hevent => by
    simp [h event (List.mem_reverse.mp hevent)]
  simp only [throughLastTag, List.rdropWhile, List.reverse_append]
  rw [List.dropWhile_append_of_pos htext]

theorem throughLastTag_prefix (events : List Event) : throughLastTag events <+: events :=
  List.rdropWhile_prefix _ events

end Event

/-- What a scan has delivered up to the last opening or closing, it has delivered at the end of the
payload. -/
theorem throughLastTag_scan_prefix_feed (reply : String) :
    throughLastTag (scan reply).events <+: (Scanner.feed {} (payload reply)).delivered.toList := by
  obtain ⟨added, hadded, htext⟩ := (Scanner.feed {} (payload reply)).exists_added_finish
  rw [scan, hadded, throughLastTag_append_textOnly _ htext]
  exact throughLastTag_prefix _

/-! ### Final faults -/

/-- The faults of complete tags: an end tag that does not name the innermost open element, and a
start tag whose attributes cannot be read. A broken reference is one of them if it stands in a
start tag, between the `>` and the `<` before it, and not if it stands in text. -/
inductive TagFault (reply : String) : MarkupError → Prop
  | unmatchedEndTag (name : String) : TagFault reply (.unmatchedEndTag name)
  | mismatchedEndTag (expected found : String) : TagFault reply (.mismatchedEndTag expected found)
  | badAttribute (cause : AttributeError) : TagFault reply (.badAttribute cause)
  | badValue {front written : List Char} {cause : ReferenceError}
      (hmark : front ++ ['>'] <+: payload reply)
      (hmode : (Scanner.feed {} front).mode = .startTag written none)
      (hread : StartTag.read written.reverse = .error (.badReference cause)) :
      TagFault reply (.badReference cause)

namespace Scanner

variable {s : Scanner}

/-- A fault is found by the end of input only in text, where it is a reference, and in markup
under way. -/
theorem failed_of_finish_error {cause : MarkupError} {position : Nat}
    (hresult : s.finish.result = .error (.malformed cause position))
    (hreference : ∀ reference, cause ≠ .badReference reference)
    (hpending : ∀ back, pendingFault s.mode ≠ some (cause, back)) :
    ∃ error, s.mode = .failed error := by
  cases hmode : s.mode with
  | failed error => exact ⟨error, rfl⟩
  | text written =>
    cases hdecode : Reference.decode written.reverse with
    | ok content =>
      have hclose : s.close.mode = .text written := by
        simp only [close, hmode, endText, hdecode, deliverText, id]
        split <;> exact hmode
      simp only [finish, hclose] at hresult
      split at hresult <;> simp at hresult
    | error reference =>
      have hclose : s.close.mode = .failed (.malformed (.badReference reference) s.offset) := by
        simp [close, hmode, endText, hdecode, fail]
      simp only [finish, hclose, Except.error.injEq, ScanError.malformed.injEq] at hresult
      exact absurd hresult.1.symm (hreference reference)
  | _ =>
    simp only [finish, close, hmode, pendingFault, fail, Except.error.injEq,
      ScanError.malformed.injEq] at hresult
    simp [hmode, pendingFault, hresult.1] at hpending

/-- The `>` behind a start tag that cannot be read shows a fault. -/
theorem exists_failed_step_of_read {written : List Char} {cause : MarkupError}
    (hmode : s.mode = .startTag written none)
    (hread : StartTag.read written.reverse = .error cause) :
    ∃ error, (s.step '>').mode = .failed error := by
  simp only [step, hmode, stepStartTag, and_self, if_true, endStartTag, hread]
  exact ⟨_, rfl⟩

/-- A fault stays for every longer text. -/
theorem exists_failed_feed {front text : List Char} (h : front <+: text)
    (hfailed : ∃ error, (s.feed front).mode = .failed error) :
    ∃ error, (s.feed text).mode = .failed error := by
  obtain ⟨back, rfl⟩ := h
  obtain ⟨error, herror⟩ := hfailed
  exact ⟨error, by rw [feed_append, feed_of_failed herror, herror]⟩

end Scanner

namespace TagFault

variable {reply : String} {cause : MarkupError} {position : Nat}

/-- A complete tag is not under way. -/
theorem pendingFault_ne (h : TagFault reply cause) (mode : Mode) (back : Nat) :
    Scanner.pendingFault mode ≠ some (cause, back) := by
  cases h <;> cases mode <;> simp [Scanner.pendingFault]

/-- **The fault of a complete tag is shown by a character**, and not by the end of input. -/
theorem exists_failed (h : TagFault reply cause)
    (hresult : (scan reply).result = .error (.malformed cause position)) :
    ∃ error, (Scanner.feed {} (payload reply)).mode = .failed error := by
  have hpending := h.pendingFault_ne (Scanner.feed {} (payload reply)).mode
  cases h with
  | badValue hmark hmode hread =>
    refine Scanner.exists_failed_feed hmark ?_
    rw [Scanner.feed_append]
    exact Scanner.exists_failed_step_of_read hmode hread
  | _ => exact Scanner.failed_of_finish_error hresult (by simp) hpending

end TagFault

/-! ### More data -/

theorem payload_prefix_append (arrived more : String) :
    payload arrived <+: payload (arrived ++ more) :=
  prefix_payload (by simp)

/-- What follows a fault is not read. -/
theorem scan_append_of_failed {arrived : String} (more : String) {error : ScanError}
    (h : (Scanner.feed {} (payload arrived)).mode = .failed error) :
    scan (arrived ++ more) = scan arrived := by
  obtain ⟨back, hback⟩ := payload_prefix_append arrived more
  rw [scan, ← hback, Scanner.feed_append, Scanner.feed_of_failed h, scan]

/-- **Scanning is online.** Of what has arrived of a reply, the scan delivers up to the last
opening or closing what the scan of the whole delivers first, whatever arrives later. If it fails
because of a complete tag, an end tag that closes nothing or not what is open, or attributes that
cannot be read, then the scan of the whole delivers the same events and fails in the same way at
the same place. -/
theorem scan_online (arrived more : String) :
    throughLastTag (scan arrived).events <+: (scan (arrived ++ more)).events ∧
      ∀ cause position, (scan arrived).result = .error (.malformed cause position) →
        TagFault arrived cause → scan (arrived ++ more) = scan arrived := by
  constructor
  · obtain ⟨back, hback⟩ := payload_prefix_append arrived more
    obtain ⟨added, hadded, -⟩ :=
      (Scanner.feed {} (payload (arrived ++ more))).exists_added_finish
    have hfed := (Scanner.feed {} (payload arrived)).delivered_prefix_feed back
    rw [← Scanner.feed_append, hback] at hfed
    rw [show (scan (arrived ++ more)).events = _ from hadded]
    exact ((throughLastTag_scan_prefix_feed arrived).trans hfed).trans (List.prefix_append _ added)
  · intro cause position hresult hfault
    obtain ⟨error, herror⟩ := hfault.exists_failed hresult
    exact scan_append_of_failed more herror

/-- A value with a reference to nothing: no end tags that arrive later mend it, and the opening
before it stays. -/
theorem scan_online_badValue :
    (scan "<a>1<b x='&oops;'>").result =
        .error (.malformed (.badReference (.unrecognized "oops" 1 5)) 18) ∧
      TagFault "<a>1<b x='&oops;'>" (.badReference (.unrecognized "oops" 1 5)) ∧
      [.opened "a" []] <+: (scan ("<a>1<b x='&oops;'>" ++ "</b></a>")).events ∧
      scan ("<a>1<b x='&oops;'>" ++ "</b></a>") = scan "<a>1<b x='&oops;'>" := by
  have hresult : (scan "<a>1<b x='&oops;'>").result =
      .error (.malformed (.badReference (.unrecognized "oops" 1 5)) 18) := rfl
  have hmark : "<a>1<b x='&oops;'".toList ++ ['>'] <+: payload "<a>1<b x='&oops;'>" := by decide
  have hfault : TagFault "<a>1<b x='&oops;'>" (.badReference (.unrecognized "oops" 1 5)) :=
    @TagFault.badValue _ _ "b x='&oops;'".toList.reverse _ hmark rfl rfl
  obtain ⟨hfirst, hfinal⟩ := scan_online "<a>1<b x='&oops;'>" "</b></a>"
  exact ⟨hresult, hfault, hfirst, hfinal _ _ hresult hfault⟩

/-- A reference in text that breaks off may still be completed. -/
example :
    (scan "<a>&l").result = .error (.malformed (.badReference (.unterminated 0 2)) 5) ∧
      (scan ("<a>&l" ++ "t;</a>")).result = .ok () := ⟨rfl, rfl⟩

end DaemonReply.Markup
