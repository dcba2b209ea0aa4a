import DaemonReply.ForStd
import DaemonReply.Record.Assembler
import Mathlib.Data.List.DropRight

/-!
# Records as a function of all events

An assembler takes events one at a time. What it makes of a whole list can be said without its
state: the list is cut right behind every closing of the boundary, and each **piece** gives at
most one record, whose draft is made from the events between the first opening of the boundary in
the piece and the closing at its end. Every closing there is a field, and its text is that between
the latest opening and the first closing behind it (`leafText`).

Main statement: the two agree on every list of events, nested or not (`run_records_eq_batch`). So
a record depends on nothing outside its own piece.
-/

namespace DaemonReply

open Markup

/-! ### Pieces -/

/-- Cuts a list right behind every element of a class. -/
def splitAfter {α : Type} (ends : α → Bool) : List α → List (List α)
  | [] => []
  | a :: rest =>
    if ends a then [a] :: splitAfter ends rest
    else
      match splitAfter ends rest with
      | [] => [[a]]
      | piece :: more => (a :: piece) :: more

section SplitAfter

variable {α : Type} {ends : α → Bool}

/-- A list in which nothing ends is one piece. -/
theorem splitAfter_of_forall {l : List α} (hne : l ≠ []) (h : ∀ a ∈ l, ends a = false) :
    splitAfter ends l = [l] := by
  induction l with
  | nil => exact absurd rfl hne
  | cons a rest ih =>
    have ha : ends a = false := h a (by simp)
    rcases rest with _ | ⟨b, rest⟩
    · simp [splitAfter, ha]
    · rw [splitAfter, ih (by simp) fun c hc => h c (List.mem_cons_of_mem a hc)]
      simp [ha]

/-- A first piece and the pieces of the rest. -/
theorem splitAfter_append_cons {front : List α} {a : α} (back : List α)
    (hfront : ∀ b ∈ front, ends b = false) (ha : ends a = true) :
    splitAfter ends (front ++ a :: back) = (front ++ [a]) :: splitAfter ends back := by
  induction front with
  | nil => simp [splitAfter, ha]
  | cons b rest ih =>
    have hb : ends b = false := hfront b (by simp)
    rw [List.cons_append, splitAfter, ih fun c hc => hfront c (List.mem_cons_of_mem b hc)]
    simp [hb]

theorem splitAfter_ne_nil {l : List α} (h : l ≠ []) : splitAfter ends l ≠ [] := by
  cases l with
  | nil => exact absurd rfl h
  | cons a rest =>
    rw [splitAfter]
    split
    · simp
    · split <;> simp

/-- Behind an end a list falls into two, and so do its pieces. -/
theorem splitAfter_append_of_end (front : List α) {a : α} (back : List α) (ha : ends a = true) :
    splitAfter ends (front ++ a :: back) =
      splitAfter ends (front ++ [a]) ++ splitAfter ends back := by
  induction front with
  | nil => simp [splitAfter, ha]
  | cons b rest ih =>
    obtain ⟨piece, more, hpieces⟩ :=
      List.exists_cons_of_ne_nil (splitAfter_ne_nil (show rest ++ [a] ≠ [] by simp))
    rw [List.cons_append, List.cons_append, splitAfter, splitAfter, ih, hpieces]
    -- the first piece of the front is there either way, and only it can grow
    cases ends b <;> rfl

end SplitAfter

/-! ### The text of a leaf -/

namespace Markup.Event

/-- The text in events, all of it. -/
def gatherText : List Event → String
  | [] => ""
  | .text content :: rest => content ++ gatherText rest
  | _ :: rest => gatherText rest

theorem gatherText_append (front back : List Event) :
    gatherText (front ++ back) = gatherText front ++ gatherText back := by
  induction front with
  | nil => simp [gatherText]
  | cons event rest ih =>
    cases event <;> simp [gatherText, ih, String.append_assoc]

/-- The events behind the latest opening, or all of them if nothing opens. -/
def sinceOpening (events : List Event) : List Event :=
  events.rtakeWhile (!·.isOpen)

/-- The text of the field that closes behind events: what stands between the latest opening and
the first closing behind it, and nothing if there is no opening. -/
def leafText (events : List Event) : String :=
  if events.any isOpen then gatherText ((sinceOpening events).takeWhile (!·.isClose)) else ""

/-- Whether something has opened in events and nothing has closed since. -/
def leafOpen (events : List Event) : Bool :=
  events.any isOpen && (sinceOpening events).all (!·.isClose)

/-- An opening begins a new leaf. -/
theorem leafText_append_opened (events : List Event) (name : String)
    (attributes : List Attribute) : leafText (events ++ [.opened name attributes]) = "" := by
  have hsince : sinceOpening (events ++ [.opened name attributes]) = [] :=
    List.rtakeWhile_concat_neg _ _ _ (by simp)
  simp [leafText, hsince, gatherText]

theorem leafOpen_append_opened (events : List Event) (name : String)
    (attributes : List Attribute) : leafOpen (events ++ [.opened name attributes]) = true := by
  have hsince : sinceOpening (events ++ [.opened name attributes]) = [] :=
    List.rtakeWhile_concat_neg _ _ _ (by simp)
  simp [leafOpen, hsince]

/-- Text belongs to the leaf that is open. -/
theorem leafText_append_text (events : List Event) (content : String) :
    leafText (events ++ [.text content]) =
      if leafOpen events then leafText events ++ content else leafText events := by
  have hsince : sinceOpening (events ++ [.text content]) = sinceOpening events ++ [.text content] :=
    List.rtakeWhile_concat_pos _ _ _ (by simp)
  have hany : (events ++ [Event.text content]).any isOpen = events.any isOpen := by simp
  rw [leafText, leafText, leafOpen, hany, hsince, List.takeWhile_append]
  cases events.any isOpen with
  | false => simp
  | true =>
    by_cases hall : (sinceOpening events).all (!·.isClose) = true
    -- no closing yet, so the text found is all of it, and the new text comes behind
    · have hwhole : (sinceOpening events).takeWhile (!·.isClose) = sinceOpening events :=
        List.takeWhile_eq_self_iff.mpr (by simpa using hall)
      simp [hwhole, hall, gatherText_append, gatherText]
    -- a closing already ends the text, and what comes behind it does not count
    · have hshort : ((sinceOpening events).takeWhile (!·.isClose)).length ≠
          (sinceOpening events).length := by
        intro hlength
        have hwhole := (List.takeWhile_prefix (!·.isClose)
          (l := sinceOpening events)).eq_of_length hlength
        exact hall (by simpa using List.takeWhile_eq_self_iff.mp hwhole)
      simp [hshort, hall]

theorem leafOpen_append_text (events : List Event) (content : String) :
    leafOpen (events ++ [.text content]) = leafOpen events := by
  have hsince : sinceOpening (events ++ [.text content]) = sinceOpening events ++ [.text content] :=
    List.rtakeWhile_concat_pos _ _ _ (by simp)
  simp [leafOpen, hsince]

/-- A closing leaves the text of the leaf as it was. -/
theorem leafText_append_closed (events : List Event) (name : String) :
    leafText (events ++ [.closed name]) = leafText events := by
  have hsince : sinceOpening (events ++ [.closed name]) = sinceOpening events ++ [.closed name] :=
    List.rtakeWhile_concat_pos _ _ _ (by simp)
  have hany : (events ++ [Event.closed name]).any isOpen = events.any isOpen := by simp
  have hstop : (sinceOpening events ++ [Event.closed name]).takeWhile (!·.isClose) =
      (sinceOpening events).takeWhile (!·.isClose) := by
    rw [List.takeWhile_append]
    split
    · rename_i hlength
      have hwhole := (List.takeWhile_prefix (!·.isClose)
        (l := sinceOpening events)).eq_of_length hlength
      simp [hwhole]
    · rfl
  rw [leafText, leafText, hany, hsince, hstop]

theorem leafOpen_append_closed (events : List Event) (name : String) :
    leafOpen (events ++ [.closed name]) = false := by
  have hsince : sinceOpening (events ++ [.closed name]) = sinceOpening events ++ [.closed name] :=
    List.rtakeWhile_concat_pos _ _ _ (by simp)
  simp [leafOpen, hsince]

end Markup.Event

/-! ### The record of a piece -/

namespace RecordFamily

variable {β ρ : Type} (family : RecordFamily β ρ)

/-- Whether an event opens the boundary. -/
def opensRecord : Event → Bool
  | .opened name _ => family.isBoundary name
  | _ => false

/-- Whether an event closes the boundary. -/
def closesRecord : Event → Bool
  | .closed name => family.isBoundary name
  | _ => false

theorem exists_of_opensRecord {family : RecordFamily β ρ} {event : Event}
    (h : family.opensRecord event = true) :
    ∃ name attributes, event = .opened name attributes ∧ family.isBoundary name = true := by
  cases event with
  | opened name attributes => exact ⟨name, attributes, rfl, h⟩
  | text content => simp [opensRecord] at h
  | closed name => simp [opensRecord] at h

theorem exists_of_closesRecord {family : RecordFamily β ρ} {event : Event}
    (h : family.closesRecord event = true) :
    ∃ name, event = .closed name ∧ family.isBoundary name = true := by
  cases event with
  | opened name attributes => simp [closesRecord] at h
  | text content => simp [closesRecord] at h
  | closed name => exact ⟨name, rfl, h⟩

/-- What one event inside a record does to the draft, given the events of the record before it. -/
def enact (before : List Event) (draft : β) : Event → β
  | .opened name _ => family.enter draft name
  | .text _ => draft
  | .closed name => (family.assign draft name (Event.leafText before)).value

/-- The draft after further events of a record, in order. -/
def draftFrom (before : List Event) (draft : β) : List Event → β
  | [] => draft
  | event :: rest => draftFrom (before ++ [event]) (family.enact before draft event) rest

/-- The draft that the events inside a record make of the blank one. -/
def draftOf (portion : List Event) : β :=
  family.draftFrom [] family.blank portion

/-- The record of one piece: none unless the boundary closes at the end of the piece and opens
before, and then what the draft of the events between amounts to. -/
def recordOf (piece : List Event) : Option ρ :=
  if piece.getLast?.any family.closesRecord then
    match piece.dropLast.dropWhile (!family.opensRecord ·) with
    | [] => none
    | _ :: portion => family.complete (family.draftOf portion)
  else none

/-- The records of all events at once: those of the pieces, in order. -/
def batch (events : List Event) : List ρ :=
  (splitAfter family.closesRecord events).filterMap family.recordOf

theorem draftFrom_append_singleton (before : List Event) (draft : β) (events : List Event)
    (event : Event) :
    family.draftFrom before draft (events ++ [event]) =
      family.enact (before ++ events) (family.draftFrom before draft events) event := by
  induction events generalizing before draft with
  | nil => simp [draftFrom]
  | cons first rest ih =>
    rw [List.cons_append, draftFrom, ih, draftFrom, List.append_assoc, List.singleton_append]

theorem draftOf_append_singleton (portion : List Event) (event : Event) :
    family.draftOf (portion ++ [event]) =
      family.enact portion (family.draftOf portion) event := by
  rw [draftOf, draftFrom_append_singleton, List.nil_append, draftOf]

variable {family}

/-- A piece in which the boundary never opens has no record. -/
theorem recordOf_of_no_opening {front : List Event} {close : Event}
    (hfront : ∀ event ∈ front, family.opensRecord event = false) :
    family.recordOf (front ++ [close]) = none := by
  have hnone : front.dropWhile (!family.opensRecord ·) = [] := by
    simpa [List.dropWhile_eq_nil_iff] using hfront
  simp [recordOf, hnone]

/-- The record of a piece lies between its first opening of the boundary and its end. -/
theorem recordOf_append {gap portion : List Event} {opening close : Event}
    (hgap : ∀ event ∈ gap, family.opensRecord event = false)
    (hopening : family.opensRecord opening = true) (hclose : family.closesRecord close = true) :
    family.recordOf (gap ++ opening :: portion ++ [close]) =
      family.complete (family.draftOf portion) := by
  have hfound : (gap ++ opening :: portion).dropWhile (!family.opensRecord ·) =
      opening :: portion := by
    rw [List.dropWhile_append_of_pos (by simpa using hgap), List.dropWhile_cons]
    simp [hopening]
  rw [recordOf, List.getLast?_concat, List.dropLast_concat, hfound]
  simp [hclose]

/-- A piece that the boundary does not close has no record. -/
theorem recordOf_of_no_closing {piece : List Event}
    (hpiece : ∀ event ∈ piece, family.closesRecord event = false) :
    family.recordOf piece = none := by
  cases hlast : piece.getLast? with
  | none => simp [recordOf, hlast]
  | some last => simp [recordOf, hlast, hpiece last (List.mem_of_getLast? hlast)]

end RecordFamily

/-! ### Steps of the assembler -/

namespace Assembler

variable {β ρ : Type} {family : RecordFamily β ρ} {a : Assembler β ρ}

/-- Only the closing of the boundary adds a record. -/
theorem step_records {event : Event} (h : family.closesRecord event = false) :
    (a.step family event).records = a.records := by
  cases event with
  | opened name attributes =>
    simp only [step, openElement]
    split
    · rfl
    · split <;> rfl
  | text content =>
    simp only [step, addText]
    split <;> rfl
  | closed name =>
    have hname : family.isBoundary name = false := h
    simp only [step, closeElement, hname, endField, report]
    cases a.recordOpen <;> rfl

theorem run_records {events : List Event}
    (h : ∀ event ∈ events, family.closesRecord event = false) :
    (a.run family events).records = a.records := by
  induction events generalizing a with
  | nil => rfl
  | cons event rest ih =>
    rw [run_cons, ih fun e he => h e (List.mem_cons_of_mem event he),
      step_records (h event (by simp))]

/-- Outside a record only the opening of the boundary begins one, and no record is added. -/
theorem step_idle {event : Event} (hidle : a.recordOpen = false)
    (h : family.opensRecord event = false) :
    (a.step family event).recordOpen = false ∧ (a.step family event).records = a.records := by
  cases event with
  | opened name attributes =>
    have hname : family.isBoundary name = false := h
    simp [step, openElement, hidle, hname]
  | text content =>
    simp only [step, addText]
    split <;> exact ⟨hidle, rfl⟩
  | closed name =>
    simp only [step, closeElement, hidle, report]
    cases family.isBoundary name <;> simp [hidle]

theorem run_idle {events : List Event} (hidle : a.recordOpen = false)
    (h : ∀ event ∈ events, family.opensRecord event = false) :
    (a.run family events).recordOpen = false ∧ (a.run family events).records = a.records := by
  induction events generalizing a with
  | nil => exact ⟨hidle, rfl⟩
  | cons event rest ih =>
    obtain ⟨hopen, hrecords⟩ := step_idle hidle (h event (by simp))
    obtain ⟨hrest, hall⟩ := ih hopen fun e he => h e (List.mem_cons_of_mem event he)
    exact ⟨hrest, hall.trans hrecords⟩

/-- The opening of the boundary begins a record, with nothing in it. -/
theorem step_opening {event : Event} (hidle : a.recordOpen = false)
    (h : family.opensRecord event = true) :
    a.step family event =
      { a with draft := family.blank, text := "", leafOpen := false, recordOpen := true } := by
  obtain ⟨name, attributes, rfl, hname⟩ := RecordFamily.exists_of_opensRecord h
  simp only [step, openElement, hidle, hname, Bool.false_eq_true, if_false, if_true]

/-- The closing of the boundary ends the record and keeps what its draft amounts to. -/
theorem step_closing {event : Event} (hopen : a.recordOpen = true)
    (h : family.closesRecord event = true) :
    (a.step family event).recordOpen = false ∧
      (a.step family event).records.toList =
        a.records.toList ++ (family.complete a.draft).toList := by
  obtain ⟨name, rfl, hname⟩ := RecordFamily.exists_of_closesRecord h
  simp only [step, closeElement, hname, hopen, endRecord, if_true]
  rcases family.complete a.draft with _ | record
  · simp [report]
  · simp

/-- The state inside a record is what the events of the record so far say. -/
structure Drafting (family : RecordFamily β ρ) (portion : List Event) (a : Assembler β ρ) :
    Prop where
  recordOpen : a.recordOpen = true
  draft : a.draft = family.draftOf portion
  text : a.text = Event.leafText portion
  leafOpen : a.leafOpen = Event.leafOpen portion

theorem drafting_opening {opening : Event} (hidle : a.recordOpen = false)
    (hopening : family.opensRecord opening = true) :
    Drafting family [] (a.step family opening) := by
  rw [step_opening hidle hopening]
  exact ⟨rfl, rfl, rfl, rfl⟩

/-- Every event but the closing of the boundary keeps the record going. -/
theorem Drafting.step {portion : List Event} {event : Event} (h : Drafting family portion a)
    (hevent : family.closesRecord event = false) :
    Drafting family (portion ++ [event]) (a.step family event) := by
  obtain ⟨hopen, hdraft, htext, hleaf⟩ := h
  cases event with
  | opened name attributes =>
    simp only [Assembler.step, openElement, hopen]
    refine ⟨rfl, ?_, ?_, ?_⟩
    · simp [RecordFamily.draftOf_append_singleton, RecordFamily.enact, hdraft]
    · simp [Event.leafText_append_opened]
    · simp [Event.leafOpen_append_opened]
  | text content =>
    have hkept : family.draftOf (portion ++ [.text content]) = a.draft := by
      rw [RecordFamily.draftOf_append_singleton, RecordFamily.enact, hdraft]
    simp only [Assembler.step, addText]
    split
    · rename_i hcollects
      refine ⟨hopen, hkept.symm, ?_, ?_⟩
      · rw [Event.leafText_append_text, ← hleaf, if_pos hcollects, htext]
      · rw [Event.leafOpen_append_text, ← hleaf]
    · rename_i hcollects
      refine ⟨hopen, hkept.symm, ?_, ?_⟩
      · rw [Event.leafText_append_text, ← hleaf, if_neg hcollects, htext]
      · rw [Event.leafOpen_append_text, ← hleaf]
  | closed name =>
    have hname : family.isBoundary name = false := hevent
    simp only [Assembler.step, closeElement, hopen, hname, endField]
    refine ⟨rfl, ?_, ?_, ?_⟩
    · simp [RecordFamily.draftOf_append_singleton, RecordFamily.enact, hdraft, htext]
    · simpa [Event.leafText_append_closed] using htext
    · simp [Event.leafOpen_append_closed]

theorem Drafting.run {portion events : List Event} (h : Drafting family portion a)
    (hevents : ∀ event ∈ events, family.closesRecord event = false) :
    Drafting family (portion ++ events) (a.run family events) := by
  induction events generalizing a portion with
  | nil => simpa using h
  | cons event rest ih =>
    have hstep := h.step (hevents event (by simp))
    simpa using ih hstep fun e he => hevents e (List.mem_cons_of_mem event he)

/-! ### Runs of the assembler -/

/-- A piece that the boundary closes gives its record, and leaves no record open. -/
theorem run_piece {front : List Event} {close : Event} (hidle : a.recordOpen = false)
    (hfront : ∀ event ∈ front, family.closesRecord event = false)
    (hclose : family.closesRecord close = true) :
    (a.run family (front ++ [close])).recordOpen = false ∧
      (a.run family (front ++ [close])).records.toList =
        a.records.toList ++ (family.recordOf (front ++ [close])).toList := by
  rcases List.exists_first family.opensRecord front with
    hnone | ⟨gap, opening, portion, rfl, hgap, hopening⟩
  -- no record ever begins: the closing is a stray
  · have hstray : family.opensRecord close = false := by
      cases close <;> simp_all [RecordFamily.opensRecord, RecordFamily.closesRecord]
    have hall : ∀ event ∈ front ++ [close], family.opensRecord event = false := by
      intro event hevent
      rcases List.mem_append.mp hevent with hevent | hevent
      · exact hnone event hevent
      · rw [List.mem_singleton.mp hevent]
        exact hstray
    obtain ⟨hopen, hrecords⟩ := run_idle hidle hall
    exact ⟨hopen, by rw [hrecords, RecordFamily.recordOf_of_no_opening hnone]; simp⟩
  · obtain ⟨hgapOpen, hgapRecords⟩ := run_idle hidle hgap
    have hbegun := drafting_opening hgapOpen hopening
    have hportion : ∀ event ∈ portion, family.closesRecord event = false := fun event hevent =>
      hfront event (by simp [hevent])
    have hdrafted := hbegun.run hportion
    have hend := step_closing hdrafted.recordOpen hclose
    -- until the closing nothing has been added to the records
    rw [hdrafted.draft, List.nil_append, run_records hportion,
      step_records (hfront opening (by simp)), hgapRecords] at hend
    rw [RecordFamily.recordOf_append hgap hopening hclose, run_append, run_append, run_cons,
      run_cons, run_nil]
    exact hend

/-- From a state outside any record a run adds the records of the batch. -/
theorem run_records_of_idle (events : List Event) (hidle : a.recordOpen = false) :
    (a.run family events).records.toList = a.records.toList ++ family.batch events := by
  induction hlength : events.length using Nat.strong_induction_on generalizing a events with
  | _ n ih =>
    rcases List.exists_first family.closesRecord events with
      hnone | ⟨front, close, back, rfl, hfront, hclose⟩
    -- no boundary closes any more: the rest is one piece, without a record
    · have hbatch : family.batch events = [] := by
        rcases events with _ | ⟨event, rest⟩
        · rfl
        · rw [RecordFamily.batch, splitAfter_of_forall (by simp) hnone]
          simp [RecordFamily.recordOf_of_no_closing hnone]
      rw [run_records hnone, hbatch, List.append_nil]
    -- the first piece gives its record, and the rest is run from outside a record again
    · obtain ⟨hopen, hrecords⟩ := run_piece hidle hfront hclose
      have hback := ih back.length (by simp [← hlength]; omega) back hopen rfl
      rw [show front ++ close :: back = (front ++ [close]) ++ back by simp, run_append, hback,
        hrecords, RecordFamily.batch, RecordFamily.batch, List.append_assoc, List.append_assoc,
        List.singleton_append, splitAfter_append_cons back hfront hclose, List.filterMap_cons]
      cases family.recordOf (front ++ [close]) <;> simp

/-- **An assembler computes the batch.** Whatever the events and whether they nest or not, the
records kept are those of the pieces. In particular what stands before the closing of a boundary
does not matter to the records behind it, nor the other way round. -/
theorem run_records_eq_batch (family : RecordFamily β ρ) (events : List Event) :
    ((new family).run family events).records.toList = family.batch events ∧
      ∀ front back : List Event, ∀ close : Event, events = front ++ close :: back →
        family.closesRecord close = true →
          ((new family).run family events).records.toList =
            ((new family).run family (front ++ [close])).records.toList ++
              ((new family).run family back).records.toList := by
  have hbatch : ∀ events : List Event,
      ((new family).run family events).records.toList = family.batch events := fun events => by
    simpa [new] using run_records_of_idle (a := new family) events rfl
  refine ⟨hbatch events, ?_⟩
  rintro front back close rfl hclose
  rw [hbatch, hbatch, hbatch, RecordFamily.batch, splitAfter_append_of_end front back hclose,
    List.filterMap_append, RecordFamily.batch, RecordFamily.batch]

end Assembler

end DaemonReply
