import DaemonReply.Proofs.UnknownMarkup

/-!
# Letter case of names

The names of boundaries, fields and containers are matched in two ways: by comparing with one tag,
and by looking up in a table, first as written and then in lower case. To each of the four families
names that differ only in letter case mean the same (`RecordFamily.ByTable.isCaseBlind`), so **two
assemblers that are given the same events up to letter case are in the same state all the way**
(`Assembler.SameState.run`). What they report may differ, since reports quote names as written.

Main statement: all four families ignore letter case (`families_ignore_case`).
-/

namespace DaemonReply

open Markup Value

/-! ### Events up to letter case -/

/-- Two names that differ in nothing but the case of ASCII letters. -/
def SameLetters (name name' : String) : Prop :=
  name.toList.map Char.toLower = name'.toList.map Char.toLower

instance (name name' : String) : Decidable (SameLetters name name') :=
  inferInstanceAs (Decidable (_ = _))

/-- Two events of which at most the letter case of the names differs. -/
inductive Markup.Event.SameUpToCase : Event → Event → Prop
  | opened {name name' : String} (hname : SameLetters name name')
      (attributes : List Attribute) :
      SameUpToCase (.opened name attributes) (.opened name' attributes)
  | text (content : String) : SameUpToCase (.text content) (.text content)
  | closed {name name' : String} (hname : SameLetters name name') :
      SameUpToCase (.closed name) (.closed name')

theorem foldCase_eq_of_sameTag {name name' : String} (h : sameTag name name' = true) :
    foldCase name = foldCase name' := by
  simpa [sameTag] using h

/-- Two names are the same tag if and only if they have the same letters. -/
theorem sameTag_iff_sameLetters {name name' : String} :
    sameTag name name' = true ↔ SameLetters name name' := by
  simp [sameTag, foldCase, SameLetters, ← String.toList_inj]

namespace RecordFamily

variable {β ρ φ : Type} {family : RecordFamily β ρ} {table : FieldTable φ}
  {set : β → φ → String → String → Stored β}

/-- Names that differ only in letter case mean the same to a family. -/
structure IsCaseBlind (family : RecordFamily β ρ) : Prop where
  enter_congr : ∀ {name name' : String}, sameTag name name' = true → ∀ draft,
    family.enter draft name = family.enter draft name'
  assign_congr : ∀ {name name' : String}, sameTag name name' = true → ∀ draft text,
    (family.assign draft name text).value = (family.assign draft name' text).value

/-- **A family that reads its fields by a table** in lower case does not see letter case. -/
theorem ByTable.isCaseBlind (h : family.ByTable table set) : family.IsCaseBlind where
  enter_congr hname draft := by
    rw [← h.enter_foldCase, foldCase_eq_of_sameTag hname, h.enter_foldCase]
  assign_congr {name name'} hname draft text := by
    have hfind : table.find? name = table.find? name' := by
      rw [FieldTable.find?_eq_get?_foldCase h.lower, foldCase_eq_of_sameTag hname,
        FieldTable.find?_eq_get?_foldCase h.lower]
    rw [h.assign_eq, h.assign_eq, hfind]
    cases table.find? name' with
    | none => rfl
    | some field => exact h.set_congr draft field name name' text

end RecordFamily

/-! ### Assemblers in the same state -/

namespace Assembler

variable {β ρ : Type} {family : RecordFamily β ρ} {a a' : Assembler β ρ} {name name' : String}
  {event event' : Event} {events events' : List Event}

/-- Two assemblers in the same state but for what they have reported. -/
structure SameState (a a' : Assembler β ρ) : Prop extends SameRecords a a' where
  text_eq : a.text = a'.text
  leafOpen_eq : a.leafOpen = a'.leafOpen

theorem SameState.refl (a : Assembler β ρ) : a.SameState a :=
  ⟨⟨rfl, rfl, rfl⟩, rfl, rfl⟩

theorem SameState.opened (hblind : family.IsCaseBlind) (h : a.SameState a')
    (hname : sameTag name name' = true) :
    (a.openElement family name).SameState (a'.openElement family name') := by
  obtain ⟨⟨hdraft, hopen, hrecords⟩, -, -⟩ := h
  simp only [openElement, hopen, hdraft, family.isBoundary_congr hname, hblind.enter_congr hname]
  split
  · exact ⟨⟨rfl, rfl, hrecords⟩, rfl, rfl⟩
  · split <;> exact ⟨⟨rfl, rfl, hrecords⟩, rfl, rfl⟩

theorem SameState.addText (h : a.SameState a') (content : String) :
    (a.addText content).SameState (a'.addText content) := by
  obtain ⟨⟨hdraft, hopen, hrecords⟩, htext, hleaf⟩ := h
  simp only [Assembler.addText, hleaf]
  split
  · exact ⟨⟨hdraft, hopen, hrecords⟩, congrArg (· ++ content) htext, rfl⟩
  · exact ⟨⟨hdraft, hopen, hrecords⟩, htext, hleaf⟩

theorem SameState.closed (hblind : family.IsCaseBlind) (h : a.SameState a')
    (hname : sameTag name name' = true) :
    (a.closeElement family name).SameState (a'.closeElement family name') := by
  have htexts : (a.closeElement family name).text = (a'.closeElement family name').text := by
    simpa using h.text_eq
  refine ⟨?_, htexts, rfl⟩
  have hbefore := h.toSameRecords
  have hboundary := family.isBoundary_congr hname
  cases hopen : a.recordOpen with
  | false =>
    exact hbefore.both (sameRecords_closeElement_of_idle hopen name)
      (sameRecords_closeElement_of_idle (h.recordOpen_eq ▸ hopen) name')
  | true =>
    have hopen' : a'.recordOpen = true := h.recordOpen_eq ▸ hopen
    cases hname' : family.isBoundary name' with
    -- both records end with the same draft
    | true =>
      simp only [closeElement, hboundary, hname', hopen, hopen', endRecord, h.draft_eq, report,
        if_true]
      split
      · exact ⟨rfl, rfl, by simp only [h.records_eq]⟩
      · exact ⟨rfl, rfl, h.records_eq⟩
    | false =>
      simp only [closeElement, hboundary, hname', hopen, hopen', endField, h.draft_eq, h.text_eq]
      exact ⟨hblind.assign_congr hname _ _, rfl, h.records_eq⟩

/-- **One event** up to letter case keeps two assemblers in the same state. -/
theorem SameState.step (hblind : family.IsCaseBlind) (h : a.SameState a')
    (hevent : event.SameUpToCase event') :
    (a.step family event).SameState (a'.step family event') := by
  cases hevent with
  | opened hname attributes => exact h.opened hblind (sameTag_iff_sameLetters.mpr hname)
  | text content => exact h.addText content
  | closed hname => exact h.closed hblind (sameTag_iff_sameLetters.mpr hname)

theorem SameState.run (hblind : family.IsCaseBlind) (h : a.SameState a')
    (hevents : List.Forall₂ Event.SameUpToCase events events') :
    (a.run family events).SameState (a'.run family events') := by
  induction hevents generalizing a a' with
  | nil => exact h
  | cons hevent _ ih => exact ih (h.step hblind hevent)

end Assembler

/-! ### The families -/

/-- **Letter case does not matter.** After any number of events a new assembler has the same draft,
the same records, the same text and the same two flags as one that is given the events with names
in other letter case, each name for itself. -/
def RecordFamily.IgnoresCase {β ρ : Type} (family : RecordFamily β ρ) : Prop :=
  ∀ events events' : List Event, List.Forall₂ Event.SameUpToCase events events' → ∀ n,
    ((Assembler.new family).run family (events.take n)).SameState
      ((Assembler.new family).run family (events'.take n))

theorem RecordFamily.IsCaseBlind.ignoresCase {β ρ : Type} {family : RecordFamily β ρ}
    (h : family.IsCaseBlind) : family.IgnoresCase := fun _ _ hevents n =>
  (Assembler.SameState.refl _).run h (List.forall₂_take n hevents)

/-- **All families ignore letter case.** -/
theorem families_ignore_case :
    Message.family.IgnoresCase ∧ AppVersion.family.IgnoresCase ∧ Transfer.family.IgnoresCase ∧
      AccountManager.family.IgnoresCase :=
  ⟨Message.byTable.isCaseBlind.ignoresCase, AppVersion.byTable.isCaseBlind.ignoresCase,
    Transfer.byTable.isCaseBlind.ignoresCase, AccountManager.byTable.isCaseBlind.ignoresCase⟩

/-- A running transfer in which no two names are written alike. -/
theorem families_ignore_case_sample :
    let written : List Event := [.opened "File_Transfer" [], .opened "NAME" [], .text "f",
      .closed "name", .opened "FILE_xfer" [], .closed "file_XFER", .opened "Project_URL" [],
      .text "u", .closed "project_URL", .closed "FILE_TRANSFER"]
    ((Assembler.new Transfer.family).run Transfer.family written).records =
      #[{ ({} : Transfer) with name := "f", projectUrl := "u", active := true }] := by
  intro written
  let lowered : List Event := [.opened "file_transfer" [], .opened "name" [], .text "f",
    .closed "name", .opened "file_xfer" [], .closed "file_xfer", .opened "project_url" [],
    .text "u", .closed "project_url", .closed "file_transfer"]
  have hcase : List.Forall₂ Event.SameUpToCase written lowered := by
    refine .cons (.opened ?_ []) (.cons (.opened ?_ []) (.cons (.text "f") (.cons (.closed ?_)
      (.cons (.opened ?_ []) (.cons (.closed ?_) (.cons (.opened ?_ []) (.cons (.text "u")
        (.cons (.closed ?_) (.cons (.closed ?_) .nil)))))))))
    all_goals decide
  have hlowered : ((Assembler.new Transfer.family).run Transfer.family lowered).records =
      #[{ ({} : Transfer) with name := "f", projectUrl := "u", active := true }] := by
    decide +kernel
  obtain ⟨-, -, htransfers, -⟩ := families_ignore_case
  exact (htransfers written lowered hcase written.length).records_eq.trans hlowered

end DaemonReply
