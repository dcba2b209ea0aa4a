import DaemonReply.Proofs.OpenElements
import DaemonReply.Proofs.Writers

/-!
# Unknown markup

Elements that a family of records does not know may stand almost anywhere in a reply, and around
almost anything, without a trace in the records. The exception is the inside of a field: there an
element takes the place of the leaf whose text is collected. So it has to be known which elements
have opened since the current record began and are still open (`RecordFamily.openInRecord`), and
none of them may be a field.

Unknown markup does leave a trace in the assembler, but only in what it collects for a leaf. That
is read when a field closes, and nothing is left of it once another element has opened. As long as
the elements that close before have no field's name, it is never read (`Assembler.Settled`), and
two assemblers that differ in it alone stay alike for the rest of the reply
(`Assembler.AlikeWithin.run`).

Main statement: all four families of records ignore unknown markup (`families_ignore_unknown`).
-/

namespace DaemonReply

open Markup Markup.Event Value

/-! ### Open elements of the current record -/

namespace Markup.Event

/-- What stands above an open element that does not close. -/
theorem exists_openAfter?_above {names outer left : List String} {name : String}
    {events : List Event} (hopen : Event.closed name ∉ events)
    (h : openAfter? (names ++ name :: outer) events = some left) :
    ∃ inner, openAfter? names events = some inner ∧ left = inner ++ name :: outer := by
  induction events generalizing names with
  | nil => exact ⟨names, rfl, by simpa using h.symm⟩
  | cons event rest ih =>
    have hrest : Event.closed name ∉ rest := fun hmem => hopen (List.mem_cons_of_mem event hmem)
    cases event with
    | opened other attributes => exact @ih (other :: names) hrest h
    | text content => exact ih hrest h
    | closed other =>
      obtain ⟨below, hbelow, hleft⟩ := exists_outer_of_openAfter?_closed h
      rcases names with _ | ⟨innermost, names⟩
      · obtain ⟨rfl, -⟩ := List.cons.inj hbelow
        exact absurd List.mem_cons_self hopen
      · obtain ⟨rfl, rfl⟩ := List.cons.inj hbelow
        rw [openAfter?_closed_self]
        exact ih hrest hleft

end Markup.Event

namespace RecordFamily

variable {β ρ : Type} (family : RecordFamily β ρ)

/-- The events of the record that is open behind events, if one is: those behind the first opening
of the boundary since the boundary has closed last. -/
def currentPortion (events : List Event) : Option (List Event) :=
  match (events.rtakeWhile (!family.closesRecord ·)).dropWhile (!family.opensRecord ·) with
  | [] => none
  | _ :: portion => some portion

/-- The names of the elements that have opened since the current record began and are still
open, the innermost first. -/
def openInRecord (events : List Event) : List String :=
  match family.currentPortion events with
  | none => []
  | some portion => (openAfter? [] portion).getD []

/-- A name whose closing does nothing to a draft. -/
def IsInert (name : String) : Prop :=
  ∀ draft text, (family.assign draft name text).value = draft

/-- A name that means nothing to a family. -/
structure IsForeign (name : String) : Prop where
  not_boundary : family.isBoundary name = false
  enter : ∀ draft, family.enter draft name = draft
  inert : family.IsInert name

end RecordFamily

namespace Assembler

variable {β ρ : Type} {family : RecordFamily β ρ} {a a' a'' : Assembler β ρ}
  {events : List Event} {names left : List String} {name : String}

theorem recordOpen_run_concat {front : List Event} {close : Event}
    (hclose : family.closesRecord close = true) :
    (a.run family (front ++ [close])).recordOpen = false := by
  obtain ⟨name, rfl, hname⟩ := RecordFamily.exists_of_closesRecord hclose
  simp [run_append, step, closeElement_recordOpen, hname]

/-- No record is open behind the last closing of the boundary. -/
theorem recordOpen_run_rdropWhile (family : RecordFamily β ρ) (events : List Event) :
    ((new family).run family
      (events.rdropWhile (!family.closesRecord ·))).recordOpen = false := by
  have hlast := List.rdropWhile_idempotent (!family.closesRecord ·) events
  generalize events.rdropWhile (!family.closesRecord ·) = front at hlast ⊢
  rcases List.eq_nil_or_concat' front with rfl | ⟨front, close, rfl⟩
  · rfl
  · refine recordOpen_run_concat ?_
    simpa using List.rdropWhile_eq_self_iff.mp hlast (by simp)

/-- **Where the current record began**, if a record is open. -/
theorem exists_currentPortion
    (hopen : ((new family).run family events).recordOpen = true) :
    ∃ before opening portion, events = before ++ opening :: portion ∧
      family.currentPortion events = some portion ∧ family.opensRecord opening = true ∧
      ∀ event ∈ portion, family.closesRecord event = false := by
  have hidle := recordOpen_run_rdropWhile family events
  have hsplit : events.rdropWhile (!family.closesRecord ·) ++
      events.rtakeWhile (!family.closesRecord ·) = events := List.rdropWhile_append_rtakeWhile
  have hback : ∀ event ∈ events.rtakeWhile (!family.closesRecord ·),
      family.closesRecord event = false := fun event hevent => by
    simpa using List.mem_rtakeWhile_imp hevent
  rw [← hsplit, run_append] at hopen
  rcases List.exists_first family.opensRecord (events.rtakeWhile (!family.closesRecord ·)) with
    hnone | ⟨gap, opening, portion, hportion, hgap, hopening⟩
  · rw [(run_idle hidle hnone).1] at hopen
    exact absurd hopen (by simp)
  · have hfound : (gap ++ opening :: portion).dropWhile (!family.opensRecord ·) =
        opening :: portion := by
      rw [List.dropWhile_append_of_pos (by simpa using hgap), List.dropWhile_cons]
      simp [hopening]
    refine ⟨events.rdropWhile (!family.closesRecord ·) ++ gap, opening, portion, ?_, ?_, hopening,
      fun event hevent => ?_⟩
    · rw [List.append_assoc, ← hportion, hsplit]
    · rw [RecordFamily.currentPortion, hportion, hfound]
    · exact hback event (by simp [hportion, hevent])

/-! ### Settled assemblers -/

/-- If a record is open, some open element is a boundary, and no element open inside of that is a
field. -/
def Settled (family : RecordFamily β ρ) (names : List String) (a : Assembler β ρ) : Prop :=
  a.recordOpen = true → ∃ inside boundary outside, names = inside ++ boundary :: outside ∧
    family.isBoundary boundary = true ∧ ∀ name ∈ inside, family.IsInert name

/-- **Where no field of the current record is open**, the assembler is settled. -/
theorem settled_run {front back : List Event} (hbalanced : Balanced (front ++ back))
    (hinert : ((new family).run family front).recordOpen = true →
      ∀ name ∈ family.openInRecord front, family.IsInert name)
    (hnames : openAfter? [] front = some names) :
    Settled family names ((new family).run family front) := by
  intro hopen
  obtain ⟨before, opening, portion, hfront, hcurrent, hopening, hportion⟩ :=
    exists_currentPortion hopen
  obtain ⟨boundary, attributes, rfl, hboundary⟩ := RecordFamily.exists_of_opensRecord hopening
  obtain ⟨outside, houtside⟩ := hbalanced.exists_openAfter?
    (show before <+: front ++ back by simp [hfront])
  have hunclosed : Event.closed boundary ∉ portion := fun hmem => by
    simpa [RecordFamily.closesRecord, hboundary] using hportion _ hmem
  rw [hfront, openAfter?_append, houtside, Option.bind_some, openAfter?_opened] at hnames
  obtain ⟨inside, hinside, rfl⟩ := @exists_openAfter?_above [] outside _ _ _ hunclosed hnames
  refine ⟨inside, boundary, outside, rfl, hboundary, fun name hname => hinert hopen name ?_⟩
  simpa [RecordFamily.openInRecord, hcurrent, hinside] using hname

/-- The innermost element of a settled assembler is inert, or the boundary, or no record is open. -/
theorem Settled.closed (h : Settled family (name :: names) a) (hopen : a.recordOpen = true)
    (hname : family.isBoundary name = false) :
    family.IsInert name ∧ Settled family names a := by
  obtain ⟨inside, boundary, outside, hsplit, hboundary, hinert⟩ := h hopen
  rcases inside with _ | ⟨innermost, inside⟩
  · obtain ⟨rfl, -⟩ := List.cons.inj hsplit
    simp [hname] at hboundary
  · obtain ⟨rfl, rfl⟩ := List.cons.inj hsplit
    have hinside : ∀ other ∈ inside, family.IsInert other := fun other hother =>
      hinert other (List.mem_cons_of_mem name hother)
    exact ⟨hinert name List.mem_cons_self,
      fun _ => ⟨inside, boundary, outside, rfl, hboundary, hinside⟩⟩

/-- Balanced events leave an assembler settled. -/
theorem Settled.run (h : Settled family names a) (hevents : Balanced events) :
    Settled family names (a.run family events) := by
  intro hopen
  refine h ?_
  by_contra hclosed
  have hidle := @recordOpen_run_of_balanced _ _ family _ _ (Bool.not_eq_true _ ▸ hclosed) hevents
  simp [hidle] at hopen

/-! ### Assemblers with the same records -/

/-- Two assemblers with the same records so far, that under way included. -/
structure SameRecords (a a' : Assembler β ρ) : Prop where
  draft_eq : a.draft = a'.draft
  recordOpen_eq : a.recordOpen = a'.recordOpen
  records_eq : a.records = a'.records

theorem SameRecords.trans (h : a.SameRecords a') (h' : a'.SameRecords a'') : a.SameRecords a'' :=
  ⟨h.draft_eq.trans h'.draft_eq, h.recordOpen_eq.trans h'.recordOpen_eq,
    h.records_eq.trans h'.records_eq⟩

/-- What makes no difference to either of two assemblers makes none between them. -/
theorem SameRecords.both {b b' : Assembler β ρ} (h : a.SameRecords a') (hb : a.SameRecords b)
    (hb' : a'.SameRecords b') : b.SameRecords b' :=
  ⟨hb.draft_eq ▸ h.draft_eq.trans hb'.draft_eq,
    hb.recordOpen_eq ▸ h.recordOpen_eq.trans hb'.recordOpen_eq,
    hb.records_eq ▸ h.records_eq.trans hb'.records_eq⟩

/-- Text makes no difference to records as yet. -/
theorem sameRecords_addText (a : Assembler β ρ) (content : String) :
    a.SameRecords (a.addText content) := by
  rw [addText]
  split <;> exact ⟨rfl, rfl, rfl⟩

/-- Outside a record a closing makes no difference to records. -/
theorem sameRecords_closeElement_of_idle (hidle : a.recordOpen = false) (name : String) :
    a.SameRecords (a.closeElement family name) := by
  simp only [closeElement, hidle, report, Bool.false_eq_true, if_false]
  split
  · exact ⟨rfl, rfl, rfl⟩
  · exact ⟨rfl, hidle, rfl⟩

/-- The closing of an inert name makes no difference to records. -/
theorem sameRecords_closeElement_of_isInert (hboundary : family.isBoundary name = false)
    (hinert : family.IsInert name) : a.SameRecords (a.closeElement family name) := by
  cases hopen : a.recordOpen with
  | false => exact sameRecords_closeElement_of_idle hopen name
  | true =>
    simp only [closeElement, hboundary, hopen, endField]
    exact ⟨(hinert a.draft a.text).symm, hopen, rfl⟩

/-- **An event with a foreign name** makes no difference to records. -/
theorem sameRecords_step {event : Event}
    (hforeign : ∀ name, event.name? = some name → family.IsForeign name) :
    a.SameRecords (a.step family event) := by
  cases event with
  | opened name attributes =>
    have hname := hforeign name rfl
    simp only [step, openElement, hname.not_boundary, hname.enter]
    split <;> exact ⟨rfl, rfl, rfl⟩
  | text content => exact sameRecords_addText a content
  | closed name =>
    have hname := hforeign name rfl
    exact sameRecords_closeElement_of_isInert hname.not_boundary hname.inert

theorem sameRecords_run
    (hforeign : ∀ event ∈ events, ∀ name, event.name? = some name → family.IsForeign name) :
    a.SameRecords (a.run family events) := by
  induction events generalizing a with
  | nil => exact ⟨rfl, rfl, rfl⟩
  | cons event rest ih =>
    have hstep : a.SameRecords (a.step family event) :=
      sameRecords_step (hforeign event List.mem_cons_self)
    exact hstep.trans (ih fun e he => hforeign e (List.mem_cons_of_mem event he))

/-- Two assemblers with the same records, between the same open elements, that will never tell by
the text of a field that they differ: either both collect the same, or they are settled. -/
structure AlikeWithin (family : RecordFamily β ρ) (names : List String) (a a' : Assembler β ρ) :
    Prop extends SameRecords a a' where
  leaf : (a.text = a'.text ∧ a.leafOpen = a'.leafOpen) ∨ Settled family names a

/-- Behind an opening both collect the same. -/
theorem AlikeWithin.opened (h : AlikeWithin family names a a') (name : String) :
    AlikeWithin family (name :: names) (a.openElement family name)
      (a'.openElement family name) := by
  obtain ⟨⟨hdraft, hopen, hrecords⟩, -⟩ := h
  simp only [openElement, hopen, hdraft]
  split
  · exact ⟨⟨rfl, rfl, hrecords⟩, .inl ⟨rfl, rfl⟩⟩
  · split <;> exact ⟨⟨rfl, rfl, hrecords⟩, .inl ⟨rfl, rfl⟩⟩

theorem AlikeWithin.addText (h : AlikeWithin family names a a') (content : String) :
    AlikeWithin family names (a.addText content) (a'.addText content) := by
  refine ⟨h.toSameRecords.both (sameRecords_addText a content) (sameRecords_addText a' content),
    ?_⟩
  rcases h.leaf with ⟨htext, hleaf⟩ | hsettled
  · left
    simp only [Assembler.addText, hleaf]
    split
    · exact ⟨congrArg (· ++ content) htext, rfl⟩
    · exact ⟨htext, hleaf⟩
  · right
    intro hopen
    rw [addText_recordOpen] at hopen
    exact hsettled hopen

/-- Behind a closing either both have collected the same, or no field was closed. -/
theorem AlikeWithin.closed (h : AlikeWithin family (name :: names) a a') :
    AlikeWithin family names (a.closeElement family name) (a'.closeElement family name) := by
  have hbefore := h.toSameRecords
  obtain ⟨⟨hdraft, hrecordOpen, hrecords⟩, hleaf⟩ := h
  have hclosed := closeElement_recordOpen family a name
  cases hopen : a.recordOpen with
  -- nothing is read outside a record
  | false =>
    refine ⟨hbefore.both (sameRecords_closeElement_of_idle hopen name)
      (sameRecords_closeElement_of_idle (hrecordOpen ▸ hopen) name), .inr fun hstill => ?_⟩
    simp [hclosed, hopen] at hstill
  | true =>
    cases hname : family.isBoundary name with
    -- the record ends, and its draft is the same
    | true =>
      have hsame : (a.closeElement family name).SameRecords (a'.closeElement family name) := by
        simp only [closeElement, hname, hopen, ← hrecordOpen, endRecord, hdraft, report, if_true]
        split
        · exact ⟨rfl, rfl, by simp only [hrecords]⟩
        · exact ⟨rfl, rfl, hrecords⟩
      refine ⟨hsame, .inr fun hstill => ?_⟩
      simp [hclosed, hname] at hstill
    | false =>
      rcases hleaf with ⟨htext, -⟩ | hsettled
      -- a field is read from the same text
      · simp only [closeElement, hname, hopen, ← hrecordOpen, endField, hdraft, htext]
        exact ⟨⟨rfl, rfl, hrecords⟩, .inl ⟨rfl, rfl⟩⟩
      -- what closes is no field
      · obtain ⟨hinert, houter⟩ := hsettled.closed hopen hname
        exact ⟨hbefore.both (sameRecords_closeElement_of_isInert hname hinert)
          (sameRecords_closeElement_of_isInert hname hinert), .inr fun _ => houter hopen⟩

/-- **Assemblers that are alike stay alike.** -/
theorem AlikeWithin.run (h : AlikeWithin family names a a')
    (hevents : openAfter? names events = some left) :
    AlikeWithin family left (a.run family events) (a'.run family events) := by
  induction events generalizing a a' names with
  | nil =>
    obtain rfl : names = left := by simpa using hevents
    exact h
  | cons event rest ih =>
    cases event with
    | opened name attributes => exact ih (h.opened name) hevents
    | text content => exact ih (h.addText content) hevents
    | closed name =>
      obtain ⟨outer, rfl, hrest⟩ := exists_outer_of_openAfter?_closed hevents
      exact ih h.closed hrest

/-! ### Foreign markup -/

/-- **Foreign events may be put in** where an assembler is settled. -/
theorem records_run_of_insert {inserted : List Event} (hsettled : Settled family names a)
    (hforeign : ∀ event ∈ inserted, ∀ name, event.name? = some name → family.IsForeign name)
    (hback : openAfter? names events = some left) :
    ((a.run family inserted).run family events).records = (a.run family events).records := by
  have halike : AlikeWithin family names a (a.run family inserted) :=
    ⟨sameRecords_run hforeign, .inr hsettled⟩
  exact (halike.run hback).records_eq.symm

/-- **A foreign element may be put around** balanced events where an assembler is settled. -/
theorem records_run_of_enclose {inner : List Event} (hsettled : Settled family names a)
    (hname : family.IsForeign name) (attributes : List Attribute) (hinner : Balanced inner)
    (hback : openAfter? names events = some left) :
    (a.run family (.opened name attributes :: (inner ++ .closed name :: events))).records =
      (a.run family (inner ++ events)).records := by
  have hopened : AlikeWithin family names a (a.step family (.opened name attributes)) :=
    ⟨sameRecords_step fun other hother => Option.some.inj hother ▸ hname, .inr hsettled⟩
  have hinside := hopened.run (hinner.openAfter? names)
  have hclosed : AlikeWithin family names (a.run family inner)
      (((a.step family (.opened name attributes)).run family inner).step family (.closed name)) :=
    ⟨hinside.toSameRecords.trans
      (sameRecords_step fun other hother => Option.some.inj hother ▸ hname),
      .inr (hsettled.run hinner)⟩
  rw [run_cons, run_append, run_cons, run_append]
  exact (hclosed.run hback).records_eq.symm

end Assembler

/-! ### Unknown names -/

/-- Whether a name is that of a field, up to letter case. -/
def FieldTable.HasName {φ : Type} (table : FieldTable φ) (name : String) : Prop :=
  ∃ entry ∈ table.entries, sameTag name entry.1 = true

/-- What is not the name of a field is not found. -/
theorem FieldTable.find?_eq_none {φ : Type} {table : FieldTable φ} (hlower : table.isLower = true)
    {name : String} (hname : ¬ table.HasName name) : table.find? name = none := by
  rw [Option.eq_none_iff_forall_ne_some]
  intro field hfield
  obtain ⟨key, hmem, hkey⟩ := (find?_eq_some_iff hlower).mp hfield
  exact hname ⟨(key, field), hmem, hkey⟩

namespace RecordFamily

variable {β ρ φ : Type} {family : RecordFamily β ρ} {table : FieldTable φ} {others : List String}

/-- A name that is neither that of the boundary, nor that of a field, nor one of some others. -/
structure IsUnknown (family : RecordFamily β ρ) (table : FieldTable φ) (others : List String)
    (name : String) : Prop where
  not_boundary : family.isBoundary name = false
  not_field : ¬ table.HasName name
  not_other : ∀ other ∈ others, sameTag name other = false

/-- **Unknown markup is ignored.** Where no record is open or no field of the open record is,
balanced events with unknown names may be put in, and an element with an unknown name may be put
around balanced events: the records are the same. -/
def IgnoresUnknown (family : RecordFamily β ρ) (table : FieldTable φ) (others : List String) :
    Prop :=
  ∀ front back : List Event, Balanced (front ++ back) →
    (((Assembler.new family).run family front).recordOpen = true →
      ∀ name ∈ family.openInRecord front, ¬ table.HasName name) →
    (∀ inserted : List Event, Balanced inserted →
      (∀ event ∈ inserted, ∀ name, event.name? = some name → IsUnknown family table others name) →
      ((Assembler.new family).run family (front ++ (inserted ++ back))).records =
        ((Assembler.new family).run family (front ++ back)).records) ∧
    ∀ (name : String) (attributes : List Attribute) (inner rest : List Event),
      IsUnknown family table others name → Balanced inner → back = inner ++ rest →
      ((Assembler.new family).run family
          (front ++ .opened name attributes :: (inner ++ .closed name :: rest))).records =
        ((Assembler.new family).run family (front ++ back)).records

namespace ByTable

variable {set : β → φ → String → String → Stored β}

/-- What is not the name of a field does nothing when it closes. -/
theorem isInert (h : family.ByTable table set) {name : String} (hname : ¬ table.HasName name) :
    family.IsInert name := by
  intro draft text
  rw [h.assign_eq, FieldTable.find?_eq_none h.lower hname]

theorem isForeign (h : family.ByTable table set)
    (henter : ∀ draft name, (∀ other ∈ others, sameTag name other = false) →
      family.enter draft name = draft)
    {name : String} (hname : IsUnknown family table others name) : family.IsForeign name where
  not_boundary := hname.not_boundary
  enter draft := henter draft name hname.not_other
  inert := h.isInert hname.not_field

/-- **A family that reads its fields by a table** ignores unknown markup, if openings other than
some do nothing. -/
theorem ignoresUnknown (h : family.ByTable table set)
    (henter : ∀ draft name, (∀ other ∈ others, sameTag name other = false) →
      family.enter draft name = draft) : family.IgnoresUnknown table others := by
  intro front back hbalanced hopen
  obtain ⟨names, hnames⟩ := hbalanced.exists_openAfter? (List.prefix_append front back)
  have hinert : ((Assembler.new family).run family front).recordOpen = true →
      ∀ name ∈ family.openInRecord front, family.IsInert name := fun hrecord name hname =>
    h.isInert (hopen hrecord name hname)
  have hsettled : Assembler.Settled family names ((Assembler.new family).run family front) :=
    Assembler.settled_run hbalanced hinert hnames
  have hback : openAfter? names back = some [] := by
    have hall := hbalanced.openAfter? []
    rwa [openAfter?_append, hnames, Option.bind_some] at hall
  constructor
  · intro inserted _ hunknown
    rw [Assembler.run_append, Assembler.run_append, Assembler.run_append]
    refine Assembler.records_run_of_insert hsettled (fun event hevent name hname => ?_) hback
    exact h.isForeign henter (hunknown event hevent name hname)
  · rintro name attributes inner rest hname hinner rfl
    rw [Assembler.run_append, Assembler.run_append]
    rw [openAfter?_append, hinner.openAfter?, Option.bind_some] at hback
    exact Assembler.records_run_of_enclose hsettled (h.isForeign henter hname) attributes hinner
      hback

end ByTable

end RecordFamily

/-- **All families ignore unknown markup.** For transfers the container of the live counters, whose
mere presence counts, is not unknown. -/
theorem families_ignore_unknown :
    Message.family.IgnoresUnknown Message.fields [] ∧
      AppVersion.family.IgnoresUnknown AppVersion.fields [] ∧
      Transfer.family.IgnoresUnknown Transfer.fields [Transfer.liveContainer] ∧
      AccountManager.family.IgnoresUnknown AccountManager.fields [] := by
  refine ⟨Message.byTable.ignoresUnknown fun _ _ _ => rfl,
    AppVersion.byTable.ignoresUnknown fun _ _ _ => rfl,
    Transfer.byTable.ignoresUnknown fun draft name hname => ?_,
    AccountManager.byTable.ignoresUnknown fun _ _ _ => rfl⟩
  exact if_neg (by simpa using hname Transfer.liveContainer List.mem_cons_self)

/-- A transfer whose address stands in an element that is not known, next to another one. -/
theorem families_ignore_unknown_sample :
    let front : List Event := [.opened "file_transfer" [], .opened "stats" [], .opened "name" [],
      .text "f", .closed "name"]
    let inner : List Event := [.opened "project_url" [], .text "u", .closed "project_url"]
    let rest : List Event := [.closed "stats", .closed "file_transfer"]
    let note : List Event := [.opened "note" [], .text "v", .closed "note"]
    let records := #[{ ({} : Transfer) with name := "f", projectUrl := "u" }]
    ((Assembler.new Transfer.family).run Transfer.family
        (front ++ (note ++ (inner ++ rest)))).records = records ∧
      ((Assembler.new Transfer.family).run Transfer.family
        (front ++ .opened "note" [] :: (inner ++ .closed "note" :: rest))).records = records := by
  intro front inner rest note records
  have hopen : ∀ name ∈ Transfer.family.openInRecord front, ¬ Transfer.fields.HasName name := by
    unfold FieldTable.HasName
    decide +kernel
  have hunknown : RecordFamily.IsUnknown Transfer.family Transfer.fields [Transfer.liveContainer]
      "note" := by
    refine ⟨by decide +kernel, ?_, by decide +kernel⟩
    unfold FieldTable.HasName
    decide +kernel
  obtain ⟨-, -, htransfers, -⟩ := families_ignore_unknown
  obtain ⟨hinsert, henclose⟩ := htransfers front (inner ++ rest) (balanced_iff.mpr rfl)
    fun _ => hopen
  have hrecords : ((Assembler.new Transfer.family).run Transfer.family
      (front ++ (inner ++ rest))).records = records := by decide +kernel
  constructor
  · have hnote : ∀ event ∈ note, event.name? = none ∨ event.name? = some "note" := by decide
    rw [hinsert note (balanced_iff.mpr rfl) ?_, hrecords]
    intro event hevent name hname
    rcases hnote event hevent with hnone | hsome
    · simp [hnone] at hname
    · obtain rfl : "note" = name := Option.some.inj (hsome.symm.trans hname)
      exact hunknown
  · rw [henclose "note" [] inner rest hunknown (balanced_iff.mpr rfl) rfl, hrecords]

end DaemonReply
