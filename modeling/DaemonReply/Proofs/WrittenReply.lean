import DaemonReply.Proofs.Batch
import DaemonReply.Proofs.Forest
import DaemonReply.Record.Parse

/-!
# Records as they are written

A daemon writes a record as a boundary element with one **leaf** for every field, and the records
of a reply one behind the other inside wrapper elements, with blanks wherever it likes. A
`WrittenReply` is a list of records together with all those choices, and `WrittenReply.text` is
what is sent.

What the leaves of a record are is up to its family. A `RecordWriter` says which names and texts
write a record, and carries the reason why the family reads them back: **filled into the blank
draft, they amount to the record**, or to nothing if the record is not one to be kept.

Main statement: parsing what is sent gives the records to be kept, in order
(`WrittenReply.tryParse_text`).
-/

namespace DaemonReply

open Markup Markup.Event

/-! ### Text in pieces -/

namespace Assembler

variable {β ρ : Type} (family : RecordFamily β ρ) (a : Assembler β ρ)

theorem addText_empty : a.addText "" = a := by
  rw [addText]
  split
  · rw [String.append_empty]
  · rfl

theorem addText_addText (front back : String) :
    (a.addText front).addText back = a.addText (front ++ back) := by
  by_cases hleaf : a.leafOpen = true
  · simp [addText, hleaf, String.append_assoc]
  · simp [addText, hleaf]

theorem run_letters (text : List Char) :
    a.run family (letters text) = a.addText (String.ofList text) := by
  induction text generalizing a with
  | nil => exact (addText_empty a).symm
  | cons c rest ih =>
    have hrun : a.run family (letters (c :: rest)) =
        (a.addText (String.singleton c)).run family (letters rest) := rfl
    rw [hrun, ih, addText_addText, String.ofList_cons]

/-- **How text is cut means nothing** to an assembler. -/
theorem run_scatter (events : List Event) :
    a.run family (scatter events) = a.run family events := by
  induction events generalizing a with
  | nil => rfl
  | cons event rest ih =>
    rcases event with ⟨name, attributes⟩ | content | name
    · rw [scatter_opened, run_cons, run_cons, ih]
    · rw [scatter_text, run_append, run_letters, String.ofList_toList, ih, run_cons]
      rfl
    · rw [scatter_closed, run_cons, run_cons, ih]

end Assembler

/-- The records of a reply that reads as a written forest are those of the forest's events. -/
theorem RecordFamily.tryParse_of_payload {β ρ : Type} (family : RecordFamily β ρ) {reply : String}
    {forest : Forest} (h : payload reply = forest.written) :
    family.tryParse reply =
      .ok ((Assembler.new family).run family forest.events).records.toList := by
  obtain ⟨hok, hscatter⟩ := scan_of_payload_eq_written h
  have hrun : (Assembler.new family).run family (scan reply).events =
      (Assembler.new family).run family forest.events := by
    rw [← Assembler.run_scatter, hscatter, Assembler.run_scatter]
  simp only [RecordFamily.tryParse, Assembler.read, hok, hrun]
  rfl

/-! ### Leaves -/

/-- A text written the usual way. -/
def Markup.WrittenText.escaped (text : List Char) : WrittenText :=
  .spelled (text.map Spelling.escape)

@[simp] theorem Markup.WrittenText.text_escaped (text : List Char) :
    (WrittenText.escaped text).text = text := by
  have hchar : Spelling.char ∘ Spelling.escape = id := funext Spelling.char_escape
  rw [escaped, WrittenText.text, List.map_map, hchar, List.map_id]

/-- A text without the terminator is written with nothing but its `&`, `<` and `>` replaced. -/
theorem Markup.WrittenText.written_escaped {text : List Char} (h : terminator ∉ text) :
    (WrittenText.escaped text).written = text.flatMap Spelling.replaced := by
  rw [escaped, WrittenText.written, Spelling.write, List.flatMap_map]
  refine List.flatMap_congr fun c hc => Spelling.written_escape ?_
  rintro rfl
  exact h hc

/-- A leaf as it is written: between two tags stands its text, or it has none and is written as
one tag. -/
structure Leaf where
  name : Name
  content : Option String := none

namespace Leaf

variable (leaf : Leaf)

/-- The tag of a leaf. -/
def tag : Tag :=
  { name := { base := leaf.name } }

/-- The text of a leaf. -/
def text : String :=
  leaf.content.getD ""

/-- The name and the text of a leaf, as far as they matter: not the letter case of the name. -/
def entry : String × String :=
  (foldCase leaf.tag.name.reported, leaf.text)

/-- A leaf in front of a forest. -/
def forest (rest : Forest) : Forest :=
  match leaf.content with
  | none => .emptyElement leaf.tag rest
  | some text => .element leaf.tag (.text (.escaped text.toList) .nil) .empty rest

/-- What a leaf means. -/
def events : List Event :=
  leaf.tag.opening :: ((leaf.content.map Event.text).toList ++ [leaf.tag.closing])

theorem events_forest (rest : Forest) : (leaf.forest rest).events = leaf.events ++ rest.events := by
  rcases hcontent : leaf.content with _ | text
  · simp [forest, events, hcontent, Forest.events]
  · simp [forest, events, hcontent, Forest.events]

end Leaf

/-! ### Writers -/

namespace RecordFamily

variable {β ρ : Type} (family : RecordFamily β ρ)

/-- What a leaf with a name and a text does to the draft. -/
def fill (draft : β) (entry : String × String) : β :=
  (family.assign (family.enter draft entry.1) entry.1 entry.2).value

end RecordFamily

/-- How the records of a family are written, and why they are read back. -/
structure RecordWriter {β ρ : Type} (family : RecordFamily β ρ) where
  /-- Whether leaves with these names and texts write a record. -/
  Writes : ρ → List (String × String) → Prop
  /-- Whether a record is kept. -/
  kept : ρ → Bool
  /-- No leaf has the name of the boundary. -/
  inside : ∀ {record entries}, Writes record entries →
    ∀ entry ∈ entries, family.isBoundary entry.1 = false
  /-- The letter case of a name does not matter. -/
  fill_foldCase : ∀ draft name text,
    family.fill draft (foldCase name, text) = family.fill draft (name, text)
  /-- The leaves amount to the record, if it is kept. -/
  complete_foldl : ∀ {record entries}, Writes record entries →
    family.complete (entries.foldl family.fill family.blank) =
      if kept record then some record else none

/-! ### Records and replies -/

variable {β ρ : Type} {family : RecordFamily β ρ}

/-- A record as it is written: a boundary element around leaves, with blanks before it, before
every leaf, and before the end. -/
structure WrittenRecord (writer : RecordWriter family) where
  record : ρ
  gap : Blanks := .empty
  tag : Tag
  isBoundary : family.isBoundary tag.name.reported = true
  leaves : List (Blanks × Leaf)
  writes : writer.Writes record (leaves.map fun spaced => spaced.2.entry)
  trail : Blanks := .empty
  beforeEnd : Blanks := .empty

/-- An element around records, with blanks before and behind it. -/
structure Wrapper (family : RecordFamily β ρ) where
  gap : Blanks := .empty
  tag : Tag
  foreign : family.isBoundary tag.name.reported = false
  beforeEnd : Blanks := .empty
  trail : Blanks := .empty

/-- Records inside wrappers, the outermost first. -/
structure WrittenReply (writer : RecordWriter family) where
  wrappers : List (Wrapper family)
  blocks : List (WrittenRecord writer)
  trail : Blanks := .empty

/-- Blanks as a text between elements. -/
def Markup.Blanks.node (blanks : Blanks) : WrittenText :=
  .escaped blanks.chars

/-- The event that blanks between elements cause. -/
def Markup.Blanks.event (blanks : Blanks) : Event :=
  .text (String.ofList blanks.chars)

theorem Markup.Blanks.events_node (blanks : Blanks) (rest : Forest) :
    (Forest.text blanks.node rest).events = blanks.event :: rest.events := by
  rw [Forest.events, node, WrittenText.text_escaped, event]

/-- Blanks are written as they are. -/
theorem Markup.Blanks.written_node (blanks : Blanks) : blanks.node.written = blanks.chars := by
  have hall : ∀ c ∈ blanks.chars, Spelling.replaced c = [c] := by
    intro c hc
    have hblank := isBlank_iff.mp (blanks.isBlank_of_mem hc)
    simp only [List.mem_cons, List.not_mem_nil, or_false] at hblank
    rcases hblank with rfl | rfl | rfl | rfl <;> rfl
  rw [node, WrittenText.written_escaped blanks.terminator_notMem, List.flatMap_congr hall,
    List.flatMap_singleton']

/-- Blanks do not begin with a byte-order mark. -/
theorem Markup.Blanks.head?_written_node (blanks : Blanks) {rest : Forest}
    (h : rest.written.head? ≠ some byteOrderMark) :
    (Forest.text blanks.node rest).written.head? ≠ some byteOrderMark := by
  rw [Forest.written, written_node]
  rcases hchars : blanks.chars with _ | ⟨c, more⟩
  -- without blanks the markup begins with whatever follows
  · exact h
  · have hblank : isBlank c = true := blanks.isBlank_of_mem (by simp [hchars])
    rw [List.cons_append, List.head?_cons]
    rintro ⟨rfl⟩
    exact absurd hblank (by decide)

namespace WrittenRecord

variable {writer : RecordWriter family} (r : WrittenRecord writer)

/-- What stands in the boundary element. -/
def content : Forest :=
  r.leaves.foldr (fun spaced rest => .text spaced.1.node (spaced.2.forest rest))
    (.text r.trail.node .nil)

/-- A record in front of a forest. -/
def forest (rest : Forest) : Forest :=
  .text r.gap.node (.element r.tag r.content r.beforeEnd rest)

/-- What a written record means. -/
def events : List Event :=
  r.gap.event :: r.tag.opening :: (r.content.events ++ [r.tag.closing])

theorem events_forest (rest : Forest) : (r.forest rest).events = r.events ++ rest.events := by
  rw [forest, Blanks.events_node, Forest.events, events, List.cons_append, List.cons_append,
    List.append_assoc, List.singleton_append]

end WrittenRecord

/-- A wrapper around a forest. -/
def Wrapper.enclose (w : Wrapper family) (inner : Forest) : Forest :=
  .text w.gap.node (.element w.tag inner w.beforeEnd (.text w.trail.node .nil))

theorem Wrapper.events_enclose (w : Wrapper family) (inner : Forest) :
    (w.enclose inner).events =
      w.gap.event :: w.tag.opening :: (inner.events ++ [w.tag.closing, w.trail.event]) := by
  rw [enclose, Blanks.events_node, Forest.events, Blanks.events_node, Forest.events]

namespace WrittenReply

variable {writer : RecordWriter family} (reply : WrittenReply writer)

/-- The records in a reply. -/
def records : List ρ :=
  reply.blocks.map WrittenRecord.record

/-- What stands in the wrappers. -/
def content : Forest :=
  reply.blocks.foldr WrittenRecord.forest (.text reply.trail.node .nil)

/-- The markup of a reply. -/
def forest : Forest :=
  reply.wrappers.foldr Wrapper.enclose reply.content

/-- What is sent: the markup, a terminator, and anything at all. -/
def text (rest : List Char) : String :=
  String.ofList (reply.forest.written ++ terminator :: rest)

end WrittenReply

/-! ### Assembling written records -/

namespace Assembler

variable {a : Assembler β ρ}

/-- The state between two leaves of a record: no text is collected. -/
structure Filling (a : Assembler β ρ) (draft : β) : Prop where
  recordOpen : a.recordOpen = true
  draft_eq : a.draft = draft
  leafOpen : a.leafOpen = false

/-- Blanks between leaves are heard by nobody. -/
theorem Filling.step_event {draft : β} (h : a.Filling draft) (blanks : Blanks) :
    a.step family blanks.event = a := by
  simp [step, Blanks.event, addText, h.leafOpen]

/-- A leaf without a text is run like one with an empty text. -/
theorem run_leaf (leaf : Leaf) :
    a.run family leaf.events =
      ((a.step family leaf.tag.opening).addText leaf.text).step family leaf.tag.closing := by
  rcases hcontent : leaf.content with _ | text
  · have htext : leaf.text = "" := by rw [Leaf.text, hcontent, Option.getD_none]
    rw [htext, addText_empty, Leaf.events, hcontent]
    rfl
  · have htext : leaf.text = text := by rw [Leaf.text, hcontent, Option.getD_some]
    rw [htext, Leaf.events, hcontent]
    rfl

/-- **A leaf** fills its entry into the draft. -/
theorem Filling.run_leaf {draft : β} (h : a.Filling draft) (leaf : Leaf)
    (hname : family.isBoundary leaf.tag.name.reported = false) :
    (a.run family leaf.events).Filling
      (family.fill draft (leaf.tag.name.reported, leaf.text)) ∧
      (a.run family leaf.events).records = a.records := by
  obtain ⟨hopen, rfl, -⟩ := h
  rw [Assembler.run_leaf]
  simp only [Tag.opening, Tag.closing, step, openElement, hopen, addText, closeElement, hname,
    endField, if_true, Bool.false_eq_true, if_false, String.empty_append]
  exact ⟨⟨rfl, rfl, rfl⟩, trivial⟩

/-- The leaves of a record fill their entries into the draft, one after the other. -/
theorem Filling.run_leaves {draft : β} (h : a.Filling draft) (leaves : List (Blanks × Leaf))
    (hnames : ∀ spaced ∈ leaves, family.isBoundary spaced.2.tag.name.reported = false)
    (trail : Blanks) :
    let events := (leaves.foldr (fun spaced rest => .text spaced.1.node (spaced.2.forest rest))
      (.text trail.node .nil) : Forest).events
    (a.run family events).Filling
        (leaves.foldl (fun draft spaced =>
          family.fill draft (spaced.2.tag.name.reported, spaced.2.text)) draft) ∧
      (a.run family events).records = a.records := by
  induction leaves generalizing a draft with
  | nil =>
    simp only [List.foldr_nil, Blanks.events_node, run_cons, h.step_event]
    exact ⟨h, rfl⟩
  | cons spaced rest ih =>
    obtain ⟨hleaf, hrecords⟩ := h.run_leaf spaced.2 (hnames spaced (by simp))
    obtain ⟨hrest, hall⟩ := ih hleaf fun other hother => hnames other (by simp [hother])
    simp only [List.foldr_cons, Blanks.events_node, run_cons, h.step_event, Leaf.events_forest,
      run_append]
    exact ⟨hrest, hall.trans hrecords⟩

end Assembler

namespace WrittenRecord

variable {writer : RecordWriter family} (r : WrittenRecord writer)

/-- No leaf of a record has the name of the boundary. -/
theorem isBoundary_leaf {spaced : Blanks × Leaf} (h : spaced ∈ r.leaves) :
    family.isBoundary spaced.2.tag.name.reported = false := by
  have hentry := writer.inside r.writes spaced.2.entry (List.mem_map.mpr ⟨spaced, h, rfl⟩)
  rwa [Leaf.entry, family.isBoundary_congr (sameTag_foldCase _)] at hentry

/-- The letter case in which the leaves are written does not matter. -/
theorem foldl_leaves (draft : β) :
    r.leaves.foldl (fun draft spaced =>
      family.fill draft (spaced.2.tag.name.reported, spaced.2.text)) draft =
        (r.leaves.map fun spaced => spaced.2.entry).foldl family.fill draft := by
  rw [List.foldl_map]
  congr 1
  funext draft spaced
  rw [Leaf.entry, writer.fill_foldCase]

end WrittenRecord

namespace Assembler

variable {writer : RecordWriter family} {a : Assembler β ρ}

theorem filling_opening (hidle : a.recordOpen = false) {tag : Tag}
    (htag : family.isBoundary tag.name.reported = true) :
    (a.step family tag.opening).Filling family.blank ∧
      (a.step family tag.opening).records = a.records := by
  have hopening : family.opensRecord tag.opening = true := htag
  rw [step_opening hidle hopening]
  exact ⟨⟨rfl, rfl, rfl⟩, rfl⟩

/-- **A written record** is added if it is one to be kept, and no record is open behind it. -/
theorem run_record (hidle : a.recordOpen = false) (r : WrittenRecord writer) :
    (a.run family r.events).recordOpen = false ∧
      (a.run family r.events).records.toList =
        a.records.toList ++ [r.record].filter writer.kept := by
  obtain ⟨hgap, hgapRecords⟩ := @step_idle _ _ family a r.gap.event hidle rfl
  obtain ⟨hbegun, hbegunRecords⟩ := filling_opening hgap r.isBoundary
  obtain ⟨hfilled, hfilledRecords⟩ :=
    hbegun.run_leaves r.leaves (fun _ hspaced => r.isBoundary_leaf hspaced) r.trail
  have hclosing : family.closesRecord r.tag.closing = true := r.isBoundary
  obtain ⟨hclosed, hrecords⟩ := step_closing hfilled.recordOpen hclosing
  rw [WrittenRecord.events, run_cons, run_cons, run_append, run_cons, run_nil]
  refine ⟨hclosed, hrecords.trans ?_⟩
  rw [hfilled.draft_eq, hfilledRecords, hbegunRecords, hgapRecords, r.foldl_leaves,
    writer.complete_foldl r.writes]
  by_cases hkept : writer.kept r.record = true
  · simp [hkept]
  · simp [hkept]

/-- Written records are added in order. -/
theorem run_blocks (hidle : a.recordOpen = false) (blocks : List (WrittenRecord writer))
    (trail : Blanks) :
    let events := (blocks.foldr WrittenRecord.forest (.text trail.node .nil)).events
    (a.run family events).recordOpen = false ∧
      (a.run family events).records.toList =
        a.records.toList ++ (blocks.map WrittenRecord.record).filter writer.kept := by
  induction blocks generalizing a with
  | nil =>
    obtain ⟨hopen, hrecords⟩ := @step_idle _ _ family a trail.event hidle rfl
    simp only [List.foldr_nil, Blanks.events_node, Forest.events, run_cons, run_nil]
    exact ⟨hopen, by simp [hrecords]⟩
  | cons r rest ih =>
    obtain ⟨hopen, hrecords⟩ := run_record hidle r
    obtain ⟨hrest, hall⟩ := ih hopen
    simp only [List.foldr_cons, WrittenRecord.events_forest, run_append]
    refine ⟨hrest, ?_⟩
    rw [hall, hrecords, List.append_assoc, ← List.filter_append, List.singleton_append,
      List.map_cons]

/-- Wrappers add nothing to what stands in them. -/
theorem run_wrappers (wrappers : List (Wrapper family)) {inner : Forest} {added : List ρ}
    (hinner : ∀ a : Assembler β ρ, a.recordOpen = false →
      (a.run family inner.events).recordOpen = false ∧
        (a.run family inner.events).records.toList = a.records.toList ++ added)
    (hidle : a.recordOpen = false) :
    (a.run family (wrappers.foldr Wrapper.enclose inner).events).recordOpen = false ∧
      (a.run family (wrappers.foldr Wrapper.enclose inner).events).records.toList =
        a.records.toList ++ added := by
  induction wrappers generalizing a with
  | nil => exact hinner a hidle
  | cons w rest ih =>
    -- outside a record neither the tags of a wrapper nor blanks do anything to the records
    obtain ⟨hgap, hgapRecords⟩ := @step_idle _ _ family a w.gap.event hidle rfl
    obtain ⟨hopened, hopenedRecords⟩ := @step_idle _ _ family _ w.tag.opening hgap w.foreign
    obtain ⟨hwithin, hwithinRecords⟩ := ih hopened
    obtain ⟨hclosed, hclosedRecords⟩ := @step_idle _ _ family _ w.tag.closing hwithin rfl
    obtain ⟨htrail, htrailRecords⟩ := @step_idle _ _ family _ w.trail.event hclosed rfl
    simp only [List.foldr_cons, Wrapper.events_enclose, run_cons, run_append, run_nil]
    refine ⟨htrail, ?_⟩
    rw [htrailRecords, hclosedRecords, hwithinRecords, hopenedRecords, hgapRecords]

end Assembler

/-! ### Parsing what is sent -/

namespace WrittenReply

variable {writer : RecordWriter family} (reply : WrittenReply writer)

/-- The markup of a reply begins with a blank or a tag, if with anything. -/
theorem head?_written_forest : reply.forest.written.head? ≠ some byteOrderMark := by
  rcases hwrappers : reply.wrappers with _ | ⟨w, wrappers⟩
  · rcases hblocks : reply.blocks with _ | ⟨r, blocks⟩
    · rw [forest, hwrappers, List.foldr_nil, content, hblocks, List.foldr_nil]
      exact reply.trail.head?_written_node (by simp [Forest.written])
    · rw [forest, hwrappers, List.foldr_nil, content, hblocks, List.foldr_cons]
      exact r.gap.head?_written_node (Forest.head?_written trivial)
  · rw [forest, hwrappers, List.foldr_cons]
    exact w.gap.head?_written_node (Forest.head?_written trivial)

/-- **Parsing what is sent** gives the records that are to be kept, in order, whatever the
blanks, the wrappers and the order of the leaves, and whatever follows the terminator. -/
theorem tryParse_text (rest : List Char) :
    family.tryParse (reply.text rest) = .ok (reply.records.filter writer.kept) := by
  have hpayload : payload (reply.text rest) = reply.forest.written :=
    payload_written_append reply.forest reply.head?_written_forest rest
  obtain ⟨-, hrecords⟩ := @Assembler.run_wrappers _ _ family (Assembler.new family)
    reply.wrappers reply.content (reply.records.filter writer.kept)
    (fun a hidle => Assembler.run_blocks hidle reply.blocks reply.trail) rfl
  rw [family.tryParse_of_payload hpayload, forest, hrecords]
  rfl

end WrittenReply

end DaemonReply
