import DaemonReply.Proofs.Calls
import DaemonReply.Proofs.LetterCase

/-!
# The containers of a transfer

The fields of a transfer are told apart by their names alone, so the containers that they stand in
only add calls that do nothing (`Assembler.performs_container`), and a transfer is made from the
calls of its leaves. If the leaves of two containers are read into different slots, it does not
matter which of the two comes first.

The persistent state of a transfer and its live counters share one slot, the bytes transferred. The
last live count is what they agree on, unless it is zero: **a live count of zero is forgotten**. It
replaces a persisted count that stands before it, and is replaced by one that stands behind it,
because a persisted count is only kept out by a slot that is not zero.

Main statement: the two orders of the containers, with the bytes transferred for each
(`exchange_containers`).
-/

namespace DaemonReply

open Markup Value

/-! ### Items and their calls -/

/-- What stands in an element: character data, or a leaf with its text in pieces. -/
inductive Item where
  | gap (content : String)
  | leaf (name : String) (attributes : List Attribute) (pieces : List String)

namespace Item

/-- What is heard of an item. -/
def events : Item → List Event
  | gap content => [.text content]
  | leaf name attributes pieces =>
    .opened name attributes :: (pieces.map Event.text ++ [.closed name])

/-- What a family is asked to do for an item. -/
def calls : Item → List Call
  | gap _ => []
  | leaf name _ pieces => [.opened name, .closed name (String.join pieces)]

/-- The name of a leaf. -/
def name? : Item → Option String
  | gap _ => none
  | leaf name _ _ => some name

end Item

namespace Assembler

variable {β ρ : Type} {family : RecordFamily β ρ} {front back inner : List Event}
  {calls calls' : List Call} {name : String}

/-- Inside a record, what is heard amounts to calls: the record stays open, none is added, and the
draft is what the calls make of it. -/
def Performs (family : RecordFamily β ρ) (events : List Event) (calls : List Call) : Prop :=
  ∀ a : Assembler β ρ, a.recordOpen = true →
    (a.run family events).recordOpen = true ∧ (a.run family events).records = a.records ∧
      (a.run family events).draft = family.performAll a.draft calls

theorem performs_nil : Performs family [] [] := fun _ hopen => ⟨hopen, rfl, rfl⟩

theorem Performs.append (hfront : Performs family front calls)
    (hback : Performs family back calls') : Performs family (front ++ back) (calls ++ calls') := by
  intro a hopen
  obtain ⟨hopen', hrecords', hdraft'⟩ := hfront a hopen
  obtain ⟨hopen'', hrecords'', hdraft''⟩ := hback _ hopen'
  rw [run_append, RecordFamily.performAll_append]
  exact ⟨hopen'', hrecords''.trans hrecords', by rw [hdraft'', hdraft']⟩

/-- Text in pieces is added as a whole. -/
theorem run_pieces (a : Assembler β ρ) (pieces : List String) :
    a.run family (pieces.map Event.text) = a.addText (String.join pieces) := by
  induction pieces generalizing a with
  | nil => exact a.addText_empty.symm
  | cons piece pieces ih =>
    rw [List.map_cons, run_cons, step, ih, addText_addText, String.join_cons]

/-- **A leaf** opens, and closes with its text. -/
theorem performs_item (item : Item)
    (hname : ∀ name, item.name? = some name → family.isBoundary name = false) :
    Performs family item.events item.calls := by
  intro a hopen
  cases item with
  | gap content =>
    simp only [Item.events, run_cons, run_nil, step, addText]
    split <;> exact ⟨hopen, rfl, rfl⟩
  | leaf name attributes pieces =>
    rw [Item.events, run_cons, run_append, run_pieces]
    simp only [run_cons, run_nil, step, openElement, hopen, addText, closeElement, hname name rfl,
      endField, if_true, Bool.false_eq_true, if_false, String.empty_append]
    exact ⟨trivial, trivial, rfl⟩

theorem performs_items (items : List Item)
    (hnames : ∀ name ∈ items.filterMap Item.name?, family.isBoundary name = false) :
    Performs family (items.flatMap Item.events) (items.flatMap Item.calls) := by
  induction items with
  | nil => exact performs_nil
  | cons item items ih =>
    have hitem : ∀ name, item.name? = some name → family.isBoundary name = false :=
      fun name hname => hnames name (by simp [hname])
    have hitems : ∀ name ∈ items.filterMap Item.name?, family.isBoundary name = false :=
      fun name hname => hnames name (by
        obtain ⟨other, hother, hname⟩ := List.mem_filterMap.mp hname
        exact List.mem_filterMap.mpr ⟨other, List.mem_cons_of_mem item hother, hname⟩)
    exact (performs_item item hitem).append (ih hitems)

/-- **A container** opens, and its closing does nothing. -/
theorem performs_container (hname : family.isBoundary name = false) (hinert : family.IsInert name)
    (attributes : List Attribute) (hinner : Performs family inner calls) :
    Performs family (.opened name attributes :: (inner ++ [.closed name]))
      (.opened name :: calls) := by
  intro a hopen
  have hopened : (a.openElement family name).recordOpen = true ∧
      (a.openElement family name).records = a.records ∧
      (a.openElement family name).draft = family.enter a.draft name := by
    simp [openElement, hopen]
  obtain ⟨hopen', hrecords, hdraft⟩ := hopened
  obtain ⟨hopen'', hrecords', hdraft'⟩ := hinner _ hopen'
  rw [hdraft] at hdraft'
  rw [run_cons, step, run_append, run_cons, run_nil, step]
  simp only [closeElement, hname, hopen'', endField, hinert _, if_true, Bool.false_eq_true,
    if_false, RecordFamily.performAll_cons, RecordFamily.perform]
  exact ⟨trivial, hrecords'.trans hrecords, hdraft'⟩

/-- The draft that the fields behind the opening of a boundary go to. Inside a record such an
opening begins no other record, so it is the draft of the open one. -/
def openDraft (family : RecordFamily β ρ) (a : Assembler β ρ) : β :=
  if a.recordOpen then a.draft else family.blank

/-- **A record** ends with what its calls make of the draft it begins with. -/
theorem run_block (a : Assembler β ρ) (hname : family.isBoundary name = true)
    (henter : ∀ draft, family.enter draft name = draft) (attributes : List Attribute)
    (hinner : Performs family inner calls) :
    let events := .opened name attributes :: (inner ++ [.closed name])
    (a.run family events).recordOpen = false ∧
      (a.run family events).records.toList = a.records.toList ++
        (family.complete (family.performAll (a.openDraft family) calls)).toList := by
  intro events
  have hopened : (a.openElement family name).recordOpen = true ∧
      (a.openElement family name).records = a.records ∧
      (a.openElement family name).draft = a.openDraft family := by
    rcases hopen : a.recordOpen with _ | _ <;> simp [openElement, openDraft, hopen, hname, henter]
  obtain ⟨hopen, hrecords, hdraft⟩ := hopened
  obtain ⟨hopen', hrecords', hdraft'⟩ := hinner _ hopen
  have hend := step_closing hopen' (show family.closesRecord (.closed name) = true from hname)
  rw [hrecords', hrecords, hdraft', hdraft] at hend
  rw [run_cons, step, run_append, run_cons, run_nil]
  exact hend

end Assembler

/-! ### Names and fields -/

namespace Transfer

/-- The field that a call is about. -/
def field? : Call → Option Field
  | .opened _ => none
  | .closed name _ => fields.find? name

/-- Whether no call is about a field. -/
def Silent (field : Field) (calls : List Call) : Prop :=
  ∀ c ∈ calls, field? c ≠ some field

theorem Silent.reading?_eq_none {α : Type} {field : Field} {calls : List Call}
    (h : Silent field calls) (read? : String → Option α) :
    ∀ c ∈ calls, c.reading? read? (fields.keysOf field) = none := by
  intro c hc
  cases c with
  | opened name => rfl
  | closed name text =>
    have hfield := h _ hc
    rw [field?] at hfield
    simp [Call.reading?, FieldTable.isOneOf_keysOf byTable.lower, hfield]

theorem Silent.filterMap_eq_nil {α : Type} {field : Field} {calls : List Call}
    (h : Silent field calls) (read? : String → Option α) :
    calls.filterMap (Call.reading? read? (fields.keysOf field)) = [] :=
  List.filterMap_eq_nil_iff.mpr (h.reading?_eq_none read?)

/-- The calls of a leaf are about the field of its name. -/
theorem exists_of_field?_calls {items : List Item} {c : Call} {field : Field}
    (hc : c ∈ items.flatMap Item.calls) (hfield : field? c = some field) :
    ∃ name ∈ items.filterMap Item.name?, fields.find? name = some field := by
  obtain ⟨item, hitem, hc⟩ := List.mem_flatMap.mp hc
  cases item with
  | gap content => exact absurd hc List.not_mem_nil
  | leaf name attributes pieces =>
    refine ⟨name, List.mem_filterMap.mpr ⟨_, hitem, rfl⟩, ?_⟩
    simp only [Item.calls, List.mem_cons, List.not_mem_nil, or_false] at hc
    rcases hc with rfl | rfl
    · exact absurd hfield (by simp [field?])
    · exact hfield

/-! ### The names of fields -/

/-- A name that means nothing in a transfer. -/
def IsUnknown (name : String) : Prop :=
  RecordFamily.IsUnknown family fields [liveContainer] name

/-- A tag that is no key does nothing when it closes, in any letter case. -/
theorem find?_eq_none_of_sameTag {name tag : String} (hname : sameTag name tag = true)
    (htag : fields.get? (foldCase tag) = none) : fields.find? name = none := by
  rw [FieldTable.find?_eq_get?_foldCase byTable.lower, foldCase_eq_of_sameTag hname, htag]

theorem isInert_of_find?_eq_none {name : String} (h : fields.find? name = none) :
    family.IsInert name := by
  intro draft text
  rw [byTable.assign_eq, h]

/-- The name of a field is not that of the boundary. -/
theorem isBoundary_eq_false_of_find? {name : String} {field : Field}
    (h : fields.find? name = some field) : family.isBoundary name = false := by
  by_contra hboundary
  have hname : sameTag name family.boundary = true := by
    simpa [RecordFamily.isBoundary] using hboundary
  have hnone : fields.find? name = none := find?_eq_none_of_sameTag hname (by decide +kernel)
  exact Option.some_ne_none field (h.symm.trans hnone)

/-- A name among some keys or unknown is not that of the boundary, and stands at most for the field
of one of these keys. -/
theorem of_isOneOf_or_isUnknown (fs : List Field) {name : String}
    (h : isOneOf (fs.flatMap fields.keysOf) name = true ∨ IsUnknown name) :
    family.isBoundary name = false ∧ ∀ field, fields.find? name = some field → field ∈ fs := by
  rcases h with hkey | hunknown
  · obtain ⟨field, hfind, hfield⟩ : ∃ field, fields.find? name = some field ∧ field ∈ fs := by
      simpa [FieldTable.isOneOf_flatMap_keysOf byTable.lower, Option.any_eq_true] using hkey
    refine ⟨isBoundary_eq_false_of_find? hfind, fun other hother => ?_⟩
    obtain rfl : field = other := Option.some.inj (hfind.symm.trans hother)
    exact hfield
  · refine ⟨hunknown.not_boundary, fun field hfield => ?_⟩
    rw [FieldTable.find?_eq_none byTable.lower hunknown.not_field] at hfield
    exact absurd hfield (by simp)

/-! ### Containers -/

/-- A container in a transfer, with leaves of its own and unknown ones. -/
structure Container (tag : String) (tags : List String) where
  name : String
  attributes : List Attribute := []
  items : List Item
  isTag : sameTag name tag = true
  names : ∀ leaf ∈ items.filterMap Item.name?, isOneOf tags leaf = true ∨ IsUnknown leaf

namespace Container

variable {tag : String} {tags : List String}

/-- What is heard of a container. -/
def events (k : Container tag tags) : List Event :=
  .opened k.name k.attributes :: (k.items.flatMap Item.events ++ [.closed k.name])

/-- What a family is asked to do for a container. -/
def calls (k : Container tag tags) : List Call :=
  .opened k.name :: k.items.flatMap Item.calls

variable (fs : List Field) (k : Container tag (fs.flatMap fields.keysOf))

/-- A container is about the fields of its leaves alone. -/
theorem silent_calls {field : Field} (h : field ∉ fs) : Silent field k.calls := by
  intro c hc hfield
  rcases List.mem_cons.mp hc with rfl | hc
  · exact absurd hfield (by simp [field?])
  · obtain ⟨leaf, hleaf, hfind⟩ := exists_of_field?_calls hc hfield
    exact h ((of_isOneOf_or_isUnknown fs (k.names leaf hleaf)).2 field hfind)

theorem performs (hboundary : family.isBoundary tag = false)
    (htag : fields.get? (foldCase tag) = none) :
    Assembler.Performs family k.events k.calls := by
  have hname : family.isBoundary k.name = false :=
    (family.isBoundary_congr k.isTag).trans hboundary
  have hinert : family.IsInert k.name :=
    isInert_of_find?_eq_none (find?_eq_none_of_sameTag k.isTag htag)
  refine Assembler.performs_container hname hinert _ (Assembler.performs_items _ ?_)
  intro leaf hleaf
  exact (of_isOneOf_or_isUnknown fs (k.names leaf hleaf)).1

end Container

/-! ### Transfers with both containers -/

/-- The tags of the persistent state. -/
def persistentTags : List String :=
  ["is_upload", "time_so_far", "next_request_time", "last_bytes_xferred"]

/-- The tags of the live counters. -/
def liveTags : List String :=
  ["bytes_xferred", "xfer_speed"]

/-- What a transfer with both containers consists of: the two containers, and around them leaves
that belong in neither, and are not the boundary nor a container of live counters. -/
structure TwoContainers where
  boundary : String
  attributes : List Attribute := []
  before : List Item
  persistent : Container "persistent_file_xfer" persistentTags
  between : List Item
  live : Container "file_xfer" liveTags
  after : List Item
  isBoundary : sameTag boundary "file_transfer" = true
  other_names : ∀ name ∈ (before ++ between ++ after).filterMap Item.name?,
    isOneOf (persistentTags ++ liveTags) name = false ∧ sameTag name "file_transfer" = false ∧
      sameTag name "file_xfer" = false

namespace TwoContainers

variable (b : TwoContainers)

/-- What is heard of the transfer with its containers in some order. -/
def events (first second : List Event) : List Event :=
  .opened b.boundary b.attributes ::
    (b.before.flatMap Item.events ++ first ++ b.between.flatMap Item.events ++ second ++
      b.after.flatMap Item.events ++ [.closed b.boundary])

/-- The transfer with its persistent state first. -/
def persistentFirst : List Event :=
  b.events b.persistent.events b.live.events

/-- The transfer with its live counters first. -/
def liveFirst : List Event :=
  b.events b.live.events b.persistent.events

/-- The calls of the transfer with its containers in some order. -/
def calls (first second : List Call) : List Call :=
  b.before.flatMap Item.calls ++ first ++ b.between.flatMap Item.calls ++ second ++
    b.after.flatMap Item.calls

/-- The last live count. -/
def lastLive : Option Int64 :=
  lastReading readSeconds? ["bytes_xferred"] b.live.calls

/-- The first persisted count other than zero, and zero if there is none. -/
def persistedCount : Int64 :=
  firstPersisted b.persistent.calls

/-! ### What the two orders are about -/

/-- The fields of the persistent state. -/
def persistentFields : List Field :=
  [.isUpload, .timeSoFar, .nextRequestTime, .persistedBytes]

/-- The fields of the live counters. -/
def liveFields : List Field :=
  [.liveBytes, .speed]

variable {field : Field} {items : List Item}

theorem silent_persistent (h : field ∉ persistentFields) : Silent field b.persistent.calls :=
  Container.silent_calls persistentFields b.persistent h

theorem silent_live (h : field ∉ liveFields) : Silent field b.live.calls :=
  Container.silent_calls liveFields b.live h

/-- Around the containers stands none of their fields. -/
theorem silent_others (h : field ∈ persistentFields ++ liveFields)
    (hitems : items ⊆ b.before ++ b.between ++ b.after) :
    Silent field (items.flatMap Item.calls) := by
  intro c hc hfield
  obtain ⟨name, hname, hfind⟩ := exists_of_field?_calls hc hfield
  have hnone : isOneOf (persistentTags ++ liveTags) name = false :=
    (b.other_names name (List.filterMap_subset _ hitems hname)).1
  have hkeys := FieldTable.isOneOf_flatMap_keysOf byTable.lower (persistentFields ++ liveFields)
    name
  rw [show (persistentFields ++ liveFields).flatMap fields.keysOf = persistentTags ++ liveTags
    from rfl, hnone, hfind] at hkeys
  exact absurd h (by simpa using hkeys)

/-! ### The calls of the two orders -/

theorem performs_persistent : Assembler.Performs family b.persistent.events b.persistent.calls :=
  Container.performs persistentFields b.persistent (by decide +kernel) (by decide +kernel)

theorem performs_live : Assembler.Performs family b.live.events b.live.calls :=
  Container.performs liveFields b.live (by decide +kernel) (by decide +kernel)

theorem performs_others (hitems : items ⊆ b.before ++ b.between ++ b.after) :
    Assembler.Performs family (items.flatMap Item.events) (items.flatMap Item.calls) :=
  Assembler.performs_items items fun name hname =>
    (b.other_names name (List.filterMap_subset _ hitems hname)).2.1

/-- To the opening of its boundary a transfer pays no attention. -/
theorem enter_boundary (t : Transfer) : family.enter t b.boundary = t := by
  have hlive : sameTag b.boundary liveContainer = false := by
    rw [sameTag, foldCase_eq_of_sameTag b.isBoundary]
    decide +kernel
  simp [family, hlive]

/-- **A transfer is what its calls amount to**, with its containers in either order. -/
theorem run_events {first second : List Event} {calls calls' : List Call}
    (hfirst : Assembler.Performs family first calls)
    (hsecond : Assembler.Performs family second calls') (a : Assembler Transfer Transfer) :
    (a.run family (b.events first second)).recordOpen = false ∧
      (a.run family (b.events first second)).records.toList = a.records.toList ++
        (family.complete (family.performAll (a.openDraft family)
          (b.calls calls calls'))).toList := by
  have hboundary : family.isBoundary b.boundary = true := b.isBoundary
  refine Assembler.run_block a hboundary b.enter_boundary b.attributes ?_
  exact ((((b.performs_others (by simp)).append hfirst).append
    (b.performs_others (by simp))).append hsecond).append (b.performs_others (by simp))

/-- Only one of the two containers or what stands between them is about a field. -/
theorem filterMap_reading_exchange {α : Type} (read? : String → Option α) (field : Field) :
    (b.calls b.persistent.calls b.live.calls).filterMap
        (Call.reading? read? (fields.keysOf field)) =
      (b.calls b.live.calls b.persistent.calls).filterMap
        (Call.reading? read? (fields.keysOf field)) := by
  simp only [calls, List.filterMap_append]
  by_cases hpersistent : field ∈ persistentFields
  · have hlive : field ∉ liveFields := by
      revert hpersistent
      cases field <;> decide
    have hbetween : Silent field (b.between.flatMap Item.calls) :=
      b.silent_others (by simp [hpersistent]) (by simp)
    simp [hbetween.filterMap_eq_nil, (b.silent_live hlive).filterMap_eq_nil]
  · have hsilent : Silent field b.persistent.calls := b.silent_persistent hpersistent
    by_cases hlive : field ∈ liveFields
    · have hbetween : Silent field (b.between.flatMap Item.calls) :=
        b.silent_others (by simp [hlive]) (by simp)
      simp [hbetween.filterMap_eq_nil, hsilent.filterMap_eq_nil]
    · simp [hsilent.filterMap_eq_nil, (b.silent_live hlive).filterMap_eq_nil]

theorem lastReading_exchange {α : Type} (read? : String → Option α) (field : Field) :
    lastReading read? (fields.keysOf field) (b.calls b.persistent.calls b.live.calls) =
      lastReading read? (fields.keysOf field) (b.calls b.live.calls b.persistent.calls) := by
  rw [lastReading, b.filterMap_reading_exchange, lastReading]

theorem slot_exchange {field : Field} (hfield : field ∉ countFields) (t : Transfer) :
    field.slot.get (family.performAll t (b.calls b.live.calls b.persistent.calls)) =
      field.slot.get (family.performAll t (b.calls b.persistent.calls b.live.calls)) := by
  rw [(hasColumn hfield).performAll, (hasColumn hfield).performAll, b.lastReading_exchange]

/-- **But for the bytes transferred**, the order of the containers does not matter. -/
theorem performAll_exchange (t : Transfer) :
    family.performAll t (b.calls b.live.calls b.persistent.calls) =
      { family.performAll t (b.calls b.persistent.calls b.live.calls) with
        bytesTransferred :=
          (family.performAll t (b.calls b.live.calls b.persistent.calls)).bytesTransferred } := by
  have hactive : (family.performAll t (b.calls b.live.calls b.persistent.calls)).active =
      (family.performAll t (b.calls b.persistent.calls b.live.calls)).active := by
    simp only [active_performAll, calls, List.any_append]
    ac_rfl
  refine eq_of_slots (fun field hfield => (b.slot_exchange hfield t).trans ?_) hactive rfl
  cases field with
  | liveBytes => exact absurd hfield (by decide)
  | persistedBytes => exact absurd hfield (by decide)
  | _ => rfl

/-! ### The bytes transferred in the two orders -/

/-- Live counts stand among the live counters only. -/
theorem liveCount?_eq_none_of_other (hitems : items ⊆ b.before ++ b.between ++ b.after) :
    ∀ c ∈ items.flatMap Item.calls, liveCount? c = none := by
  have hsilent : Silent .liveBytes (items.flatMap Item.calls) :=
    b.silent_others (by decide) hitems
  exact hsilent.reading?_eq_none readSeconds?

theorem liveCount?_eq_none_of_persistent : ∀ c ∈ b.persistent.calls, liveCount? c = none := by
  have hsilent : Silent .liveBytes b.persistent.calls := b.silent_persistent (by decide)
  exact hsilent.reading?_eq_none readSeconds?

/-- Persisted counts stand in the persistent state only. -/
theorem persistedCount?_eq_none_of_other (hitems : items ⊆ b.before ++ b.between ++ b.after) :
    ∀ c ∈ items.flatMap Item.calls, persistedCount? c = none := by
  have hsilent : Silent .persistedBytes (items.flatMap Item.calls) :=
    b.silent_others (by decide) hitems
  exact hsilent.reading?_eq_none readSeconds?

theorem persistedCount?_eq_none_of_live : ∀ c ∈ b.live.calls, persistedCount? c = none := by
  have hsilent : Silent .persistedBytes b.live.calls := b.silent_live (by decide)
  exact hsilent.reading?_eq_none readSeconds?

/-- The bytes transferred if no live count is said: what the draft has, and the first persisted
count other than zero if it has none. -/
def bytesPersisted (t : Transfer) : Int64 :=
  if t.bytesTransferred = 0 then b.persistedCount else t.bytesTransferred

/-- Without live counts it does not matter in which order the containers come. -/
theorem bytesTransferred_of_lastLive_eq_none (hnone : b.lastLive = none) (t : Transfer) :
    (family.performAll t (b.calls b.persistent.calls b.live.calls)).bytesTransferred =
        b.bytesPersisted t ∧
      (family.performAll t (b.calls b.live.calls b.persistent.calls)).bytesTransferred =
        b.bytesPersisted t := by
  have hlive : ∀ c ∈ b.live.calls, liveCount? c = none := lastReading_eq_none_iff.mp hnone
  have hall : ∀ first second, (∀ c ∈ first, liveCount? c = none) →
      (∀ c ∈ second, liveCount? c = none) → ∀ c ∈ b.calls first second, liveCount? c = none := by
    intro first second hfirst hsecond
    simp only [calls, List.forall_mem_append]
    exact ⟨⟨⟨⟨b.liveCount?_eq_none_of_other (by simp), hfirst⟩,
      b.liveCount?_eq_none_of_other (by simp)⟩, hsecond⟩, b.liveCount?_eq_none_of_other (by simp)⟩
  have hbefore : ∀ c ∈ b.before.flatMap Item.calls, persistedCount? c = none :=
    b.persistedCount?_eq_none_of_other (by simp)
  have hbetween : ∀ c ∈ b.between.flatMap Item.calls, persistedCount? c = none :=
    b.persistedCount?_eq_none_of_other (by simp)
  have hafter : ∀ c ∈ b.after.flatMap Item.calls, persistedCount? c = none :=
    b.persistedCount?_eq_none_of_other (by simp)
  rw [bytesTransferred_of_no_live (hall _ _ b.liveCount?_eq_none_of_persistent hlive),
    bytesTransferred_of_no_live (hall _ _ hlive b.liveCount?_eq_none_of_persistent),
    bytesPersisted, calls, calls, firstPersisted_append_right hafter,
    firstPersisted_append_right hafter]
  constructor
  · rw [firstPersisted_append_right b.persistedCount?_eq_none_of_live,
      firstPersisted_append_right hbetween, firstPersisted_append_left hbefore, persistedCount]
  · rw [List.append_assoc, List.append_assoc, firstPersisted_append_left hbefore,
      firstPersisted_append_left b.persistedCount?_eq_none_of_live,
      firstPersisted_append_left hbetween, persistedCount]

/-- **The last live count**, if there is one, replaces the persisted counts before it, and yields to
those behind it only if it is zero. -/
theorem bytesTransferred_of_lastLive_eq_some {count : Int64} (hsome : b.lastLive = some count)
    (t : Transfer) :
    (family.performAll t (b.calls b.persistent.calls b.live.calls)).bytesTransferred = count ∧
      (family.performAll t (b.calls b.live.calls b.persistent.calls)).bytesTransferred =
        if count = 0 then b.persistedCount else count := by
  obtain ⟨front, c, back, hcalls, hc, hback⟩ := exists_of_lastReading_eq_some hsome
  have hbehind : ∀ c' ∈ back, persistedCount? c' = none := fun c' hc' =>
    b.persistedCount?_eq_none_of_live c' (by simp [hcalls, hc'])
  have hafter : ∀ c ∈ b.after.flatMap Item.calls, persistedCount? c = none :=
    b.persistedCount?_eq_none_of_other (by simp)
  constructor
  · have horder : b.calls b.persistent.calls b.live.calls =
        (b.before.flatMap Item.calls ++ b.persistent.calls ++ b.between.flatMap Item.calls ++
          front) ++ c :: (back ++ b.after.flatMap Item.calls) := by
      simp [calls, hcalls]
    have hlast : ∀ c' ∈ back ++ b.after.flatMap Item.calls, liveCount? c' = none :=
      List.forall_mem_append.mpr ⟨hback, b.liveCount?_eq_none_of_other (by simp)⟩
    -- no persisted count comes behind the last live one
    have hzero : firstPersisted back = 0 :=
      firstPersisted_eq_zero_iff.mpr fun c' hc' => by simp [hbehind c' hc']
    rw [horder, bytesTransferred_of_last_live hc hlast, firstPersisted_append_right hafter, hzero]
    split <;> simp [*]
  · have horder : b.calls b.live.calls b.persistent.calls =
        (b.before.flatMap Item.calls ++ front) ++ c :: (back ++ (b.between.flatMap Item.calls ++
          (b.persistent.calls ++ b.after.flatMap Item.calls))) := by
      simp [calls, hcalls]
    have hlast : ∀ c' ∈ back ++ (b.between.flatMap Item.calls ++ (b.persistent.calls ++
        b.after.flatMap Item.calls)), liveCount? c' = none := by
      simp only [List.forall_mem_append]
      exact ⟨hback, b.liveCount?_eq_none_of_other (by simp), b.liveCount?_eq_none_of_persistent,
        b.liveCount?_eq_none_of_other (by simp)⟩
    -- all persisted counts come behind the last live one
    rw [horder, bytesTransferred_of_last_live hc hlast, firstPersisted_append_left hbehind,
      firstPersisted_append_left (b.persistedCount?_eq_none_of_other (by simp)),
      firstPersisted_append_right hafter, persistedCount]

/-- The bytes transferred with the persistent state first: the last live count, and without one
what the persistent state has made of the draft. -/
def bytesPersistentFirst (t : Transfer) : Int64 :=
  b.lastLive.getD (b.bytesPersisted t)

/-- The bytes transferred with the live counters first: a last live count of zero yields to the
first persisted count other than zero. -/
def bytesLiveFirst (t : Transfer) : Int64 :=
  b.lastLive.elim (b.bytesPersisted t) fun count => if count = 0 then b.persistedCount else count

/-- What becomes of a draft, but for the bytes transferred. -/
def transfer (t : Transfer) (bytes : Int64) : Transfer :=
  { family.performAll t (b.calls b.persistent.calls b.live.calls) with bytesTransferred := bytes }

theorem performAll_persistentFirst (t : Transfer) :
    family.performAll t (b.calls b.persistent.calls b.live.calls) =
      b.transfer t (b.bytesPersistentFirst t) := by
  rw [transfer, bytesPersistentFirst]
  rcases hlast : b.lastLive with _ | count
  · rw [Option.getD_none, ← (b.bytesTransferred_of_lastLive_eq_none hlast t).1]
  · rw [Option.getD_some, ← (b.bytesTransferred_of_lastLive_eq_some hlast t).1]

theorem performAll_liveFirst (t : Transfer) :
    family.performAll t (b.calls b.live.calls b.persistent.calls) =
      b.transfer t (b.bytesLiveFirst t) := by
  rw [performAll_exchange, transfer, bytesLiveFirst]
  rcases hlast : b.lastLive with _ | count
  · rw [Option.elim_none, (b.bytesTransferred_of_lastLive_eq_none hlast t).2]
  · rw [Option.elim_some, (b.bytesTransferred_of_lastLive_eq_some hlast t).2]

/-- The two orders differ only if a live count of zero meets a persisted count. -/
theorem bytesPersistentFirst_eq_iff (t : Transfer) :
    b.bytesPersistentFirst t = b.bytesLiveFirst t ↔
      ¬ (b.lastLive = some 0 ∧ b.persistedCount ≠ 0) := by
  rw [bytesPersistentFirst, bytesLiveFirst]
  rcases b.lastLive with _ | count
  · simp
  · by_cases hzero : count = 0 <;> simp [hzero, eq_comm]

/-- The transfers of a reply, with one of them in the middle. -/
theorem parse_value {first second front back : List Event} {calls calls' : List Call}
    (hfirst : Assembler.Performs family first calls)
    (hsecond : Assembler.Performs family second calls') {reply : String}
    (hok : (scan reply).result = .ok ())
    (hevents : (scan reply).events = front ++ b.events first second ++ back) :
    (parse reply).value = ((Assembler.new family).run family front).records.toList ++
      (family.complete (family.performAll
        (((Assembler.new family).run family front).openDraft family)
        (b.calls calls calls'))).toList ++ family.batch back := by
  obtain ⟨hidle, hrecords⟩ :=
    b.run_events hfirst hsecond ((Assembler.new family).run family front)
  have hparsed := family.tryParse_of_ok hok
  rw [hevents, Assembler.run_append, Assembler.run_append,
    Assembler.run_records_of_idle back hidle, hrecords] at hparsed
  exact RecordFamily.parseFor_value_of_tryParse .assembly hparsed

end TwoContainers

/-- **The order of the containers** of a transfer matters only if the last live count is zero and
there is a persisted count other than zero. Two replies that differ in this order give the same
transfers before it and behind it, and the transfer itself is the same but for the bytes
transferred. It may stand anywhere in the replies, inside another transfer too. -/
theorem exchange_containers (b : TwoContainers) {reply reply' : String} {front back : List Event}
    (hok : (scan reply).result = .ok ()) (hok' : (scan reply').result = .ok ())
    (hevents : (scan reply).events = front ++ b.persistentFirst ++ back)
    (hevents' : (scan reply').events = front ++ b.liveFirst ++ back) :
    let t := ((Assembler.new family).run family front).openDraft family
    (∃ earlier later,
      (parse reply).value =
        earlier ++ (family.complete (b.transfer t (b.bytesPersistentFirst t))).toList ++ later ∧
      (parse reply').value =
        earlier ++ (family.complete (b.transfer t (b.bytesLiveFirst t))).toList ++ later) ∧
      (b.bytesPersistentFirst t = b.bytesLiveFirst t ↔
        ¬ (b.lastLive = some 0 ∧ b.persistedCount ≠ 0)) ∧
      (¬ (b.lastLive = some 0 ∧ b.persistedCount ≠ 0) →
        (parse reply).value = (parse reply').value) := by
  intro t
  have hparsed := b.parse_value b.performs_persistent b.performs_live hok hevents
  have hparsed' := b.parse_value b.performs_live b.performs_persistent hok' hevents'
  rw [b.performAll_persistentFirst] at hparsed
  rw [b.performAll_liveFirst] at hparsed'
  refine ⟨⟨_, _, hparsed, hparsed'⟩, b.bytesPersistentFirst_eq_iff t, fun hcounts => ?_⟩
  rw [hparsed, hparsed', (b.bytesPersistentFirst_eq_iff _).mpr hcounts]

/-- A transfer with both containers, the persistent state first. -/
def sampleTransfer : String :=
  "<file_transfer><name>f</name><project_url>u</project_url>
    <persistent_file_xfer><last_bytes_xferred>1500</last_bytes_xferred></persistent_file_xfer>
    <file_xfer><bytes_xferred>2000</bytes_xferred></file_xfer>
    </file_transfer>"

/-- The same with the live counters first. -/
def exchangedTransfer : String :=
  "<file_transfer><name>f</name><project_url>u</project_url>
    <file_xfer><bytes_xferred>2000</bytes_xferred></file_xfer>
    <persistent_file_xfer><last_bytes_xferred>1500</last_bytes_xferred></persistent_file_xfer>
    </file_transfer>"

/-- A live count that is not zero is taken in either order. -/
theorem exchange_containers_sample :
    (parse sampleTransfer).value = (parse exchangedTransfer).value := by
  let persistent : Container "persistent_file_xfer" persistentTags :=
    { name := "persistent_file_xfer"
      items := [.leaf "last_bytes_xferred" [] ["1500"]]
      isTag := sameTag_self _
      names := fun name hname => .inl (by
        obtain rfl : name = "last_bytes_xferred" := by simpa [Item.name?] using hname
        decide +kernel) }
  let live : Container "file_xfer" liveTags :=
    { name := "file_xfer"
      items := [.leaf "bytes_xferred" [] ["2000"]]
      isTag := sameTag_self _
      names := fun name hname => .inl (by
        obtain rfl : name = "bytes_xferred" := by simpa [Item.name?] using hname
        decide +kernel) }
  let b : TwoContainers :=
    { boundary := "file_transfer"
      before := [.leaf "name" [] ["f"], .leaf "project_url" [] ["u"], .gap "\n    "]
      persistent := persistent
      between := [.gap "\n    "]
      live := live
      after := [.gap "\n    "]
      isBoundary := sameTag_self _
      other_names := fun name hname => by
        obtain rfl | rfl : name = "name" ∨ name = "project_url" := by
          simpa [Item.name?] using hname
        all_goals decide +kernel }
  have hscan : (scan sampleTransfer).result = .ok () ∧
      (scan sampleTransfer).events = [] ++ b.persistentFirst ++ [] := by
    rw [scan, payload, sampleTransfer, String.toList_ofList]
    decide +kernel
  have hscan' : (scan exchangedTransfer).result = .ok () ∧
      (scan exchangedTransfer).events = [] ++ b.liveFirst ++ [] := by
    rw [scan, payload, exchangedTransfer, String.toList_ofList]
    decide +kernel
  have hcounts : ¬ (b.lastLive = some 0 ∧ b.persistedCount ≠ 0) := by decide +kernel
  exact (exchange_containers b hscan.1 hscan'.1 hscan.2 hscan'.2).2.2 hcounts

/-- **A live count of zero** behind a persisted count is taken, and before one it is forgotten. -/
theorem exchange_containers_zero :
    tryParse "<file_transfer><name>f</name><project_url>u</project_url>
      <persistent_file_xfer><last_bytes_xferred>1500</last_bytes_xferred></persistent_file_xfer>
      <file_xfer><bytes_xferred>0</bytes_xferred></file_xfer></file_transfer>" =
        .ok [{ name := "f", projectUrl := "u", active := true }] ∧
    tryParse "<file_transfer><name>f</name><project_url>u</project_url>
      <file_xfer><bytes_xferred>0</bytes_xferred></file_xfer>
      <persistent_file_xfer><last_bytes_xferred>1500</last_bytes_xferred></persistent_file_xfer>
      </file_transfer>" =
        .ok [{ name := "f", projectUrl := "u", active := true, bytesTransferred := 1500 }] := by
  simp only [tryParse, RecordFamily.tryParse, Assembler.read, scan, payload]
  rw [String.toList_ofList, String.toList_ofList]
  decide +kernel

end Transfer

end DaemonReply
