import DaemonReply.Proofs.Writers

/-!
# Records survive the way through a reply

Main statement: parsing a written reply yields its records, for each of the four record families
(`tryParse_written_records`). Every list of records can be written, as long as its seconds and
counts are of a size up to which binary64 is exact (`exists_writtenReply`).
-/

namespace DaemonReply

open Markup

/-! ### Every list of records can be written -/

/-- Whether a name can be that of a leaf as it is: not empty, of the characters of written names,
and in lower case. -/
def isLeafName (name : String) : Bool :=
  name != "" && name.toList.all isNameChar && !name.toList.any Char.isUpper

/-- A leaf with a name and a text. -/
def Leaf.plain (name text : String) (h : isLeafName name = true := by decide) : Leaf where
  name :=
    { chars := name.toList
      ne_nil := by
        have hne : name ≠ "" := by
          simp only [isLeafName, Bool.and_eq_true, bne_iff_ne] at h
          exact h.1.1
        simpa using hne
      legal := by
        simp only [isLeafName, Bool.and_eq_true] at h
        exact h.1.2 }
  content := some text

theorem Leaf.entry_plain {name : String} (text : String) (h : isLeafName name = true) :
    (Leaf.plain name text h).entry = (name, text) := by
  have hlower : name.toList.any Char.isUpper = false := by
    simp only [isLeafName, Bool.and_eq_true, Bool.not_eq_true'] at h
    exact h.2
  have hname : (Leaf.plain name text h).tag.name.reported = name := String.ofList_toList
  rw [entry, hname, foldCase_eq_self hlower]
  rfl

/-- Names and texts are those of some leaves. -/
theorem exists_leaves {entries : List (String × String)}
    (h : (entries.map Prod.fst).all isLeafName = true) :
    ∃ leaves : List (Blanks × Leaf), leaves.map (fun spaced => spaced.2.entry) = entries := by
  induction entries with
  | nil => exact ⟨[], rfl⟩
  | cons first rest ih =>
    rw [List.map_cons, List.all_cons, Bool.and_eq_true] at h
    obtain ⟨leaves, hleaves⟩ := ih h.2
    refine ⟨(.empty, .plain first.1 first.2 h.1) :: leaves, ?_⟩
    rw [List.map_cons, hleaves, Leaf.entry_plain]

/-- The tag of a family's boundary, written as the family names it. -/
def RecordFamily.boundaryTag {β ρ : Type} (family : RecordFamily β ρ)
    (h : isLeafName family.boundary = true := by decide) : Tag :=
  (Leaf.plain family.boundary "" h).tag

theorem RecordFamily.isBoundary_boundaryTag {β ρ : Type} (family : RecordFamily β ρ)
    (h : isLeafName family.boundary = true) :
    family.isBoundary (family.boundaryTag h).name.reported = true := by
  have hname : (family.boundaryTag h).name.reported = family.boundary := String.ofList_toList
  rw [hname, isBoundary, sameTag_self]

/-- Records can be written together if each of them can. -/
theorem RecordWriter.exists_reply {β ρ : Type} {family : RecordFamily β ρ}
    (writer : RecordWriter family) (hboundary : isLeafName family.boundary = true)
    {records : List ρ}
    (h : ∀ record ∈ records, ∃ entries, writer.Writes record entries ∧
      (entries.map Prod.fst).all isLeafName = true) :
    ∃ reply : WrittenReply writer, reply.records = records := by
  induction records with
  | nil => exact ⟨{ wrappers := [], blocks := [] }, rfl⟩
  | cons first rest ih =>
    obtain ⟨entries, hwrites, hnames⟩ := h first List.mem_cons_self
    obtain ⟨leaves, rfl⟩ := exists_leaves hnames
    obtain ⟨reply, hreply⟩ := ih fun record hrecord => h record (List.mem_cons_of_mem first hrecord)
    let block : WrittenRecord writer :=
      { record := first
        tag := family.boundaryTag hboundary
        isBoundary := family.isBoundary_boundaryTag hboundary
        leaves := leaves
        writes := hwrites }
    refine ⟨{ reply with blocks := block :: reply.blocks }, ?_⟩
    rw [← hreply]
    rfl

/-- **Every list of records can be written** if its seconds and counts can be read exactly. -/
theorem exists_writtenReply :
    (∀ records : List Message, (∀ m ∈ records, m.timestamp.toInt.natAbs ≤ 2 ^ 53) →
      ∃ reply : WrittenReply Message.writer, reply.records = records) ∧
    (∀ records : List AppVersion,
      ∃ reply : WrittenReply AppVersion.writer, reply.records = records) ∧
    (∀ records : List Transfer, (∀ t ∈ records, t.IsExact) →
      ∃ reply : WrittenReply Transfer.writer, reply.records = records) ∧
    (∀ records : List AccountManager,
      ∃ reply : WrittenReply AccountManager.writer, reply.records = records) := by
  refine ⟨fun records hexact => ?_, fun records => ?_, fun records hexact => ?_, fun records => ?_⟩
  -- each family's usual names can be written as they are
  · refine Message.writer.exists_reply (by decide) fun m hm => ?_
    refine ⟨m.entries "pri" "time", ⟨hexact m hm, "pri", by simp, "time", by simp, .refl _⟩, ?_⟩
    rw [Message.map_fst_entries]
    decide
  · refine AppVersion.writer.exists_reply (by decide) fun v _ => ⟨v.entries, .refl _, ?_⟩
    rw [AppVersion.map_fst_entries]
    decide
  · refine Transfer.writer.exists_reply (by decide) fun t ht =>
      ⟨t.entries, ⟨hexact t ht, .refl _⟩, ?_⟩
    have hnames : Transfer.leafNames.all isLeafName = true := by decide
    exact List.all_eq_true.mpr fun name hname =>
      List.all_eq_true.mp hnames name (t.map_fst_entries_subset hname)
  · refine AccountManager.writer.exists_reply (by decide) fun a _ => ⟨a.entries, .refl _, ?_⟩
    rw [AccountManager.map_fst_entries]
    decide

/-! ### The round trip -/

/-- **Records survive the way through a reply.** Written with one leaf for every field, in any
order and with any blanks, inside any wrappers, and followed by a terminator and anything at all,
records are parsed as they were: all that are to be kept, in order, and of account managers the
last one. -/
theorem tryParse_written_records (rest : List Char) :
    (∀ reply : WrittenReply Message.writer,
      Message.tryParse (reply.text rest) =
        .ok (reply.records.filter fun m => m.sequenceNumber != -1)) ∧
    (∀ reply : WrittenReply AppVersion.writer,
      AppVersion.tryParse (reply.text rest) =
        .ok (reply.records.filter fun v => v.appName != "")) ∧
    (∀ reply : WrittenReply Transfer.writer,
      Transfer.tryParse (reply.text rest) =
        .ok (reply.records.filter fun t => t.name != "" && t.projectUrl != "")) ∧
    (∀ reply : WrittenReply AccountManager.writer,
      AccountManager.tryParse (reply.text rest) = .ok reply.records.getLast?) := by
  refine ⟨fun reply => reply.tryParse_text rest, fun reply => reply.tryParse_text rest,
    fun reply => reply.tryParse_text rest, fun reply => ?_⟩
  have hall : reply.records.filter AccountManager.writer.kept = reply.records :=
    List.filter_eq_self.mpr fun _ _ => rfl
  rw [AccountManager.tryParse, reply.tryParse_text rest, hall]
  rfl

/-- A message with a number. -/
def sampleMessage : Message :=
  { sequenceNumber := 7, priority := 1, project := "p&q", timestamp := 1500, body := " a<b " }

/-- The sample message, its leaves in an order of their own, and a message without a number. -/
def sampleReply : WrittenReply Message.writer where
  wrappers :=
    [{ tag := { name := { base := { chars := ['r'] } } }
       foreign := RecordFamily.isBoundary_eq_false_of_mem (by decide)
         (show ["r"].all _ = true by decide) (List.mem_singleton.mpr rfl) }]
  blocks :=
    [{ record := sampleMessage
       gap := { chars := ['\n'] }
       tag := Message.family.boundaryTag
       isBoundary := Message.family.isBoundary_boundaryTag (by decide)
       leaves :=
         [({ chars := ['\n', ' '] }, .plain "seqno" "7"),
           (.empty, .plain "body" " a<b "),
           (.empty, .plain "priority" "1"),
           (.empty, .plain "project" "p&q"),
           (.empty, .plain "time" "1500")]
       writes := by
         simp only [List.map_cons, List.map_nil, Leaf.entry_plain]
         exact ⟨by decide, "priority", by simp, "time", by simp, by decide⟩
       trail := { chars := ['\n'] } },
     { record := Message.empty
       tag := Message.family.boundaryTag
       isBoundary := Message.family.isBoundary_boundaryTag (by decide)
       leaves :=
         [(.empty, .plain "body" ""), (.empty, .plain "pri" "-1"),
           (.empty, .plain "project" ""), (.empty, .plain "timestamp" "0"),
           (.empty, .plain "seqno" "-1")]
       writes := by
         simp only [List.map_cons, List.map_nil, Leaf.entry_plain]
         exact ⟨by decide, "pri", by simp, "timestamp", by simp, by decide⟩ }]
  trail := { chars := ['\n'] }

/-- The sample message is parsed from what is sent, and the other one is not kept. -/
theorem tryParse_written_sampleReply :
    sampleReply.text ['x'] =
        "<r>\n<msg>\n <seqno>7</seqno><body> a&lt;b </body><priority>1</priority>" ++
          "<project>p&amp;q</project><time>1500</time>\n</msg>" ++
          "<msg><body></body><pri>-1</pri><project></project><timestamp>0</timestamp>" ++
          "<seqno>-1</seqno></msg>\n</r>\x03x" ∧
      Message.tryParse (sampleReply.text ['x']) = .ok [sampleMessage] := by
  refine ⟨by decide +kernel, ?_⟩
  rw [(tryParse_written_records ['x']).1 sampleReply]
  rfl

end DaemonReply
