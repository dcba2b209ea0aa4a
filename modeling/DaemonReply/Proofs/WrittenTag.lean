import DaemonReply.Markup.Scanner
import DaemonReply.Proofs.Spelling

/-!
# Tags as they are written

A `Tag` is a start tag together with the way it is written: its name with or without a prefix,
the blanks in it, and the spelling of every attribute value. Its fields carry what makes it well
formed, so `Tag.content` always is the content of a start tag.

Main statements: reading the content of a tag gives back its name and its attributes, and tells
whether it is marked as empty (`Tag.read_content`, `Tag.read_emptyContent`); and no `>` in it is
outside quotes (`Tag.passQuotes_content`), so a scanner finds the end where it is.
-/

namespace DaemonReply.Markup

open Text

/-! ### Names and blanks -/

/-- The characters of written names. -/
def isNameChar (c : Char) : Bool :=
  c.isAlphanum || c = '_' || c = '-' || c = '.'

/-- Characters that mean something in a tag are in no name. -/
theorem isNameChar_eq_false_of_mem {c : Char}
    (hc : c ∈ ['>', '<', '/', '!', '?', '=', ':', '"', '\'', ' ', '\t', '\n', '\r', '\x03']) :
    isNameChar c = false := by
  have hall : ['>', '<', '/', '!', '?', '=', ':', '"', '\'', ' ', '\t', '\n', '\r', '\x03'].all
      (!isNameChar ·) = true := by
    decide
  simpa using List.all_eq_true.mp hall c hc

/-- A blank is one of four characters. -/
theorem isBlank_iff {c : Char} : isBlank c = true ↔ c ∈ [' ', '\t', '\n', '\r'] := by
  simp [isBlank, or_assoc]

/-- A name without a prefix. -/
structure Name where
  chars : List Char
  ne_nil : chars ≠ [] := by decide
  legal : chars.all isNameChar = true := by decide

theorem Name.isNameChar_of_mem (name : Name) {c : Char} (hc : c ∈ name.chars) :
    isNameChar c = true :=
  List.all_eq_true.mp name.legal c hc

/-- No character of a name is a colon. -/
theorem Name.colon_notMem (name : Name) : ':' ∉ name.chars := by
  intro hmem
  have := name.isNameChar_of_mem hmem
  simp [isNameChar_eq_false_of_mem] at this

/-- Blanks, in any number. -/
structure Blanks where
  chars : List Char
  blank : chars.all isBlank = true := by decide

theorem Blanks.isBlank_of_mem (blanks : Blanks) {c : Char} (hc : c ∈ blanks.chars) :
    isBlank c = true :=
  List.all_eq_true.mp blanks.blank c hc

/-- No blanks at all. -/
def Blanks.empty : Blanks := ⟨[], rfl⟩

/-- The name of an element, which may have a prefix. -/
structure ElementName where
  front : Option Name := none
  base : Name

namespace ElementName

/-- A name in full, as it is written. -/
def written (name : ElementName) : List Char :=
  match name.front with
  | none => name.base.chars
  | some front => front.chars ++ ':' :: name.base.chars

/-- The part of a name that events report. -/
def reported (name : ElementName) : String :=
  String.ofList name.base.chars

/-- The local part of a name is what follows its prefix. -/
theorem localName_written (name : ElementName) : localName name.written = name.base.chars := by
  rcases hfront : name.front with _ | front
  · simp only [written, hfront]
    exact localName_eq_self name.base.colon_notMem
  · simp only [written, hfront]
    exact localName_append_colon name.base.chars front.colon_notMem

/-- A full name has name characters, and perhaps a colon. -/
theorem isNameChar_or_eq_of_mem {name : ElementName} {c : Char} (hc : c ∈ name.written) :
    isNameChar c = true ∨ c = ':' := by
  rcases hfront : name.front with _ | front
  · simp only [written, hfront] at hc
    exact .inl (name.base.isNameChar_of_mem hc)
  · simp only [written, hfront, List.mem_append, List.mem_cons] at hc
    rcases hc with hc | rfl | hc
    · exact .inl (front.isNameChar_of_mem hc)
    · exact .inr rfl
    · exact .inl (name.base.isNameChar_of_mem hc)

/-- Nothing that means something in a tag is in a full name, a colon apart. -/
theorem notMem_written {name : ElementName} {c : Char}
    (hc : c ∈ ['>', '<', '/', '!', '?', '=', '"', '\'', ' ', '\t', '\n', '\r', '\x03']) :
    c ∉ name.written := by
  intro hmem
  rcases isNameChar_or_eq_of_mem hmem with hname | rfl
  · have := isNameChar_eq_false_of_mem (c := c) (by simp only [List.mem_cons] at hc ⊢; tauto)
    simp [hname] at this
  · simp at hc

theorem written_ne_nil (name : ElementName) : name.written ≠ [] := by
  rcases hfront : name.front with _ | front <;> simp [written, hfront, name.base.ne_nil]

/-- No character of a full name is a blank. -/
theorem isBlank_eq_false_of_mem {name : ElementName} {c : Char} (hc : c ∈ name.written) :
    isBlank c = false := by
  by_contra hblank
  rw [Bool.not_eq_false, isBlank_iff] at hblank
  exact notMem_written (by simp only [List.mem_cons] at hblank ⊢; tauto) hc

end ElementName

/-! ### Reading attributes -/

namespace AttributeReader

variable {r : AttributeReader}

/-- A reader that has moved past a text into a phase. -/
def past (r : AttributeReader) (text : List Char) (phase : AttributePhase) : AttributeReader :=
  { r with phase, offset := r.offset + utf8Length text }

@[simp] theorem past_phase (text : List Char) (phase : AttributePhase) :
    (r.past text phase).phase = phase := rfl

@[simp] theorem past_keys (text : List Char) (phase : AttributePhase) :
    (r.past text phase).keys = r.keys := rfl

@[simp] theorem past_attributes (text : List Char) (phase : AttributePhase) :
    (r.past text phase).attributes = r.attributes := rfl

theorem past_nil {phase : AttributePhase} (h : r.phase = phase) : r.past [] phase = r := by
  subst h
  rfl

theorem past_advance (c : Char) (text : List Char) (phase phase' : AttributePhase) :
    (r.advance c phase).past text phase' = r.past (c :: text) phase' := by
  simp [past, advance, Nat.add_assoc]

/-- A reader gets past a text without a fault. -/
def Reads (r : AttributeReader) (text : List Char) (r' : AttributeReader) : Prop :=
  text.foldlM step r = .ok r'

theorem Reads.nil (r : AttributeReader) : r.Reads [] r := rfl

theorem Reads.cons {c : Char} {rest : List Char} {r' r'' : AttributeReader}
    (hstep : r.step c = .ok r') (hrest : r'.Reads rest r'') : r.Reads (c :: rest) r'' := by
  rw [Reads, List.foldlM_cons, hstep]
  exact hrest

theorem Reads.append {front back : List Char} {r' r'' : AttributeReader}
    (hfront : r.Reads front r') (hback : r'.Reads back r'') : r.Reads (front ++ back) r'' := by
  rw [Reads, List.foldlM_append, hfront]
  exact hback

/-- Characters that all are kept in one family of phases leave the reader in that family, with
the characters kept there. -/
theorem reads_kept (phase : List Char → AttributePhase) {text : List Char}
    (hstep : ∀ (r : AttributeReader) (kept : List Char), r.phase = phase kept →
      ∀ c ∈ text, r.step c = .ok (r.advance c (phase (c :: kept))))
    (kept : List Char) (hr : r.phase = phase kept) :
    r.Reads text (r.past text (phase (text.reverse ++ kept))) := by
  induction text generalizing r kept with
  | nil =>
    rw [List.reverse_nil, List.nil_append, past_nil hr]
    exact .nil r
  | cons c rest ih =>
    have hrest := @ih (r.advance c (phase (c :: kept)))
      (fun r' kept' hr' d hd => hstep r' kept' hr' d (by simp [hd])) (c :: kept) rfl
    rw [past_advance] at hrest
    rw [List.reverse_cons, List.append_assoc]
    exact .cons (hstep r kept hr c (by simp)) hrest

/-- Characters that all leave a phase as it is leave the reader in that phase. -/
theorem reads_stays (phase : AttributePhase) {text : List Char}
    (hstep : ∀ r : AttributeReader, r.phase = phase →
      ∀ c ∈ text, r.step c = .ok (r.advance c phase))
    (hr : r.phase = phase) : r.Reads text (r.past text phase) :=
  reads_kept (fun _ => phase) (fun r _ => hstep r) [] hr

/-- Blanks between attributes do not matter. -/
theorem reads_gap (h : r.phase = .gap) (blanks : Blanks) :
    r.Reads blanks.chars (r.past blanks.chars .gap) := by
  refine reads_stays .gap (fun r' hr' c hc => ?_) h
  simp [step, hr', blanks.isBlank_of_mem hc]

/-- A character of a name neither ends a key nor is passed over. -/
private theorem ne_equals_and_not_blank {name : Name} {c : Char} (hc : c ∈ name.chars) :
    c ≠ '=' ∧ isBlank c = false := by
  have hlegal := name.isNameChar_of_mem hc
  constructor
  · rintro rfl
    simp [isNameChar_eq_false_of_mem] at hlegal
  · by_contra hblank
    rw [Bool.not_eq_false, isBlank_iff] at hblank
    rw [isNameChar_eq_false_of_mem (by simp only [List.mem_cons] at hblank ⊢; tauto)] at hlegal
    exact Bool.false_ne_true hlegal

/-- A name is kept as a key. -/
theorem reads_name (h : r.phase = .gap) (name : Name) :
    r.Reads name.chars (r.past name.chars (.key r.offset name.chars.reverse)) := by
  obtain ⟨c, rest, hname⟩ := List.exists_cons_of_ne_nil name.ne_nil
  have hfirst : r.step c = .ok (r.advance c (.key r.offset [c])) := by
    have hc : c ∈ name.chars := by simp [hname]
    simp [step, h, (ne_equals_and_not_blank hc).2]
  have hrest := @reads_kept (r.advance c (.key r.offset [c])) (.key r.offset) rest
    (fun r' kept' hr' d hd => by
      have hd' : d ∈ name.chars := by simp [hname, hd]
      obtain ⟨hne, hblank⟩ := ne_equals_and_not_blank hd'
      simp [step, hr', hne, hblank]) [c] rfl
  rw [past_advance] at hrest
  rw [hname, List.reverse_cons]
  exact .cons hfirst hrest

/-- Behind a new key come blanks, if any, and its `=`. -/
theorem reads_equals {first : Nat} {written : List Char} (h : r.phase = .key first written)
    (hnew : r.keys.lookup written.reverse = none) (blanks : Blanks) :
    r.Reads (blanks.chars ++ ['='])
      { r.past (blanks.chars ++ ['=']) (.beforeValue written.reverse) with
        keys := (written.reverse, first) :: r.keys } := by
  cases hblanks : blanks.chars with
  | nil =>
    -- the `=` itself ends the key
    refine .cons ?_ (.nil _)
    simp [step, h, takeEquals, hnew, advance, past]
  | cons c rest =>
    -- the first blank ends the key, and the others are passed over
    have hblank : ∀ d ∈ c :: rest, isBlank d = true := fun d hd =>
      blanks.isBlank_of_mem (hblanks ▸ hd)
    have hne : ∀ d ∈ c :: rest, d ≠ '=' := by
      rintro d hd rfl
      exact absurd (hblank _ hd) (by decide)
    have hfirst : r.step c = .ok (r.advance c (.afterKey first written)) := by
      simp [step, h, hne c (by simp), hblank c (by simp)]
    have hrest := @reads_stays (r.advance c (.afterKey first written)) (.afterKey first written)
      rest (fun r' hr' d hd => by
        simp [step, hr', hne d (by simp [hd]), hblank d (by simp [hd])]) rfl
    rw [past_advance] at hrest
    refine .cons hfirst (.append hrest (.cons ?_ (.nil _)))
    simp [step, takeEquals, hnew, advance, past, Nat.add_assoc]

/-- Behind an `=` come blanks, if any, and then a spelled value in double quotes. -/
theorem reads_value {key : List Char} (h : r.phase = .beforeValue key) (blanks : Blanks)
    (value : List (Spelling isPlainInValue)) :
    r.Reads (blanks.chars ++ ('"' :: (Spelling.write value ++ ['"'])))
      { r.past (blanks.chars ++ ('"' :: (Spelling.write value ++ ['"']))) .gap with
        attributes := r.attributes ++
          [⟨String.ofList (localName key), String.ofList (value.map Spelling.char)⟩] } := by
  have hblanks : r.Reads blanks.chars (r.past blanks.chars (.beforeValue key)) := by
    refine reads_stays _ (fun r' hr' c hc => ?_) h
    simp [step, hr', blanks.isBlank_of_mem hc]
  have hquote : (r.past blanks.chars (.beforeValue key)).step '"' =
      .ok (r.past (blanks.chars ++ ['"']) (.value key '"' [])) := by
    have hnot : isBlank '"' = false := by decide
    simp [step, hnot, advance, past, Nat.add_assoc]
  have hne : ∀ c ∈ Spelling.write value, c ≠ '"' := by
    rintro c hc rfl
    exact absurd (Spelling.plain_of_mem_write (by simp) hc) (by decide)
  -- no spelling has a double quote, so the value ends only at its own
  have hvalue := @reads_kept (r.past (blanks.chars ++ ['"']) (.value key '"' []))
    (.value key '"') (Spelling.write value)
    (fun r' kept' hr' c hc => by simp [step, hr', hne c hc]) [] rfl
  refine .append hblanks (.cons hquote (.append hvalue (.cons ?_ (.nil _))))
  have hdecode := Spelling.decode_write (by decide) value
  simp [step, takeValue, hdecode, advance, past, Nat.add_assoc]

end AttributeReader

/-! ### Attributes -/

/-- An attribute as it is written: blanks before it, which there have to be, and perhaps around
its `=`, and a spelled value between double quotes. -/
structure WrittenAttribute where
  gap : Blanks
  gap_ne_nil : gap.chars ≠ []
  name : Name
  beforeEquals : Blanks := .empty
  afterEquals : Blanks := .empty
  value : List (Spelling isPlainInValue)

namespace WrittenAttribute

/-- How an attribute is written. -/
def written (a : WrittenAttribute) : List Char :=
  a.gap.chars ++ (a.name.chars ++ ((a.beforeEquals.chars ++ ['=']) ++
    (a.afterEquals.chars ++ ('"' :: (Spelling.write a.value ++ ['"'])))))

/-- The attribute that is written. -/
def reported (a : WrittenAttribute) : Attribute :=
  ⟨String.ofList a.name.chars, String.ofList (a.value.map Spelling.char)⟩

end WrittenAttribute

namespace AttributeReader

variable {r : AttributeReader}

/-- A reader between two attributes: the keys met so far, the latest first, and the attributes
read so far. -/
structure Between (r : AttributeReader) (keys : List (List Char)) (read : List Attribute) :
    Prop where
  phase_eq : r.phase = .gap
  keys_eq : r.keys.map Prod.fst = keys
  attributes_eq : r.attributes = read

variable {keys : List (List Char)} {read : List Attribute}

/-- **One attribute** with a new name is read. -/
theorem Between.reads_attribute (h : r.Between keys read) (a : WrittenAttribute)
    (hnew : a.name.chars ∉ keys) :
    ∃ r', r.Reads a.written r' ∧
      r'.Between (a.name.chars :: keys) (read ++ [a.reported]) := by
  have hlookup : r.keys.lookup a.name.chars.reverse.reverse = none := by
    rw [List.reverse_reverse, List.lookup_eq_none_iff]
    intro entry hentry
    rw [bne_iff_ne]
    rintro heq
    exact hnew (h.keys_eq ▸ List.mem_map.mpr ⟨entry, hentry, heq.symm⟩)
  -- where the reader stands at the name, behind it, and behind the `=`
  let atName := r.past a.gap.chars .gap
  let behindName := atName.past a.name.chars (.key atName.offset a.name.chars.reverse)
  have hgap : r.Reads a.gap.chars atName := reads_gap h.phase_eq a.gap
  have hname : atName.Reads a.name.chars behindName := reads_name rfl a.name
  let behindEquals : AttributeReader :=
    { behindName.past (a.beforeEquals.chars ++ ['=']) (.beforeValue a.name.chars.reverse.reverse)
      with keys := (a.name.chars.reverse.reverse, atName.offset) :: r.keys }
  have hequals : behindName.Reads (a.beforeEquals.chars ++ ['=']) behindEquals :=
    @reads_equals behindName atName.offset _ rfl hlookup a.beforeEquals
  have hvalue := @reads_value behindEquals _ rfl a.afterEquals a.value
  refine ⟨_, hgap.append (hname.append (hequals.append hvalue)), rfl, ?_, ?_⟩
  · simp [behindEquals, h.keys_eq]
  · simp [behindEquals, behindName, atName, h.attributes_eq, WrittenAttribute.reported,
      localName_eq_self a.name.colon_notMem]

/-- **A list of attributes** whose names are new and differ from each other is read. -/
theorem Between.reads_attributes (h : r.Between keys read) {attributes : List WrittenAttribute}
    (hdistinct : (attributes.map (·.name.chars)).Nodup)
    (hnew : ∀ a ∈ attributes, a.name.chars ∉ keys) :
    ∃ r' keys', r.Reads (attributes.flatMap WrittenAttribute.written) r' ∧
      r'.Between keys' (read ++ attributes.map WrittenAttribute.reported) := by
  induction attributes generalizing r keys read with
  | nil => exact ⟨r, keys, .nil r, by simpa using h⟩
  | cons a rest ih =>
    obtain ⟨ha, hrest⟩ := List.nodup_cons.mp hdistinct
    obtain ⟨r', hread, hbetween⟩ := h.reads_attribute a (hnew a (by simp))
    have hnew' : ∀ b ∈ rest, b.name.chars ∉ a.name.chars :: keys := by
      intro b hb hmem
      rcases List.mem_cons.mp hmem with heq | hmem
      · exact ha (List.mem_map.mpr ⟨b, hb, heq⟩)
      · exact hnew b (by simp [hb]) hmem
    obtain ⟨r'', keys', hreads, hfinal⟩ := ih hbetween hrest hnew'
    exact ⟨r'', keys', hread.append hreads, by simpa using hfinal⟩

end AttributeReader

/-! ### Tags -/

/-- Without attributes there is nothing to tell apart. -/
theorem nodup_names_nil : (([] : List WrittenAttribute).map (·.name.chars)).Nodup :=
  List.nodup_nil

/-- A start tag as it is written: a name, attributes with different names, and perhaps blanks
before the end. -/
structure Tag where
  name : ElementName
  attributes : List WrittenAttribute := []
  distinct : (attributes.map (·.name.chars)).Nodup := by exact nodup_names_nil
  trail : Blanks := .empty

namespace Tag

/-- What stands behind the name of a tag. -/
def tail (tag : Tag) : List Char :=
  tag.attributes.flatMap WrittenAttribute.written ++ tag.trail.chars

/-- What stands between the `<` and the `>` of a tag, a mark of an empty element apart. -/
def content (tag : Tag) : List Char :=
  tag.name.written ++ tag.tail

/-- The event that a tag causes. -/
def opening (tag : Tag) : Event :=
  .opened tag.name.reported (tag.attributes.map WrittenAttribute.reported)

/-- The attributes of a tag are read, wherever its name ends. -/
theorem readAttributes_tail (tag : Tag) (offset : Nat) :
    readAttributes offset tag.tail = .ok (tag.attributes.map WrittenAttribute.reported) := by
  have hinitial : AttributeReader.Between { offset } [] [] := ⟨rfl, rfl, rfl⟩
  obtain ⟨r, keys, hreads, hbetween⟩ :=
    hinitial.reads_attributes tag.distinct fun _ _ => List.not_mem_nil
  have htrail := AttributeReader.reads_gap hbetween.phase_eq tag.trail
  have hall : tag.tail.foldlM AttributeReader.step { offset } =
      .ok (r.past tag.trail.chars .gap) := hreads.append htrail
  rw [readAttributes, hall]
  change (r.past tag.trail.chars .gap).finish = _
  simpa [AttributeReader.finish] using hbetween.attributes_eq

/-- Behind the name stands a blank or nothing. -/
theorem isBlank_of_head?_tail {tag : Tag} {c : Char} (hc : tag.tail.head? = some c) :
    isBlank c = true := by
  rcases hattributes : tag.attributes with _ | ⟨a, rest⟩
  · simp only [tail, hattributes, List.flatMap_nil, List.nil_append] at hc
    exact tag.trail.isBlank_of_mem (List.mem_of_mem_head? hc)
  · obtain ⟨d, gap, hgap⟩ := List.exists_cons_of_ne_nil a.gap_ne_nil
    obtain rfl : d = c := by
      simpa [tail, hattributes, WrittenAttribute.written, hgap] using hc
    exact a.gap.isBlank_of_mem (by simp [hgap])

theorem takeWhile_content (tag : Tag) : tag.content.takeWhile (!isBlank ·) = tag.name.written := by
  have hname : ∀ c ∈ tag.name.written, (!isBlank c) = true := fun c hc => by
    simp [ElementName.isBlank_eq_false_of_mem hc]
  rw [content, List.takeWhile_append_of_pos hname]
  rcases htail : tag.tail with _ | ⟨c, rest⟩
  · simp
  · simp [isBlank_of_head?_tail (show tag.tail.head? = some c by simp [htail])]

theorem dropWhile_content (tag : Tag) : tag.content.dropWhile (!isBlank ·) = tag.tail := by
  have hsplit := List.takeWhile_append_dropWhile (p := (!isBlank ·)) (l := tag.content)
  rw [takeWhile_content] at hsplit
  exact List.append_cancel_left hsplit

/-- No tag ends in a slash of its own. -/
theorem getLast?_content (tag : Tag) : tag.content.getLast? ≠ some '/' := by
  intro hlast
  -- the last character belongs to the blanks, or else to an attribute, or else to the name
  rw [content, tail, List.getLast?_append, List.getLast?_append] at hlast
  rcases htrail : tag.trail.chars.getLast? with _ | c
  · rcases List.eq_nil_or_concat tag.attributes with hattributes | ⟨front, a, hattributes⟩
    · simp only [htrail, hattributes, List.flatMap_nil, List.getLast?_nil, Option.none_or] at hlast
      exact ElementName.notMem_written (by simp) (List.mem_of_getLast? hlast)
    · simp [htrail, hattributes, WrittenAttribute.written, List.getLast?_append,
        List.getLast?_cons] at hlast
  · obtain rfl : c = '/' := by simpa [htrail] using hlast
    exact absurd (tag.trail.isBlank_of_mem (List.mem_of_getLast? htrail)) (by decide)

/-- **Reading undoes writing** for the tag of an element with content. -/
theorem read_content (tag : Tag) :
    StartTag.read tag.content =
      .ok ⟨tag.name.written, tag.attributes.map WrittenAttribute.reported, false⟩ := by
  simp only [StartTag.read, splitEmptyMark, if_neg tag.getLast?_content, takeWhile_content,
    dropWhile_content, readAttributes_tail]
  rfl

/-- **Reading undoes writing** for the tag of an empty element. -/
theorem read_emptyContent (tag : Tag) :
    StartTag.read (tag.content ++ ['/']) =
      .ok ⟨tag.name.written, tag.attributes.map WrittenAttribute.reported, true⟩ := by
  have hlast : (tag.content ++ ['/']).getLast? = some '/' := by simp
  simp only [StartTag.read, splitEmptyMark, if_pos hlast, List.dropLast_concat, takeWhile_content,
    dropWhile_content, readAttributes_tail]
  rfl

end Tag

/-! ### Quotes -/

/-- The quote left open by the content of a tag, given the one open before it. There is no
answer if a `>` stands outside quotes. -/
def passQuotes (quote : Option Char) : List Char → Option (Option Char)
  | [] => some quote
  | c :: rest =>
    if c = '>' ∧ quote = none then none else passQuotes (Scanner.nextQuote quote c) rest

theorem passQuotes_append (quote : Option Char) (front back : List Char) :
    passQuotes quote (front ++ back) =
      (passQuotes quote front).bind fun left => passQuotes left back := by
  induction front generalizing quote with
  | nil => rfl
  | cons c front ih =>
    rw [List.cons_append, passQuotes, passQuotes]
    split
    · rfl
    · exact ih _

/-- Characters that are neither quotes nor a `>` leave no quote open. -/
theorem passQuotes_of_plain {text : List Char} (h : ∀ c ∈ ['>', '"', '\''], c ∉ text) :
    passQuotes none text = some none := by
  induction text with
  | nil => rfl
  | cons c rest ih =>
    have hc : c ≠ '>' ∧ c ≠ '"' ∧ c ≠ '\'' := by
      refine ⟨?_, ?_, ?_⟩ <;> rintro rfl <;> exact absurd List.mem_cons_self (h _ (by simp))
    have hrest : ∀ d ∈ ['>', '"', '\''], d ∉ rest := fun d hd hmem =>
      h d hd (List.mem_cons_of_mem c hmem)
    simp [passQuotes, Scanner.nextQuote, hc, ih hrest]

/-- Between double quotes nothing but a double quote matters. -/
theorem passQuotes_quoted {text : List Char} (h : '"' ∉ text) :
    passQuotes (some '"') text = some (some '"') := by
  induction text with
  | nil => rfl
  | cons c rest ih =>
    simp only [List.mem_cons, not_or] at h
    simp [passQuotes, Scanner.nextQuote, Ne.symm h.1, ih h.2]

/-- Blanks are neither quotes nor a `>`. -/
theorem passQuotes_blanks (blanks : Blanks) : passQuotes none blanks.chars = some none := by
  refine passQuotes_of_plain fun c hc hmem => ?_
  have hblank := isBlank_iff.mp (blanks.isBlank_of_mem hmem)
  simp only [List.mem_cons, List.not_mem_nil, or_false] at hc hblank
  rcases hc with rfl | rfl | rfl <;> simp at hblank

/-- Names hold neither quotes nor a `>`. -/
theorem passQuotes_elementName (name : ElementName) : passQuotes none name.written = some none := by
  refine passQuotes_of_plain fun c hc => ElementName.notMem_written ?_
  simp only [List.mem_cons, List.not_mem_nil, or_false] at hc ⊢
  tauto

/-- An attribute closes the quote that it opens. -/
theorem passQuotes_attribute (a : WrittenAttribute) : passQuotes none a.written = some none := by
  have hname : passQuotes none a.name.chars = some none :=
    passQuotes_elementName { base := a.name }
  have hquote : '"' ∉ Spelling.write a.value := fun hmem =>
    absurd (Spelling.plain_of_mem_write (by simp) hmem) (by decide)
  have hvalue : passQuotes none ('"' :: (Spelling.write a.value ++ ['"'])) = some none := by
    change passQuotes (some '"') _ = _
    rw [passQuotes_append, passQuotes_quoted hquote]
    rfl
  have hequals : passQuotes none ['='] = some none := rfl
  simp only [WrittenAttribute.written, passQuotes_append, passQuotes_blanks, hname, hequals,
    hvalue, Option.bind_some]

/-- **No `>` of a tag is outside quotes**, and every quote is closed. -/
theorem Tag.passQuotes_content (tag : Tag) : passQuotes none tag.content = some none := by
  have hattributes : ∀ attributes : List WrittenAttribute,
      passQuotes none (attributes.flatMap WrittenAttribute.written) = some none := by
    intro attributes
    induction attributes with
    | nil => rfl
    | cons a rest ih =>
      rw [List.flatMap_cons, passQuotes_append, passQuotes_attribute]
      exact ih
  simp only [content, tail, passQuotes_append, passQuotes_elementName, hattributes,
    passQuotes_blanks, Option.bind_some]

end DaemonReply.Markup
