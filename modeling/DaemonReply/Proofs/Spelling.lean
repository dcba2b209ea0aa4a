import DaemonReply.Markup.Payload
import DaemonReply.Markup.Reference
import Mathlib.Data.List.Basic
import Mathlib.Tactic.ByContra
import Mathlib.Tactic.SplitIfs

/-!
# Spelled characters

A character of text or of an attribute value can be written in several ways: as itself, by the
name of an entity, or by its number in decimal or hexadecimal digits. A `Spelling` is one
character together with the way it is written; which characters may stand as themselves depends
on where the text is, so `Spelling` takes that class as an argument.

Main statement: decoding what a list of spellings writes gives back their characters
(`Spelling.decode_write`). Every character can be spelled in text: `Spelling.escape` is the way
the daemon does it.
-/

namespace DaemonReply.Markup

open Text

/-! ### Where characters stand as themselves -/

/-- The characters that may stand as themselves in text. -/
def isPlainInText (c : Char) : Bool :=
  c ≠ '&' && c ≠ '<' && c ≠ terminator

/-- The characters that may stand as themselves in a value between double quotes. -/
def isPlainInValue (c : Char) : Bool :=
  isPlainInText c && c ≠ '"'

/-! ### Entities and numbers -/

/-- The characters with a name of their own. -/
inductive Entity where
  | lt
  | gt
  | amp
  | apos
  | quot
  deriving DecidableEq, Repr

namespace Entity

/-- The character that an entity stands for. -/
def char : Entity → Char
  | lt => '<'
  | gt => '>'
  | amp => '&'
  | apos => '\''
  | quot => '"'

/-- The name of an entity, as it stands between `&` and `;`. -/
def name : Entity → List Char
  | lt => ['l', 't']
  | gt => ['g', 't']
  | amp => ['a', 'm', 'p']
  | apos => ['a', 'p', 'o', 's']
  | quot => ['q', 'u', 'o', 't']

end Entity

/-- The two ways to number a character. -/
inductive Radix where
  | decimal
  | hexadecimal
  deriving DecidableEq, Repr

namespace Radix

/-- The number of digits there are. -/
def base : Radix → Nat
  | decimal => 10
  | hexadecimal => 16

/-- What stands between the `#` and the digits. -/
def mark : Radix → List Char
  | decimal => []
  | hexadecimal => ['x']

theorem base_le_sixteen (radix : Radix) : radix.base ≤ 16 := by
  cases radix <;> decide

end Radix

/-- A digit as it is written: a letter digit may be in upper case. -/
structure Digit (radix : Radix) where
  value : Fin radix.base
  upper : Bool := false

namespace Digit

variable {radix : Radix}

/-- The character that writes a digit. -/
def char (d : Digit radix) : Char :=
  if d.upper then (Nat.digitChar d.value).toUpper else Nat.digitChar d.value

/-- The number that digits write. -/
def number (digits : List (Digit radix)) : Nat :=
  digits.foldl (fun value d => value * radix.base + d.value) 0

/-- Every digit is read as what it stands for, in either letter case. -/
theorem digitValue_char (d : Digit radix) : Reference.digitValue d.char = some d.value := by
  have hall : ∀ value : Fin 16, ∀ upper : Bool,
      Reference.digitValue
        (if upper then (Nat.digitChar value).toUpper else Nat.digitChar value) =
          some value.val := by
    decide
  exact hall (d.value.castLE radix.base_le_sixteen) d.upper

/-- A digit is neither a mark of a reference nor a sign nor anything else that markup uses. -/
theorem char_notMem (d : Digit radix) :
    d.char ∉ ['&', ';', '<', '"', '+', '-', 'x', '\x03'] := by
  have hall : ∀ value : Fin 16, ∀ upper : Bool,
      (if upper then (Nat.digitChar value).toUpper else Nat.digitChar value) ∉
        ['&', ';', '<', '"', '+', '-', 'x', '\x03'] := by
    decide
  exact hall (d.value.castLE radix.base_le_sixteen) d.upper

/-- Further digits never make a number smaller. -/
private theorem le_foldl_number (digits : List (Digit radix)) (start : Nat) :
    start ≤ digits.foldl (fun value d => value * radix.base + d.value) start := by
  induction digits generalizing start with
  | nil => exact Nat.le_refl start
  | cons d rest ih =>
    have hbase : 0 < radix.base := by cases radix <;> decide
    have hstart : start ≤ start * radix.base + d.value :=
      Nat.le_add_right_of_le (Nat.le_mul_of_pos_right start hbase)
    exact Nat.le_trans hstart (ih _)

/-- Digits are added up without a fault as long as the number they write fits into 32 bits. -/
private theorem foldlM_addDigit {digits : List (Digit radix)} {start : Nat}
    (hsize : digits.foldl (fun value d => value * radix.base + d.value) start < UInt32.size) :
    (digits.map char).foldlM (Reference.addDigit radix.base) start =
      .ok (digits.foldl (fun value d => value * radix.base + d.value) start) := by
  induction digits generalizing start with
  | nil => rfl
  | cons d rest ih =>
    have hfits : start * radix.base + d.value < UInt32.size :=
      Nat.lt_of_le_of_lt (le_foldl_number rest _) hsize
    have hadd : Reference.addDigit radix.base start d.char =
        .ok (start * radix.base + d.value) := by
      simp [Reference.addDigit, digitValue_char, Option.filter, hfits]
    rw [List.map_cons, List.foldlM_cons, hadd]
    exact ih hsize

/-- The digits of a number that fits into 32 bits are read as that number. -/
theorem readDigits_map_char {digits : List (Digit radix)} (hne : digits ≠ [])
    (hsize : number digits < UInt32.size) :
    Reference.readDigits radix.base (digits.map char) = .ok (number digits) := by
  -- an empty string is a fault of its own, so the digits have to be known to exist
  obtain ⟨d, rest, rfl⟩ := List.exists_cons_of_ne_nil hne
  exact foldlM_addDigit hsize

/-- The digits of a character's number, unless that is zero, stand for the character. -/
theorem ofDigits_map_char {digits : List (Digit radix)} {c : Char} (hc : c ≠ '\x00')
    (hdigits : number digits = c.toNat) :
    Reference.ofDigits radix.base (digits.map char) = .ok c := by
  have hzero : c.toNat ≠ 0 := by
    intro hzero
    exact hc (Char.ext (UInt32.toNat_inj.mp hzero))
  have hne : digits ≠ [] := by
    rintro rfl
    exact hzero hdigits.symm
  have hsize : number digits < UInt32.size := hdigits ▸ c.val.toNat_lt
  -- a sign before the digits would be a fault, but no digit is one
  have hsign : ∀ sign ∈ ['+', '-'], (digits.map char).head? ≠ some sign := by
    obtain ⟨d, rest, rfl⟩ := List.exists_cons_of_ne_nil hne
    have hd := d.char_notMem
    simp only [List.map_cons, List.head?_cons, ne_eq, Option.some.injEq]
    rintro sign hsign rfl
    simp_all
  have hcode : Reference.ofCodepoint c.toNat = .ok c := by
    have hvalid : c.toNat.isValidChar := c.valid
    simp [Reference.ofCodepoint, hzero, hvalid, Char.ofNat_toNat]
  rw [Reference.ofDigits]
  split
  · rename_i hhead
    exact absurd hhead (hsign '+' (by simp))
  · rename_i hhead
    exact absurd hhead (hsign '-' (by simp))
  · rw [readDigits_map_char hne hsize, hdigits]
    exact hcode

end Digit

/-! ### References -/

namespace Reference

/-- What stands between `&` and `;` is gathered up and resolved there. -/
private theorem decodeFrom_pending {size offset : Nat} {written name : List Char} {c : Char}
    (hname : ∀ d ∈ name, d ≠ ';' ∧ d ≠ '&')
    (hresolve : ∀ start, resolve (written.reverse ++ name) start = .ok c) :
    decodeFrom size offset (some written) (name ++ [';']) = .ok [c] := by
  -- the characters gathered so far grow, so the name still to come is what is inducted on
  induction name generalizing offset written with
  | nil =>
    have hc : resolve written.reverse (offset - utf8Length written) = .ok c := by
      simpa using hresolve (offset - utf8Length written)
    simp [decodeFrom, hc, Except.map]
  | cons d rest ih =>
    obtain ⟨hsemi, hamp⟩ := hname d (by simp)
    simp only [List.cons_append, decodeFrom, hsemi, hamp, if_false]
    refine ih (fun e he => hname e (by simp [he])) fun start => ?_
    simpa using hresolve start

/-- A reference that stands for a character is decoded into it. -/
theorem decode_reference {name : List Char} {c : Char} (hname : ∀ d ∈ name, d ≠ ';' ∧ d ≠ '&')
    (hresolve : ∀ start, resolve name start = .ok c) :
    decode ('&' :: (name ++ [';'])) = .ok [c] := by
  rw [decode, decodeFrom, if_pos rfl]
  exact decodeFrom_pending hname (by simpa using hresolve)

/-- **Decoding is piecewise.** -/
theorem decode_append {front back decodedFront decodedBack : List Char}
    (hfront : decode front = .ok decodedFront) (hback : decode back = .ok decodedBack) :
    decode (front ++ back) = .ok (decodedFront ++ decodedBack) := by
  have hrest : decodeFrom (utf8Length (front ++ back)) (0 + utf8Length front) none back =
      .ok decodedBack := by
    have := decodeFrom_append (utf8Length (front ++ back)) (0 + utf8Length front) [] hback
    simpa [decodeFrom, Except.map] using this
  rw [decode, decodeFrom_append _ _ back hfront, hrest]
  rfl

end Reference

/-! ### Spellings -/

/-- A character with the way it is written, where those of the class `plain` may stand as
themselves. -/
inductive Spelling (plain : Char → Bool) where
  /-- As itself. -/
  | raw (c : Char) (hplain : plain c = true)
  /-- By its name. -/
  | named (entity : Entity)
  /-- By its number, perhaps with leading zeros. -/
  | numbered (radix : Radix) (digits : List (Digit radix)) (c : Char) (hc : c ≠ '\x00')
      (hdigits : Digit.number digits = c.toNat)

namespace Spelling

variable {plain : Char → Bool}

/-- The character that is spelled. -/
def char : Spelling plain → Char
  | raw c _ => c
  | named entity => entity.char
  | numbered _ _ c _ _ => c

/-- How the character is written. -/
def written : Spelling plain → List Char
  | raw c _ => [c]
  | named entity => '&' :: (entity.name ++ [';'])
  | numbered radix digits _ _ _ => '&' :: ('#' :: (radix.mark ++ digits.map Digit.char) ++ [';'])

/-- What a list of spellings writes. -/
def write (spelled : List (Spelling plain)) : List Char :=
  spelled.flatMap written

@[simp] theorem write_nil : write ([] : List (Spelling plain)) = [] := rfl

@[simp] theorem write_cons (sp : Spelling plain) (rest : List (Spelling plain)) :
    write (sp :: rest) = sp.written ++ write rest := List.flatMap_cons

/-- The usual spelling in text: the three characters of markup by their names, and all else as
itself. The terminator, which no reply can hold as itself, is numbered. -/
def escape (c : Char) : Spelling isPlainInText :=
  if c = '&' then .named .amp
  else if c = '<' then .named .lt
  else if c = '>' then .named .gt
  else if hplain : isPlainInText c = true then .raw c hplain
  else .numbered .decimal [{ value := ⟨3, by decide⟩ }] terminator (by decide) (by decide)

@[simp] theorem char_escape (c : Char) : (escape c).char = c := by
  simp only [escape]
  split_ifs with hamp hlt hgt hplain
  · exact hamp.symm
  · exact hlt.symm
  · exact hgt.symm
  · rfl
  · have hterminator : c = terminator := by
      by_contra hne
      exact hplain (by simp [isPlainInText, hamp, hlt, hne])
    exact hterminator.symm

/-- What stands for a character in text: the three characters of markup are replaced, and no
other. -/
def replaced (c : Char) : List Char :=
  if c = '&' then ['&', 'a', 'm', 'p', ';']
  else if c = '<' then ['&', 'l', 't', ';']
  else if c = '>' then ['&', 'g', 't', ';']
  else [c]

/-- Any character but the terminator is written as itself or replaced. -/
theorem written_escape {c : Char} (hc : c ≠ terminator) : (escape c).written = replaced c := by
  simp only [escape, replaced]
  split_ifs with hamp hlt hgt hplain
  · rfl
  · rfl
  · rfl
  · rfl
  · exact absurd (by simp [isPlainInText, hamp, hlt, hc]) hplain

/-- The number of a character, with its mark, resolves to the character. -/
private theorem resolve_numbered {radix : Radix} {digits : List (Digit radix)} {c : Char}
    (hc : c ≠ '\x00') (hdigits : Digit.number digits = c.toNat) (start : Nat) :
    Reference.resolve ('#' :: (radix.mark ++ digits.map Digit.char)) start = .ok c := by
  have hread := Digit.ofDigits_map_char hc hdigits
  cases radix with
  | hexadecimal =>
    change Except.mapError _ (Reference.ofDigits 16 (digits.map Digit.char)) = _
    rw [show (16 : Nat) = Radix.hexadecimal.base from rfl, hread]
    rfl
  | decimal =>
    -- the digits of a decimal number never begin with the mark of a hexadecimal one
    have hmark : ∀ rest, digits.map Digit.char ≠ 'x' :: rest := by
      rintro rest heq
      obtain ⟨d, -, hd⟩ : ∃ d ∈ digits, d.char = 'x' :=
        List.mem_map.mp (heq ▸ List.mem_cons_self)
      exact d.char_notMem (by simp [hd])
    have hresolve : Reference.resolve ('#' :: digits.map Digit.char) start =
        Except.mapError .character (Reference.ofDigits 10 (digits.map Digit.char)) := by
      simp only [Reference.resolve]
    rw [Radix.mark, List.nil_append, hresolve, show (10 : Nat) = Radix.decimal.base from rfl,
      hread]
    rfl

/-- A spelling is decoded into its character. -/
theorem decode_written (hplain : plain '&' = false) (sp : Spelling plain) :
    Reference.decode sp.written = .ok [sp.char] := by
  cases sp with
  | raw c hc =>
    have hamp : '&' ∉ [c] := by
      rintro hmem
      rw [List.mem_singleton] at hmem
      simp [← hmem, hplain] at hc
    exact Reference.decodeFrom_eq_self hamp
  | named entity =>
    refine Reference.decode_reference ?_ ?_
    · have hall : entity.name.all (fun d => d ≠ ';' && d ≠ '&') = true := by
        cases entity <;> rfl
      simpa using hall
    · cases entity <;> exact fun _ => rfl
  | numbered radix digits c hc hdigits =>
    refine Reference.decode_reference ?_ (resolve_numbered hc hdigits)
    intro d hd
    simp only [List.mem_cons, List.mem_append, List.mem_map] at hd
    rcases hd with rfl | hmark | ⟨digit, -, rfl⟩
    · decide
    · cases radix with
      | decimal => simp [Radix.mark] at hmark
      | hexadecimal =>
        obtain rfl : d = 'x' := by simpa [Radix.mark] using hmark
        decide
    · have := digit.char_notMem
      simp only [List.mem_cons, not_or] at this
      exact ⟨this.2.1, this.1⟩

/-- **Decoding undoes spelling.** -/
theorem decode_write (hplain : plain '&' = false) (spelled : List (Spelling plain)) :
    Reference.decode (write spelled) = .ok (spelled.map char) := by
  induction spelled with
  | nil => rfl
  | cons sp rest ih =>
    rw [write_cons, List.map_cons, ← List.singleton_append]
    exact Reference.decode_append (sp.decode_written hplain) ih

/-- What is written for a character has no character that is neither plain nor used by
references. -/
theorem plain_of_mem_write {spelled : List (Spelling plain)} {c : Char}
    (hc : c ∈ ['<', '"', '\x03']) (hmem : c ∈ write spelled) : plain c = true := by
  induction spelled with
  | nil => simp at hmem
  | cons sp rest ih =>
    rw [write_cons, List.mem_append] at hmem
    rcases hmem with hmem | hmem
    · cases sp with
      | raw d hd =>
        obtain rfl : c = d := by simpa [written] using hmem
        exact hd
      | named entity =>
        have hnone : ['<', '"', '\x03'].all (· ∉ '&' :: (entity.name ++ [';'])) = true := by
          cases entity <;> decide
        exact absurd hmem (of_decide_eq_true (List.all_eq_true.mp hnone c hc))
      | numbered radix digits d hd hdigits =>
        exfalso
        simp only [written, List.mem_cons, List.mem_append, List.mem_map, List.not_mem_nil,
          or_false] at hmem
        rcases hmem with rfl | (rfl | hmark | ⟨digit, -, rfl⟩) | rfl
        · simp at hc
        · simp at hc
        · cases radix with
          | decimal => simp [Radix.mark] at hmark
          | hexadecimal =>
            obtain rfl : c = 'x' := by simpa [Radix.mark] using hmark
            simp at hc
        · have := digit.char_notMem
          simp_all
        · simp at hc
    · exact ih hmem

end Spelling

end DaemonReply.Markup
