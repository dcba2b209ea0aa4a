import DaemonReply.ForStd
import DaemonReply.Markup.Error
import DaemonReply.Text.Extent

/-!
# References

In text and in attribute values an `&` begins a **reference**, which a `;` ends: one of five
names, or the number of a character in decimal (`&#65;`) or hexadecimal (`&#x41;`) digits.
`decode` replaces every reference by the character it stands for and leaves all else as it is;
the replacement is not read again, and a `;` outside a reference is text.

The reading is a single pass over the characters whose only memory is the name of the reference
under way, so decoding a text that is cut outside a reference is decoding its two parts
(`decodeFrom_append`).
-/

namespace DaemonReply.Markup

open Text

namespace Reference

/-- The characters that have a name of their own. -/
def named? : List Char → Option Char
  | ['l', 't'] => some '<'
  | ['g', 't'] => some '>'
  | ['a', 'm', 'p'] => some '&'
  | ['a', 'p', 'o', 's'] => some '\''
  | ['q', 'u', 'o', 't'] => some '"'
  | _ => none

/-! ### Character references -/

/-- The value of a digit; letters of either case are digits above nine. -/
def digitValue (c : Char) : Option Nat :=
  if c.isDigit then some (c.toNat - '0'.toNat)
  else if 'a' ≤ c ∧ c ≤ 'f' then some (c.toNat - 'a'.toNat + 10)
  else if 'A' ≤ c ∧ c ≤ 'F' then some (c.toNat - 'A'.toNat + 10)
  else none

/-- Takes one more digit: it has to be one below the radix, and the number has to fit into 32
bits. -/
def addDigit (radix value : Nat) (c : Char) : Except DigitsError Nat :=
  match (digitValue c).filter (· < radix) with
  | none => .error .badDigit
  | some digit =>
    if value * radix + digit < UInt32.size then .ok (value * radix + digit) else .error .tooLarge

/-- The number that digits write; the first fault from the left decides. -/
def readDigits (radix : Nat) : List Char → Except DigitsError Nat
  | [] => .error .empty
  | digits => digits.foldlM (addDigit radix) 0

/-- The character with a given number, zero excepted. -/
def ofCodepoint (code : Nat) : Except CharacterReferenceError Char :=
  if code = 0 then .error .nullCharacter
  else if code.isValidChar then .ok (Char.ofNat code)
  else .error (.invalidCodepoint code)

/-- The character that digits in a radix stand for. -/
def ofDigits (radix : Nat) (digits : List Char) : Except CharacterReferenceError Char :=
  match digits.head? with
  | some '+' | some '-' => .error .unexpectedSign
  | _ =>
    match readDigits radix digits with
    | .ok code => ofCodepoint code
    | .error cause => .error (.invalidNumber cause)

/-- The character that a reference stands for, given what is written between `&` and `;` and
the byte at which that begins. -/
def resolve (name : List Char) (start : Nat) : Except ReferenceError Char :=
  match name with
  | '#' :: 'x' :: digits => (ofDigits 16 digits).mapError .character
  | '#' :: digits => (ofDigits 10 digits).mapError .character
  | _ =>
    match named? name with
    | some c => .ok c
    | none => .error (.unrecognized (String.ofList name) start (start + utf8Length name))

/-! ### Decoding -/

/-- Decodes the rest of a piece of `size` bytes, `offset` of which stand before the rest. The
name of the reference under way, if there is one, comes with its latest character first. -/
def decodeFrom (size offset : Nat) (pending : Option (List Char)) :
    List Char → Except ReferenceError (List Char)
  | [] =>
    match pending with
    | none => .ok []
    | some name => .error (.unterminated (offset - utf8Length name - 1) size)
  | c :: rest =>
    match pending with
    | none =>
      if c = '&' then decodeFrom size (offset + c.utf8Size) (some []) rest
      else (decodeFrom size (offset + c.utf8Size) none rest).map (c :: ·)
    | some name =>
      if c = ';' then
        match resolve name.reverse (offset - utf8Length name) with
        | .ok r => (decodeFrom size (offset + c.utf8Size) none rest).map (r :: ·)
        | .error e => .error e
      else if c = '&' then .error (.unterminated (offset - utf8Length name - 1) size)
      else decodeFrom size (offset + c.utf8Size) (some (c :: name)) rest

/-- A piece of text with its references replaced. -/
def decode (text : List Char) : Except ReferenceError (List Char) :=
  decodeFrom (utf8Length text) 0 none text

/-- Text without an `&` is its own decoding. -/
theorem decodeFrom_eq_self {size offset : Nat} {text : List Char} (h : '&' ∉ text) :
    decodeFrom size offset none text = .ok text := by
  induction text generalizing offset with
  | nil => rfl
  | cons c rest ih =>
    simp only [List.mem_cons, not_or] at h
    simp [decodeFrom, Ne.symm h.1, ih h.2, Except.map]

/-- Which character a reference stands for does not depend on where it stands. -/
theorem resolve_eq_ok {name : List Char} {c : Char} {start : Nat} (start' : Nat)
    (h : resolve name start = .ok c) : resolve name start' = .ok c := by
  unfold resolve at h ⊢
  split at h
  · exact h
  · exact h
  · split at h
    · exact h
    · simp at h

/-- **Decoding is piecewise.** A text that decodes may be followed by any other, which is then
decoded on its own, wherever the two stand. -/
theorem decodeFrom_append {size offset : Nat} (size' offset' : Nat)
    {pending : Option (List Char)} {front out : List Char} (back : List Char)
    (h : decodeFrom size offset pending front = .ok out) :
    decodeFrom size' offset' pending (front ++ back) =
      (decodeFrom size' (offset' + utf8Length front) none back).map (out ++ ·) := by
  induction front generalizing offset offset' pending out with
  | nil =>
    cases pending with
    | some name => simp [decodeFrom] at h
    | none =>
      obtain rfl : [] = out := by simpa [decodeFrom] using h
      cases hback : decodeFrom size' offset' none back <;> simp [hback, Except.map]
  | cons c rest ih =>
    have hlength : offset' + utf8Length (c :: rest) = offset' + c.utf8Size + utf8Length rest := by
      rw [utf8Length_cons, Nat.add_assoc]
    cases pending with
    | none =>
      simp only [decodeFrom, List.cons_append, hlength] at h ⊢
      split
      · rename_i hc
        exact ih _ (by simpa [hc] using h)
      · rename_i hc
        simp only [hc, if_false] at h
        obtain ⟨tail, hrest, rfl⟩ := Except.map_eq_ok_iff.mp h
        rw [ih _ hrest]
        cases decodeFrom size' (offset' + c.utf8Size + utf8Length rest) none back <;> rfl
    | some name =>
      simp only [decodeFrom, List.cons_append, hlength] at h ⊢
      split
      · rename_i hc
        simp only [hc, if_true] at h
        split at h
        · rename_i r hr
          rw [resolve_eq_ok _ hr]
          obtain ⟨tail, hrest, rfl⟩ := Except.map_eq_ok_iff.mp h
          simp only [hc, ih _ hrest]
          cases decodeFrom size' (offset' + ';'.utf8Size + utf8Length rest) none back <;> rfl
        · simp at h
      · rename_i hc
        simp only [hc, if_false] at h
        split at h
        · simp at h
        · rename_i hamp
          simpa [hamp] using ih _ h

end Reference

end DaemonReply.Markup
