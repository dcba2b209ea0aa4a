/-!
# Trimming

Leaf text is often surrounded by blanks that do not belong to the value. Which characters count
as blank differs from reader to reader, so `trim` takes the class as an argument; this module
also holds the two classes in use.
-/

namespace DaemonReply.Text

/-- A text without the characters of a class at its two ends. -/
def trim (blank : Char → Bool) (text : List Char) : List Char :=
  ((text.dropWhile blank).reverse.dropWhile blank).reverse

/-- The space and all characters before it: the blanks and the control characters of ASCII that
precede the printed ones. -/
def isSpaceOrControl (c : Char) : Bool :=
  c ≤ ' '

/-- The characters with the Unicode property `White_Space`. -/
def isWhiteSpace (c : Char) : Bool :=
  ('\t' ≤ c && c ≤ '\r') || c = ' ' || c = '\u0085' || c = '\u00a0' || c = '\u1680' ||
    ('\u2000' ≤ c && c ≤ '\u200a') || c = '\u2028' || c = '\u2029' || c = '\u202f' ||
    c = '\u205f' || c = '\u3000'

/-- A text that neither begins nor ends with a blank stays as it is. -/
theorem trim_eq_self {blank : Char → Bool} {text : List Char}
    (hhead : ∀ c, text.head? = some c → blank c = false)
    (hlast : ∀ c, text.getLast? = some c → blank c = false) : trim blank text = text := by
  have hdrop : ∀ l : List Char, (∀ c, l.head? = some c → blank c = false) →
      l.dropWhile blank = l := by
    intro l hl
    cases l with
    | nil => rfl
    | cons c rest => simp [hl c rfl]
  rw [trim, hdrop text hhead, hdrop, List.reverse_reverse]
  intro c hc
  exact hlast c (by simpa using hc)

/-- Blanks before and after a text do not matter. -/
theorem trim_append {blank : Char → Bool} {front back : List Char} (text : List Char)
    (hfront : ∀ c ∈ front, blank c = true) (hback : ∀ c ∈ back, blank c = true) :
    trim blank (front ++ text ++ back) = trim blank text := by
  have hreverse : ∀ c ∈ back.reverse, blank c = true := fun c hc => hback c (by simpa using hc)
  rw [trim, trim, List.append_assoc, List.dropWhile_append_of_pos hfront]
  by_cases h : text.dropWhile blank = []
  · rw [List.dropWhile_append, h]
    have hall : back.dropWhile blank = [] := by
      simpa using @List.dropWhile_append_of_pos _ blank back [] hback
    simp [hall]
  · have hne : (text.dropWhile blank).isEmpty = false := by simpa using h
    rw [List.dropWhile_append, hne]
    simp [List.dropWhile_append_of_pos hreverse]

/-- What is trimmed off is blank. -/
theorem exists_append_trim (blank : Char → Bool) (text : List Char) :
    ∃ front back, front ++ trim blank text ++ back = text ∧ (∀ c ∈ front, blank c = true) ∧
      ∀ c ∈ back, blank c = true := by
  have hblank : ∀ l : List Char, ∀ c ∈ l.takeWhile blank, blank c = true := fun l =>
    List.all_eq_true.mp List.all_takeWhile
  refine ⟨text.takeWhile blank, ((text.dropWhile blank).reverse.takeWhile blank).reverse, ?_,
    hblank text, fun c hc => hblank _ c (List.mem_reverse.mp hc)⟩
  rw [trim, List.append_assoc, ← List.reverse_append, List.takeWhile_append_dropWhile,
    List.reverse_reverse, List.takeWhile_append_dropWhile]

/-- Without blanks of its own, a text is what remains of another one exactly if it stands there
between blanks. -/
theorem trim_eq_iff {blank : Char → Bool} {text core : List Char}
    (hcore : ∀ c ∈ core, blank c = false) : trim blank text = core ↔
      ∃ front back, front ++ core ++ back = text ∧ (∀ c ∈ front, blank c = true) ∧
        ∀ c ∈ back, blank c = true := by
  constructor
  · rintro rfl
    exact exists_append_trim blank text
  · rintro ⟨front, back, rfl, hfront, hback⟩
    rw [trim_append core hfront hback]
    exact trim_eq_self (fun c hc => hcore c (List.mem_of_mem_head? hc))
      (fun c hc => hcore c (List.mem_of_getLast? hc))

end DaemonReply.Text
