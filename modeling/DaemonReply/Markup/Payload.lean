/-!
# The payload of a reply

The daemon ends every reply with the character U+0003. Whatever follows the first of them is
not part of the reply. What precedes it is the **payload**, less one byte-order mark that may
stand at its very start; the mark is not counted in positions.
-/

namespace DaemonReply.Markup

/-- The character that ends a reply. -/
def terminator : Char := '\x03'

/-- A byte-order mark, which may stand before the markup. -/
def byteOrderMark : Char := '\uFEFF'

/-- All that precedes the first terminator. -/
def beforeTerminator (reply : List Char) : List Char :=
  reply.takeWhile (· ≠ terminator)

/-- The reply up to its terminator, or the whole reply if it has none. -/
def cutAtTerminator (reply : String) : String :=
  String.ofList (beforeTerminator reply.toList)

/-- Removes one byte-order mark from the start. -/
def dropByteOrderMark : List Char → List Char
  | [] => []
  | c :: rest => if c = byteOrderMark then rest else c :: rest

/-- The characters of a reply that are read as markup. -/
def payload (reply : String) : List Char :=
  dropByteOrderMark (beforeTerminator reply.toList)

/-- A text without a terminator is read in full. -/
theorem beforeTerminator_eq_self {reply : List Char} (h : terminator ∉ reply) :
    beforeTerminator reply = reply := by
  have hpos : ∀ c ∈ reply, decide (c ≠ terminator) = true := by
    intro c hc
    simpa using fun heq : c = terminator => h (heq ▸ hc)
  simpa [beforeTerminator] using @List.takeWhile_append_of_pos _ _ reply [] hpos

/-- What follows a terminator does not matter. -/
theorem beforeTerminator_append_terminator {front : List Char} (back : List Char)
    (h : terminator ∉ front) : beforeTerminator (front ++ terminator :: back) = front := by
  have hpos : ∀ c ∈ front, decide (c ≠ terminator) = true := by
    intro c hc
    simpa using fun heq : c = terminator => h (heq ▸ hc)
  rw [beforeTerminator, List.takeWhile_append_of_pos hpos]
  simp

/-- The cut leaves no terminator behind. -/
theorem terminator_notMem_beforeTerminator (reply : List Char) :
    terminator ∉ beforeTerminator reply := by
  induction reply with
  | nil => simp [beforeTerminator]
  | cons c rest ih =>
    by_cases hc : c = terminator
    · simp [beforeTerminator, hc]
    · simpa [beforeTerminator, List.takeWhile_cons, hc, Ne.symm hc] using ih

end DaemonReply.Markup
