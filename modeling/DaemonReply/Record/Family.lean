import DaemonReply.Tag
import DaemonReply.Value.Store

/-!
# Record families

Records of one family are written as elements with one **boundary** tag, and their fields as
elements inside. A `RecordFamily` says how such a record is drafted: what it is before any field,
what an opening and a closing inside do to the draft, and what the finished draft amounts to.
Names that a family does not know leave the draft alone; an incomplete draft amounts to nothing.
-/

namespace DaemonReply

open Value

/-- How the records of one family are made: `β` is the draft of a record, `ρ` a finished one. -/
structure RecordFamily (β ρ : Type) where
  /-- The tag that encloses one record. -/
  boundary : String
  /-- The draft before any field. -/
  blank : β
  /-- What an opening inside a record does to the draft. -/
  enter : β → String → β := fun draft _ => draft
  /-- What the closing of a field does to the draft, given the field's name and text. -/
  assign : β → String → String → Stored β
  /-- What a draft amounts to at the end of the record. -/
  complete : β → Option ρ

namespace RecordFamily

variable {β ρ : Type}

/-- Whether a name is that of the boundary tag. -/
def isBoundary (family : RecordFamily β ρ) (name : String) : Bool :=
  sameTag name family.boundary

/-- Letter case does not matter to the boundary. -/
theorem isBoundary_congr (family : RecordFamily β ρ) {a b : String} (h : sameTag a b = true) :
    family.isBoundary a = family.isBoundary b := by
  simp only [sameTag, decide_eq_true_eq] at h
  simp [isBoundary, sameTag, h]

end RecordFamily

end DaemonReply
