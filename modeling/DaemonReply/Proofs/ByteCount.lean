import DaemonReply.Proofs.Calls
import Mathlib.Data.List.DropRight

/-!
# The byte count of a transfer

A transfer has one slot for two counts. The live count of a running transfer overwrites the slot,
also with zero. The persisted count is taken only while the slot is zero. What the slot holds in the
end depends on how the two are interleaved, but it can be said without a run: the last live count
decides, and where it is zero or missing, only the persisted counts behind it matter
(`Transfer.countedBytes`).

The closed form changes with one more call exactly as the slot does
(`Transfer.countedBytes_concat`), which makes the main statement an induction over the calls: the
slot holds the counted bytes (`Transfer.bytesTransferred_eq_countedBytes`).
-/

namespace DaemonReply

open Value

namespace Transfer

variable {c : Call}

/-! ### The closed form -/

/-- The calls behind the last live count, or all of them if there is none. -/
def behindLastLive (calls : List Call) : List Call :=
  calls.rtakeWhile fun c => (liveCount? c).isNone

/-- The last live count, if there is one other than zero. Otherwise the first persisted count other
than zero behind it, if there is one. -/
def countedBytes (calls : List Call) : Int64 :=
  let live := (lastReading readSeconds? ["bytes_xferred"] calls).getD 0
  if live = 0 then firstPersisted (behindLastLive calls) else live

theorem behindLastLive_concat_of_some {count : Int64} (calls : List Call)
    (hc : liveCount? c = some count) : behindLastLive (calls ++ [c]) = [] :=
  List.rtakeWhile_concat_neg _ _ _ (by simp [hc])

theorem behindLastLive_concat_of_none (calls : List Call) (hc : liveCount? c = none) :
    behindLastLive (calls ++ [c]) = behindLastLive calls ++ [c] :=
  List.rtakeWhile_concat_pos _ _ _ (by simp [hc])

/-- A further persisted count is the first one if there was none but zeros. -/
theorem firstPersisted_concat (calls : List Call) (c : Call) : firstPersisted (calls ++ [c]) =
    if firstPersisted calls = 0 then (persistedCount? c).getD 0 else firstPersisted calls := by
  rw [firstPersisted, List.filterMap_append, List.find?_append, firstPersisted]
  rcases hfirst : (calls.filterMap persistedCount?).find? (· != 0) with _ | first
  · rcases hcount : persistedCount? c with _ | count
    · simp [hcount]
    · by_cases hzero : count = 0 <;> simp [hcount, hzero]
  · have hne : first ≠ 0 := by simpa using List.find?_some hfirst
    simp [hne]

/-- The counted bytes change with a further call as the slot does. -/
theorem countedBytes_concat (calls : List Call) (c : Call) :
    countedBytes (calls ++ [c]) = (liveCount? c).getD
      (if countedBytes calls = 0 then (persistedCount? c).getD 0 else countedBytes calls) := by
  rw [countedBytes, lastReading_concat, ← liveCount?, countedBytes]
  rcases hc : liveCount? c with _ | count
  · rw [behindLastLive_concat_of_none calls hc, firstPersisted_concat, Option.none_or]
    by_cases hlive : (lastReading readSeconds? ["bytes_xferred"] calls).getD 0 = 0 <;> simp [hlive]
  · rw [behindLastLive_concat_of_some calls hc, Option.some_or, Option.getD_some, Option.getD_some]
    split_ifs with hzero
    · exact hzero.symm
    · rfl

/-! ### The slot -/

/-- The slot holds the counted bytes. -/
theorem bytesTransferred_performAll_blank (calls : List Call) :
    (family.performAll family.blank calls).bytesTransferred = countedBytes calls := by
  induction calls using List.reverseRecOn with
  | nil => rfl
  | append_singleton calls c ih =>
    rw [RecordFamily.performAll_append, RecordFamily.performAll_cons, RecordFamily.performAll_nil,
      bytesTransferred_perform, ih, countedBytes_concat]

/-- A field that is neither count, or the text of which cannot be read, leaves the slot as it
was. -/
theorem bytesTransferred_assign {name text : String}
    (h : isOneOf ["bytes_xferred", "last_bytes_xferred"] name = false ∨ readSeconds? text = none)
    (t : Transfer) : (family.assign t name text).value.bytesTransferred = t.bytesTransferred := by
  have hnone : (Call.closed name text).reading? readSeconds?
      ["bytes_xferred", "last_bytes_xferred"] = none := by
    rcases h with hname | htext
    · rw [Call.reading?, hname, if_neg Bool.false_ne_true]
    · rw [Call.reading?, htext, ite_self]
  exact bytesTransferred_perform_of_none hnone t

/-- **The bytes transferred in closed form.** After any calls on a blank draft the slot holds the
last live count that could be read, if that is not zero, wherever persisted counts stand. Otherwise
it holds the first persisted count other than zero behind the last live one, or behind the
beginning, and zero if there is none. No other call changes the slot, and neither does a count that
cannot be read. -/
theorem bytesTransferred_eq_countedBytes :
    (∀ calls, (family.performAll family.blank calls).bytesTransferred = countedBytes calls) ∧
      (∀ t name, (family.enter t name).bytesTransferred = t.bytesTransferred) ∧
      ∀ t name text, isOneOf ["bytes_xferred", "last_bytes_xferred"] name = false ∨
          readSeconds? text = none →
        (family.assign t name text).value.bytesTransferred = t.bytesTransferred :=
  ⟨bytesTransferred_performAll_blank, slot_enter fun _ => rfl,
    fun t _ _ h => bytesTransferred_assign h t⟩

/-- A live count of zero gives way to the second persisted count behind it, the first one being
zero as well. -/
theorem bytesTransferred_eq_countedBytes_sample :
    (family.performAll family.blank [.closed "last_bytes_xferred" "40",
        .closed "bytes_xferred" "25.5", .closed "bytes_xferred" "0.25", .closed "nbytes" "9000",
        .closed "last_bytes_xferred" "-0", .closed "last_bytes_xferred" "1,400",
        .closed "last_bytes_xferred" " 1500", .closed "last_bytes_xferred" "7",
        .closed "bytes_xferred" "?"]).bytesTransferred = 1500 ∧
      (family.assign { bytesTransferred := 7 } "bytes_xferred" "?").value.bytesTransferred = 7 := by
  obtain ⟨hclosed, -, hother⟩ := bytesTransferred_eq_countedBytes
  refine ⟨(hclosed _).trans (by decide +kernel), hother _ _ _ (.inr ?_)⟩
  decide +kernel

end Transfer

end DaemonReply
