import DaemonReply.Markup.Payload

/-!
# Payloads of parts

What becomes of the payload when a reply is cut or another one is written behind it. A payload
loses the byte-order mark at its start and nothing else (`exists_mark`), so its beginnings are the
payloads of beginnings of the reply. In the middle of a reply the same mark is a character like
any other: it stays between the payloads of two replies (`exists_payload_append`).
-/

namespace DaemonReply.Markup

/-- What precedes the terminator is the payload behind at most a byte-order mark, which is dropped
before every beginning of the payload. -/
theorem exists_mark (reply : String) :
    ∃ mark, (mark = [] ∨ mark = [byteOrderMark]) ∧
      beforeTerminator reply.toList = mark ++ payload reply ∧
      ∀ front, front <+: payload reply → dropByteOrderMark (mark ++ front) = front := by
  rw [payload]
  cases beforeTerminator reply.toList with
  | nil =>
    refine ⟨[], .inl rfl, rfl, fun front hfront => ?_⟩
    rw [List.prefix_nil.mp hfront]
    rfl
  | cons c rest =>
    by_cases hc : c = byteOrderMark
    · refine ⟨[byteOrderMark], .inr rfl, ?_, fun front _ => ?_⟩
      · rw [hc, dropByteOrderMark, if_pos rfl, List.singleton_append]
      · rw [List.singleton_append, dropByteOrderMark, if_pos rfl]
    · rw [dropByteOrderMark, if_neg hc]
      refine ⟨[], .inl rfl, rfl, fun front hfront => ?_⟩
      rcases List.prefix_cons_iff.mp hfront with rfl | ⟨more, rfl, -⟩
      · rfl
      · exact if_neg hc

/-! ### Beginnings -/

theorem prefix_beforeTerminator {cut reply : List Char} (h : cut <+: reply) :
    beforeTerminator cut <+: beforeTerminator reply := by
  obtain ⟨rest, rfl⟩ := h
  rw [beforeTerminator, beforeTerminator, List.takeWhile_append]
  split
  · rename_i hlength
    have hwhole := (List.takeWhile_prefix (· ≠ terminator) (l := cut)).eq_of_length hlength
    exact ⟨rest.takeWhile (· ≠ terminator), by rw [hwhole]⟩
  · exact List.prefix_rfl

/-- A beginning of a reply has a beginning of the payload. -/
theorem prefix_payload {cut reply : String} (h : cut.toList <+: reply.toList) :
    payload cut <+: payload reply := by
  have hbefore := prefix_beforeTerminator h
  rw [payload, payload]
  generalize beforeTerminator cut.toList = front at hbefore ⊢
  obtain ⟨rest, hrest⟩ := hbefore
  rw [← hrest]
  cases front with
  | nil => exact List.nil_prefix
  | cons c more =>
    simp only [List.cons_append, dropByteOrderMark]
    split
    · exact List.prefix_append more rest
    · exact List.prefix_append (c :: more) rest

/-- Every beginning of the payload is the payload of a beginning of the reply, which is the same
text behind the byte-order mark, if there is one. -/
theorem exists_mark_front (reply : String) :
    ∃ mark : List Char, ∀ front, front <+: payload reply →
      payload (String.ofList (mark ++ front)) = front ∧ mark ++ front <+: reply.toList := by
  obtain ⟨mark, -, hreply, hdrop⟩ := exists_mark reply
  refine ⟨mark, fun front hfront => ?_⟩
  have hbefore : mark ++ front <+: beforeTerminator reply.toList := by
    rw [hreply]
    exact (List.prefix_append_right_inj mark).mpr hfront
  have hterminator : terminator ∉ mark ++ front := fun hmem =>
    terminator_notMem_beforeTerminator reply.toList (hbefore.subset hmem)
  refine ⟨?_, hbefore.trans (List.takeWhile_prefix _)⟩
  rw [payload, String.toList_ofList, beforeTerminator_eq_self hterminator, hdrop front hfront]

/-! ### One reply behind another -/

theorem beforeTerminator_append {front : List Char} (back : List Char) (h : terminator ∉ front) :
    beforeTerminator (front ++ back) = front ++ beforeTerminator back := by
  refine List.takeWhile_append_of_pos fun c hc => ?_
  simpa using fun heq : c = terminator => h (heq ▸ hc)

/-- Behind some text a byte-order mark stays, so all that precedes the terminator is read. -/
theorem payload_append_of_ne_nil {a : String} (b : String) (hne : a.toList ≠ [])
    (h : terminator ∉ a.toList) : payload (a ++ b) = payload a ++ beforeTerminator b.toList := by
  obtain ⟨c, rest, ha⟩ := List.exists_cons_of_ne_nil hne
  rw [payload, payload, String.toList_append, beforeTerminator_append _ h,
    beforeTerminator_eq_self h, ha, List.cons_append, dropByteOrderMark, dropByteOrderMark]
  split <;> rfl

/-- The payload of two replies is that of the first and, behind at most a byte-order mark, that of
the second. -/
theorem exists_payload_append {a : String} (b : String) (h : terminator ∉ a.toList) :
    ∃ mark, (mark = [] ∨ mark = [byteOrderMark]) ∧
      payload (a ++ b) = payload a ++ (mark ++ payload b) := by
  by_cases ha : a.toList = []
  -- behind nothing at all, the mark of the second reply is dropped as before
  · exact ⟨[], .inl rfl, by simp [payload, ha, beforeTerminator, dropByteOrderMark]⟩
  · obtain ⟨mark, hmark, hb, -⟩ := exists_mark b
    exact ⟨mark, hmark, by rw [payload_append_of_ne_nil b ha h, hb]⟩

end DaemonReply.Markup
