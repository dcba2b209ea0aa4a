import DaemonReply.Proofs.LowerBound
import Mathlib.Data.Int.Range
import Mathlib.Data.List.Sublists

/-!
# Paging back through the event log

The event log is read backwards: first the newest page, and as long as a page is not empty the one
before it, asked for with the number of the page's first message (`PagesBack`). The daemon goes on
logging all the while. Between any two questions, also between the two questions of the newest
page, any number of messages may have come (`Source.Serves`).

What comes meanwhile has no place in an older page, which ends below the number it is asked for
with. So every older page is an interval that ends where the page before it began
(`Serves.fetchPage_older`), and the bound is low enough to make each of them longer than `number`
or reach the beginning of the log.

Main statement: paging ends, and the pages are the log as it was at the first reply, without a gap
and without a repetition (`pagesBack_covers_log`).
-/

namespace DaemonReply

open Value

namespace EventLog

/-! ### Bounds -/

theorem toInt_olderBound_of_nonneg {seqNo number : Int32} (hpos : 0 < seqNo)
    (hnumber : 0 ≤ number) :
    (olderBound seqNo number).toInt = max (seqNo.toInt - number.toInt - 2) 0 := by
  have hseqNo : 0 < seqNo.toInt := Int32.lt_iff_toInt_lt.mp hpos
  have hnonneg : 0 ≤ number.toInt := Int32.le_iff_toInt_le.mp hnumber
  rw [toInt_olderBound hpos number 0, exactBound_of_nonneg hnonneg seqNo.toInt_lt (by decide),
    if_pos hseqNo, max_comm]

theorem toInt_newestBound_of_nonneg (count : Int32) {number : Int32} (hnumber : 0 ≤ number) :
    (newestBound count number).toInt = max (count.toInt - number.toInt - 1) 0 := by
  have hnewest : ¬ (0 : Int32) < 0 := by decide
  have hnonneg : 0 ≤ number.toInt := Int32.le_iff_toInt_le.mp hnumber
  rw [toInt_newestBound hnewest number, exactBound_of_nonneg hnonneg (by decide) count.toInt_lt,
    if_neg (by decide), max_comm]

/-! ### Numbered messages -/

/-- The numbers of messages, in order. -/
def numbers (messages : List Message) : List Int :=
  messages.map (·.sequenceNumber.toInt)

/-- Messages numbered from one on, without a gap. -/
def Numbered (messages : List Message) : Prop :=
  ∀ i (h : i < messages.length), messages[i].sequenceNumber.toInt = i + 1

namespace Numbered

variable {messages : List Message}

/-- Of a numbered log, an interval has the numbers of its places. -/
theorem numbers_drop_take (h : Numbered messages) (first : Nat) {last : Nat}
    (hlast : last ≤ messages.length) :
    numbers ((messages.take last).drop first) = Int.range (first + 1) (last + 1) := by
  refine List.ext_getElem ?_ fun i hi _ => ?_
  · simp [numbers, Int.range, hlast]
  · simp only [numbers, List.getElem_map, List.getElem_drop, List.getElem_take, Int.range,
      List.getElem_range]
    rw [h]
    omega

theorem numbers_eq (h : Numbered messages) :
    numbers messages = Int.range 1 (messages.length + 1) := by
  simpa using h.numbers_drop_take 0 le_rfl

theorem number_of_mem_take (h : Numbered messages) {n : Nat} {message : Message}
    (hmessage : message ∈ messages.take n) : message.sequenceNumber.toInt ≤ n := by
  obtain ⟨i, hi, rfl⟩ := List.mem_take_iff_getElem.mp hmessage
  rw [h]
  omega

theorem number_of_mem_drop (h : Numbered messages) {n : Nat} {message : Message}
    (hmessage : message ∈ messages.drop n) : n < message.sequenceNumber.toInt := by
  obtain ⟨i, hi, rfl⟩ := List.mem_drop_iff_getElem.mp hmessage
  rw [h]
  omega

/-- What is left behind some messages begins with the next number. -/
theorem number_of_drop_eq_cons (h : Numbered messages) {n : Nat} {first : Message}
    {rest : List Message} (hdrop : messages.drop n = first :: rest) :
    first.sequenceNumber.toInt = n + 1 ∧ n < messages.length := by
  have hn : n < messages.length := by
    have hlength := congrArg List.length hdrop
    simp only [List.length_drop, List.length_cons] at hlength
    omega
  rw [List.drop_eq_getElem_cons hn] at hdrop
  obtain ⟨rfl, -⟩ := List.cons.inj hdrop
  exact ⟨h n hn, hn⟩

/-- The messages above a bound come last. -/
theorem filter_above (h : Numbered messages) {bound : Int32} (hbound : 0 ≤ bound) :
    messages.filter (bound < ·.sequenceNumber) = messages.drop bound.toInt.toNat := by
  have hnonneg : 0 ≤ bound.toInt := Int32.le_iff_toInt_le.mp hbound
  have htake : (messages.take bound.toInt.toNat).filter (bound < ·.sequenceNumber) = [] := by
    refine List.filter_eq_nil_iff.mpr fun message hmessage => ?_
    have hnumber := h.number_of_mem_take hmessage
    rw [decide_eq_true_eq, Int32.lt_iff_toInt_lt]
    omega
  have hdrop : (messages.drop bound.toInt.toNat).filter (bound < ·.sequenceNumber) =
      messages.drop bound.toInt.toNat := by
    refine List.filter_eq_self.mpr fun message hmessage => ?_
    have hnumber := h.number_of_mem_drop hmessage
    rw [decide_eq_true_eq, Int32.lt_iff_toInt_lt]
    omega
  conv_lhs => rw [← List.take_append_drop bound.toInt.toNat messages]
  rw [List.filter_append, htake, hdrop, List.nil_append]

/-- The messages older than a positive number come first. -/
theorem filter_older (h : Numbered messages) {seqNo : Int32} (hpos : 0 < seqNo) :
    messages.filter (·.sequenceNumber < seqNo) = messages.take (seqNo.toInt.toNat - 1) := by
  have hlow : 0 < seqNo.toInt := Int32.lt_iff_toInt_lt.mp hpos
  have htake : (messages.take (seqNo.toInt.toNat - 1)).filter (·.sequenceNumber < seqNo) =
      messages.take (seqNo.toInt.toNat - 1) := by
    refine List.filter_eq_self.mpr fun message hmessage => ?_
    have hnumber := h.number_of_mem_take hmessage
    rw [decide_eq_true_eq, Int32.lt_iff_toInt_lt]
    omega
  have hdrop : (messages.drop (seqNo.toInt.toNat - 1)).filter (·.sequenceNumber < seqNo) = [] := by
    refine List.filter_eq_nil_iff.mpr fun message hmessage => ?_
    have hnumber := h.number_of_mem_drop hmessage
    rw [decide_eq_true_eq, Int32.lt_iff_toInt_lt]
    omega
  conv_lhs => rw [← List.take_append_drop (seqNo.toInt.toNat - 1) messages]
  rw [List.filter_append, htake, hdrop, List.append_nil]

theorem take (h : Numbered messages) (n : Nat) : Numbered (messages.take n) := by
  intro i hi
  rw [List.getElem_take]
  exact h i _

end Numbered

/-! ### Daemons that go on logging -/

variable {σ : Type} {source : Source σ} {log : σ → List Message} {number seqNo : Int32}

/-- A daemon that holds the messages `log s` in the state `s`, and answers about these. When it has
answered it may hold more. -/
structure Source.Serves (source : Source σ) (log : σ → List Message) : Prop where
  numbered : ∀ s, Numbered (log s)
  length_lt : ∀ s, (log s).length < Int32.maxValue.toInt
  count_eq : ∀ s, (source.count.run s).1 = Int32.ofNat (log s).length
  count_grows : ∀ s, (log s).length ≤ (log (source.count.run s).2).length
  reply_eq : ∀ bound s, (Message.parse ((source.replyAfter bound).run s).1).value =
    (log s).filter (bound < ·.sequenceNumber)
  reply_grows : ∀ bound s, (log s).length ≤ (log ((source.replyAfter bound).run s).2).length

/-- What `view` shows of a message that is in the log stays as it is. -/
structure Source.Keeps {α : Type} (source : Source σ) (log : σ → List Message)
    (view : Message → α) : Prop where
  count : ∀ s, (log s).map view <+: (log (source.count.run s).2).map view
  reply : ∀ bound s, (log s).map view <+: (log ((source.replyAfter bound).run s).2).map view

/-- A longer log has the same numbers to begin with. -/
theorem Numbered.prefix_numbers {old new : List Message} (hold : Numbered old)
    (hnew : Numbered new) (hlength : old.length ≤ new.length) : numbers old <+: numbers new := by
  refine List.prefix_iff_getElem.mpr ⟨by simpa [numbers] using hlength, fun i hi => ?_⟩
  simp only [numbers, List.getElem_map]
  rw [hold, hnew]

/-- Numbers stay as they are. -/
theorem Source.Serves.keeps_number (h : source.Serves log) :
    source.Keeps log (·.sequenceNumber.toInt) where
  count s := (h.numbered s).prefix_numbers (h.numbered _) (h.count_grows s)
  reply bound s := (h.numbered s).prefix_numbers (h.numbered _) (h.reply_grows bound s)

/-! ### Single pages -/

/-- **An older page** is an interval of the log that ends below the number it is asked for with,
however long the log is by now. -/
theorem Source.Serves.fetchPage_older (h : source.Serves log) (hpos : 0 < seqNo)
    (hnumber : 0 ≤ number) (s : σ) :
    ∃ bound : Int32, bound.toInt = max (seqNo.toInt - number.toInt - 2) 0 ∧
      ((fetchPage source seqNo number).run s).2 = ((source.replyAfter bound).run s).2 ∧
      ((fetchPage source seqNo number).run s).1.value =
        ((log s).take (seqNo.toInt.toNat - 1)).drop bound.toInt.toNat := by
  have hvalue := toInt_olderBound_of_nonneg hpos hnumber
  have hbound : 0 ≤ olderBound seqNo number := by
    rw [Int32.le_iff_toInt_le, hvalue]
    exact le_max_right _ _
  have hrun : (fetchPage source seqNo number).run s =
      (readPage seqNo (olderBound seqNo number)
          ((source.replyAfter (olderBound seqNo number)).run s).1,
        ((source.replyAfter (olderBound seqNo number)).run s).2) := by
    rw [fetchPage, lowerBound_of_pos number source.count hpos]
    rfl
  refine ⟨_, hvalue, congrArg Prod.snd hrun, ?_⟩
  rw [hrun, readPage, select, if_pos hpos, h.reply_eq, List.filter_filter,
    ← ((h.numbered s).take _).filter_above hbound, ← (h.numbered s).filter_older hpos,
    List.filter_filter]
  exact List.filter_congr fun message _ => Bool.and_comm _ _

/-- The newest page is asked for with a count that may be out of date by the time of the reply. -/
theorem Source.Serves.fetchPage_newest (h : source.Serves log) (hnumber : 0 ≤ number) (s : σ) :
    ∃ bound : Int32, bound.toInt = max ((log s).length - number.toInt - 1) 0 ∧
      ((fetchPage source 0 number).run s).2 =
        ((source.replyAfter bound).run (source.count.run s).2).2 ∧
      ((fetchPage source 0 number).run s).1.value =
        (log (source.count.run s).2).drop bound.toInt.toNat := by
  have hlength : (Int32.ofNat (log s).length).toInt = (log s).length := by
    have hlimit : ((log s).length : Int) < 2147483647 := h.length_lt s
    exact Int32.toInt_ofNat_of_lt (by omega)
  have hvalue : (newestBound (Int32.ofNat (log s).length) number).toInt =
      max ((Int32.ofNat (log s).length).toInt - number.toInt - 1) 0 :=
    toInt_newestBound_of_nonneg _ hnumber
  have hbound : 0 ≤ newestBound (Int32.ofNat (log s).length) number := by
    rw [Int32.le_iff_toInt_le, hvalue]
    exact le_max_right _ _
  have hrun : (fetchPage source 0 number).run s =
      (readPage 0 (newestBound (source.count.run s).1 number)
          ((source.replyAfter (newestBound (source.count.run s).1 number)).run
            (source.count.run s).2).1,
        ((source.replyAfter (newestBound (source.count.run s).1 number)).run
          (source.count.run s).2).2) := rfl
  rw [h.count_eq] at hrun
  refine ⟨_, by rw [hvalue, hlength], congrArg Prod.snd hrun, ?_⟩
  rw [hrun, readPage, select, if_neg (by decide), h.reply_eq, (h.numbered _).filter_above hbound]

/-! ### Paging back -/

/-- A page, with the number that it was asked for with. -/
structure Visit where
  seqNo : Int32
  page : List Message

/-- The pages that are fetched from a number on, back to the first empty one. -/
inductive PagesBack (source : Source σ) (number : Int32) : Int32 → σ → List Visit → Prop
  | last {seqNo : Int32} {s : σ}
      (hempty : ((fetchPage source seqNo number).run s).1.value = []) :
      PagesBack source number seqNo s [⟨seqNo, []⟩]
  | more {seqNo : Int32} {s : σ} {first : Message} {rest : List Message} {visits : List Visit}
      (hpage : ((fetchPage source seqNo number).run s).1.value = first :: rest)
      (hvisits : PagesBack source number first.sequenceNumber
        ((fetchPage source seqNo number).run s).2 visits) :
      PagesBack source number seqNo s (⟨seqNo, first :: rest⟩ :: visits)

/-- What is fetched is fixed by where it begins. -/
theorem PagesBack.unique {s : σ} {visits visits' : List Visit}
    (h : PagesBack source number seqNo s visits) (h' : PagesBack source number seqNo s visits') :
    visits = visits' := by
  induction h generalizing visits' with
  | last hempty =>
    cases h' with
    | last => rfl
    | more hpage => simp [hempty] at hpage
  | more hpage _ ih =>
    cases h' with
    | last hempty => simp [hpage] at hempty
    | more hpage' hvisits' =>
      rw [hpage] at hpage'
      obtain ⟨rfl, rfl⟩ := List.cons.inj hpage'
      rw [ih hvisits']

/-- The pages put together, the last one first. -/
def together (visits : List Visit) : List Message :=
  (visits.map Visit.page).reverse.flatten

theorem together_cons (visit : Visit) (visits : List Visit) :
    together (visit :: visits) = together visits ++ visit.page := by
  simp [together]

/-- A page older than a number that leaves no gap: one message more than asked for, or as many as
there are. -/
def Visit.IsOlder (number : Int32) (visit : Visit) : Prop :=
  0 < visit.seqNo ∧
    numbers visit.page =
      Int.range (max 1 (visit.seqNo.toInt - number.toInt - 1)) visit.seqNo.toInt

theorem Numbered.isOlder {messages : List Message} (h : Numbered messages) (hpos : 0 < seqNo)
    (hnumber : 0 ≤ number) {bound : Int32}
    (hbound : bound.toInt = max (seqNo.toInt - number.toInt - 2) 0)
    (hheld : seqNo.toInt ≤ messages.length + 1) :
    Visit.IsOlder number
      ⟨seqNo, (messages.take (seqNo.toInt.toNat - 1)).drop bound.toInt.toNat⟩ := by
  have hlow : 0 < seqNo.toInt := Int32.lt_iff_toInt_lt.mp hpos
  have hnonneg : 0 ≤ number.toInt := Int32.le_iff_toInt_le.mp hnumber
  refine ⟨hpos, ?_⟩
  dsimp only
  rw [h.numbers_drop_take _ (by omega)]
  congr 1 <;> omega

/-- A page joins what lies below it: that is still the same as when the page was fetched. -/
theorem Source.Keeps.map_together_cons {α : Type} {view : Message → α}
    (h : source.Keeps log view) {s : σ} {bound : Int32} {last : Nat} {visits : List Visit}
    (hbound : bound.toInt.toNat ≤ last) (hlast : last ≤ (log s).length)
    (hvisits : (together visits).map view =
      ((log ((source.replyAfter bound).run s).2).map view).take bound.toInt.toNat) :
    (together (⟨seqNo, ((log s).take last).drop bound.toInt.toNat⟩ :: visits)).map view =
      ((log s).map view).take last := by
  obtain ⟨more, hmore⟩ := h.reply bound s
  have hlength : bound.toInt.toNat ≤ ((log s).map view).length := by
    rw [List.length_map]
    exact hbound.trans hlast
  have hbelow : (together visits).map view =
      (((log s).map view).take last).take bound.toInt.toNat := by
    rw [hvisits, ← hmore, List.take_append_of_le_length hlength, List.take_take,
      min_eq_left hbound]
  rw [together_cons, List.map_append, hbelow, List.map_drop, List.map_take,
    List.take_append_drop]

/-- **Paging back from a number** comes to the beginning of the log, and the pages put together are
what the log holds below the number. -/
theorem Source.Serves.exists_pagesBack (h : source.Serves log) (hnumber : 0 ≤ number)
    (hpos : 0 < seqNo) {s : σ} (hheld : seqNo.toInt ≤ (log s).length + 1) :
    ∃ visits, PagesBack source number seqNo s visits ∧
      (∀ {α : Type} (view : Message → α), source.Keeps log view →
        (together visits).map view = ((log s).map view).take (seqNo.toInt.toNat - 1)) ∧
      ∀ visit ∈ visits, visit.IsOlder number := by
  -- every page begins below the number it is asked for with
  induction hplace : seqNo.toInt.toNat using Nat.strong_induction_on generalizing seqNo s with
  | _ place ih =>
    have hlow : 0 < seqNo.toInt := Int32.lt_iff_toInt_lt.mp hpos
    have hnonneg : 0 ≤ number.toInt := Int32.le_iff_toInt_le.mp hnumber
    obtain ⟨bound, hbound, hbehind, hpage⟩ := h.fetchPage_older hpos hnumber s
    have hgrows := h.reply_grows bound s
    have holder := (h.numbered s).isOlder hpos hnumber hbound hheld
    rw [← hpage] at holder
    rw [hplace] at hpage
    cases hvalue : ((fetchPage source seqNo number).run s).1.value with
    -- nothing lies below the number, so it is the first one
    | nil =>
      rw [hvalue] at hpage holder
      have hnone := congrArg List.length hpage
      simp only [List.length_nil, List.length_drop, List.length_take] at hnone
      have hplace' : place - 1 = 0 := by omega
      refine ⟨[⟨seqNo, []⟩], .last hvalue, fun view _ => ?_, ?_⟩
      · simp [together, hplace']
      · simpa using holder
    -- the page begins right above the bound, and what is left is what lies below it
    | cons first rest =>
      rw [hvalue] at hpage holder
      obtain ⟨hfirst, hbelow⟩ := ((h.numbered s).take _).number_of_drop_eq_cons hpage.symm
      rw [List.length_take] at hbelow
      have hfirstPos : 0 < first.sequenceNumber :=
        Int32.lt_iff_toInt_lt.mpr (by rw [hfirst, Int32.toInt_zero]; omega)
      have hplaces : first.sequenceNumber.toInt.toNat - 1 = bound.toInt.toNat := by omega
      obtain ⟨visits, hvisits, htogether, holders⟩ :=
        @ih first.sequenceNumber.toInt.toNat (by omega) first.sequenceNumber hfirstPos
          ((fetchPage source seqNo number).run s).2 (by rw [hbehind]; omega) rfl
      refine ⟨⟨seqNo, first :: rest⟩ :: visits, .more hvalue hvisits, fun view hkeeps => ?_, ?_⟩
      · rw [hpage]
        refine hkeeps.map_together_cons (by omega) (by omega) ?_
        rw [htogether view hkeeps, hbehind, hplaces]
      · rintro visit (_ | ⟨_, hvisit⟩)
        · exact holder
        · exact holders visit hvisit

/-- **Paging back from the end** comes to the beginning of the log, and the pages put together are
the log as it is at the first reply. -/
theorem Source.Serves.exists_pagesBack_newest (h : source.Serves log) (hnumber : 0 ≤ number)
    (s : σ) :
    ∃ newest older, PagesBack source number 0 s (newest :: older) ∧
      (∀ {α : Type} (view : Message → α), source.Keeps log view →
        (together (newest :: older)).map view = (log (source.count.run s).2).map view) ∧
      ∀ visit ∈ older, visit.IsOlder number := by
  have hnonneg : 0 ≤ number.toInt := Int32.le_iff_toInt_le.mp hnumber
  obtain ⟨bound, hbound, hbehind, hpage⟩ := h.fetchPage_newest hnumber s
  have hcounted := h.count_grows s
  have hgrows := h.reply_grows bound (source.count.run s).2
  generalize (source.count.run s).2 = asked at hbehind hpage hcounted hgrows ⊢
  cases hvalue : ((fetchPage source 0 number).run s).1.value with
  -- the bound lies below every message there was, so there was none
  | nil =>
    have hnone := congrArg List.length (hvalue ▸ hpage)
    simp only [List.length_nil, List.length_drop] at hnone
    have hempty : log asked = [] := List.eq_nil_of_length_eq_zero (by omega)
    refine ⟨⟨0, []⟩, [], .last hvalue, fun view _ => ?_, ?_⟩
    · simp [together, hempty]
    · simp
  | cons first rest =>
    rw [hvalue] at hpage
    obtain ⟨hfirst, hbelow⟩ := (h.numbered asked).number_of_drop_eq_cons hpage.symm
    have hpos : 0 < first.sequenceNumber :=
      Int32.lt_iff_toInt_lt.mpr (by rw [hfirst, Int32.toInt_zero]; omega)
    have hplaces : first.sequenceNumber.toInt.toNat - 1 = bound.toInt.toNat := by omega
    obtain ⟨older, holder, htogether, hall⟩ :=
      @exists_pagesBack _ _ _ _ _ h hnumber hpos ((fetchPage source 0 number).run s).2
        (by rw [hbehind]; omega)
    refine ⟨⟨0, first :: rest⟩, older, .more hvalue holder, fun view hkeeps => ?_, hall⟩
    have hwhole : ((log asked).map view).take (log asked).length = (log asked).map view :=
      List.take_of_length_le (by simp)
    rw [← (log asked).take_length] at hpage
    rw [hpage, ← hwhole]
    refine hkeeps.map_together_cons (by omega) le_rfl ?_
    rw [htogether view hkeeps, hbehind, hplaces]

/-- **Nothing is lost and nothing comes twice.** Whatever is logged meanwhile, paging back ends
with an empty page, and the pages put together, the last one first, have the numbers from one to
that of the newest message at the first reply, each once; they are the messages of the log at that
time as far as these stay as they are. Every page but the first one ends just below the number it
is asked for with, begins where the page size says or the log does, and does not depend on the
number of messages. -/
theorem pagesBack_covers_log (h : source.Serves log) (hnumber : 0 ≤ number) (s : σ) :
    ∃ newest older, PagesBack source number 0 s (newest :: older) ∧
      (∀ visits, PagesBack source number 0 s visits → visits = newest :: older) ∧
      numbers (together (newest :: older)) =
        Int.range 1 ((log (source.count.run s).2).length + 1) ∧
      (∀ {α : Type} (view : Message → α), source.Keeps log view →
        (together (newest :: older)).map view = (log (source.count.run s).2).map view) ∧
      ∀ visit ∈ older, visit.IsOlder number ∧
        ∀ count, fetchPage { source with count := count } visit.seqNo number =
          fetchPage source visit.seqNo number := by
  obtain ⟨newest, older, hpages, htogether, holder⟩ := h.exists_pagesBack_newest hnumber s
  refine ⟨newest, older, hpages, fun visits hvisits => hvisits.unique hpages, ?_, htogether,
    fun visit hvisit => ⟨holder visit hvisit, fun count => ?_⟩⟩
  · rw [numbers, htogether _ h.keeps_number]
    exact (h.numbered _).numbers_eq
  · obtain ⟨hpos, -⟩ := holder visit hvisit
    rw [fetchPage, fetchPage, lowerBound_of_pos number _ hpos, lowerBound_of_pos number _ hpos]

/-- The log of a daemon that logs a third message as soon as it is asked something. -/
def sampleLog (asked : Bool) : List Message :=
  (List.range (if asked then 3 else 2)).map fun i =>
    { Message.empty with sequenceNumber := Int32.ofNat (i + 1) }

/-- A reply with nothing but the numbers of messages. -/
def sampleReply (messages : List Message) : String :=
  "<r>" ++ String.join (messages.map fun message =>
    "<msg><seqno>" ++ toString message.sequenceNumber ++ "</seqno></msg>") ++ "</r>"

/-- The daemon with that log. -/
def sampleSource : Source Bool where
  count := modifyGet fun asked => (Int32.ofNat (sampleLog asked).length, true)
  replyAfter bound := modifyGet fun asked =>
    (sampleReply ((sampleLog asked).filter (bound < ·.sequenceNumber)), true)

theorem serves_sampleSource : sampleSource.Serves sampleLog where
  numbered := by
    unfold Numbered
    decide
  length_lt := by decide
  count_eq _ := rfl
  count_grows := by decide
  reply_eq bound asked := by
    have hreads : ∀ messages ∈ (sampleLog asked).sublists,
        (Message.parse (sampleReply messages)).value = messages := by
      cases asked <;> decide +kernel
    exact hreads _ (List.mem_sublists.mpr List.filter_sublist)
  reply_grows bound asked := by
    have hlength : (sampleLog asked).length ≤ (sampleLog true).length := by
      cases asked <;> decide
    exact hlength

/-- The third message comes with the first page, although it was not counted. -/
theorem pagesBack_covers_log_sample :
    sampleSource.Serves sampleLog ∧ (0 : Int32) ≤ 0 ∧
      (sampleSource.count.run false).1 = 2 ∧
      ∃ newest older, PagesBack sampleSource 0 0 false (newest :: older) ∧
        numbers (together (newest :: older)) = [1, 2, 3] := by
  obtain ⟨newest, older, hpages, -, hnumbers, -⟩ :=
    @pagesBack_covers_log Bool sampleSource sampleLog 0 serves_sampleSource (by decide) false
  exact ⟨serves_sampleSource, by decide, by decide, newest, older, hpages, hnumbers⟩

end EventLog

end DaemonReply
