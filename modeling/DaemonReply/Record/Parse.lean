import DaemonReply.Record.Assembler

/-!
# Parsing a reply into records

Records come in the order in which they close. Broken markup anywhere in a reply makes all its
records void, so the outcome is either complete or empty. `tryParse` says what was broken;
`parse` reports it as a diagnostic and yields no records.
-/

namespace DaemonReply

open Markup

namespace RecordFamily

variable {β ρ : Type}

/-- The records of a reply, or what is wrong with its markup. -/
def tryParse (family : RecordFamily β ρ) (reply : String) : Except ScanError (List ρ) :=
  let (assembler, result) := (Assembler.new family).read family reply
  result.map fun _ => assembler.records.toList

/-- The records of a reply with what is reported about it; broken markup yields none. The loss
of a reply is reported as coming from `origin`. -/
def parseFor (family : RecordFamily β ρ) (origin : Origin) (reply : String) : Logged (List ρ) :=
  let (assembler, result) := (Assembler.new family).read family reply
  match result with
  | .ok () => ⟨assembler.records.toList, assembler.log.toList⟩
  | .error e => ⟨[], assembler.log.toList ++ [.discardedReply origin family.boundary e]⟩

/-- The records of a reply with what is reported about it. -/
def parse (family : RecordFamily β ρ) (reply : String) : Logged (List ρ) :=
  family.parseFor .assembly reply

/-- Of a reply with sound markup, the records are those of its events. -/
theorem tryParse_of_ok (family : RecordFamily β ρ) {reply : String}
    (h : (scan reply).result = .ok ()) :
    family.tryParse reply =
      .ok ((Assembler.new family).run family (scan reply).events).records.toList := by
  simp only [tryParse, Assembler.read, h]
  rfl

/-- A fault in the markup is what is wrong with a reply. -/
theorem tryParse_of_error (family : RecordFamily β ρ) {reply : String} {e : ScanError}
    (h : (scan reply).result = .error e) : family.tryParse reply = .error e := by
  simp only [tryParse, Assembler.read, h]
  rfl

/-- A reply with sound markup gives the same records either way. -/
theorem parseFor_value_of_tryParse {family : RecordFamily β ρ} {reply : String} {records : List ρ}
    (origin : Origin) (h : family.tryParse reply = .ok records) :
    (family.parseFor origin reply).value = records := by
  unfold tryParse at h
  unfold parseFor
  generalize (Assembler.new family).read family reply = outcome at h ⊢
  obtain ⟨assembler, _ | _⟩ := outcome
  · simp [Except.map] at h
  · simpa [Except.map] using h

/-- **Broken markup makes all records void.** -/
theorem parseFor_value_of_error {family : RecordFamily β ρ} {reply : String} {e : ScanError}
    (origin : Origin) (h : family.tryParse reply = .error e) :
    (family.parseFor origin reply).value = [] := by
  unfold tryParse at h
  unfold parseFor
  generalize (Assembler.new family).read family reply = outcome at h ⊢
  obtain ⟨assembler, _ | _⟩ := outcome
  · rfl
  · simp [Except.map] at h

end RecordFamily

end DaemonReply
