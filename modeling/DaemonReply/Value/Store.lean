/-!
# Storing what was read

A value that cannot be read leaves its slot as it was. The text is then **rejected**, together
with the name it stood under, and nothing else happens.
-/

namespace DaemonReply.Value

/-- A text that could not be read, under the name of its field as written. -/
structure Rejection where
  field : String
  text : String
  deriving DecidableEq, Repr

/-- The content of a slot after an attempt to store into it. -/
structure Stored (α : Type) where
  value : α
  rejected : Option Rejection := none
  deriving DecidableEq, Repr

namespace Stored

variable {α β : Type}

/-- Carries an outcome from a slot to what holds the slot. -/
def map (f : α → β) (s : Stored α) : Stored β :=
  ⟨f s.value, s.rejected⟩

@[simp] theorem map_value (f : α → β) (s : Stored α) : (s.map f).value = f s.value := rfl

@[simp] theorem map_rejected (f : α → β) (s : Stored α) : (s.map f).rejected = s.rejected := rfl

end Stored

/-- Stores what was read from the text of a field, if it could be read. -/
def store {α : Type} (slot : α) (read : Option α) (field text : String) : Stored α :=
  match read with
  | some value => { value }
  | none => { value := slot, rejected := some ⟨field, text⟩ }

@[simp] theorem store_some {α : Type} (slot value : α) (field text : String) :
    store slot (some value) field text = { value } := rfl

@[simp] theorem store_none {α : Type} (slot : α) (field text : String) :
    store slot none field text = { value := slot, rejected := some ⟨field, text⟩ } := rfl

/-- What is in a slot after an attempt to store does not depend on the name of the field. -/
@[simp] theorem store_value {α : Type} (slot : α) (read : Option α) (field text : String) :
    (store slot read field text).value = read.getD slot := by
  cases read <;> rfl

/-- What is rejected is what could not be read. -/
@[simp] theorem isSome_rejected_store {α : Type} (slot : α) (read : Option α)
    (field text : String) : (store slot read field text).rejected.isSome = read.isNone := by
  cases read <;> rfl

end DaemonReply.Value
