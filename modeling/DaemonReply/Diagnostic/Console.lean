import DaemonReply.Diagnostic.Filter
import DaemonReply.Text.Quoted

/-!
# The console

Diagnostics are printed only after a host has installed a console, and only the first
installation counts. A line shows the level, the message and the fields of one diagnostic, each
field as `name=value`. Where a plain value holds a line break, the line ends there and the rest
follows on a line of its own.
-/

namespace DaemonReply

/-- The text of a field's value. -/
def FieldValue.text : FieldValue → String
  | quoted text => Text.quote text
  | plain text => text
  | number value => toString value

/-- A diagnostic as it is printed on the console. -/
def Diagnostic.line (d : Diagnostic) : String :=
  let fields := d.fields.map fun (name, value) => s!" {name}={value.text}"
  s!"{d.level.label} {d.message}{String.join fields}"

/-- The console of a process: the filter it was installed with, if it was. -/
structure Console where
  filter : Option Filter := none
  deriving Repr

namespace Console

/-- Installs the console with a filter, unless it is installed already; the flag tells whether
this installation counts. -/
def install (console : Console) (filter : Filter) : Console × Bool :=
  match console.filter with
  | none => (⟨some filter⟩, true)
  | some _ => (console, false)

/-- Whether a diagnostic is printed. -/
def shows (console : Console) (d : Diagnostic) : Bool :=
  match console.filter with
  | none => false
  | some filter => filter.admits d

/-- The lines printed for diagnostics. -/
def lines (console : Console) (log : List Diagnostic) : List String :=
  (log.filter console.shows).flatMap fun d => d.line.splitOn "\n"

/-- **Only the first installation counts.** -/
theorem install_install (console : Console) (first second : Filter) :
    ((console.install first).1.install second) = ((console.install first).1, false) := by
  obtain ⟨_ | _⟩ := console <;> rfl

end Console

end DaemonReply
