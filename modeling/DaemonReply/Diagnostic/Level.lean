import DaemonReply.Value.Integer

/-!
# Levels and verbosity

A diagnostic has one of five levels, from the gravest to the most detailed. A **threshold** lets
every diagnostic through that is at least as grave as its level; `off` lets none through. In
settings a threshold is written as its word or as its number. Hosts state how much they want to
see as a number, the **verbosity**: `0` or less is silence, `1` shows errors only, and from `5` on
everything is shown.
-/

namespace DaemonReply

/-- How grave a diagnostic is, from the gravest on. -/
inductive Level where
  | error
  | warn
  | info
  | debug
  | trace
  deriving DecidableEq, Repr

namespace Level

/-- The number of levels up to this one, from the gravest on. -/
def rank : Level → Nat
  | error => 1
  | warn => 2
  | info => 3
  | debug => 4
  | trace => 5

/-- The word for a level in settings. -/
def name : Level → String
  | error => "error"
  | warn => "warn"
  | info => "info"
  | debug => "debug"
  | trace => "trace"

/-- The word for a level on the console. -/
def label : Level → String
  | error => "ERROR"
  | warn => "WARN"
  | info => "INFO"
  | debug => "DEBUG"
  | trace => "TRACE"

end Level

/-- The most detailed level that is let through, if any is. -/
inductive Threshold where
  | off
  | upTo (level : Level)
  deriving DecidableEq, Repr

namespace Threshold

/-- Whether diagnostics of a level are let through. -/
def admits : Threshold → Level → Bool
  | off, _ => false
  | upTo bound, level => level.rank ≤ bound.rank

/-- The word for a threshold. -/
def name : Threshold → String
  | off => "off"
  | upTo level => level.name

/-- The thresholds in the order of their numbers, which start at zero. -/
def all : List Threshold :=
  [off, upTo .error, upTo .warn, upTo .info, upTo .debug, upTo .trace]

/-- Reads the number of a threshold. -/
def readNumber? (text : List Char) : Option Threshold :=
  (Value.readUInt64? text).bind fun number => all[number.toNat]?

/-- Reads a threshold: its number, or its word in any letter case. -/
def read? (text : String) : Option Threshold :=
  (readNumber? text.toList).or (all.find? fun threshold =>
    threshold.name == text.map Char.toLower)

/-- **The word of a threshold reads back.** -/
theorem read?_name (threshold : Threshold) : read? threshold.name = some threshold := by
  rcases threshold with _ | level
  · decide +kernel
  · cases level <;> decide +kernel

end Threshold

/-- How much a host wants to see, as a number. -/
structure Verbosity where
  value : Int32
  deriving DecidableEq, Ord, Repr

namespace Verbosity

/-- Nothing is shown. -/
def off : Verbosity := ⟨0⟩

/-- Errors are shown. -/
def error : Verbosity := ⟨1⟩

/-- Warnings are shown, too. -/
def warn : Verbosity := ⟨2⟩

/-- Remarks are shown, too. -/
def info : Verbosity := ⟨3⟩

/-- Details are shown, too. -/
def debug : Verbosity := ⟨4⟩

/-- Everything is shown. -/
def trace : Verbosity := ⟨5⟩

/-- A host that states no verbosity gets silence. -/
instance : Inhabited Verbosity := ⟨off⟩

/-- The threshold that a verbosity asks for. -/
def threshold (v : Verbosity) : Threshold :=
  if v.value ≤ 0 then .off
  else if v.value = 1 then .upTo .error
  else if v.value = 2 then .upTo .warn
  else if v.value = 3 then .upTo .info
  else if v.value = 4 then .upTo .debug
  else .upTo .trace

end Verbosity

end DaemonReply
