import DaemonReply.Diagnostic.Basic
import DaemonReply.Diagnostic.Rule

/-!
# Filters

A filter decides which diagnostics reach the console. It holds rules for diagnostics and rules for
scopes, each with the more specific ones first. The first rule that covers a diagnostic decides,
and what none covers is silent. A setting holds the rules with commas between them, in any order,
and is valid if each rule is; an empty setting lets nothing through.
-/

namespace DaemonReply

/-- Which diagnostics reach the console. -/
structure Filter where
  /-- The rules for diagnostics. -/
  rules : List Rule
  /-- The rules for scopes, which are shown and decide nothing here. -/
  scopes : List Rule := []
  deriving DecidableEq, Repr

namespace Filter

/-- The filter that lets nothing through. -/
def nothing : Filter := ⟨[], []⟩

/-- The filter that has one threshold for all diagnostics. -/
def everywhere (threshold : Threshold) : Filter := ⟨[⟨{}, threshold⟩], []⟩

/-- Rules in their order; of two rules for the same selector the later one counts. -/
def sortRules (rules : List Rule) : List Rule :=
  rules.foldl (fun sorted rule => rule.insert sorted) []

/-- The filter that obeys some rules. -/
def ofRules (rules : List Rule) : Filter :=
  ⟨sortRules (rules.filter (·.selector.selectsDiagnostics)),
    sortRules (rules.filter (·.selector.selectsScopes))⟩

/-- Reads a setting; none if it is invalid. -/
def read? (setting : String) : Option Filter :=
  let pieces := (setting.splitOn ",").filter (· ≠ "")
  (pieces.mapM fun piece => Rule.read? piece.toList).map ofRules

/-- The setting of a filter as it is shown. -/
def text (filter : Filter) : String :=
  ",".intercalate ((filter.rules ++ filter.scopes).map Rule.text)

/-- The filter of a host: a valid setting wins over the verbosity. -/
def configured (setting : Option String) (verbosity : Verbosity) : Filter :=
  (setting.bind read?).getD (everywhere verbosity.threshold)

/-- Whether a diagnostic passes. -/
def admits (filter : Filter) (d : Diagnostic) : Bool :=
  match filter.rules.find? (·.selector.covers d.origin.target d.fieldNames) with
  | some rule => rule.threshold.admits d.level
  | none => false

end Filter

end DaemonReply
