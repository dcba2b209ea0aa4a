import DaemonReply.Diagnostic.Condition
import DaemonReply.Diagnostic.Level
import DaemonReply.Text.Extent

/-!
# Rules of a filter

A rule lets what its **selector** covers through up to a threshold. It is written as a threshold
alone, which covers everything, or as a selector and a threshold with `=` between them; without a
threshold everything that the selector covers passes. A selector is a **target**, the name of a
part of the program, which covers all parts below it too, or a bracket, or a target and a bracket.
The bracket holds the name of a **scope**, or a condition in braces, or both.

A condition on a field without a value is for scopes and for diagnostics that have the field. All
other brackets are for scopes alone. A setting serves all of a host's libraries, so it may name
scopes, but the diagnostics of this library are reported outside any scope.

Main statement: the threshold alone is read as the rule that covers everything
(`Rule.read?_threshold`).
-/

namespace DaemonReply

open Text

/-- What a rule is for. -/
structure Selector where
  target : Option String := none
  scope : Option String := none
  condition : Option Condition := none
  deriving DecidableEq, Repr

namespace Selector

/-- A selector as it is shown. -/
def text (s : Selector) : String :=
  let condition := (s.condition.map fun c => "\x7b" ++ c.text ++ "\x7d").getD ""
  let bracket := if s.scope.isSome || s.condition.isSome then
    "[" ++ s.scope.getD "" ++ condition ++ "]" else ""
  s.target.getD "" ++ bracket

/-- Whether scopes are selected. -/
def selectsScopes (s : Selector) : Bool :=
  s.scope.isSome || s.condition.isSome

/-- Whether diagnostics are selected. -/
def selectsDiagnostics (s : Selector) : Bool :=
  s.scope.isNone && s.condition.all (·.wanted.isNone)

/-- Whether a diagnostic that comes from a target and has some fields is selected. -/
def covers (s : Selector) (target : String) (fields : List String) : Bool :=
  s.selectsDiagnostics && (s.target.getD "").toList.isPrefixOf target.toList &&
    s.condition.all (·.field ∈ fields)

/-- The place of a selector among others: a greater key is more specific. The longer target
decides, then whether there is a scope, then whether there is a condition, and last the order of
the alphabet. -/
def key (s : Selector) : List Int :=
  [((s.target.getD "").utf8ByteSize : Int), if s.scope.isSome then 1 else 0,
    if s.condition.isSome then 1 else 0] ++ textKey (s.target.getD "") ++
    textKey (s.scope.getD "") ++ (s.condition.map Condition.key).getD []

/-- Whether a selector is more specific than another. -/
def outranks (s other : Selector) : Bool :=
  List.lex other.key s.key fun m n => m < n

/-- Whether a target may begin with a character. -/
def beginsTarget (c : Char) : Bool :=
  isAlphanumeric c || c = '_' || c = '-' || c = ':'

end Selector

/-- A threshold for what a selector covers. -/
structure Rule where
  selector : Selector
  threshold : Threshold
  deriving DecidableEq, Repr

namespace Rule

/-- A rule as it is shown. -/
def text (rule : Rule) : String :=
  if rule.selector = {} then rule.threshold.name
  else s!"{rule.selector.text}={rule.threshold.name}"

/-! ### Reading

The signs of a rule are searched for in its **core**, the rule without the blanks at its two ends.
They are places in the core, counted in bytes, and the parts are cut out of the rule between the
same places; a part without a sign behind it reaches to the end of the rule. So blanks before a
rule move its parts, and blanks behind it belong to the last of them. -/

/-- The part of a rule between two places. -/
def part? (rule : List Char) (start stop : Nat) : Option String :=
  (slice? start stop rule).map String.ofList

/-- The rule that is a single word: a threshold, or else a target. -/
def ofWord (word : String) : Rule :=
  match Threshold.read? word with
  | some threshold => ⟨{}, threshold⟩
  | none => ⟨⟨some word, none, none⟩, .upTo .trace⟩

/-- Reads what follows a selector that ends at a place: the rest of the core tells whether there
is a threshold, and the rule holds it. -/
def readThreshold? (rule : List Char) (place : Nat) (rest : List Char) : Option Threshold :=
  match rest with
  | [] => some (.upTo .trace)
  | '=' :: _ => (dropBytes? (place + 1) rule).bind fun word =>
    if word = [] then some (.upTo .trace) else Threshold.read? (String.ofList word)
  | _ => none

/-- Reads a rule from behind the opening brace of its condition on, which is a place. -/
def readCondition? (rule : List Char) (target scope : Option String) (place : Nat)
    (rest : List Char) : Option Rule := do
  let condition := rest.takeWhile (· ≠ '\x7d')
  let stop := place + utf8Length condition
  match rest.drop condition.length with
  | _ :: ']' :: rest =>
    let condition ← Condition.read? (← slice? place stop rule)
    let threshold ← readThreshold? rule (stop + 2) rest
    return ⟨⟨target, scope, some condition⟩, threshold⟩
  | _ => none

/-- Reads a rule from behind its opening bracket on, which is a place. -/
def readBracket? (rule : List Char) (target : Option String) (place : Nat) (rest : List Char) :
    Option Rule := do
  let name := rest.takeWhile fun c => c ≠ ']' ∧ c ≠ '\x7b'
  let stop := place + utf8Length name
  let scope ← part? rule place stop
  match rest.drop name.length with
  | ']' :: rest =>
    let threshold ← readThreshold? rule (stop + 1) rest
    return ⟨⟨target, some scope, none⟩, threshold⟩
  | _ :: rest =>
    let scope := if scope = "" then none else some scope
    readCondition? rule target scope (stop + 1) rest
  | [] => none

/-- Reads a rule. -/
def read? (rule : List Char) : Option Rule := do
  let core := trim isWhiteSpace rule
  let name := core.takeWhile fun c => c ≠ '=' ∧ c ≠ '['
  let place := utf8Length name
  if name.head?.any Selector.beginsTarget then
    match core.drop name.length with
    | [] => return ofWord (String.ofList rule)
    | '[' :: rest => readBracket? rule (← part? rule 0 place) (place + 1) rest
    | rest =>
      let target ← part? rule 0 place
      let threshold ← readThreshold? rule place rest
      return ⟨⟨target, none, none⟩, threshold⟩
  else
    match core with
    | '[' :: rest => readBracket? rule none 1 rest
    | _ => none

/-! ### Order -/

/-- Adds a rule in front of the less specific ones; it takes the place of an earlier rule whose
selector has the same key. -/
def insert (rule : Rule) : List Rule → List Rule
  | [] => [rule]
  | first :: rest =>
    if rule.selector.key = first.selector.key then rule :: rest
    else if rule.selector.outranks first.selector then rule :: first :: rest
    else first :: insert rule rest

/-- **A threshold alone covers everything.** -/
theorem read?_threshold (threshold : Threshold) :
    read? threshold.name.toList = some ⟨{}, threshold⟩ := by
  rcases threshold with _ | level
  · decide +kernel
  · cases level <;> decide +kernel

end Rule

end DaemonReply
