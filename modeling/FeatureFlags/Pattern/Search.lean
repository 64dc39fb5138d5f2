import FeatureFlags.Pattern.Reader

/-!
# Searching for patterns

A pattern is compiled before it is used, and one whose automaton would need too much memory is
invalid. The memory is estimated from the states of the automaton, without building it: a counted
repetition needs as many copies of its body as its greater bound.
-/

set_option autoImplicit false

namespace FeatureFlags.Pattern

open Unicode (CharSet)

/-- The octets that an automaton may take. -/
def memoryLimit : Nat := 10 * Nat.pow 2 20

/-- The octets of one state. -/
def stateSize : Nat := 32

/-- The octets of one transition. -/
def transitionSize : Nat := 8

/-- The estimated octets of the states for one character of a set. A range beyond ASCII takes two
states on the average. -/
def setMemory (s : CharSet) : Nat :=
  stateSize + s.foldl (fun n r => n + if r.2 ≤ 0x7F then transitionSize else 2 * stateSize) 0

/-- The octets of the state where one of two ways is taken. -/
def forkSize : Nat := stateSize + 2 * transitionSize

/-- The estimated octets of the automaton of an expression. -/
def Expression.memory : Expression → Nat
  | .empty => stateSize
  | .chars s => setMemory s
  | .look _ => stateSize
  | .concat a b => a.memory + b.memory
  | .either a b => forkSize + a.memory + b.memory
  | .times body least most =>
    match most with
    | none => (least + 1) * body.memory + forkSize
    | some n => n * body.memory + (n - least) * forkSize
  | .capture body => body.memory + 2 * stateSize

/-- The expression of a valid pattern whose automaton is not too large. -/
def compile? (pattern : String) : Option Expression := do
  let e ← Expression.ofPattern? pattern.toList
  if e.memory ≤ memoryLimit then some e else none

/-- Whether a text has a match of a pattern, anywhere. An invalid pattern has none. -/
def occursIn (pattern text : String) : Bool :=
  match compile? pattern with
  | some e => e.occursIn text.toList
  | none => false

end FeatureFlags.Pattern
