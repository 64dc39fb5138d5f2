import FeatureFlags.Listeners
import FeatureFlags.Readiness

/-!
# The journal of calls to listeners

What a repository told its listeners, in order, and how many errors it logged. A listener that
fails is an error in the log and changes nothing for the others.
-/

set_option autoImplicit false

namespace FeatureFlags

/-- What a listener is called with. -/
inductive Notice where
  /-- The readiness of the repository. -/
  | readiness (r : Readiness)
  /-- A feature changed, or may have. -/
  | feature (key : String)
  /-- A batch of features was applied. -/
  | batch
deriving DecidableEq, Repr

/-- The text of a notice. -/
def Notice.text : Notice → String
  | .readiness r => r.name
  | .feature key => key
  | .batch => "batch"

/-- A listener. -/
structure Listener where
  /-- The label of the calls it gets. -/
  label : String
  /-- Whether it fails when it is called. -/
  fails : Bool
deriving DecidableEq, Repr

/-- The lists that listeners register in. -/
inductive Audience where
  /-- Those who follow the readiness. -/
  | readiness
  /-- Those who follow changes of all features. -/
  | updates
  /-- Those who follow batches. -/
  | batches
  /-- Those who follow one entry, by the number of the entry. -/
  | entry (id : Nat)
deriving DecidableEq, Repr

/-- A call to a listener. -/
structure Call where
  /-- The list it is registered in. -/
  audience : Audience
  /-- Its number in this list. -/
  id : ListenerId
  /-- The listener. -/
  listener : Listener
  /-- What it was called with. -/
  notice : Notice
deriving DecidableEq, Repr

/-- The text of a call: the label of the listener and the notice. -/
def Call.text (c : Call) : String := c.listener.label ++ ":" ++ c.notice.text

/-- The calls that were made and the number of errors that were logged. -/
structure Journal where
  /-- The calls, in order. -/
  calls : List Call
  /-- The number of errors. -/
  errors : Nat
deriving DecidableEq, Repr

namespace Journal

/-- Nothing happened. -/
def empty : Journal := ⟨[], 0⟩

instance : Inhabited Journal := ⟨empty⟩

/-- Logs errors. -/
def logErrors (j : Journal) (n : Nat) : Journal := { j with errors := j.errors + n }

/-- Calls one listener. -/
def call (j : Journal) (c : Call) : Journal :=
  ⟨j.calls ++ [c], if c.listener.fails then j.errors + 1 else j.errors⟩

/-- Calls every registered listener of an audience, in order. -/
def callAll (j : Journal) (audience : Audience) (listeners : Listeners Listener)
    (notice : Notice) : Journal :=
  listeners.registered.foldl (fun j r => j.call ⟨audience, r.1, r.2, notice⟩) j

end Journal

end FeatureFlags
