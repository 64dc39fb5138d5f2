import FeatureFlags.Repository.Basic

/-!
# Updating a repository

Delivered states are reconciled by their versions: an older state is refused, and so is one of
the same version with the same value. A feature that arrives under another key takes its state
away from the key it had. A deleted feature keeps its entry, without a value and a version.
-/

set_option autoImplicit false

namespace FeatureFlags.Repository

/-- Whether a delivered state is refused in favour of the state that is there. -/
def isStale (existing delivered : FeatureState) : Bool :=
  delivered.effectiveVersion < existing.effectiveVersion ||
    (existing.effectiveVersion == delivered.effectiveVersion &&
      Json.sameOptional existing.value delivered.value)

/-- Whether two states differ in what readers of a feature see. -/
def differs (before after : FeatureState) : Bool :=
  !Json.sameOptional before.value after.value || before.valueType != after.valueType ||
    before.doesExist != after.doesExist

/-- Takes the state away from the entry that held a feature under another key. -/
def forgetRenamed (r : Repository) (s : FeatureState) : Repository :=
  match r.featureById? s.id with
  | some e =>
    let old := r.entry e
    if old.key = s.key then r else (r.setState e none).announce (.entry e) (.feature old.key)
  | none => r

/-- Tells those who follow an entry and, after the first batch, those who follow all features. -/
def announceChange (r : Repository) (e : EntryId) (key : String) : Repository :=
  let r := r.announce (.entry e) (.feature key)
  if r.hasInitialState then r.announce .updates (.feature key) else r

/-- Puts a state into its entry and into the index of identities. -/
def store (r : Repository) (e : EntryId) (s : FeatureState) : Repository :=
  let r := r.setState e (some s)
  { r with byId := r.byId.insert s.id e }

/-- Applies one delivered state, and tells whether it was accepted. With force, every state is
accepted. -/
def updateFeature (r : Repository) (s : FeatureState) (force : Bool) : Repository × Bool :=
  if r.isClosed then (r, false)
  else
    let (r, e) := r.obtain s.key
    let previous := (r.entry e).state
    if !force && previous.any fun p => isStale p s then (r, false)
    else
      let r := (r.forgetRenamed s).store e s
      let changed := previous.all fun p => differs p s
      (if changed then r.announceChange e s.key else r, true)

/-- Applies a list of states, one after the other. -/
def updateEach (r : Repository) (states : List FeatureState) (force : Bool) : Repository :=
  states.foldl (fun r s => (r.updateFeature s force).1) r

/-- Applies a batch of states, which makes the repository ready. -/
def updateFeatures (r : Repository) (states : List FeatureState) (force : Bool) : Repository :=
  if r.isClosed then r
  else
    let r := r.updateEach states force
    let first := !r.hasInitialState
    let previous := r.readiness
    let r := { r with hasInitialState := true, readiness := .ready }
    let r := if first || previous != .ready then r.announceReadiness else r
    r.announce .batches .batch

/-- Removes a feature: its entry stays, without a value and a version. -/
def deleteFeature (r : Repository) (s : FeatureState) : Repository :=
  match r.updateFeature { s with value := none } false with
  | (r, false) => r
  | (r, true) =>
    let (r, e) := r.obtain s.key
    let r := r.setState e ((r.entry e).state.map fun current => { current with version := none })
    { r with byId := r.byId.erase s.id }

/-! ### Readiness -/

/-- The server cannot be relied on. -/
def fail (r : Repository) : Repository := { r with readiness := .failed }.announceReadiness

/-- What is known does not belong to the context any more. -/
def notReady (r : Repository) : Repository :=
  let previous := r.readiness
  let r := { r with readiness := .notReady }
  if previous = .notReady then r else r.announceReadiness

/-- The server has no features, which can be relied on. -/
def markEmpty (r : Repository) : Repository := { r with readiness := .ready }.announceReadiness

/-- Forgets everything but the overrides, tells those who follow the readiness, and calls nobody
from then on. -/
def close (r : Repository) : Repository :=
  if r.isClosed then r
  else
    let r := { r with byKey := .empty, byId := .empty, hasInitialState := false,
                      readiness := .notReady }
    let r := r.announceReadiness
    { r with
      isClosed := true
      readinessListeners := r.readinessListeners.clear
      updateListeners := r.updateListeners.clear
      batchListeners := r.batchListeners.clear }

end FeatureFlags.Repository
