import FeatureFlags.Feature.State
import FeatureFlags.Interceptor
import FeatureFlags.Repository.Journal

/-!
# Repositories

What is known locally of the features of a server. Every key that was asked for or delivered has
an entry, which stays the same entry until the repository is closed; a second index leads from
the identities of features to entries. Entries are told apart by their numbers, so that a handle
that was taken before a close keeps leading to the entry of that time.
-/

set_option autoImplicit false

namespace FeatureFlags

/-- The number of an entry. -/
abbrev EntryId := Nat

/-- The holder of the state of one key. -/
structure Entry where
  /-- The key. -/
  key : String
  /-- The state that was delivered last, if it was not taken away. -/
  state : Option FeatureState
  /-- Those who follow this entry. -/
  listeners : Listeners Listener
deriving Repr

namespace Entry

/-- An entry without a state. -/
def blank (key : String) : Entry := ⟨key, none, .empty⟩

instance : Inhabited Entry := ⟨blank ""⟩

/-- Whether the entry holds a feature that exists. -/
def doesExist (e : Entry) : Bool := e.state.any FeatureState.doesExist

/-- Whether the entry holds a locked feature. -/
def isLocked (e : Entry) : Bool := e.state.any FeatureState.locked

/-- The identity of the feature. -/
def featureId (e : Entry) : Option Uuid := e.state.map FeatureState.id

/-- The version of the feature. -/
def version (e : Entry) : Option Int := e.state.bind FeatureState.version

/-- The type of the feature's value. -/
def valueType (e : Entry) : Option ValueType := e.state.bind FeatureState.valueType

/-- The value of the feature for contexts that no strategy applies to. -/
def value (e : Entry) : Option Json := e.state.bind FeatureState.value

end Entry

/-- What is known locally of the features of a server. -/
structure Repository where
  /-- All entries that were ever made; the number of an entry is its place. -/
  entries : List Entry
  /-- The entries that are in use, by key. -/
  byKey : Table String EntryId
  /-- The entries that are in use, by the identity of the feature. -/
  byId : Table Uuid EntryId
  /-- The readiness. -/
  readiness : Readiness
  /-- Whether a batch of features was received. -/
  hasInitialState : Bool
  /-- Whether the repository was closed. -/
  isClosed : Bool
  /-- Those who follow the readiness. -/
  readinessListeners : Listeners Listener
  /-- Those who follow changes of features. -/
  updateListeners : Listeners Listener
  /-- Those who follow batches. -/
  batchListeners : Listeners Listener
  /-- The overrides, in the order of their registration. -/
  interceptors : List Interceptor
  /-- What was told to listeners, and how many errors were logged. -/
  journal : Journal

namespace Repository

/-- A repository that knows nothing yet. -/
def new : Repository where
  entries := []
  byKey := .empty
  byId := .empty
  readiness := .notReady
  hasInitialState := false
  isClosed := false
  readinessListeners := .empty
  updateListeners := .empty
  batchListeners := .empty
  interceptors := []
  journal := .empty

instance : Inhabited Repository := ⟨new⟩

/-- The entry with a number. -/
def entry (r : Repository) (e : EntryId) : Entry := r.entries[e]?.getD (.blank "")

/-- The number of the entry of a key, if the key has one. -/
def lookup? (r : Repository) (key : String) : Option EntryId := r.byKey.get? key

/-- The state under a key, if there is one. -/
def stateOf? (r : Repository) (key : String) : Option FeatureState :=
  (r.lookup? key).bind fun e => (r.entry e).state

/-- The number of the entry that holds the feature with an identity. -/
def featureById? (r : Repository) (id : Uuid) : Option EntryId := r.byId.get? id

/-- The keys that have entries, in order. -/
def keys (r : Repository) : List String := r.byKey.keys

/-- Changes one entry. -/
def modifyEntry (r : Repository) (e : EntryId) (f : Entry → Entry) : Repository :=
  { r with entries := r.entries.modify e f }

/-- Replaces the state of one entry. -/
def setState (r : Repository) (e : EntryId) (s : Option FeatureState) : Repository :=
  r.modifyEntry e fun entry => { entry with state := s }

/-- Logs errors. -/
def logErrors (r : Repository) (n : Nat) : Repository :=
  { r with journal := r.journal.logErrors n }

/-- The repository with an entry for a key, and the number of this entry. -/
def obtain (r : Repository) (key : String) : Repository × EntryId :=
  match r.lookup? key with
  | some e => (r, e)
  | none =>
    let e := r.entries.length
    ({ r with entries := r.entries ++ [.blank key], byKey := r.byKey.insert key e }, e)

/-- Looks up a key, which makes an entry for it. After the first batch it is an error to ask for
a key that is not known. -/
def getFeature (r : Repository) (key : String) : Repository × EntryId :=
  let (r', e) := r.obtain key
  if (r.lookup? key).isNone && r.hasInitialState then (r'.logErrors 1, e) else (r', e)

/-! ### Listeners -/

/-- The listeners of an audience. -/
def listeners (r : Repository) : Audience → Listeners Listener
  | .readiness => r.readinessListeners
  | .updates => r.updateListeners
  | .batches => r.batchListeners
  | .entry e => (r.entry e).listeners

/-- Changes the listeners of an audience. -/
def modifyListeners (r : Repository) (a : Audience)
    (f : Listeners Listener → Listeners Listener) : Repository :=
  match a with
  | .readiness => { r with readinessListeners := f r.readinessListeners }
  | .updates => { r with updateListeners := f r.updateListeners }
  | .batches => { r with batchListeners := f r.batchListeners }
  | .entry e => r.modifyEntry e fun entry => { entry with listeners := f entry.listeners }

/-- Calls the listeners of an audience. A closed repository calls nobody. -/
def announce (r : Repository) (a : Audience) (notice : Notice) : Repository :=
  if r.isClosed then r else { r with journal := r.journal.callAll a (r.listeners a) notice }

/-- Tells the readiness to those who follow it. -/
def announceReadiness (r : Repository) : Repository :=
  r.announce .readiness (.readiness r.readiness)

/-- Registers a listener. One that follows the readiness is told the present one. -/
def listen (r : Repository) (a : Audience) (listener : Listener) : Repository :=
  let id := (r.listeners a).nextId
  let r := r.modifyListeners a fun l => l.add listener
  if a = .readiness && !r.isClosed then
    { r with journal := r.journal.call ⟨a, id, listener, .readiness r.readiness⟩ }
  else r

/-- Cancels a listener. -/
def cancel (r : Repository) (a : Audience) (id : ListenerId) : Repository :=
  r.modifyListeners a fun l => l.cancel id

/-- Adds an override behind the others. -/
def intercept (r : Repository) (i : Interceptor) : Repository :=
  { r with interceptors := r.interceptors ++ [i] }

end Repository

end FeatureFlags
