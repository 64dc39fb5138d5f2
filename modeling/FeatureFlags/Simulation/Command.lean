import FeatureFlags.Client.Config
import FeatureFlags.Context.Reading
import FeatureFlags.Edge.Event
import FeatureFlags.Edge.Retryer
import FeatureFlags.Simulation.Scripted
import FeatureFlags.Simulation.Server

/-!
# Commands

What can be asked of a session, and what it answers. Commands refer to futures, entries,
listeners and contexts by names that earlier commands gave them.
-/

set_option autoImplicit false

namespace FeatureFlags.Simulation

/-- Why there is no answer. -/
inductive Fault where
  /-- The command, or a name in it, is not known. -/
  | notUnderstood
  /-- A value in the command is not of its type. -/
  | undecodable
  /-- An identity in the command is none. -/
  | noIdentity
  /-- An event in the command is not known. -/
  | unknownEvent
  /-- There is no network on which a server could listen. -/
  | noNetwork
  /-- There is no client with this configuration. -/
  | badConfig (cause : Client.ConfigError)
deriving DecidableEq, Repr

/-- The lists in which commands register listeners. -/
inductive Topic where
  /-- The readiness. -/
  | readiness
  /-- Changes of all features. -/
  | updates
  /-- Batches. -/
  | batches
  /-- One entry, by its key. -/
  | entry (key : String)
deriving DecidableEq, Repr

/-- What can be asked of a session. -/
inductive Command where
  /-- To apply a batch of states. -/
  | updateFeatures (states : List FeatureState) (force : Bool)
  /-- To apply a state. -/
  | updateFeature (s : FeatureState) (force : Bool)
  /-- To delete a feature. -/
  | deleteFeature (s : FeatureState)
  /-- To apply the text of an event. -/
  | applyEvent (event data : String)
  /-- To apply an event without a text. -/
  | notify (kind : Edge.EventKind)
  /-- To take the readiness away. -/
  | markNotReady
  /-- To say that there are no features. -/
  | markEmpty
  /-- To close the repository. -/
  | closeRepository
  /-- To tell whether the repository is closed. -/
  | isClosed
  /-- To look up a feature, and perhaps to name its entry. -/
  | getFeature (key : String) (keepAs : Option String)
  /-- To show a named entry. -/
  | showEntry (name : String)
  /-- To look up a feature by its identity. -/
  | getById (id : String)
  /-- To list the keys. -/
  | keys
  /-- To list all entries. -/
  | dump
  /-- To register a listener under a name. -/
  | listen (topic : Topic) (name : String) (fails : Bool)
  /-- To cancel a named listener. -/
  | cancel (name : String)
  /-- To add an override. -/
  | intercept (i : Interceptor)
  /-- To set or remove an environment variable. -/
  | setVariable (name : String) (value : Option String)
  /-- To look for an override. -/
  | findOverride (locked : Bool) (key : String)
  /-- To resolve a feature. -/
  | resolve (key : String) (expected : Option ValueType) (context : Option Attributes)
  /-- To report an outcome to the retryer. -/
  | reportOutcome (outcome : Edge.Outcome)
  /-- To give a configuration to the retryer. -/
  | configure (data : String)
  /-- To show the retryer. -/
  | showRetryer
  /-- To close the retryer. -/
  | closeRetryer
  /-- To tell how long a delay would be. -/
  | delay (base : Duration) (multiplier : Nat)
  /-- To let time pass. -/
  | sleep (d : Duration)
  /-- To poll the edge, and perhaps to name the future. -/
  | poll (keepAs : Option String)
  /-- To tell the edge of another context, and perhaps to name the future. -/
  | changeContext (header : Option String) (sha : String) (keepAs : Option String)
  /-- To build a context, and perhaps to name the future. -/
  | build (context : String) (keepAs : Option String)
  /-- To wait for a named future. -/
  | await (name : String)
  /-- To look at a named future. -/
  | peek (name : String)
  /-- To let go of what is held back, and to wait for named futures. -/
  | release (answer : Option Readiness) (names : List String)
  /-- To show the edge. -/
  | showEdge
  /-- To set whether a scripted edge is stopped. -/
  | setStopped (b : Bool)
  /-- To tell the edge that a feature was read. -/
  | useFeature
  /-- To list the requests that the edge made. -/
  | requests
  /-- To do nothing. -/
  | settle
  /-- To close the edge or the client. -/
  | close
  /-- To wait until the client is ready or has failed, perhaps for some time only. -/
  | waitForReadiness (d : Option Duration)
  /-- To change the attributes of a context. -/
  | changeAttributes (context : String) (change : Attributes → Attributes)
  /-- To read an attribute of a context. -/
  | getAttribute (context name : String)
  /-- To tell the readiness as a context sees it. -/
  | contextReadiness (context : String)
  /-- To read a feature in a context. -/
  | read (context key : String)
  /-- To read a feature three times in a context: whether it is on, is set, and exists. -/
  | check (context key : String)

/-- An entry in a listing. -/
structure Listed where
  /-- The entry. -/
  entry : Entry
  /-- The key of the entry that is found by the identity of the state. -/
  keyOfId : Option String

/-- What can be seen of a retryer. -/
structure RetryerReport where
  /-- Whether no further attempts are made. -/
  isStopped : Bool
  /-- Whether the server does not know the key. -/
  isNotFound : Bool
  /-- The multiplier, unless it depends on chance. -/
  multiplier : Option Nat
  /-- How often reconnecting was asked for. -/
  reconnects : Nat
deriving Repr

/-- What a session answers. -/
inductive Answer where
  /-- Nothing. -/
  | nothing
  /-- That it was done. -/
  | done
  /-- A truth value. -/
  | truth (b : Bool)
  /-- A readiness. -/
  | readiness (r : Readiness)
  /-- That a future is open. -/
  | pending
  /-- What futures were answered with. -/
  | readinesses (rs : List (Option Readiness))
  /-- Texts. -/
  | texts (ss : List String)
  /-- A text. -/
  | text (s : String)
  /-- An entry. -/
  | entry (e : Entry)
  /-- A named entry, and whether it is in use. -/
  | namedEntry (e : Entry) (isInUse : Bool)
  /-- All entries. -/
  | listing (items : List Listed)
  /-- A value. -/
  | value (v : Json)
  /-- What a feature resolves to. -/
  | resolved (v : Option Json)
  /-- The retryer. -/
  | retryer (r : RetryerReport)
  /-- A length of time. -/
  | duration (d : Duration)
  /-- The edge. -/
  | edge (isStopped : Bool) (interval : Duration) (isReplacedOnChange : Bool)
  /-- The calls of a scripted edge, and how many features were read. -/
  | calls (calls : List ScriptedCall) (used : Nat)
  /-- The requests that a server received. -/
  | requests (rs : List Received)
  /-- The attributes of a context. -/
  | attributes (a : Attributes)
  /-- A feature as a context sees it. -/
  | reading (r : FeatureReading)
  /-- Whether a feature is on, is set, and exists. -/
  | checks (isEnabled isSet doesExist : Bool)
  /-- There is no answer. -/
  | refused (f : Fault)

/-- What can be seen of a step. -/
structure Observation where
  /-- The answer. -/
  answer : Answer
  /-- The readiness after the step. -/
  readiness : Readiness
  /-- The calls of listeners, in the order of their texts. -/
  events : List String
  /-- How many errors were logged. -/
  errors : Nat

end FeatureFlags.Simulation
