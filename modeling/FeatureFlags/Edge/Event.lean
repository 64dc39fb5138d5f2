import FeatureFlags.Repository.Update

/-!
# Events of the edge protocol

A server sends named events with texts. Events with features change the repository; an event
whose text cannot be read changes nothing.
-/

set_option autoImplicit false

namespace FeatureFlags.Edge

open Json

/-- The events of the protocol. -/
inductive EventKind where
  /-- The connection was accepted. -/
  | ack
  /-- The server is going to close the connection. -/
  | bye
  /-- The server will not serve this client. -/
  | failure
  /-- A batch of features. -/
  | features
  /-- One feature. -/
  | feature
  /-- A feature that was deleted. -/
  | deleteFeature
  /-- Settings of the server. -/
  | config
deriving DecidableEq, Repr

namespace EventKind

/-- The names of the events. -/
def names : List (String × EventKind) :=
  [("ack", .ack), ("bye", .bye), ("failure", .failure), ("features", .features),
    ("feature", .feature), ("delete_feature", .deleteFeature), ("config", .config)]

/-- The name of an event. -/
def name (k : EventKind) : String := nameOf names k

/-- Reads an event. -/
def decode : Decoder EventKind := .oneOf names

/-- The event with a name, in letters of any case. -/
def ofName? (s : String) : Option EventKind :=
  Table.find? (String.ofList (Text.lower s.toList)) names

end EventKind

/-- Applies the text of an event to a repository; nothing if the text cannot be read. An item of
a batch that cannot be read is left out and is an error in the log. -/
def applyEvent? (kind : EventKind) (data : String) (r : Repository) : Option Repository :=
  match kind with
  | .features => do
    let document ← Document.ofText? data
    let items ← FeatureState.decodeList .text document
    let r := r.logErrors (Lenient.countMalformed items)
    some (r.updateFeatures (Lenient.parsedOnly items) false)
  | .feature => do
    let document ← Document.ofText? data
    let s ← FeatureState.decode .text document
    some (r.updateFeature s false).1
  | .deleteFeature => do
    let document ← Document.ofText? data
    let s ← FeatureState.decode .text document
    some (r.deleteFeature s)
  | .failure => some r.fail
  | .ack | .bye | .config => some r

/-- What a repository hears from the server, apart from features: only a failure changes it. -/
def notify (kind : EventKind) (r : Repository) : Repository :=
  match kind with
  | .failure => r.fail
  | _ => r

end FeatureFlags.Edge
