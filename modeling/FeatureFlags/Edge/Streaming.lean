import FeatureFlags.Edge.Basic
import FeatureFlags.Edge.Event
import FeatureFlags.Edge.Retryer

/-!
# Streaming edges

An edge that holds a connection open, over which the server sends events. At most one connection
is open. When it ends, the retryer decides whether there is to be another one. If the server
evaluates features for a context, a change of the context needs another connection.

Reconnecting can also be asked for by somebody else, whom the retryer serves as well.
-/

set_option autoImplicit false

namespace FeatureFlags.Edge

/-- Who is told to reconnect. -/
inductive Reconnector where
  /-- The edge itself. -/
  | edge
  /-- Somebody who only counts. -/
  | counter
deriving DecidableEq, Repr

/-- A connection. -/
structure Connection where
  /-- Its number. -/
  generation : Nat
  /-- The header of the context for which it was made. -/
  header : Option String
  /-- Whether the server said goodbye. -/
  saidBye : Bool
deriving DecidableEq, Repr

/-- An edge that holds a connection open. -/
structure Streaming where
  /-- What is shared with the client. -/
  shared : Shared
  /-- The address. -/
  url : String
  /-- Whether the server evaluates features for the context. -/
  isServerEvaluated : Bool
  /-- Decides on further connections. -/
  retryer : Retryer Reconnector
  /-- The header of the context. -/
  header : Option String
  /-- The number of the connection that counts as open. -/
  current : Option Nat
  /-- How many connections were made. -/
  generation : Nat
  /-- Those who wait for the next event. -/
  waiters : List Ticket
  /-- Whether the edge was closed. -/
  isClosed : Bool
  /-- The connections that are open. -/
  connections : List Connection
  /-- All connections that were made, in order. -/
  opened : List Connection

namespace Streaming

/-- An edge before its first connection. -/
def new (shared : Shared) (url : String) (isServerEvaluated : Bool) (settings : RetrySettings) :
    Streaming where
  shared := shared
  url := url
  isServerEvaluated := isServerEvaluated
  retryer := .new settings
  header := none
  current := none
  generation := 0
  waiters := []
  isClosed := false
  connections := []
  opened := []

/-- Whether a connection counts as open. -/
def isConnected (s : Streaming) : Bool := s.current.isSome

/-- Makes a connection unless there is one, and tells whether it did. -/
def connect (s : Streaming) : Streaming × Bool :=
  if s.isClosed || s.retryer.isStopped || s.isConnected then (s, false)
  else
    let connection : Connection := ⟨s.generation + 1, s.header, false⟩
    ({ s with
        generation := s.generation + 1
        current := some connection.generation
        connections := s.connections ++ [connection]
        opened := s.opened ++ [connection] }, true)

/-- Ends the connection that counts as open. -/
def disconnect (s : Streaming) : Streaming :=
  { s with
    current := none
    connections := s.connections.filter fun c => some c.generation ≠ s.current }

/-- Answers all who wait, with the present readiness. -/
def answerWaiters (s : Streaming) : Streaming :=
  { s with shared := s.shared.answerAll s.waiters, waiters := [] }

/-- Gives a caller a future for the next event. -/
def wait (s : Streaming) : Streaming × Ticket :=
  let (shared, t) := s.shared.promise
  ({ s with shared := shared, waiters := s.waiters ++ [t] }, t)

/-- Gives a caller a future that is answered already. -/
def answered (s : Streaming) (r : Readiness) : Streaming × Ticket :=
  let (shared, t) := s.shared.answered r
  ({ s with shared := shared }, t)

/-- Gives a caller a future for the next event, and makes a connection. Without a connection all
who wait are answered. -/
def waitForConnection (s : Streaming) : Streaming × Ticket :=
  let (s, t) := s.wait
  match s.connect with
  | (s, true) => (s, t)
  | (s, false) => (s.answerWaiters, t)

/-- Makes sure that there is a connection. -/
def poll (s : Streaming) : Streaming × Ticket :=
  if s.shared.readiness = .notReady && !s.isConnected then s.waitForConnection
  else
    let r := s.shared.readiness
    s.connect.1.answered r

/-- Takes another header for the context, which ends the connection if the server evaluates
features for the context. -/
def setContext (s : Streaming) (header : Option String) : Streaming :=
  if s.isServerEvaluated && s.header != header then { s with header := header }.disconnect else s

/-- Takes another header for the context, and makes sure that there is a connection. -/
def changeContext (s : Streaming) (header : Option String) (_sha : String) : Streaming × Ticket :=
  let s := s.setContext header
  if s.isConnected then s.answered s.shared.readiness else s.waitForConnection

/-- The open connection with a number. -/
def connection? (s : Streaming) (generation : Nat) : Option Connection :=
  s.connections.find? fun c => c.generation = generation

/-- Takes note that the server said goodbye on a connection. -/
def noteBye (s : Streaming) (generation : Nat) : Streaming :=
  { s with
    connections := s.connections.map fun c =>
      if c.generation = generation then { c with saidBye := true } else c }

/-- An open connection ended. Without features that can be relied on this is a failure. -/
def endConnection (s : Streaming) (generation : Nat) (outcome : Outcome)
    (chances : Chance × Chance) : Streaming :=
  if (s.connection? generation).isNone then s
  else
    let s :=
      { s with
        connections := s.connections.filter fun c => c.generation ≠ generation
        current := if s.current = some generation then none else s.current }
    let s :=
      if s.shared.readiness = .notReady then
        { s with shared := s.shared.modifyRepository Repository.fail }
      else s
    let s := s.answerWaiters
    { s with retryer := s.retryer.report s.shared.now chances outcome .edge }

/-- The way in which a connection ended that the server closed. -/
def closedOutcome (c : Connection) : Outcome :=
  if c.saidBye then .serverSaidBye else .serverWasDisconnected

/-- Applies the text of an event. A text that cannot be read is an error in the log. -/
def applyText (s : Streaming) (kind : EventKind) (data : String) : Streaming :=
  match kind with
  | .config => { s with retryer := s.retryer.configure data }
  | _ =>
    match applyEvent? kind data s.shared.repository with
    | some repository => { s with shared := { s.shared with repository := repository } }
    | none => { s with shared := s.shared.modifyRepository fun r => r.logErrors 1 }

/-- What an event of a known kind changes. -/
def applyMessage (s : Streaming) (generation : Nat) (kind : EventKind) (data : String)
    (chances : Chance × Chance) : Streaming :=
  let s := s.applyText kind data
  let s :=
    if kind = .features then
      { s with retryer := s.retryer.report s.shared.now chances .success .edge }
    else s
  let s := if kind = .ack || kind = .config then s else s.answerWaiters
  match kind with
  | .bye => s.noteBye generation
  | .failure => s.endConnection generation .apiKeyNotFound chances
  | _ => s

/-- Takes an event from an open connection. Features are a success, a failure ends the connection,
and most events answer those who wait. -/
def receive (s : Streaming) (generation : Nat) (name data : String) (chances : Chance × Chance) :
    Streaming :=
  match s.connection? generation, EventKind.ofName? name with
  | some _, some kind => s.applyMessage generation kind data chances
  | _, _ => s

/-- Ends the connection and gives up reconnecting. -/
def close (s : Streaming) : Streaming :=
  if s.isClosed then s
  else { s with isClosed := true, retryer := s.retryer.close }.disconnect.answerWaiters

end Streaming

instance : Edge Streaming where
  shared s := s.shared
  modifyShared s f := { s with shared := f s.shared }
  poll := Streaming.poll
  changeContext := Streaming.changeContext
  featureUsed s := s
  interval s := (s, .zero)
  isStopped s := s.retryer.isStopped
  isReplacedOnChange _ := true
  close := Streaming.close

end FeatureFlags.Edge
