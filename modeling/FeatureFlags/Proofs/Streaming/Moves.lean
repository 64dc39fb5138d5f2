import Mathlib.Data.List.Induction
import Mathlib.Logic.Relation
import FeatureFlags.Proofs.Edge.Retrying
import FeatureFlags.Proofs.Streaming.Conduct

/-!
# What can happen to a streaming edge

Everything that can happen to a streaming edge is an `Act`, and a run is a list of them. Besides
its callers, its connections and its waits there are connections that it gave up because the
context changed: they are over for the edge, but an event that was being applied is still applied,
and the end is reported late. Others whom the retryer serves report outcomes as well.

Of what an edge holds, its connections and what decides on them are its `Line`. Whatever a caller,
a server or a clock does, the line changes in the few ways of `Move` (`moves_act`), so what every
move preserves holds in every run (`preserved_run`).
-/

set_option autoImplicit false

namespace FeatureFlags.Edge.Streaming

/-- The ways in which a connection ends. -/
inductive Ending where
  /-- Nobody listens at the address. -/
  | refused
  /-- The server rejects the key, in its answer or by an event. -/
  | rejected
  /-- The request or the stream breaks, or the server answers with another status. -/
  | broken
  /-- The server is silent for too long. -/
  | silent
  /-- The server closes the stream. -/
  | finished

/-- What the end of a connection is to the retryer. -/
def Ending.outcome (c : Connection) : Ending → Outcome
  | refused => .connectionFailure
  | rejected => .apiKeyNotFound
  | broken => .serverWasDisconnected
  | silent => .serverReadTimeout
  | finished => closedOutcome c

/-- No way in which a connection ends is a success. -/
theorem Ending.outcome_ne_success (c : Connection) (ending : Ending) :
    ending.outcome c ≠ .success := by
  cases ending with
  | finished =>
    show closedOutcome c ≠ .success
    unfold closedOutcome
    split <;> simp
  | _ => simp [outcome]

/-- What can happen to an edge. -/
inductive Act where
  /-- A caller makes sure that there is a connection. -/
  | poll
  /-- A caller takes another header for the context. -/
  | changeContext (header : Option String) (sha : String)
  /-- Something comes over a connection. -/
  | receive (generation : Nat) (name data : String) (chances : Chance × Chance)
  /-- A connection ends. -/
  | finish (generation : Nat) (ending : Ending) (chances : Chance × Chance)
  /-- What came over a connection is applied after the connection was given up. -/
  | straggle (generation : Nat) (name data : String) (chances : Chance × Chance)
  /-- The end of a connection is reported after the connection was given up. -/
  | trail (c : Connection) (ending : Ending) (chances : Chance × Chance)
  /-- A wait for another connection is over, if it is time. -/
  | wake
  /-- The edge is closed. -/
  | close
  /-- Somebody whom the retryer serves reports an outcome. -/
  | report (outcome : Outcome) (reconnector : Reconnector) (chances : Chance × Chance)
  /-- Somebody whom the retryer serves received a configuration. -/
  | configure (data : String)
  /-- Time passes, or somebody else changes the features. -/
  | modifyShared (f : Shared → Shared)

/-- Whether a connection was made and is not open any more. -/
def hasGivenUp (s : Streaming) (generation : Nat) : Bool :=
  s.opened.any (fun c => c.generation = generation) && (s.connection? generation).isNone

/-- What the end of a connection changes, be it open or given up. -/
def conclude (s : Streaming) (generation : Nat) (outcome : Outcome)
    (chances : Chance × Chance) : Streaming :=
  let s :=
    { s with
      connections := s.connections.filter fun c => c.generation ≠ generation
      current := if s.current = some generation then none else s.current }
  let s :=
    if s.shared.readiness = .notReady then
      { s with shared := s.shared.modifyRepository Repository.fail }
    else s
  let s := s.answerWaiters
  { s with retryer := s.retryer.report s.shared.now chances outcome .edge }

/-- An open connection that ends is concluded. -/
theorem endConnection_eq_conclude (s : Streaming) (generation : Nat) (outcome : Outcome)
    (chances : Chance × Chance) :
    s.endConnection generation outcome chances =
      if (s.connection? generation).isNone then s
      else s.conclude generation outcome chances := rfl

/-- An open connection ends. -/
def finish (s : Streaming) (generation : Nat) (ending : Ending) (chances : Chance × Chance) :
    Streaming :=
  match s.connection? generation with
  | some c => s.endConnection generation (ending.outcome c) chances
  | none => s

/-- An event that came over a connection is applied late. -/
def straggle (s : Streaming) (generation : Nat) (name data : String)
    (chances : Chance × Chance) : Streaming :=
  match s.hasGivenUp generation, EventKind.ofName? name with
  | true, some kind => s.applyMessage generation kind data chances
  | _, _ => s

/-- A connection reports its end late. -/
def trail (s : Streaming) (c : Connection) (ending : Ending) (chances : Chance × Chance) :
    Streaming :=
  if s.hasGivenUp c.generation then s.conclude c.generation (ending.outcome c) chances else s

/-- What an act makes of an edge. -/
def act (s : Streaming) : Act → Streaming
  | .poll => s.poll.1
  | .changeContext header sha => (s.changeContext header sha).1
  | .receive generation name data chances => s.receive generation name data chances
  | .finish generation ending chances => s.finish generation ending chances
  | .straggle generation name data chances => s.straggle generation name data chances
  | .trail c ending chances => s.trail c ending chances
  | .wake => s.wake
  | .close => s.close
  | .report outcome reconnector chances =>
    { s with retryer := s.retryer.report s.shared.now chances outcome reconnector }
  | .configure data => { s with retryer := s.retryer.configure data }
  | .modifyShared f => { s with shared := f s.shared }

/-- What comes over a connection and is applied, be it late. -/
def applied? (s : Streaming) : Act → Option (EventKind × String)
  | .receive generation name data _ =>
    if (s.connection? generation).isSome then (EventKind.ofName? name).map (·, data) else none
  | .straggle generation name data _ =>
    if s.hasGivenUp generation then (EventKind.ofName? name).map (·, data) else none
  | _ => none

/-- What a run makes of an edge. -/
def run (s : Streaming) (acts : List Act) : Streaming := acts.foldl act s

/-- A run of no acts changes nothing. -/
@[simp] theorem run_nil (s : Streaming) : s.run [] = s := rfl

/-- The last act of a run is one more act where the others lead. -/
@[simp] theorem run_concat (s : Streaming) (acts : List Act) (a : Act) :
    s.run (acts ++ [a]) = (s.run acts).act a := by
  simp [run]

/-! ### The line -/

/-- The connections of an edge, and what decides on them. -/
structure Line where
  header : Option String
  current : Option Nat
  generation : Nat
  connections : List Connection
  opened : List Connection
  isClosed : Bool
  retryer : Retryer Reconnector

/-- The line of an edge. -/
def line (s : Streaming) : Line :=
  ⟨s.header, s.current, s.generation, s.connections, s.opened, s.isClosed, s.retryer⟩

/-- Whether there are no further connections. -/
def Line.isOver (l : Line) : Bool := l.isClosed || l.retryer.isStopped

/-- A line with another connection. -/
def Line.extend (l : Line) : Line :=
  let connection : Connection := ⟨l.generation + 1, l.header, false⟩
  { l with
    current := some connection.generation
    generation := l.generation + 1
    connections := l.connections ++ [connection]
    opened := l.opened ++ [connection] }

/-- There is another connection if there is none and there are to be further ones. -/
theorem line_connect (s : Streaming) :
    s.connect.1.line = if s.line.isOver || s.current.isSome then s.line else s.line.extend := by
  have hguard : (s.isClosed || s.retryer.isStopped || s.isConnected) =
      (s.line.isOver || s.current.isSome) := rfl
  unfold connect
  rw [hguard]
  split <;> rfl

/-- Once it is over a line is not extended. -/
theorem line_connect_of_isOver {s : Streaming} (hover : s.line.isOver) :
    s.connect.1.line = s.line := by
  rw [line_connect, hover, Bool.true_or, if_pos rfl]

/-- The end of a connection takes it off the line, and the retryer hears of the outcome. -/
@[simp] theorem line_conclude (s : Streaming) (generation : Nat) (outcome : Outcome)
    (chances : Chance × Chance) :
    (s.conclude generation outcome chances).line =
      { s.line with
        connections := s.connections.filter fun c => c.generation ≠ generation
        current := if s.current = some generation then none else s.current
        retryer := s.retryer.report s.shared.now chances outcome .edge } := by
  unfold conclude
  simp only
  split <;> rfl

/-- Closing takes the connection off the line and closes the retryer. -/
theorem line_close {s : Streaming} (hclosed : s.isClosed = false) :
    s.close.line =
      { s.line with
        isClosed := true
        retryer := s.retryer.close
        current := none
        connections := s.connections.filter fun c => some c.generation ≠ s.current } := by
  simp only [close, hclosed, Bool.false_eq_true, if_false]
  rfl

/-- An edge that is closed is not closed again. -/
theorem close_of_isClosed {s : Streaming} (hclosed : s.isClosed) : s.close = s := by
  simp [close, hclosed]

/-- A caller who waits for a connection is nothing to the line. -/
theorem line_waitForConnection (s : Streaming) :
    s.waitForConnection.1.line = s.connect.1.line := by
  have hconnect : s.wait.1.connect.1.line = s.connect.1.line := by
    rw [line_connect, line_connect]
    rfl
  unfold waitForConnection
  simp only
  split <;> next hs =>
    rw [hs] at hconnect
    exact hconnect

/-- The ways in which the line of an edge changes. -/
inductive Move : Streaming → Streaming → Prop
  /-- The line stays as it is. -/
  | keep {s s' : Streaming} (h : s'.line = s.line) : Move s s'
  /-- Somebody asks for a connection. -/
  | connect (s : Streaming) : Move s s.connect.1
  /-- The connection is given up for one with another header. -/
  | redirect (s : Streaming) (header : Option String) :
    Move s { s with header := header }.disconnect.connect.1
  /-- The server said goodbye. -/
  | noteBye (s : Streaming) (generation : Nat) : Move s (s.noteBye generation)
  /-- A connection ended. -/
  | conclude (s : Streaming) (generation : Nat) {outcome : Outcome}
      (chances : Chance × Chance) (h : outcome ≠ .success) :
    Move s (s.conclude generation outcome chances)
  /-- The retryer hears of something. -/
  | heed (s : Streaming) {retryer : Retryer Reconnector} (h : s.retryer.Heeds .edge retryer) :
    Move s { s with retryer := retryer }
  /-- The time for another connection has come. -/
  | wake (s : Streaming) {retryer : Retryer Reconnector}
      (h : s.retryer.takeDue? s.shared.now = some (.edge, retryer)) :
    Move s { s with retryer := retryer }.connect.1
  /-- The edge is closed. -/
  | close (s : Streaming) : Move s s.close

/-- Moves one after the other. -/
abbrev Moves : Streaming → Streaming → Prop := Relation.ReflTransGen Move

/-- What is nothing to the line adds nothing to the moves. -/
theorem Moves.keep {s s' t : Streaming} (h : Moves s s') (hline : t.line = s'.line) :
    Moves s t :=
  h.tail (.keep hline)

/-- Whoever polls asks for a connection. -/
theorem moves_poll (s : Streaming) : Moves s s.poll.1 := by
  have hconnect : Moves s s.connect.1 := .single (.connect s)
  unfold poll
  split
  · exact hconnect.keep (line_waitForConnection s)
  · exact hconnect.keep rfl

/-- Whoever changes the context redirects the edge, or asks for a connection. -/
theorem moves_changeContext (s : Streaming) (header : Option String) (sha : String) :
    Moves s (s.changeContext header sha).1 := by
  unfold changeContext setContext
  simp only
  split
  · exact Moves.keep (.single (.redirect s header)) (line_waitForConnection _)
  · split
    · exact Moves.keep .refl rfl
    · exact Moves.keep (.single (.connect s)) (line_waitForConnection s)

/-- An open connection that ends without success is concluded, which is a move. -/
theorem moves_endConnection (s : Streaming) (generation : Nat) {outcome : Outcome}
    (chances : Chance × Chance) (h : outcome ≠ .success) :
    Moves s (s.endConnection generation outcome chances) := by
  rw [endConnection_eq_conclude]
  split
  · exact .refl
  · exact .single (.conclude s generation chances h)

/-- To the line the text of an event is at most a configuration. -/
theorem moves_applyText (s : Streaming) (kind : EventKind) (data : String) :
    Moves s (s.applyText kind data) := by
  unfold applyText
  split
  · exact .single (.heed s (s.retryer.heeds_configure .edge data))
  · split <;> exact .keep .refl rfl

/-- To the line an event comes to a few moves. -/
theorem moves_applyMessage (s : Streaming) (generation : Nat) (kind : EventKind) (data : String)
    (chances : Chance × Chance) : Moves s (s.applyMessage generation kind data chances) := by
  have htext := moves_applyText s kind data
  cases kind with
  | ack | config => exact htext
  | feature | deleteFeature => exact htext.keep rfl
  | features =>
    have hheeds := Retryer.heeds_report Reconnector.edge (s.applyText .features data).retryer
      (s.applyText .features data).shared.now chances .success .edge
    exact Moves.keep (htext.tail (.heed _ hheeds)) rfl
  | bye =>
    have hanswer : Moves s (s.applyText .bye data).answerWaiters := htext.keep rfl
    exact hanswer.tail (.noteBye _ generation)
  | failure =>
    have hanswer : Moves s (s.applyText .failure data).answerWaiters := htext.keep rfl
    exact hanswer.trans (moves_endConnection _ generation chances (by decide))

/-- What comes over an open connection comes to a few moves. -/
theorem moves_receive (s : Streaming) (generation : Nat) (name data : String)
    (chances : Chance × Chance) : Moves s (s.receive generation name data chances) := by
  unfold receive
  split
  · exact moves_applyMessage s generation _ data chances
  · exact .refl

/-- The end of an open connection comes to a few moves. -/
theorem moves_finish (s : Streaming) (generation : Nat) (ending : Ending)
    (chances : Chance × Chance) : Moves s (s.finish generation ending chances) := by
  unfold finish
  split
  · exact moves_endConnection s generation chances (ending.outcome_ne_success _)
  · exact .refl

/-- What is applied late comes to a few moves. -/
theorem moves_straggle (s : Streaming) (generation : Nat) (name data : String)
    (chances : Chance × Chance) : Moves s (s.straggle generation name data chances) := by
  unfold straggle
  split
  · exact moves_applyMessage s generation _ data chances
  · exact .refl

/-- An end that is reported late comes to a few moves. -/
theorem moves_trail (s : Streaming) (c : Connection) (ending : Ending)
    (chances : Chance × Chance) : Moves s (s.trail c ending chances) := by
  unfold trail
  split
  · exact .single (.conclude s c.generation chances (ending.outcome_ne_success c))
  · exact .refl

/-- The end of a wait comes to a few moves. -/
theorem moves_wake (s : Streaming) : Moves s s.wake := by
  unfold wake
  split
  next hdue => exact .single (.wake s hdue)
  next hdue => exact .single (.heed s (Retryer.heeds_of_takeDue? hdue (by decide)))
  next => exact .refl

/-- Each act comes to a few moves. -/
theorem moves_act (s : Streaming) (a : Act) : Moves s (s.act a) := by
  cases a with
  | poll => exact moves_poll s
  | changeContext header sha => exact moves_changeContext s header sha
  | receive generation name data chances => exact moves_receive s generation name data chances
  | finish generation ending chances => exact moves_finish s generation ending chances
  | straggle generation name data chances => exact moves_straggle s generation name data chances
  | trail c ending chances => exact moves_trail s c ending chances
  | wake => exact moves_wake s
  | close => exact .single (.close s)
  | report outcome reconnector chances => exact .single (.heed s (Retryer.heeds_report ..))
  | configure data => exact .single (.heed s (s.retryer.heeds_configure .edge data))
  | modifyShared f => exact .single (.keep rfl)

variable {P : Streaming → Prop}

/-- What every move preserves is so after several of them. -/
theorem preserved_moves (hmove : ∀ s s', Move s s' → P s → P s') {s s' : Streaming}
    (h : Moves s s') (hs : P s) : P s' := by
  induction h with
  | refl => exact hs
  | tail _ hlast ih => exact hmove _ _ hlast ih

/-- What every move preserves is so after every run. -/
theorem preserved_run (hmove : ∀ s s', Move s s' → P s → P s') {s : Streaming} (hs : P s)
    (acts : List Act) : P (s.run acts) := by
  induction acts using List.reverseRecOn with
  | nil => exact hs
  | append_singleton acts a ih =>
    rw [run_concat]
    exact preserved_moves hmove (moves_act _ a) ih

end FeatureFlags.Edge.Streaming
