import FeatureFlags.Edge.Streaming
import FeatureFlags.Proofs.Edge.Conduct

/-!
# The conduct of streaming edges

A streaming edge learns of features from what comes over its connection, and from the end of it.
Whoever asks for a connection, ends one or waits for one changes nothing of what is known.
-/

set_option autoImplicit false

namespace FeatureFlags.Edge.Streaming

/-- What can happen to an edge. -/
inductive Event where
  /-- Something comes over a connection. -/
  | receive (generation : Nat) (name data : String) (chances : Chance × Chance)
  /-- A connection ends. -/
  | endConnection (generation : Nat) (outcome : Outcome) (chances : Chance × Chance)
  /-- A wait for another connection is over, if it is time. -/
  | wake
  /-- Time passes. -/
  | setClock (now : Instant)

namespace Event

/-- Whether an event may change the features. -/
def Informs : Event → Prop
  | receive .. | endConnection .. => True
  | _ => False

end Event

/-- The edge makes another connection if it is time. -/
def wake (s : Streaming) : Streaming :=
  match s.retryer.takeDue? s.shared.now with
  | some (.edge, retryer) => { s with retryer := retryer }.connect.1
  | some (.counter, retryer) => { s with retryer := retryer }
  | none => s

/-- What one event makes of an edge. -/
def step (s : Streaming) : Event → Streaming
  | .receive generation name data chances => s.receive generation name data chances
  | .endConnection generation outcome chances => s.endConnection generation outcome chances
  | .wake => s.wake
  | .setClock now => { s with shared := { s.shared with now := now } }

instance : Eventful Streaming where
  Event := Event
  happen := step

/-- Connecting is of no concern to the client. -/
@[simp] theorem shared_connect (s : Streaming) : s.connect.1.shared = s.shared := by
  unfold connect
  split <;> rfl

/-- A reconnect is of no concern to the client. -/
theorem shared_wake (s : Streaming) : s.wake.shared = s.shared := by
  unfold wake
  split <;> simp

/-- Waiting for a connection concerns nobody but those who wait. -/
theorem repository_waitForConnection (s : Streaming) :
    s.waitForConnection.1.shared.repository = s.shared.repository := by
  have hconnect := congrArg Shared.repository (shared_connect s.wait.1)
  unfold waitForConnection
  simp only
  split <;> next hs =>
    rw [hs] at hconnect
    exact hconnect

/-- Whoever polls leaves the repository alone. -/
theorem repository_poll (s : Streaming) :
    s.poll.1.shared.repository = s.shared.repository := by
  unfold poll
  split
  · exact repository_waitForConnection s
  · have hconnect := congrArg Shared.repository (shared_connect s)
    exact hconnect

/-- The header is of no concern to what is shared. -/
@[simp] theorem shared_setContext (s : Streaming) (header : Option String) :
    (s.setContext header).shared = s.shared := by
  unfold setContext
  split <;> rfl

/-- A change of the context leaves the repository alone. -/
theorem repository_changeContext (s : Streaming) (header : Option String) (sha : String) :
    (s.changeContext header sha).1.shared.repository = s.shared.repository := by
  have hset := congrArg Shared.repository (shared_setContext s header)
  unfold changeContext
  simp only
  split
  · exact hset
  · exact (repository_waitForConnection _).trans hset

/-- Closing the edge leaves the repository alone. -/
theorem repository_close (s : Streaming) : s.close.shared.repository = s.shared.repository := by
  unfold close
  split <;> rfl

/-- What brings no news leaves the repository alone. -/
theorem repository_step {s : Streaming} {e : Event} (h : ¬ e.Informs) :
    (s.step e).shared.repository = s.shared.repository := by
  cases e with
  | receive | endConnection => exact absurd trivial h
  | wake => exact congrArg Shared.repository (shared_wake s)
  | setClock => rfl

instance : Discreet Streaming where
  Informs := Event.Informs
  shared_modifyShared _ _ := rfl
  repository_poll := repository_poll
  repository_changeContext := repository_changeContext
  repository_featureUsed _ := rfl
  repository_interval _ := rfl
  repository_close := repository_close
  repository_happen _ _ := repository_step

end FeatureFlags.Edge.Streaming
