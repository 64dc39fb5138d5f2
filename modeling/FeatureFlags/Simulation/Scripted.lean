import FeatureFlags.Edge.Basic

/-!
# Scripted edges

An edge that takes its answers from a script, to try what is built on edges. An answer comes at
once, or it is held back until it is released, or its future is given up.
-/

set_option autoImplicit false

namespace FeatureFlags.Simulation

/-- An answer in the script of an edge. -/
inductive ScriptedAnswer where
  /-- The answer comes at once. -/
  | now (r : Readiness)
  /-- The answer is held back. -/
  | hold
  /-- The future is given up. -/
  | giveUp
deriving DecidableEq, Repr

/-- A call of a scripted edge. -/
inductive ScriptedCall where
  /-- It was polled. -/
  | poll
  /-- It was told of another context. -/
  | changeContext (header : Option String) (sha : String)
deriving DecidableEq, Repr

/-- An edge that takes its answers from a script. -/
structure Scripted where
  /-- What is shared with the client. -/
  shared : Shared
  /-- The answers to the next calls; the server is ready after them. -/
  answers : List ScriptedAnswer
  /-- The intervals that are told next; none after them. -/
  intervals : List Duration
  /-- Whether the edge says that it is stopped. -/
  isStopped : Bool
  /-- The futures that are held back, the oldest first. -/
  held : List Ticket
  /-- The calls, in order. -/
  calls : List ScriptedCall
  /-- How many features were read. -/
  used : Nat

namespace Scripted

/-- A scripted edge before the first call. -/
def new (shared : Shared) (answers : List ScriptedAnswer) (intervals : List Duration)
    (isStopped : Bool) : Scripted :=
  ⟨shared, answers, intervals, isStopped, [], [], 0⟩

/-- Gives a caller a future that is answered, held back or given up. -/
def respond (s : Scripted) (a : ScriptedAnswer) : Scripted × Ticket :=
  let futures := s.shared.futures
  let t := futures.nextTicket
  match a with
  | .now r => ({ s with shared := { s.shared with futures := futures.addAnswered r } }, t)
  | .hold =>
    ({ s with
        shared := { s.shared with futures := futures.add .notReady }
        held := s.held ++ [t] }, t)
  | .giveUp =>
    ({ s with shared := { s.shared with futures := (futures.add .notReady).giveUp t } }, t)

/-- Takes a call, and answers as the script says. -/
def call (s : Scripted) (c : ScriptedCall) : Scripted × Ticket :=
  let a := s.answers.head?.getD (.now .ready)
  { s with calls := s.calls ++ [c], answers := s.answers.drop 1 }.respond a

/-- Answers the oldest future that is held back; without an answer it is given up. -/
def release (s : Scripted) (r : Option Readiness) : Scripted :=
  match s.held with
  | [] => s
  | t :: held =>
    let futures := s.shared.futures
    let futures := match r with
      | some r => futures.answer t r
      | none => futures.giveUp t
    { s with held := held, shared := { s.shared with futures := futures } }

end Scripted

instance : Edge Scripted where
  shared s := s.shared
  modifyShared s f := { s with shared := f s.shared }
  poll s := s.call .poll
  changeContext s header sha := s.call (.changeContext header sha)
  featureUsed s := { s with used := s.used + 1 }
  interval s := ({ s with intervals := s.intervals.drop 1 }, s.intervals.head?.getD .zero)
  isStopped s := s.isStopped
  isReplacedOnChange _ := false
  close s := { s with isStopped := true }

end FeatureFlags.Simulation
