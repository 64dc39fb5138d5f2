import FeatureFlags.Readiness

/-!
# Promises by name

Futures and the promises to answer them, held under names, and one list of promises that are
waiting for the next answer to all. A promise is in one place at a time: under a name, in the
list, or gone.
-/

set_option autoImplicit false

namespace FeatureFlags

/-- Named futures and promises, and the list of those that wait. -/
structure Board where
  /-- All futures. -/
  futures : Futures
  /-- The futures that are held, by name. -/
  held : Table String Ticket
  /-- The promises that are held, by name. -/
  promises : Table String Ticket
  /-- The promises in the list, in order. -/
  waiting : List Ticket
deriving DecidableEq, Repr

namespace Board

/-- A board with nothing on it. -/
def empty : Board := ⟨.empty, .empty, .empty, []⟩

/-- What can be done with a board. -/
inductive Move where
  /-- Holds a future that is already answered. -/
  | ready (name : String) (r : Readiness)
  /-- Holds a new future and the promise to answer it. -/
  | channel (name : String) (fallback : Readiness)
  /-- Holds a new future whose promise is in the list. -/
  | waiter (name : String) (fallback : Readiness)
  /-- Puts a promise into the list. -/
  | push (name : String)
  /-- Answers with a promise. -/
  | complete (name : String) (r : Readiness)
  /-- Gives up a promise. -/
  | dropPromise (name : String)
  /-- Lets go of a future. -/
  | dropFuture (name : String)
  /-- Answers with all promises in the list. -/
  | completeAll (r : Readiness)
  /-- Looks at a future. -/
  | poll (name : String)
deriving DecidableEq, Repr

/-- What a move tells. -/
inductive Report where
  /-- Nothing. -/
  | nothing
  /-- Whether there was something under the name. -/
  | found (b : Bool)
  /-- The future is open. -/
  | pending
  /-- The future is answered. -/
  | answered (r : Readiness)
deriving DecidableEq, Repr

/-- Gives up the promise under a name, if there is one. -/
def abandon (b : Board) (name : String) : Board :=
  match b.promises.get? name with
  | some t => { b with futures := b.futures.giveUp t, promises := b.promises.erase name }
  | none => b

/-- Holds a new open future. -/
def hold (b : Board) (name : String) (fallback : Readiness) : Board :=
  { b with
    futures := b.futures.add fallback
    held := b.held.insert name b.futures.nextTicket }

/-- The board after a move. -/
def move (b : Board) : Move → Board
  | .ready name r =>
    { b with
      futures := b.futures.addAnswered r
      held := b.held.insert name b.futures.nextTicket }
  | .channel name fallback =>
    let b := b.abandon name
    let t := b.futures.nextTicket
    let b := b.hold name fallback
    { b with promises := b.promises.insert name t }
  | .waiter name fallback =>
    let t := b.futures.nextTicket
    let b := b.hold name fallback
    { b with waiting := b.waiting ++ [t] }
  | .push name =>
    match b.promises.get? name with
    | some t => { b with promises := b.promises.erase name, waiting := b.waiting ++ [t] }
    | none => b
  | .complete name r =>
    match b.promises.get? name with
    | some t => { b with futures := b.futures.answer t r, promises := b.promises.erase name }
    | none => b
  | .dropPromise name => b.abandon name
  | .dropFuture name => { b with held := b.held.erase name }
  | .completeAll r => { b with futures := b.futures.answerAll b.waiting r, waiting := [] }
  | .poll _ => b

/-- What a move tells, made on the board as it stands. -/
def report (b : Board) : Move → Report
  | .complete name _ | .dropPromise name => .found (b.promises.contains name)
  | .dropFuture name => .found (b.held.contains name)
  | .poll name =>
    match b.held.get? name with
    | none => .nothing
    | some t => (b.futures.result? t).elim .pending .answered
  | _ => .nothing

end Board

end FeatureFlags
