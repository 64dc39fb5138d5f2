import FeatureFlags.Edge.Basic

/-!
# Governed edges

An edge that is asked by the clock. Only one request to the edge runs at a time. A poll that
comes while one is running is answered with the present readiness; a change of the context is
never dropped, but queued, and the latest one is sent when the request has ended. After every
request a timer is set for the next one.

Several callers, the tasks of requests and timers act on a governor at once. Each of them is an
activity that proceeds by atomic steps, and steps of different activities may be taken in any
order. Calls to a governor as an edge take the steps of the caller without a break.
-/

set_option autoImplicit false

namespace FeatureFlags.Edge

/-- A request that a governor makes to its edge. -/
inductive Job where
  /-- To poll. -/
  | poll
  /-- To tell of another context. -/
  | changeContext (header : Option String) (sha : String)
deriving DecidableEq, Repr

/-- A change of the context that was not sent yet. -/
structure Queued where
  /-- The header of the context. -/
  header : Option String
  /-- The digest of the header. -/
  sha : String
  /-- Those who wait for it. -/
  waiters : List Ticket
deriving DecidableEq, Repr

/-- The number of a timer. -/
abbrev TimerId := Nat

/-- A timer that is running. -/
structure Timer where
  /-- Its number. -/
  id : TimerId
  /-- When it fires. -/
  due : Instant
deriving DecidableEq, Repr

/-- What a caller, a task or a timer is going to do next. -/
inductive Activity where
  /-- To see whether a request is running, and to poll if none is. -/
  | acquire
  /-- To answer a poll at once, because a request is running. -/
  | decline
  /-- To make a future for the poll that may start. -/
  | promise
  /-- To make a future for a change of the context. -/
  | change (header : Option String) (sha : String)
  /-- To queue a change of the context. -/
  | enqueue (header : Option String) (sha : String) (waiter : Ticket)
  /-- To see whether a request is running, and to send what is queued if none is. A task does so
  at its end. -/
  | lock (isTask : Bool)
  /-- To take what is queued. -/
  | take (isTask : Bool)
  /-- To let others start a request, because nothing was queued. -/
  | unlock (isTask : Bool)
  /-- To see whether something was queued in between. -/
  | recheck (isTask : Bool)
  /-- To cancel the timer, because a request starts. -/
  | cancelTimer (job : Job) (waiters : List Ticket)
  /-- To start the task of a request. -/
  | spawn (job : Job) (waiters : List Ticket)
  /-- To let others start a request, because the task was not started. -/
  | release
  /-- As a task, to make the request. -/
  | launch (job : Job) (waiters : List Ticket)
  /-- As a task, to wait for the answer. -/
  | await (answer : Ticket) (waiters : List Ticket)
  /-- As a task, to let others start a request. -/
  | finish (r : Readiness) (waiters : List Ticket)
  /-- As a task, to answer those who waited. -/
  | tell (r : Readiness) (waiters : List Ticket)
  /-- As a task, to set a timer for the next request. -/
  | schedule
  /-- As a task, to remember the timer. -/
  | keepTimer (id : Option TimerId)
  /-- To cancel the timer, because the governor is closed. -/
  | close
  /-- To end all tasks. -/
  | shutDown
  /-- To close the edge. -/
  | closeEdge
  /-- To take what is queued, for nobody will send it. -/
  | dismiss
  /-- To let others start a request, because nobody will send what was queued. -/
  | free (waiters : List Ticket)
  /-- To answer those who waited for what was queued. -/
  | excuse (waiters : List Ticket)
deriving DecidableEq, Repr

/-- An edge with its governor. -/
structure Governed (σ : Type) where
  /-- The edge. -/
  inner : σ
  /-- Whether a request is running or about to start. -/
  isBusy : Bool
  /-- The latest change of the context that was not sent yet. -/
  queued : Option Queued
  /-- The timer that will be cancelled by the next request. -/
  timer : Option TimerId
  /-- The timers that are running. -/
  timers : List Timer
  /-- The number of the next timer. -/
  nextTimer : TimerId
  /-- Whether tasks and timers were ended. -/
  isClosed : Bool
  /-- What is going on. -/
  activities : List Activity
  /-- The futures that were given to callers. -/
  handedOut : List Ticket

namespace Governed

variable {σ : Type} [Edge σ]

/-- A governor before the first request. -/
def new (inner : σ) : Governed σ where
  inner := inner
  isBusy := false
  queued := none
  timer := none
  timers := []
  nextTimer := 0
  isClosed := false
  activities := []
  handedOut := []

/-- Changes what is shared with the client. -/
def modifyShared (g : Governed σ) (f : Shared → Shared) : Governed σ :=
  { g with inner := Edge.modifyShared g.inner f }

/-- Changes the futures. -/
def modifyFutures (g : Governed σ) (f : Futures → Futures) : Governed σ :=
  g.modifyShared fun s => { s with futures := f s.futures }

/-- Gives a caller a future that falls back to the present readiness. -/
def handOut (g : Governed σ) : Governed σ × Ticket :=
  let (shared, t) := (Edge.shared g.inner).promise
  ({ g with
      inner := Edge.modifyShared g.inner fun _ => shared
      handedOut := g.handedOut ++ [t] }, t)

/-- Gives a caller a future that is answered with the present readiness. -/
def handOutAnswered (g : Governed σ) : Governed σ :=
  let (shared, t) := (Edge.shared g.inner).answered (Edge.readiness g.inner)
  { g with
    inner := Edge.modifyShared g.inner fun _ => shared
    handedOut := g.handedOut ++ [t] }

/-- Queues a change of the context, in place of the one that is queued. -/
def enqueue (g : Governed σ) (header : Option String) (sha : String) (t : Ticket) : Governed σ :=
  let waiters := (g.queued.map Queued.waiters).getD []
  { g with queued := some ⟨header, sha, waiters ++ [t]⟩ }

/-- Cancels the timer that is remembered. -/
def cancelTimer (g : Governed σ) : Governed σ :=
  { g with timer := none, timers := g.timers.filter fun t => some t.id ≠ g.timer }

/-- Makes a request to the edge. -/
def call (g : Governed σ) (job : Job) : Governed σ × Ticket :=
  let (inner, t) :=
    match job with
    | .poll => Edge.poll g.inner
    | .changeContext header sha => Edge.changeContext g.inner header sha
  ({ g with inner := inner }, t)

/-- Sets a timer for the next request, if there is to be one. -/
def schedule (g : Governed σ) : Governed σ × Option Activity :=
  let (inner, interval) := Edge.interval g.inner
  let g := { g with inner := inner }
  if Edge.isStopped g.inner || interval.isZero then (g, none)
  else if g.isClosed then (g, some (.keepTimer none))
  else
    let timer : Timer := ⟨g.nextTimer, (Edge.shared g.inner).now.after interval⟩
    ({ g with timers := g.timers ++ [timer], nextTimer := g.nextTimer + 1 },
      some (.keepTimer timer.id))

/-- Takes one step of an activity: the governor after it, and what comes next. An activity that
waits for an answer takes no step before the answer is there, unless tasks were ended. -/
def advance (g : Governed σ) : Activity → Option (Governed σ × Option Activity)
  | .acquire =>
    if g.isBusy then some (g, some .decline) else some ({ g with isBusy := true }, some .promise)
  | .decline => some (g.handOutAnswered, none)
  | .promise =>
    let (g, t) := g.handOut
    some (g, some (.cancelTimer .poll [t]))
  | .change header sha =>
    let (g, t) := g.handOut
    some (g, some (.enqueue header sha t))
  | .enqueue header sha waiter => some (g.enqueue header sha waiter, some (.lock false))
  | .lock isTask =>
    if g.isBusy then some (g, if isTask then some .schedule else none)
    else some ({ g with isBusy := true }, some (.take isTask))
  | .take isTask =>
    match g.queued with
    | some q =>
      some ({ g with queued := none },
        some (.cancelTimer (.changeContext q.header q.sha) q.waiters))
    | none => some (g, some (.unlock isTask))
  | .unlock isTask => some ({ g with isBusy := false }, some (.recheck isTask))
  | .recheck isTask =>
    if g.queued.isSome then some (g, some (.lock isTask))
    else some (g, if isTask then some .schedule else none)
  | .cancelTimer job waiters => some (g.cancelTimer, some (.spawn job waiters))
  | .spawn job waiters =>
    if g.isClosed then some (g.modifyFutures fun f => f.giveUpAll waiters, some .release)
    else some ({ g with activities := g.activities ++ [.launch job waiters] }, none)
  | .release => some ({ g with isBusy := false }, none)
  | .launch job waiters =>
    if g.isClosed then some (g.modifyFutures fun f => f.giveUpAll waiters, none)
    else
      let (g, t) := g.call job
      some (g, some (.await t waiters))
  | .await answer waiters =>
    if g.isClosed then some (g.modifyFutures fun f => f.giveUpAll waiters, none)
    else
      match Edge.result? g.inner answer with
      | some r => some (g, some (.finish r waiters))
      | none => none
  | .finish r waiters => some ({ g with isBusy := false }, some (.tell r waiters))
  | .tell r waiters => some (g.modifyFutures fun f => f.answerAll waiters r, some (.lock true))
  | .schedule => some g.schedule
  | .keepTimer id => some ({ g with timer := id }, none)
  | .close => some (g.cancelTimer, some .shutDown)
  | .shutDown => some ({ g with isClosed := true, timers := [] }, some .closeEdge)
  | .closeEdge => some ({ g with inner := Edge.close g.inner }, some .dismiss)
  | .dismiss =>
    match g.queued with
    | some q => some ({ g with queued := none }, some (.free q.waiters))
    | none => some (g, none)
  | .free waiters => some ({ g with isBusy := false }, some (.excuse waiters))
  | .excuse waiters =>
    let r := Edge.readiness g.inner
    some (g.modifyFutures fun f => f.answerAll waiters r, none)

/-- Takes one step of the activity at a place, if there is one that can take a step. -/
def stepAt (g : Governed σ) (i : Nat) : Option (Governed σ) :=
  match g.activities[i]? with
  | none => none
  | some a =>
    match g.advance a with
    | none => none
    | some (g, some next) => some { g with activities := g.activities.set i next }
    | some (g, none) => some { g with activities := g.activities.eraseIdx i }

/-- Starts an activity of a caller. -/
def start (g : Governed σ) (a : Activity) : Governed σ :=
  { g with activities := g.activities ++ [a] }

/-- A timer fires: somebody polls. -/
def fire (g : Governed σ) (id : TimerId) : Governed σ :=
  { g with timers := g.timers.filter fun t => t.id ≠ id }.start .acquire

/-- The first timer that is due. -/
def dueTimer? (g : Governed σ) (now : Instant) : Option TimerId :=
  (g.timers.find? fun t => t.due.hasCome now).map Timer.id

/-- Takes one step of the first activity that can take one. -/
def step? (g : Governed σ) : Option (Governed σ) :=
  (List.range g.activities.length).findSome? g.stepAt

/-- Takes the steps of one activity until it ends or waits. The first argument bounds their
number. -/
def runActivity : Nat → Governed σ → Activity → Governed σ
  | 0, g, a => g.start a
  | n + 1, g, a =>
    match g.advance a with
    | none => g.start a
    | some (g, none) => g
    | some (g, some next) => runActivity n g next

/-- A bound for the steps of a caller that nobody interrupts. -/
def callerSteps : Nat := 8

/-- The future that was given to a caller last. -/
def lastHandedOut (g : Governed σ) : Ticket := g.handedOut.getLast?.getD 0

/-- Polls without a break. -/
def poll (g : Governed σ) : Governed σ × Ticket :=
  let g := runActivity callerSteps g .acquire
  (g, g.lastHandedOut)

/-- Tells of another context without a break. -/
def changeContext (g : Governed σ) (header : Option String) (sha : String) :
    Governed σ × Ticket :=
  let g := runActivity callerSteps g (.change header sha)
  (g, g.lastHandedOut)

end Governed

instance {σ : Type} [Edge σ] : Edge (Governed σ) where
  shared g := Edge.shared g.inner
  modifyShared := Governed.modifyShared
  poll := Governed.poll
  changeContext := Governed.changeContext
  featureUsed g := g
  interval g :=
    let (inner, d) := Edge.interval g.inner
    ({ g with inner := inner }, d)
  isStopped g := Edge.isStopped g.inner
  isReplacedOnChange g := Edge.isReplacedOnChange g.inner
  close g := Governed.runActivity Governed.callerSteps g .close

end FeatureFlags.Edge
