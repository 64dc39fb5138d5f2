import Mathlib.Data.List.Perm.Basic
import FeatureFlags.Edge.Governor
import FeatureFlags.Proofs.Edge.Conduct

/-!
# What can happen to a governor

Callers come, timers fire, the activities take their steps in any order, and something happens to
the edge: each of these is a `Move`, and a run is a list of them. Most moves are steps of an
activity. `Turns` says once what such a step does, with one rule for each way in which a step
can go; `turns_of_stepAt` finds the rule for a step. What comes next for the activity stands in
place of it, so that nothing depends on the order in which activities are listed.
-/

set_option autoImplicit false

namespace FeatureFlags.Edge.Governed

/-- What can happen to a governor. -/
inductive Move (σ : Type) [Eventful σ] where
  /-- A caller polls. -/
  | poll
  /-- A caller tells of another context. -/
  | changeContext (header : Option String) (sha : String)
  /-- A caller closes the governor. -/
  | close
  /-- A timer fires, if it is running. -/
  | fire (id : TimerId)
  /-- The activity at a place takes a step, if it can. -/
  | advance (i : Nat)
  /-- Something happens to the edge. -/
  | inner (x : Eventful.Event σ)

variable {σ : Type} [Edge σ] [Eventful σ]

/-- What one move makes of a governor. -/
def move (g : Governed σ) : Move σ → Governed σ
  | .poll => g.start .acquire
  | .changeContext header sha => g.start (.change header sha)
  | .close => g.start .close
  | .fire id => if g.timers.any (fun t => t.id = id) then g.fire id else g
  | .advance i => (g.stepAt i).getD g
  | .inner x => { g with inner := Eventful.happen g.inner x }

/-- What a run makes of a governor. -/
def run (g : Governed σ) (moves : List (Move σ)) : Governed σ := moves.foldl move g

/-- No moves leave a governor as it is. -/
@[simp] theorem run_nil (g : Governed σ) : g.run ([] : List (Move σ)) = g := rfl

/-- A run ends with its last move. -/
@[simp] theorem run_concat (g : Governed σ) (moves : List (Move σ)) (m : Move σ) :
    g.run (moves ++ [m]) = (g.run moves).move m := by
  simp [run]

/-- Whether no activity can take a step. -/
def AtRest (g : Governed σ) : Prop := ∀ i, g.stepAt i = none

/-! ### Steps of activities -/

section Steps

omit [Eventful σ]

/-- Gives up the promises to answer some callers. -/
def abandon (g : Governed σ) (waiters : List Ticket) : Governed σ :=
  g.modifyFutures fun f => f.giveUpAll waiters

/-- Answers some callers. -/
def answer (g : Governed σ) (waiters : List Ticket) (r : Readiness) : Governed σ :=
  g.modifyFutures fun f => f.answerAll waiters r

/-- A request to the edge concerns nothing but the edge. -/
theorem call_eq_inner (g : Governed σ) (job : Job) :
    g.call job = ({ g with inner := (g.call job).1.inner }, (g.call job).2) := by
  cases job <;> rfl

/-- Whether an edge is to be asked again after some time: it is not stopped, and it tells how
long to wait. -/
def asksAgain (e : σ) : Bool := !isStopped (Edge.interval e).1 && !(Edge.interval e).2.isZero

/-- An edge is not to be asked again exactly if it is stopped or tells of no time to wait. -/
theorem asksAgain_eq_false_iff (e : σ) :
    asksAgain e = false ↔
      (isStopped (Edge.interval e).1 || (Edge.interval e).2.isZero) = true := by
  simp [asksAgain, imp_iff_not_or]

/-- The timer that a governor sets next. -/
def upcoming (g : Governed σ) : Timer :=
  ⟨g.nextTimer, (shared (Edge.interval g.inner).1).now.after (Edge.interval g.inner).2⟩

/-- A task goes on to set a timer, a caller is done. -/
def afterwards (isTask : Bool) : List Activity := if isTask then [.schedule] else []

/-- What a step of an activity makes of a governor, and of the activity. -/
inductive Turns (g : Governed σ) : Activity → Governed σ → List Activity → Prop
  /-- Somebody polls while a request is running. -/
  | skip (hb : g.isBusy = true) : Turns g .acquire g [.decline]
  /-- Whoever polls is answered at once. -/
  | decline : Turns g .decline g.handOutAnswered []
  /-- Somebody polls, and will make a request. -/
  | acquire (hb : g.isBusy = false) : Turns g .acquire { g with isBusy := true } [.promise]
  /-- Whoever polls waits for the request. -/
  | promise : Turns g .promise g.handOut.1 [.cancelTimer .poll [g.handOut.2]]
  /-- Somebody is going to change the context. -/
  | change {header : Option String} {sha : String} :
    Turns g (.change header sha) g.handOut.1 [.enqueue header sha g.handOut.2]
  /-- A change of the context is queued. -/
  | enqueue {header : Option String} {sha : String} {waiter : Ticket} :
    Turns g (.enqueue header sha waiter) (g.enqueue header sha waiter) [.lock false]
  /-- What is queued is left to others. -/
  | turnAway {isTask : Bool} (hb : g.isBusy = true) :
    Turns g (.lock isTask) g (afterwards isTask)
  /-- What is queued will be sent. -/
  | lock {isTask : Bool} (hb : g.isBusy = false) :
    Turns g (.lock isTask) { g with isBusy := true } [.take isTask]
  /-- A change of the context is taken from the queue. -/
  | take {isTask : Bool} {q : Queued} (hq : g.queued = some q) :
    Turns g (.take isTask) { g with queued := none }
      [.cancelTimer (.changeContext q.header q.sha) q.waiters]
  /-- Nothing was queued. -/
  | takeNothing {isTask : Bool} (hq : g.queued = none) :
    Turns g (.take isTask) g [.unlock isTask]
  /-- Others may start a request. -/
  | unlock {isTask : Bool} : Turns g (.unlock isTask) { g with isBusy := false } [.recheck isTask]
  /-- Something was queued in between. -/
  | retry {isTask : Bool} (hq : g.queued.isSome = true) :
    Turns g (.recheck isTask) g [.lock isTask]
  /-- Nothing was queued in between. -/
  | leave {isTask : Bool} (hq : g.queued = none) :
    Turns g (.recheck isTask) g (afterwards isTask)
  /-- The timer is cancelled. -/
  | cancelTimer {job : Job} {waiters : List Ticket} :
    Turns g (.cancelTimer job waiters) g.cancelTimer [.spawn job waiters]
  /-- A task is started. -/
  | spawn {job : Job} {waiters : List Ticket} (hc : g.isClosed = false) :
    Turns g (.spawn job waiters) g [.launch job waiters]
  /-- No task is started any more. -/
  | failSpawn {job : Job} {waiters : List Ticket} (hc : g.isClosed = true) :
    Turns g (.spawn job waiters) (g.abandon waiters) [.release]
  /-- Others may start a request, which will fail as well. -/
  | release : Turns g .release { g with isBusy := false } []
  /-- A request is made to the edge. -/
  | launch {job : Job} {waiters : List Ticket} (hc : g.isClosed = false) :
    Turns g (.launch job waiters) { g with inner := (g.call job).1.inner }
      [.await (g.call job).2 waiters]
  /-- A task is dropped before its request. -/
  | dropLaunch {job : Job} {waiters : List Ticket} (hc : g.isClosed = true) :
    Turns g (.launch job waiters) (g.abandon waiters) []
  /-- A request has ended. -/
  | await {answer : Ticket} {waiters : List Ticket} {r : Readiness} (hc : g.isClosed = false)
    (hr : result? g.inner answer = some r) : Turns g (.await answer waiters) g [.finish r waiters]
  /-- A task is dropped during its request. -/
  | dropAwait {answer : Ticket} {waiters : List Ticket} (hc : g.isClosed = true) :
    Turns g (.await answer waiters) (g.abandon waiters) []
  /-- Others may start a request. -/
  | finish {r : Readiness} {waiters : List Ticket} :
    Turns g (.finish r waiters) { g with isBusy := false } [.tell r waiters]
  /-- Those who waited for the request are answered. -/
  | tell {r : Readiness} {waiters : List Ticket} :
    Turns g (.tell r waiters) (g.answer waiters r) [.lock true]
  /-- There is to be no other request for now. -/
  | halt (h : asksAgain g.inner = false) :
    Turns g .schedule { g with inner := (Edge.interval g.inner).1 } []
  /-- A timer is set. -/
  | schedule (hc : g.isClosed = false) (h : asksAgain g.inner = true) :
    Turns g .schedule
      { g with
        inner := (Edge.interval g.inner).1
        timers := g.timers ++ [g.upcoming]
        nextTimer := g.nextTimer + 1 }
      [.keepTimer (some g.nextTimer)]
  /-- No timer is set any more. -/
  | failSchedule (hc : g.isClosed = true) :
    Turns g .schedule { g with inner := (Edge.interval g.inner).1 } [.keepTimer none]
  /-- The timer is remembered. -/
  | keepTimer {id : Option TimerId} : Turns g (.keepTimer id) { g with timer := id } []
  /-- The timer is cancelled for good. -/
  | close : Turns g .close g.cancelTimer [.shutDown]
  /-- Tasks and timers are ended. -/
  | shutDown : Turns g .shutDown { g with isClosed := true, timers := [] } [.closeEdge]
  /-- The edge is closed. -/
  | closeEdge : Turns g .closeEdge { g with inner := Edge.close g.inner } [.dismiss]
  /-- A change of the context is taken from the queue, and will not be sent. -/
  | dismiss {q : Queued} (hq : g.queued = some q) :
    Turns g .dismiss { g with queued := none } [.free q.waiters]
  /-- Nothing was queued. -/
  | dismissNothing (hq : g.queued = none) : Turns g .dismiss g []
  /-- Others may start a request, which will fail. -/
  | free {waiters : List Ticket} :
    Turns g (.free waiters) { g with isBusy := false } [.excuse waiters]
  /-- Those who waited for what is not sent are answered. -/
  | excuse {waiters : List Ticket} :
    Turns g (.excuse waiters) (g.answer waiters (readiness g.inner)) []

/-- A governor with other activities. -/
def withActivities (g : Governed σ) (l : List Activity) : Governed σ := { g with activities := l }

omit [Edge σ] in
/-- What the activities are is of no concern to the edge. -/
@[simp] theorem inner_withActivities (g : Governed σ) (l : List Activity) :
    (g.withActivities l).inner = g.inner := rfl

/-- What follows a request, as a list. -/
theorem optional_toList (isTask : Bool) :
    (if isTask then some Activity.schedule else none).toList = afterwards isTask := by
  cases isTask <;> rfl

/-- What an activity does is one of its turns. A task that it starts is listed last. -/
theorem turns_of_advance {g g' : Governed σ} {a : Activity} {next : Option Activity}
    (h : g.advance a = some (g', next)) :
    ∃ g₁ spawned, g.Turns a g₁ (next.toList ++ spawned) ∧
      g' = g₁.withActivities (g.activities ++ spawned) := by
  -- all but the start of a task leave the activities to the caller
  have quiet : ∀ {g₁ : Governed σ} {o : Option Activity}, some (g₁, o) = some (g', next) →
      g.Turns a g₁ o.toList → g₁.activities = g.activities →
      ∃ g₁ spawned, g.Turns a g₁ (next.toList ++ spawned) ∧
        g' = g₁.withActivities (g.activities ++ spawned) := by
    intro g₁ o heq hturns hactivities
    obtain ⟨rfl, rfl⟩ := Prod.mk.inj (Option.some.inj heq)
    refine ⟨g₁, [], by rwa [List.append_nil], ?_⟩
    rw [List.append_nil, ← hactivities]
    rfl
  cases a with
  | acquire =>
    simp only [advance] at h
    split at h
    · next hb => exact quiet h (.skip hb) rfl
    · next hb => exact quiet h (.acquire (Bool.eq_false_iff.mpr hb)) rfl
  | decline => exact quiet h .decline rfl
  | promise => exact quiet h .promise rfl
  | change header sha => exact quiet h .change rfl
  | enqueue header sha waiter => exact quiet h .enqueue rfl
  | lock isTask =>
    simp only [advance] at h
    split at h
    · next hb => exact quiet h (optional_toList isTask ▸ .turnAway hb) rfl
    · next hb => exact quiet h (.lock (Bool.eq_false_iff.mpr hb)) rfl
  | take isTask =>
    simp only [advance] at h
    split at h
    · next q hq => exact quiet h (.take hq) rfl
    · next hq => exact quiet h (.takeNothing hq) rfl
  | unlock isTask => exact quiet h .unlock rfl
  | recheck isTask =>
    simp only [advance] at h
    split at h
    · next hq => exact quiet h (.retry hq) rfl
    · next hq => exact quiet h (optional_toList isTask ▸ .leave (by simpa using hq)) rfl
  | cancelTimer job waiters => exact quiet h .cancelTimer rfl
  | spawn job waiters =>
    simp only [advance] at h
    split at h
    · next hc => exact quiet h (.failSpawn hc) rfl
    · next hc =>
      obtain ⟨rfl, rfl⟩ := Prod.mk.inj (Option.some.inj h)
      exact ⟨g, [.launch job waiters], .spawn (Bool.eq_false_iff.mpr hc), rfl⟩
  | release => exact quiet h .release rfl
  | launch job waiters =>
    simp only [advance] at h
    split at h
    · next hc => exact quiet h (.dropLaunch hc) rfl
    · next hc =>
      rw [call_eq_inner] at h
      exact quiet h (.launch (Bool.eq_false_iff.mpr hc)) rfl
  | await answer waiters =>
    simp only [advance] at h
    split at h
    · next hc => exact quiet h (.dropAwait hc) rfl
    · next hc =>
      split at h
      · next r hr => exact quiet h (.await (Bool.eq_false_iff.mpr hc) hr) rfl
      · exact nomatch h
  | finish r waiters => exact quiet h .finish rfl
  | tell r waiters => exact quiet h .tell rfl
  | schedule =>
    simp only [advance, schedule] at h
    split at h
    · next hno => exact quiet h (.halt ((asksAgain_eq_false_iff g.inner).mpr hno)) rfl
    · next hno =>
      have hasks : asksAgain g.inner = true := by
        rwa [← Bool.not_eq_false, asksAgain_eq_false_iff]
      split at h
      · next hc => exact quiet h (.failSchedule hc) rfl
      · next hc => exact quiet h (.schedule (Bool.eq_false_iff.mpr hc) hasks) rfl
  | keepTimer id => exact quiet h .keepTimer rfl
  | close => exact quiet h .close rfl
  | shutDown => exact quiet h .shutDown rfl
  | closeEdge => exact quiet h .closeEdge rfl
  | dismiss =>
    simp only [advance] at h
    split at h
    · next q hq => exact quiet h (.dismiss hq) rfl
    · next hq => exact quiet h (.dismissNothing hq) rfl
  | free waiters => exact quiet h .free rfl
  | excuse waiters => exact quiet h .excuse rfl

/-- One step of the activity at a place: it takes a turn, the others stay as they are. -/
structure Steps (g : Governed σ) (i : Nat) (g' : Governed σ) (a : Activity) (g₁ : Governed σ)
    (after rest : List Activity) : Prop where
  /-- The activity is the one at the place. -/
  getElem?_eq : g.activities[i]? = some a
  /-- What is going on. -/
  before : g.activities.Perm (a :: rest)
  /-- What it does. -/
  turns : g.Turns a g₁ after
  /-- What comes next, and what else is going on. -/
  after : ∃ l : List Activity, l.Perm (after ++ rest) ∧ g' = g₁.withActivities l

/-- Only an activity that waits for an answer takes no step. -/
theorem advance_eq_none {g : Governed σ} {a : Activity} (h : g.advance a = none) :
    ∃ answer waiters, a = .await answer waiters ∧ result? g.inner answer = none := by
  cases a with
  | await answer waiters =>
    simp only [advance] at h
    split at h
    · exact nomatch h
    · split at h
      · exact nomatch h
      · next hr => exact ⟨answer, waiters, rfl, hr⟩
  | acquire | lock | take | recheck | spawn | launch | dismiss =>
    simp only [advance] at h
    split at h <;> exact nomatch h
  | _ => exact nomatch h

/-- A step is the step of one activity among the others. -/
theorem steps_of_stepAt {g g' : Governed σ} {i : Nat} (h : g.stepAt i = some g') :
    ∃ a g₁ after rest, g.Steps i g' a g₁ after rest := by
  unfold stepAt at h
  split at h
  · exact nomatch h
  next a ha =>
  obtain ⟨hi, rfl⟩ := List.getElem?_eq_some_iff.mp ha
  have hbefore := (List.getElem_cons_eraseIdx_perm hi).symm
  split at h
  · exact nomatch h
  · next g₁ b hadvance =>
    obtain ⟨g₁, spawned, hturns, rfl⟩ := turns_of_advance hadvance
    obtain rfl := Option.some.inj h
    have hset : ((g.activities ++ spawned).set i b).Perm
        (b :: (spawned ++ g.activities.eraseIdx i)) := by
      rw [List.set_append_left i b hi]
      exact ((List.set_perm_cons_eraseIdx hi b).append_right spawned).trans
        (List.perm_append_comm.cons b)
    exact ⟨_, g₁, _, _, ha, hbefore, hturns, _, hset, rfl⟩
  · next g₁ hadvance =>
    obtain ⟨g₁, spawned, hturns, rfl⟩ := turns_of_advance hadvance
    obtain rfl := Option.some.inj h
    have herase : ((g.activities ++ spawned).eraseIdx i).Perm
        (spawned ++ g.activities.eraseIdx i) := by
      rw [List.eraseIdx_append_of_lt_length hi spawned]
      exact List.perm_append_comm
    exact ⟨_, g₁, _, _, ha, hbefore, hturns, _, herase, rfl⟩

/-- An activity that takes no step cannot go on. -/
theorem advance_of_stepAt_eq_none {g : Governed σ} {i : Nat} (h : g.stepAt i = none)
    {a : Activity} (ha : g.activities[i]? = some a) : g.advance a = none := by
  simp only [stepAt, ha] at h
  cases hadvance : g.advance a with
  | none => rfl
  | some p =>
    obtain ⟨g', next⟩ := p
    rw [hadvance] at h
    cases next <;> exact nomatch h

/-- At rest all activities wait for an answer. -/
theorem await_of_atRest {g : Governed σ} (h : g.AtRest) {a : Activity} (ha : a ∈ g.activities) :
    ∃ answer waiters, a = .await answer waiters ∧ result? g.inner answer = none := by
  obtain ⟨i, hi⟩ := List.mem_iff_getElem?.mp ha
  exact advance_eq_none (advance_of_stepAt_eq_none (h i) hi)

/-- Where nothing is going on, all is at rest and no request is under way. -/
theorem atRest_of_nil {g : Governed σ} (h : g.activities = []) :
    g.AtRest ∧ ∀ answer waiters, .await answer waiters ∉ g.activities := by
  refine ⟨fun i => ?_, fun answer waiters hmem => ?_⟩
  · simp [stepAt, h]
  · exact absurd (h ▸ hmem) List.not_mem_nil

end Steps

/-! ### All moves -/

/-- Whether callers start with an activity. -/
def isFirst : Activity → Bool
  | .acquire | .change .. | .close => true
  | _ => false

/-- The activity that takes a step with a move, if it can. -/
def acting? (g : Governed σ) : Move σ → Option Activity
  | .advance i => g.activities[i]?
  | _ => none

/-- What a move makes of a governor. -/
inductive Moves (g : Governed σ) : Move σ → Governed σ → Prop
  /-- Nothing happens: a timer is not running, or an activity waits. -/
  | idle {m : Move σ}
    (hm : ∀ a, g.acting? m = some a → ∃ answer waiters, a = .await answer waiters) : Moves g m g
  /-- A caller comes, perhaps because a timer has fired. -/
  | start {m : Move σ} {a : Activity} {timers : List Timer} (hm : g.acting? m = none)
    (ha : isFirst a = true) (ht : timers = g.timers ∨ timers.Sublist g.timers ∧ a = .acquire) :
    Moves g m { g with timers := timers, activities := g.activities ++ [a] }
  /-- An activity takes a step. -/
  | advance {i : Nat} {g' g₁ : Governed σ} {a : Activity} {after rest : List Activity}
    (h : g.Steps i g' a g₁ after rest) : Moves g (.advance i) g'
  /-- Something happens to the edge. -/
  | inner {x : Eventful.Event σ} :
    Moves g (.inner x) { g with inner := Eventful.happen g.inner x }

/-- What a move leads to. -/
theorem moves_move (g : Governed σ) (m : Move σ) : g.Moves m (g.move m) := by
  cases m with
  | poll | changeContext | close => exact .start rfl rfl (.inl rfl)
  | fire id =>
    simp only [move]
    split
    · exact .start rfl rfl (.inr ⟨List.filter_sublist, rfl⟩)
    · exact .idle fun _ ha => nomatch ha
  | advance i =>
    simp only [move]
    cases hstep : g.stepAt i with
    | none =>
      refine .idle fun a ha => ?_
      obtain ⟨answer, waiters, hawait, -⟩ := advance_eq_none (advance_of_stepAt_eq_none hstep ha)
      exact ⟨answer, waiters, hawait⟩
    | some g' =>
      obtain ⟨a, g₁, after, rest, hsteps⟩ := steps_of_stepAt hstep
      exact .advance hsteps
  | inner x => exact .inner

end FeatureFlags.Edge.Governed
