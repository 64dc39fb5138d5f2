import FeatureFlags.Proofs.Governor.Alone
import FeatureFlags.Proofs.Polling.Conduct
import FeatureFlags.Proofs.Polling.Retirement
import FeatureFlags.Proofs.Polling.Stopping

/-!
# Governors of edges that have ended their requests

A governor sets no timer for an edge that says that it is stopped. An edge that a server has
rejected does not say so: its governor goes on to set a timer after each poll, though none of the
polls leads to a request.
-/

set_option autoImplicit false

namespace FeatureFlags.Edge.Governed

open Polling (Ending IsMarked)

/-! ### Timers that are set -/

section Timers

variable {σ : Type} [Edge σ] {g g' : Governed σ}

/-- Whether a governor would set a timer: it is open, and the edge is to be asked again. -/
def wouldSchedule (g : Governed σ) : Bool := !g.isClosed && asksAgain g.inner

/-- A governor that would set no timer sets none. -/
theorem nextTimer_schedule (h : g.wouldSchedule = false) :
    g.schedule.1.nextTimer = g.nextTimer := by
  cases hc : g.isClosed with
  | true =>
    simp only [schedule, hc, if_true]
    split <;> rfl
  | false =>
    have hasks : asksAgain g.inner = false := by simpa [wouldSchedule, hc] using h
    simp [schedule, (asksAgain_eq_false_iff _).mp hasks]

/-- Only an activity that schedules sets a timer. -/
theorem nextTimer_turns {a : Activity} {after : List Activity} (h : g.Turns a g' after)
    (ha : a ≠ .schedule) : g'.nextTimer = g.nextTimer := by
  cases h with
  | schedule => exact absurd rfl ha
  | _ => rfl

/-- No step sets a timer where none would be set. -/
theorem nextTimer_advance {a : Activity} {next : Option Activity} (h : g.wouldSchedule = false)
    (hadvance : g.advance a = some (g', next)) : g'.nextTimer = g.nextTimer := by
  by_cases ha : a = .schedule
  · rw [ha] at hadvance
    rw [← nextTimer_schedule h, Option.some.inj hadvance]
  · obtain ⟨g₁, spawned, hturns, rfl⟩ := turns_of_advance hadvance
    exact (nextTimer_turns hturns ha :)

/-- No activity sets a timer where none would be set. -/
theorem nextTimer_stepAt {i : Nat} (h : g.wouldSchedule = false) (hstep : g.stepAt i = some g') :
    g'.nextTimer = g.nextTimer := by
  unfold stepAt at hstep
  split at hstep
  · exact nomatch hstep
  · split at hstep
    · exact nomatch hstep
    · next hadvance =>
      rw [← Option.some.inj hstep]
      exact (nextTimer_advance h hadvance :)
    · next hadvance =>
      rw [← Option.some.inj hstep]
      exact (nextTimer_advance h hadvance :)

variable [Eventful σ]

/-- A governor that would set no timer sets none. -/
theorem nextTimer_move (h : g.wouldSchedule = false) (m : Move σ) :
    (g.move m).nextTimer = g.nextTimer := by
  cases m with
  | poll | changeContext | close | inner => rfl
  | fire id =>
    simp only [move]
    split <;> rfl
  | advance i =>
    simp only [move]
    cases hstep : g.stepAt i with
    | none => rfl
    | some g' => exact nextTimer_stepAt h hstep

end Timers

/-! ### What a governor does to a polling edge -/

/-- The end of all requests that a move brings, if it brings one. -/
def ending? (g : Governed Polling) (m : Move Polling) : Option Ending :=
  match m with
  | .inner x => g.inner.ending? x.1
  | m => if g.acting? m = some .closeEdge then some .closed else none

/-- What ends all requests first in a run. -/
def firstEnding? (g : Governed Polling) (moves : List (Move Polling)) : Option Ending :=
  firstSeen move ending? g moves

variable {g g₁ : Governed Polling}

/-- A step of an activity is an event for the edge, or concerns what is shared with it. -/
theorem inner_turns {a : Activity} {after : List Activity} (h : g.Turns a g₁ after) :
    (∃ s, g₁.inner = { g.inner with shared := s } ∧ a ≠ .closeEdge) ∨
      ∃ e, g₁.inner = g.inner.step e ∧
        g.inner.ending? e = if a = .closeEdge then some .closed else none := by
  cases h with
  | closeEdge => exact .inr ⟨.close, rfl, rfl⟩
  | @launch job =>
    cases job with
    | poll => exact .inr ⟨.poll, rfl, rfl⟩
    | changeContext header sha => exact .inr ⟨.changeContext header sha, rfl, rfl⟩
  | _ => exact .inl ⟨_, rfl, by simp⟩

/-- A move is an event for the edge, or concerns what is shared with it. -/
theorem inner_move (g : Governed Polling) (m : Move Polling) :
    (∃ s, (g.move m).inner = { g.inner with shared := s } ∧ g.ending? m = none) ∨
      ∃ e, (g.move m).inner = g.inner.step e ∧ g.inner.ending? e = g.ending? m := by
  cases m with
  | poll | changeContext | close => exact .inl ⟨g.inner.shared, rfl, rfl⟩
  | inner x => exact .inr ⟨x.1, rfl, rfl⟩
  | fire id =>
    refine .inl ⟨g.inner.shared, ?_, rfl⟩
    simp only [move]
    split <;> rfl
  | advance i =>
    simp only [move, ending?, acting?]
    cases hstep : g.stepAt i with
    | none =>
      refine .inl ⟨g.inner.shared, rfl, if_neg fun ha => ?_⟩
      obtain ⟨_, _, hawait, -⟩ := advance_eq_none (advance_of_stepAt_eq_none hstep ha)
      cases hawait
    | some g' =>
      obtain ⟨a, g₁, after, rest, hplace, -, hturns, l, -, rfl⟩ := steps_of_stepAt hstep
      simp only [hplace, Option.some.injEq, Option.getD_some, inner_withActivities]
      rcases inner_turns hturns with ⟨s, hinner, ha⟩ | ⟨e, hinner, hending⟩
      · exact .inl ⟨s, hinner, if_neg ha⟩
      · exact .inr ⟨e, hinner, hending⟩

/-! ### What the edge says of its end -/

/-- Every move keeps the marks of what has ended the requests first. -/
theorem isMarked_move {first : Option Ending} (h : g.inner.IsMarked first) (m : Move Polling) :
    (g.move m).inner.IsMarked (first.or (g.ending? m)) := by
  rcases inner_move g m with ⟨s, hinner, hending⟩ | ⟨e, hinner, hending⟩
  · rw [hinner, hending, Option.or_none]
    exact ⟨⟨h.isSingle.single, h.isSingle.idle, h.isSingle.allowed⟩, h.canRequest_eq,
      h.isStopped_eq⟩
  · rw [hinner, ← hending]
    exact h.step e

/-- Every run keeps the marks of what has ended the requests first. -/
theorem isMarked_run {first : Option Ending} (h : g.inner.IsMarked first)
    (moves : List (Move Polling)) :
    (g.run moves).inner.IsMarked (first.or (g.firstEnding? moves)) := by
  induction moves using List.reverseRecOn with
  | nil => simpa [firstEnding?, firstSeen] using h
  | append_singleton moves m ih =>
    rw [run_concat, firstEnding?, firstSeen_concat, ← Option.or_assoc]
    exact isMarked_move ih m

/-- After the end no answer changes how long to wait for the next request. -/
theorem interval_move {x : Ending} (h : g.inner.IsMarked (some x)) (m : Move Polling) :
    (g.move m).inner.interval = g.inner.interval := by
  rcases inner_move g m with ⟨s, hinner, -⟩ | ⟨e, hinner, -⟩
  · rw [hinner]
  · rw [hinner]
    refine (congrArg Polling.Holdings.interval (Polling.holdings_step g.inner e)).trans ?_
    cases e with
    | respond | breakOff =>
      rw [Polling.heldAfter, if_pos h.inFlight_eq_nil]
      rfl
    | _ => rfl

/-! ### Whether timers are set after the end -/

/-- Whether an edge is to be asked again depends on whether it has stopped and on its interval. -/
theorem asksAgain_congr {p p' : Polling} (hstopped : p'.isStopped = p.isStopped)
    (hinterval : p'.interval = p.interval) : asksAgain p' = asksAgain p := by
  show (!p'.isStopped && !p'.interval.isZero) = _
  rw [hstopped, hinterval]
  rfl

/-- A governor that would set no timer after the end does not come to set one. -/
theorem wouldSchedule_move {x : Ending} (h : g.inner.IsMarked (some x))
    (hno : g.wouldSchedule = false) (m : Move Polling) : (g.move m).wouldSchedule = false := by
  have hstopped : (g.move m).inner.isStopped = g.inner.isStopped :=
    ((isMarked_move h m).isStopped_eq.trans rfl).trans h.isStopped_eq.symm
  have hasks : asksAgain (g.move m).inner = asksAgain g.inner :=
    asksAgain_congr hstopped (interval_move h m)
  cases hc : (g.move m).isClosed with
  | true => simp [wouldSchedule, hc]
  | false =>
    rw [wouldSchedule, isClosed_move hc] at hno
    rwa [wouldSchedule, hasks, hc]

/-- After the requests have ended no timer is set in any run of a governor that would set none. -/
theorem nextTimer_run {x : Ending} (h : g.inner.IsMarked (some x))
    (hno : g.wouldSchedule = false) (later : List (Move Polling)) :
    (g.run later).nextTimer = g.nextTimer := by
  induction later generalizing g with
  | nil => rfl
  | cons m later ih =>
    exact (ih (isMarked_move h m) (wouldSchedule_move h hno m)).trans (nextTimer_move hno m)

/-- An edge without requests answers whoever polls. -/
theorem result?_poll {p : Polling} (h : p.traffic.IsOver) :
    (Edge.result? (Edge.poll p).1 (Edge.poll p).2).isSome = true := by
  have hanswered := (h.of_moves (Polling.moves_step p .poll)).2.2 p.traffic.nextTicket rfl
  rw [Option.isSome_iff_ne_none, ne_eq]
  exact fun hnone => (Polling.result?_eq_none_iff _ _).mp hnone hanswered

/-- A task that polls an edge without requests ends at once, and sets a timer. -/
theorem nextTimer_of_launch {waiters : List Ticket}
    (hactivities : g.activities = [.launch .poll waiters]) (hbusy : g.isBusy = true)
    (hqueued : g.queued = none) (hc : g.isClosed = false) (hover : g.inner.traffic.IsOver)
    (hasks : asksAgain g.inner = true) :
    (g.run (List.replicate 10 (.advance 0))).nextTimer = g.nextTimer + 1 := by
  let asked : Governed Polling :=
    { g with
      inner := (g.call .poll).1.inner
      activities := [.await (g.call .poll).2 waiters] }
  obtain ⟨r, hr⟩ := Option.isSome_iff_exists.mp (result?_poll hover)
  have hflags := Polling.holdings_step g.inner .poll
  have hstill : asksAgain (Edge.poll g.inner).1 = true :=
    (asksAgain_congr (congrArg Polling.Holdings.isStopped hflags)
      (congrArg Polling.Holdings.interval hflags)).trans hasks
  have hend : asked.run (List.replicate 7 (.advance 0)) =
      { asked.answer waiters r with isBusy := false }.withActivities [.schedule] :=
    run_await rfl hbusy hc hr hqueued
  have hset := run_schedule (g := { asked.answer waiters r with isBusy := false }) hc hstill
  rw [show List.replicate 10 (Move.advance 0) =
    [.advance 0] ++ (List.replicate 7 (.advance 0) ++ List.replicate 2 (.advance 0)) from rfl,
    run_append, run_append, run_launch hactivities hc, hend, hset]
  rfl

/-- An idle governor that would set a timer does so after the next poll, even though the poll
leads to no request. -/
theorem nextTimer_of_poll (hactivities : g.activities = []) (hbusy : g.isBusy = false)
    (hqueued : g.queued = none) (hover : g.inner.traffic.IsOver) (h : g.wouldSchedule = true) :
    (g.run (.poll :: List.replicate 14 (.advance 0))).nextTimer = g.nextTimer + 1 := by
  obtain ⟨hopen, hasks⟩ : g.isClosed = false ∧ asksAgain g.inner = true := by
    simpa [wouldSchedule] using h
  have hover₁ : g.handOut.1.inner.traffic.IsOver :=
    ⟨hover.canRequest, hover.isBusy, hover.inFlight⟩
  rw [show (.poll :: List.replicate 14 (.advance 0) : List (Move Polling)) =
    (.poll :: List.replicate 4 (.advance 0)) ++ List.replicate 10 (.advance 0) from rfl,
    run_append, run_poll_of_idle hactivities hbusy hopen]
  exact nextTimer_of_launch rfl rfl hqueued hopen hover₁ hasks

/-- Whether a governor is idle, and its edge with it. -/
structure IsIdle (g : Governed Polling) : Prop where
  /-- No task and no caller is under way. -/
  activities_eq : g.activities = []
  /-- The edge waits for no answer. -/
  isBusy_inner : g.inner.isBusy = false

/-- After the end an idle governor sets no timer exactly if it would set none. -/
theorem nextTimer_run_iff {p : Polling} {moves : List (Move Polling)} {x : Ending}
    (h : ((new p).run moves).inner.IsMarked (some x)) (hidle : ((new p).run moves).IsIdle) :
    (∀ later, (((new p).run moves).run later).nextTimer = ((new p).run moves).nextTimer) ↔
      ((new p).run moves).wouldSchedule = false := by
  refine ⟨fun hnever => ?_, nextTimer_run h⟩
  by_contra hwould
  rw [Bool.not_eq_false] at hwould
  have hopen : ((new p).run moves).isClosed = false := by
    simp only [wouldSchedule, Bool.and_eq_true, Bool.not_eq_true'] at hwould
    exact hwould.1
  -- nobody has the flag and nothing is queued, so that a poll goes through to the edge
  have hbusy : ((new p).run moves).isBusy = false := by
    have hcount := (guarded_run p moves).count_eq hopen
    rw [hidle.activities_eq] at hcount
    exact (Bool.toNat_eq_zero).mp hcount.symm
  have hqueued : ((new p).run moves).queued = none := by
    by_contra hsome
    obtain ⟨a, ha, -⟩ := watched_of_open hopen (Option.isSome_iff_ne_none.mpr hsome)
    exact absurd (hidle.activities_eq ▸ ha) List.not_mem_nil
  have hover : ((new p).run moves).inner.traffic.IsOver :=
    ⟨h.canRequest_eq, hidle.isBusy_inner, h.inFlight_eq_nil⟩
  have hset := nextTimer_of_poll hidle.activities_eq hbusy hqueued hover hwould
  rw [hnever] at hset
  exact absurd hset.symm (Nat.succ_ne_self _)

/-- An edge whose requests have ended says so from then on exactly if it was the server that ended
them by asking it to stop, and not if it was rejected or closed before. The same holds under a
governor. In the same case the governor sets no further timer, not even the task of the request
that has just been answered, and neither does it when it is closed itself or when there is no time
between two requests. In all other cases a governor that is idle comes to set another timer. -/
theorem says_stopped_iff {p : Polling} (hs : p.IsFresh) :
    (∀ es x, p.firstEnding? es = some x →
      (p.run es).canRequest = false ∧
        ((∀ later, (p.run (es ++ later)).isStopped = true) ↔ x = .asked)) ∧
    ∀ moves x, (new p).firstEnding? moves = some x →
      let g := (new p).run moves
      g.inner.canRequest = false ∧
        ((∀ later, Edge.isStopped (g.run later) = true) ↔ x = .asked) ∧
        (g.isClosed = true ∨ g.inner.interval.isZero = true ∨ x = .asked →
          ∀ later, (g.run later).nextTimer = g.nextTimer) ∧
        (g.IsIdle → ((∀ later, (g.run later).nextTimer = g.nextTimer) ↔
          g.isClosed = true ∨ g.inner.interval.isZero = true ∨ x = .asked)) := by
  constructor
  · intro es x hx
    have hmarked := hs.isMarked.run es
    rw [hx, Option.none_or] at hmarked
    refine ⟨hmarked.canRequest_eq, ?_⟩
    rw [← hmarked.isStopped_iff]
    simp [Polling.run]
  · intro moves x hx g
    have hmarked : g.inner.IsMarked (some x) := by
      have hrun := isMarked_run (g := new p) hs.isMarked moves
      rwa [hx] at hrun
    have hnone : g.wouldSchedule = false ↔
        g.isClosed = true ∨ g.inner.interval.isZero = true ∨ x = .asked := by
      show (!g.isClosed && (!g.inner.isStopped && !g.inner.interval.isZero)) = false ↔ _
      rw [hmarked.isStopped_eq]
      cases g.isClosed <;> cases g.inner.interval.isZero <;> simp
    refine ⟨hmarked.canRequest_eq, ?_, fun h => nextTimer_run hmarked (hnone.mpr h),
      fun hidle => (nextTimer_run_iff hmarked hidle).trans hnone⟩
    have hstopped : ∀ later, (g.run later).inner.isStopped = (some x == some .asked) :=
      fun later => (isMarked_run hmarked later).isStopped_eq
    show (∀ later, (g.run later).inner.isStopped = true) ↔ _
    simp [hstopped]

/-! ### Samples -/

/-- An answer with which a server asks to stop, and which can be read. -/
def readableStop : Polling.Event := Polling.sampleStop [0x5B, 0x5D]

/-- A request that is answered in this way, and whose task has not noticed it yet. -/
def stoppedDuringRequest : List (Move Polling) :=
  [.poll] ++ List.replicate 5 (.advance 0) ++ [.inner ⟨readableStop, trivial⟩]

/-- A server that asks to stop is obeyed, and the edge says so for good. The task of the request
sets no timer. -/
theorem says_stopped_after_stop :
    let g := (new Polling.sampleEdge).run stoppedDuringRequest
    (∀ later, (Polling.sampleEdge.run ([.poll, readableStop] ++ later)).isStopped = true) ∧
      (∀ later, Edge.isStopped (g.run later) = true) ∧ g.activities = [.await 1 [0]] ∧
      ∀ later, (g.run later).nextTimer = g.nextTimer := by
  intro g
  obtain ⟨halone, hgoverned⟩ := says_stopped_iff Polling.isFresh_sampleEdge
  obtain ⟨-, hsays, hnever, -⟩ := hgoverned stoppedDuringRequest .asked (by decide)
  exact ⟨(halone [.poll, readableStop] .asked (by decide)).2.mpr rfl, hsays.mpr rfl, by decide,
    hnever (Or.inr (Or.inr rfl))⟩

/-- An edge that is closed does not say that it is stopped. -/
theorem not_stopped_after_close :
    ¬ ∀ (p : Polling) (es : List Polling.Event) (x : Ending), p.IsFresh →
      p.firstEnding? es = some x → (p.run es).isStopped = true := by
  intro h
  exact nomatch h Polling.sampleEdge [.close] .closed Polling.isFresh_sampleEdge rfl

end FeatureFlags.Edge.Governed
