import FeatureFlags.Proofs.Governor.Flag

/-!
# Activities that nobody interrupts

Where nothing else is going on, an activity goes on step by step until it has ended or waits. The
equations say what these steps make of an open governor: whoever polls starts a task, the task
makes its request, and when the request has ended and nothing was queued, it sets a timer.
-/

set_option autoImplicit false

namespace FeatureFlags.Edge.Governed

variable {σ : Type} [Edge σ]

/-- What a task that sets a timer makes of a governor. -/
def rescheduled (g : Governed σ) : Governed σ :=
  { g with
    inner := (Edge.interval g.inner).1
    timer := some g.nextTimer
    timers := g.timers ++ [g.upcoming]
    nextTimer := g.nextTimer + 1 }

variable [Eventful σ] {g g₁ : Governed σ}

/-- One run after the other is a run. -/
theorem run_append (g : Governed σ) (moves later : List (Move σ)) :
    g.run (moves ++ later) = (g.run moves).run later := List.foldl_append

omit [Eventful σ] in
/-- A step when nothing else is going on. -/
theorem stepAt_zero {a : Activity} {next : Option Activity}
    (h : (g.withActivities [a]).advance a = some (g₁.withActivities [a], next)) :
    (g.withActivities [a]).stepAt 0 = some (g₁.withActivities next.toList) := by
  have hplace : (g.withActivities [a]).activities[0]? = some a := rfl
  rw [stepAt, hplace]
  simp only [h]
  cases next <;> rfl

/-- The first of some steps when nothing else is going on. -/
theorem run_next {a next : Activity} (n : Nat)
    (h : (g.withActivities [a]).advance a = some (g₁.withActivities [a], some next)) :
    (g.withActivities [a]).run (List.replicate (n + 1) (.advance 0)) =
      (g₁.withActivities [next]).run (List.replicate n (.advance 0)) := by
  show ((g.withActivities [a]).move (.advance 0)).run _ = _
  rw [move, stepAt_zero h]
  rfl

/-- The last step when nothing else is going on. -/
theorem run_last {a : Activity}
    (h : (g.withActivities [a]).advance a = some (g₁.withActivities [a], none)) :
    (g.withActivities [a]).run (List.replicate 1 (.advance 0)) = g₁.withActivities [] := by
  show (g.withActivities [a]).move (.advance 0) = _
  rw [move, stepAt_zero h]
  rfl

/-- Whoever polls while nothing is going on starts the task of a request. -/
theorem run_poll_of_idle (ha : g.activities = []) (hb : g.isBusy = false)
    (hc : g.isClosed = false) :
    g.run (.poll :: List.replicate 4 (.advance 0)) =
      { { g.handOut.1 with isBusy := true }.cancelTimer with
        activities := [.launch .poll [g.handOut.2]] } := by
  simp [run, move, start, List.replicate, stepAt, advance, handOut, cancelTimer, ha, hb, hc]

/-- A task makes its request. -/
theorem run_launch {job : Job} {waiters : List Ticket}
    (ha : g.activities = [.launch job waiters]) (hc : g.isClosed = false) :
    g.run [.advance 0] =
      { g with
        inner := (g.call job).1.inner
        activities := [.await (g.call job).2 waiters] } := by
  cases job <;> simp [run, move, stepAt, advance, call, ha, hc]

/-- At the end of a request those who waited for it are answered. If nothing was queued, the task
goes on to set a timer. -/
theorem run_await {answer : Ticket} {waiters : List Ticket} {r : Readiness}
    (ha : g.activities = [.await answer waiters]) (hb : g.isBusy = true)
    (hc : g.isClosed = false) (hr : result? g.inner answer = some r) (hq : g.queued = none) :
    g.run (List.replicate 7 (.advance 0)) =
      { g.answer waiters r with isBusy := false }.withActivities [.schedule] := by
  have hg : g = g.withActivities [.await answer waiters] := by
    rw [← ha]
    rfl
  have hfinish : (g.withActivities [.await answer waiters]).advance (.await answer waiters) =
      some (g.withActivities [.await answer waiters], some (.finish r waiters)) := by
    simp [advance, withActivities, hc, hr]
  have hlock : (({ g with isBusy := false }.answer waiters r).withActivities
      [.lock true]).advance (.lock true) =
      some ((g.answer waiters r).withActivities [.lock true], some (.take true)) := by
    rw [advance, if_neg (by exact Bool.false_ne_true)]
    simp [withActivities, Governed.answer, modifyFutures, Governed.modifyShared, hb]
  have htake : ((g.answer waiters r).withActivities [.take true]).advance (.take true) =
      some ((g.answer waiters r).withActivities [.take true], some (.unlock true)) := by
    simp [advance, withActivities, Governed.answer, modifyFutures, Governed.modifyShared, hq]
  have hrecheck : ({ g.answer waiters r with isBusy := false }.withActivities
      [.recheck true]).advance (.recheck true) =
      some ({ g.answer waiters r with isBusy := false }.withActivities [.recheck true],
        some .schedule) := by
    simp [advance, withActivities, Governed.answer, modifyFutures, Governed.modifyShared, hq]
  exact calc g.run (List.replicate 7 (.advance 0))
      = (g.withActivities [.await answer waiters]).run (List.replicate 7 (.advance 0)) :=
        congrArg (fun g' : Governed σ => g'.run (List.replicate 7 (.advance 0))) hg
    _ = (g.withActivities [.finish r waiters]).run (List.replicate 6 (.advance 0)) :=
        run_next 6 hfinish
    _ = ({ g with isBusy := false }.withActivities [.tell r waiters]).run
          (List.replicate 5 (.advance 0)) := run_next 5 rfl
    _ = (({ g with isBusy := false }.answer waiters r).withActivities [.lock true]).run
          (List.replicate 4 (.advance 0)) := run_next 4 rfl
    _ = ((g.answer waiters r).withActivities [.take true]).run
          (List.replicate 3 (.advance 0)) := run_next 3 hlock
    _ = ((g.answer waiters r).withActivities [.unlock true]).run
          (List.replicate 2 (.advance 0)) := run_next 2 htake
    _ = ({ g.answer waiters r with isBusy := false }.withActivities [.recheck true]).run
          (List.replicate 1 (.advance 0)) := run_next 1 rfl
    _ = { g.answer waiters r with isBusy := false }.withActivities [.schedule] :=
        run_next 0 hrecheck

/-- A task that sets a timer remembers it. -/
theorem run_schedule (hc : g.isClosed = false) (h : asksAgain g.inner = true) :
    (g.withActivities [.schedule]).run (List.replicate 2 (.advance 0)) =
      g.rescheduled.withActivities [] := by
  have hschedule : (g.withActivities [.schedule]).advance .schedule =
      some ({ g.rescheduled with timer := g.timer }.withActivities [.schedule],
        some (.keepTimer (some g.nextTimer))) := by
    simp only [asksAgain, Bool.and_eq_true, Bool.not_eq_true'] at h
    simp [advance, schedule, withActivities, rescheduled, upcoming, h, hc]
  calc (g.withActivities [.schedule]).run (List.replicate 2 (.advance 0))
      = ({ g.rescheduled with timer := g.timer }.withActivities
          [.keepTimer (some g.nextTimer)]).run (List.replicate 1 (.advance 0)) :=
        run_next 1 hschedule
    _ = g.rescheduled.withActivities [] := run_last rfl

end FeatureFlags.Edge.Governed
