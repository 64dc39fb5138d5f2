import Mathlib.Data.List.Induction
import FeatureFlags.Proofs.Edge.Retrying

/-!
# Runs of a retryer

Outcomes are reported to a retryer, configurations arrive, and its waits end one after the other.
Each of these is an `Event`, a run is a list of them, and `told` are those who are told to
reconnect in a run. Times are part of the events, and nothing is asked of them.

Apart from what an outcome leads to, little can come of an event: a configuration can stop a
retryer, and a wait can end, so that somebody is told to reconnect. `Turn` says so, with one rule
for each way in which an event can go.
-/

set_option autoImplicit false

namespace FeatureFlags.Edge.Retryer

/-- What can happen to a retryer. -/
inductive Event (ρ : Type) where
  /-- An outcome is reported. -/
  | report (now : Instant) (chances : Chance × Chance) (outcome : Outcome) (reconnector : ρ)
  /-- A configuration arrives. -/
  | configure (data : String)
  /-- The first of the waits ends that are due. -/
  | wake (now : Instant)

variable {ρ : Type}

/-- What one event makes of a retryer. -/
def step (r : Retryer ρ) : Event ρ → Retryer ρ
  | .report now chances outcome reconnector => r.report now chances outcome reconnector
  | .configure data => r.configure data
  | .wake now => ((r.takeDue? now).map Prod.snd).getD r

/-- What a run makes of a retryer. -/
def run (r : Retryer ρ) (events : List (Event ρ)) : Retryer ρ := events.foldl step r

/-- No events leave a retryer as it is. -/
@[simp] theorem run_nil (r : Retryer ρ) : r.run [] = r := rfl

/-- A run begins with its first event. -/
@[simp] theorem run_cons (r : Retryer ρ) (e : Event ρ) (events : List (Event ρ)) :
    r.run (e :: events) = (r.step e).run events := rfl

/-- A run ends with its last event. -/
@[simp] theorem run_concat (r : Retryer ρ) (events : List (Event ρ)) (e : Event ρ) :
    r.run (events ++ [e]) = (r.run events).step e := by
  simp [run]

/-- Whom an event tells to reconnect. -/
def told? (r : Retryer ρ) : Event ρ → Option ρ
  | .wake now => (r.takeDue? now).map Prod.fst
  | _ => none

/-- Those who are told to reconnect in a run, in order. -/
def told (r : Retryer ρ) : List (Event ρ) → List ρ
  | [] => []
  | e :: events => (r.told? e).toList ++ (r.step e).told events

/-- What a retryer tells in a run that is cut is what it tells in both pieces. -/
theorem told_append (r : Retryer ρ) (events later : List (Event ρ)) :
    r.told (events ++ later) = r.told events ++ (r.run events).told later := by
  induction events generalizing r with
  | nil => rfl
  | cons e events ih => simp [told, ih, List.append_assoc]

/-! ### What an event can lead to -/

/-- What an event makes of a retryer, and whom it tells to reconnect. -/
inductive Turn (r : Retryer ρ) : Event ρ → Retryer ρ → Option ρ → Prop
  /-- The retryer acts on an outcome. -/
  | report {now : Instant} {chances : Chance × Chance} {outcome : Outcome} {reconnector : ρ} :
    Turn r (.report now chances outcome reconnector) (r.report now chances outcome reconnector) none
  /-- A configuration is of no concern. -/
  | ignore {data : String} : Turn r (.configure data) r none
  /-- A configuration stops the retryer. -/
  | stop {data : String} : Turn r (.configure data) { r with isStopped := true } none
  /-- No wait is due. -/
  | sleep {now : Instant} : Turn r (.wake now) r none
  /-- A wait ends. -/
  | wake {now : Instant} {before after : List (Wait ρ)} {w : Wait ρ}
    (h : r.waits = before ++ w :: after) :
    Turn r (.wake now) { r with waits := before ++ after } (some w.reconnector)

/-- Every step is a turn. -/
theorem turn_step (r : Retryer ρ) (e : Event ρ) : r.Turn e (r.step e) (r.told? e) := by
  cases e with
  | report => exact .report
  | configure data =>
    show r.Turn _ (r.configure data) none
    unfold configure
    split
    · split
      · exact .stop
      · exact .ignore
    · exact .ignore
  | wake now =>
    show r.Turn _ (((r.takeDue? now).map Prod.snd).getD r) ((r.takeDue? now).map Prod.fst)
    cases hdue : r.takeDue? now with
    | none => exact .sleep
    | some p =>
      obtain ⟨before, w, after, hwaits, hw, hr⟩ := waits_of_takeDue? hdue
      rw [Option.map_some, Option.map_some, Option.getD_some, hr, ← hw]
      exact .wake hwaits

section Turn

variable {r r' : Retryer ρ} {e : Event ρ} {told : Option ρ}

/-- No turn changes the settings. -/
theorem Turn.settings_eq (h : r.Turn e r' told) : r'.settings = r.settings := by
  cases h with
  | report =>
    unfold Retryer.report
    split
    · rfl
    · split <;> rfl
  | _ => rfl

/-- No turn closes a retryer or opens it. -/
theorem Turn.isClosed_eq (h : r.Turn e r' told) : r'.isClosed = r.isClosed := by
  cases h with
  | @report now chances outcome reconnector =>
    exact (heeds_report reconnector r now chances outcome reconnector).isClosed_eq
  | _ => rfl

/-- Every turn keeps a retryer consistent. -/
theorem Turn.isConsistent (h : r.Turn e r' told) (hr : r.IsConsistent) : r'.IsConsistent := by
  cases h with
  | @report now chances outcome reconnector =>
    exact (heeds_report reconnector r now chances outcome reconnector).isConsistent hr
  | stop => exact fun _ => rfl
  | _ => exact hr

end Turn

/-- The settings are those from the start. -/
@[simp] theorem settings_run (r : Retryer ρ) (events : List (Event ρ)) :
    (r.run events).settings = r.settings := by
  induction events generalizing r with
  | nil => rfl
  | cons e events ih => rw [run_cons, ih, (r.turn_step e).settings_eq]

/-- A retryer that nobody closes is deaf exactly if it is stopped. -/
theorem isDeaf_run (settings : RetrySettings) (events : List (Event ρ)) :
    ((new settings).run events).isDeaf = ((new settings).run events).isStopped := by
  have hkept : ((new settings).run events).IsConsistent ∧
      ((new settings).run events).isClosed = false := by
    induction events using List.reverseRecOn with
    | nil => exact ⟨fun h => absurd h Bool.false_ne_true, rfl⟩
    | append_singleton events e ih =>
      have hturn := turn_step ((new settings).run events) e
      rw [run_concat, hturn.isClosed_eq]
      exact ⟨hturn.isConsistent ih.1, ih.2⟩
  cases hs : ((new settings).run events).isStopped with
  | false => exact isDeaf_eq_false hkept.1 hs hkept.2
  | true => simp [isDeaf, hs]

/-- A retryer that is deaf passes over all outcomes. -/
theorem report_of_isDeaf {r : Retryer ρ} (h : r.isDeaf = true) (now : Instant)
    (chances : Chance × Chance) (outcome : Outcome) (reconnector : ρ) :
    r.report now chances outcome reconnector = r := by
  unfold report
  exact if_pos h

end FeatureFlags.Edge.Retryer
