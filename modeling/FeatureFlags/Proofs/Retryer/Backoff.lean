import FeatureFlags.Edge.Streaming
import FeatureFlags.Proofs.Retryer.Runs

/-!
# How long a retryer waits

After a connection was lost, was silent for too long or was not made, a retryer backs off: it
waits for at least the base of the delay and the present multiplier, but never for longer than the
settings allow (`le_delay`, `delay_le_maximumDelay`), and the multiplier grows
(`le_nextMultiplier`). Only a success takes it back. All numbers stay within 64 bits, however
often the multiplier grows (`lengthen_lt`).

A retryer that is deaf neither waits nor changes its multiplier. So a success takes the multiplier
back to the settings unless the retryer was stopped before.
-/

set_option autoImplicit false

namespace FeatureFlags

/-! ### Settings -/

/-- Whether the settings from which delays are made are numbers of 64 bits. -/
structure RetrySettings.IsRepresentable (s : RetrySettings) : Prop where
  /-- The multiplier is a number of 64 bits. -/
  multiplier_lt : s.multiplier < Nat.pow 2 64
  /-- The longest delay is a duration. -/
  maximumDelay_le : s.maximumDelay.nanoseconds ≤ Duration.greatest.nanoseconds

/-- A number that is read has 64 bits. -/
theorem lt_of_natural64? {cs : List Char} {n : Nat} (h : natural64? cs = some n) :
    n < Nat.pow 2 64 := by
  simp only [natural64?, Option.ite_none_left_eq_some, Option.ite_none_right_eq_some] at h
  obtain ⟨-, hlt, hn⟩ := h
  exact Option.some.inj hn ▸ hlt

/-- Milliseconds of 64 bits are not beyond the greatest duration. -/
theorem ofMillis_le_greatest {n : Nat} (h : n < Nat.pow 2 64) :
    (Duration.ofMillis n).nanoseconds ≤ Duration.greatest.nanoseconds := by
  have hnanos : (Duration.ofMillis n).nanoseconds ≤ (Nat.pow 2 64 - 1) * Duration.nanosPerMilli :=
    Nat.mul_le_mul_right _ (Nat.le_sub_one_of_lt h)
  exact Nat.le_trans hnanos (by decide)

/-- A setting that variables give is a number of 64 bits. -/
theorem RetrySettings.lt_of_setting? {vars : Variables} {setting : String} {n : Nat}
    (h : setting? vars setting = some n) : n < Nat.pow 2 64 := by
  obtain ⟨name, -, hname⟩ := List.exists_of_findSome?_eq_some h
  obtain ⟨text, -, htext⟩ := Option.bind_eq_some_iff.mp hname
  exact lt_of_natural64? htext

/-- Whatever the variables say, the settings are representable. -/
theorem RetrySettings.isRepresentable_ofVariables (vars : Variables) :
    (ofVariables vars).IsRepresentable where
  multiplier_lt := by
    show (setting? vars "backoff-multiplier").getD standard.multiplier < Nat.pow 2 64
    cases h : setting? vars "backoff-multiplier" with
    | none => decide
    | some n => exact lt_of_setting? h
  maximumDelay_le := by
    show (((setting? vars "maximum-backoff-ms").map Duration.ofMillis).getD
      standard.maximumDelay).nanoseconds ≤ _
    cases h : setting? vars "maximum-backoff-ms" with
    | none => decide
    | some n => exact ofMillis_le_greatest (lt_of_setting? h)

namespace Edge

/-! ### Delays -/

/-- A lengthened multiplier has 64 bits. -/
theorem lengthen_lt (chance : Chance) (n : Nat) : lengthen chance n < Nat.pow 2 64 :=
  Nat.lt_of_le_of_lt (Nat.min_le_right _ _) (by decide)

/-- Chance only lengthens. -/
theorem le_lengthen (chance : Chance) {n : Nat} (hn : n < Nat.pow 2 64) :
    n ≤ lengthen chance n := by
  have hpos : 0 < chance.den := Nat.zero_lt_of_lt chance.num_lt_den
  have hproduct : n ≤ (chance.den + chance.num) * n / chance.den := by
    rw [Nat.le_div_iff_mul_le hpos, Nat.mul_comm]
    exact Nat.mul_le_mul_right n (Nat.le_add_right _ _)
  have hbound : n ≤ Nat.pow 2 64 - 1 := Nat.le_sub_one_of_lt hn
  exact Nat.le_min.mpr ⟨hproduct, hbound⟩

/-- The next multiplier has 64 bits. -/
theorem nextMultiplier_lt (chance : Chance) (n : Nat) : nextMultiplier chance n < Nat.pow 2 64 :=
  Nat.max_lt.mpr ⟨lengthen_lt chance n, by decide⟩

/-- The next multiplier is three at least. -/
theorem three_le_nextMultiplier (chance : Chance) (n : Nat) : 3 ≤ nextMultiplier chance n :=
  Nat.le_max_right _ _

/-- A multiplier does not become smaller. -/
theorem le_nextMultiplier (chance : Chance) {n : Nat} (hn : n < Nat.pow 2 64) :
    n ≤ nextMultiplier chance n :=
  Nat.le_trans (le_lengthen chance hn) (Nat.le_max_left _ _)

/-- No wait is longer than the settings allow. -/
theorem delay_le_maximumDelay (settings : RetrySettings) (chance : Chance) (base : Duration)
    (multiplier : Nat) :
    (delay settings chance base multiplier).nanoseconds ≤ settings.maximumDelay.nanoseconds :=
  Nat.min_le_right _ _

/-- A delay is not shorter than its base and the multiplier together, unless it is the longest. -/
theorem le_delay {settings : RetrySettings} (hs : settings.IsRepresentable) (chance : Chance)
    (base : Duration) {multiplier : Nat} (hm : multiplier < Nat.pow 2 64) :
    min settings.maximumDelay.nanoseconds
        (base.nanoseconds + (Duration.ofMillis multiplier).nanoseconds) ≤
      (delay settings chance base multiplier).nanoseconds := by
  have hmillis : (Duration.ofMillis multiplier).nanoseconds ≤
      (Duration.ofMillis (lengthen chance multiplier)).nanoseconds :=
    Nat.mul_le_mul_right _ (le_lengthen chance hm)
  have hmaximum := hs.maximumDelay_le
  show _ ≤ min (min (base.nanoseconds +
      (Duration.ofMillis (lengthen chance multiplier)).nanoseconds)
    Duration.greatest.nanoseconds) settings.maximumDelay.nanoseconds
  omega

/-- The base of the delay after an outcome that makes a retryer back off. -/
def Outcome.base? (settings : RetrySettings) : Outcome → Option Duration
  | .serverWasDisconnected => some settings.disconnectDelay
  | .serverReadTimeout => some settings.streamReadTimeout
  | .connectionFailure => some settings.connectTimeout
  | _ => none

namespace Retryer

variable {ρ : Type}

/-! ### Backing off -/

/-- A retryer waits for some time, and its multiplier has grown. -/
structure BacksOff (r : Retryer ρ) (base : Duration) (now : Instant) (reconnector : ρ)
    (r' : Retryer ρ) (d : Duration) : Prop where
  /-- There is one more wait. -/
  waits_eq : r'.waits = r.waits ++ [⟨now.after d, reconnector⟩]
  /-- It is not longer than the settings allow. -/
  le_maximumDelay : d.nanoseconds ≤ r.settings.maximumDelay.nanoseconds
  /-- It is not shorter than the base and the multiplier together, unless it is the longest. -/
  le_delay : min r.settings.maximumDelay.nanoseconds
    (base.nanoseconds + (Duration.ofMillis r.multiplier).nanoseconds) ≤ d.nanoseconds
  /-- It is a duration. -/
  le_greatest : d.nanoseconds ≤ Duration.greatest.nanoseconds
  /-- The multiplier is at least three. -/
  three_le_multiplier : 3 ≤ r'.multiplier
  /-- The multiplier has not become less. -/
  multiplier_le : r.multiplier ≤ r'.multiplier
  /-- The multiplier is a number of 64 bits. -/
  multiplier_lt : r'.multiplier < Nat.pow 2 64

/-- A retryer that hears of an outcome with a base delay backs off. -/
theorem report_of_base? {r : Retryer ρ} (hr : r.isDeaf = false) {outcome : Outcome}
    {base : Duration} (hbase : outcome.base? r.settings = some base) (now : Instant)
    (chances : Chance × Chance) (reconnector : ρ) :
    r.report now chances outcome reconnector = r.backOff now chances base reconnector := by
  unfold report
  rw [hr, if_neg Bool.false_ne_true]
  cases outcome with
  | serverWasDisconnected | serverReadTimeout | connectionFailure =>
    rw [← Option.some.inj hbase]
  | _ => exact nomatch hbase

/-- Backing off waits for the delay, and lengthens the next one. -/
theorem backsOff_backOff {r : Retryer ρ} (hs : r.settings.IsRepresentable)
    (hm : r.multiplier < Nat.pow 2 64) (now : Instant) (chances : Chance × Chance) (base : Duration)
    (reconnector : ρ) :
    BacksOff r base now reconnector (r.backOff now chances base reconnector)
      (delay r.settings chances.1 base r.multiplier) where
  waits_eq := rfl
  le_maximumDelay := delay_le_maximumDelay ..
  le_delay := Edge.le_delay hs chances.1 base hm
  le_greatest := Nat.le_trans (delay_le_maximumDelay ..) hs.maximumDelay_le
  three_le_multiplier := three_le_nextMultiplier ..
  multiplier_le := le_nextMultiplier chances.2 hm
  multiplier_lt := nextMultiplier_lt ..

/-! ### The multiplier -/

/-- Whether an event is a success. -/
def Event.IsSuccess : Event ρ → Prop
  | .report _ _ .success _ => True
  | _ => False

/-- What an outcome makes of the multiplier. -/
theorem multiplier_report (r : Retryer ρ) (now : Instant) (chances : Chance × Chance)
    (outcome : Outcome) (reconnector : ρ) :
    (r.report now chances outcome reconnector).multiplier =
      if r.isDeaf then r.multiplier
      else if outcome = .success then r.settings.multiplier
      else if (outcome.base? r.settings).isSome then nextMultiplier chances.2 r.multiplier
      else r.multiplier := by
  unfold report
  split
  · rfl
  · cases outcome <;> rfl

/-- Every step keeps the multiplier in 64 bits. -/
theorem multiplier_lt_step {r : Retryer ρ} (hs : r.settings.IsRepresentable)
    (hm : r.multiplier < Nat.pow 2 64) (e : Event ρ) : (r.step e).multiplier < Nat.pow 2 64 := by
  have hturn := r.turn_step e
  generalize r.step e = r', r.told? e = told at hturn
  cases hturn with
  | report =>
    rw [multiplier_report]
    split
    · exact hm
    · split
      · exact hs.multiplier_lt
      · split
        · exact nextMultiplier_lt ..
        · exact hm
  | _ => exact hm

/-- Every run keeps the multiplier in 64 bits. -/
theorem multiplier_lt_run {r : Retryer ρ} (hs : r.settings.IsRepresentable)
    (hm : r.multiplier < Nat.pow 2 64) (events : List (Event ρ)) :
    (r.run events).multiplier < Nat.pow 2 64 := by
  induction events using List.reverseRecOn with
  | nil => exact hm
  | append_singleton events e ih =>
    rw [run_concat]
    exact multiplier_lt_step (by rwa [settings_run]) ih e

/-- Nothing but a success makes the multiplier less. -/
theorem multiplier_le_step {r : Retryer ρ} (hm : r.multiplier < Nat.pow 2 64) {e : Event ρ}
    (he : ¬ e.IsSuccess) : r.multiplier ≤ (r.step e).multiplier := by
  have hturn := r.turn_step e
  generalize r.step e = r', r.told? e = told at hturn
  cases hturn with
  | @report now chances outcome reconnector =>
    have hsuccess : outcome ≠ .success := by
      rintro rfl
      exact he trivial
    rw [multiplier_report, if_neg hsuccess]
    split
    · exact Nat.le_refl _
    · split
      · exact le_nextMultiplier _ hm
      · exact Nat.le_refl _
  | _ => exact Nat.le_refl _

/-- Without a success the multiplier does not become smaller. -/
theorem multiplier_le_run {r : Retryer ρ} (hs : r.settings.IsRepresentable)
    (hm : r.multiplier < Nat.pow 2 64) {later : List (Event ρ)}
    (hlater : ∀ e ∈ later, ¬ e.IsSuccess) :
    r.multiplier ≤ (r.run later).multiplier := by
  induction later generalizing r with
  | nil => exact Nat.le_refl _
  | cons e later ih =>
    obtain ⟨he, hrest⟩ := List.forall_mem_cons.mp hlater
    have hsettings : (r.step e).settings.IsRepresentable := (r.turn_step e).settings_eq ▸ hs
    exact Nat.le_trans (multiplier_le_step hm he)
      (ih hsettings (multiplier_lt_step hs hm e) hrest)

/-! ### All outcomes -/

/-- Whatever happens to a retryer and however delays are lengthened: after an outcome that makes
it back off, it waits for no longer than the settings allow, and for no less than the base and the
present multiplier together; the multiplier is at least three then, becomes less with a success
only, and stays within 64 bits. With a success it is that of the settings again, and with a goodbye
it stays as it is. A retryer that is stopped passes over all outcomes, so that a success does
not take its multiplier back. -/
theorem backs_off_within {settings : RetrySettings} (hs : settings.IsRepresentable)
    (events : List (Event ρ)) :
    let r := (new settings).run events
    r.multiplier < Nat.pow 2 64 ∧
      (∀ now chances outcome reconnector,
        let r' := r.step (.report now chances outcome reconnector)
        (r.isStopped = true → r' = r) ∧
          (r.isStopped = false → ∀ base, outcome.base? settings = some base →
            ∃ d, BacksOff r base now reconnector r' d) ∧
          (r.isStopped = false → outcome = .success → r'.multiplier = settings.multiplier) ∧
          (outcome = .serverSaidBye → r'.multiplier = r.multiplier)) ∧
      ∀ later, (∀ e ∈ later, ¬ e.IsSuccess) → r.multiplier ≤ (r.run later).multiplier := by
  intro r
  have hsettings : r.settings = settings := settings_run ..
  have hrepresentable : r.settings.IsRepresentable := hsettings ▸ hs
  have hdeaf : r.isDeaf = r.isStopped := isDeaf_run settings events
  have hlt : r.multiplier < Nat.pow 2 64 :=
    multiplier_lt_run (r := new settings) hs hs.multiplier_lt events
  refine ⟨hlt, fun now chances outcome reconnector => ⟨?_, ?_, ?_, ?_⟩,
    fun later => multiplier_le_run hrepresentable hlt⟩
  · intro hstopped
    exact report_of_isDeaf (hdeaf.trans hstopped) now chances outcome reconnector
  · intro hstopped base hbase
    rw [← hsettings] at hbase
    rw [step, report_of_base? (hdeaf.trans hstopped) hbase]
    exact ⟨_, backsOff_backOff hrepresentable hlt now chances base reconnector⟩
  · rintro hstopped rfl
    rw [step, multiplier_report, hdeaf, hstopped, ← hsettings]
    rfl
  · rintro rfl
    rw [step, multiplier_report]
    split <;> rfl

/-! ### Samples -/

/-- A connection is lost, and the time comes for another one. -/
def sampleLoss : List (Event Reconnector) :=
  [.report ⟨0⟩ (.half, .half) .serverWasDisconnected .edge, .wake (.after ⟨0⟩ (.ofMillis 15))]

/-- When there is no other connection, the retryer waits for the time in which there was none and
for the multiplier that has grown once. -/
theorem backs_off_after_loss :
    let r := (new .standard).run sampleLoss
    RetrySettings.standard.IsRepresentable ∧ r.multiplier = 15 ∧
      ∃ d, BacksOff r (.ofMillis 5000) ⟨0⟩ .edge
        (r.step (.report ⟨0⟩ (.half, .half) .connectionFailure .edge)) d := by
  intro r
  have hs : RetrySettings.standard.IsRepresentable := ⟨by decide, by decide⟩
  obtain ⟨-, houtcome, -⟩ := backs_off_within hs sampleLoss
  exact ⟨hs, by decide,
    (houtcome ⟨0⟩ (.half, .half) .connectionFailure .edge).2.1 (by decide) _ rfl⟩

/-- A retryer that is stopped does not hear of a success. -/
theorem success_unheard_when_stopped :
    ¬ ∀ (settings : RetrySettings) (events : List (Event Reconnector)) (now : Instant)
        (chances : Chance × Chance) (reconnector : Reconnector), settings.IsRepresentable →
      (((new settings).run events).step (.report now chances .success reconnector)).multiplier =
        settings.multiplier := by
  intro h
  have hs : RetrySettings.standard.IsRepresentable := ⟨by decide, by decide⟩
  have hreset := h .standard (sampleLoss ++ [.report ⟨0⟩ (.half, .half) .failure .edge]) ⟨0⟩
    (.half, .half) .edge hs
  exact absurd hreset (by decide)

end Retryer

end Edge

end FeatureFlags
