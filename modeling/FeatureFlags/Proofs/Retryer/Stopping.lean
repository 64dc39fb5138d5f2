import FeatureFlags.Edge.Streaming
import FeatureFlags.Proofs.Retryer.Runs

/-!
# Retryers that are stopped

A retryer is stopped when the server does not know the key, when it refuses to serve the client,
or by a configuration. Nothing that is reported afterwards makes a difference. But the waits that
there are go on, and whoever waits is told to reconnect when the time has come: of those who were
waiting, each is told once or still waits (`IsWinding.told_perm`).

The main statement is that nobody is told to reconnect after a stop exactly if nobody was waiting.
-/

set_option autoImplicit false

namespace FeatureFlags.Edge.Retryer

variable {ρ : Type}

/-- What comes of a stopped retryer, when some were told to reconnect in between. -/
structure IsWinding (r r' : Retryer ρ) (told : List ρ) : Prop where
  /-- Only the waits have changed. -/
  eq : r' = { r with waits := r'.waits }
  /-- Whoever was waiting was told, or is still waiting, and nobody else. -/
  told_perm : (told ++ r'.waits.map Wait.reconnector).Perm (r.waits.map Wait.reconnector)

/-- A retryer that has stopped hears nothing. -/
theorem isDeaf_of_isStopped {r : Retryer ρ} (h : r.isStopped = true) : r.isDeaf = true := by
  simp [isDeaf, h]

namespace IsWinding

variable {r r' r'' : Retryer ρ} {told more : List ρ}

/-- A retryer that stays as it is winds up. -/
theorem refl (r : Retryer ρ) : IsWinding r r [] := ⟨rfl, .refl _⟩

/-- A retryer that winds up stays stopped. -/
theorem isStopped (h : IsWinding r r' told) (hr : r.isStopped = true) : r'.isStopped = true := by
  rw [h.eq]
  exact hr

/-- Winding up goes on. -/
theorem trans (h : IsWinding r r' told) (h' : IsWinding r' r'' more) :
    IsWinding r r'' (told ++ more) where
  eq := by
    rw [h'.eq, h.eq]
  told_perm := by
    rw [List.append_assoc]
    exact (h'.told_perm.append_left told).trans h.told_perm

end IsWinding

/-- All that an event can do to a stopped retryer is to end one of the waits. -/
theorem isWinding_step {r : Retryer ρ} (hr : r.isStopped = true) (e : Event ρ) :
    IsWinding r (r.step e) (r.told? e).toList := by
  have hturn := r.turn_step e
  generalize r.step e = r', r.told? e = told at hturn
  cases hturn with
  | report =>
    rw [report_of_isDeaf (isDeaf_of_isStopped hr)]
    exact .refl r
  | stop => exact ⟨by rw [← hr], .refl _⟩
  | ignore | sleep => exact .refl r
  | wake hwaits =>
    refine ⟨rfl, ?_⟩
    simp only [hwaits, List.map_append, List.map_cons, Option.toList_some, List.singleton_append]
    exact List.perm_middle.symm

/-- In every run a retryer that has stopped winds up. -/
theorem isWinding_run {r : Retryer ρ} (hr : r.isStopped = true) (later : List (Event ρ)) :
    IsWinding r (r.run later) (r.told later) := by
  induction later generalizing r with
  | nil => exact .refl r
  | cons e later ih =>
    have hstep := isWinding_step hr e
    exact hstep.trans (ih (hstep.isStopped hr))

/-- Whoever waits is told at some time. -/
theorem exists_told {r : Retryer ρ} (h : r.waits ≠ []) : ∃ later, r.told later ≠ [] := by
  obtain ⟨w, waits, hwaits⟩ := List.exists_cons_of_ne_nil h
  have hdue : w.due.hasCome w.due = true := decide_eq_true (Nat.le_refl _)
  obtain ⟨reconnector, r', htake⟩ :=
    exists_takeDue? (w := w) (hwaits ▸ List.mem_cons_self) hdue
  exact ⟨[.wake w.due], by simp [told, told?, htake]⟩

/-- Once a retryer is stopped, nobody is told to reconnect any more exactly if there is no wait at
that time. Otherwise those who were waiting are told when their time has come, once each, and
nobody else; apart from the waits that end, nothing changes. -/
theorem tells_nobody_iff (settings : RetrySettings) (events : List (Event ρ)) :
    let r := (new settings).run events
    r.isStopped = true →
      ((∀ later, (new settings).told (events ++ later) = (new settings).told events) ↔
          r.waits = []) ∧
        ∀ later, r.run later = { r with waits := (r.run later).waits } ∧
          (r.told later ++ (r.run later).waits.map Wait.reconnector).Perm
            (r.waits.map Wait.reconnector) := by
  intro r hr
  have hwinding := isWinding_run hr
  refine ⟨?_, fun later => ⟨(hwinding later).eq, (hwinding later).told_perm⟩⟩
  simp only [told_append, List.append_right_eq_self]
  constructor
  · intro hsilent
    by_contra hwaits
    obtain ⟨later, htold⟩ := exists_told hwaits
    exact htold (hsilent later)
  · intro hwaits later
    have hperm := (hwinding later).told_perm
    rw [hwaits, List.map_nil, List.perm_nil] at hperm
    exact List.append_eq_nil_iff.mp hperm |>.1

/-! ### Samples -/

/-- A connection is lost, for which there is another one, and then the server rejects the key. -/
def sampleRejection : List (Event Reconnector) :=
  [.report ⟨0⟩ (.half, .half) .serverWasDisconnected .edge, .wake (.after ⟨0⟩ (.ofMillis 15)),
    .report ⟨0⟩ (.half, .half) .apiKeyNotFound .edge]

/-- After the rejection nobody is told to reconnect, whatever happens. -/
theorem silent_after_rejection :
    let r := (new .standard).run sampleRejection
    r.isStopped = true ∧ r.waits = [] ∧
      ∀ later, (new .standard).told (sampleRejection ++ later) = [.edge] := by
  intro r
  have hstopped : r.isStopped = true := by decide
  have hwaits : r.waits = [] := by decide
  have hsilent := (tells_nobody_iff .standard sampleRejection hstopped).1.mpr hwaits
  have htold : (new .standard).told sampleRejection = [.edge] := by decide
  exact ⟨hstopped, hwaits, fun later => (hsilent later).trans htold⟩

/-- The server says goodbye, and refuses to serve the client before the time to reconnect has
come. -/
def sampleGoodbye : List (Event Reconnector) :=
  [.report ⟨0⟩ (.half, .half) .serverSaidBye .edge, .report ⟨0⟩ (.half, .half) .failure .edge]

/-- A retryer with a wait is stopped, and reconnects nonetheless. -/
theorem reconnects_after_failure :
    ¬ ∀ (settings : RetrySettings) (events later : List (Event Reconnector)),
      ((new settings).run events).isStopped = true →
        (new settings).told (events ++ later) = (new settings).told events := by
  intro h
  let settings : RetrySettings := { RetrySettings.standard with goodbyeDelay := .ofMillis 2000 }
  have hsilent := h settings sampleGoodbye [.wake (.after ⟨0⟩ (.ofMillis 2000))] (by decide)
  exact absurd hsilent (by decide)

end FeatureFlags.Edge.Retryer
