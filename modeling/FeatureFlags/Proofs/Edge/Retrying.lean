import FeatureFlags.Edge.Retryer

/-!
# What a retryer keeps

A retryer hears of outcomes and configurations, and its waits come to an end one after the other.
It never resumes once it is stopped, and a wait is only removed when its reconnector is told
(`Heeds`). A retryer that still listens answers every outcome but a success: either no further
attempts are made, or there is a new wait (`isStopped_or_waits_report`).
-/

set_option autoImplicit false

namespace FeatureFlags.Edge

/-- Whether an outcome rules out further attempts. -/
def Outcome.IsTerminal (o : Outcome) : Prop := o = .apiKeyNotFound ∨ o = .failure

namespace Retryer

variable {ρ : Type}

/-- Whether a configuration says that a connection is of no use any more. -/
def IsStale (data : String) : Prop :=
  ∃ v, Json.ofText? data = some v ∧ (v.member? staleKey).isSome

/-- Whether a retryer that does not know a key is stopped, as it should be. -/
def IsConsistent (r : Retryer ρ) : Prop := r.isNotFound → r.isStopped

/-- A later state of a retryer, from which `me` was not told to reconnect in between. -/
structure Heeds (me : ρ) (r r' : Retryer ρ) : Prop where
  isClosed_eq : r'.isClosed = r.isClosed
  isStopped : r.isStopped → r'.isStopped
  isConsistent : r.IsConsistent → r'.IsConsistent
  waits : ∀ w ∈ r.waits, w.reconnector = me → w ∈ r'.waits

/-- A retryer that stays as it is has told nobody. -/
theorem Heeds.refl (me : ρ) (r : Retryer ρ) : Heeds me r r :=
  ⟨rfl, id, id, fun _ hw _ => hw⟩

/-! ### Outcomes -/

/-- A wait is added to those there are. -/
theorem heeds_reconnectAfter (me : ρ) {r r' : Retryer ρ} (h : Heeds me r r') (now : Instant)
    (d : Duration) (reconnector : ρ) : Heeds me r (r'.reconnectAfter now d reconnector) where
  isClosed_eq := h.isClosed_eq
  isStopped := h.isStopped
  isConsistent := h.isConsistent
  waits w hw hme := List.mem_append_left _ (h.waits w hw hme)

/-- Backing off adds a wait and loses none. -/
theorem heeds_backOff (me : ρ) (r : Retryer ρ) (now : Instant) (chances : Chance × Chance)
    (base : Duration) (reconnector : ρ) :
    Heeds me r (r.backOff now chances base reconnector) := by
  apply heeds_reconnectAfter
  exact ⟨rfl, id, id, fun _ hw _ => hw⟩

/-- An outcome that is reported loses no wait. -/
theorem heeds_report (me : ρ) (r : Retryer ρ) (now : Instant) (chances : Chance × Chance)
    (outcome : Outcome) (reconnector : ρ) :
    Heeds me r (r.report now chances outcome reconnector) := by
  unfold report
  split
  · exact .refl me r
  · cases outcome with
    | success => exact ⟨rfl, id, id, fun _ hw _ => hw⟩
    | apiKeyNotFound | failure =>
      exact ⟨rfl, fun _ => rfl, fun _ _ => rfl, fun _ hw _ => hw⟩
    | serverSaidBye => exact heeds_reconnectAfter me (.refl me r) now _ reconnector
    | serverWasDisconnected | serverReadTimeout | connectionFailure =>
      exact heeds_backOff me r now chances _ reconnector

/-- A consistent retryer that is neither stopped nor closed listens. -/
theorem isDeaf_eq_false {r : Retryer ρ} (hr : r.IsConsistent) (hs : r.isStopped = false)
    (hc : r.isClosed = false) : r.isDeaf = false := by
  have hn : r.isNotFound = false := by
    cases hn : r.isNotFound with
    | false => rfl
    | true => exact absurd (hr hn) (by simp [hs])
  simp [isDeaf, hn, hs, hc]

/-- After a terminal outcome a retryer is stopped, or it was closed before. -/
theorem isStopped_or_isClosed_report {r : Retryer ρ} (hr : r.IsConsistent) {outcome : Outcome}
    (ho : outcome.IsTerminal) (now : Instant) (chances : Chance × Chance) (reconnector : ρ) :
    (r.report now chances outcome reconnector).isStopped ∨
      (r.report now chances outcome reconnector).isClosed := by
  have hheeds := heeds_report reconnector r now chances outcome reconnector
  cases hs : r.isStopped with
  | true => exact .inl (hheeds.isStopped hs)
  | false =>
    cases hc : r.isClosed with
    | true => exact .inr (hheeds.isClosed_eq.trans hc)
    | false =>
      have hdeaf := isDeaf_eq_false hr hs hc
      rcases ho with rfl | rfl <;> exact .inl (by simp [report, hdeaf])

/-- No outcome but a success is passed over by a retryer that listens. -/
theorem isStopped_or_waits_report {r : Retryer ρ} (hr : r.isDeaf = false) {outcome : Outcome}
    (ho : outcome ≠ .success) (now : Instant) (chances : Chance × Chance) (reconnector : ρ) :
    (r.report now chances outcome reconnector).isStopped ∨
      ∃ w ∈ (r.report now chances outcome reconnector).waits, w.reconnector = reconnector := by
  cases outcome with
  | success => exact absurd rfl ho
  | apiKeyNotFound | failure => exact .inl (by simp [report, hr])
  | serverSaidBye | serverWasDisconnected | serverReadTimeout | connectionFailure =>
    exact .inr (by simp [report, hr, backOff, reconnectAfter])

/-! ### Configurations -/

/-- A configuration that calls the connection stale stops the retryer. -/
theorem isStopped_configure {data : String} (hdata : IsStale data) (r : Retryer ρ) :
    (r.configure data).isStopped := by
  obtain ⟨v, hv, hmember⟩ := hdata
  simp [configure, hv, hmember]

/-- A configuration loses no wait. -/
theorem heeds_configure (me : ρ) (r : Retryer ρ) (data : String) :
    Heeds me r (r.configure data) := by
  unfold configure
  split
  · split
    · exact ⟨rfl, fun _ => rfl, fun _ _ => rfl, fun _ hw _ => hw⟩
    · exact .refl me r
  · exact .refl me r

/-! ### Waits that are over -/

/-- Where a wait is over somebody is told to reconnect. -/
theorem exists_takeDue? {r : Retryer ρ} {w : Wait ρ} (hw : w ∈ r.waits) {now : Instant}
    (hdue : w.due.hasCome now) :
    ∃ reconnector r', r.takeDue? now = some (reconnector, r') := by
  unfold takeDue?
  split
  next hnone => exact absurd hdue (List.find?_eq_none.mp hnone w hw)
  next v _ => exact ⟨v.reconnector, _, rfl⟩

/-- The wait that is over is the only thing that a retryer loses. -/
theorem waits_of_takeDue? {r r' : Retryer ρ} {now : Instant} {reconnector : ρ}
    (h : r.takeDue? now = some (reconnector, r')) :
    ∃ before w after, r.waits = before ++ w :: after ∧ w.reconnector = reconnector ∧
      r' = { r with waits := before ++ after } := by
  unfold takeDue? at h
  split at h
  · cases h
  next w hw =>
    obtain ⟨hdue, before, after, hwaits, hbefore⟩ := List.find?_eq_some_iff_append.mp hw
    have herase : r.waits.eraseP (fun w => w.due.hasCome now) = before ++ after := by
      rw [hwaits, List.eraseP_append_right _ (by simpa using hbefore)]
      simp [hdue]
    rw [herase] at h
    cases h
    exact ⟨before, w, after, hwaits, rfl, rfl⟩

/-- The end of the wait of one loses no wait of another. -/
theorem heeds_of_takeDue? {me : ρ} {r r' : Retryer ρ} {now : Instant} {reconnector : ρ}
    (h : r.takeDue? now = some (reconnector, r')) (hne : reconnector ≠ me) : Heeds me r r' := by
  obtain ⟨before, w, after, hwaits, hw, rfl⟩ := waits_of_takeDue? h
  refine ⟨rfl, id, id, fun v hv hme => ?_⟩
  have hvw : v ≠ w := by
    rintro rfl
    exact hne (hw.symm.trans hme)
  simpa [hwaits, hvw] using hv

end Retryer

end FeatureFlags.Edge
