import FeatureFlags.Proofs.Streaming.Connections

/-!
# Somebody always looks after the connection

Once a connection was ever made, there is one until the edge is over, or else there is a wait for
the next one (`Line.IsAttended`). Every end of a connection is reported, and a retryer that listens
passes over nothing but a success; a wait that finds a connection is lost, but then there is that
connection; and whoever gives up a connection makes another one at once.

A wait for the edge is more than a promise: once its time has come, the edge connects before more
waits are over than there are (`exists_wakes`).
-/

set_option autoImplicit false

namespace FeatureFlags.Edge.Streaming

/-- Whether nothing is to be connected, or something is or will be. -/
def Line.IsAttended (l : Line) : Prop :=
  l.isOver ∨ l.opened = [] ∨ l.current.isSome ∨ ∃ w ∈ l.retryer.waits, w.reconnector = .edge

/-- Whoever asks for a connection leaves none to be looked after. -/
theorem isAttended_connect (s : Streaming) : s.connect.1.line.IsAttended := by
  rw [line_connect]
  split
  next hguard =>
    rcases Bool.or_eq_true_iff.mp hguard with hover | hcurrent
    · exact .inl hover
    · exact .inr (.inr (.inl hcurrent))
  next => exact .inr (.inr (.inl rfl))

/-- The end of a connection is not passed over. -/
theorem isAttended_conclude {s : Streaming} (h : s.line.IsSound) (generation : Nat)
    {outcome : Outcome} (houtcome : outcome ≠ .success) (chances : Chance × Chance) :
    (s.conclude generation outcome chances).line.IsAttended := by
  have hheeds := Retryer.heeds_report .edge s.retryer s.shared.now chances outcome .edge
  rw [line_conclude]
  cases hover : s.line.isOver with
  | true => exact .inl (isOver_heed hover hheeds)
  | false =>
    obtain ⟨hclosed, hstopped⟩ := Bool.or_eq_false_iff.mp hover
    have hdeaf : s.retryer.isDeaf = false :=
      Retryer.isDeaf_eq_false h.isConsistent hstopped (h.isClosed_eq.trans hclosed)
    rcases Retryer.isStopped_or_waits_report hdeaf houtcome s.shared.now chances .edge with
      hstopped | hwaits
    · exact .inl (Bool.or_eq_true_iff.mpr (.inr hstopped))
    · exact .inr (.inr (.inr hwaits))

/-- A line stays attended whatever its retryer hears of. -/
theorem isAttended_heed {s : Streaming} (h : s.line.IsAttended) {r : Retryer Reconnector}
    (hheeds : s.retryer.Heeds .edge r) : { s with retryer := r }.line.IsAttended := by
  rcases h with hover | hopened | hcurrent | ⟨w, hw, hedge⟩
  · exact .inl (isOver_heed hover hheeds)
  · exact .inr (.inl hopened)
  · exact .inr (.inr (.inl hcurrent))
  · exact .inr (.inr (.inr ⟨w, hheeds.waits w hw hedge, hedge⟩))

/-- Every move keeps the line attended. -/
theorem isAttended_move {s s' : Streaming} (hmove : Move s s') (hsound : s.line.IsSound)
    (h : s.line.IsAttended) : s'.line.IsAttended := by
  cases hmove with
  | keep hline => rwa [hline]
  | connect => exact isAttended_connect s
  | redirect header => exact isAttended_connect _
  | noteBye generation => exact h
  | conclude generation chances houtcome =>
    exact isAttended_conclude hsound generation houtcome chances
  | heed hheeds => exact isAttended_heed h hheeds
  | wake hdue => exact isAttended_connect _
  | close => exact .inl (isOver_close s)

/-- In every run the line is attended. -/
theorem isAttended_run (shared : Shared) (url : String) (isServerEvaluated : Bool)
    (settings : RetrySettings) (acts : List Act) :
    ((new shared url isServerEvaluated settings).run acts).line.IsAttended := by
  have hboth := preserved_run (P := fun s => s.line.IsSound ∧ s.line.IsAttended)
    (fun _ _ hmove h => ⟨isSound_move hmove h.1, isAttended_move hmove h.1 h.2⟩)
    ⟨isSound_new shared url isServerEvaluated settings, .inr (.inl rfl)⟩ acts
  exact hboth.2

/-- An edge that was ever connected is connected until it is over, or waits for another
connection. -/
theorem connected_or_waiting (shared : Shared) (url : String) (isServerEvaluated : Bool)
    (settings : RetrySettings) (acts : List Act) :
    let s := (new shared url isServerEvaluated settings).run acts
    s.opened ≠ [] → s.isClosed = false → s.retryer.isStopped = false →
      (∃ c ∈ s.connections, s.current = some c.generation) ∨
        ∃ w ∈ s.retryer.waits, w.reconnector = .edge := by
  intro s hopened hclosed hstopped
  have hsound : s.line.IsSound := isSound_run (isSound_new ..) acts
  rcases isAttended_run shared url isServerEvaluated settings acts with
    hover | hnone | hcurrent | hwaits
  · exact absurd hover (Bool.eq_false_iff.mp (Bool.or_eq_false_iff.mpr ⟨hclosed, hstopped⟩))
  · exact absurd hnone hopened
  · exact .inl (hsound.exists_of_isSome hcurrent)
  · exact .inr hwaits

/-- A connection that breaks is followed by a wait. -/
theorem waiting_after_break :
    let acts : List Act := [.poll, .finish 1 .broken (.half, .half)]
    let s := (new .new "" false .standard).run acts
    s.connections = [] ∧ ∃ w ∈ s.retryer.waits, w.reconnector = .edge := by
  intro acts s
  have hconnections : s.connections = [] := by decide
  refine ⟨hconnections, ?_⟩
  rcases connected_or_waiting .new "" false .standard acts (by decide) rfl rfl with
    ⟨c, hc, -⟩ | hwaits
  · exact absurd hc (by simp [s, hconnections])
  · exact hwaits

/-! ### What a wait is good for -/

/-- Unless the edge is over, there is a connection after somebody has asked for one. -/
theorem isSome_current_connect {s : Streaming} (hover : s.line.isOver = false) :
    s.connect.1.current.isSome := by
  show s.connect.1.line.current.isSome
  rw [line_connect, hover, Bool.false_or]
  split
  next hcurrent => exact hcurrent
  next => rfl

/-- An edge whose time to connect has come is connected before all waits are over. -/
theorem exists_wakes {s : Streaming} (hover : s.line.isOver = false) {w : Wait Reconnector}
    (hw : w ∈ s.retryer.waits) (hedge : w.reconnector = .edge)
    (hdue : w.due.hasCome s.shared.now) :
    ∃ n ≤ s.retryer.waits.length, (s.run (List.replicate n .wake)).current.isSome := by
  -- Each wake takes one of the waits that are due, and may have to take those of others first.
  induction hlength : s.retryer.waits.length generalizing s with
  | zero =>
    rw [List.length_eq_zero_iff.mp hlength] at hw
    cases hw
  | succ k ih =>
    obtain ⟨reconnector, r, htake⟩ := Retryer.exists_takeDue? hw hdue
    obtain ⟨before, v, after, hwaits, -, hr⟩ := Retryer.waits_of_takeDue? htake
    cases reconnector with
    | edge =>
      refine ⟨1, Nat.le_add_left 1 k, ?_⟩
      have hwake : s.wake = { s with retryer := r }.connect.1 := by
        unfold wake
        rw [htake]
      show s.wake.current.isSome
      rw [hwake]
      exact isSome_current_connect (by rw [hr]; exact hover)
    | counter =>
      have hwake : s.wake = { s with retryer := r } := by
        unfold wake
        rw [htake]
      have hheeds : s.retryer.Heeds .edge r := Retryer.heeds_of_takeDue? htake (by decide)
      have hkept : w ∈ r.waits := hheeds.waits w hw hedge
      have hfewer : r.waits.length = k := by
        rw [hwaits, List.length_append, List.length_cons] at hlength
        rw [hr, List.length_append]
        omega
      obtain ⟨n, hn, hcurrent⟩ :=
        ih (s := { s with retryer := r }) (by rw [hr]; exact hover) hkept hdue hfewer
      refine ⟨n + 1, Nat.succ_le_succ hn, ?_⟩
      show (s.wake.run (List.replicate n .wake)).current.isSome
      rwa [hwake]

end FeatureFlags.Edge.Streaming
