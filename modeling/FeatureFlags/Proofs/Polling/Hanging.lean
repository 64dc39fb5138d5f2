import FeatureFlags.Proofs.Polling.Retirement

/-!
# Answers that leave an edge hanging

An answer with features says how long it may be kept, with up to 64 bits of seconds, and the clock
counts fewer. If the clock cannot represent the instant at which an answer expires, the answer is
lost: the features are taken, but nobody gets to the end of the request. The edge stays busy without
a request under way, so that it asks nothing and answers nobody until it is closed
(`stays_hung_run`).

The main statement is that every other answer ends its request, and which times the clock can
represent.
-/

set_option autoImplicit false

namespace FeatureFlags

/-! ### Times that headers give -/

/-- The whole seconds since the start of the clock. -/
def Instant.seconds (t : Instant) : Nat := t.nanoseconds / Duration.nanosPerSecond

/-- The clock gets as far as it can count. -/
theorem Instant.isSome_after?_ofSeconds (t : Instant) (n : Nat) :
    (t.after? (.ofSeconds n)).isSome = true ↔ t.seconds + n ≤ maxSeconds := by
  have hsum : (t.nanoseconds + n * Duration.nanosPerSecond) / Duration.nanosPerSecond =
      t.seconds + n := Nat.add_mul_div_right _ _ (by decide)
  unfold after? Duration.ofSeconds
  simp only [hsum]
  split <;> simp [*]

namespace Edge

/-- Some seconds are not no time. -/
theorem isZero_ofSeconds {n : Nat} (h : 0 < n) : (Duration.ofSeconds n).isZero = false := by
  have hpos : 0 < n * Duration.nanosPerSecond := Nat.mul_pos h (by decide)
  simpa [Duration.isZero, Duration.ofSeconds] using Nat.ne_of_gt hpos

/-- A header gives some time, or none. -/
theorem isZero_of_maxAge? {header : String} {d : Duration} (h : maxAge? header = some d) :
    d.isZero = false := by
  unfold maxAge? at h
  split at h
  · obtain ⟨hpos, hd⟩ := Option.ite_none_right_eq_some.mp h
    rw [← Option.some.inj hd]
    exact isZero_ofSeconds hpos
  · exact nomatch h

namespace Polling

/-- The time that the header of an answer gives is not zero, so that an edge that keeps answers
goes on doing so. -/
theorem isZero_of_cacheControl {response : Response} {d : Duration}
    (h : response.cacheControl.bind maxAge? = some d) : d.isZero = false := by
  obtain ⟨header, -, hheader⟩ := Option.bind_eq_some_iff.mp h
  exact isZero_of_maxAge? hheader

/-- An answer can be kept for a time that its header gives if the clock can count so far. -/
theorem canKeep_iff_of_maxAge? {p : Polling} {response : Response} {n : Nat}
    (h : response.cacheControl.bind maxAge? = some (.ofSeconds n)) :
    p.canKeep response = true ↔ p.shared.now.seconds + n ≤ Instant.maxSeconds := by
  have hkeeping : p.keeping response = .ofSeconds n := by simp [keeping, h]
  unfold canKeep
  rw [hkeeping, isZero_of_cacheControl h, Bool.false_or]
  exact Instant.isSome_after?_ofSeconds ..

/-! ### Edges that hang -/

namespace Traffic

variable {t t' : Traffic} {e : Event}

/-- Until it is closed, an edge that hangs sends nothing, answers nobody and goes on hanging. -/
theorem IsHung.of_moves (h : t.IsHung) (hm : t.Moves e t') (hclose : e ≠ .close) :
    t'.IsHung ∧ t'.sent = t.sent ∧ t'.answered = t.answered := by
  cases hm with
  | quiet => exact ⟨h, rfl, rfl⟩
  | join =>
    unfold IsHung at h ⊢
    simpa using h
  | check _ hb => exact absurd (h.1.symm.trans hb) Bool.noConfusion
  | lose _ hi | finish _ hi => exact absurd (h.2.symm.trans hi) (by simp)
  | close => exact absurd rfl hclose

/-- When an edge that hangs is closed, its requests are over. -/
theorem IsHung.isOver_of_close (h : t.IsHung) (hm : t.Moves .close t') :
    (t'.IsHung ∨ t'.IsOver) ∧ t'.sent = t.sent := by
  cases hm with
  | quiet => exact ⟨Or.inl h, rfl⟩
  | join hcall | check hcall => exact hcall.elim
  | lose hanswer | finish hanswer => exact hanswer.elim
  | close hf =>
    obtain ⟨hover, hsent⟩ := hf.isOver rfl rfl
    exact ⟨Or.inr hover, hsent⟩

end Traffic

/-- An edge that hangs goes on hanging until it is closed: it sends nothing and answers nobody. -/
theorem stays_hung_run {p : Polling} (h : p.traffic.IsHung) {events : List Event}
    (hclose : .close ∉ events) :
    (p.run events).traffic.IsHung ∧ (p.run events).sent = p.sent ∧
      (p.run events).traffic.answered = p.traffic.answered := by
  induction events using List.reverseRecOn with
  | nil => exact ⟨h, rfl, rfl⟩
  | append_singleton es e ih =>
    rw [List.mem_append, List.mem_singleton, not_or] at hclose
    obtain ⟨hhung, hsent, hanswered⟩ := ih hclose.1
    obtain ⟨hhung', hsent', hanswered'⟩ := hhung.of_moves (moves_step _ e) (Ne.symm hclose.2)
    rw [run_concat]
    exact ⟨hhung', hsent'.trans hsent, hanswered'.trans hanswered⟩

/-- Closed or not, an edge that hangs sends nothing. -/
theorem sent_run_of_hung {p : Polling} (h : p.traffic.IsHung) (events : List Event) :
    (p.run events).sent = p.sent := by
  have hsilent : ((p.run events).traffic.IsHung ∨ (p.run events).traffic.IsOver) ∧
      (p.run events).sent = p.sent := by
    induction events using List.reverseRecOn with
    | nil => exact ⟨Or.inl h, rfl⟩
    | append_singleton es e ih =>
      obtain ⟨hhung | hover, hsent⟩ := ih <;> rw [run_concat]
      · by_cases hclose : e = .close
        · subst hclose
          obtain ⟨hend, hsent'⟩ := hhung.isOver_of_close (moves_step _ .close)
          exact ⟨hend, hsent'.trans hsent⟩
        · obtain ⟨hstill, hsent', -⟩ := hhung.of_moves (moves_step _ e) hclose
          exact ⟨Or.inl hstill, hsent'.trans hsent⟩
      · obtain ⟨hover', hsent', -⟩ := hover.of_moves (moves_step _ e)
        exact ⟨Or.inr hover', hsent'.trans hsent⟩
  exact hsilent.2

section Respond

variable {p : Polling} {q : Request} {rest : List Request} {response : Response}

/-- A lost answer leaves an edge hanging, and nobody is answered. -/
theorem isHung_of_lost (ho : p.traffic.Orderly) (hi : p.inFlight = q :: rest)
    (hl : p.isLost response = true) :
    (p.step (.respond response)).traffic.IsHung ∧
      (p.step (.respond response)).traffic.answered = p.traffic.answered := by
  have hloses := (loses_respond hi).trans hl
  have hbusy : (p.step (.respond response)).traffic.isBusy = true := isBusy_of_lost ho hi hloses
  refine ⟨⟨hbusy, ?_⟩, ?_⟩ <;> rw [traffic_of_lost hi hloses]
  exact ho.rest_eq_nil hi

/-- An answer that is not lost ends the request, and those who waited for it are answered. -/
theorem ends_of_kept (hi : p.inFlight = q :: rest) (hl : p.isLost response = false) :
    ¬ (p.step (.respond response)).traffic.IsHung ∧
      ∀ k ∈ p.waiting, k ∈ (p.step (.respond response)).traffic.answered := by
  have hfinished := finished_answer (e := .respond response) trivial hi
    ((loses_respond hi).trans hl)
  exact ⟨hfinished.not_isHung, fun k hk => hfinished.mem_answered hk⟩

end Respond

/-- An answer ends its request, so that the edge is not left busy without one and those who waited
are answered, exactly if it brings no features or the clock can represent the instant at which it
expires. For a time that the header gives this is the case if the clock can count so many seconds
from now. Otherwise the edge is busy until it is closed, sends nothing, and answers nobody, those
who come later included. -/
theorem ends_request_iff {p : Polling} (hs : p.IsFresh) (events : List Event)
    (response : Response) :
    let before := p.run events
    let after := before.step (.respond response)
    before.inFlight ≠ [] →
      (((after.isBusy = true → after.inFlight ≠ []) ∧
          ∀ k ∈ before.waiting, after.shared.futures.result? k ≠ none) ↔
        ((delivered? response).isSome = true → before.canKeep response = true)) ∧
      (∀ n, response.cacheControl.bind maxAge? = some (.ofSeconds n) →
        (before.canKeep response = true ↔
          before.shared.now.seconds + n ≤ Instant.maxSeconds)) ∧
      ((delivered? response).isSome = true → before.canKeep response = false →
        ∀ later, .close ∉ later →
          (after.run later).isBusy = true ∧ (after.run later).sent = before.sent ∧
            ∀ k, before.shared.futures.result? k = none →
              (after.run later).shared.futures.result? k = none) := by
  intro before after hi
  have horderly : before.traffic.Orderly := orderly_run hs events
  obtain ⟨q, rest, hflight⟩ := List.exists_cons_of_ne_nil hi
  -- the answer is lost if it would be kept until a time that the clock cannot represent
  have hlost : before.isLost response = true ↔
      ¬ ((delivered? response).isSome = true → before.canKeep response = true) := by
    simp [isLost]
  refine ⟨?_, fun n hn => canKeep_iff_of_maxAge? hn, fun hd hk later hclose => ?_⟩
  · cases hl : before.isLost response with
    | true =>
      refine iff_of_false (fun hends => ?_) (hlost.mp hl)
      obtain ⟨hbusy, hnil⟩ := (isHung_of_lost horderly hflight hl).1
      exact hends.1 hbusy hnil
    | false =>
      obtain ⟨hhung, hanswered⟩ := ends_of_kept hflight hl
      refine iff_of_true ⟨fun hbusy hnil => hhung ⟨hbusy, hnil⟩, fun k hk => ?_⟩ ?_
      · rw [ne_eq, result?_eq_none_iff, Classical.not_not]
        exact hanswered k hk
      · exact Classical.not_not.mp (mt hlost.mpr (Bool.not_eq_true _ ▸ hl))
  · have hl : before.isLost response = true := by simp [isLost, hd, hk]
    obtain ⟨hhung, hanswered⟩ := isHung_of_lost horderly hflight hl
    obtain ⟨hhung', hsent', hanswered'⟩ := stays_hung_run hhung hclose
    have hsent : after.sent = before.sent :=
      congrArg Traffic.sent (traffic_of_lost hflight ((loses_respond hflight).trans hl))
    refine ⟨hhung'.1, hsent'.trans hsent, fun k hopen => ?_⟩
    rw [result?_eq_none_iff] at hopen ⊢
    rw [hanswered', hanswered]
    exact hopen

/-! ### Samples -/

/-- An answer that is to be kept for some seconds. -/
def sampleKept (seconds : String) : Response :=
  ⟨200, some ("max-age=" ++ seconds), none, [0x5B, 0x5D]⟩

/-- From the start of the clock an answer can be kept for as long as the clock can count. -/
theorem ends_request_at_clock_limit :
    let response := sampleKept "9223372036854775807"
    let after := (sampleEdge.run [.poll]).step (.respond response)
    (sampleEdge.run [.poll]).inFlight ≠ [] ∧ (sampleEdge.run [.poll]).waiting = [0] ∧
      after.isBusy = false ∧ after.shared.futures.result? 0 ≠ none := by
  intro response after
  have hi : (sampleEdge.run [.poll]).inFlight ≠ [] := by decide
  obtain ⟨hends, hkeep, -⟩ := ends_request_iff isFresh_sampleEdge [.poll] response hi
  have hmaxAge : response.cacheControl.bind maxAge? = some (.ofSeconds 9223372036854775807) := by
    decide +kernel
  have hkept := (hkeep 9223372036854775807 hmaxAge).mpr (by decide +kernel)
  obtain ⟨hbusy, hanswered⟩ := hends.mpr fun _ => hkept
  have hidle : after.inFlight = [] := by decide +kernel
  refine ⟨hi, by decide, ?_, hanswered 0 (by decide)⟩
  exact Bool.not_eq_true _ ▸ fun h => hbusy h hidle

/-- One second more, and the edge hangs. -/
theorem clock_overflow_hangs :
    ¬ ∀ (p : Polling) (events : List Event) (response : Response), p.IsFresh →
      let before := p.run events
      let after := before.step (.respond response)
      before.inFlight ≠ [] → (after.isBusy = true → after.inFlight ≠ []) ∧
        ∀ k ∈ before.waiting, after.shared.futures.result? k ≠ none := by
  intro h
  have hends := h sampleEdge [.poll] (sampleKept "9223372036854775808") isFresh_sampleEdge
    (by decide)
  exact hends.1 (by decide +kernel) (by decide +kernel)

end Polling

end Edge

end FeatureFlags
