import Mathlib.Data.List.Perm.Basic
import FeatureFlags.Proofs.Polling.Queues

/-!
# Completion of futures

Every caller of a polling edge gets a future. Those who were answered and those who wait are,
each of them once, those who have come (`callers_run`): no event loses a caller or answers one
twice. An edge that never loses an answer is busy exactly while a request is under way, so that
without one everybody is answered.
-/

set_option autoImplicit false

namespace FeatureFlags.Edge.Polling

/-- The future that a caller gets. -/
def handedOut? (p : Polling) : Event → Option Ticket
  | .poll => some p.poll.2
  | .changeContext header sha => some (p.changeContext header sha).2
  | _ => none

/-- The futures that the callers in a run get. -/
def handedOut (p : Polling) : List Event → List Ticket
  | [] => []
  | e :: es => (p.handedOut? e).toList ++ (p.step e).handedOut es

/-- Whether no answer in a run is lost. -/
def neverLoses (p : Polling) : List Event → Bool
  | [] => true
  | e :: es => !p.loses e && (p.step e).neverLoses es

/-- The last event of a run adds its future to those that were handed out before. -/
theorem handedOut_concat (p : Polling) (es : List Event) (e : Event) :
    p.handedOut (es ++ [e]) = p.handedOut es ++ ((p.run es).handedOut? e).toList := by
  induction es generalizing p with
  | nil => simp [handedOut]
  | cons f es ih => simp [handedOut, ih, run]

/-- A run loses no answer if neither its last event nor those before do. -/
theorem neverLoses_concat (p : Polling) (es : List Event) (e : Event) :
    p.neverLoses (es ++ [e]) = (p.neverLoses es && !(p.run es).loses e) := by
  induction es generalizing p with
  | nil => simp [neverLoses]
  | cons f es ih => simp [neverLoses, ih, run, Bool.and_assoc]

/-! ### Callers -/

namespace Traffic

variable {t t' : Traffic} {e : Event} {ks : List Ticket}

/-- Those who have come: they were answered, or they wait. -/
def callers (t : Traffic) : List Ticket := t.answered ++ (t.waiting ++ t.followUp)

/-- The caller who comes with an event. -/
def caller? (t : Traffic) : Event → Option Ticket
  | .poll | .changeContext .. => some t.nextTicket
  | _ => none

/-- A caller gets the next ticket. -/
theorem caller?_of_isCall (h : e.IsCall) : t.caller? e = some t.nextTicket := by
  cases e with
  | poll | changeContext => rfl
  | _ => exact h.elim

/-- Without a caller there is no ticket. -/
theorem caller?_of_not_isCall (h : ¬ e.IsCall) : t.caller? e = none := by
  cases e with
  | poll | changeContext => exact absurd trivial h
  | _ => rfl

/-- Whoever enters is in no queue yet. -/
theorem callers_enter (t : Traffic) (e : Event) : (t.enter e).callers = t.callers := by
  unfold callers
  simp

/-- Those who waited for the request are answered, and those who wait for another one are left. -/
theorem callers_release (t : Traffic) : t.release.callers ++ t.followUp = t.callers := by
  unfold callers release
  simp

/-- Whoever waits is one more caller. -/
theorem callers_join (t : Traffic) (k : Ticket) : (t.join k).callers.Perm (t.callers ++ [k]) := by
  unfold callers join
  split
  · simp
  · simp only [List.append_assoc]
    exact (List.perm_append_comm.append_left _).append_left _

/-- Whoever finds no request under way waits for one or is answered. -/
theorem Checked.callers_perm (h : t.Checked ks t') : t'.callers.Perm (t.callers ++ ks) := by
  unfold callers
  cases h with
  | ask =>
    have hqueue : (t.waiting ++ ks ++ t.followUp).Perm (t.waiting ++ t.followUp ++ ks) := by
      simp only [List.append_assoc]
      exact List.perm_append_comm.append_left _
    rw [List.append_assoc]
    exact hqueue.append_left _
  | settle =>
    have hanswered : (t.answered ++ ks ++ (t.waiting ++ t.followUp)).Perm
        (t.answered ++ (t.waiting ++ t.followUp) ++ ks) := by
      simp only [List.append_assoc t.answered]
      exact List.perm_append_comm.append_left _
    exact hanswered

/-- The end of a request loses nobody. -/
theorem Finished.callers_perm (h : t.Finished t') : t'.callers.Perm t.callers := by
  rw [← callers_release t]
  cases h with
  | alone hfollow => rw [hfollow, List.append_nil]
  | again _ hc => exact hc.callers_perm

/-- An event adds the caller who comes with it. -/
theorem Moves.callers_perm (h : t.Moves e t') :
    t'.callers.Perm (t.callers ++ (t.caller? e).toList) := by
  have hsame : ¬ e.IsCall → t.callers ++ (t.caller? e).toList = t.callers := by
    intro hcall
    rw [caller?_of_not_isCall hcall, Option.toList_none, List.append_nil]
  cases h with
  | quiet hcall => rw [hsame hcall]
  | join hcall =>
    rw [caller?_of_isCall hcall, ← callers_enter t e]
    exact callers_join ..
  | check hcall _ hc =>
    rw [caller?_of_isCall hcall, ← callers_enter t e]
    exact hc.callers_perm
  | lose hanswer =>
    rw [hsame (Event.not_isCall_of_isAnswer hanswer)]
    exact .refl _
  | finish hanswer _ _ hf =>
    rw [hsame (Event.not_isCall_of_isAnswer hanswer)]
    exact hf.callers_perm
  | close hf =>
    rw [hsame not_false]
    exact hf.callers_perm

end Traffic

/-- The futures that are handed out are those of the callers. -/
theorem handedOut?_eq_caller? (p : Polling) (e : Event) :
    p.handedOut? e = p.traffic.caller? e := by
  cases e <;> rfl

/-- Those who were answered and those who wait are those who have come. -/
theorem callers_run (p : Polling) (events : List Event) :
    (p.run events).traffic.callers.Perm (p.traffic.callers ++ p.handedOut events) := by
  induction events using List.reverseRecOn with
  | nil => simp [handedOut]
  | append_singleton es e ih =>
    rw [run_concat, handedOut_concat, handedOut?_eq_caller?, ← List.append_assoc]
    exact (moves_step ..).callers_perm.trans (ih.append_right _)

/-- The futures are numbered in the order in which they were made. -/
theorem handedOut_eq_range' (p : Polling) (events : List Event) :
    p.handedOut events = List.range' p.traffic.nextTicket (p.handedOut events).length ∧
      (p.run events).traffic.nextTicket =
        p.traffic.nextTicket + (p.handedOut events).length := by
  induction events using List.reverseRecOn with
  | nil => exact ⟨rfl, rfl⟩
  | append_singleton es e ih =>
    obtain ⟨hrange, hnext⟩ := ih
    have hfront := congrArg Traffic.Front.nextTicket (moves_step (p.run es) e).front_eq
    rw [run_concat, handedOut_concat, handedOut?_eq_caller?]
    by_cases hcall : e.IsCall
    · have hticket : ((p.run es).step e).traffic.nextTicket =
          (p.run es).traffic.nextTicket + 1 := hfront.trans (Traffic.nextTicket_enter hcall)
      rw [Traffic.caller?_of_isCall hcall, hticket, hnext, Option.toList_some,
        List.length_append, List.length_singleton, List.range'_concat, ← hrange, Nat.one_mul]
      exact ⟨rfl, Nat.add_assoc ..⟩
    · have hticket : ((p.run es).step e).traffic.nextTicket = (p.run es).traffic.nextTicket := by
        refine hfront.trans ?_
        rw [Traffic.enter_of_not_isCall hcall]
        rfl
      rw [Traffic.caller?_of_not_isCall hcall, hticket, Option.toList_none, List.append_nil]
      exact ⟨hrange, hnext⟩

/-! ### Answers that are not lost -/

variable {p : Polling} {e : Event} {events : List Event}

/-- Only an answer that is lost leaves an edge hanging. -/
theorem not_isHung_step (h : ¬ p.traffic.IsHung) (hl : p.loses e = false) :
    ¬ (p.step e).traffic.IsHung := by
  have hanswer : ∀ q rest, e.IsAnswer → p.inFlight = q :: rest →
      ¬ (p.step e).traffic.IsHung := fun q rest he hi =>
    (finished_answer he hi hl).not_isHung
  have hm := moves_step p e
  generalize (p.step e).traffic = t' at hanswer hm
  cases hm with
  | quiet => exact h
  | join =>
    unfold Traffic.IsHung at h ⊢
    simpa using h
  | check _ hb hc => exact hc.not_isHung ((Traffic.isBusy_enter ..).trans hb)
  | lose he hi => exact hanswer _ _ he hi
  | finish _ _ _ hf => exact hf.not_isHung
  | close hf => exact hf.not_isHung

/-- Without a lost answer a run does not leave the edge hanging. -/
theorem not_isHung_run (hs : p.IsFresh) (hl : p.neverLoses events = true) :
    ¬ (p.run events).traffic.IsHung := by
  induction events using List.reverseRecOn with
  | nil =>
    obtain ⟨shared, edgeUrl, apiKeys, interval, isDelegated, rfl, -⟩ := hs
    exact fun hhung => nomatch hhung.1
  | append_singleton es e ih =>
    rw [neverLoses_concat, Bool.and_eq_true, Bool.not_eq_true'] at hl
    rw [run_concat]
    exact not_isHung_step (ih hl.1) hl.2

/-! ### One request at a time -/

/-- Before the first call all callers are answered. -/
theorem callers_of_isFresh (hs : p.IsFresh) : p.traffic.callers = p.traffic.answered := by
  obtain ⟨shared, edgeUrl, apiKeys, interval, isDelegated, rfl, -⟩ := hs
  simp [Traffic.callers, traffic, new]

/-- Nobody is among the callers of a run twice, or was answered before it. -/
theorem count_callers_run (hs : p.IsFresh) {k : Ticket} (hk : k ∈ p.handedOut events) :
    (p.run events).traffic.callers.count k = 1 := by
  have hrange := (handedOut_eq_range' p events).1
  have hnew : k ∉ p.traffic.answered := by
    intro hanswered
    rw [hrange, List.mem_range'_1] at hk
    exact Nat.lt_irrefl k (Nat.lt_of_lt_of_le (hs.orderly.answered_lt k hanswered) hk.1)
  have hnodup : (p.handedOut events).Nodup := by
    rw [hrange]
    exact List.nodup_range'
  rw [(callers_run p events).count_eq k, List.count_append, callers_of_isFresh hs,
    List.count_eq_zero_of_not_mem hnew, List.count_eq_one_of_mem hnodup hk]

/-- Without a request under way, everybody was answered by an edge that lost no answer. -/
theorem mem_answered_of_idle (hs : p.IsFresh) (hl : p.neverLoses events = true)
    (hi : (p.run events).inFlight = []) {k : Ticket} (hk : k ∈ p.handedOut events) :
    k ∈ (p.run events).traffic.answered := by
  have hidle : (p.run events).traffic.isBusy = false := by
    cases hb : (p.run events).traffic.isBusy with
    | false => rfl
    | true => exact absurd ⟨hb, hi⟩ (not_isHung_run hs hl)
  obtain ⟨-, hwaiting, hfollow⟩ := (orderly_run hs events).idle hidle
  have hcallers : (p.run events).traffic.callers = (p.run events).traffic.answered := by
    simp [Traffic.callers, hwaiting, hfollow]
  rw [← hcallers, (callers_run p events).mem_iff]
  exact List.mem_append_right _ hk

/-- At most one request is under way, nobody waits while the edge is not busy, and no future is
answered twice. As long as no answer is lost, the edge is busy exactly while a request is under
way, and without one every future is answered. -/
theorem single_flight (hs : p.IsFresh) :
    (p.run events).inFlight.length ≤ 1 ∧
      ((p.run events).isBusy = false →
        (p.run events).waiting = [] ∧ (p.run events).followUp = []) ∧
      (∀ k ∈ p.handedOut events,
        ((p.run events).shared.futures.answers.map Prod.fst).count k ≤ 1) ∧
      (p.neverLoses events = true →
        ((p.run events).isBusy = true ↔ (p.run events).inFlight ≠ []) ∧
        ((p.run events).inFlight = [] →
          ∀ k ∈ p.handedOut events, (p.run events).shared.futures.result? k ≠ none)) := by
  have horderly := orderly_run hs events
  refine ⟨horderly.single, fun hb => (horderly.idle hb).2, fun k hk => ?_, fun hl => ⟨?_, ?_⟩⟩
  · calc (p.run events).traffic.answered.count k
      _ ≤ (p.run events).traffic.callers.count k := (List.sublist_append_left ..).count_le k
      _ = 1 := count_callers_run hs hk
  · refine ⟨fun hb hi => not_isHung_run hs hl ⟨hb, hi⟩, fun hi => ?_⟩
    exact horderly.isBusy_of_inFlight hi
  · intro hi k hk
    rw [ne_eq, result?_eq_none_iff, Classical.not_not]
    exact mem_answered_of_idle hs hl hi hk

/-- Three callers of an edge that is asked again for another context, and closed. -/
theorem single_flight_until_close :
    let events := [.poll, sampleChange "a", sampleAnswer, .poll, .close]
    sampleEdge.handedOut events = [0, 1, 2] ∧ (sampleEdge.run events).sent.length = 2 ∧
      (sampleEdge.run events).inFlight.length ≤ 1 ∧
      (∀ k ∈ sampleEdge.handedOut events,
        ((sampleEdge.run events).shared.futures.answers.map Prod.fst).count k ≤ 1) ∧
      ∀ k ∈ sampleEdge.handedOut events,
        (sampleEdge.run events).shared.futures.result? k ≠ none := by
  intro events
  obtain ⟨hsingle, -, honce, hkept⟩ := @single_flight sampleEdge events isFresh_sampleEdge
  have hl : sampleEdge.neverLoses events = true := by decide
  exact ⟨by decide, by decide, hsingle, honce, (hkept hl).2 (by decide)⟩

end FeatureFlags.Edge.Polling
