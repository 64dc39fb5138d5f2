import Mathlib.Data.List.Induction
import Mathlib.Data.List.Nodup
import FeatureFlags.Proofs.Polling.Moves

/-!
# The queues of a polling edge

At most one request is under way, callers wait only while the edge is busy, and nobody waits who
was answered before. These facts about the traffic are kept by every event (`Orderly.of_moves`),
so that they hold after every run of an edge that starts afresh (`orderly_run`).
-/

set_option autoImplicit false

namespace FeatureFlags.Edge.Polling

namespace Traffic

/-- Whether the queues are in order. -/
structure Orderly (t : Traffic) : Prop where
  /-- At most one request is under way. -/
  single : t.inFlight.length ≤ 1
  /-- Without a request under way, nobody waits. -/
  idle : t.isBusy = false → t.inFlight = [] ∧ t.waiting = [] ∧ t.followUp = []
  /-- Whoever changed the context since the last request waits for the next one. -/
  changed : t.headerChanged = true → t.followUp ≠ []
  /-- Nobody waits twice. -/
  nodup : (t.waiting ++ t.followUp).Nodup
  /-- Those who wait have come, and were not answered. -/
  pending : ∀ k ∈ t.waiting ++ t.followUp, k < t.nextTicket ∧ k ∉ t.answered
  /-- Those who were answered have come. -/
  answered_lt : ∀ k ∈ t.answered, k < t.nextTicket

/-- Whether an answer was lost, and nothing will be asked any more. -/
def IsHung (t : Traffic) : Prop := t.isBusy = true ∧ t.inFlight = []

/-- Each caller takes one ticket. -/
theorem nextTicket_enter {t : Traffic} {e : Event} (h : e.IsCall) :
    (t.enter e).nextTicket = t.nextTicket + 1 := by
  cases e with
  | poll | changeContext => rfl
  | _ => exact h.elim

namespace Orderly

variable {t t' : Traffic} {e : Event}

/-- The edge is busy while a request is under way. -/
theorem isBusy_of_inFlight (h : t.Orderly) (hi : t.inFlight ≠ []) : t.isBusy = true := by
  cases hb : t.isBusy with
  | true => rfl
  | false => exact absurd (h.idle hb).1 hi

/-- No second request is under way. -/
theorem rest_eq_nil (h : t.Orderly) {q : Request} {rest : List Request}
    (hi : t.inFlight = q :: rest) : rest = [] := by
  have hlength := h.single
  rw [hi, List.length_cons] at hlength
  exact List.eq_nil_of_length_eq_zero (by omega)

/-- Without a request under way, no change of the context is outstanding. -/
theorem headerChanged_of_idle (h : t.Orderly) (hb : t.isBusy = false) :
    t.headerChanged = false := by
  cases hh : t.headerChanged with
  | false => rfl
  | true => exact absurd (h.idle hb).2.2 (h.changed hh)

/-- Callers who find no request under way form the only queue. -/
theorem of_checked {ks : List Ticket}
    (hi : t.inFlight = [] ∧ t.waiting = [] ∧ t.followUp = []) (hn : ks.Nodup)
    (hk : ∀ k ∈ ks, k < t.nextTicket ∧ k ∉ t.answered)
    (ha : ∀ k ∈ t.answered, k < t.nextTicket) (hc : t.Checked ks t') : t'.Orderly := by
  obtain ⟨hflight, hwaiting, hfollow⟩ := hi
  cases hc with
  | ask =>
    have hqueue : t.waiting ++ ks ++ t.followUp = ks := by simp [hwaiting, hfollow]
    constructor
    case single => simp [Traffic.ask, hflight]
    case idle => simp [Traffic.ask]
    case changed => simp [Traffic.ask]
    case nodup => exact hqueue.symm ▸ hn
    case pending => exact fun k hmem => hk k (hqueue ▸ hmem)
    case answered_lt => exact ha
  | settle =>
    have hqueue : t.waiting ++ t.followUp = [] := by simp [hwaiting, hfollow]
    constructor
    case single => simp [Traffic.settle, hflight]
    case idle => exact fun _ => ⟨hflight, hwaiting, hfollow⟩
    case changed => simp [Traffic.settle]
    case nodup => exact hqueue.symm ▸ List.nodup_nil
    case pending =>
      intro k hmem
      exact absurd (hqueue ▸ hmem : k ∈ []) List.not_mem_nil
    case answered_lt =>
      intro k hmem
      rcases List.mem_append.mp hmem with hmem | hmem
      · exact ha k hmem
      · exact (hk k hmem).1

/-- When a request ends, those who waited for it are gone. -/
theorem of_finished (h : t.Orderly) {may : Bool}
    (hf : Finished { t with inFlight := [], canRequest := may } t') : t'.Orderly := by
  have hanswered : ∀ k ∈ t.answered ++ t.waiting, k < t.nextTicket := by
    intro k hmem
    rcases List.mem_append.mp hmem with hmem | hmem
    · exact h.answered_lt k hmem
    · exact (h.pending k (List.mem_append_left _ hmem)).1
  cases hf with
  | alone hfollow =>
    constructor
    case single => exact Nat.zero_le 1
    case idle => exact fun _ => ⟨rfl, rfl, rfl⟩
    case changed => exact fun hh => absurd hfollow (h.changed hh)
    case nodup => exact List.nodup_nil
    case pending => intro k hmem; exact absurd hmem List.not_mem_nil
    case answered_lt => exact hanswered
  | again _ hc =>
    obtain ⟨-, hn, hdisjoint⟩ := List.nodup_append.mp h.nodup
    refine of_checked ⟨rfl, rfl, rfl⟩ hn (fun k hk => ?_) hanswered hc
    have hpending := h.pending k (List.mem_append_right _ hk)
    refine ⟨hpending.1, fun hmem => ?_⟩
    rcases List.mem_append.mp hmem with hmem | hmem
    · exact hpending.2 hmem
    · exact hdisjoint k hmem k hk rfl

/-- The next caller is nobody who waits or was answered. -/
theorem newcomer (h : t.Orderly) {ks : List Ticket}
    (hks : ks.Perm (t.nextTicket :: (t.waiting ++ t.followUp))) :
    ks.Nodup ∧ ∀ k ∈ ks, k < t.nextTicket + 1 ∧ k ∉ t.answered := by
  have hnew : t.nextTicket ∉ t.waiting ++ t.followUp := fun hmem =>
    Nat.lt_irrefl _ (h.pending _ hmem).1
  refine ⟨hks.nodup_iff.mpr (List.nodup_cons.mpr ⟨hnew, h.nodup⟩), fun k hmem => ?_⟩
  rcases List.mem_cons.mp (hks.mem_iff.mp hmem) with rfl | hk
  · exact ⟨Nat.lt_succ_self _, fun hmem => Nat.lt_irrefl _ (h.answered_lt _ hmem)⟩
  · exact ⟨Nat.lt_succ_of_lt (h.pending k hk).1, (h.pending k hk).2⟩

/-- A caller may join either queue. -/
theorem of_join (h : t.Orderly) (he : e.IsCall) (hb : t.isBusy = true) :
    ((t.enter e).join t.nextTicket).Orderly := by
  have hticket := @nextTicket_enter t e he
  have hlt : ∀ k ∈ t.answered, k < t.nextTicket + 1 := fun k hk =>
    Nat.lt_succ_of_lt (h.answered_lt k hk)
  have hnotIdle : ¬ t.isBusy = false := by simp [hb]
  -- the newcomer joins the second queue if the header has changed, and the first one otherwise
  unfold join
  split
  · have hqueue : (t.waiting ++ (t.followUp ++ [t.nextTicket])).Perm
        (t.nextTicket :: (t.waiting ++ t.followUp)) := by
      rw [← List.append_assoc]
      exact List.perm_append_singleton ..
    obtain ⟨hnodup, hpending⟩ := h.newcomer hqueue
    constructor <;>
      simp only [waiting_enter, followUp_enter, answered_enter, inFlight_enter, isBusy_enter,
        hticket]
    case single => exact h.single
    case idle => exact fun hi => absurd hi hnotIdle
    case changed => simp
    case nodup => exact hnodup
    case pending => exact hpending
    case answered_lt => exact hlt
  · next hh =>
    have hqueue : (t.waiting ++ [t.nextTicket] ++ t.followUp).Perm
        (t.nextTicket :: (t.waiting ++ t.followUp)) := by
      rw [List.append_assoc]
      exact List.perm_middle
    obtain ⟨hnodup, hpending⟩ := h.newcomer hqueue
    constructor <;>
      simp only [waiting_enter, followUp_enter, answered_enter, inFlight_enter, isBusy_enter,
        hticket]
    case single => exact h.single
    case idle => exact fun hi => absurd hi hnotIdle
    case changed => exact fun hh' => absurd hh' hh
    case nodup => exact hnodup
    case pending => exact hpending
    case answered_lt => exact hlt

/-- Every event leaves the queues in order. -/
theorem of_moves (h : t.Orderly) (hm : t.Moves e t') : t'.Orderly := by
  cases hm with
  | quiet => exact h
  | join he hb => exact h.of_join he hb
  | check he hb hc =>
    refine of_checked (by simpa using h.idle hb) (List.nodup_singleton _) ?_ ?_ hc
    · intro k hk
      rw [List.mem_singleton.mp hk, answered_enter, nextTicket_enter he]
      exact ⟨Nat.lt_succ_self _, fun hmem => Nat.lt_irrefl _ (h.answered_lt _ hmem)⟩
    · rw [answered_enter, nextTicket_enter he]
      exact fun k hk => Nat.lt_succ_of_lt (h.answered_lt k hk)
  | lose he hi =>
    have hbusy := h.isBusy_of_inFlight (hi ▸ List.cons_ne_nil _ _)
    constructor
    case single => rw [h.rest_eq_nil hi]; exact Nat.zero_le 1
    case idle => exact fun hb => absurd (hbusy.symm.trans hb) Bool.noConfusion
    case changed => exact h.changed
    case nodup => exact h.nodup
    case pending => exact h.pending
    case answered_lt => exact h.answered_lt
  | finish he hi hmay hf =>
    rw [h.rest_eq_nil hi] at hf
    exact h.of_finished hf
  | close hf => exact h.of_finished hf

end Orderly

/-! ### The end of a request -/

section Finished

variable {t t' : Traffic}

/-- Callers who find no request under way do not leave the edge hanging. -/
theorem Checked.not_isHung {ks : List Ticket} (h : t.Checked ks t') (hb : t.isBusy = false) :
    ¬ t'.IsHung := by
  rintro ⟨hb', hi⟩
  cases h with
  | ask => exact absurd hi (by simp [Traffic.ask])
  | settle => exact Bool.false_ne_true (hb.symm.trans hb')

/-- The end of a request does not leave the edge hanging. -/
theorem Finished.not_isHung (h : t.Finished t') : ¬ t'.IsHung := by
  cases h with
  | alone => exact fun hhung => nomatch hhung.1
  | again _ hc => exact hc.not_isHung rfl

/-- When no request follows, none is sent. -/
theorem Finished.sent_of_idle (h : t.Finished t') (hb' : t'.isBusy = false) :
    t'.sent = t.sent := by
  cases h with
  | alone => rfl
  | again _ hc =>
    cases hc with
    | ask => exact nomatch hb'
    | settle => rfl

/-- When a request follows, those who wait for it are not answered. -/
theorem Finished.answered_of_busy (h : t.Finished t') (hb' : t'.isBusy = true) :
    t'.answered = t.answered ++ t.waiting := by
  cases h with
  | alone => exact nomatch hb'
  | again _ hc =>
    cases hc with
    | ask => rfl
    | settle => exact nomatch hb'

/-- All who waited for a request are answered when it ends. -/
theorem Finished.mem_answered (h : t.Finished t') {k : Ticket} (hk : k ∈ t.waiting) :
    k ∈ t'.answered := by
  have hmem : k ∈ t.answered ++ t.waiting := List.mem_append_right _ hk
  cases h with
  | alone => exact hmem
  | again _ hc =>
    cases hc with
    | ask => exact hmem
    | settle => exact List.mem_append_left _ hmem

end Finished

end Traffic

/-! ### Runs -/

/-- An edge before anything has happened to it. Others may have been answered before. -/
def IsFresh (p : Polling) : Prop :=
  ∃ shared edgeUrl apiKeys interval isDelegated,
    p = new shared edgeUrl apiKeys interval isDelegated ∧
      ∀ a ∈ shared.futures.answers, a.1 < shared.futures.nextTicket

/-- A fresh edge has no request under way. -/
theorem IsFresh.inFlight_eq_nil {p : Polling} (h : p.IsFresh) : p.inFlight = [] := by
  obtain ⟨shared, edgeUrl, apiKeys, interval, isDelegated, rfl, -⟩ := h
  rfl

/-- An edge that nobody has called is in order. -/
theorem IsFresh.orderly {p : Polling} (h : p.IsFresh) : p.traffic.Orderly := by
  obtain ⟨shared, edgeUrl, apiKeys, interval, isDelegated, rfl, hanswers⟩ := h
  constructor
  case single => exact Nat.zero_le 1
  case idle => exact fun _ => ⟨rfl, rfl, rfl⟩
  case changed => intro hh; exact nomatch hh
  case nodup => exact List.nodup_nil
  case pending => intro k hmem; exact absurd hmem List.not_mem_nil
  case answered_lt =>
    intro k hmem
    obtain ⟨a, ha, rfl⟩ := List.mem_map.mp hmem
    exact hanswers a ha

/-- After every run the queues are in order. -/
theorem orderly_run {p : Polling} (h : p.IsFresh) (events : List Event) :
    (p.run events).traffic.Orderly := by
  induction events using List.reverseRecOn with
  | nil => exact h.orderly
  | append_singleton events e ih =>
    rw [run_concat]
    exact ih.of_moves (moves_step ..)

/-- What holds of the traffic of a fresh edge, and is kept by every move while the queues are in
order, holds after every run. -/
theorem preserved_run {P : Traffic → Prop}
    (hmove : ∀ t e t', t.Orderly → P t → Traffic.Moves t e t' → P t') {p : Polling}
    (hs : p.IsFresh) (hstart : P p.traffic) (events : List Event) : P (p.run events).traffic := by
  induction events using List.reverseRecOn with
  | nil => exact hstart
  | append_singleton events e ih =>
    rw [run_concat]
    exact hmove _ e _ (orderly_run hs events) ih (moves_step ..)

/-! ### Samples -/

/-- An edge that keeps answers for three minutes. -/
def sampleEdge : Polling := new .new "http://localhost" ["key"] (.ofSeconds 180) false

/-- A change of the context, with a digest that is easy to read. -/
def sampleChange (header : String) : Event := .changeContext (some header) ("sha " ++ header)

/-- An answer that holds an empty list. -/
def sampleAnswer : Event := .respond ⟨200, none, none, [0x5B, 0x5D]⟩

/-- Nobody has called the sample edge. -/
theorem isFresh_sampleEdge : sampleEdge.IsFresh :=
  ⟨.new, "http://localhost", ["key"], .ofSeconds 180, false, rfl, fun _ ha => nomatch ha⟩

end FeatureFlags.Edge.Polling
