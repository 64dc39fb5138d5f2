import FeatureFlags.Readiness

/-!
# Desks

What the callers of an edge see of it is a desk: futures, and a queue of those who wait. A caller
who comes is answered at once or queues up, and news is told to all who wait, once (`Desk.Turn`). At
a fair desk everybody was answered once, or waits and was not; no turn makes it unfair
(`Desk.IsFair.turn`).
-/

set_option autoImplicit false

namespace FeatureFlags.Edge

/-- All futures, and the tickets of those who wait. -/
structure Desk where
  futures : Futures
  waiters : List Ticket

namespace Desk

variable {base : Nat} {d d' : Desk} {r : Readiness} {told : Option Readiness}
  {caller : Option Ticket}

/-- All who wait are answered. -/
def tell (d : Desk) (r : Readiness) : Desk := ⟨d.futures.answerAll d.waiters r, []⟩

/-- All who wait are answered if there is something to tell. -/
def hear (d : Desk) (told : Option Readiness) : Desk := told.elim d d.tell

/-- Another caller waits. -/
def seat (d : Desk) (r : Readiness) : Desk :=
  ⟨d.futures.add r, d.waiters ++ [d.futures.nextTicket]⟩

/-- Another caller is answered at once. -/
def serve (d : Desk) (r : Readiness) : Desk := ⟨d.futures.addAnswered r, d.waiters⟩

/-- Where nobody waits nothing is told. -/
theorem tell_of_waiters_eq_nil (h : d.waiters = []) (r : Readiness) : d.tell r = d := by
  obtain ⟨futures, waiters⟩ := d
  subst h
  rfl

/-- It does not matter to others when a future is made. -/
theorem answerAll_add (f : Futures) (ts : List Ticket) (r : Readiness) :
    (f.add r).answerAll ts r = (f.answerAll ts r).add r := by
  induction ts generalizing f with
  | nil => rfl
  | cons t ts ih => exact ih (f.answer t r)

/-- A caller who is told at once need not have been seated. -/
theorem tell_seat (d : Desk) (r : Readiness) : (d.seat r).tell r = (d.tell r).serve r := by
  have hlast : (d.futures.add r).answerAll (d.waiters ++ [d.futures.nextTicket]) r =
      ((d.futures.add r).answerAll d.waiters r).answer d.futures.nextTicket r := by
    simp [Futures.answerAll]
  simp only [tell, seat, serve, Futures.addAnswered, Futures.nextTicket_answerAll]
  rw [hlast, answerAll_add]

/-- Whoever waits is given the news as an answer. -/
theorem result?_hear (d : Desk) (told : Option Readiness) (t : Ticket) :
    (d.hear told).futures.result? t =
      (d.futures.result? t).or (if t ∈ d.waiters then told else none) := by
  cases told with
  | none => simp [hear]
  | some r => exact Futures.result?_answerAll ..

/-- Hearing news makes no future. -/
@[simp] theorem nextTicket_hear (d : Desk) (told : Option Readiness) :
    (d.hear told).futures.nextTicket = d.futures.nextTicket := by
  cases told with
  | none => rfl
  | some r => exact Futures.nextTicket_answerAll ..

/-- What an act does to a desk: those who wait hear the news, and a caller who comes is answered
with the present readiness or is seated. -/
inductive Turn (d : Desk) (r : Readiness) (told : Option Readiness) : Option Ticket → Desk → Prop
  /-- No caller comes. -/
  | hear : Turn d r told none (d.hear told)
  /-- A caller is answered. -/
  | serve : Turn d r told (some d.futures.nextTicket) ((d.hear told).serve r)
  /-- A caller waits. -/
  | seat : Turn d r told (some d.futures.nextTicket) ((d.hear told).seat r)

/-- A turn makes the future of its caller. -/
theorem Turn.nextTicket_eq (h : d.Turn r told caller d') :
    d'.futures.nextTicket = d.futures.nextTicket + caller.toList.length := by
  have hhear := d.nextTicket_hear told
  have hadd := (d.hear told).futures.nextTicket_add r
  rw [hhear] at hadd
  cases h with
  | hear => exact hhear
  | serve | seat => exact hadd

/-- Those who came before hear the news, and nothing else. -/
theorem Turn.result?_eq (h : d.Turn r told caller d') {t : Ticket}
    (ht : t < d.futures.nextTicket) :
    d'.futures.result? t = (d.futures.result? t).or (if t ∈ d.waiters then told else none) := by
  rw [← result?_hear]
  cases h with
  | hear | seat => rfl
  | serve =>
    have hne : t ≠ (d.hear told).futures.nextTicket := by
      rw [nextTicket_hear]
      exact Nat.ne_of_lt ht
    have hserve := Futures.result?_answer ((d.hear told).futures.add r)
      (d.hear told).futures.nextTicket r t
    rw [if_neg hne, Option.or_none] at hserve
    exact hserve

/-- Whether each of the futures from a number on was answered once, or waits and was not. -/
structure IsFair (base : Nat) (d : Desk) : Prop where
  base_le : base ≤ d.futures.nextTicket
  count_eq : ∀ t : Nat, base ≤ t →
    (d.futures.answers.map Prod.fst).count t + d.waiters.count t =
      if t < d.futures.nextTicket then 1 else 0

namespace IsFair

/-- Hearing news keeps a desk fair. -/
theorem hear (h : d.IsFair base) (told : Option Readiness) : (d.hear told).IsFair base := by
  cases told with
  | none => exact h
  | some r =>
    refine ⟨?_, ?_⟩
    · rw [nextTicket_hear]
      exact h.base_le
    · intro t ht
      have hcount := h.count_eq t ht
      rw [nextTicket_hear, ← hcount]
      show ((d.futures.answerAll d.waiters r).answers.map Prod.fst).count t + 0 = _
      rw [Futures.map_fst_answers_answerAll, List.count_append, Nat.add_zero]

/-- Nobody has the ticket of the next caller. -/
theorem of_newcomer (h : d.IsFair base)
    (hnext : d'.futures.nextTicket = d.futures.nextTicket + 1)
    (hcount : ∀ t : Nat, (d'.futures.answers.map Prod.fst).count t + d'.waiters.count t =
      (d.futures.answers.map Prod.fst).count t + d.waiters.count t +
        if t = d.futures.nextTicket then 1 else 0) : d'.IsFair base := by
  refine ⟨?_, ?_⟩
  · rw [hnext]
    exact Nat.le_succ_of_le h.base_le
  · intro t ht
    rw [hcount t, hnext, h.count_eq t ht]
    split <;> split <;> split <;> omega

/-- A caller who is answered at once keeps a desk fair. -/
theorem serve (h : d.IsFair base) (r : Readiness) : (d.serve r).IsFair base := by
  apply h.of_newcomer (Futures.nextTicket_add d.futures r)
  intro t
  have hanswers : (d.serve r).futures.answers =
      d.futures.answers ++ [(d.futures.nextTicket, r)] := rfl
  have hwaiters : (d.serve r).waiters = d.waiters := rfl
  rw [hanswers, hwaiters, List.map_append, List.count_append]
  simp only [List.map_cons, List.map_nil, List.count_singleton, beq_iff_eq]
  split <;> split <;> omega

/-- A caller who waits keeps a desk fair. -/
theorem seat (h : d.IsFair base) (r : Readiness) : (d.seat r).IsFair base := by
  apply h.of_newcomer (Futures.nextTicket_add d.futures r)
  intro t
  have hanswers : (d.seat r).futures.answers = d.futures.answers := rfl
  have hwaiters : (d.seat r).waiters = d.waiters ++ [d.futures.nextTicket] := rfl
  rw [hanswers, hwaiters, List.count_append]
  simp only [List.count_singleton, beq_iff_eq]
  split <;> split <;> omega

/-- Every turn keeps a desk fair. -/
theorem turn (h : d.IsFair base) (hturn : d.Turn r told caller d') : d'.IsFair base := by
  cases hturn with
  | hear => exact h.hear told
  | serve => exact (h.hear told).serve r
  | seat => exact (h.hear told).seat r

/-- Nobody is answered twice. -/
theorem count_le_one (h : d.IsFair base) {t : Nat} (ht : base ≤ t) :
    (d.futures.answers.map Prod.fst).count t ≤ 1 := by
  have hcount := h.count_eq t ht
  split at hcount <;> omega

/-- Whoever was not answered waits. -/
theorem mem_waiters (h : d.IsFair base) {t : Nat} (ht : base ≤ t)
    (hmade : t < d.futures.nextTicket) (hopen : d.futures.result? t = none) : t ∈ d.waiters := by
  have hcount := h.count_eq t ht
  rw [if_pos hmade, List.count_eq_zero_of_not_mem ((Futures.result?_eq_none_iff ..).mp hopen),
    Nat.zero_add] at hcount
  apply List.count_pos_iff.mp
  omega

/-- The next caller was not answered yet. -/
theorem result?_nextTicket (h : d.IsFair base) : d.futures.result? d.futures.nextTicket = none := by
  have hcount := h.count_eq d.futures.nextTicket h.base_le
  rw [if_neg (Nat.lt_irrefl _)] at hcount
  rw [Futures.result?_eq_none_iff]
  apply List.count_eq_zero.mp
  omega

/-- A caller is answered with the present readiness, or not yet. -/
theorem result?_caller (h : d.IsFair base) {t : Ticket} (hturn : d.Turn r told (some t) d') :
    t = d.futures.nextTicket ∧
      (d'.futures.result? t = none ∨ d'.futures.result? t = some r) := by
  have hopen := (h.hear told).result?_nextTicket
  rw [nextTicket_hear] at hopen
  cases hturn with
  | serve =>
    refine ⟨rfl, .inr ?_⟩
    have hsame : ((d.hear told).futures.add r).result? d.futures.nextTicket = none := hopen
    show (((d.hear told).futures.add r).answer (d.hear told).futures.nextTicket r).result? _ = _
    rw [Futures.result?_answer, hsame, nextTicket_hear, if_pos rfl, Option.none_or]
  | seat => exact ⟨rfl, .inl hopen⟩

end IsFair

end Desk

end FeatureFlags.Edge
