import Mathlib.Data.List.Induction
import FeatureFlags.Promise.Board

/-!
# The completion of futures

A promise is under a name, or in the list of those that wait, or used up, and from one place to
the next it goes in one way: `Place.after` says what a move does to a promise, which depends on no
other promise. On every board that moves lead to, each promise is in exactly one place
(`isOrderly_run`), and a future is answered exactly if its promise is used up.

The main statement is that a future is answered as the place of its promise says, so by the first
move that uses the promise up and by no later one.
-/

set_option autoImplicit false

namespace FeatureFlags.Board

/-! ### Places -/

/-- Where a promise is. -/
inductive Place where
  /-- Nowhere, as nobody has made it. -/
  | unmade
  /-- Under a name. -/
  | held (name : String)
  /-- In the list. -/
  | listed
  /-- Gone, with this answer. -/
  | used (r : Readiness)
deriving DecidableEq, Repr

namespace Place

/-- The answer that a promise gave. -/
def result? : Place → Option Readiness
  | used r => some r
  | _ => none

/-- Where a promise is that goes to another place if it is under a name. -/
def leave (p : Place) (name : String) (q : Place) : Place := if p = held name then q else p

/-- Where a promise is after a move. A promise that is given up is used up by the fallback. -/
def after (fallback : Readiness) (p : Place) : Move → Place
  | .complete name r => p.leave name (used r)
  | .dropPromise name | .channel name _ => p.leave name (used fallback)
  | .push name => p.leave name listed
  | .completeAll r => if p = listed then used r else p
  | .ready .. | .waiter .. | .dropFuture _ | .poll _ => p

/-- Where a promise is after some moves. -/
def follow (fallback : Readiness) (p : Place) (moves : List Move) : Place :=
  moves.foldl (after fallback) p

/-- A promise follows the first move and then the others. -/
@[simp] theorem follow_cons (fallback : Readiness) (p : Place) (m : Move) (moves : List Move) :
    p.follow fallback (m :: moves) = (p.after fallback m).follow fallback moves := rfl

section Leave

variable {p q : Place} {name name' : String}

/-- Nobody makes a promise by taking one from a name. -/
theorem leave_eq_unmade_iff (hq : q ≠ unmade) : p.leave name q = unmade ↔ p = unmade := by
  unfold leave
  split
  next h => simp [h, hq]
  next => rfl

/-- A promise that is not under a name does not leave it. -/
theorem leave_of_ne (h : p ≠ held name) : p.leave name q = p := if_neg h

/-- After one name was left a promise is under the other names under which it was. -/
theorem leave_eq_held_iff (hq : q ≠ held name') :
    p.leave name q = held name' ↔ p = held name' ∧ name' ≠ name := by
  unfold leave
  split
  next h => simp [h, hq, eq_comm]
  next h =>
    refine ⟨fun hp => ⟨hp, ?_⟩, And.left⟩
    rintro rfl
    exact h hp

/-- A promise that leaves a name has the answer of the place to which it goes. -/
theorem result?_leave :
    (p.leave name q).result? = p.result?.or (if p = held name then q.result? else none) := by
  unfold leave
  split
  next h => simp [h, result?]
  next => rw [Option.or_none]

end Leave

/-- No promise is made by a move that makes another one, and none that was made is lost. -/
theorem after_eq_unmade_iff {p : Place} {fallback : Readiness} {m : Move} :
    p.after fallback m = unmade ↔ p = unmade := by
  cases m with
  | complete | dropPromise | channel | push => exact leave_eq_unmade_iff Place.noConfusion
  | completeAll r =>
    simp only [after]
    split
    next h => simp [h]
    next => rfl
  | _ => rfl

/-- A promise that is used up stays so. -/
@[simp] theorem follow_used (fallback r : Readiness) (moves : List Move) :
    (used r).follow fallback moves = used r := by
  induction moves with
  | nil => rfl
  | cons m moves ih =>
    have hafter : (used r).after fallback m = used r := by cases m <;> simp [after, leave]
    rw [follow_cons, hafter, ih]

end Place

/-- Whether the promise of a future is in a place, and nowhere else. -/
structure Keeps (b : Board) (t : Ticket) (p : Place) : Prop where
  promised_iff : ∀ name, b.promises.get? name = some t ↔ p = .held name
  waiting_iff : t ∈ b.waiting ↔ p = .listed
  result?_eq : b.futures.result? t = p.result?

/-! ### What is done with promises -/

section Deeds

variable {b : Board} {t u : Ticket} {p : Place} {name : String}

/-- What is under a name is the promise of a future if that one is there. -/
theorem Keeps.eq_iff (h : b.Keeps t p) (hu : b.promises.get? name = some u) :
    t = u ↔ p = Place.held name := by
  rw [← h.promised_iff, hu, Option.some.injEq, eq_comm]

/-- Under a name that nobody uses there is no promise. -/
theorem Keeps.ne_held (h : b.Keeps t p) (hname : b.promises.get? name = none) :
    p ≠ .held name := by
  rintro rfl
  rw [(h.promised_iff name).mpr rfl] at hname
  cases hname

/-- What is left under names. -/
theorem Keeps.erase_iff (h : b.Keeps t p) (name' : String) :
    (b.promises.erase name).get? name' = some t ↔ p = Place.held name' ∧ name' ≠ name := by
  rw [Table.get?_erase, ← h.promised_iff]
  by_cases hname : name' = name <;> simp [hname]

/-- The promise under a name gives an answer. -/
theorem Keeps.complete (h : b.Keeps t p) (hu : b.promises.get? name = some u) (r : Readiness) :
    { b with futures := b.futures.answer u r, promises := b.promises.erase name }.Keeps t
      (p.leave name (.used r)) where
  promised_iff name' := by
    rw [Place.leave_eq_held_iff Place.noConfusion]
    exact h.erase_iff name'
  waiting_iff := by
    rw [h.waiting_iff]
    unfold Place.leave
    split
    next hp => simp [hp]
    next => rfl
  result?_eq := by
    rw [Place.result?_leave, ← h.result?_eq, Futures.result?_answer]
    simp only [h.eq_iff hu]
    rfl

/-- The promise under a name goes into the list. -/
theorem Keeps.push (h : b.Keeps t p) (hu : b.promises.get? name = some u) :
    { b with promises := b.promises.erase name, waiting := b.waiting ++ [u] }.Keeps t
      (p.leave name .listed) where
  promised_iff name' := by
    rw [Place.leave_eq_held_iff Place.noConfusion]
    exact h.erase_iff name'
  waiting_iff := by
    rw [List.mem_append, List.mem_singleton, h.waiting_iff, h.eq_iff hu]
    unfold Place.leave
    split
    next hp => simp [hp]
    next hp => simp [hp]
  result?_eq := by
    rw [Place.result?_leave, ← h.result?_eq]
    simp [Place.result?]

/-- All promises in the list give an answer. -/
theorem Keeps.completeAll (h : b.Keeps t p) (r : Readiness) :
    { b with futures := b.futures.answerAll b.waiting r, waiting := [] }.Keeps t
      (if p = Place.listed then .used r else p) where
  promised_iff name := by
    rw [h.promised_iff]
    split
    next hp => simp [hp]
    next => rfl
  waiting_iff := by
    split
    next => simp
    next hp => simp [hp]
  result?_eq := by
    rw [Futures.result?_answerAll, h.result?_eq]
    simp only [h.waiting_iff]
    split
    next hp => simp [hp, Place.result?]
    next => rw [Option.or_none]

/-- Whatever was under a name is given up. -/
theorem Keeps.abandon (h : b.Keeps t p) (name : String) :
    (b.abandon name).Keeps t (p.leave name (.used (b.futures.fallback t))) := by
  unfold Board.abandon
  cases hu : b.promises.get? name with
  | none =>
    rw [Place.leave_of_ne (h.ne_held hu)]
    exact h
  | some u =>
    have hgiven := h.complete hu (b.futures.fallback u)
    unfold Place.leave at hgiven ⊢
    split at hgiven
    next hp =>
      rw [if_pos hp, (h.eq_iff hu).mpr hp]
      rwa [(h.eq_iff hu).mpr hp] at hgiven
    next hp =>
      rw [if_neg hp]
      exact hgiven

/-- Another promise comes under a name. -/
theorem Keeps.promise_of_ne (h : b.Keeps t p) (hne : t ≠ u) (hp : p ≠ .held name) :
    { b with promises := b.promises.insert name u }.Keeps t p where
  promised_iff name' := by
    rw [Table.get?_insert, ← h.promised_iff]
    split
    next hname =>
      rw [h.promised_iff, hname]
      simp [hp, Ne.symm hne]
    next => rfl
  waiting_iff := h.waiting_iff
  result?_eq := h.result?_eq

/-- A promise that was just made comes under a name. -/
theorem Keeps.promise (h : b.Keeps t .unmade) (name : String) :
    { b with promises := b.promises.insert name t }.Keeps t (.held name) where
  promised_iff name' := by
    rw [Table.get?_insert, Place.held.injEq]
    split
    next hname => simp [hname]
    next hname => simp [h.promised_iff, Ne.symm hname]
  waiting_iff := by
    rw [h.waiting_iff]
    simp
  result?_eq := h.result?_eq

/-- A promise comes into the list. -/
theorem Keeps.enlist_of_ne (h : b.Keeps t p) (hne : t ≠ u) :
    { b with waiting := b.waiting ++ [u] }.Keeps t p where
  promised_iff := h.promised_iff
  waiting_iff := by simp [h.waiting_iff, hne]
  result?_eq := h.result?_eq

/-- A future that is put into the list has its promise there. -/
theorem Keeps.enlist (h : b.Keeps t .unmade) :
    { b with waiting := b.waiting ++ [t] }.Keeps t .listed where
  promised_iff name := by simp [h.promised_iff]
  waiting_iff := by simp
  result?_eq := h.result?_eq

/-- A future is answered when it is made. -/
theorem Keeps.answer_of_ne (h : b.Keeps t p) (hne : t ≠ u) (r : Readiness) :
    { b with futures := b.futures.answer u r }.Keeps t p where
  promised_iff := h.promised_iff
  waiting_iff := h.waiting_iff
  result?_eq := by rw [Futures.result?_answer, if_neg hne, Option.or_none, h.result?_eq]

/-- A future that is answered has a promise that is used up. -/
theorem Keeps.answer (h : b.Keeps t .unmade) (r : Readiness) :
    { b with futures := b.futures.answer t r }.Keeps t (.used r) where
  promised_iff name := by simp [h.promised_iff]
  waiting_iff := by simp [h.waiting_iff]
  result?_eq := by
    rw [Futures.result?_answer, if_pos rfl, h.result?_eq]
    rfl

/-- Futures that are held, and further futures, do not matter to a promise. -/
theorem Keeps.hold (h : b.Keeps t p) (name : String) (fallback : Readiness) :
    (b.hold name fallback).Keeps t p :=
  ⟨h.promised_iff, h.waiting_iff, h.result?_eq⟩

end Deeds

/-! ### Moves -/

/-- Where the promise is whose future a move makes, and the fallback of this future. -/
def Move.made? : Move → Option (Place × Readiness)
  | .ready _ r => some (.used r, r)
  | .channel name fallback => some (.held name, fallback)
  | .waiter _ fallback => some (.listed, fallback)
  | _ => none

/-- A promise is in some place once it was made. -/
theorem Move.ne_unmade_of_made? {m : Move} {p : Place} {fallback : Readiness}
    (h : m.made? = some (p, fallback)) : p ≠ .unmade := by
  rintro rfl
  cases m <;> cases h

section Moves

variable {b : Board} {t : Ticket} {p : Place}

/-- Giving a promise up leaves the fallbacks as they are. -/
@[simp] theorem futures_fallbacks_abandon (b : Board) (name : String) :
    (b.abandon name).futures.fallbacks = b.futures.fallbacks := by
  unfold abandon
  split <;> rfl

/-- Answers leave the fallbacks as they are. -/
theorem fallbacks_answerAll (f : Futures) (ts : List Ticket) (r : Readiness) :
    (f.answerAll ts r).fallbacks = f.fallbacks := by
  unfold Futures.answerAll
  induction ts generalizing f with
  | nil => rfl
  | cons u ts ih => exact ih (f.answer u r)

/-- A move makes at most one future, and leaves the fallbacks of the others as they are. -/
theorem fallbacks_move (b : Board) (m : Move) :
    (b.move m).futures.fallbacks = b.futures.fallbacks ++ m.made?.toList.map Prod.snd := by
  cases m with
  | ready | waiter => rfl
  | channel name fallback =>
    show (b.abandon name).futures.fallbacks ++ [fallback] = _
    rw [futures_fallbacks_abandon]
    rfl
  | push | complete =>
    simp only [move, Move.made?, Option.toList_none, List.map_nil, List.append_nil]
    split <;> rfl
  | dropPromise name => simp [move, Move.made?]
  | completeAll r => simp [move, Move.made?, fallbacks_answerAll]
  | dropFuture | poll => simp [move, Move.made?]

/-- A move makes a future or none. -/
theorem nextTicket_move (b : Board) (m : Move) :
    (b.move m).futures.nextTicket = b.futures.nextTicket + m.made?.toList.length := by
  unfold Futures.nextTicket
  rw [fallbacks_move, List.length_append, List.length_map]

/-- A new future has the fallback that the move gives it. -/
theorem fallback_newcomer (b : Board) {m : Move} {fallback : Readiness}
    (h : m.made? = some (p, fallback)) :
    (b.move m).futures.fallback b.futures.nextTicket = fallback := by
  unfold Futures.fallback Futures.nextTicket
  rw [fallbacks_move, h]
  simp

/-- A future keeps its fallback. -/
theorem fallback_move (ht : t < b.futures.nextTicket) (m : Move) :
    (b.move m).futures.fallback t = b.futures.fallback t := by
  unfold Futures.fallback
  rw [fallbacks_move, List.getElem?_append_left ht]

/-- What a move does to a promise that it does not make. -/
theorem Keeps.move (h : b.Keeps t p) (m : Move)
    (hne : m.made?.isSome → t ≠ b.futures.nextTicket) :
    (b.move m).Keeps t (p.after (b.futures.fallback t) m) := by
  -- one case for each move; only a move on the name or the list of a promise concerns it
  cases m with
  | ready name r => exact (h.hold name r).answer_of_ne (hne rfl) r
  | channel name fallback =>
    have hne' : t ≠ (b.abandon name).futures.nextTicket := by
      unfold Futures.nextTicket
      rw [futures_fallbacks_abandon]
      exact hne rfl
    have hleft : p.leave name (.used (b.futures.fallback t)) ≠ .held name := fun heq =>
      ((Place.leave_eq_held_iff Place.noConfusion).mp heq).2 rfl
    exact ((h.abandon name).hold name fallback).promise_of_ne hne' hleft
  | waiter name fallback => exact (h.hold name fallback).enlist_of_ne (hne rfl)
  | push name =>
    simp only [Board.move, Place.after]
    cases hu : b.promises.get? name with
    | none =>
      rw [Place.leave_of_ne (h.ne_held hu)]
      exact h
    | some u => exact h.push hu
  | complete name r =>
    simp only [Board.move, Place.after]
    cases hu : b.promises.get? name with
    | none =>
      rw [Place.leave_of_ne (h.ne_held hu)]
      exact h
    | some u => exact h.complete hu r
  | dropPromise name => exact h.abandon name
  | dropFuture name => exact ⟨h.promised_iff, h.waiting_iff, h.result?_eq⟩
  | completeAll r => exact h.completeAll r
  | poll name => exact h

/-- Where the promise is that a move makes. -/
theorem keeps_newcomer (h : b.Keeps b.futures.nextTicket .unmade) {m : Move}
    {fallback : Readiness} (hp : m.made? = some (p, fallback)) :
    (b.move m).Keeps b.futures.nextTicket p := by
  cases m with
  | ready name r =>
    cases hp
    exact (h.hold name fallback).answer fallback
  | channel name =>
    cases hp
    have hnext : (b.abandon name).futures.nextTicket = b.futures.nextTicket := by
      unfold Futures.nextTicket
      rw [futures_fallbacks_abandon]
    have hkeeps := ((h.abandon name).hold name fallback).promise name
    rw [← hnext] at hkeeps ⊢
    exact hkeeps
  | waiter name =>
    cases hp
    exact (h.hold name fallback).enlist
  | _ => cases hp

end Moves

/-! ### Runs -/

/-- What a run makes of a board. -/
def run (b : Board) (moves : List Move) : Board := moves.foldl move b

/-- A run ends with its last move. -/
@[simp] theorem run_concat (b : Board) (moves : List Move) (m : Move) :
    b.run (moves ++ [m]) = (b.run moves).move m := by
  simp [run]

/-- Whether each promise that was made is in one place, and no other promise is anywhere. -/
def IsOrderly (b : Board) : Prop :=
  ∀ t, ∃ p : Place, b.Keeps t p ∧ (p = .unmade ↔ b.futures.nextTicket ≤ t)

/-- A board without futures is orderly. -/
theorem isOrderly_empty : empty.IsOrderly := fun t =>
  ⟨.unmade, ⟨by simp [empty], by simp [empty], rfl⟩, ⟨fun _ => Nat.zero_le t, fun _ => rfl⟩⟩

/-- Nobody has made the promise of the next future. -/
theorem IsOrderly.keeps_nextTicket {b : Board} (h : b.IsOrderly) :
    b.Keeps b.futures.nextTicket .unmade := by
  obtain ⟨p, hkeeps, hp⟩ := h b.futures.nextTicket
  rwa [hp.mpr (Nat.le_refl _)] at hkeeps

/-- Every move keeps a board orderly. -/
theorem IsOrderly.move {b : Board} (h : b.IsOrderly) (m : Move) : (b.move m).IsOrderly := by
  intro t
  obtain ⟨p, hkeeps, hp⟩ := h t
  rw [nextTicket_move]
  cases hmade : m.made? with
  | none =>
    have hkept := hkeeps.move m fun hsome => by simp [hmade] at hsome
    exact ⟨_, hkept, Place.after_eq_unmade_iff.trans hp⟩
  | some made =>
    obtain ⟨q, fallback⟩ := made
    show ∃ p, _ ∧ (p = Place.unmade ↔ b.futures.nextTicket < t)
    by_cases ht : t = b.futures.nextTicket
    · subst ht
      refine ⟨q, keeps_newcomer h.keeps_nextTicket hmade, ?_⟩
      simp [Move.ne_unmade_of_made? hmade]
    · refine ⟨_, hkeeps.move m fun _ => ht, Place.after_eq_unmade_iff.trans (hp.trans ?_)⟩
      exact ⟨fun hle => Nat.lt_of_le_of_ne hle (Ne.symm ht), Nat.le_of_lt⟩

/-- Every run from an empty board leads to an orderly one. -/
theorem isOrderly_run (moves : List Move) : (empty.run moves).IsOrderly := by
  induction moves using List.reverseRecOn with
  | nil => exact isOrderly_empty
  | append_singleton moves m ih =>
    rw [run_concat]
    exact ih.move m

/-- The promise of a future that was made goes its own way, whatever happens to the others. -/
theorem Keeps.run {b : Board} {t : Ticket} {p : Place} (h : b.Keeps t p)
    (ht : t < b.futures.nextTicket) (later : List Move) :
    (b.run later).Keeps t (p.follow (b.futures.fallback t) later) := by
  induction later generalizing b p with
  | nil => exact h
  | cons m later ih =>
    have hmade : t < (b.move m).futures.nextTicket := by
      rw [nextTicket_move]
      exact Nat.lt_add_right _ ht
    have hlater := ih (h.move m fun _ => Nat.ne_of_lt ht) hmade
    rw [fallback_move ht] at hlater
    exact hlater

/-- A future is answered as the place says that its promise goes to. -/
theorem result?_of_made? {b : Board} (h : b.IsOrderly) {m : Move} {p : Place}
    {fallback : Readiness} (hmade : m.made? = some (p, fallback)) (later : List Move) :
    ((b.move m).run later).futures.result? b.futures.nextTicket =
      (p.follow fallback later).result? := by
  have hlt : b.futures.nextTicket < (b.move m).futures.nextTicket := by
    rw [nextTicket_move, hmade]
    exact Nat.lt_succ_self _
  have hkeeps := (keeps_newcomer h.keeps_nextTicket hmade).run hlt later
  rw [fallback_newcomer b hmade] at hkeeps
  exact hkeeps.result?_eq

/-- A future whose promise was made is pending exactly while the promise is under a name or in the
list. -/
theorem Keeps.result?_eq_none_iff {b : Board} {t : Ticket} {p : Place} (h : b.Keeps t p)
    (hp : p ≠ .unmade) : b.futures.result? t = none ↔
      (∃ name, b.promises.get? name = some t) ∨ t ∈ b.waiting := by
  simp only [h.result?_eq, h.promised_iff, h.waiting_iff]
  cases p with
  | unmade => exact absurd rfl hp
  | held name => simp [Place.result?]
  | listed => simp [Place.result?]
  | used r => simp [Place.result?]

/-- Every future is answered by the first move that uses its promise up: by the promise itself, by
the first answer to all after it came into the list, or by its own fallback when it is given up.
No later move changes the answer. A future is open exactly as long as its promise is under a
name or in the list. -/
theorem answered_by_first_use (before : List Move) :
    let b := empty.run before
    (∀ later name fallback,
      ((b.move (.channel name fallback)).run later).futures.result? b.futures.nextTicket =
        (Place.follow fallback (.held name) later).result?) ∧
      (∀ later name fallback,
        ((b.move (.waiter name fallback)).run later).futures.result? b.futures.nextTicket =
          (Place.follow fallback .listed later).result?) ∧
      (∀ later name r,
        ((b.move (.ready name r)).run later).futures.result? b.futures.nextTicket = some r) ∧
      ∀ t, t < b.futures.nextTicket →
        (b.futures.result? t = none ↔
          (∃ name, b.promises.get? name = some t) ∨ t ∈ b.waiting) ∧
        ∀ r, b.futures.result? t = some r → ∀ later, (b.run later).futures.result? t = some r := by
  intro b
  have horderly : b.IsOrderly := isOrderly_run before
  refine ⟨fun later name fallback => result?_of_made? horderly rfl later,
    fun later name fallback => result?_of_made? horderly rfl later, ?_, ?_⟩
  · intro later name r
    rw [result?_of_made? horderly rfl later, Place.follow_used]
    rfl
  · intro t ht
    obtain ⟨p, hkeeps, hp⟩ := horderly t
    refine ⟨hkeeps.result?_eq_none_iff fun h => Nat.not_le_of_lt ht (hp.mp h), fun r hr later => ?_⟩
    rw [hkeeps.result?_eq] at hr
    cases p with
    | used r' =>
      rw [(hkeeps.run ht later).result?_eq, Place.follow_used]
      exact hr
    | _ => cases hr

/-- One promise gives its answer, and another one goes into the list. -/
def sampleMoves : List Move :=
  [.channel "a" .notReady, .channel "b" .failed, .complete "a" .ready, .push "b"]

/-- The first future keeps its answer when all others get another one. -/
theorem answered_by_first_use_sample :
    let b := empty.run sampleMoves
    0 < b.futures.nextTicket ∧ b.futures.result? 0 = some .ready ∧
      (b.run [.completeAll .failed]).futures.result? 0 = some .ready ∧
      (b.futures.result? 1 = none ↔ (∃ name, b.promises.get? name = some 1) ∨ 1 ∈ b.waiting) ∧
      (b.run [.completeAll .failed]).futures.result? 1 = some .failed := by
  intro b
  obtain ⟨-, -, -, hmade⟩ := answered_by_first_use sampleMoves
  have hanswered : b.futures.result? 0 = some .ready := by decide
  exact ⟨by decide, hanswered, (hmade 0 (by decide)).2 _ hanswered _, (hmade 1 (by decide)).1,
    by decide⟩

end FeatureFlags.Board
