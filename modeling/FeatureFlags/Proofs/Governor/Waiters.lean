import Mathlib.Data.List.Flatten
import Mathlib.Data.List.Nodup
import FeatureFlags.Proofs.Governor.Flag

/-!
# Who waits for a governor

Whoever was given a future and got no answer yet is held by somebody: by an activity that will
answer or queue it, or by what is queued. The `Lobby` of a governor is what this is about, the
futures that were given to callers and those that are held. A step of an activity does one of four
things to it (`Serves`): it leaves it to the edge, lets a caller in who waits or is answered at
once, or answers some of those who wait. None of them forgets anybody or holds anybody twice
(`Kept.of_serves`).

The edge and the governor share their futures, but not their callers: an edge that keeps to its
own futures answers nobody whom the governor holds.
-/

set_option autoImplicit false

namespace FeatureFlags.Edge.Governed

/-- Those whom an activity will answer. -/
def waiters : Activity → List Ticket
  | .enqueue _ _ t => [t]
  | .cancelTimer _ ts | .spawn _ ts | .launch _ ts | .await _ ts | .finish _ ts | .tell _ ts
  | .free ts | .excuse ts => ts
  | _ => []

/-- What an activity does first holds nobody. -/
theorem waiters_of_isFirst {a : Activity} (h : isFirst a = true) : waiters a = [] := by
  cases a <;> first | rfl | exact nomatch h

/-- What follows a request holds nobody. -/
theorem flatMap_waiters_afterwards (isTask : Bool) : (afterwards isTask).flatMap waiters = [] := by
  cases isTask <;> rfl

variable {σ : Type}

/-- Those who wait for what is queued. -/
def queueWaiters (g : Governed σ) : List Ticket := (g.queued.map Queued.waiters).getD []

/-- The callers of a governor. -/
structure Lobby (σ : Type) where
  /-- The edge. -/
  inner : σ
  /-- The futures that were given to callers. -/
  handedOut : List Ticket
  /-- The futures that somebody will answer. -/
  held : List Ticket

/-- The callers of a governor whose activities hold some of them. -/
def lobbyOf (g : Governed σ) (ts : List Ticket) : Lobby σ :=
  ⟨g.inner, g.handedOut, g.queueWaiters ++ ts⟩

/-- The callers of a governor. -/
def lobby (g : Governed σ) : Lobby σ := g.lobbyOf (g.activities.flatMap waiters)

variable [Edge σ] [Eventful σ] [Accountable σ]

/-! ### Writing to futures -/

/-- Whether between two states of an edge somebody else has made some futures and has answered
some. -/
structure Writes (e e' : σ) (made : Nat) (given : Ticket → Option Readiness) : Prop where
  nextTicket_eq : nextTicket e' = nextTicket e + made
  result?_eq : ∀ t, result? e' t = (result? e t).or (given t)
  owed_eq : Accountable.owed e' = Accountable.owed e

/-- Whoever writes to the futures that an edge shares leaves the edge as it is. -/
theorem writes_modifyShared {e : σ} {f : Shared → Shared} {made : Nat}
    {given : Ticket → Option Readiness}
    (hn : (f (shared e)).futures.nextTicket = (shared e).futures.nextTicket + made)
    (hr : ∀ t, (f (shared e)).futures.result? t = ((shared e).futures.result? t).or (given t)) :
    Writes e (Edge.modifyShared e f) made given where
  nextTicket_eq := by
    unfold nextTicket
    rw [Sharing.shared_modifyShared]
    exact hn
  result?_eq t := by
    unfold result?
    rw [Sharing.shared_modifyShared]
    exact hr t
  owed_eq := Accountable.owed_modifyShared e f

/-- Handing a future out makes one and answers none. -/
theorem writes_handOut (g : Governed σ) :
    Writes g.inner g.handOut.1.inner 1 fun _ => none :=
  writes_modifyShared (Futures.nextTicket_add ..) fun t => by
    rw [Option.or_none]
    rfl

/-- Handing an answered future out makes one and answers it. -/
theorem writes_handOutAnswered (g : Governed σ) :
    Writes g.inner g.handOutAnswered.inner 1 fun t =>
      if t = nextTicket g.inner then some (readiness g.inner) else none :=
  writes_modifyShared (Futures.nextTicket_add ..) fun _ => Futures.result?_answer ..

/-- Giving callers up answers them with their fallbacks. -/
theorem writes_abandon (g : Governed σ) (ts : List Ticket) :
    Writes g.inner (g.abandon ts).inner 0 fun t =>
      if t ∈ ts then some ((shared g.inner).futures.fallback t) else none :=
  writes_modifyShared (Futures.nextTicket_giveUpAll ..) fun _ => Futures.result?_giveUpAll ..

/-- Answering callers gives all of them the answer. -/
theorem writes_answer (g : Governed σ) (ts : List Ticket) (r : Readiness) :
    Writes g.inner (g.answer ts r).inner 0 fun t => if t ∈ ts then some r else none :=
  writes_modifyShared (Futures.nextTicket_answerAll ..) fun _ => Futures.result?_answerAll ..

/-- A call leaves the edge dutiful. -/
theorem dutiful_call (g : Governed σ) (job : Job) :
    Dutiful Accountable.owed g.inner (g.call job).1.inner := by
  cases job with
  | poll => exact Accountable.dutiful_poll g.inner
  | changeContext header sha => exact Accountable.dutiful_changeContext g.inner header sha

/-! ### Serving callers -/

namespace Lobby

/-- What can happen to the callers of a governor. -/
inductive Serves (l l' : Lobby σ) : Prop
  /-- They are left to whatever the edge does. -/
  | leave (hd : Dutiful Accountable.owed l.inner l'.inner) (ho : l'.handedOut = l.handedOut)
    (hh : l'.held.Perm l.held)
  /-- Another one is going to wait. -/
  | seat (hw : Writes l.inner l'.inner 1 fun _ => none)
    (ho : l'.handedOut = l.handedOut ++ [nextTicket l.inner])
    (hh : l'.held.Perm (nextTicket l.inner :: l.held))
  /-- Another one is answered at once. -/
  | refuse {r : Readiness}
    (hw : Writes l.inner l'.inner 1 fun t => if t = nextTicket l.inner then some r else none)
    (ho : l'.handedOut = l.handedOut ++ [nextTicket l.inner]) (hh : l'.held.Perm l.held)
  /-- Some of those who wait are answered. -/
  | answer {ts : List Ticket} {r : Ticket → Readiness}
    (hw : Writes l.inner l'.inner 0 fun t => if t ∈ ts then some (r t) else none)
    (ho : l'.handedOut = l.handedOut) (hh : l.held.Perm (ts ++ l'.held))

/-- Whether everybody who waits is held once. -/
structure Kept (l : Lobby σ) : Prop where
  /-- Nobody is held twice. -/
  nodup : l.held.Nodup
  /-- Those who are held are those who wait. -/
  mem_held_iff : ∀ t, t ∈ l.held ↔ t ∈ l.handedOut ∧ result? l.inner t = none
  /-- Callers have futures that were made. -/
  made : ∀ t ∈ l.handedOut, t < nextTicket l.inner
  /-- The edge owes the callers nothing. -/
  foreign : ∀ t ∈ l.handedOut, t ∉ Accountable.owed l.inner
  /-- The edge keeps to futures that were made. -/
  tidy : IsTidy l.inner

variable {l l' : Lobby σ}

/-- What happens to some callers happens to them among others. -/
theorem Serves.frame (h : l.Serves l') {held held' rest : List Ticket}
    (hheld : held.Perm (l.held ++ rest)) (hheld' : held'.Perm (l'.held ++ rest)) :
    Serves { l with held := held } { l' with held := held' } := by
  cases h with
  | leave hd ho hh => exact .leave hd ho (hheld'.trans ((hh.append_right rest).trans hheld.symm))
  | seat hw ho hh =>
    exact .seat hw ho (hheld'.trans ((hh.append_right rest).trans (hheld.symm.cons _)))
  | refuse hw ho hh => exact .refuse hw ho (hheld'.trans ((hh.append_right rest).trans hheld.symm))
  | answer hw ho hh =>
    refine .answer hw ho (hheld.trans ((hh.append_right rest).trans ?_))
    rw [List.append_assoc]
    exact hheld'.symm.append_left _

/-- The next future belongs to nobody yet. -/
theorem Kept.nextTicket_fresh (h : l.Kept) :
    nextTicket l.inner ∉ l.handedOut ∧ result? l.inner (nextTicket l.inner) = none ∧
      nextTicket l.inner ∉ Accountable.owed l.inner := by
  refine ⟨fun hmem => Nat.lt_irrefl _ (h.made _ hmem), ?_, fun howed => ?_⟩
  · by_contra hresult
    exact Nat.lt_irrefl _ (h.tidy _ (Or.inl hresult))
  · exact Nat.lt_irrefl _ (h.tidy _ (Or.inr howed))

/-- Whoever waits goes on waiting while the edge does its duty. -/
theorem Kept.of_leave (h : l.Kept) (hd : Dutiful Accountable.owed l.inner l'.inner)
    (ho : l'.handedOut = l.handedOut) (hh : l'.held.Perm l.held) : l'.Kept where
  nodup := hh.nodup_iff.mpr h.nodup
  mem_held_iff t := by
    rw [hh.mem_iff, h.mem_held_iff, ho]
    refine and_congr_right fun ht => ?_
    rw [hd.result?_eq (h.made t ht) (h.foreign t ht)]
  made t ht := Nat.lt_of_lt_of_le (h.made t (ho ▸ ht)) hd.nextTicket_le
  foreign t ht howed := by
    rw [ho] at ht
    rcases hd.owes t howed with howed | hnew
    · exact h.foreign t ht howed
    · exact Nat.lt_irrefl _ (Nat.lt_of_lt_of_le (h.made t ht) hnew.1)
  tidy := hd.isTidy h.tidy

/-- The edge stays tidy when somebody else makes futures, and answers some that were made. -/
theorem isTidy_of_writes {e e' : σ} {made : Nat} {given : Ticket → Option Readiness}
    (hw : Writes e e' made given) (hgiven : ∀ t, given t ≠ none → t < nextTicket e')
    (he : IsTidy e) : IsTidy e' := by
  have hle : nextTicket e ≤ nextTicket e' := by
    rw [hw.nextTicket_eq]
    exact Nat.le_add_right _ _
  rintro t (hresult | howed)
  · rw [hw.result?_eq, ne_eq, Option.or_eq_none_iff, not_and_or] at hresult
    rcases hresult with hbefore | hnow
    · exact Nat.lt_of_lt_of_le (he t (Or.inl hbefore)) hle
    · exact hgiven t hnow
  · rw [hw.owed_eq] at howed
    exact Nat.lt_of_lt_of_le (he t (Or.inr howed)) hle

/-- Whoever comes next may wait, or be answered. -/
theorem Kept.of_newcomer (h : l.Kept) {given : Ticket → Option Readiness}
    (hw : Writes l.inner l'.inner 1 given) (hothers : ∀ t ≠ nextTicket l.inner, given t = none)
    (ho : l'.handedOut = l.handedOut ++ [nextTicket l.inner])
    (hh : l'.held.Perm
      (if given (nextTicket l.inner) = none then nextTicket l.inner :: l.held else l.held)) :
    l'.Kept := by
  obtain ⟨hnew, hopen, hforeign⟩ := h.nextTicket_fresh
  -- the future of the newcomer was neither handed out nor answered before
  have hnotHeld : nextTicket l.inner ∉ l.held := fun hmem =>
    hnew ((h.mem_held_iff _).mp hmem).1
  have hmem : ∀ t ∈ l'.handedOut, t ∈ l.handedOut ∨ t = nextTicket l.inner := by
    intro t ht
    rw [ho, List.mem_append, List.mem_singleton] at ht
    exact ht
  constructor
  case nodup =>
    rw [hh.nodup_iff]
    split
    · exact List.nodup_cons.mpr ⟨hnotHeld, h.nodup⟩
    · exact h.nodup
  case mem_held_iff =>
    intro t
    rw [hh.mem_iff, hw.result?_eq, ho, List.mem_append, List.mem_singleton]
    by_cases ht : t = nextTicket l.inner
    · subst ht
      rw [hopen, Option.none_or]
      split
      · next hnone => simp [hnone]
      · next hsome => simp [hsome, hnotHeld]
    · rw [hothers t ht, Option.or_none]
      have hheld : (t ∈ if given (nextTicket l.inner) = none then nextTicket l.inner :: l.held
          else l.held) ↔ t ∈ l.held := by
        split <;> simp [ht]
      rw [hheld, h.mem_held_iff]
      simp [ht]
  case made =>
    intro t ht
    rw [hw.nextTicket_eq]
    rcases hmem t ht with hold | rfl
    · exact Nat.lt_succ_of_lt (h.made t hold)
    · exact Nat.lt_succ_self _
  case foreign =>
    intro t ht
    rw [hw.owed_eq]
    rcases hmem t ht with hold | rfl
    · exact h.foreign t hold
    · exact hforeign
  case tidy =>
    refine isTidy_of_writes hw (fun t ht => ?_) h.tidy
    have hticket : t = nextTicket l.inner := by
      by_contra hne
      exact ht (hothers t hne)
    rw [hw.nextTicket_eq, hticket]
    exact Nat.lt_succ_self _

/-- Some of those who wait may be answered. -/
theorem Kept.of_answer (h : l.Kept) {ts : List Ticket} {r : Ticket → Readiness}
    (hw : Writes l.inner l'.inner 0 fun t => if t ∈ ts then some (r t) else none)
    (ho : l'.handedOut = l.handedOut) (hh : l.held.Perm (ts ++ l'.held)) : l'.Kept := by
  obtain ⟨-, hnodup, hdisjoint⟩ := List.nodup_append.mp (hh.nodup_iff.mp h.nodup)
  constructor
  case nodup => exact hnodup
  case mem_held_iff =>
    intro t
    have hbefore := h.mem_held_iff t
    rw [hh.mem_iff, List.mem_append] at hbefore
    rw [hw.result?_eq, ho, Option.or_eq_none_iff, ← and_assoc, ← hbefore]
    by_cases ht : t ∈ ts
    · have hgone : t ∉ l'.held := fun hmem => hdisjoint t ht t hmem rfl
      simp [ht, hgone]
    · simp [ht]
  case made =>
    intro t ht
    rw [hw.nextTicket_eq]
    exact h.made t (ho ▸ ht)
  case foreign =>
    intro t ht
    rw [hw.owed_eq]
    exact h.foreign t (ho ▸ ht)
  case tidy =>
    refine isTidy_of_writes hw (fun t ht => ?_) h.tidy
    have hmem : t ∈ ts := by
      by_contra hnot
      exact ht (if_neg hnot)
    rw [hw.nextTicket_eq]
    have hheld : t ∈ l.held := hh.mem_iff.mpr (List.mem_append_left _ hmem)
    exact h.made t ((h.mem_held_iff t).mp hheld).1

/-- Whatever happens to callers, nobody is forgotten, and nobody is held twice. -/
theorem Kept.of_serves (h : l.Kept) (hs : l.Serves l') : l'.Kept := by
  cases hs with
  | leave hd ho hh => exact h.of_leave hd ho hh
  | seat hw ho hh => exact h.of_newcomer hw (fun _ _ => rfl) ho (by simpa using hh)
  | refuse hw ho hh => exact h.of_newcomer hw (fun t ht => if_neg ht) ho (by simpa using hh)
  | answer hw ho hh => exact h.of_answer hw ho hh

/-- Nothing that happens to callers changes an answer. -/
theorem Serves.keeps (h : l.Serves l') {t : Ticket} {r : Readiness}
    (ht : result? l.inner t = some r) : result? l'.inner t = some r := by
  cases h with
  | leave hd => exact hd.keeps t r ht
  | seat hw | refuse hw | answer hw => rw [hw.result?_eq, ht, Option.some_or]

/-- Callers are not forgotten. -/
theorem Serves.mem_handedOut (h : l.Serves l') {t : Ticket} (ht : t ∈ l.handedOut) :
    t ∈ l'.handedOut := by
  cases h with
  | leave _ ho | answer _ ho => exact ho ▸ ht
  | seat _ ho | refuse _ ho => exact ho ▸ List.mem_append_left _ ht

end Lobby

/-! ### Moves -/

/-- An activity that concerns no callers leaves them to the edge. -/
theorem serves_of_eq {g g₁ : Governed σ} {ts ts' : List Ticket} (hi : g₁.inner = g.inner)
    (ho : g₁.handedOut = g.handedOut) (hq : g₁.queueWaiters = g.queueWaiters) (hw : ts' = ts) :
    (g.lobbyOf ts).Serves (g₁.lobbyOf ts') := by
  unfold lobbyOf
  rw [hi, ho, hq, hw]
  exact .leave (.refl ..) rfl (.refl _)

/-- A step of an activity serves those whom it holds. -/
theorem serves_turns {g g₁ : Governed σ} {a : Activity} {after : List Activity}
    (h : g.Turns a g₁ after) :
    (g.lobbyOf (waiters a)).Serves (g₁.lobbyOf (after.flatMap waiters)) := by
  -- those whom an activity holds stand behind those who wait for what is queued
  have hanswer : ∀ ts : List Ticket,
      (g.queueWaiters ++ ts).Perm (ts ++ (g.queueWaiters ++ [])) := by
    intro ts
    rw [List.append_nil]
    exact List.perm_append_comm
  have hseat : (g.queueWaiters ++ [nextTicket g.inner]).Perm
      (nextTicket g.inner :: (g.queueWaiters ++ [])) := by
    rw [List.append_nil]
    exact List.perm_append_singleton ..
  cases h with
  | decline => exact .refuse (writes_handOutAnswered g) rfl (.refl _)
  | promise | change => exact .seat (writes_handOut g) rfl hseat
  | enqueue =>
    refine .leave (.refl ..) rfl (.of_eq ?_)
    exact List.append_nil _
  | failSpawn | dropLaunch | dropAwait => exact .answer (writes_abandon g _) rfl (hanswer _)
  | tell | excuse => exact .answer (writes_answer g ..) rfl (hanswer _)
  | launch =>
    refine .leave (dutiful_call g _) rfl (.of_eq ?_)
    exact congrArg (g.queueWaiters ++ ·) (List.append_nil _)
  | halt | schedule | failSchedule =>
    exact .leave (Accountable.dutiful_interval g.inner) rfl (.refl _)
  | closeEdge => exact .leave (Accountable.dutiful_close g.inner) rfl (.refl _)
  | take hq | dismiss hq =>
    exact .leave (.refl ..) rfl (.of_eq (by simp [lobbyOf, queueWaiters, waiters, hq]))
  | turnAway | leave => exact serves_of_eq rfl rfl rfl (flatMap_waiters_afterwards _)
  | _ => exact serves_of_eq rfl rfl rfl (by simp [waiters])

/-- The answer that an activity is about to give to a caller. -/
def given (a : Activity) (t : Ticket) : Option Readiness :=
  match a with
  | .tell r ts => if t ∈ ts then some r else none
  | _ => none

/-- On an open governor callers are answered by the end of a request and nothing else. -/
theorem result?_turns {g g₁ : Governed σ} {a : Activity} {after : List Activity}
    (h : g.Turns a g₁ after) (ha : isClosing a = false) (hc : g₁.isClosed = false) {t : Ticket}
    (hmade : t < nextTicket g.inner) (hforeign : t ∉ Accountable.owed g.inner) :
    result? g₁.inner t = (result? g.inner t).or (given a t) := by
  have hold : t ≠ nextTicket g.inner := Nat.ne_of_lt hmade
  cases h with
  | decline => rw [(writes_handOutAnswered g).result?_eq, if_neg hold]; rfl
  | promise | change => exact (writes_handOut g).result?_eq t
  | launch => rw [(dutiful_call g _).result?_eq hmade hforeign]; exact (Option.or_none).symm
  | halt | schedule | failSchedule =>
    rw [(Accountable.dutiful_interval g.inner).result?_eq hmade hforeign]
    exact (Option.or_none).symm
  | tell => exact (writes_answer g ..).result?_eq t
  | failSpawn hclosed | dropLaunch hclosed | dropAwait hclosed =>
    exact nomatch hclosed.symm.trans hc
  | shutDown => exact nomatch hc
  | release | closeEdge | dismiss | dismissNothing | free | excuse => exact nomatch ha
  | _ => exact (Option.or_none).symm

/-- Every step of an activity serves the callers. -/
theorem serves_steps {g g' g₁ : Governed σ} {i : Nat} {a : Activity} {after rest : List Activity}
    (h : g.Steps i g' a g₁ after rest) : g.lobby.Serves g'.lobby := by
  obtain ⟨-, hbefore, hturns, l, hafter, rfl⟩ := h
  have hheld : (g.queueWaiters ++ g.activities.flatMap waiters).Perm
      (g.queueWaiters ++ waiters a ++ rest.flatMap waiters) := by
    rw [List.append_assoc]
    exact (hbefore.flatMap_right waiters).append_left _
  have hheld' : (g₁.queueWaiters ++ l.flatMap waiters).Perm
      (g₁.queueWaiters ++ after.flatMap waiters ++ rest.flatMap waiters) := by
    rw [List.append_assoc, ← List.flatMap_append]
    exact (hafter.flatMap_right waiters).append_left _
  exact (serves_turns hturns).frame hheld hheld'

/-- Every move serves the callers. -/
theorem serves_move (g : Governed σ) (m : Move σ) : g.lobby.Serves (g.move m).lobby := by
  have hm := moves_move g m
  generalize g.move m = g' at hm
  cases hm with
  | idle => exact .leave (.refl ..) rfl (.refl _)
  | start _ ha =>
    refine .leave (.refl ..) rfl (.of_eq ?_)
    simp [lobby, lobbyOf, queueWaiters, List.flatMap_append, waiters_of_isFirst ha]
  | advance h => exact serves_steps h
  | inner => exact .leave (Accountable.dutiful_happen ..) rfl (.refl _)

/-- In every run those who wait are held, each of them once. -/
theorem kept_run {e : σ} (he : IsTidy e) (moves : List (Move σ)) :
    ((new e).run moves).lobby.Kept := by
  induction moves using List.reverseRecOn with
  | nil =>
    constructor
    case nodup => exact List.nodup_nil
    case mem_held_iff => simp [lobby, lobbyOf, new, queueWaiters]
    case made => exact fun t ht => absurd ht List.not_mem_nil
    case foreign => exact fun t ht => absurd ht List.not_mem_nil
    case tidy => exact he
  | append_singleton moves m ih =>
    rw [run_concat]
    exact ih.of_serves (serves_move ..)

end FeatureFlags.Edge.Governed
