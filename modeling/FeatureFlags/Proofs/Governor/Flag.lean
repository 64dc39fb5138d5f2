import Mathlib.Data.List.Count
import Mathlib.Data.List.Induction
import FeatureFlags.Proofs.Governor.Moves

/-!
# Who has the flag of a governor

As long as a governor is open, the flag is set exactly while one activity has it, and then one
alone (`Guarded`). Whoever has it will look at the queue before it lets the flag go for good, and
so will whoever found the flag taken and is not done (`looks`): what is queued never lies there
with nobody to look at it, unless the governor was closed and somebody who queued a change was
turned away by a flag that nobody has any more (`watched_move`).
-/

set_option autoImplicit false

namespace FeatureFlags.Edge.Governed

/-! ### The flag -/

/-- Whether an activity has the flag. -/
def hasFlag : Activity → Bool
  | .promise | .take _ | .unlock _ | .cancelTimer .. | .spawn .. | .launch .. | .await ..
  | .finish .. => true
  | _ => false

/-- Whether an activity only goes on when the governor is closed. -/
def isClosing : Activity → Bool
  | .release | .closeEdge | .dismiss | .free _ | .excuse _ => true
  | _ => false

/-- What an activity does first has neither the flag nor to do with closing. -/
theorem not_hasFlag_of_isFirst {a : Activity} (h : isFirst a = true) :
    hasFlag a = false ∧ isClosing a = false := by
  cases a <;> first | exact ⟨rfl, rfl⟩ | exact nomatch h

variable {σ : Type}

/-- Whether the flag of an open governor is in good hands. -/
structure Guarded (g : Governed σ) : Prop where
  /-- The flag is set exactly while one activity has it. -/
  count_eq : g.isClosed = false → g.activities.countP hasFlag = g.isBusy.toNat
  /-- Nobody acts as if the governor was closed. -/
  not_isClosing : g.isClosed = false → ∀ a ∈ g.activities, isClosing a = false

/-- What follows a request does not have the flag. -/
theorem count_afterwards (isTask : Bool) : (afterwards isTask).countP hasFlag = 0 := by
  cases isTask <;> rfl

variable [Edge σ]

section Turns

variable {g g₁ : Governed σ} {a : Activity} {after : List Activity}

omit [Edge σ] in
/-- Whoever has the flag of an open governor has it alone. -/
theorem Guarded.hasFlag_rest (hg : g.Guarded) (hc : g.isClosed = false) {rest : List Activity}
    (hbefore : g.activities.Perm (a :: rest)) (ha : hasFlag a = true) :
    ∀ x ∈ rest, hasFlag x = false := by
  have hcount := hg.count_eq hc
  rw [hbefore.countP_eq, List.countP_cons_of_pos ha] at hcount
  have hle := Bool.toNat_le g.isBusy
  have hzero : rest.countP hasFlag = 0 := by omega
  intro x hx
  simpa using List.countP_eq_zero.mp hzero x hx

/-- A closed governor stays closed. -/
theorem isClosed_turns (h : g.Turns a g₁ after) (hc : g₁.isClosed = false) :
    g.isClosed = false := by
  cases h with
  | shutDown => exact nomatch hc
  | _ => exact hc

/-- On an open governor an activity keeps or passes on what it has of the flag, or sets the flag
for itself, or clears it. -/
theorem flag_turns (h : g.Turns a g₁ after) (ha : isClosing a = false) (hc : g.isClosed = false) :
    (after.countP hasFlag = [a].countP hasFlag ∧ g₁.isBusy = g.isBusy) ∨
      ([a].countP hasFlag = 0 ∧ g.isBusy = false ∧ after.countP hasFlag = 1 ∧
        g₁.isBusy = true) ∨
      ([a].countP hasFlag = 1 ∧ after.countP hasFlag = 0 ∧ g₁.isBusy = false) := by
  cases h with
  | acquire hb => exact Or.inr (Or.inl ⟨rfl, hb, rfl, rfl⟩)
  | lock hb => exact Or.inr (Or.inl ⟨rfl, hb, rfl, rfl⟩)
  | unlock => exact Or.inr (Or.inr ⟨rfl, rfl, rfl⟩)
  | finish => exact Or.inr (Or.inr ⟨rfl, rfl, rfl⟩)
  | turnAway | leave => exact Or.inl ⟨count_afterwards _, rfl⟩
  | failSpawn hclosed | dropLaunch hclosed | dropAwait hclosed =>
    exact nomatch hclosed.symm.trans hc
  | release | closeEdge | dismiss | dismissNothing | free | excuse => exact nomatch ha
  | _ => exact Or.inl ⟨rfl, rfl⟩

/-- Only whoever closes a governor acts as if it was closed. -/
theorem isClosing_turns (h : g.Turns a g₁ after) (ha : isClosing a = false)
    (hc : g₁.isClosed = false) : ∀ b ∈ after, isClosing b = false := by
  have hafterwards : ∀ isTask, ∀ b ∈ afterwards isTask, isClosing b = false := by decide
  cases h with
  | shutDown => exact nomatch hc
  | failSpawn hclosed => exact nomatch hclosed.symm.trans hc
  | turnAway | leave => exact hafterwards _
  | closeEdge | dismiss | free => exact nomatch ha
  | decline | release | dropLaunch | dropAwait | halt | keepTimer | dismissNothing | excuse =>
    exact List.forall_mem_nil _
  | _ => exact (List.forall_mem_singleton).mpr rfl

end Turns

/-- Every step of an activity keeps the flag in good hands. -/
theorem Guarded.of_steps {g g' g₁ : Governed σ} {i : Nat} {a : Activity}
    {after rest : List Activity} (hg : g.Guarded) (h : g.Steps i g' a g₁ after rest) :
    g'.Guarded := by
  obtain ⟨-, hbefore, hturns, l, hafter, rfl⟩ := h
  have hmem : ∀ b ∈ rest, b ∈ g.activities := fun b hb =>
    hbefore.mem_iff.mpr (List.mem_cons_of_mem a hb)
  have ha : g₁.isClosed = false → isClosing a = false := fun hc =>
    hg.not_isClosing (isClosed_turns hturns hc) a (hbefore.mem_iff.mpr List.mem_cons_self)
  constructor
  case count_eq =>
    intro hc
    have hopen := isClosed_turns hturns hc
    have hcount := hg.count_eq hopen
    have hle := Bool.toNat_le g.isBusy
    rw [hbefore.countP_eq, List.countP_cons, ← List.countP_singleton] at hcount
    rw [show (g₁.withActivities l).isBusy = g₁.isBusy from rfl,
      show (g₁.withActivities l).activities = l from rfl, hafter.countP_eq, List.countP_append]
    rcases flag_turns hturns (ha hc) hopen with ⟨hkeep, hbusy⟩ | ⟨hnone, hfree, hset, hbusy⟩ |
        ⟨hone, hnone, hbusy⟩
    · rw [hbusy]
      omega
    · rw [hbusy, Bool.toNat_true]
      rw [hfree, Bool.toNat_false] at hcount
      omega
    · rw [hbusy, Bool.toNat_false]
      omega
  case not_isClosing =>
    intro hc b hb
    rcases List.mem_append.mp (hafter.mem_iff.mp hb) with hnext | hrest
    · exact isClosing_turns hturns (ha hc) hc b hnext
    · exact hg.not_isClosing (isClosed_turns hturns hc) b (hmem b hrest)

variable [Eventful σ]

/-- Every move keeps the flag in good hands. -/
theorem Guarded.move {g : Governed σ} (hg : g.Guarded) (m : Move σ) : (g.move m).Guarded := by
  have hm := moves_move g m
  generalize g.move m = g' at hm
  cases hm with
  | idle => exact hg
  | start _ ha =>
    obtain ⟨hflag, hclosing⟩ := not_hasFlag_of_isFirst ha
    constructor
    case count_eq => simpa [List.countP_append, hflag] using hg.count_eq
    case not_isClosing =>
      intro hc b hb
      rcases List.mem_append.mp hb with hold | hnew
      · exact hg.not_isClosing hc b hold
      · rw [List.mem_singleton.mp hnew]
        exact hclosing
  | advance h => exact hg.of_steps h
  | inner => exact ⟨hg.count_eq, hg.not_isClosing⟩

/-- In every run the flag is in good hands. -/
theorem guarded_run (e : σ) (moves : List (Move σ)) : ((new e).run moves).Guarded := by
  induction moves using List.reverseRecOn with
  | nil => exact ⟨fun _ => rfl, fun _ => List.forall_mem_nil _⟩
  | append_singleton moves m ih =>
    rw [run_concat]
    exact ih.move m

/-! ### The queue -/

/-- Whether an activity will look at the queue. -/
def looks (isClosed : Bool) : Activity → Bool
  | .lock _ | .take _ | .unlock _ | .recheck _ | .finish .. | .tell .. | .close | .shutDown
  | .closeEdge | .dismiss => true
  | .promise | .cancelTimer .. | .spawn .. | .launch .. | .await .. => !isClosed
  | _ => false

/-- Whether somebody will look at what is queued. -/
def Watched (g : Governed σ) : Prop :=
  g.queued.isSome = true → ∃ a ∈ g.activities, looks g.isClosed a = true

/-- Whether with a move somebody leaves what is queued on a closed governor, because the flag is
set. -/
def turnsAway (g : Governed σ) (m : Move σ) : Bool :=
  match g.acting? m with
  | some (.lock _) => g.isBusy && g.isClosed && g.queued.isSome
  | _ => false

/-- Whoever has the flag of an open governor will look at the queue. -/
theorem looks_of_hasFlag {a : Activity} (h : hasFlag a = true) : looks false a = true := by
  cases a <;> first | rfl | exact nomatch h

omit [Edge σ] [Eventful σ] in
/-- On an open governor somebody else has the flag that turns an activity away. -/
theorem Guarded.exists_looks {g : Governed σ} (hg : g.Guarded) (hc : g.isClosed = false)
    (hb : g.isBusy = true) {isTask : Bool} {rest : List Activity}
    (hbefore : g.activities.Perm (.lock isTask :: rest)) :
    ∃ b ∈ rest, looks g.isClosed b = true := by
  have hcount := hg.count_eq hc
  rw [hb, hbefore.countP_eq, List.countP_cons_of_neg (by simp [hasFlag])] at hcount
  have hpos : 0 < rest.countP hasFlag := Nat.lt_of_lt_of_eq Nat.zero_lt_one hcount.symm
  obtain ⟨b, hmem, hflag⟩ := List.countP_pos_iff.mp hpos
  exact ⟨b, hmem, hc ▸ looks_of_hasFlag hflag⟩

section Turns

omit [Eventful σ]

variable {g g₁ : Governed σ} {a : Activity} {after : List Activity}

/-- Whoever will look at the queue and does not will do so later, finds nothing there, or is
turned away. -/
theorem looks_turns (h : g.Turns a g₁ after) (ha : looks g.isClosed a = true) :
    (∃ b ∈ after, looks g₁.isClosed b = true) ∨ g₁.queued.isSome = false ∨
      g.isBusy = true ∧ ∃ isTask, a = .lock isTask := by
  cases h with
  | turnAway hb => exact Or.inr (Or.inr ⟨hb, _, rfl⟩)
  | take => exact Or.inr (Or.inl rfl)
  | leave hq | dismissNothing hq => exact Or.inr (Or.inl (by simp [hq]))
  | dismiss => exact Or.inr (Or.inl rfl)
  | failSpawn hc | dropLaunch hc | dropAwait hc =>
    rw [hc] at ha
    exact nomatch ha
  | lock | takeNothing | unlock | retry | await | finish | tell | close | shutDown | closeEdge =>
    exact Or.inl ⟨_, List.mem_singleton_self _, rfl⟩
  | promise | cancelTimer | spawn | launch =>
    exact Or.inl ⟨_, List.mem_singleton_self _, ha⟩
  | _ => exact nomatch ha

/-- Whoever queues something will look at the queue. -/
theorem looks_of_enqueue (h : g.Turns a g₁ after) (hq : g.queued.isSome = false)
    (hq₁ : g₁.queued.isSome = true) : ∃ b ∈ after, looks g₁.isClosed b = true := by
  cases h with
  | enqueue => exact ⟨_, List.mem_singleton_self _, rfl⟩
  | take | dismiss => exact nomatch hq₁
  | _ => exact absurd (hq.symm.trans hq₁) Bool.false_ne_true

/-- Only the end of all tasks makes others look away. -/
theorem isClosed_eq_of_ne (h : g.Turns a g₁ after) (ha : a ≠ .shutDown) :
    g₁.isClosed = g.isClosed := by
  cases h with
  | shutDown => exact absurd rfl ha
  | _ => rfl

end Turns

/-- A step leaves somebody who will look at the queue, unless it turns away from it. -/
theorem Watched.of_steps {g g' g₁ : Governed σ} {i : Nat} {a : Activity}
    {after rest : List Activity} (hw : g.Watched) (hg : g.Guarded)
    (h : g.Steps i g' a g₁ after rest) : g'.Watched ∨ g.turnsAway (.advance i) = true := by
  obtain ⟨hplace, hbefore, hturns, l, hafter, rfl⟩ := h
  by_cases haway : g.turnsAway (.advance i) = true
  · exact Or.inr haway
  refine Or.inl fun hq₁ => ?_
  have hnext : (∃ b ∈ after, looks g₁.isClosed b = true) →
      ∃ b ∈ l, looks g₁.isClosed b = true := fun ⟨b, hb, hlooks⟩ =>
    ⟨b, hafter.mem_iff.mpr (List.mem_append_left _ hb), hlooks⟩
  have hothers : a ≠ .shutDown → (∃ b ∈ rest, looks g.isClosed b = true) →
      ∃ b ∈ l, looks g₁.isClosed b = true := fun ha ⟨b, hb, hlooks⟩ =>
    ⟨b, hafter.mem_iff.mpr (List.mem_append_right _ hb),
      (isClosed_eq_of_ne hturns ha).symm ▸ hlooks⟩
  cases hq : g.queued.isSome with
  | false => exact hnext (looks_of_enqueue hturns hq hq₁)
  | true =>
    obtain ⟨b, hb, hlooks⟩ := hw hq
    cases ha : looks g.isClosed a with
    | false =>
      refine hothers (fun heq => by simp [heq, looks] at ha) ⟨b, ?_, hlooks⟩
      have hne : b ≠ a := fun heq => Bool.false_ne_true (ha.symm.trans (heq ▸ hlooks))
      exact (List.mem_cons.mp (hbefore.mem_iff.mp hb)).resolve_left hne
    | true =>
      -- who was to look has looked or will, or was turned away by another one who has the flag
      rcases looks_turns hturns ha with hlater | hnothing | ⟨hbusy, isTask, rfl⟩
      · exact hnext hlater
      · exact nomatch hnothing.symm.trans hq₁
      · have hopen : g.isClosed = false := by
          by_contra hc
          have hclosed : g.isClosed = true := by simpa using hc
          exact haway (by simp [turnsAway, acting?, hplace, hbusy, hclosed, hq])
        exact hothers (by simp) (hg.exists_looks hopen hbusy hbefore)

/-- Somebody will look at what is queued, unless whoever would is turned away. -/
theorem Watched.move {g : Governed σ} (hw : g.Watched) (hg : g.Guarded) (m : Move σ) :
    (g.move m).Watched ∨ g.turnsAway m = true := by
  have hm := moves_move g m
  generalize g.move m = g' at hm
  cases hm with
  | idle | inner => exact Or.inl hw
  | start =>
    refine Or.inl fun hq => ?_
    obtain ⟨b, hb, hlooks⟩ := hw hq
    exact ⟨b, List.mem_append_left _ hb, hlooks⟩
  | advance h => exact hw.of_steps hg h

/-- A governor that is open after a move was open before. -/
theorem isClosed_move {g : Governed σ} {m : Move σ} (hc : (g.move m).isClosed = false) :
    g.isClosed = false := by
  have hm := moves_move g m
  generalize g.move m = g' at hm hc
  cases hm with
  | idle | start | inner => exact hc
  | advance h =>
    obtain ⟨-, -, hturns, l, -, rfl⟩ := h
    exact isClosed_turns hturns hc

/-- On an open governor somebody will look at what is queued. -/
theorem watched_of_open {e : σ} {moves : List (Move σ)}
    (hc : ((new e).run moves).isClosed = false) : ((new e).run moves).Watched := by
  induction moves using List.reverseRecOn with
  | nil => exact fun hq => nomatch hq
  | append_singleton moves m ih =>
    rw [run_concat] at hc ⊢
    have hopen := isClosed_move hc
    refine ((ih hopen).move (guarded_run e moves) m).resolve_right fun haway => ?_
    unfold turnsAway at haway
    split at haway
    · rw [hopen, Bool.and_false, Bool.false_and] at haway
      exact nomatch haway
    · exact nomatch haway

end FeatureFlags.Edge.Governed
