import FeatureFlags.Proofs.Governor.Flag
import FeatureFlags.Simulation.Scripted

/-!
# The timer of a governor

A request cancels the timer that is remembered, and its task sets another one when it has ended.
Between the two there is to be one timer or one request, and never both.

Each request that a caller begins brings one more timer, each timer that fires or is cancelled is
one less, and no other step changes the sum of the timers that are running and those that are
still to be set (`load_move`). So at rest a governor has the timer that it should have exactly if
all requests but one have used up a timer (`one_timer_iff`). This is so unless steps of different
activities get between each other in one of two ways (`isOrderly`). A request starts while the
task of another one has freed the flag, but has not remembered its timer: this timer is not
cancelled. Or the poll of a timer that has fired finds the flag taken by a caller who turns out to
have nothing to send: nobody sets another timer.
-/

set_option autoImplicit false

namespace FeatureFlags.Edge.Governed

/-! ### Timers that are running, or still to be set -/

/-- Whether an activity belongs to a request whose timer was not set yet: the request is about to
be made or under way, or it has ended and its task is not done. -/
def bringsTimer : Activity → Bool
  | .promise | .cancelTimer .. | .spawn .. | .launch .. | .await .. | .finish .. | .tell ..
  | .schedule => true
  | .lock isTask | .take isTask | .unlock isTask | .recheck isTask => isTask
  | _ => false

variable {σ : Type}

/-- The number of timers that are running, and of those that are still to be set. -/
def load (g : Governed σ) : Nat := g.timers.length + g.activities.countP bringsTimer

/-- Whether with its next step an activity begins a request on behalf of a caller. -/
def beginsRequest (g : Governed σ) : Activity → Bool
  | .acquire => !g.isBusy
  | .take isTask => !isTask && g.queued.isSome
  | _ => false

/-- What follows a request brings a timer if it is done by a task. -/
theorem count_bringsTimer_afterwards (isTask : Bool) :
    (afterwards isTask).countP bringsTimer = isTask.toNat := by
  cases isTask <;> rfl

/-- One activity brings one timer or none. -/
theorem count_bringsTimer_singleton (a : Activity) :
    [a].countP bringsTimer = (bringsTimer a).toNat := by
  cases h : bringsTimer a <;> simp [h]

variable [Edge σ]

/-- On an open governor an activity that has not set its timer yet sets it or passes it on, and
only a caller who begins a request takes on another one. -/
theorem load_turns {g g₁ : Governed σ} {a : Activity} {after : List Activity}
    (h : g.Turns a g₁ after) (ha : isClosing a = false) (hc : g₁.isClosed = false)
    (hasks : a = .schedule → asksAgain g.inner = true) :
    g₁.timers.length + after.countP bringsTimer + (g.timers.length - g₁.timers.length) =
      g.timers.length + (bringsTimer a).toNat + (g.beginsRequest a).toNat := by
  have hcancel : g.cancelTimer.timers.length ≤ g.timers.length := List.length_filter_le ..
  cases h with
  | skip hb | acquire hb => simp [bringsTimer, beginsRequest, hb]
  | turnAway | leave => simp [count_bringsTimer_afterwards, bringsTimer, beginsRequest]
  | @take isTask q hq => cases isTask <;> simp [bringsTimer, beginsRequest, hq]
  | takeNothing hq =>
    rw [count_bringsTimer_singleton]
    simp [bringsTimer, beginsRequest, hq]
  | cancelTimer | close =>
    simp only [count_bringsTimer_singleton, bringsTimer, beginsRequest, Bool.toNat_true,
      Bool.toNat_false]
    omega
  | halt hno => exact nomatch hno.symm.trans (hasks rfl)
  | failSchedule hclosed | failSpawn hclosed | dropLaunch hclosed | dropAwait hclosed =>
    exact nomatch hclosed.symm.trans hc
  | shutDown => exact nomatch hc
  | release | closeEdge | dismiss | dismissNothing | free | excuse => exact nomatch ha
  | decline | keepTimer => simp [bringsTimer, beginsRequest, handOutAnswered]
  | _ =>
    rw [count_bringsTimer_singleton]
    simp [bringsTimer, beginsRequest, handOut, enqueue, answer, modifyFutures,
      Governed.modifyShared]

/-! ### Governors at rest -/

variable [Eventful σ]

/-- Whether a caller begins a request with a move. -/
def begins (g : Governed σ) (m : Move σ) : Bool := (g.acting? m).any g.beginsRequest

/-- The number of timers that fire or are cancelled with a move. -/
def spends (g : Governed σ) (m : Move σ) : Nat := g.timers.length - (g.move m).timers.length

/-- On an open governor the timers that are running or still to be set become more by the requests
that callers begin, and fewer by the timers that fire or are cancelled. -/
theorem load_move {g : Governed σ} (hg : g.Guarded) {m : Move σ}
    (hc : (g.move m).isClosed = false)
    (hasks : g.acting? m = some .schedule → asksAgain g.inner = true) :
    (g.move m).load + g.spends m = g.load + (g.begins m).toNat := by
  have hm := moves_move g m
  unfold spends begins
  generalize g.move m = g' at hm hc
  cases hm with
  | idle hwaits =>
    have hnone : (g.acting? m).any g.beginsRequest = false := by
      cases hacting : g.acting? m with
      | none => rfl
      | some a =>
        obtain ⟨answer, waiters, rfl⟩ := hwaits a hacting
        rfl
    rw [hnone, Nat.sub_self]
    rfl
  | @start _ a timers hacting ha ht =>
    have hle : timers.length ≤ g.timers.length := by
      rcases ht with rfl | ⟨hsub, -⟩
      · exact Nat.le_refl _
      · exact hsub.length_le
    -- whoever comes brings no timer before the flag is taken; a timer that fires is gone
    have hcount : [a].countP bringsTimer = 0 := by
      cases a <;> first | rfl | exact nomatch ha
    simp only [load, hacting, Option.any_none, List.countP_append, hcount, Bool.toNat_false]
    omega
  | @advance i _ g₁ a after rest h =>
    obtain ⟨hplace, hbefore, hturns, l, hafter, rfl⟩ := h
    have hacting : g.acting? (.advance i) = some a := hplace
    have hopen := isClosed_turns hturns hc
    have hclosing := hg.not_isClosing hopen a (hbefore.mem_iff.mpr List.mem_cons_self)
    have hload := load_turns hturns hclosing hc fun ha => hasks (by rw [hacting, ha])
    have hold : g.activities.countP bringsTimer =
        (bringsTimer a).toNat + rest.countP bringsTimer := by
      rw [hbefore.countP_eq, List.countP_cons, ← count_bringsTimer_singleton,
        List.countP_singleton, Nat.add_comm]
    have hnew : l.countP bringsTimer = after.countP bringsTimer + rest.countP bringsTimer := by
      rw [hafter.countP_eq, List.countP_append]
    simp only [load, hacting, Option.any_some, withActivities, hold, hnew]
    omega
  | inner => simp [load, acting?]

/-- Whether a task has freed the flag after its request, and is not done. -/
def isLeaving : Activity → Bool
  | .tell .. | .schedule | .keepTimer _ => true
  | .lock isTask | .take isTask | .unlock isTask | .recheck isTask => isTask
  | _ => false

/-- Whether a request has cancelled the timer, and the task is not done. -/
def isActive : Activity → Bool
  | .spawn .. | .launch .. | .await .. | .finish .. => true
  | a => isLeaving a

/-- Whether with a move a request cancels the timer while the task of another one has freed the
flag, but has not remembered its timer yet. -/
def overlaps (g : Governed σ) (m : Move σ) : Bool :=
  match g.acting? m with
  | some (.cancelTimer ..) => g.activities.any isLeaving
  | _ => false

/-- Whether with a move somebody who polls is turned away although no timer is running or still to
be set. -/
def misses (g : Governed σ) (m : Move σ) : Bool :=
  match g.acting? m with
  | some .acquire => g.isBusy && g.load == 0
  | _ => false

/-- Whether nothing got between the timer of a governor and the activities. -/
structure Tidy (g : Governed σ) : Prop where
  /-- At most one request is active. -/
  count_le : g.activities.countP isActive ≤ 1
  /-- At most one timer is running. -/
  timers_eq : ∀ t ∈ g.timers, g.timers = [t]
  /-- It is remembered and no request is active, or its task is about to remember it. -/
  remembered : ∀ t ∈ g.timers,
    g.timer = some t.id ∧ (∀ a ∈ g.activities, isActive a = false) ∨
      .keepTimer (some t.id) ∈ g.activities

/-- Whether the polling goes on: a timer is running or still to be set, or somebody is about to
poll. Nothing of this is needed when the governor is about to be closed. -/
def IsAwake (g : Governed σ) : Prop :=
  0 < g.load ∨ .acquire ∈ g.activities ∨ .shutDown ∈ g.activities

section Tidy

omit [Edge σ] [Eventful σ]

variable {g g₁ : Governed σ} {a : Activity} {after rest l : List Activity}

/-- Whoever is active has the flag, or is leaving. -/
theorem hasFlag_or_isLeaving (h : isActive a = true) : hasFlag a = true ∨ isLeaving a = true := by
  cases a <;> first | exact Or.inl rfl | exact Or.inr h

/-- Whoever is about to remember a timer is the only one who is active. -/
theorem Tidy.isActive_rest (hg : g.Tidy) (hbefore : g.activities.Perm (a :: rest))
    (ha : isActive a = true) : ∀ b ∈ rest, isActive b = false := by
  have hcount := hg.count_le
  rw [hbefore.countP_eq, List.countP_cons_of_pos ha] at hcount
  have hzero : rest.countP isActive = 0 := by omega
  intro b hb
  simpa using List.countP_eq_zero.mp hzero b hb

/-- While a request is active whose task is not about to remember a timer, none is running. -/
theorem Tidy.timers_eq_nil (hg : g.Tidy) (hbefore : g.activities.Perm (a :: rest))
    (ha : isActive a = true) (hkeep : ∀ id, a ≠ .keepTimer id) : g.timers = [] := by
  refine List.eq_nil_iff_forall_not_mem.mpr fun t ht => ?_
  rcases hg.remembered t ht with ⟨-, hnone⟩ | hmem
  · exact nomatch ha.symm.trans (hnone a (hbefore.mem_iff.mpr List.mem_cons_self))
  · have hrest := (List.mem_cons.mp (hbefore.mem_iff.mp hmem)).resolve_left (hkeep _).symm
    exact nomatch hg.isActive_rest hbefore ha _ hrest

/-- Nothing gets between the timer and an activity that lets the timer be. -/
theorem Tidy.keep (hg : g.Tidy) (hbefore : g.activities.Perm (a :: rest))
    (hafter : l.Perm (after ++ rest)) (htimers : g₁.timers = g.timers)
    (htimer : g₁.timer = g.timer) (hcount : after.countP isActive ≤ [a].countP isActive)
    (hkeep : ∀ id, a ≠ .keepTimer id) : (g₁.withActivities l).Tidy where
  count_le := by
    have hle := hg.count_le
    rw [hbefore.countP_eq, List.countP_cons, ← List.countP_singleton] at hle
    show l.countP isActive ≤ 1
    rw [hafter.countP_eq, List.countP_append]
    omega
  timers_eq := by
    show ∀ t ∈ g₁.timers, g₁.timers = [t]
    rw [htimers]
    exact hg.timers_eq
  remembered := by
    show ∀ t ∈ g₁.timers, g₁.timer = some t.id ∧ (∀ b ∈ l, isActive b = false) ∨
      .keepTimer (some t.id) ∈ l
    rw [htimers, htimer]
    intro t ht
    refine (hg.remembered t ht).imp (And.imp_right fun hnone b hb => ?_) fun hmem => ?_
    · have ha : [a].countP isActive = 0 := by
        simp [hnone a (hbefore.mem_iff.mpr List.mem_cons_self)]
      rcases List.mem_append.mp (hafter.mem_iff.mp hb) with hb | hb
      · have hzero : after.countP isActive = 0 := Nat.le_zero.mp (ha ▸ hcount)
        simpa using List.countP_eq_zero.mp hzero b hb
      · exact hnone b (hbefore.mem_iff.mpr (List.mem_cons_of_mem a hb))
    · have hrest := (List.mem_cons.mp (hbefore.mem_iff.mp hmem)).resolve_left (hkeep _).symm
      exact hafter.mem_iff.mpr (List.mem_append_right _ hrest)

/-- With a timer fewer there is still one at most. -/
theorem Tidy.sublist (hg : g.Tidy) {timers : List Timer} (hsub : timers.Sublist g.timers)
    {t : Timer} (ht : t ∈ timers) : timers = [t] := by
  have hone : timers.Sublist [t] := hg.timers_eq t (hsub.subset ht) ▸ hsub
  exact hone.eq_of_length_le (List.length_pos_of_mem ht)

/-- A request that starts finds the timer remembered, and leaves none. -/
theorem Tidy.cancelTimer (hg : g.Tidy) (hguarded : g.Guarded) (hc : g.isClosed = false)
    {job : Job} {waiters : List Ticket}
    (hbefore : g.activities.Perm (.cancelTimer job waiters :: rest))
    (hafter : l.Perm (.spawn job waiters :: rest))
    (hlap : ∀ b ∈ g.activities, isLeaving b = false) : (g.cancelTimer.withActivities l).Tidy := by
  have hnone : g.cancelTimer.timers = [] := by
    refine List.filter_eq_nil_iff.mpr fun t ht => ?_
    rcases hg.remembered t ht with ⟨htimer, -⟩ | hmem
    · simp [htimer]
    · exact nomatch hlap _ hmem
  constructor
  case count_le =>
    -- nobody else has the flag, and nobody is leaving
    have hzero : rest.countP isActive = 0 := by
      refine List.countP_eq_zero.mpr fun b hb hactive => ?_
      rcases hasFlag_or_isLeaving hactive with hflag | hleaving
      · exact nomatch hflag.symm.trans (hguarded.hasFlag_rest hc hbefore rfl b hb)
      · have hmem := hbefore.mem_iff.mpr (List.mem_cons_of_mem _ hb)
        exact nomatch hleaving.symm.trans (hlap b hmem)
    show l.countP isActive ≤ 1
    rw [hafter.countP_eq, List.countP_cons, hzero]
    exact Nat.le_refl 1
  case timers_eq => exact fun t ht => absurd (hnone ▸ ht) List.not_mem_nil
  case remembered => exact fun t ht => absurd (hnone ▸ ht) List.not_mem_nil

/-- A task that remembers its timer leaves nobody who is active. -/
theorem Tidy.keepTimer (hg : g.Tidy) {id : Option TimerId}
    (hbefore : g.activities.Perm (.keepTimer id :: rest)) (hafter : l.Perm rest) :
    ({ g with timer := id }.withActivities l).Tidy := by
  have hrest := hg.isActive_rest hbefore rfl
  constructor
  case count_le =>
    have hzero := List.countP_eq_zero.mpr fun b hb => Bool.eq_false_iff.mp (hrest b hb)
    show l.countP isActive ≤ 1
    rw [hafter.countP_eq, hzero]
    exact Nat.zero_le 1
  case timers_eq => exact hg.timers_eq
  case remembered =>
    intro t ht
    refine Or.inl ⟨?_, fun b hb => hrest b (hafter.mem_iff.mp hb)⟩
    show id = some t.id
    rcases hg.remembered t ht with ⟨-, hnone⟩ | hmem
    · exact nomatch hnone _ (hbefore.mem_iff.mpr List.mem_cons_self)
    · rcases List.mem_cons.mp (hbefore.mem_iff.mp hmem) with hself | hother
      · exact (Activity.keepTimer.inj hself).symm
      · exact nomatch hrest _ hother

/-- Whoever closes a governor cancels the timer that is remembered. -/
theorem Tidy.close (hg : g.Tidy) (hbefore : g.activities.Perm (.close :: rest))
    (hafter : l.Perm (.shutDown :: rest)) : (g.cancelTimer.withActivities l).Tidy := by
  have hsub : g.cancelTimer.timers.Sublist g.timers := List.filter_sublist
  constructor
  case count_le =>
    have hle := hg.count_le
    rw [hbefore.countP_eq] at hle
    show l.countP isActive ≤ 1
    rwa [hafter.countP_eq]
  case timers_eq => exact fun t ht => hg.sublist hsub ht
  case remembered =>
    intro t ht
    refine Or.inr ?_
    rcases hg.remembered t (hsub.subset ht) with ⟨htimer, -⟩ | hmem
    · have hne : some t.id ≠ g.timer := by simpa using (List.mem_filter.mp ht).2
      exact absurd htimer.symm hne
    · have hrest := (List.mem_cons.mp (hbefore.mem_iff.mp hmem)).resolve_left (by simp)
      exact hafter.mem_iff.mpr (List.mem_cons_of_mem _ hrest)

end Tidy

section Turns

omit [Eventful σ]

variable {g g₁ : Governed σ} {a : Activity} {after rest l : List Activity}

/-- A task that sets a timer is the only one who is active, and goes on to remember it. -/
theorem Tidy.schedule (hg : g.Tidy) (hbefore : g.activities.Perm (.schedule :: rest))
    (hafter : l.Perm (.keepTimer (some g.nextTimer) :: rest)) :
    ({ g with
        inner := (Edge.interval g.inner).1
        timers := g.timers ++ [g.upcoming]
        nextTimer := g.nextTimer + 1 }.withActivities l).Tidy := by
  have htimers : g.timers ++ [g.upcoming] = [g.upcoming] := by
    rw [hg.timers_eq_nil hbefore rfl (by simp), List.nil_append]
  constructor
  case count_le =>
    have hzero := List.countP_eq_zero.mpr fun b hb =>
      Bool.eq_false_iff.mp (hg.isActive_rest hbefore rfl b hb)
    show l.countP isActive ≤ 1
    rw [hafter.countP_eq, List.countP_cons, hzero]
    exact Nat.le_refl 1
  case timers_eq =>
    show ∀ t ∈ g.timers ++ [g.upcoming], g.timers ++ [g.upcoming] = [t]
    rw [htimers]
    exact fun t ht => by rw [List.mem_singleton.mp ht]
  case remembered =>
    show ∀ t ∈ g.timers ++ [g.upcoming], _ ∨ .keepTimer (some t.id) ∈ l
    rw [htimers]
    intro t ht
    rw [List.mem_singleton.mp ht]
    exact Or.inr (hafter.mem_iff.mpr List.mem_cons_self)

/-- An activity that takes its turn keeps a governor tidy, if no other task is leaving when it
cancels the timer. -/
theorem Tidy.of_turns (hg : g.Tidy) (hguarded : g.Guarded) (h : g.Turns a g₁ after)
    (hc : g₁.isClosed = false) (hbefore : g.activities.Perm (a :: rest))
    (hafter : l.Perm (after ++ rest))
    (hlap : ∀ job waiters, a = .cancelTimer job waiters → ∀ b ∈ g.activities, isLeaving b = false) :
    (g₁.withActivities l).Tidy := by
  cases h with
  | @cancelTimer job waiters =>
    exact hg.cancelTimer hguarded hc hbefore hafter (hlap job waiters rfl)
  | schedule => exact hg.schedule hbefore hafter
  | keepTimer => exact hg.keepTimer hbefore hafter
  | close => exact hg.close hbefore hafter
  | shutDown => exact nomatch hc
  | turnAway | leave =>
    refine hg.keep hbefore hafter rfl rfl ?_ (by simp)
    cases ‹Bool› <;> decide
  | lock | takeNothing | unlock | retry =>
    exact hg.keep hbefore hafter rfl rfl (Nat.le_refl _) (by simp)
  | _ => exact hg.keep hbefore hafter rfl rfl (by simp [isActive, isLeaving]) (by simp)

end Turns

/-- As long as no request starts between the end of another one and its timer, nothing gets between
the timer and the activities. -/
theorem Tidy.move {g : Governed σ} (hg : g.Tidy) (hguarded : g.Guarded) {m : Move σ}
    (hc : (g.move m).isClosed = false) (hlap : g.overlaps m = false) : (g.move m).Tidy := by
  have hm := moves_move g m
  generalize g.move m = g' at hm hc
  cases hm with
  | idle => exact hg
  | inner => exact ⟨hg.count_le, hg.timers_eq, hg.remembered⟩
  | @start _ a timers _ ha ht =>
    have hinactive : isActive a = false := by
      cases a <;> first | rfl | exact nomatch ha
    have hsub : timers.Sublist g.timers := by
      rcases ht with rfl | ⟨hsub, -⟩
      · exact List.Sublist.refl _
      · exact hsub
    constructor
    case count_le => simpa [List.countP_append, hinactive] using hg.count_le
    case timers_eq => exact fun t ht => hg.sublist hsub ht
    case remembered =>
      intro t ht
      refine (hg.remembered t (hsub.subset ht)).imp (And.imp_right fun hnone b hb => ?_)
        (List.mem_append_left [a])
      rcases List.mem_append.mp hb with hold | hnew
      · exact hnone b hold
      · rwa [List.mem_singleton.mp hnew]
  | advance h =>
    obtain ⟨hplace, hbefore, hturns, l, hafter, rfl⟩ := h
    refine hg.of_turns hguarded hturns hc hbefore hafter fun job waiters ha => ?_
    subst ha
    simpa [overlaps, acting?, hplace] using hlap

omit [Eventful σ] in
/-- Timers disappear when a request starts or the governor is closed. -/
theorem timers_le_of_turns {g g₁ : Governed σ} {a : Activity} {after : List Activity}
    (h : g.Turns a g₁ after) (hc : g₁.isClosed = false) :
    g.timers.length ≤ g₁.timers.length ∨
      ∃ b ∈ after, bringsTimer b = true ∨ b = .shutDown := by
  cases h with
  | cancelTimer => exact Or.inr ⟨_, List.mem_singleton_self _, Or.inl rfl⟩
  | close => exact Or.inr ⟨_, List.mem_singleton_self _, Or.inr rfl⟩
  | shutDown => exact nomatch hc
  | schedule =>
    refine Or.inl ?_
    rw [List.length_append]
    exact Nat.le_add_right ..
  | _ => exact Or.inl (Nat.le_refl _)

omit [Edge σ] [Eventful σ] in
/-- An activity that brings a timer or shuts the governor down keeps it awake. -/
theorem isAwake_of_mem {g : Governed σ} {b : Activity} (hb : b ∈ g.activities)
    (h : bringsTimer b = true ∨ b = .shutDown) : g.IsAwake := by
  rcases h with hbrings | rfl
  · exact Or.inl (Nat.add_pos_right _ (List.countP_pos_iff.mpr ⟨b, hb, hbrings⟩))
  · exact Or.inr (Or.inr hb)

/-- As long as nobody who polls is turned away for nothing, the polling goes on once a request has
begun. -/
theorem IsAwake.move {g : Governed σ} (hguarded : g.Guarded) {m : Move σ}
    (hawake : g.IsAwake ∨ g.begins m = true) (hc : (g.move m).isClosed = false)
    (hasks : g.acting? m = some .schedule → asksAgain g.inner = true)
    (hmiss : g.misses m = false) : (g.move m).IsAwake := by
  have hload := load_move hguarded hc hasks
  have hm := moves_move g m
  unfold spends at hload
  generalize g.move m = g' at hm hc hload
  cases hm with
  | idle hwaits =>
    refine hawake.resolve_right fun hbegins => ?_
    obtain ⟨a, hacting, hbegins⟩ := (Option.any_eq_true _ _).mp hbegins
    obtain ⟨answer, waiters, rfl⟩ := hwaits a hacting
    cases hbegins
  | inner => exact hawake.resolve_right (by simp [begins, acting?])
  | @start _ a timers hacting ha ht =>
    rcases ht with rfl | ⟨-, rfl⟩
    · have hold : g.IsAwake := hawake.resolve_right (by simp [begins, hacting])
      refine hold.imp (fun hpos => ?_) (Or.imp (List.mem_append_left _) (List.mem_append_left _))
      exact Nat.lt_of_lt_of_le hpos
        (Nat.add_le_add_left ((List.sublist_append_left ..).countP_le) _)
    · exact Or.inr (Or.inl (List.mem_append_right _ (List.mem_singleton_self _)))
  | @advance i _ g₁ a after rest h =>
    obtain ⟨hplace, hbefore, hturns, l, hafter, rfl⟩ := h
    have hacting : g.acting? (.advance i) = some a := hplace
    have hstays : ∀ b, b ∈ g.activities → b ≠ a → b ∈ l := fun b hb hne =>
      hafter.mem_iff.mpr (List.mem_append_right _
        ((List.mem_cons.mp (hbefore.mem_iff.mp hb)).resolve_left hne))
    -- either no timer disappears with the step, or what comes next makes up for those that do
    rcases timers_le_of_turns hturns hc with hle | ⟨b, hb, hbrings⟩
    · have hmore : (g₁.withActivities l).load = g.load + (g.begins (.advance i)).toNat := by
        have hzero : g.timers.length - (g₁.withActivities l).timers.length = 0 :=
          Nat.sub_eq_zero_of_le hle
        omega
      rcases hawake with (hpos | hacquire | hshut) | hbegins
      · exact Or.inl (by omega)
      · by_cases ha : a = .acquire
        · -- whoever polls begins a request, or is turned away for a reason
          subst ha
          refine Or.inl ?_
          cases hbusy : g.isBusy with
          | false => simp [hmore, begins, hacting, beginsRequest, hbusy]
          | true =>
            have hpos : g.load ≠ 0 := by simpa [misses, hacting, hbusy] using hmiss
            omega
        · exact Or.inr (Or.inl (hstays _ hacquire (Ne.symm ha)))
      · refine Or.inr (Or.inr (hstays _ hshut fun ha => ?_))
        subst ha
        cases hturns
        cases hc
      · exact Or.inl (by simp [hmore, hbegins])
    · exact isAwake_of_mem (hafter.mem_iff.mpr (List.mem_append_left _ hb)) hbrings

section Samples

open Simulation (Scripted)

instance : Eventful Scripted where
  Event := Option Readiness
  happen s r := s.release r

end Samples

end FeatureFlags.Edge.Governed
