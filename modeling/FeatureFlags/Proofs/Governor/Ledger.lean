import Mathlib.Data.List.Nodup
import FeatureFlags.Proofs.Governor.Waiters
import FeatureFlags.Proofs.Polling.Conduct

/-!
# Changes of the context, and the requests that carry them

A `Ledger` is kept of a run: which changes of the context were queued, which of them was the
latest when the queue was emptied last, and which requests were made to the edge. As long as the
governor is open, every activity is entitled to what it is about to do (`Entitled`): whoever was
merged into what it takes to the edge asked for what it takes, or for something that was replaced
by it.
-/

set_option autoImplicit false

namespace FeatureFlags.Edge.Governed

/-- A change of the context that was queued. -/
structure Change where
  /-- The header of the context. -/
  header : Option String
  /-- The digest of the header. -/
  sha : String
  /-- The future of whoever queued it. -/
  future : Ticket
deriving DecidableEq, Repr

/-- A request that was made to the edge. -/
structure Call where
  /-- What is asked. -/
  job : Job
  /-- The change of the context that it carries, which was the latest when it was taken. -/
  carried : Option Change
  /-- The future that the edge gave. -/
  answer : Ticket
deriving DecidableEq, Repr

/-- What is known of a run. -/
structure Ledger where
  /-- The changes of the context that were queued, in order. -/
  changes : List Change
  /-- The latest change when something was taken from the queue. -/
  taken : Option Change
  /-- The requests that were made to the edge, in order. -/
  calls : List Call

namespace Ledger

/-- What is known before a run. -/
def empty : Ledger := ⟨[], none, []⟩

/-- The change that a request carries. -/
def carriedBy (b : Ledger) : Job → Option Change
  | .poll => none
  | .changeContext .. => b.taken

variable {σ : Type} [Edge σ]

/-- What is written down when an activity takes a step. -/
def note (b : Ledger) (g : Governed σ) : Activity → Ledger
  | .enqueue header sha waiter => { b with changes := b.changes ++ [⟨header, sha, waiter⟩] }
  | .take _ => if g.queued.isSome then { b with taken := b.changes.getLast? } else b
  | .launch job _ =>
    if g.isClosed then b
    else { b with calls := b.calls ++ [⟨job, b.carriedBy job, (g.call job).2⟩] }
  | _ => b

/-- What is written down in a run. -/
def record [Eventful σ] (b : Ledger) (g : Governed σ) : List (Move σ) → Ledger
  | [] => b
  | m :: moves => ((g.acting? m).elim b (b.note g)).record (g.move m) moves

/-- One more move adds what its activity writes down. -/
theorem record_concat [Eventful σ] (b : Ledger) (g : Governed σ) (moves : List (Move σ))
    (m : Move σ) :
    b.record g (moves ++ [m]) =
      ((g.run moves).acting? m).elim (b.record g moves)
        ((b.record g moves).note (g.run moves)) := by
  induction moves generalizing b g with
  | nil => rfl
  | cons n moves ih => exact ih ..

/-- The requests that the edge has not answered. -/
def unanswered (b : Ledger) (e : σ) : List Call :=
  b.calls.filter fun c => (result? e c.answer).isNone

/-! ### Entitlement -/

/-- Whether a request carries a change of the context, or one that came later. -/
def Covers (b : Ledger) (carried : Option Change) (c : Change) : Prop :=
  ∃ c', carried = some c' ∧ (c' = c ∨ List.Sublist [c, c'] b.changes)

/-- Whether a request carries what all those among some callers asked for who changed the
context. -/
def CoversAll (b : Ledger) (carried : Option Change) (ts : List Ticket) : Prop :=
  ∀ c ∈ b.changes, c.future ∈ ts → b.Covers carried c

/-- Whether a request that changes the context carries a change with its header. -/
def Fits (b : Ledger) (job : Job) (carried : Option Change) : Prop :=
  ∀ header sha, job = .changeContext header sha →
    ∃ c ∈ b.changes, carried = some c ∧ c.header = header ∧ c.sha = sha

/-- Whether what an activity is about to do is what its callers asked for. -/
def Entitled (b : Ledger) (e : σ) : Activity → Prop
  | .enqueue _ _ t => ∀ c ∈ b.changes, c.future ≠ t
  | .cancelTimer job ts | .spawn job ts | .launch job ts =>
    b.Fits job (b.carriedBy job) ∧ b.CoversAll (b.carriedBy job) ts
  | .await answer ts =>
    ∃ c, b.calls.getLast? = some c ∧ c.answer = answer ∧ b.CoversAll c.carried ts
  | .finish r ts | .tell r ts =>
    ∃ c ∈ b.calls, result? e c.answer = some r ∧ b.CoversAll c.carried ts
  | _ => True

/-- What a ledger says of an open governor. -/
structure Sound (b : Ledger) (g : Governed σ) : Prop where
  /-- Whoever changes the context has a future of their own. -/
  nodup : (b.changes.map Change.future).Nodup
  /-- Whoever changes the context is given a future. -/
  handedOut : ∀ c ∈ b.changes, c.future ∈ g.handedOut
  /-- What is queued is the latest change. -/
  latest : ∀ q, g.queued = some q →
    ∃ c, b.changes.getLast? = some c ∧ c.header = q.header ∧ c.sha = q.sha
  /-- A request carries the change that it was made for. -/
  fits : ∀ c ∈ b.calls, b.Fits c.job c.carried
  /-- Activities are entitled to what they are about to do. -/
  entitled : ∀ a ∈ g.activities, b.Entitled g.inner a
  /-- All requests but the last are answered. -/
  answered : ∀ c ∈ b.calls.dropLast, result? g.inner c.answer ≠ none
  /-- Somebody waits for the answer to the last one. -/
  awaited : ∀ c, b.calls.getLast? = some c → result? g.inner c.answer = none →
    ∃ ts, .await c.answer ts ∈ g.activities
  /-- Changes are answered like a request that carries them, or later ones. -/
  results : ∀ c ∈ b.changes, ∀ r, result? g.inner c.future = some r →
    ∃ call ∈ b.calls, b.Covers call.carried c ∧ result? g.inner call.answer = some r

/-- What an activity does first needs no entitlement. -/
theorem entitled_of_isFirst {b : Ledger} {e : σ} {a : Activity} (h : isFirst a = true) :
    b.Entitled e a := by
  cases a <;> trivial

/-! ### What a note changes -/

section Note

variable {b b' : Ledger} {g : Governed σ} {a : Activity}

/-- Only whoever queues a change writes one down. -/
theorem changes_note (ha : ∀ header sha t, a ≠ .enqueue header sha t) :
    (b.note g a).changes = b.changes := by
  cases a with
  | enqueue header sha t => exact absurd rfl (ha header sha t)
  | take | launch =>
    simp only [note]
    split <;> rfl
  | _ => rfl

/-- Only whoever calls the edge writes a call down. -/
theorem calls_note (ha : ∀ job ts, a ≠ .launch job ts) : (b.note g a).calls = b.calls := by
  cases a with
  | launch job ts => exact absurd rfl (ha job ts)
  | take =>
    simp only [note]
    split <;> rfl
  | _ => rfl

/-- Only a change that is queued now was not written down before. -/
theorem mem_changes_note {c : Change} (hc : c ∈ (b.note g a).changes) :
    c ∈ b.changes ∨ a = .enqueue c.header c.sha c.future := by
  cases a with
  | enqueue header sha t =>
    refine (List.mem_append.mp hc).imp_right fun hnew => ?_
    rw [List.mem_singleton.mp hnew]
  | _ =>
    rw [changes_note (by simp)] at hc
    exact Or.inl hc

/-- No change that was written down is lost. -/
theorem changes_prefix_note : b.changes <+: (b.note g a).changes := by
  by_cases ha : ∃ header sha t, a = .enqueue header sha t
  · obtain ⟨header, sha, t, rfl⟩ := ha
    exact List.prefix_append ..
  · have hsame : (b.note g a).changes = b.changes :=
      changes_note fun header sha t heq => ha ⟨header, sha, t, heq⟩
    exact hsame ▸ List.prefix_refl _

/-- No call that was written down is lost. -/
theorem calls_subset_note : b.calls ⊆ (b.note g a).calls := by
  cases a with
  | launch =>
    simp only [note]
    split
    · exact List.Subset.refl _
    · exact List.subset_append_left ..
  | _ =>
    rw [calls_note (by simp)]
    exact List.Subset.refl _

/-- A request covers what it covered when more changes come. -/
theorem Covers.mono {carried : Option Change} {c : Change} (h : b.Covers carried c)
    (hp : b.changes <+: b'.changes) : b'.Covers carried c := by
  obtain ⟨c', hcarried, hlater⟩ := h
  exact ⟨c', hcarried, hlater.imp_right fun hafter => hafter.trans hp.sublist⟩

/-- A request fits what it carries when more changes come. -/
theorem Fits.mono {job : Job} {carried : Option Change} (h : b.Fits job carried)
    (hp : b.changes <+: b'.changes) : b'.Fits job carried := by
  intro header sha hjob
  obtain ⟨c, hmem, hc⟩ := h header sha hjob
  exact ⟨c, hp.subset hmem, hc⟩

/-- Whoever is queued now is none of those whom others hold. -/
theorem CoversAll.note {carried : Option Change} {ts : List Ticket} (h : b.CoversAll carried ts)
    (hts : (waiters a).Disjoint ts) : (b.note g a).CoversAll carried ts := by
  intro c hc hmem
  rcases mem_changes_note hc with hold | rfl
  · exact (h c hold hmem).mono changes_prefix_note
  · exact absurd hmem (hts (List.mem_singleton_self _))

/-- Activities that go on stay entitled to what they are about to do, if only one has the flag. -/
theorem Entitled.note {e : σ} {x : Activity} (h : b.Entitled g.inner x)
    (hkeeps : ∀ t r, result? g.inner t = some r → result? e t = some r)
    (hflag : hasFlag a = true → hasFlag x = false) (hts : (waiters a).Disjoint (waiters x)) :
    (b.note g a).Entitled e x := by
  -- what the flag protects was written by the one activity that has it
  have hnoFlag : hasFlag x = true →
      (b.note g a).taken = b.taken ∧ (b.note g a).calls = b.calls := by
    intro hx
    have ha : hasFlag a = false := by
      by_contra ha
      exact Bool.false_ne_true ((hflag (by simpa using ha)).symm.trans hx)
    cases a with
    | take | launch => exact nomatch ha
    | _ => exact ⟨rfl, rfl⟩
  cases x with
  | enqueue header sha t =>
    intro c hc heq
    rcases mem_changes_note hc with hold | rfl
    · exact h c hold heq
    · exact hts (List.mem_singleton_self _) (List.mem_singleton.mpr heq)
  | cancelTimer job ts | spawn job ts | launch job ts =>
    have hcarried : (b.note g a).carriedBy job = b.carriedBy job := by
      cases job with
      | poll => rfl
      | changeContext => exact (hnoFlag rfl).1
    simp only [Entitled, hcarried]
    exact ⟨h.1.mono changes_prefix_note, h.2.note hts⟩
  | await answer ts =>
    obtain ⟨c, hlast, hanswer, hcovers⟩ := h
    exact ⟨c, (hnoFlag rfl).2 ▸ hlast, hanswer, hcovers.note hts⟩
  | finish r ts | tell r ts =>
    obtain ⟨c, hmem, hresult, hcovers⟩ := h
    exact ⟨c, calls_subset_note hmem, hkeeps _ _ hresult, hcovers.note hts⟩
  | _ => trivial

end Note

/-! ### What an activity leads to -/

section Turns

variable {b : Ledger} {g g₁ : Governed σ} {a : Activity} {after : List Activity}

/-- Whatever is queued, the latest change is it, or came later. -/
theorem covers_getLast {c last : Change} (hlast : b.changes.getLast? = some last)
    (hc : c ∈ b.changes) : b.Covers (some last) c := by
  obtain ⟨earlier, hchanges⟩ := List.getLast?_eq_some_iff.mp hlast
  refine ⟨last, rfl, ?_⟩
  rw [hchanges] at hc ⊢
  rcases List.mem_append.mp hc with hold | hnew
  · exact Or.inr ((List.singleton_sublist.mpr hold).append (List.Sublist.refl [last]))
  · exact Or.inl (List.mem_singleton.mp hnew).symm

/-- What comes next is what an activity is entitled to. -/
theorem Sound.entitled_turns (hb : b.Sound g) (h : g.Turns a g₁ after)
    (ha : b.Entitled g.inner a) (hfresh : nextTicket g.inner ∉ g.handedOut) :
    ∀ x ∈ after, (b.note g a).Entitled g₁.inner x := by
  have hafterwards : ∀ isTask, ∀ x ∈ afterwards isTask, b.Entitled g.inner x := by
    intro isTask x hx
    cases isTask with
    | false => exact absurd hx List.not_mem_nil
    | true => rw [List.mem_singleton.mp hx]; trivial
  have hnew : ∀ c ∈ b.changes, c.future ≠ nextTicket g.inner := fun c hc heq =>
    hfresh (heq ▸ hb.handedOut c hc)
  cases h with
  | change => exact List.forall_mem_singleton.mpr hnew
  | promise =>
    refine List.forall_mem_singleton.mpr ⟨fun _ _ hjob => (nomatch hjob), fun c hc hmem => ?_⟩
    exact absurd (List.mem_singleton.mp hmem) (hnew c hc)
  | take hq =>
    obtain ⟨c, hlast, hheader, hsha⟩ := hb.latest _ hq
    have hmem : c ∈ b.changes := List.mem_of_getLast? hlast
    refine List.forall_mem_singleton.mpr ?_
    simp only [note, hq, Option.isSome_some, if_true]
    refine ⟨fun header sha hjob => ?_, fun c' hc' _ => ?_⟩
    · obtain ⟨rfl, rfl⟩ := Job.changeContext.inj hjob
      exact ⟨c, hmem, hlast, hheader, hsha⟩
    · exact hlast ▸ covers_getLast hlast hc'
  | cancelTimer | spawn | finish => exact List.forall_mem_singleton.mpr ha
  | launch hopen =>
    refine List.forall_mem_singleton.mpr ?_
    simp only [note, hopen, Bool.false_eq_true, if_false]
    exact ⟨_, List.getLast?_concat .., rfl, ha.2⟩
  | await _ hr =>
    obtain ⟨c, hlast, rfl, hcovers⟩ := ha
    exact List.forall_mem_singleton.mpr ⟨c, List.mem_of_getLast? hlast, hr, hcovers⟩
  | turnAway | leave => exact hafterwards _
  | decline | release | dropLaunch | dropAwait | halt | keepTimer | dismissNothing | excuse =>
    exact List.forall_mem_nil _
  | _ => exact List.forall_mem_singleton.mpr trivial

/-- The latest change is what is queued. -/
theorem Sound.latest_turns (hb : b.Sound g) (h : g.Turns a g₁ after) :
    ∀ q, g₁.queued = some q →
      ∃ c, (b.note g a).changes.getLast? = some c ∧ c.header = q.header ∧ c.sha = q.sha := by
  cases h with
  | enqueue =>
    rintro q hq
    obtain rfl := Option.some.inj hq
    exact ⟨_, List.getLast?_concat .., rfl, rfl⟩
  | take | dismiss => exact fun q hq => nomatch hq
  | takeNothing hnone => exact fun q hq => nomatch hnone.symm.trans hq
  | launch | dropLaunch =>
    simp only [note]
    split <;> exact hb.latest
  | _ => exact hb.latest

/-- Whoever queues a change has a future that nobody else has. -/
theorem Sound.nodup_note (hb : b.Sound g) (ha : b.Entitled g.inner a) :
    ((b.note g a).changes.map Change.future).Nodup := by
  cases a with
  | enqueue header sha t =>
    have hnew : t ∉ b.changes.map Change.future := fun hmem => by
      obtain ⟨c, hc, heq⟩ := List.mem_map.mp hmem
      exact ha c hc heq
    simp only [note, List.map_append, List.map_singleton]
    rw [← List.concat_eq_append]
    exact hb.nodup.concat hnew
  | _ =>
    rw [changes_note (by simp)]
    exact hb.nodup

/-- What an activity is entitled to take to the edge is written down. -/
theorem Sound.fits_note (hb : b.Sound g) (ha : b.Entitled g.inner a) :
    ∀ c ∈ (b.note g a).calls, (b.note g a).Fits c.job c.carried := by
  have hold : ∀ c ∈ b.calls, (b.note g a).Fits c.job c.carried := fun c hc =>
    (hb.fits c hc).mono changes_prefix_note
  cases a with
  | launch job ts =>
    simp only [note]
    split
    · exact hb.fits
    · intro c hmem
      rcases List.mem_append.mp hmem with hmem | hmem
      · exact hb.fits c hmem
      · rw [List.mem_singleton.mp hmem]
        exact ha.1
  | _ => rwa [calls_note (by simp)]

/-- At most one request is unanswered. -/
theorem Sound.length_unanswered_le (hb : b.Sound g) : (b.unanswered g.inner).length ≤ 1 := by
  unfold unanswered
  cases hlast : b.calls.getLast? with
  | none =>
    rw [List.getLast?_eq_none_iff.mp hlast]
    exact Nat.zero_le 1
  | some last =>
    obtain ⟨earlier, hcalls⟩ := List.getLast?_eq_some_iff.mp hlast
    have hearlier : earlier.filter (fun c => (result? g.inner c.answer).isNone) = [] := by
      refine List.filter_eq_nil_iff.mpr fun c hc hnone => ?_
      refine hb.answered c ?_ (Option.isNone_iff_eq_none.mp hnone)
      rwa [hcalls, List.dropLast_concat]
    rw [hcalls, List.filter_append, hearlier, List.nil_append]
    exact List.length_filter_le ..

/-- While nobody waits for the last request, all of them are answered. -/
theorem Sound.all_answered (hb : b.Sound g) (hnone : ∀ t ts, .await t ts ∉ g.activities) :
    ∀ c ∈ b.calls, result? g.inner c.answer ≠ none := by
  intro c hc hopen
  cases hlast : b.calls.getLast? with
  | none => rw [List.getLast?_eq_none_iff.mp hlast] at hc; exact absurd hc List.not_mem_nil
  | some last =>
    obtain ⟨earlier, hcalls⟩ := List.getLast?_eq_some_iff.mp hlast
    rw [hcalls] at hc
    rcases List.mem_append.mp hc with hold | hnew
    · exact hb.answered c (by rwa [hcalls, List.dropLast_concat]) hopen
    · obtain rfl := List.mem_singleton.mp hnew
      obtain ⟨ts, hawait⟩ := hb.awaited c hlast hopen
      exact hnone _ _ hawait

/-- A request is made only when all others were answered. -/
theorem Sound.answered_note (hb : b.Sound g) (hg : g.Guarded) (hc : g.isClosed = false)
    (ha : a ∈ g.activities) :
    ∀ c ∈ (b.note g a).calls.dropLast, result? g.inner c.answer ≠ none := by
  cases a with
  | launch job ts =>
    have hnone : ∀ t ts, .await t ts ∉ g.activities := by
      intro t ts hawait
      have hbefore := List.perm_cons_erase ha
      have hrest := (List.mem_cons.mp (hbefore.mem_iff.mp hawait)).resolve_left (by simp)
      exact nomatch hg.hasFlag_rest hc hbefore rfl _ hrest
    simp only [note, hc, Bool.false_eq_true, if_false, List.dropLast_concat]
    exact hb.all_answered hnone
  | _ =>
    rw [calls_note (by simp)]
    exact hb.answered

/-- Somebody waits for the last request until it is answered. -/
theorem Sound.awaited_turns (hb : b.Sound g) (h : g.Turns a g₁ after) (hc : g₁.isClosed = false)
    (ha : b.Entitled g.inner a) {rest : List Activity}
    (hbefore : g.activities.Perm (a :: rest))
    (hkeeps : ∀ t r, result? g.inner t = some r → result? g₁.inner t = some r) :
    ∀ c, (b.note g a).calls.getLast? = some c → result? g₁.inner c.answer = none →
      ∃ ts, .await c.answer ts ∈ after ++ rest := by
  -- only a new call or the end of the last one changes who waits
  have hold : (∀ job ts, a ≠ .launch job ts) → (∀ t ts, a ≠ .await t ts) →
      ∀ c, (b.note g a).calls.getLast? = some c → result? g₁.inner c.answer = none →
        ∃ ts, .await c.answer ts ∈ after ++ rest := by
    intro hlaunch hawait c hlast hopen
    rw [calls_note hlaunch] at hlast
    have hopen' : result? g.inner c.answer = none := by
      by_contra hsome
      obtain ⟨r, hr⟩ := Option.ne_none_iff_exists'.mp hsome
      exact nomatch (hkeeps _ _ hr).symm.trans hopen
    obtain ⟨ts, hmem⟩ := hb.awaited c hlast hopen'
    have hrest := (List.mem_cons.mp (hbefore.mem_iff.mp hmem)).resolve_left
      fun heq => hawait _ _ heq.symm
    exact ⟨ts, List.mem_append_right _ hrest⟩
  cases h with
  | launch hopen =>
    intro c hlast _
    simp only [note, hopen, Bool.false_eq_true, if_false, List.getLast?_concat] at hlast
    obtain rfl := Option.some.inj hlast
    exact ⟨_, List.mem_cons_self⟩
  | await _ hr =>
    intro c hlast hopen
    obtain ⟨last, hlast', rfl, -⟩ := ha
    obtain rfl := Option.some.inj (hlast.symm.trans hlast')
    exact nomatch hr.symm.trans hopen
  | dropLaunch hclosed | dropAwait hclosed => exact nomatch hclosed.symm.trans hc
  | _ => exact hold (by simp) (by simp)

end Turns

/-! ### Steps -/

variable [Eventful σ] [Accountable σ]

section Steps

variable {b : Ledger} {g g' g₁ : Governed σ} {i : Nat} {a : Activity} {after rest : List Activity}

/-- Nobody is held by two activities. -/
theorem disjoint_waiters (hk : g.lobby.Kept) (hbefore : g.activities.Perm (a :: rest))
    {x : Activity} (hx : x ∈ rest) : (waiters a).Disjoint (waiters x) := by
  have hnodup : (g.activities.flatMap waiters).Nodup := (List.nodup_append.mp hk.nodup).2.1
  rw [(hbefore.flatMap_right waiters).nodup_iff, List.flatMap_cons] at hnodup
  intro t hta htx
  exact List.disjoint_of_nodup_append hnodup hta (List.mem_flatMap.mpr ⟨x, hx, htx⟩)

/-- Whoever queues a change has a future that is not answered. -/
theorem waits_of_enqueue (hk : g.lobby.Kept) {header : Option String} {sha : String} {t : Ticket}
    (h : .enqueue header sha t ∈ g.activities) :
    t ∈ g.handedOut ∧ result? g.inner t = none := by
  refine (hk.mem_held_iff t).mp (List.mem_append_right _ ?_)
  exact List.mem_flatMap.mpr ⟨_, h, List.mem_singleton_self t⟩

/-- Whoever changes the context was given a future. -/
theorem Sound.handedOut_note (hb : b.Sound g) (hk : g.lobby.Kept) (ha : a ∈ g.activities) :
    ∀ c ∈ (b.note g a).changes, c.future ∈ g.handedOut := by
  intro c hc
  rcases mem_changes_note hc with hold | rfl
  · exact hb.handedOut c hold
  · exact (waits_of_enqueue hk ha).1

/-- Changes are answered by the end of a request that carries them. -/
theorem Sound.results_turns (hb : b.Sound g) (hk : g.lobby.Kept) (h : g.Turns a g₁ after)
    (hclosing : isClosing a = false) (hc : g₁.isClosed = false) (hmem : a ∈ g.activities)
    (hkeeps : ∀ t r, result? g.inner t = some r → result? g₁.inner t = some r) :
    ∀ c ∈ (b.note g a).changes, ∀ r, result? g₁.inner c.future = some r →
      ∃ call ∈ (b.note g a).calls, (b.note g a).Covers call.carried c ∧
        result? g₁.inner call.answer = some r := by
  intro c hchange r hr
  rcases mem_changes_note hchange with hold | rfl
  · have hcaller := hb.handedOut c hold
    rw [result?_turns h hclosing hc (hk.made _ hcaller) (hk.foreign _ hcaller),
      Option.or_eq_some_iff] at hr
    rcases hr with hbefore | ⟨-, hnow⟩
    · obtain ⟨call, hcall, hcovers, hresult⟩ := hb.results c hold r hbefore
      exact ⟨call, calls_subset_note hcall, hcovers.mono changes_prefix_note, hkeeps _ _ hresult⟩
    · unfold given at hnow
      split at hnow
      · next r' ts =>
        split at hnow
        · next hts =>
          obtain rfl := Option.some.inj hnow
          obtain ⟨call, hcall, hresult, hcovers⟩ := hb.entitled _ hmem
          exact ⟨call, hcall, (hcovers c hold hts).mono changes_prefix_note,
            hkeeps _ _ hresult⟩
        · exact nomatch hnow
      · exact nomatch hnow
  · cases h with
    | enqueue => exact nomatch hr.symm.trans (waits_of_enqueue hk hmem).2

/-- A ledger stays sound with every step of an activity. -/
theorem Sound.of_steps (hb : b.Sound g) (hk : g.lobby.Kept) (hg : g.Guarded)
    (h : g.Steps i g' a g₁ after rest) (hc : g'.isClosed = false) : (b.note g a).Sound g' := by
  have hserves := serves_steps h
  obtain ⟨-, hbefore, hturns, l, hafter, rfl⟩ := h
  have hopen : g.isClosed = false := isClosed_turns hturns hc
  have hmem : a ∈ g.activities := hbefore.mem_iff.mpr List.mem_cons_self
  have ha : b.Entitled g.inner a := hb.entitled a hmem
  have hkeeps : ∀ t r, result? g.inner t = some r → result? g₁.inner t = some r :=
    fun _ _ => hserves.keeps
  constructor
  case nodup => exact hb.nodup_note ha
  case handedOut => exact fun c hc => hserves.mem_handedOut (hb.handedOut_note hk hmem c hc)
  case latest =>
    have hlatest := hb.latest_turns hturns
    exact hlatest
  case fits => exact hb.fits_note ha
  case entitled =>
    intro x hx
    -- what comes next is entitled by this step, and the others stay entitled beside it
    rcases List.mem_append.mp (hafter.mem_iff.mp hx) with hnext | hrest
    · exact hb.entitled_turns hturns ha hk.nextTicket_fresh.1 x hnext
    · have hx' : x ∈ g.activities := hbefore.mem_iff.mpr (List.mem_cons_of_mem a hrest)
      exact (hb.entitled x hx').note hkeeps
        (fun hflag => hg.hasFlag_rest hopen hbefore hflag x hrest)
        (disjoint_waiters hk hbefore hrest)
  case answered =>
    have hanswered := hb.answered_note hg hopen hmem
    exact fun c hc hnone => hanswered c hc (Option.eq_none_iff_forall_not_mem.mpr fun r hr =>
      nomatch (hkeeps _ r hr).symm.trans hnone)
  case awaited =>
    intro c hlast hnone
    obtain ⟨ts, hawait⟩ := hb.awaited_turns hturns hc ha hbefore hkeeps c hlast hnone
    exact ⟨ts, hafter.mem_iff.mpr hawait⟩
  case results =>
    have hresults := hb.results_turns hk hturns (hg.not_isClosing hopen a hmem) hc hmem hkeeps
    exact hresults

end Steps

/-- Whatever else happens to the edge, it keeps the answers of requests, and answers nobody who
changes the context. -/
theorem Sound.of_inner {b : Ledger} {g : Governed σ} (hb : b.Sound g) (hk : g.lobby.Kept) {e : σ}
    (hd : Dutiful Accountable.owed g.inner e) : b.Sound { g with inner := e } where
  nodup := hb.nodup
  handedOut := hb.handedOut
  latest := hb.latest
  fits := hb.fits
  entitled x hx := by
    have hnote := (hb.entitled x hx).note (a := .schedule) hd.keeps (fun hflag => nomatch hflag)
      (List.disjoint_nil_left _)
    exact hnote
  answered c hc hnone :=
    hb.answered c hc (Option.eq_none_iff_forall_not_mem.mpr fun r hr =>
      nomatch (hd.keeps _ r hr).symm.trans hnone)
  awaited c hlast hnone :=
    hb.awaited c hlast (Option.eq_none_iff_forall_not_mem.mpr fun r hr =>
      nomatch (hd.keeps _ r hr).symm.trans hnone)
  results c hc r hr := by
    have hcaller := hb.handedOut c hc
    have hsame := hd.result?_eq (hk.made _ hcaller) (hk.foreign _ hcaller)
    obtain ⟨call, hcall, hcovers, hresult⟩ := hb.results c hc r (hsame.symm.trans hr)
    exact ⟨call, hcall, hcovers, hd.keeps _ _ hresult⟩

/-- Every move of an open governor keeps the ledger sound. -/
theorem Sound.move {b : Ledger} {g : Governed σ} (hb : b.Sound g) (hk : g.lobby.Kept)
    (hg : g.Guarded) (m : Move σ) (hc : (g.move m).isClosed = false) :
    ((g.acting? m).elim b (b.note g)).Sound (g.move m) := by
  have hmoves := moves_move g m
  generalize g.move m = g' at hmoves hc
  cases hmoves with
  | idle hm =>
    cases hacting : g.acting? m with
    | none => exact hb
    | some a =>
      obtain ⟨answer, ts, rfl⟩ := hm a hacting
      exact hb
  | start hm ha =>
    rw [hm]
    refine ⟨hb.nodup, hb.handedOut, hb.latest, hb.fits, fun x hx => ?_, hb.answered, ?_,
      hb.results⟩
    · rcases List.mem_append.mp hx with hold | hnew
      · exact hb.entitled x hold
      · rw [List.mem_singleton.mp hnew]
        exact entitled_of_isFirst ha
    · intro c hlast hnone
      obtain ⟨ts, hawait⟩ := hb.awaited c hlast hnone
      exact ⟨ts, List.mem_append_left _ hawait⟩
  | advance h =>
    rw [show g.acting? (.advance _) = some _ from h.getElem?_eq]
    exact hb.of_steps hk hg h hc
  | inner => exact hb.of_inner hk (Accountable.dutiful_happen ..)

/-- The ledger of every run of an open governor is sound. -/
theorem sound_run {e : σ} (he : IsTidy e) (moves : List (Move σ))
    (hc : ((new e).run moves).isClosed = false) :
    (empty.record (new e) moves).Sound ((new e).run moves) := by
  induction moves using List.reverseRecOn with
  | nil =>
    constructor
    case nodup => exact List.nodup_nil
    case latest => exact fun q hq => nomatch hq
    case awaited => exact fun c hlast => nomatch hlast
    all_goals exact List.forall_mem_nil _
  | append_singleton moves m ih =>
    rw [run_concat] at hc ⊢
    rw [record_concat]
    exact (ih (isClosed_move hc)).move (kept_run he moves) (guarded_run e moves) m hc

/-! ### Runs -/

/-- On an open governor no change of the context is lost. At most one request to the edge is
unanswered, and one is whenever all is at rest and something is queued. What is queued is the
latest change, and a request that changes the context carries the one that was the latest when it
was taken from the queue. Whoever changes the context is answered with the result of a request
that carries this change, or a later one. -/
theorem context_changes_carried {e : σ} (he : IsTidy e) (moves : List (Move σ)) :
    let g := (new e).run moves
    let b := empty.record (new e) moves
    g.isClosed = false →
      (b.unanswered g.inner).length ≤ 1 ∧
      (g.AtRest → g.queued.isSome = true → b.unanswered g.inner ≠ []) ∧
      (∀ q, g.queued = some q →
        ∃ c, b.changes.getLast? = some c ∧ c.header = q.header ∧ c.sha = q.sha) ∧
      (∀ call ∈ b.calls, ∀ header sha, call.job = .changeContext header sha →
        ∃ c ∈ b.changes, call.carried = some c ∧ c.header = header ∧ c.sha = sha) ∧
      (b.changes.map Change.future).Nodup ∧
      ∀ c ∈ b.changes, ∀ r, result? g.inner c.future = some r →
        ∃ call ∈ b.calls, ∃ c', call.carried = some c' ∧
          (c' = c ∨ List.Sublist [c, c'] b.changes) ∧
          result? g.inner call.answer = some r := by
  intro g b hc
  have hb : b.Sound g := sound_run he moves hc
  refine ⟨?_, ?_, hb.latest, hb.fits, hb.nodup, fun c hmem r hr => ?_⟩
  · exact hb.length_unanswered_le
  · intro hrest hq
    obtain ⟨a, ha, -⟩ := watched_of_open hc hq
    obtain ⟨answer, ts, rfl, hopen⟩ := await_of_atRest hrest ha
    obtain ⟨call, hlast, rfl, -⟩ := hb.entitled _ ha
    refine List.ne_nil_of_mem (List.mem_filter.mpr ⟨List.mem_of_getLast? hlast, ?_⟩)
    rw [hopen, Option.isNone_none]
  · obtain ⟨call, hcall, ⟨c', hcarried, hlater⟩, hresult⟩ := hb.results c hmem r hr
    exact ⟨call, hcall, c', hcarried, hlater, hresult⟩

/-! ### Samples -/

/-- Two changes of the context while a request is running, of which the later one is sent. -/
def twoChanges : List (Move Polling) :=
  [.poll] ++ List.replicate 5 (.advance 0) ++
    [.changeContext (some "userkey=fred") "sha of fred"] ++ List.replicate 3 (.advance 1) ++
    [.changeContext (some "userkey=mary") "sha of mary"] ++ List.replicate 3 (.advance 1) ++
    [.inner ⟨Polling.sampleAnswer, trivial⟩] ++ List.replicate 8 (.advance 0) ++
    [.inner ⟨Polling.sampleAnswer, trivial⟩] ++ List.replicate 3 (.advance 0)

/-- Whoever queued the first of two changes is answered with the result of the second. -/
theorem two_changes_carried :
    let g := (new Polling.sampleEdge).run twoChanges
    let b := empty.record (new Polling.sampleEdge) twoChanges
    g.isClosed = false ∧ (b.unanswered g.inner).length ≤ 1 ∧
      b.calls.map Call.job = [.poll, .changeContext (some "userkey=mary") "sha of mary"] ∧
      b.changes.map (fun c => (c.header, result? g.inner c.future)) =
        [(some "userkey=fred", some .ready), (some "userkey=mary", some .ready)] ∧
      ∀ c ∈ b.changes, ∀ r, result? g.inner c.future = some r →
        ∃ call ∈ b.calls, ∃ c', call.carried = some c' ∧
          (c' = c ∨ List.Sublist [c, c'] b.changes) ∧
          result? g.inner call.answer = some r := by
  intro g b
  have hc : g.isClosed = false := by decide
  obtain ⟨hsingle, -, -, -, -, hresults⟩ :=
    context_changes_carried Polling.isFresh_sampleEdge.isTidy twoChanges hc
  exact ⟨hc, hsingle, by decide, by decide, hresults⟩

end Ledger

end FeatureFlags.Edge.Governed
