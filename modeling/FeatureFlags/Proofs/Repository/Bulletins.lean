import FeatureFlags.Proofs.Repository.Bystanders
import FeatureFlags.Proofs.Repository.Closing
import FeatureFlags.Proofs.Repository.Journal

/-!
# What those who follow the readiness are told

Those who follow the readiness see of a repository only its bulletin: the readiness, the list
they are registered in, and the calls that were made to them. An operation on an open repository
leaves the bulletin as it is, tells a readiness to everybody, or adds or removes one listener
(`edition_step`). By induction over the operations, whoever registered and was not cancelled was
told the present readiness last (`informed_after`), and a close tells it once more that the
repository is not ready (`readiness_listener_informed`).
-/

set_option autoImplicit false

namespace FeatureFlags

open Repository (Operation)

/-- What those who follow the readiness see of a repository. -/
structure Bulletin where
  /-- The readiness. -/
  readiness : Readiness
  /-- Those who follow it. -/
  listeners : Listeners Listener
  /-- The calls that were made to them. -/
  calls : List Call

namespace Bulletin

/-- The call that tells a listener the readiness. -/
def telling (id : ListenerId) (l : Listener) (v : Readiness) : Call :=
  ⟨.readiness, id, l, .readiness v⟩

/-- The calls to one registration. -/
def callsTo (b : Bulletin) (id : ListenerId) : List Call := b.calls.filter fun c => c.id = id

/-- Everybody is told a readiness. -/
def proclaim (b : Bulletin) (v : Readiness) : Bulletin :=
  ⟨v, b.listeners, b.calls ++ Journal.round .readiness b.listeners (.readiness v)⟩

/-- A listener registers and is told the readiness. -/
def subscribe (b : Bulletin) (l : Listener) : Bulletin :=
  ⟨b.readiness, b.listeners.add l, b.calls ++ [telling b.listeners.nextId l b.readiness]⟩

/-- A registration is cancelled. -/
def unsubscribe (b : Bulletin) (id : ListenerId) : Bulletin :=
  { b with listeners := b.listeners.cancel id }

/-- What an operation on an open repository makes of the bulletin. -/
inductive Edition (b : Bulletin) : Operation → Bulletin → Prop
  /-- The bulletin stays as it is. -/
  | same {op : Operation} : Edition b op b
  /-- A readiness is proclaimed. -/
  | proclaim {op : Operation} (v : Readiness) : Edition b op (b.proclaim v)
  /-- A listener registers. -/
  | subscribe (l : Listener) : Edition b (.listen .readiness l) (b.subscribe l)
  /-- A registration is cancelled. -/
  | unsubscribe (id : ListenerId) : Edition b (.cancel .readiness id) (b.unsubscribe id)

/-! ### Numbers of registrations -/

/-- Registrations have different numbers, and all numbers that were in use are below the next. -/
structure IsNumbered (b : Bulletin) : Prop where
  nodup : (b.listeners.registered.map Prod.fst).Nodup
  registered_lt : ∀ x ∈ b.listeners.registered, x.1 < b.listeners.nextId
  called_lt : ∀ c ∈ b.calls, c.id < b.listeners.nextId

/-- Every edition keeps registrations numbered apart. -/
theorem IsNumbered.edition {b b' : Bulletin} {op : Operation} (h : b.IsNumbered)
    (he : Edition b op b') : b'.IsNumbered := by
  cases he with
  | same => exact h
  | proclaim v =>
    refine ⟨h.nodup, h.registered_lt, fun c hc => ?_⟩
    rcases List.mem_append.mp hc with hc | hc
    · exact h.called_lt c hc
    · obtain ⟨x, hx, rfl⟩ := List.mem_map.mp hc
      exact h.registered_lt x hx
  | subscribe l =>
    have hlt : ∀ {n : Nat}, n < b.listeners.nextId → n < b.listeners.nextId + 1 :=
      fun hn => Nat.lt_succ_of_lt hn
    refine ⟨?_, fun x hx => ?_, fun c hc => ?_⟩
    · show ((b.listeners.registered ++ [(b.listeners.nextId, l)]).map Prod.fst).Nodup
      rw [List.map_append, List.nodup_append]
      refine ⟨h.nodup, by simp, fun i hi j hj => ?_⟩
      obtain ⟨x, hx, rfl⟩ := List.mem_map.mp hi
      have hj : j = b.listeners.nextId := by simpa using hj
      rw [hj]
      exact Nat.ne_of_lt (h.registered_lt x hx)
    · rcases List.mem_append.mp hx with hx | hx
      · exact hlt (h.registered_lt x hx)
      · rw [List.mem_singleton.mp hx]
        exact Nat.lt_succ_self _
    · rcases List.mem_append.mp hc with hc | hc
      · exact hlt (h.called_lt c hc)
      · rw [List.mem_singleton.mp hc]
        exact Nat.lt_succ_self _
  | unsubscribe id =>
    have hsub : (b.listeners.cancel id).registered.Sublist b.listeners.registered :=
      List.filter_sublist
    exact ⟨h.nodup.sublist (hsub.map _), fun x hx => h.registered_lt x (hsub.subset hx),
      h.called_lt⟩

/-! ### Listeners who stay -/

/-- A registered listener was told a first readiness, and the present one last. -/
structure Informed (id : ListenerId) (l : Listener) (first : Readiness) (b : Bulletin) : Prop where
  registered : (id, l) ∈ b.listeners.registered
  head_eq : (b.callsTo id).head? = some (telling id l first)
  last_eq : (b.callsTo id).getLast? = some (telling id l b.readiness)

section Informed

variable {b b' : Bulletin} {id : ListenerId} {l : Listener} {first : Readiness}

/-- In a list without repeated numbers one number selects one registration. -/
theorem filter_eq_singleton {xs : List (ListenerId × Listener)} (h : (xs.map Prod.fst).Nodup)
    (hx : (id, l) ∈ xs) : (xs.filter fun x => x.1 = id) = [(id, l)] := by
  induction xs with
  | nil => cases hx
  | cons x xs ih =>
    obtain ⟨hnot, hrest⟩ := List.nodup_cons.mp h
    rcases List.mem_cons.mp hx with rfl | hx
    · have hnone : (xs.filter fun x => x.1 = id) = [] := by
        rw [List.filter_eq_nil_iff]
        rintro y hy hid
        exact hnot (List.mem_map.mpr ⟨y, hy, by simpa using hid⟩)
      rw [List.filter_cons_of_pos (by simp), hnone]
    · have hne : x.1 ≠ id := by
        rintro rfl
        exact hnot (List.mem_map.mpr ⟨_, hx, rfl⟩)
      rw [List.filter_cons_of_neg (by simpa using hne), ih hrest hx]

/-- A proclamation reaches everybody who is registered, once. -/
theorem callsTo_proclaim (hn : b.IsNumbered) (hr : (id, l) ∈ b.listeners.registered)
    (v : Readiness) : (b.proclaim v).callsTo id = b.callsTo id ++ [telling id l v] := by
  have hround : (Journal.round .readiness b.listeners (.readiness v)).filter
      (fun c => c.id = id) = [telling id l v] := by
    unfold Journal.round
    rw [List.filter_map]
    show ((b.listeners.registered.filter fun x => x.1 = id).map _) = _
    rw [filter_eq_singleton hn.nodup hr]
    rfl
  show (b.calls ++ _).filter _ = _
  rw [List.filter_append, hround]
  rfl

/-- A listener is informed from its registration on. -/
theorem informed_subscribe (hn : b.IsNumbered) (l : Listener) :
    Informed b.listeners.nextId l b.readiness (b.subscribe l) := by
  -- nobody was called under a number that is not in use yet
  have hnone : b.callsTo b.listeners.nextId = [] := by
    unfold callsTo
    rw [List.filter_eq_nil_iff]
    intro c hc hid
    exact absurd (by simpa using hid) (Nat.ne_of_lt (hn.called_lt c hc))
  have hcalls : (b.subscribe l).callsTo b.listeners.nextId =
      [telling b.listeners.nextId l b.readiness] := by
    show (b.calls ++ [_]).filter _ = _
    rw [List.filter_append, show b.calls.filter _ = [] from hnone]
    simp [telling]
  refine ⟨List.mem_append_right _ (List.mem_singleton.mpr rfl), ?_, ?_⟩
  · rw [hcalls]; rfl
  · rw [hcalls]; rfl

/-- A listener who is told something more after a first call. -/
theorem Informed.proclaim (h : Informed id l first b) (hn : b.IsNumbered) (v : Readiness) :
    Informed id l first (b.proclaim v) := by
  have hcalls := callsTo_proclaim hn h.registered v
  refine ⟨h.registered, ?_, ?_⟩
  · rw [hcalls, List.head?_append, h.head_eq]; rfl
  · rw [hcalls, List.getLast?_concat]; rfl

/-- Every edition but the one that cancels the registration keeps its listener informed. -/
theorem Informed.edition {op : Operation} (h : Informed id l first b) (hn : b.IsNumbered)
    (he : Edition b op b') (hop : op ≠ .cancel .readiness id) : Informed id l first b' := by
  cases he with
  | same => exact h
  | proclaim v => exact h.proclaim hn v
  | subscribe l' =>
    -- the call to the new listener has a number of its own
    have hne : b.listeners.nextId ≠ id := (Nat.ne_of_lt (hn.registered_lt _ h.registered)).symm
    have hcalls : (b.subscribe l').callsTo id = b.callsTo id := by
      show (b.calls ++ [_]).filter _ = _
      rw [List.filter_append]
      simp [telling, hne, callsTo]
    refine ⟨List.mem_append_left _ h.registered, ?_, ?_⟩
    · rw [hcalls]; exact h.head_eq
    · rw [hcalls]; exact h.last_eq
  | unsubscribe id' =>
    have hne : id ≠ id' := by
      rintro rfl
      exact hop rfl
    refine ⟨List.mem_filter.mpr ⟨h.registered, by simpa using hne⟩, h.head_eq, h.last_eq⟩

end Informed

end Bulletin

namespace Repository

open Bulletin

/-! ### The bulletin of a repository -/

/-- What those who follow the readiness see. -/
def bulletin (r : Repository) : Bulletin :=
  ⟨r.readiness, r.readinessListeners, r.journal.calls.filter fun c => c.audience = .readiness⟩

section Bulletin

variable (r : Repository)

/-- Making an entry is of no concern to those who follow the readiness. -/
theorem bulletin_obtain (key : String) : (r.obtain key).1.bulletin = r.bulletin := by
  unfold obtain
  cases r.lookup? key <;> rfl

/-- Calls to others are not in the bulletin. -/
theorem bulletin_announce {a : Audience} (ha : a ≠ .readiness) (notice : Notice) :
    (r.announce a notice).bulletin = r.bulletin := by
  unfold announce
  split
  · rfl
  · have hround : (Journal.round a (r.listeners a) notice).filter
        (fun c => c.audience = .readiness) = [] := by
      rw [List.filter_eq_nil_iff]
      intro c hc
      simpa [Journal.audience_of_mem_round hc] using ha
    simp only [bulletin, Journal.calls_callAll, List.filter_append, hround, List.append_nil]

/-- A new readiness that is announced is proclaimed. -/
theorem bulletin_announceReadiness (ho : r.isClosed = false) (v : Readiness) :
    ({ r with readiness := v } : Repository).announceReadiness.bulletin =
      r.bulletin.proclaim v := by
  have hround : (Journal.round .readiness r.readinessListeners (.readiness v)).filter
      (fun c => c.audience = .readiness) =
        Journal.round .readiness r.readinessListeners (.readiness v) := by
    rw [List.filter_eq_self]
    intro c hc
    simpa using Journal.audience_of_mem_round hc
  unfold announceReadiness announce
  rw [if_neg (by simp [ho])]
  simp only [bulletin, Bulletin.proclaim, Journal.calls_callAll, List.filter_append]
  exact congrArg _ (congrArg _ hround)

/-- A delivery is of no concern to those who follow the readiness. -/
theorem isBystander_bulletin : IsBystander bulletin where
  obtain_eq := bulletin_obtain
  setState_eq _ _ _ := rfl
  byId_eq _ _ := rfl
  announce_eq r _ notice ha := bulletin_announce r ha notice

/-- Asking for a feature is of no concern to those who follow the readiness. -/
theorem bulletin_getFeature (key : String) : (r.getFeature key).1.bulletin = r.bulletin := by
  unfold getFeature
  simp only
  split
  · exact bulletin_obtain r key
  · exact bulletin_obtain r key

/-- The end of a batch proclaims that the repository is ready, unless that is known. -/
theorem bulletin_endBatch (ho : r.isClosed = false) :
    r.endBatch.bulletin = r.bulletin.proclaim .ready ∨ r.endBatch.bulletin = r.bulletin := by
  unfold endBatch
  rw [bulletin_announce _ (by simp)]
  split
  · exact Or.inl (bulletin_announceReadiness { r with hasInitialState := true } ho .ready)
  · next hknown =>
    have hready : r.readiness = .ready := by simp_all
    exact Or.inr (by simp [bulletin, hready])

/-- Whoever registers for the readiness subscribes to the bulletin. -/
theorem bulletin_listen (ho : r.isClosed = false) (l : Listener) :
    (r.listen .readiness l).bulletin = r.bulletin.subscribe l := by
  have hstill : (r.modifyListeners .readiness fun ls => ls.add l).isClosed = false := ho
  unfold listen
  simp only [hstill]
  simp [bulletin, Journal.call, Bulletin.subscribe, telling, modifyListeners, listeners]

end Bulletin

/-! ### Operations and the bulletin -/

/-- What an operation makes of the bulletin of an open repository. -/
theorem edition_step {r : Repository} (ho : r.isClosed = false) {op : Operation}
    (hop : op ≠ .close) : Edition r.bulletin op (r.step op).bulletin := by
  have hsame : ∀ r' : Repository, r'.bulletin = r.bulletin → Edition r.bulletin op r'.bulletin :=
    fun r' h => h ▸ .same
  have hproclaim : ∀ (r' : Repository) (v : Readiness), r'.bulletin = r.bulletin.proclaim v →
      Edition r.bulletin op r'.bulletin := fun r' v h => h ▸ .proclaim v
  cases op with
  | update s force => exact hsame _ (isBystander_bulletin.updateFeature r s force)
  | updateAll states force =>
    -- the states of a batch are of no concern, but its end may make the repository ready
    have heach := isBystander_bulletin.updateEach r states force
    have hopen : (r.updateEach states force).isClosed = false := by rw [isClosed_updateEach, ho]
    have hbatch : r.step (.updateAll states force) = (r.updateEach states force).endBatch := by
      show r.updateFeatures states force = _
      rw [updateFeatures_eq_endBatch, if_neg (by simp [ho])]
    rw [hbatch]
    rcases bulletin_endBatch _ hopen with h | h <;> rw [heach] at h
    · exact hproclaim _ _ h
    · exact hsame _ h
  | delete s => exact hsame _ (isBystander_bulletin.deleteFeature r s)
  | getFeature key => exact hsame _ (bulletin_getFeature r key)
  | fail => exact hproclaim _ _ (bulletin_announceReadiness r ho .failed)
  | markEmpty => exact hproclaim _ _ (bulletin_announceReadiness r ho .ready)
  | notReady =>
    show Edition _ _ r.notReady.bulletin
    unfold notReady
    simp only
    split
    · next h => exact hsame _ (by simp [bulletin, h])
    · exact hproclaim _ _ (bulletin_announceReadiness r ho .notReady)
  | close => exact absurd rfl hop
  | listen a l =>
    cases a with
    | readiness =>
      have hlisten := bulletin_listen r ho l
      exact hlisten ▸ .subscribe l
    | _ => exact hsame _ rfl
  | cancel a id =>
    cases a with
    | readiness => exact .unsubscribe id
    | _ => exact hsame _ rfl
  | intercept | logErrors => exact hsame _ rfl

/-- A history that leaves the repository open goes through open repositories only. -/
theorem isOpen_of_concat {ops : List Operation} {op : Operation}
    (ho : (after (ops ++ [op])).isClosed = false) :
    (after ops).isClosed = false ∧ op ≠ .close := by
  rw [after_append, run_cons, run_nil] at ho
  constructor
  · cases hc : (after ops).isClosed with
    | false => rfl
    | true => exact absurd ((closed_step hc op).isClosed.symm.trans ho) (by simp)
  · rintro rfl
    exact absurd ((isClosed_close _).symm.trans ho) (by simp)

/-- In every open repository registrations are numbered apart. -/
theorem isNumbered_after {ops : List Operation} (ho : (after ops).isClosed = false) :
    (after ops).bulletin.IsNumbered := by
  induction ops using List.reverseRecOn with
  | nil => exact ⟨List.nodup_nil, fun _ hx => (List.not_mem_nil hx).elim,
      fun _ hc => (List.not_mem_nil hc).elim⟩
  | append_singleton ops op ih =>
    obtain ⟨hopen, hop⟩ := isOpen_of_concat ho
    rw [after_append, run_cons, run_nil]
    exact (ih hopen).edition (edition_step hopen hop)

/-- A listener stays informed as long as it is not cancelled. -/
theorem informed_after {before later : List Operation} {l : Listener}
    (ho : (after (before ++ [.listen .readiness l] ++ later)).isClosed = false)
    (hstays : .cancel .readiness (after before).readinessListeners.nextId ∉ later) :
    Informed (after before).readinessListeners.nextId l (after before).readiness
      (after (before ++ [.listen .readiness l] ++ later)).bulletin := by
  induction later using List.reverseRecOn with
  | nil =>
    rw [List.append_nil] at ho ⊢
    have hopen := (isOpen_of_concat ho).1
    rw [after_append, run_cons, run_nil]
    show Informed _ _ _ ((after before).listen .readiness l).bulletin
    rw [bulletin_listen _ hopen]
    exact informed_subscribe (isNumbered_after hopen) l
  | append_singleton later op ih =>
    rw [← List.append_assoc] at ho ⊢
    obtain ⟨hopen, hop⟩ := isOpen_of_concat ho
    have hstill := ih hopen fun h => hstays (List.mem_append_left _ h)
    rw [after_append _ [op], run_cons, run_nil]
    refine hstill.edition (isNumbered_after hopen) (edition_step hopen hop) ?_
    rintro rfl
    exact hstays (List.mem_append_right _ (List.mem_singleton.mpr rfl))

/-- The calls to one registration. -/
def callsTo (r : Repository) (a : Audience) (id : ListenerId) : List Call :=
  r.journal.calls.filter fun c => c.audience = a ∧ c.id = id

/-- The bulletin has the calls of the journal to those who follow the readiness. -/
theorem callsTo_bulletin (r : Repository) (id : ListenerId) :
    r.bulletin.callsTo id = r.callsTo .readiness id := by
  simp [Bulletin.callsTo, bulletin, callsTo, List.filter_filter, and_comm]

/-- A close tells everybody that the repository is not ready. -/
theorem callsTo_close {r : Repository} (ho : r.isClosed = false) (id : ListenerId) :
    r.close.callsTo .readiness id = (r.bulletin.proclaim .notReady).callsTo id := by
  have hforget := bulletin_announceReadiness
    { r with byKey := .empty, byId := .empty, hasInitialState := false } ho .notReady
  have hcalls := congrArg (fun b => Bulletin.callsTo b id) hforget
  rw [← callsTo_bulletin]
  unfold close
  rw [if_neg (by simp [ho])]
  exact hcalls

/-- Whoever follows the readiness and is not cancelled is told the readiness at its registration
first and the present one last, as long as the repository is open. A close tells it once that the
repository is not ready, whatever is done to the repository afterwards. -/
theorem readiness_listener_informed (before later rest : List Operation) (l : Listener) :
    let id := (after before).readinessListeners.nextId
    let r := after (before ++ [.listen .readiness l] ++ later)
    r.isClosed = false → .cancel .readiness id ∉ later →
      (r.callsTo .readiness id).head? = some (telling id l (after before).readiness) ∧
      (r.callsTo .readiness id).getLast? = some (telling id l r.readiness) ∧
      (r.close.run rest).callsTo .readiness id =
        r.callsTo .readiness id ++ [telling id l .notReady] := by
  intro id r ho hstays
  have hinformed := informed_after ho hstays
  have hclosed := callsTo_proclaim (isNumbered_after ho) hinformed.registered .notReady
  refine ⟨callsTo_bulletin r id ▸ hinformed.head_eq, callsTo_bulletin r id ▸ hinformed.last_eq, ?_⟩
  -- a closed repository calls nobody, so that all further closes are silent
  calc (r.close.run rest).callsTo .readiness id
    _ = r.close.callsTo .readiness id := by
        rw [callsTo, (closed_run (isClosed_close r) rest).calls_eq, callsTo]
    _ = (r.bulletin.proclaim .notReady).callsTo id := callsTo_close ho id
    _ = r.callsTo .readiness id ++ [telling id l .notReady] := by
        rw [← callsTo_bulletin]
        exact hclosed

/-- One that registers with a ready repository which then fails; another one that fails and is
cancelled makes no difference, and neither do two more closes. -/
theorem readiness_listener_informed_of_failure :
    let r := after ([.updateAll [] false] ++ [.listen .readiness ⟨"a", false⟩] ++
      [.listen .readiness ⟨"b", true⟩, .fail, .cancel .readiness 1])
    (r.callsTo .readiness 0).head? = some (telling 0 ⟨"a", false⟩ .ready) ∧
      (r.callsTo .readiness 0).getLast? = some (telling 0 ⟨"a", false⟩ .failed) ∧
      (r.close.run [.close, .fail, .close]).callsTo .readiness 0 =
        r.callsTo .readiness 0 ++ [telling 0 ⟨"a", false⟩ .notReady] :=
  readiness_listener_informed [.updateAll [] false]
    [.listen .readiness ⟨"b", true⟩, .fail, .cancel .readiness 1] [.close, .fail, .close]
    ⟨"a", false⟩ rfl (by show Operation.cancel .readiness 0 ∉ _; simp)

end Repository

end FeatureFlags
