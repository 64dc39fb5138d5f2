import Mathlib.Data.List.Chain
import Mathlib.Data.List.DropRight
import FeatureFlags.Proofs.Polling.Queues

/-!
# Changes of the context

Which changes of the context a run made, and which of them are `unasked`: those since the last one
whose header the last request carried. While a request is under way, those who made them wait for
it or for the next one, and which of the two depends on whether a change repeats the header of the
one before it (`Queued`). A change that does takes back that the header has changed, so that its
caller waits for the request under way like one who changes nothing.

Every run of an edge whose callers bring headers and their digests keeps track of its changes
(`tracked_run`).
-/

set_option autoImplicit false

namespace FeatureFlags.Edge.Polling

/-- A change of the context. -/
structure ContextChange where
  /-- The future that the caller got. -/
  ticket : Ticket
  /-- The header of the context. -/
  header : Option String
  /-- The digest of the header. -/
  sha : String

/-- Whether a request is for the context of a change. -/
def ContextChange.IsAskedBy (c : ContextChange) (url : String) (q : Request) : Prop :=
  q.header = c.header ∧ q.url = Traffic.contextUrl url c.sha

/-- Whether no change repeats the header of the one before it. -/
def NoRepeat (cs : List ContextChange) : Prop := cs.IsChain fun c d => c.header ≠ d.header

/-- The digest of a header. -/
def shaOf (digest : String → String) (header : Option String) : String :=
  header.elim noContextSha digest

/-- Whether a change of the context comes with a header and the digest of it. -/
def Event.IsDigested (digest : String → String) : Event → Prop
  | .changeContext header sha => header.isSome = true ∧ sha = shaOf digest header
  | _ => True

namespace Traffic

/-- The change of the context that an event makes. -/
def change? (t : Traffic) : Event → Option ContextChange
  | .changeContext header sha => some ⟨t.nextTicket, header, sha⟩
  | _ => none

/-- The header that the last request carried. -/
def lastHeader (t : Traffic) : Option String := t.sent.getLast?.bind Request.header

/-- The changes since the last one whose header the last request carried. -/
def unasked (t : Traffic) (cs : List ContextChange) : List ContextChange :=
  cs.rtakeWhile fun c => c.header != t.lastHeader

end Traffic

/-- The changes of the context in a run. -/
def changes (p : Polling) : List Event → List ContextChange
  | [] => []
  | e :: es => (p.traffic.change? e).toList ++ (p.step e).changes es

/-- One more event adds the change that it makes. -/
theorem changes_concat (p : Polling) (es : List Event) (e : Event) :
    p.changes (es ++ [e]) = p.changes es ++ ((p.run es).traffic.change? e).toList := by
  induction es generalizing p with
  | nil => simp [changes]
  | cons f es ih => simp [changes, ih, run]

/-! ### Headers and digests -/

namespace Traffic

variable {digest : String → String} {cs : List ContextChange} {t t' : Traffic} {e : Event}

/-- What is known of the contexts that were taken and asked for. -/
structure Known (digest : String → String) (cs : List ContextChange) (t : Traffic) : Prop where
  /-- The header is that of the latest change. -/
  header_eq : t.header = cs.getLast?.bind ContextChange.header
  /-- The digest belongs to the header. -/
  contextSha_eq : t.contextSha = shaOf digest t.header
  /-- Every change has a header and its digest. -/
  digested : ∀ c ∈ cs, c.header.isSome = true ∧ c.sha = shaOf digest c.header
  /-- Every change has come. -/
  ticket_lt : ∀ c ∈ cs, c.ticket < t.nextTicket
  /-- Every request carries a header and its digest. -/
  url_eq : ∀ q ∈ t.sent, q.url = contextUrl t.url (shaOf digest q.header)
  /-- Before the first change, nothing is asked with a header. -/
  first : cs = [] → ∀ q ∈ t.sent, q.header = none

/-- Only calls change the context. -/
theorem change?_of_not_isCall (t : Traffic) (h : ¬ e.IsCall) : t.change? e = none := by
  cases e with
  | poll | changeContext => exact absurd trivial h
  | _ => rfl

/-- An answer does not change the context. -/
theorem change?_of_isAnswer (t : Traffic) (h : e.IsAnswer) : t.change? e = none :=
  t.change?_of_not_isCall (Event.not_isCall_of_isAnswer h)

/-- A caller leaves what is known. -/
theorem Known.of_enter (h : t.Known digest cs) (he : e.IsDigested digest) :
    (t.enter e).Known digest (cs ++ (t.change? e).toList) := by
  have hlt : ∀ c ∈ cs, c.ticket < t.nextTicket + 1 := fun c hc =>
    Nat.lt_succ_of_lt (h.ticket_lt c hc)
  cases e with
  | poll =>
    rw [show t.change? .poll = none from rfl, Option.toList_none, List.append_nil]
    exact ⟨h.header_eq, h.contextSha_eq, h.digested, hlt, h.url_eq, h.first⟩
  | changeContext header sha =>
    rw [show t.change? (.changeContext header sha) = some ⟨t.nextTicket, header, sha⟩ from rfl,
      Option.toList_some]
    constructor
    case header_eq => rw [List.getLast?_concat]; rfl
    case contextSha_eq => exact he.2
    case digested =>
      intro c hc
      rcases List.mem_append.mp hc with hc | hc
      · exact h.digested c hc
      · rw [List.mem_singleton.mp hc]
        exact he
    case ticket_lt =>
      intro c hc
      rcases List.mem_append.mp hc with hc | hc
      · exact hlt c hc
      · rw [List.mem_singleton.mp hc]
        exact Nat.lt_succ_self _
    case url_eq => exact h.url_eq
    case first => exact fun hnil => absurd hnil (by simp)
  | _ =>
    simp only [change?, Option.toList_none, List.append_nil]
    exact h

/-- What is known does not depend on what only the edge changes, but for requests that are made
with the present context. -/
theorem Known.of_sendsPresent (h : t.Known digest cs) (hf : t'.front = t.front)
    (hs : t.SendsPresent t') : t'.Known digest cs := by
  have hurl : t'.url = t.url := congrArg Front.url hf
  have hheader : t'.header = t.header := congrArg Front.header hf
  have hsha : t'.contextSha = t.contextSha := congrArg Front.contextSha hf
  have hticket : t'.nextTicket = t.nextTicket := congrArg Front.nextTicket hf
  have hcontext : t'.contextSha = shaOf digest t'.header := by
    rw [hsha, hheader, h.contextSha_eq]
  have hsent : ∀ q ∈ t'.sent, q ∈ t.sent ∨
      q.header = t'.header ∧ q.url = contextUrl t'.url t'.contextSha := by
    intro q hq
    rcases hs with hs | ⟨r, hs, hr⟩
    · exact Or.inl (hs ▸ hq)
    · rw [hs] at hq
      rcases List.mem_append.mp hq with hq | hq
      · exact Or.inl hq
      · exact Or.inr (List.mem_singleton.mp hq ▸ hr)
  constructor
  case header_eq => exact hheader.trans h.header_eq
  case contextSha_eq => exact hcontext
  case digested => exact h.digested
  case ticket_lt => exact fun c hc => hticket ▸ h.ticket_lt c hc
  case url_eq =>
    intro q hq
    rcases hsent q hq with hq | ⟨hqh, hqu⟩
    · exact hurl ▸ h.url_eq q hq
    · rw [hqu, hcontext, hqh]
  case first =>
    intro hnil q hq
    rcases hsent q hq with hq | ⟨hqh, -⟩
    · exact h.first hnil q hq
    · rw [hqh, hheader, h.header_eq, hnil]
      rfl

/-- Every move keeps the contexts known. -/
theorem Known.of_moves (h : t.Known digest cs) (he : e.IsDigested digest) (hm : t.Moves e t') :
    t'.Known digest (cs ++ (t.change? e).toList) := by
  refine (h.of_enter he).of_sendsPresent hm.front_eq ?_
  unfold SendsPresent
  rw [sent_enter]
  exact hm.sendsPresent

/-- Whether the last request is for a change can be told by the header. -/
theorem Known.asked_iff (h : t.Known digest cs) {c : ContextChange}
    (hc : c.header.isSome = true ∧ c.sha = shaOf digest c.header) :
    (∃ q, t.sent.getLast? = some q ∧ c.IsAskedBy t.url q) ↔ c.header = t.lastHeader := by
  unfold lastHeader
  cases hlast : t.sent.getLast? with
  | none =>
    refine iff_of_false (fun ⟨q, hq, _⟩ => nomatch hq) fun hheader => ?_
    rw [hheader] at hc
    exact Bool.false_ne_true hc.1
  | some q =>
    have hmem : q ∈ t.sent := List.mem_of_getLast? hlast
    constructor
    · rintro ⟨r, hr, hheader, -⟩
      exact Option.some.inj hr ▸ hheader.symm
    · intro hheader
      refine ⟨q, rfl, hheader.symm, ?_⟩
      rw [h.url_eq q hmem, hc.2, hheader]
      rfl

/-! ### Changes that were not asked for -/

/-- One more change is unasked, unless the last request carried its header. -/
theorem unasked_concat (t : Traffic) (cs : List ContextChange) (c : ContextChange) :
    t.unasked (cs ++ [c]) = if c.header = t.lastHeader then [] else t.unasked cs ++ [c] := by
  unfold unasked
  rw [List.rtakeWhile_concat]
  by_cases hc : c.header = t.lastHeader <;> simp [hc]

/-- The last request did not carry the header of an unasked change. -/
theorem header_ne_of_mem_unasked {c : ContextChange} (h : c ∈ t.unasked cs) :
    c.header ≠ t.lastHeader := by
  have hne := List.mem_rtakeWhile_imp h
  simpa using hne

/-- Changes after which none was asked for are unasked. -/
theorem mem_unasked {earlier later : List ContextChange}
    (h : ∀ c ∈ later, c.header ≠ t.lastHeader) {c : ContextChange} (hc : c ∈ later) :
    c ∈ t.unasked (earlier ++ later) := by
  unfold unasked List.rtakeWhile
  have hall : ∀ d ∈ later.reverse, (d.header != t.lastHeader) = true := by
    intro d hd
    simpa using h d (List.mem_reverse.mp hd)
  rw [List.reverse_append, List.takeWhile_append_of_pos hall, List.reverse_append,
    List.reverse_reverse]
  exact List.mem_append_right _ hc

/-- No change is unasked exactly if the last request carried the present header. -/
theorem Known.unasked_eq_nil_iff (h : t.Known digest cs) :
    t.unasked cs = [] ↔ t.header = t.lastHeader := by
  have hheader := h.header_eq
  rcases List.eq_nil_or_concat' cs with rfl | ⟨before, c, rfl⟩
  · refine iff_of_true rfl (hheader.trans ?_)
    unfold lastHeader
    cases hlast : t.sent.getLast? with
    | none => rfl
    | some q => exact (h.first rfl q (List.mem_of_getLast? hlast)).symm
  · rw [List.getLast?_concat] at hheader
    rw [unasked_concat, show t.header = c.header from hheader]
    split
    · next hc => exact iff_of_true rfl hc
    · next hc => exact iff_of_false (by simp) hc

/-- The last request is for the latest change exactly if no change is unasked. -/
theorem Known.asked_latest_iff (h : t.Known digest cs) :
    (∀ c, cs.getLast? = some c →
      ∃ q, t.sent.getLast? = some q ∧ c.IsAskedBy t.url q) ↔ t.unasked cs = [] := by
  rcases List.eq_nil_or_concat' cs with rfl | ⟨before, c, rfl⟩
  · exact iff_of_true (fun c hc => nomatch hc) rfl
  · have hc := h.asked_iff (h.digested c (List.mem_append_right _ (List.mem_singleton_self c)))
    rw [List.getLast?_concat, unasked_concat]
    simp only [Option.some.injEq, forall_eq', hc]
    split
    · next heq => exact iff_of_true heq rfl
    · next hne => exact iff_of_false hne (by simp)

/-- The latest unasked change is the latest change. -/
theorem Known.header_getLast?_unasked (h : t.Known digest cs) (hne : t.unasked cs ≠ []) :
    ∃ c, (t.unasked cs).getLast? = some c ∧ c.header = t.header := by
  have hheader := h.header_eq
  rcases List.eq_nil_or_concat' cs with rfl | ⟨before, c, rfl⟩
  · exact absurd rfl hne
  · rw [List.getLast?_concat] at hheader
    rw [unasked_concat] at hne ⊢
    split at hne
    · exact absurd rfl hne
    · next hc =>
      rw [if_neg hc]
      exact ⟨c, List.getLast?_concat, hheader.symm⟩

/-- Another change repeats a header if it has the header of the latest one. -/
theorem Known.noRepeat_concat_iff (h : t.Known digest cs) (c : ContextChange) :
    NoRepeat (t.unasked cs ++ [c]) ↔
      NoRepeat (t.unasked cs) ∧ (t.unasked cs ≠ [] → c.header ≠ t.header) := by
  unfold NoRepeat
  rw [List.isChain_append]
  by_cases hne : t.unasked cs = []
  · rw [hne]
    simp
  · obtain ⟨d, hd, hheader⟩ := h.header_getLast?_unasked hne
    simp [hd, hheader, hne, eq_comm]

/-! ### Changes while a request is under way -/

/-- Where those wait who changed the context and were not asked for. -/
structure Queued (t : Traffic) (cs : List ContextChange) : Prop where
  /-- The header counts as unchanged only if the latest change repeats one. -/
  repeated : t.headerChanged = false → t.unasked cs ≠ [] → ¬ NoRepeat (t.unasked cs)
  /-- Some of them wait for the next request. -/
  followUp_ne_nil : t.unasked cs ≠ [] → t.followUp ≠ []
  /-- All of them do exactly if no change repeats a header. -/
  noRepeat_iff : NoRepeat (t.unasked cs) ↔ ∀ c ∈ t.unasked cs, c.ticket ∉ t.waiting

/-- Where every change was asked for nobody has to wait. -/
theorem Queued.of_unasked_eq_nil (h : t.unasked cs = []) : t.Queued cs := by
  constructor <;> rw [h]
  case repeated => exact fun _ hne => absurd rfl hne
  case followUp_ne_nil => exact fun hne => absurd rfl hne
  case noRepeat_iff => exact iff_of_true .nil fun c hc => absurd hc List.not_mem_nil

/-- What is unasked depends on the requests that were sent only. -/
theorem unasked_congr (h : t'.sent = t.sent) : t'.unasked cs = t.unasked cs := by
  unfold unasked lastHeader
  rw [h]

/-- Nobody waits with a future that was not made. -/
theorem not_mem_waiting_of_nextTicket (h : t.Orderly) : t.nextTicket ∉ t.waiting :=
  fun hmem => Nat.lt_irrefl _ (h.pending _ (List.mem_append_left _ hmem)).1

/-- A caller who leaves the context alone does not concern the changes. -/
theorem Queued.of_join_poll (h : t.Queued cs) (hk : t.Known digest cs) :
    ((t.enter .poll).join t.nextTicket).Queued cs := by
  have hunasked : ((t.enter .poll).join t.nextTicket).unasked cs = t.unasked cs :=
    unasked_congr (by simp)
  have hnew : ∀ c ∈ t.unasked cs, c.ticket ≠ t.nextTicket := by
    intro c hc
    have hmem : c ∈ cs := (List.rtakeWhile_suffix _ cs).subset hc
    exact Nat.ne_of_lt (hk.ticket_lt c hmem)
  constructor <;> rw [hunasked]
  case repeated =>
    unfold join
    split
    · next hh => exact fun hh' => absurd (hh'.symm.trans hh) Bool.noConfusion
    · exact h.repeated
  case followUp_ne_nil =>
    unfold join
    split
    · simp
    · exact h.followUp_ne_nil
  case noRepeat_iff =>
    rw [h.noRepeat_iff]
    unfold join
    split
    · rfl
    · refine forall₂_congr fun c hc => ?_
      simp [enter, hnew c hc]

/-- A change while a request is under way waits for the next one, unless it repeats a header. -/
theorem Queued.of_join_changeContext (h : t.Queued cs) (hk : t.Known digest cs) (ho : t.Orderly)
    {c : ContextChange} (hc : c.ticket = t.nextTicket) (hs : c.header.isSome = true) :
    ((t.enter (.changeContext c.header c.sha)).join t.nextTicket).Queued (cs ++ [c]) := by
  have hunasked : ((t.enter (.changeContext c.header c.sha)).join t.nextTicket).unasked
      (cs ++ [c]) = t.unasked (cs ++ [c]) :=
    unasked_congr (by simp)
  by_cases hasked : c.header = t.lastHeader
  · refine .of_unasked_eq_nil ?_
    rw [hunasked, unasked_concat, if_pos hasked]
  · have hconcat : t.unasked (cs ++ [c]) = t.unasked cs ++ [c] := by
      rw [unasked_concat, if_neg hasked]
    have hchain := hk.noRepeat_concat_iff c
    by_cases hsame : c.header = t.header
    · -- the last request did not carry the present header, so that some change is unasked
      have hne : t.unasked cs ≠ [] := fun hnil =>
        hasked (hsame.trans (hk.unasked_eq_nil_iff.mp hnil))
      have hrepeat : ¬ NoRepeat (t.unasked cs ++ [c]) := fun hno => (hchain.mp hno).2 hne hsame
      have hjoin : (t.enter (.changeContext c.header c.sha)).join t.nextTicket =
          { t.enter (.changeContext c.header c.sha) with
            waiting := t.waiting ++ [t.nextTicket] } := by
        unfold join
        rw [if_neg (by simp [enter, hsame])]
        rfl
      constructor <;> rw [hunasked, hconcat]
      case repeated => exact fun _ _ => hrepeat
      case followUp_ne_nil => rw [hjoin]; exact fun _ => h.followUp_ne_nil hne
      case noRepeat_iff =>
        refine iff_of_false hrepeat fun hall => ?_
        rw [hjoin] at hall
        refine hall c (List.mem_append_right _ (List.mem_singleton_self c)) ?_
        exact hc ▸ List.mem_append_right _ (List.mem_singleton_self _)
    · have hjoin : (t.enter (.changeContext c.header c.sha)).join t.nextTicket =
          { t.enter (.changeContext c.header c.sha) with
            followUp := t.followUp ++ [t.nextTicket] } := by
        unfold join
        rw [if_pos (by simp [enter, hs, hsame])]
        rfl
      have hnew : c.ticket ∉ t.waiting := hc ▸ not_mem_waiting_of_nextTicket ho
      constructor <;> rw [hunasked, hconcat, hjoin]
      case repeated =>
        intro hh
        simp [enter, hs, hsame] at hh
      case followUp_ne_nil => simp
      case noRepeat_iff =>
        rw [hchain, h.noRepeat_iff]
        simp [enter, hnew, hsame, or_imp, forall_and]

/-! ### All changes -/

/-- What is known of the changes in a run and of the traffic after it. -/
structure Tracked (digest : String → String) (cs : List ContextChange) (t : Traffic) : Prop where
  /-- The contexts are known. -/
  known : t.Known digest cs
  /-- The queues are in order. -/
  orderly : t.Orderly
  /-- While a request is under way, the callers are where they belong. -/
  queued : t.isBusy = true → t.Queued cs

/-- Whoever asks does so with the present header. -/
theorem Checked.header_eq_lastHeader {ks : List Ticket} (h : t.Checked ks t')
    (hb : t.isBusy = false) (hb' : t'.isBusy = true) : t'.header = t'.lastHeader := by
  cases h with
  | ask _ hh =>
    unfold lastHeader
    rw [show (t.ask ks _).sent = t.sent ++ [_] from rfl, List.getLast?_concat]
    exact hh.symm
  | settle => exact absurd (hb.symm.trans hb') Bool.noConfusion

/-- An edge that asks again after a request asks with its header. -/
theorem Finished.header_eq_lastHeader (h : t.Finished t') (hb : t'.isBusy = true) :
    t'.header = t'.lastHeader := by
  cases h with
  | alone => exact nomatch hb
  | again _ hc => exact hc.header_eq_lastHeader rfl hb

/-- While a request is under way those who were not asked for are queued. -/
theorem Tracked.queued_of_inFlight (h : t.Tracked digest cs) (hi : t.inFlight ≠ []) :
    t.Queued cs :=
  h.queued (h.orderly.isBusy_of_inFlight hi)

/-- Every event keeps track of the changes. -/
theorem Tracked.of_moves (h : t.Tracked digest cs) (he : e.IsDigested digest)
    (hm : t.Moves e t') : t'.Tracked digest (cs ++ (t.change? e).toList) := by
  have hknown := h.known.of_moves he hm
  refine ⟨hknown, h.orderly.of_moves hm, fun hb' => ?_⟩
  have hasked : t'.header = t'.lastHeader → t'.Queued (cs ++ (t.change? e).toList) := fun heq =>
    .of_unasked_eq_nil (hknown.unasked_eq_nil_iff.mpr heq)
  cases hm with
  | quiet hcall =>
    rw [t.change?_of_not_isCall hcall, Option.toList_none, List.append_nil]
    exact h.queued hb'
  | join hcall hb =>
    cases e with
    | poll =>
      rw [show t.change? .poll = none from rfl, Option.toList_none, List.append_nil]
      exact (h.queued hb).of_join_poll h.known
    | changeContext header sha =>
      exact @Queued.of_join_changeContext _ _ _ (h.queued hb) h.known h.orderly
        ⟨t.nextTicket, header, sha⟩ rfl he.1
    | _ => exact hcall.elim
  | check hcall hb hc =>
    refine hasked (hc.header_eq_lastHeader ?_ hb')
    exact (isBusy_enter t e).trans hb
  | lose hanswer hi =>
    rw [change?_of_isAnswer t hanswer, Option.toList_none, List.append_nil]
    have hqueued := h.queued hb'
    exact ⟨hqueued.repeated, hqueued.followUp_ne_nil, hqueued.noRepeat_iff⟩
  | finish _ _ _ hf => exact hasked (hf.header_eq_lastHeader hb')
  | close hf => exact hasked (hf.header_eq_lastHeader hb')

end Traffic

/-! ### Runs -/

variable {digest : String → String} {p : Polling} {es : List Event}

/-- In a fresh edge there are no changes to keep track of. -/
theorem IsFresh.tracked (h : p.IsFresh) : p.traffic.Tracked digest [] := by
  refine ⟨?_, h.orderly, ?_⟩
  · obtain ⟨shared, edgeUrl, apiKeys, interval, isDelegated, rfl, -⟩ := h
    constructor
    case header_eq => rfl
    case contextSha_eq => rfl
    case digested => intro c hc; exact absurd hc List.not_mem_nil
    case ticket_lt => intro c hc; exact absurd hc List.not_mem_nil
    case url_eq => intro q hq; exact absurd hq List.not_mem_nil
    case first => intro _ q hq; exact absurd hq List.not_mem_nil
  · obtain ⟨shared, edgeUrl, apiKeys, interval, isDelegated, rfl, -⟩ := h
    intro hb
    exact nomatch hb

/-- Every run keeps track of its changes. -/
theorem tracked_run (h : p.IsFresh) (hd : ∀ e ∈ es, e.IsDigested digest) :
    (p.run es).traffic.Tracked digest (p.changes es) := by
  induction es using List.reverseRecOn with
  | nil => exact h.tracked
  | append_singleton es e ih =>
    rw [run_concat, changes_concat]
    refine (ih fun e he => hd e (List.mem_append_left _ he)).of_moves ?_ (moves_step ..)
    exact hd e (List.mem_append_right _ (List.mem_singleton_self e))

end FeatureFlags.Edge.Polling
