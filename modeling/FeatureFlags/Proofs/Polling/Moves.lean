import Mathlib.Data.List.Induction
import FeatureFlags.Proofs.Polling.Answers

/-!
# What an event does to a polling edge

Everything that can happen to a polling edge is an `Event`, and a run is a list of them. Of what
an edge holds, its callers and its requests are the `Traffic`: who waits for what, what is under
way, and who was answered. The traffic changes in few ways, whatever the answers of the server
contain. `moves_step` says which: a caller waits while a request is under way, and otherwise
asks or is answered at once; an answer to a request is lost, or it ends the request, and those
who wait for the next one are looked after like one caller. What an edge holds besides changes
with few events (`holdings_step`).
-/

set_option autoImplicit false

namespace FeatureFlags.Edge.Polling

/-- What can happen to an edge. -/
inductive Event where
  /-- A caller makes sure that the server is being asked. -/
  | poll
  /-- A caller takes another header for the context. -/
  | changeContext (header : Option String) (sha : String)
  /-- The request under way is answered. -/
  | respond (response : Response)
  /-- The request under way comes to nothing. -/
  | breakOff
  /-- The edge is closed. -/
  | close
  /-- Somebody else changes the repository. -/
  | modifyRepository (f : Repository → Repository)
  /-- Time passes. -/
  | setClock (now : Instant)

namespace Event

/-- Whether a caller gets a future. -/
def IsCall : Event → Prop
  | poll | changeContext .. => True
  | _ => False

/-- Whether the request under way is over. -/
def IsAnswer : Event → Prop
  | respond _ | breakOff => True
  | _ => False

/-- Whether all requests end with an event. -/
def isFinal : Event → Bool
  | respond response => Polling.isFinal response
  | close => true
  | _ => false

/-- What comes from the server comes from no caller. -/
theorem not_isCall_of_isAnswer {e : Event} (h : e.IsAnswer) : ¬ e.IsCall := by
  cases e with
  | respond | breakOff => exact not_false
  | _ => exact h.elim

end Event

/-- What one event makes of an edge. -/
def step (p : Polling) : Event → Polling
  | .poll => p.poll.1
  | .changeContext header sha => (p.changeContext header sha).1
  | .respond response => p.respond response
  | .breakOff => p.breakOff
  | .close => p.close
  | .modifyRepository f => { p with shared := p.shared.modifyRepository f }
  | .setClock now => { p with shared := { p.shared with now := now } }

/-- What a run makes of an edge. -/
def run (p : Polling) (events : List Event) : Polling := events.foldl step p

/-- A run of no events changes nothing. -/
@[simp] theorem run_nil (p : Polling) : p.run [] = p := rfl

/-- The last event of a run is a step from where the others lead. -/
@[simp] theorem run_concat (p : Polling) (events : List Event) (e : Event) :
    p.run (events ++ [e]) = (p.run events).step e := by
  simp [run]

/-- Whether an event is an answer that is lost. -/
def loses (p : Polling) : Event → Bool
  | .respond response => !p.inFlight.isEmpty && p.isLost response
  | _ => false

/-- While a request is under way its answer is lost if the edge loses it. -/
theorem loses_respond {p : Polling} {q : Request} {rest : List Request}
    (hi : p.inFlight = q :: rest) {response : Response} :
    p.loses (.respond response) = p.isLost response := by
  simp [loses, hi]

/-- An answer ends the first of the requests that are under way. -/
theorem step_respond {p : Polling} {q : Request} {rest : List Request}
    (hi : p.inFlight = q :: rest) (response : Response) :
    p.step (.respond response) =
      ({ p with inFlight := rest } : Polling).receive response := by
  simp [step, respond, hi]

/-- An answer that is lost is taken, and that is all. -/
theorem step_respond_of_lost {p : Polling} {q : Request} {rest : List Request}
    (hi : p.inFlight = q :: rest) {response : Response} (hl : p.isLost response = true) :
    p.step (.respond response) = ({ p with inFlight := rest } : Polling).heed response := by
  rw [step_respond hi, receive_eq_heed]
  exact if_pos hl

/-- An answer that is not lost is taken, and the request is over. -/
theorem step_respond_of_kept {p : Polling} {q : Request} {rest : List Request}
    (hi : p.inFlight = q :: rest) {response : Response} (hl : p.isLost response = false) :
    p.step (.respond response) =
      (({ p with inFlight := rest } : Polling).heed response).finish := by
  rw [step_respond hi, receive_eq_heed]
  exact if_neg (Bool.not_eq_true _ ▸ hl)

/-- A failure ends the first of the requests that are under way. -/
theorem step_breakOff {p : Polling} {q : Request} {rest : List Request}
    (hi : p.inFlight = q :: rest) :
    p.step .breakOff =
      ({ p with
        inFlight := rest
        shared := p.shared.modifyRepository learnFailure } : Polling).finish := by
  simp [step, breakOff, hi, fail_eq_learnFailure]

/-- An answer that nobody asked for is ignored. -/
theorem step_of_isAnswer {p : Polling} {e : Event} (he : e.IsAnswer) (hi : p.inFlight = []) :
    p.step e = p := by
  cases e with
  | respond response => simp [step, respond, hi]
  | breakOff => simp [step, breakOff, hi]
  | _ => exact he.elim

/-- What an edge holds after an event. -/
def heldAfter (p : Polling) : Event → Holdings
  | .poll | .changeContext .. => p.holdings
  | .respond response => if p.inFlight = [] then p.holdings else (p.heed response).holdings
  | .breakOff =>
    if p.inFlight = [] then p.holdings
    else { p.holdings with repository := learnFailure p.shared.repository }
  | .close => { p.holdings with mayRequest := false }
  | .modifyRepository f => { p.holdings with repository := f p.shared.repository }
  | .setClock now => { p.holdings with now := now }

/-- Besides its callers and requests, events change little of what an edge holds. -/
theorem holdings_step (p : Polling) (e : Event) : (p.step e).holdings = p.heldAfter e := by
  cases e with
  | poll => exact holdings_poll p
  | changeContext header sha => exact holdings_changeContext p header sha
  | respond response =>
    cases hi : p.inFlight with
    | nil =>
      rw [step_of_isAnswer (e := .respond response) trivial hi]
      simp [heldAfter, hi]
    | cons q rest =>
      rw [step_respond hi, holdings_receive]
      simp only [heldAfter, hi, List.cons_ne_nil, if_false]
      rfl
  | breakOff =>
    cases hi : p.inFlight with
    | nil =>
      rw [step_of_isAnswer (e := .breakOff) trivial hi]
      simp [heldAfter, hi]
    | cons q rest =>
      rw [step_breakOff hi, holdings_finish]
      simp only [heldAfter, hi, List.cons_ne_nil, if_false]
      rfl
  | close => exact holdings_finish _
  | modifyRepository | setClock => rfl

/-- Who decides when to ask is settled from the start. -/
@[simp] theorem isDelegated_step (p : Polling) (e : Event) :
    (p.step e).isDelegated = p.isDelegated := by
  refine (congrArg Holdings.isDelegated (holdings_step p e)).trans ?_
  cases e with
  | respond | breakOff =>
    simp only [heldAfter]
    split <;> rfl
  | _ => rfl

/-! ### Callers and requests -/

/-- The callers and the requests of an edge. -/
structure Traffic where
  /-- The address without the digest of the context. -/
  url : String
  /-- Whether requests are made at all. -/
  canRequest : Bool
  /-- The header of the context. -/
  header : Option String
  /-- The digest of the header. -/
  contextSha : String
  /-- Whether the context has changed since the last request. -/
  headerChanged : Bool
  /-- Whether a request is under way. -/
  isBusy : Bool
  /-- Those who wait for the answer to the request. -/
  waiting : List Ticket
  /-- Those who wait for the request after it. -/
  followUp : List Ticket
  /-- The requests that are under way. -/
  inFlight : List Request
  /-- All requests that were made, in order. -/
  sent : List Request
  /-- The ticket of the next caller. -/
  nextTicket : Ticket
  /-- Those who were answered, in order. -/
  answered : List Ticket

/-- The callers and the requests of an edge. -/
def traffic (p : Polling) : Traffic where
  url := p.url
  canRequest := p.canRequest
  header := p.header
  contextSha := p.contextSha
  headerChanged := p.headerChanged
  isBusy := p.isBusy
  waiting := p.waiting
  followUp := p.followUp
  inFlight := p.inFlight
  sent := p.sent
  nextTicket := p.shared.futures.nextTicket
  answered := p.shared.futures.answers.map Prod.fst

/-- A caller has no result exactly if nobody has answered the caller. -/
theorem result?_eq_none_iff (p : Polling) (k : Ticket) :
    p.shared.futures.result? k = none ↔ k ∉ p.traffic.answered :=
  Futures.result?_eq_none_iff p.shared.futures k

namespace Traffic

/-- A caller comes, perhaps with another header. -/
def enter (t : Traffic) : Event → Traffic
  | .poll => { t with nextTicket := t.nextTicket + 1 }
  | .changeContext header sha =>
    { t with
      nextTicket := t.nextTicket + 1
      headerChanged := header.isSome && header != t.header
      header := header
      contextSha := sha }
  | _ => t

/-- A caller waits while a request is under way. -/
def join (t : Traffic) (k : Ticket) : Traffic :=
  if t.headerChanged then { t with followUp := t.followUp ++ [k] }
  else { t with waiting := t.waiting ++ [k] }

/-- Callers wait for a new request. -/
def ask (t : Traffic) (ks : List Ticket) (q : Request) : Traffic :=
  { t with
    headerChanged := false
    isBusy := true
    waiting := t.waiting ++ ks
    inFlight := t.inFlight ++ [q]
    sent := t.sent ++ [q] }

/-- Callers are answered, for there is nothing to ask. -/
def settle (t : Traffic) (ks : List Ticket) : Traffic :=
  { t with
    headerChanged := false
    answered := t.answered ++ ks }

/-- Those who waited for the request are answered. -/
def release (t : Traffic) : Traffic :=
  { t with
    isBusy := false
    waiting := []
    followUp := []
    answered := t.answered ++ t.waiting }

/-- The address of the features for a context. -/
def contextUrl (url sha : String) : String := url ++ "&contextSha=" ++ sha

/-- What callers lead to who find no request under way. -/
inductive Checked (t : Traffic) (ks : List Ticket) : Traffic → Prop
  /-- The server is asked for the features of the present context. -/
  | ask {q : Request} (hc : t.canRequest = true) (hh : q.header = t.header)
    (hu : q.url = contextUrl t.url t.contextSha) : Checked t ks (t.ask ks q)
  /-- The callers are answered. -/
  | settle (h : t.canRequest = true → t.headerChanged = false) : Checked t ks (t.settle ks)

/-- How a request ends. -/
inductive Finished (t : Traffic) : Traffic → Prop
  /-- Nobody waits for another request. -/
  | alone (h : t.followUp = []) : Finished t t.release
  /-- There are some who wait for another request. -/
  | again {t' : Traffic} (h : t.followUp ≠ []) (hc : Checked t.release t.followUp t') :
    Finished t t'

/-- What an event does to the traffic. -/
inductive Moves (t : Traffic) : Event → Traffic → Prop
  /-- The event concerns neither callers nor requests. -/
  | quiet {e : Event} (h : ¬ e.IsCall) (hi : e.IsAnswer → t.inFlight = []) : Moves t e t
  /-- A caller comes while a request is under way. -/
  | join {e : Event} (h : e.IsCall) (hb : t.isBusy = true) :
    Moves t e ((t.enter e).join t.nextTicket)
  /-- A caller comes while no request is under way. -/
  | check {e : Event} {t' : Traffic} (h : e.IsCall) (hb : t.isBusy = false)
    (hc : Checked (t.enter e) [t.nextTicket] t') : Moves t e t'
  /-- An answer is lost, and those who wait for it are left alone. -/
  | lose {e : Event} {q : Request} {rest : List Request} {may : Bool} (h : e.IsAnswer)
    (hi : t.inFlight = q :: rest) (hm : may = true → t.canRequest = true) :
    Moves t e { t with inFlight := rest, canRequest := may }
  /-- An answer ends the request. -/
  | finish {e : Event} {t' : Traffic} {q : Request} {rest : List Request} {may : Bool}
    (h : e.IsAnswer) (hi : t.inFlight = q :: rest) (hm : may = true → t.canRequest = true)
    (hf : Finished { t with inFlight := rest, canRequest := may } t') : Moves t e t'
  /-- The edge is closed. -/
  | close {t' : Traffic} (hf : Finished { t with inFlight := [], canRequest := false } t') :
    Moves t .close t'

section Lemmas

variable {t t' : Traffic} {e : Event} {ks : List Ticket}

/-- Only callers enter. -/
theorem enter_of_not_isCall (h : ¬ e.IsCall) : t.enter e = t := by
  cases e with
  | poll | changeContext => exact absurd trivial h
  | _ => rfl

/-! #### What callers leave as it is -/

section Fields

variable (t : Traffic) (e : Event) (k : Ticket)

/-- Whoever enters leaves the address as it is. -/
@[simp] theorem url_enter : (t.enter e).url = t.url := by cases e <;> rfl

/-- Whoever enters changes nothing about whether requests are made at all. -/
@[simp] theorem canRequest_enter : (t.enter e).canRequest = t.canRequest := by cases e <;> rfl

/-- Whoever enters changes nothing about whether a request is under way. -/
@[simp] theorem isBusy_enter : (t.enter e).isBusy = t.isBusy := by cases e <;> rfl

/-- Whoever enters does not wait for the request yet. -/
@[simp] theorem waiting_enter : (t.enter e).waiting = t.waiting := by cases e <;> rfl

/-- Whoever enters does not wait for the next request yet. -/
@[simp] theorem followUp_enter : (t.enter e).followUp = t.followUp := by cases e <;> rfl

/-- Whoever enters sends nothing yet. -/
@[simp] theorem inFlight_enter : (t.enter e).inFlight = t.inFlight := by cases e <;> rfl

/-- Whoever enters has sent nothing yet. -/
@[simp] theorem sent_enter : (t.enter e).sent = t.sent := by cases e <;> rfl

/-- Whoever enters answers nobody. -/
@[simp] theorem answered_enter : (t.enter e).answered = t.answered := by cases e <;> rfl

/-- Whoever waits changes nothing about whether requests are made at all. -/
@[simp] theorem canRequest_join : (t.join k).canRequest = t.canRequest := by
  unfold join; split <;> rfl

/-- Whoever waits leaves the change of the context to the next request. -/
@[simp] theorem headerChanged_join : (t.join k).headerChanged = t.headerChanged := by
  unfold join; split <;> rfl

/-- Whoever waits changes nothing about whether a request is under way. -/
@[simp] theorem isBusy_join : (t.join k).isBusy = t.isBusy := by unfold join; split <;> rfl

/-- Whoever waits sends nothing. -/
@[simp] theorem inFlight_join : (t.join k).inFlight = t.inFlight := by unfold join; split <;> rfl

/-- Whoever waits has sent nothing. -/
@[simp] theorem sent_join : (t.join k).sent = t.sent := by unfold join; split <;> rfl

/-- Whoever waits answers nobody. -/
@[simp] theorem answered_join : (t.join k).answered = t.answered := by unfold join; split <;> rfl

end Fields

/-! #### What only callers change -/

/-- What only callers change. -/
structure Front where
  /-- The address without the digest of the context. -/
  url : String
  /-- The header of the context. -/
  header : Option String
  /-- The digest of the header. -/
  contextSha : String
  /-- The ticket of the next caller. -/
  nextTicket : Ticket

/-- What only callers change. -/
def front (t : Traffic) : Front := ⟨t.url, t.header, t.contextSha, t.nextTicket⟩

/-- Whoever waits has no effect on what only callers change. -/
theorem front_join (t : Traffic) (k : Ticket) : (t.join k).front = t.front := by
  unfold join
  split <;> rfl

/-- Asking or answering has no effect on what only callers change. -/
theorem Checked.front_eq (h : t.Checked ks t') : t'.front = t.front := by
  cases h <;> rfl

/-- The end of a request has no effect on what only callers change. -/
theorem Finished.front_eq (h : t.Finished t') : t'.front = t.front := by
  cases h with
  | alone => rfl
  | again _ hc => exact hc.front_eq

/-- What only callers change is as the caller left it. -/
theorem Moves.front_eq (h : t.Moves e t') : t'.front = (t.enter e).front := by
  cases h with
  | quiet h => rw [enter_of_not_isCall h]
  | join => exact front_join ..
  | check _ _ hc => exact hc.front_eq
  | lose h => rw [enter_of_not_isCall (Event.not_isCall_of_isAnswer h)]; rfl
  | finish h _ _ hf => rw [enter_of_not_isCall (Event.not_isCall_of_isAnswer h), hf.front_eq]; rfl
  | close hf => exact hf.front_eq

/-! #### What is sent -/

/-- Whether nothing was sent, or one request for the present context. -/
def SendsPresent (t t' : Traffic) : Prop :=
  t'.sent = t.sent ∨ ∃ q : Request, t'.sent = t.sent ++ [q] ∧ q.header = t'.header ∧
    q.url = contextUrl t'.url t'.contextSha

/-- If something is sent for a caller, it is for the present context. -/
theorem Checked.sendsPresent (h : t.Checked ks t') : t.SendsPresent t' := by
  cases h with
  | ask _ hh hu => exact Or.inr ⟨_, rfl, hh, hu⟩
  | settle => exact Or.inl rfl

/-- If something is sent after the end of a request, it is for the present context. -/
theorem Finished.sendsPresent (h : t.Finished t') : t.SendsPresent t' := by
  cases h with
  | alone => exact Or.inl rfl
  | again _ hc => exact hc.sendsPresent

/-- Every request is made for the context there is when it is made. -/
theorem Moves.sendsPresent (h : t.Moves e t') : t.SendsPresent t' := by
  cases h with
  | quiet => exact Or.inl rfl
  | join => exact Or.inl (by simp)
  | check _ _ hc =>
    unfold SendsPresent
    rw [← sent_enter t e]
    exact hc.sendsPresent
  | lose => exact Or.inl rfl
  | finish _ _ _ hf => exact hf.sendsPresent
  | close hf => exact hf.sendsPresent

/-! #### Whether requests are allowed -/

/-- Asking or answering changes nothing about whether requests are made at all. -/
theorem Checked.canRequest_eq (h : t.Checked ks t') : t'.canRequest = t.canRequest := by
  cases h <;> rfl

/-- The end of a request changes nothing about whether requests are made at all. -/
theorem Finished.canRequest_eq (h : t.Finished t') : t'.canRequest = t.canRequest := by
  cases h with
  | alone => rfl
  | again _ hc => exact hc.canRequest_eq

/-- Requests that are not allowed any more are not allowed again. -/
theorem Moves.canRequest (h : t.Moves e t') (hc : t'.canRequest = true) :
    t.canRequest = true := by
  cases h with
  | quiet => exact hc
  | join => simpa using hc
  | check _ _ hcheck => rw [← canRequest_enter t e, ← hcheck.canRequest_eq, hc]
  | lose _ _ hm => exact hm hc
  | finish _ _ hm hf => exact hm (hf.canRequest_eq.symm.trans hc)
  | close hf => exact nomatch hf.canRequest_eq.symm.trans hc

end Lemmas

end Traffic

/-! ### Checking for updates -/

/-- Whether the server is to be asked, if that is allowed. -/
def isDue (p : Polling) : Bool :=
  p.isDelegated || p.interval.isZero || p.hasExpired || p.headerChanged

/-- The edge after it has asked the server for a caller. -/
def ask (p : Polling) (k : Ticket) : Polling :=
  { p with
    headerChanged := false
    isBusy := true
    waiting := p.waiting ++ [k]
    inFlight := p.inFlight ++ [p.request]
    sent := p.sent ++ [p.request] }

/-- The edge after it has answered a caller. -/
def settle (p : Polling) (k : Ticket) (r : Readiness) : Polling :=
  { p with
    headerChanged := false
    shared := { p.shared with futures := p.shared.futures.answer k r } }

/-- While no request is under way a caller is answered, or the server is asked for the caller. -/
theorem check_of_idle {p : Polling} (h : p.isBusy = false) (k : Ticket) (r : Option Readiness) :
    p.check k r =
      if p.isDue && p.canRequest then p.ask k else p.settle k (r.getD p.shared.readiness) := by
  unfold check
  rw [if_neg (by simp [h])]
  rfl

/-- While a request is under way a caller waits. -/
theorem traffic_check_of_busy {p : Polling} (h : p.isBusy = true) (k : Ticket)
    (r : Option Readiness) : (p.check k r).traffic = p.traffic.join k := by
  unfold check Traffic.join
  rw [if_pos h, show p.traffic.headerChanged = p.headerChanged from rfl]
  split <;> rfl

/-- Asking the server is asking it in the traffic. -/
@[simp] theorem traffic_ask (p : Polling) (k : Ticket) :
    (p.ask k).traffic = p.traffic.ask [k] p.request := rfl

/-- Answering a caller is answering the caller in the traffic. -/
@[simp] theorem traffic_settle (p : Polling) (k : Ticket) (r : Readiness) :
    (p.settle k r).traffic = p.traffic.settle [k] := by
  simp [traffic, settle, Traffic.settle, Futures.answer, Futures.nextTicket, canRequest]

/-- When a request is under way for the present context, all callers wait for it. -/
theorem traffic_foldl_check_of_busy (ks : List Ticket) (r : Option Readiness) {p : Polling}
    (hb : p.isBusy = true) (hh : p.headerChanged = false) :
    (ks.foldl (fun p k => p.check k r) p).traffic =
      { p.traffic with waiting := p.traffic.waiting ++ ks } := by
  induction ks generalizing p with
  | nil => simp
  | cons k ks ih =>
    have hcheck : p.check k r = { p with waiting := p.waiting ++ [k] } := by
      unfold check
      rw [if_pos hb, if_neg (by simp [hh])]
    rw [List.foldl_cons, hcheck, ih (by exact hb) (by exact hh)]
    simp [traffic, canRequest]

/-- When no request is made for the first caller, none is made for the others. -/
theorem traffic_foldl_check_of_settled (ks : List Ticket) (r : Option Readiness) {p : Polling}
    (hb : p.isBusy = false) (hd : (p.isDue && p.canRequest) = false) (k : Ticket) :
    ((k :: ks).foldl (fun p k => p.check k r) p).traffic = p.traffic.settle (k :: ks) := by
  induction ks generalizing p k with
  | nil =>
    rw [List.foldl_cons, check_of_idle hb, hd]
    exact traffic_settle ..
  | cons l ks ih =>
    rw [List.foldl_cons, check_of_idle hb, hd, if_neg (by simp)]
    -- a check without a request can only take away a reason to make one
    have hsettled : ((p.settle k (r.getD p.shared.readiness)).isDue &&
        (p.settle k (r.getD p.shared.readiness)).canRequest) = false := by
      revert hd
      simp only [isDue, settle, canRequest, hasExpired]
      cases p.headerChanged <;> simp +contextual
    rw [ih (by exact hb) hsettled, traffic_settle]
    simp [Traffic.settle]

/-- Callers who find no request under way are treated alike. -/
theorem checked_foldl_check {p : Polling} (hb : p.isBusy = false) {ks : List Ticket}
    (hne : ks ≠ []) (r : Option Readiness) :
    p.traffic.Checked ks (ks.foldl (fun p k => p.check k r) p).traffic := by
  obtain ⟨k, ks, rfl⟩ := List.exists_cons_of_ne_nil hne
  cases hd : p.isDue && p.canRequest with
  | true =>
    rw [Bool.and_eq_true] at hd
    have htraffic : ((k :: ks).foldl (fun p k => p.check k r) p).traffic =
        p.traffic.ask (k :: ks) p.request := by
      rw [List.foldl_cons, check_of_idle hb, hd.1, hd.2, if_pos (by rfl),
        traffic_foldl_check_of_busy ks r (by rfl) (by rfl), traffic_ask]
      simp [Traffic.ask]
    rw [htraffic]
    exact .ask hd.2 rfl rfl
  | false =>
    rw [traffic_foldl_check_of_settled ks r hb hd]
    refine .settle fun hc => ?_
    rw [show p.canRequest = true from hc, Bool.and_true] at hd
    unfold isDue at hd
    rw [Bool.or_eq_false_iff] at hd
    exact hd.2

/-! ### Ending a request -/

/-- The edge after it has answered those who waited for the request. -/
def release (p : Polling) : Polling :=
  { p with isBusy := false, waiting := [], followUp := [] }.answer p.waiting

/-- Answering those who waited is answering them in the traffic. -/
@[simp] theorem traffic_release (p : Polling) : p.release.traffic = p.traffic.release := by
  simp [traffic, release, answer, Shared.answerAll, Traffic.release,
    Futures.map_fst_answers_answerAll, Futures.nextTicket_answerAll, canRequest]

/-- At the end of a request those who wait for another one are checked one after the other. -/
theorem finish_eq_foldl (p : Polling) :
    p.finish = p.followUp.foldl (fun p t => p.check t none) p.release := rfl

/-- Ending a request answers those who waited for it, and looks after the others. -/
theorem finished_finish (p : Polling) : p.traffic.Finished p.finish.traffic := by
  rw [finish_eq_foldl]
  by_cases hne : p.followUp = []
  · rw [hne, List.foldl_nil, traffic_release]
    exact .alone hne
  · have hchecked := @checked_foldl_check p.release rfl p.followUp hne none
    rw [traffic_release] at hchecked
    exact .again hne hchecked

/-- If no request is due, those who wait for another one are answered as well. -/
theorem traffic_finish_of_not_due {p : Polling} (hd : p.isDue = false) :
    p.finish.traffic = p.traffic.release ∨
      p.finish.traffic = p.traffic.release.settle p.followUp := by
  rw [finish_eq_foldl, ← traffic_release]
  cases hfollow : p.followUp with
  | nil => exact Or.inl rfl
  | cons k ks =>
    have hdue : (p.release.isDue && p.release.canRequest) = false := by
      rw [show p.release.isDue = p.isDue from rfl, hd, Bool.false_and]
    exact Or.inr (traffic_foldl_check_of_settled ks none rfl hdue k)

/-- If no request is due, none follows the one that ends. -/
theorem inFlight_finish_of_not_due {p : Polling} (hd : p.isDue = false) :
    p.finish.inFlight = p.inFlight := by
  rcases traffic_finish_of_not_due hd with h | h <;> exact congrArg Traffic.inFlight h

/-- If nothing is due, nothing is sent at the end of a request. -/
theorem sent_finish_of_not_due {p : Polling} (hd : p.isDue = false) :
    p.finish.sent = p.sent := by
  rcases traffic_finish_of_not_due hd with h | h <;> exact congrArg Traffic.sent h

/-- Of the callers and requests, an answer only concerns whether requests are allowed. -/
theorem traffic_heed (p : Polling) (response : Response) :
    (p.heed response).traffic =
      { p.traffic with canRequest := p.canRequest && !isFinal response } := by
  unfold traffic
  rw [canRequest_heed]
  rfl

/-! ### All events -/

/-- A new future is to the traffic a caller who polls. -/
theorem traffic_promise (p : Polling) :
    ({ p with shared := p.shared.promise.1 } : Polling).traffic = p.traffic.enter .poll := by
  simp [traffic, Shared.promise, Traffic.enter, Futures.add, Futures.nextTicket, canRequest]

/-- A new header with a new future is to the traffic a caller who changes the context. -/
theorem traffic_setContext (p : Polling) (header : Option String) (sha : String) :
    ((p.setContext header sha).traffic).enter .poll =
      p.traffic.enter (.changeContext header sha) := rfl

/-- A caller waits if a request is under way. -/
theorem traffic_poll_of_busy {p : Polling} (h : p.isBusy = true) :
    p.poll.1.traffic = (p.traffic.enter .poll).join p.traffic.nextTicket := by
  rw [← traffic_promise]
  exact traffic_check_of_busy (by exact h) ..

/-- A caller asks or is answered if no request is under way. -/
theorem checked_poll_of_idle {p : Polling} (h : p.isBusy = false) :
    (p.traffic.enter .poll).Checked [p.traffic.nextTicket] p.poll.1.traffic := by
  rw [← traffic_promise]
  exact checked_foldl_check (by exact h) (List.cons_ne_nil _ []) (some p.shared.readiness)

/-- A caller who comes while a request is under way joins those who wait. -/
theorem traffic_call_of_busy {p : Polling} {e : Event} (he : e.IsCall) (hb : p.isBusy = true) :
    (p.step e).traffic = (p.traffic.enter e).join p.traffic.nextTicket := by
  cases e with
  | poll => exact traffic_poll_of_busy hb
  | changeContext header sha =>
    rw [← traffic_setContext]
    exact @traffic_poll_of_busy (p.setContext header sha) hb
  | _ => exact he.elim

/-- What a caller does to the traffic is one of the moves. -/
theorem moves_call {p : Polling} {e : Event} (he : e.IsCall) :
    p.traffic.Moves e (p.step e).traffic := by
  cases hb : p.isBusy with
  | true =>
    rw [traffic_call_of_busy he hb]
    exact .join he hb
  | false =>
    refine .check he hb ?_
    cases e with
    | poll => exact checked_poll_of_idle hb
    | changeContext header sha =>
      rw [← traffic_setContext]
      exact @checked_poll_of_idle (p.setContext header sha) hb
    | _ => exact he.elim

/-- An answer that is not lost ends the request. -/
theorem finished_answer {p : Polling} {e : Event} {q : Request} {rest : List Request}
    (he : e.IsAnswer) (hi : p.inFlight = q :: rest) (hl : p.loses e = false) :
    Traffic.Finished
      { p.traffic with inFlight := rest, canRequest := p.canRequest && !e.isFinal }
      (p.step e).traffic := by
  cases e with
  | respond response =>
    have hkept := (loses_respond hi).symm.trans hl
    have hfinished := finished_finish (({ p with inFlight := rest } : Polling).heed response)
    rw [traffic_heed] at hfinished
    rw [step_respond_of_kept hi hkept]
    exact hfinished
  | breakOff =>
    have hfinished := finished_finish
      { p with inFlight := rest, shared := p.shared.modifyRepository learnFailure }
    rw [step_breakOff hi, show Event.breakOff.isFinal = false from rfl, Bool.not_false,
      Bool.and_true]
    exact hfinished
  | _ => exact he.elim

/-- A request that is over leaves an edge that may ask as before, unless the answer was final. -/
theorem canRequest_of_not_final {p : Polling} {e : Event} {q : Request} {rest : List Request}
    (he : e.IsAnswer) (hi : p.inFlight = q :: rest) (hl : p.loses e = false)
    (hf : e.isFinal = false) :
    (p.step e).canRequest = p.canRequest := by
  have hcanRequest := (finished_answer he hi hl).canRequest_eq
  rw [hf, Bool.not_false, Bool.and_true] at hcanRequest
  exact hcanRequest

/-- An answer that is lost ends nothing. -/
theorem traffic_of_lost {p : Polling} {e : Event} {q : Request} {rest : List Request}
    (hi : p.inFlight = q :: rest) (hl : p.loses e = true) :
    (p.step e).traffic =
      { p.traffic with inFlight := rest, canRequest := p.canRequest && !e.isFinal } := by
  cases e with
  | respond response =>
    have hlost := (loses_respond hi).symm.trans hl
    rw [step_respond_of_lost hi hlost, traffic_heed]
    rfl
  | _ => exact nomatch hl

/-- What an answer does to the traffic is one of the moves. -/
theorem moves_answer {p : Polling} {e : Event} (he : e.IsAnswer) :
    p.traffic.Moves e (p.step e).traffic := by
  cases hi : p.inFlight with
  | nil =>
    rw [step_of_isAnswer he hi]
    exact .quiet (Event.not_isCall_of_isAnswer he) fun _ => hi
  | cons q rest =>
    have hmay : (p.canRequest && !e.isFinal) = true → p.traffic.canRequest = true := by
      intro hmay
      rw [Bool.and_eq_true] at hmay
      exact hmay.1
    cases hl : p.loses e with
    | true =>
      rw [traffic_of_lost hi hl]
      exact .lose he hi hmay
    | false => exact .finish he hi hmay (finished_answer he hi hl)

/-- What an event leads to. -/
theorem moves_step (p : Polling) (e : Event) : p.traffic.Moves e (p.step e).traffic := by
  cases e with
  | poll | changeContext => exact moves_call trivial
  | respond | breakOff => exact moves_answer trivial
  | close =>
    have hfinished := finished_finish { p with mayRequest := false, inFlight := [] }
    exact .close hfinished
  | modifyRepository | setClock => exact .quiet not_false not_false.elim

/-! ### Runs -/

/-- An edge keeps its address. -/
theorem url_run (p : Polling) (es : List Event) : (p.run es).url = p.url := by
  induction es using List.reverseRecOn with
  | nil => rfl
  | append_singleton es e ih =>
    have hfront := (moves_step (p.run es) e).front_eq
    rw [run_concat]
    exact (congrArg Traffic.Front.url hfront).trans ((Traffic.url_enter ..).trans ih)

/-- An edge stays delegated, or stays not delegated. -/
theorem isDelegated_run (p : Polling) (es : List Event) :
    (p.run es).isDelegated = p.isDelegated := by
  induction es using List.reverseRecOn with
  | nil => rfl
  | append_singleton es e ih => rw [run_concat, isDelegated_step, ih]

/-- Requests that are allowed at the end of a run were allowed throughout. -/
theorem canRequest_before {p : Polling} {es events : List Event} (h : es <+: events)
    (hc : (p.run events).canRequest = true) : (p.run es).canRequest = true := by
  obtain ⟨rest, rfl⟩ := h
  induction rest using List.reverseRecOn with
  | nil => rwa [List.append_nil] at hc
  | append_singleton rest e ih =>
    rw [← List.append_assoc, run_concat] at hc
    exact ih ((moves_step (p.run (es ++ rest)) e).canRequest hc)

end FeatureFlags.Edge.Polling
