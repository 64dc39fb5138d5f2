import FeatureFlags.Edge.Polling

/-!
# What an answer means to a polling edge

Before its callers are looked after, an edge takes from an answer whatever there is in it: the
headers, the features if there are any that can be read, and whether it may ask again. `heed` says
so field by field. Then the request is over (`receive_eq_heed`), unless the clock cannot represent
the instant at which the answer expires, and the answer is lost.

Nothing of this depends on the callers and requests, and looking after callers changes none of
it: `holdings` is what an edge holds besides its callers and requests.
-/

set_option autoImplicit false

namespace FeatureFlags.Edge.Polling

/-! ### Answers -/

/-- The environments that an answer delivers. -/
def delivered? (response : Response) : Option (List Environment) :=
  if isSuccess response.status then environments? response.body else none

/-- Whether an answer ends all requests. -/
def isFinal (response : Response) : Bool :=
  isRejection response.status ||
    (response.status == stopStatus && (delivered? response).isSome)

/-- How long an answer is to be kept. -/
def keeping (p : Polling) (response : Response) : Duration :=
  (response.cacheControl.bind maxAge?).getD p.interval

/-- Whether the clock can represent the instant at which an answer expires. -/
def canKeep (p : Polling) (response : Response) : Bool :=
  (p.keeping response).isZero || (p.shared.now.after? (p.keeping response)).isSome

/-- Whether an answer is lost on its way to those who wait for it. -/
def isLost (p : Polling) (response : Response) : Bool :=
  (delivered? response).isSome && !p.canKeep response

/-- What a repository makes of a request that came to nothing. -/
def learnFailure (r : Repository) : Repository :=
  if (r.logErrors 1).readiness = .ready then r.logErrors 1 else (r.logErrors 1).fail

/-- What a repository makes of an answer. -/
def learn (response : Response) (r : Repository) : Repository :=
  match delivered? response with
  | some es =>
    (r.logErrors (malformedCount es)).updateFeatures (es.flatMap environmentFeatures) false
  | none =>
    if isSuccess response.status then learnFailure (r.logErrors 1)
    else if isRejection response.status then r.fail
    else r

/-- The edge after it has taken what there is in an answer. -/
def heed (p : Polling) (response : Response) : Polling :=
  { p with
    shared := p.shared.modifyRepository (learn response)
    mayRequest := p.mayRequest && !isRejection response.status
    isStopped := p.isStopped ||
      (response.status == stopStatus && (delivered? response).isSome)
    interval := p.keeping response
    etag := response.etag.or p.etag
    expiry :=
      if (delivered? response).isSome && !(p.keeping response).isZero then
        (p.shared.now.after? (p.keeping response)).or p.expiry
      else p.expiry }

/-- After an answer requests are made as before, unless the answer is final. -/
theorem canRequest_heed (p : Polling) (response : Response) :
    (p.heed response).canRequest = (p.canRequest && !isFinal response) := by
  simp only [canRequest, heed, isFinal]
  cases p.mayRequest <;> cases p.isStopped <;> simp

/-- No success is a rejection. -/
theorem isRejection_of_isSuccess {status : Nat} (h : isSuccess status = true) :
    isRejection status = false := by
  unfold isSuccess at h
  unfold isRejection
  simp only [Bool.and_eq_true, decide_eq_true_eq] at h
  simp only [List.contains_cons, List.contains_nil, Bool.or_false, Bool.or_eq_false_iff,
    beq_eq_false_iff_ne]
  omega

section Heed

variable {p : Polling} {response : Response}

/-- An answer without features concerns the headers and the repository. -/
theorem heed_of_not_delivered (h : delivered? response = none) :
    p.heed response =
      { p.applyHeaders response with
        shared := p.shared.modifyRepository (learn response)
        mayRequest := p.mayRequest && !isRejection response.status } := by
  simp [heed, h, applyHeaders, keeping]

/-- Only an answer with features can be lost. -/
theorem isLost_of_not_delivered (h : delivered? response = none) :
    p.isLost response = false := by
  simp [isLost, h]

/-- An answer without features ends the request. -/
theorem receive_of_not_delivered (h : delivered? response = none) :
    p.receive response = (p.heed response).finish := by
  rw [heed_of_not_delivered h]
  unfold receive
  cases hsuccess : isSuccess response.status with
  | true =>
    have hread : environments? response.body = none := by simpa [delivered?, hsuccess] using h
    have hlearn : learn response = fun r => learnFailure (r.logErrors 1) := by
      funext r
      simp [learn, h, hsuccess]
    rw [hlearn, isRejection_of_isSuccess hsuccess, if_pos rfl, hread, Bool.not_false,
      Bool.and_true]
    rfl
  | false =>
    rw [if_neg Bool.false_ne_true]
    cases hrejection : isRejection response.status with
    | true =>
      have hlearn : learn response = Repository.fail := by
        funext r
        simp [learn, h, hsuccess, hrejection]
      rw [hlearn, if_pos rfl, Bool.not_true, Bool.and_false]
      rfl
    | false =>
      have hlearn : learn response = id := by
        funext r
        simp [learn, h, hsuccess, hrejection]
      rw [hlearn, if_neg Bool.false_ne_true, Bool.not_false, Bool.and_true]
      rfl

/-- Features come with a success and a body that can be read. -/
theorem isSuccess_of_delivered {es : List Environment} (h : delivered? response = some es) :
    isSuccess response.status = true ∧ environments? response.body = some es := by
  unfold delivered? at h
  split at h
  · next hsuccess => exact ⟨hsuccess, h⟩
  · exact nomatch h

/-- Taking features is all there is to an answer with features, but for when it expires. -/
theorem ingest_eq_heed {es : List Environment} (h : delivered? response = some es) :
    (if response.status = stopStatus then
      { (p.applyHeaders response).ingest es with isStopped := true }
      else (p.applyHeaders response).ingest es) = { p.heed response with expiry := p.expiry } := by
  have hlearn : learn response = fun r =>
      (r.logErrors (malformedCount es)).updateFeatures (es.flatMap environmentFeatures) false := by
    funext r
    simp [learn, h]
  simp only [heed, hlearn, h, isRejection_of_isSuccess (isSuccess_of_delivered h).1]
  by_cases hstop : response.status = stopStatus <;>
    simp [hstop, ingest, applyHeaders, Shared.modifyRepository, keeping]

/-- An answer with features ends the request if the clock can keep it. -/
theorem receive_of_delivered {es : List Environment} (h : delivered? response = some es) :
    p.receive response =
      if p.canKeep response then (p.heed response).finish else p.heed response := by
  obtain ⟨hsuccess, hread⟩ := isSuccess_of_delivered h
  unfold receive canKeep
  simp only [hsuccess, hread, if_true]
  rw [ingest_eq_heed h]
  -- only the expiry depends on the interval and the clock
  cases hzero : (p.keeping response).isZero with
  | true =>
    have hheed : { p.heed response with expiry := p.expiry } = p.heed response := by
      simp [heed, h, hzero]
    rw [hheed, show (p.heed response).interval = p.keeping response from rfl, hzero]
    rfl
  | false =>
    rw [show ({ p.heed response with expiry := p.expiry } : Polling).interval =
      p.keeping response from rfl, hzero, if_neg Bool.false_ne_true]
    cases hafter : p.shared.now.after? (p.keeping response) with
    | some expiry =>
      have hheed : { p.heed response with expiry := some expiry } = p.heed response := by
        simp [heed, h, hzero, hafter]
      rw [show ({ p.heed response with expiry := p.expiry } : Polling).shared.now =
        p.shared.now from rfl, hafter]
      exact congrArg finish hheed
    | none =>
      have hheed : { p.heed response with expiry := p.expiry } = p.heed response := by
        simp [heed, h, hzero, hafter]
      rw [show ({ p.heed response with expiry := p.expiry } : Polling).shared.now =
        p.shared.now from rfl, hafter]
      exact hheed

end Heed

/-- An answer is taken, and ends the request unless it is lost. -/
theorem receive_eq_heed (p : Polling) (response : Response) :
    p.receive response =
      if p.isLost response then p.heed response else (p.heed response).finish := by
  cases h : delivered? response with
  | none => rw [receive_of_not_delivered h, isLost_of_not_delivered h, if_neg Bool.false_ne_true]
  | some es =>
    rw [receive_of_delivered h, isLost, h]
    cases p.canKeep response <;> rfl

/-- A request that came to nothing is over. -/
theorem fail_eq_learnFailure (p : Polling) :
    p.fail = { p with shared := p.shared.modifyRepository learnFailure }.finish := rfl

/-! ### Looking after callers -/

/-- What an edge holds besides its callers and requests. -/
structure Holdings where
  /-- The features. -/
  repository : Repository
  /-- The present. -/
  now : Instant
  /-- Whether somebody else decides when to ask. -/
  isDelegated : Bool
  /-- Whether requests are allowed. -/
  mayRequest : Bool
  /-- Whether the server asked to stop. -/
  isStopped : Bool
  /-- The tag of the features that were answered last. -/
  etag : Option String
  /-- How long an answer is kept. -/
  interval : Duration
  /-- When the last answer expires. -/
  expiry : Option Instant

/-- What an edge holds besides its callers and requests. -/
def holdings (p : Polling) : Holdings :=
  ⟨p.shared.repository, p.shared.now, p.isDelegated, p.mayRequest, p.isStopped, p.etag,
    p.interval, p.expiry⟩

/-- Checking a caller has no effect on what the edge holds. -/
@[simp] theorem holdings_check (p : Polling) (t : Ticket) (r : Option Readiness) :
    (p.check t r).holdings = p.holdings := by
  unfold check
  simp only
  split <;> split <;> rfl

/-- Checking callers has no effect on what the edge holds. -/
theorem holdings_foldl_check (ts : List Ticket) (r : Option Readiness) (p : Polling) :
    (ts.foldl (fun p t => p.check t r) p).holdings = p.holdings := by
  induction ts generalizing p with
  | nil => rfl
  | cons t ts ih => rw [List.foldl_cons, ih, holdings_check]

/-- The end of a request has no effect on what the edge holds. -/
@[simp] theorem holdings_finish (p : Polling) : p.finish.holdings = p.holdings := by
  unfold finish
  rw [holdings_foldl_check]
  rfl

/-- Whoever polls has no effect on what the edge holds. -/
@[simp] theorem holdings_poll (p : Polling) : p.poll.1.holdings = p.holdings :=
  holdings_check ..

/-- A change of the context has no effect on what the edge holds. -/
@[simp] theorem holdings_changeContext (p : Polling) (header : Option String) (sha : String) :
    (p.changeContext header sha).1.holdings = p.holdings :=
  holdings_poll (p.setContext header sha)

/-- Lost or not, an answer is taken. -/
theorem holdings_receive (p : Polling) (response : Response) :
    (p.receive response).holdings = (p.heed response).holdings := by
  rw [receive_eq_heed]
  split
  · rfl
  · exact holdings_finish _

end FeatureFlags.Edge.Polling
