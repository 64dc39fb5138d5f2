import FeatureFlags.Edge.Basic
import FeatureFlags.Edge.CacheControl
import FeatureFlags.Feature.Wire

/-!
# Polling edges

An edge that asks a server for all features at once. At most one request is in flight; callers
that come while it is wait for its answer, or for the request after it if the context has changed
meanwhile. An answer is kept for some time, during which nothing is asked. Some answers end all
asking.
-/

set_option autoImplicit false

namespace FeatureFlags.Edge

/-- A request for all features. -/
structure Request where
  /-- The address. -/
  url : String
  /-- The header of the context. -/
  header : Option String
  /-- The tag of the features that are known already. -/
  etag : Option String
deriving DecidableEq, Repr

/-- An answer to a request. -/
structure Response where
  /-- The status. -/
  status : Nat
  /-- How long the answer may be kept. -/
  cacheControl : Option String
  /-- The tag of the features. -/
  etag : Option String
  /-- The features of all environments, as JSON. -/
  body : List UInt8
deriving DecidableEq, Repr

/-- An edge that asks a server for all features at once. -/
structure Polling where
  /-- What is shared with the client. -/
  shared : Shared
  /-- The address without the digest of the context. -/
  url : String
  /-- Whether somebody else decides when to ask, so that nothing is kept. -/
  isDelegated : Bool
  /-- Whether requests are allowed. -/
  mayRequest : Bool
  /-- Whether the server asked to stop. -/
  isStopped : Bool
  /-- The header of the context. -/
  header : Option String
  /-- The digest of the header. -/
  contextSha : String
  /-- The tag of the features that were answered last. -/
  etag : Option String
  /-- How long an answer is kept. -/
  interval : Duration
  /-- When the last answer expires; without one, it has expired. -/
  expiry : Option Instant
  /-- Whether the context has changed since the last request. -/
  headerChanged : Bool
  /-- Whether a request is under way. -/
  isBusy : Bool
  /-- Those who wait for the answer to the request. -/
  waiting : List Ticket
  /-- Those who wait for the request after it. -/
  followUp : List Ticket
  /-- The requests that are under way. -/
  inFlight : List Request
  /-- All requests that were made, in order. -/
  sent : List Request

namespace Polling

/-- The digest that stands for no header. -/
def noContextSha : String := "0"

/-- The address at which a server has the features for some keys. -/
def featuresUrl (edgeUrl : String) (apiKeys : List String) : String :=
  edgeUrl ++ "/features?" ++ "&".intercalate (apiKeys.map fun key => "apiKey=" ++ key)

/-- An edge before its first request. -/
def new (shared : Shared) (edgeUrl : String) (apiKeys : List String) (interval : Duration)
    (isDelegated : Bool) : Polling where
  shared := shared
  url := featuresUrl edgeUrl apiKeys
  isDelegated := isDelegated
  mayRequest := true
  isStopped := false
  header := none
  contextSha := noContextSha
  etag := none
  interval := interval
  expiry := none
  headerChanged := false
  isBusy := false
  waiting := []
  followUp := []
  inFlight := []
  sent := []

/-- Whether requests are made at all. -/
def canRequest (p : Polling) : Bool := p.mayRequest && !p.isStopped

/-- Whether the last answer is not kept any more. -/
def hasExpired (p : Polling) : Bool :=
  p.expiry.all fun expiry => expiry.hasCome p.shared.now

/-- The request that would be made now. -/
def request (p : Polling) : Request :=
  ⟨p.url ++ "&contextSha=" ++ p.contextSha, p.header, p.etag⟩

/-- Answers callers with the present readiness. -/
def answer (p : Polling) (ts : List Ticket) : Polling := { p with shared := p.shared.answerAll ts }

/-- Makes a request if one is due, and lets a caller wait. If there is nothing to wait for, the
caller is answered with `r`, or with the readiness there is. -/
def check (p : Polling) (t : Ticket) (r : Option Readiness) : Polling :=
  if p.isBusy then
    if p.headerChanged then { p with followUp := p.followUp ++ [t] }
    else { p with waiting := p.waiting ++ [t] }
  else
    let isDue := p.isDelegated || p.interval.isZero || p.hasExpired || p.headerChanged
    let p := { p with headerChanged := false }
    if isDue && p.canRequest then
      { p with
        isBusy := true
        waiting := p.waiting ++ [t]
        inFlight := p.inFlight ++ [p.request]
        sent := p.sent ++ [p.request] }
    else
      { p with
        shared := { p.shared with
          futures := p.shared.futures.answer t (r.getD p.shared.readiness) } }

/-- Makes sure that the server is being asked, or that what is known is recent enough. -/
def poll (p : Polling) : Polling × Ticket :=
  let (shared, t) := p.shared.promise
  ({ p with shared := shared }.check t (some p.shared.readiness), t)

/-- Takes another header for the context. -/
def setContext (p : Polling) (header : Option String) (sha : String) : Polling :=
  { p with
    headerChanged := header.isSome && header != p.header
    header := header
    contextSha := sha }

/-- Takes another header for the context, and asks the server if one is due. -/
def changeContext (p : Polling) (header : Option String) (sha : String) : Polling × Ticket :=
  (p.setContext header sha).poll

/-! ### Answers -/

/-- Ends the request that was answered: those who waited for it are answered, then the others
are looked after. -/
def finish (p : Polling) : Polling :=
  let followUp := p.followUp
  let p := { p with isBusy := false, waiting := [], followUp := [] }.answer p.waiting
  followUp.foldl (fun p t => p.check t none) p

/-- The request under way came to nothing. -/
def fail (p : Polling) : Polling :=
  let repository := p.shared.repository.logErrors 1
  let repository := if repository.readiness = .ready then repository else repository.fail
  { p with shared := { p.shared with repository := repository } }.finish

/-- The status with which a server asks to stop after this answer. -/
def stopStatus : Nat := 236

/-- Whether a status means that the server answered with features. -/
def isSuccess (status : Nat) : Bool := 200 ≤ status && status < 300

/-- Whether a status means that the server will not answer this client. -/
def isRejection (status : Nat) : Bool := [400, 401, 403, 404].contains status

/-- The environments in the body of an answer, if it can be read. -/
def environments? (body : List UInt8) : Option (List Environment) := do
  let document ← Json.Document.ofOctets? body
  Environment.decodeList .text document

/-- The features of an environment that could be read, with the environment they belong to. -/
def environmentFeatures (e : Environment) : List FeatureState :=
  (Lenient.parsedOnly e.features).map fun s => { s with environmentId := some e.id }

/-- How many features of some environments could not be read. -/
def malformedCount (es : List Environment) : Nat :=
  Lenient.countMalformed (es.flatMap Environment.features)

/-- Takes what the headers of an answer say, whatever its status. -/
def applyHeaders (p : Polling) (response : Response) : Polling :=
  { p with
    interval := (response.cacheControl.bind maxAge?).getD p.interval
    etag := response.etag.or p.etag }

/-- Puts the features of some environments into the repository. -/
def ingest (p : Polling) (es : List Environment) : Polling :=
  let repository := p.shared.repository.logErrors (malformedCount es)
  { p with shared := { p.shared with
      repository := repository.updateFeatures (es.flatMap environmentFeatures) false } }

/-- Takes the answer to the request under way. An answer that the clock cannot keep for as long
as it should leaves the request unfinished. -/
def receive (p : Polling) (response : Response) : Polling :=
  let p := p.applyHeaders response
  if isSuccess response.status then
    match environments? response.body with
    | none => { p with shared := p.shared.modifyRepository fun r => r.logErrors 1 }.fail
    | some es =>
      let p := p.ingest es
      let p := if response.status = stopStatus then { p with isStopped := true } else p
      if p.interval.isZero then p.finish
      else
        match p.shared.now.after? p.interval with
        | some expiry => { p with expiry := some expiry }.finish
        | none => p
  else if isRejection response.status then
    { p with mayRequest := false, shared := p.shared.modifyRepository Repository.fail }.finish
  else p.finish

/-- The oldest request under way is answered. -/
def respond (p : Polling) (response : Response) : Polling :=
  match p.inFlight with
  | [] => p
  | _ :: rest => { p with inFlight := rest }.receive response

/-- The oldest request under way comes to nothing. -/
def breakOff (p : Polling) : Polling :=
  match p.inFlight with
  | [] => p
  | _ :: rest => { p with inFlight := rest }.fail

/-- Ends all requests. -/
def close (p : Polling) : Polling := { p with mayRequest := false, inFlight := [] }.finish

end Polling

instance : Edge Polling where
  shared p := p.shared
  modifyShared p f := { p with shared := f p.shared }
  poll := Polling.poll
  changeContext := Polling.changeContext
  featureUsed p := p.poll.1
  interval p := (p, p.interval)
  isStopped p := p.isStopped
  isReplacedOnChange _ := false
  close := Polling.close

end FeatureFlags.Edge
