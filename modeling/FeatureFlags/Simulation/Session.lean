import FeatureFlags.Context.Basic
import FeatureFlags.Simulation.Command
import FeatureFlags.Simulation.World

/-!
# Sessions

A session takes commands one by one. After each command its world is settled, and what the
command did is observed: the answer, the readiness, the calls of listeners and the errors in the
log. A command that cannot be followed changes nothing, and the session goes on.
-/

set_option autoImplicit false

namespace FeatureFlags.Simulation

open Edge (Governed Polling Streaming)

/-- The edge that a session is about. -/
inductive Setup where
  /-- No edge. -/
  | alone
  /-- A scripted edge, perhaps asked by the clock. -/
  | scripted (answers : List ScriptedAnswer) (intervals : List Duration) (isStopped : Bool)
    (isGoverned : Bool)
  /-- An edge that makes requests, perhaps by the clock. -/
  | polling (path : String) (apiKeys : List String) (interval : Duration) (isDelegated : Bool)
    (isGoverned : Bool)
  /-- A stream. -/
  | streaming (path : String)
  /-- A client with an edge of its own. -/
  | client (path : String) (apiKeys : List String) (chosenType : Option Client.EdgeType)
    (interceptors : List Interceptor)

/-- Whether the edge talks to a server. -/
def Setup.usesServer : Setup → Bool
  | .alone | .scripted .. => false
  | .polling .. | .streaming .. | .client .. => true

/-- What a session begins with. -/
structure Opening where
  /-- The edge. -/
  setup : Setup
  /-- Whether the server evaluates features, unless a client knows. -/
  isServerEvaluated : Bool
  /-- Timeouts and delays. -/
  settings : RetrySettings
  /-- How the client identifies itself. -/
  variants : Variants
  /-- The address of the server, without a path. -/
  serverUrl : String
  /-- The replies of the server; without them nothing listens. -/
  script : Option (List Reply)
  /-- Whether there is a network on which the server can listen. -/
  hasNetwork : Bool
  /-- The moment for conditions that ask for it. -/
  moment : Rollout.Moment

/-- A session. -/
structure Session where
  /-- The client and everything it waits for. -/
  world : World
  /-- Whether contexts are evaluated by the server. -/
  isServerEvaluated : Bool
  /-- Whether the edge belongs to a client. -/
  isClient : Bool
  /-- Whether the client was closed. -/
  isClientClosed : Bool
  /-- The moment for conditions that ask for it. -/
  moment : Rollout.Moment
  /-- The environment variables. -/
  vars : Variables
  /-- The named futures. -/
  futures : Table String Ticket
  /-- The named entries. -/
  entries : Table String EntryId
  /-- The named listeners. -/
  listeners : Table String (Audience × ListenerId)
  /-- The contexts. -/
  contexts : Table String Context

namespace Session

/-- A session with an edge. -/
def new (o : Opening) (link : Link) (isServerEvaluated isClient asksStream : Bool) : Session where
  world := .new link asksStream o.settings o.variants o.script
  isServerEvaluated := isServerEvaluated
  isClient := isClient
  isClientClosed := false
  moment := o.moment
  vars := .empty
  futures := .empty
  entries := .empty
  listeners := .empty
  contexts := .empty

/-- Begins a session. -/
def begin (o : Opening) : Except Fault Session :=
  if o.setup.usesServer && o.script.isSome && !o.hasNetwork then .error .noNetwork
  else
    match o.setup with
    | .alone => .ok (new o (.none .new) o.isServerEvaluated false false)
    | .scripted answers intervals isStopped isGoverned =>
      let e := Scripted.new .new answers intervals isStopped
      let link := if isGoverned then .governedScripted (.new e) else .scripted e
      .ok (new o link o.isServerEvaluated false false)
    | .polling path apiKeys interval isDelegated isGoverned =>
      let e := Polling.new .new (o.serverUrl ++ path) apiKeys interval isDelegated
      let link := if isGoverned then .governedPolling (.new e) else .polling e
      .ok (new o link o.isServerEvaluated false false)
    | .streaming path =>
      let e := Streaming.new .new (o.serverUrl ++ path) o.isServerEvaluated o.settings
      .ok (new o (.streaming e) o.isServerEvaluated false true)
    | .client path apiKeys chosenType interceptors =>
      let config : Client.Config :=
        { Client.Config.new (o.serverUrl ++ path) apiKeys o.settings with chosenType, interceptors }
      match config.check with
      | .error cause => .error (.badConfig cause)
      | .ok () => .ok (new o (.ofConfig config) config.isServerEvaluated true false)

/-! ### Parts of a session -/

/-- The features. -/
def repository (s : Session) : Repository := s.world.repository

/-- Changes the features. -/
def modifyRepository (s : Session) (f : Repository → Repository) : Session :=
  { s with world := s.world.modifyRepository f }

/-- Changes the edge. -/
def modifyLink (s : Session) (f : Link → Link) : Session :=
  { s with world := { s.world with link := f s.world.link } }

/-- Looks up a key, and gives the number of its entry. -/
def getFeature (s : Session) (key : String) : Session × EntryId :=
  let (repository, e) := s.repository.getFeature key
  (s.modifyRepository fun _ => repository, e)

/-- The context with a name, which may be new. -/
def context (s : Session) (name : String) : Context :=
  (s.contexts.get? name).getD (.new s.isServerEvaluated)

/-- Keeps a context. -/
def keepContext (s : Session) (name : String) (c : Context) : Session :=
  { s with contexts := s.contexts.insert name c }

/-- Looks up a feature in a context. -/
def readFeature (s : Session) (c : Context) (key : String) : Session × FeatureReading :=
  let (link, reading) := c.feature s.world.link s.vars s.moment key
  (s.modifyLink fun _ => link, reading)

/-- All entries in use, by key. -/
def listing (s : Session) : List Listed :=
  let r := s.repository
  r.byKey.bindings.map fun b =>
    let entry := r.entry b.2
    ⟨entry, (entry.featureId.bind r.featureById?).map fun e => (r.entry e).key⟩

/-- The requests that the edge made, as far as somebody saw them. -/
def requests (s : Session) : Answer :=
  match s.world.link.scripted?, s.world.server.script with
  | some e, _ => .calls e.calls e.used
  | none, some _ => .requests s.world.server.received
  | none, none => .nothing

/-- What can be seen of the retryer. Multipliers that have grown beyond the least one depend on
chance. -/
def retryerReport (s : Session) : RetryerReport :=
  let r := s.world.judge
  { isStopped := r.isStopped
    isNotFound := r.isNotFound
    multiplier :=
      if r.multiplier = r.settings.multiplier || r.multiplier ≤ 3 then some r.multiplier else none
    reconnects := s.world.reconnects }

/-! ### Commands -/

/-- An answer that is there, or that is to be read off when the world is settled. -/
inductive Due where
  /-- The answer is there. -/
  | now (a : Answer)
  /-- The answer to a future. -/
  | future (t : Ticket)
  /-- The answers to futures. -/
  | futures (ts : List Ticket)
  /-- What can be seen of the retryer. -/
  | retryer

/-- Reads off an answer. -/
def read (s : Session) : Due → Answer
  | .now a => a
  | .future t => (s.world.result? t).elim .pending .readiness
  | .futures ts => .readinesses (ts.map s.world.result?)
  | .retryer => .retryer s.retryerReport

/-- The audience of a topic. -/
def audience (s : Session) : Topic → Session × Audience
  | .readiness => (s, .readiness)
  | .updates => (s, .updates)
  | .batches => (s, .batches)
  | .entry key =>
    let (s, e) := s.getFeature key
    (s, .entry e)

/-- Registers a listener under a name. -/
def listen (s : Session) (topic : Topic) (name : String) (fails : Bool) : Session :=
  let (s, a) := s.audience topic
  let id := (s.repository.listeners a).nextId
  let s := s.modifyRepository fun r => r.listen a ⟨name, fails⟩
  { s with listeners := s.listeners.insert name (a, id) }

/-- Cancels a named listener, and tells whether there was one. -/
def cancel (s : Session) (name : String) : Session × Bool :=
  match s.listeners.get? name with
  | some (a, id) =>
    ({ s.modifyRepository fun r => r.cancel a id with listeners := s.listeners.erase name }, true)
  | none => (s, false)

/-- Names a future, or leaves it to the end of the step. -/
def keepFuture (s : Session) (keepAs : Option String) (t : Ticket) : Session × Due :=
  match keepAs with
  | some name => ({ s with futures := s.futures.insert name t }, .now .pending)
  | none => (s, .future t)

/-- Follows a command about the features. -/
def followRepository (s : Session) : Command → Option (Session × Due)
  | .updateFeatures states force =>
    some (s.modifyRepository fun r => r.updateFeatures states force, .now .nothing)
  | .updateFeature state force =>
    let (repository, accepted) := s.repository.updateFeature state force
    some (s.modifyRepository fun _ => repository, .now (.truth accepted))
  | .deleteFeature state =>
    some (s.modifyRepository fun r => r.deleteFeature state, .now .nothing)
  | .applyEvent event data =>
    match Edge.EventKind.ofName? event with
    | none => some (s, .now (.refused .unknownEvent))
    | some kind =>
      match Edge.applyEvent? kind data s.repository with
      | none => some (s, .now (.refused .undecodable))
      | some repository => some (s.modifyRepository fun _ => repository, .now .done)
  | .notify kind => some (s.modifyRepository (Edge.notify kind), .now .nothing)
  | .markNotReady => some (s.modifyRepository Repository.notReady, .now .nothing)
  | .markEmpty => some (s.modifyRepository Repository.markEmpty, .now .nothing)
  | .closeRepository => some (s.modifyRepository Repository.close, .now .nothing)
  | .isClosed => some (s, .now (.truth s.repository.isClosed))
  | .getFeature key keepAs =>
    let (s, e) := s.getFeature key
    let entries := keepAs.elim s.entries fun name => s.entries.insert name e
    some ({ s with entries := entries }, .now (.entry (s.repository.entry e)))
  | .showEntry name =>
    match s.entries.get? name with
    | none => some (s, .now (.refused .notUnderstood))
    | some e =>
      let entry := s.repository.entry e
      let (s, current) := s.getFeature entry.key
      some (s, .now (.namedEntry entry (current == e)))
  | .getById id =>
    match Uuid.ofText? id with
    | none => some (s, .now (.refused .noIdentity))
    | some id =>
      let answer :=
        match s.repository.featureById? id with
        | some e => .entry (s.repository.entry e)
        | none => .nothing
      some (s, .now answer)
  | .keys => some (s, .now (.texts s.repository.keys))
  | .dump => some (s, .now (.listing s.listing))
  | .listen topic name fails => some (s.listen topic name fails, .now .nothing)
  | .cancel name =>
    let (s, found) := s.cancel name
    some (s, .now (.truth found))
  | .intercept i => some (s.modifyRepository fun r => r.intercept i, .now .nothing)
  | .setVariable name value =>
    let vars := value.elim (s.vars.erase name) fun v => s.vars.insert name v
    some ({ s with vars := vars }, .now .nothing)
  | .findOverride locked key =>
    let v := Interceptor.find? s.repository.interceptors s.vars locked key
    some (s, .now (v.elim .nothing .value))
  | .resolve key expected context =>
    let (s, e) := s.getFeature key
    let r := s.repository
    some (s, .now (.resolved (r.resolve s.vars s.moment (r.entry e) expected context)))
  | _ => none

/-- Follows a command about the retryer or the clock. -/
def followRetryer (s : Session) : Command → Option (Session × Due)
  | .reportOutcome outcome =>
    let now := s.world.now
    let world := s.world.modifyJudge fun r => r.report now World.chances outcome .counter
    some ({ s with world := world }, .retryer)
  | .configure data =>
    some ({ s with world := s.world.modifyJudge fun r => r.configure data }, .retryer)
  | .showRetryer => some (s, .retryer)
  | .closeRetryer =>
    some ({ s with world := s.world.modifyJudge fun r => r.close }, .retryer)
  | .delay base multiplier =>
    let d := Edge.delay s.world.judge.settings World.chances.1 base multiplier
    some (s, .now (.duration d))
  | .sleep d => some ({ s with world := s.world.sleep d }, .now .nothing)
  | .requests => some (s, .now s.requests)
  | .settle => some (s, .now .nothing)
  | _ => none

/-- Lets go of what is held back. -/
def releaseHeld (s : Session) (answer : Option Readiness) : Session :=
  if s.world.link.scripted?.isSome then
    s.modifyLink fun l => l.modifyScripted fun e => e.release answer
  else { s with world := s.world.releaseReply }

/-- Closes the edge, and with a client its repository too. A client is closed only once. -/
def close (s : Session) : Session :=
  if s.isClientClosed then s
  else
    let s := s.modifyLink Edge.close
    if s.isClient then { s.modifyRepository Repository.close with isClientClosed := true } else s

/-- Waits for some time as long as the client is not ready. -/
def waitForReadiness (s : Session) (d : Option Duration) : Session :=
  let world := s.world.settle
  let isOpen := world.repository.readiness == .notReady
  match d with
  | some d => { s with world := if isOpen then world.sleep d else world }
  | none => { s with world := world }

/-- Follows a command about the edge. -/
def followEdge (s : Session) : Command → Option (Session × Due)
  | .poll keepAs =>
    let (link, t) := Edge.poll s.world.link
    some ((s.modifyLink fun _ => link).keepFuture keepAs t)
  | .changeContext header sha keepAs =>
    let (link, t) := Edge.changeContext s.world.link header sha
    some ((s.modifyLink fun _ => link).keepFuture keepAs t)
  | .await name =>
    match s.futures.get? name with
    | some t => some ({ s with futures := s.futures.erase name }, .future t)
    | none => some (s, .now (.refused .notUnderstood))
  | .peek name =>
    match s.futures.get? name with
    | some t => some (s, .now ((s.world.result? t).elim .nothing .readiness))
    | none => some (s, .now (.refused .notUnderstood))
  | .release answer names =>
    let tickets := names.filterMap s.futures.get?
    if tickets.length = names.length then
      let s := s.releaseHeld answer
      some ({ s with futures := names.foldl Table.erase s.futures }, .futures tickets)
    else some (s, .now (.refused .notUnderstood))
  | .showEdge =>
    let (link, interval) := Edge.interval s.world.link
    let answer := .edge (Edge.isStopped link) interval (Edge.isReplacedOnChange link)
    some (s.modifyLink fun _ => link, .now answer)
  | .setStopped b =>
    if s.world.link.scripted?.isSome then
      some (s.modifyLink fun l => l.modifyScripted fun e => { e with isStopped := b },
        .now .nothing)
    else some (s, .now (.refused .notUnderstood))
  | .useFeature => some (s.modifyLink Edge.featureUsed, .now .nothing)
  | .close => some (s.close, .now .nothing)
  | .waitForReadiness d =>
    if s.isClient then
      let s := s.waitForReadiness d
      some (s, .now (.readiness s.repository.readiness))
    else some (s, .now (.refused .notUnderstood))
  | _ => none

/-- Follows a command about a context. -/
def followContext (s : Session) : Command → Option (Session × Due)
  | .build name keepAs =>
    let (c, link, t) := (s.context name).build s.world.link
    some (((s.modifyLink fun _ => link).keepContext name c).keepFuture keepAs t)
  | .changeAttributes name change =>
    let c := (s.context name).modify change
    some (s.keepContext name c, .now (.attributes c.attributes))
  | .getAttribute context name =>
    some (s, .now (((s.context context).attributes.get name).elim .nothing .text))
  | .contextReadiness _ => some (s, .now (.readiness s.repository.readiness))
  | .read name key =>
    let (s, reading) := s.readFeature (s.context name) key
    some (s, .now (.reading reading))
  | .check name key =>
    let c := s.context name
    let (s, first) := s.readFeature c key
    let (s, second) := s.readFeature c key
    let (s, third) := s.readFeature c key
    some (s, .now (.checks first.isEnabled second.isSet third.entry.doesExist))
  | _ => none

/-- Follows a command. Without an edge, there is nothing that commands about the edge or a context
could be about. -/
def follow (s : Session) (c : Command) : Session × Due :=
  let followers :=
    if s.world.link.isEdge then [followRepository, followRetryer, followEdge, followContext]
    else [followRepository, followRetryer]
  (followers.findSome? fun f => f s c).getD (s, .now (.refused .notUnderstood))

/-- Takes a command, or the reason why there is none, and observes what it does. -/
def step (s : Session) (c : Except Fault Command) : Session × Observation :=
  let before := s.repository.journal
  let (s, due) :=
    match c with
    | .ok c => s.follow c
    | .error fault => (s, .now (.refused fault))
  let s := { s with world := s.world.settle }
  let after := s.repository.journal
  let calls := after.calls.drop before.calls.length
  (s,
    { answer := s.read due
      readiness := s.repository.readiness
      events := (calls.map Call.text).mergeSort
      errors := after.errors - before.errors })

/-- Takes commands one after the other. -/
def run (s : Session) : List (Except Fault Command) → Session × List Observation
  | [] => (s, [])
  | c :: rest =>
    let (s, o) := s.step c
    let (s, os) := s.run rest
    (s, o :: os)

end Session

end FeatureFlags.Simulation
