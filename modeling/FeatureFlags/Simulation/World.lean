import FeatureFlags.Simulation.Link
import FeatureFlags.Simulation.Server

/-!
# Worlds

A client together with everything it waits for: a server with a script, the replies that are on
their way or held back, and a clock that moves only when there is nothing left to do. A world is
settled by doing what can be done, one thing after the other, and by moving the clock to the next
timer as long as that one is not far away. Lengthening of delays is not left to chance: every
chance is one half.
-/

set_option autoImplicit false

namespace FeatureFlags.Simulation

open Edge (Governed Outcome Polling Reconnector Retryer Streaming)

/-- How clients identify themselves to servers. -/
structure Variants where
  /-- The variant that makes requests. -/
  polling : String
  /-- The variant with a stream. -/
  streaming : String
deriving DecidableEq, Repr, Inhabited

/-- A client and everything it waits for. -/
structure World where
  /-- The edge of the client. -/
  link : Link
  /-- A retryer beside the edge, for those who only count. -/
  retryer : Retryer Reconnector
  /-- Whether outcomes are reported to the retryer of the stream instead. -/
  asksStream : Bool
  /-- How often reconnecting was asked for. -/
  reconnects : Nat
  /-- How the client identifies itself. -/
  variants : Variants
  /-- The server. -/
  server : Server
  /-- How many requests of the client were looked at. -/
  seen : Nat
  /-- The replies that are not complete, in the order of the requests. -/
  exchanges : List Exchange

namespace World

/-- A world before anything happened. -/
def new (link : Link) (asksStream : Bool) (settings : RetrySettings) (variants : Variants)
    (script : Option (List Reply)) : World where
  link := link
  retryer := .new settings
  asksStream := asksStream
  reconnects := 0
  variants := variants
  server := ⟨script, []⟩
  seen := 0
  exchanges := []

instance : Inhabited World := ⟨new default false default default none⟩

/-- What the edge shares with its client. -/
def shared (w : World) : Shared := Edge.shared w.link

/-- The features. -/
def repository (w : World) : Repository := Edge.repository w.link

/-- The present. -/
def now (w : World) : Instant := w.shared.now

/-- The answer to a future, if there is one. -/
def result? (w : World) (t : Ticket) : Option Readiness := Edge.result? w.link t

/-- Changes the features. -/
def modifyRepository (w : World) (f : Repository → Repository) : World :=
  { w with link := Edge.modifyRepository w.link f }

/-- Moves the clock to an instant, but never back. -/
def advanceTo (w : World) (t : Instant) : World :=
  { w with link := Edge.modifyShared w.link fun s => { s with now := s.now.later t } }

/-- The retryer to which outcomes are reported. -/
def judge (w : World) : Retryer Reconnector :=
  match w.asksStream, w.link.streaming? with
  | true, some s => s.retryer
  | _, _ => w.retryer

/-- Changes the retryer of the stream. -/
def modifyStreamRetryer (w : World) (f : Retryer Reconnector → Retryer Reconnector) : World :=
  { w with link := w.link.modifyStreaming fun s => { s with retryer := f s.retryer } }

/-- Changes the retryer to which outcomes are reported. -/
def modifyJudge (w : World) (f : Retryer Reconnector → Retryer Reconnector) : World :=
  if w.asksStream then w.modifyStreamRetryer f else { w with retryer := f w.retryer }

/-- The chances by which delays are lengthened. -/
def chances : Edge.Chance × Edge.Chance := (.half, .half)

/-! ### Requests -/

/-- The exchange that begins with a reply. -/
def exchange (w : World) (reply : Reply) (timeout : Option Duration) : Exchange where
  number := w.seen
  reply := reply
  stage := if reply.isHeld then .held else .underWay
  deadline := timeout.map w.now.after

/-- Sends the next request for all features. -/
def sendPoll (w : World) (request : Edge.Request) : World :=
  match w.server.attempt request.url "*/*" w.variants.polling request.header request.etag with
  | .unsendable | .refused => { w with link := w.link.modifyPolling Polling.breakOff }
  | .received reply server =>
    { w with
      server := server
      exchanges := w.exchanges ++ [w.exchange reply w.retryer.settings.answerTimeout] }

/-- Ends a connection. -/
def endConnection (w : World) (generation : Nat) (outcome : Outcome) : World :=
  { w with link := w.link.modifyStreaming fun s => s.endConnection generation outcome chances }

/-- Opens the next connection. -/
def openConnection (w : World) (url : String) (connection : Edge.Connection) : World :=
  match w.server.attempt url "text/event-stream" w.variants.streaming connection.header none with
  | .unsendable => w.endConnection connection.generation .serverWasDisconnected
  | .refused => w.endConnection connection.generation .connectionFailure
  | .received reply server =>
    { w with server := server, exchanges := w.exchanges ++ [w.exchange reply none] }

/-- Takes note that a request was looked at. -/
def countSeen (w : World) : World := { w with seen := w.seen + 1 }

/-- Looks at the next request of the client, if there is one. -/
def send? (w : World) : Option World :=
  match w.link.polling?, w.link.streaming? with
  | some p, _ => p.sent[w.seen]?.map fun request => (w.sendPoll request).countSeen
  | none, some s => s.opened[w.seen]?.map fun c => (w.openConnection s.url c).countSeen
  | none, none => none

/-! ### Replies -/

/-- Whether the client still waits for a reply to its latest request. -/
def awaitsReply (p : Polling) (x : Exchange) : Bool :=
  !p.inFlight.isEmpty && p.sent.length == x.number + 1

/-- The reply to a request for all features arrives, or does not. -/
def deliverPoll (w : World) (p : Polling) (x : Exchange) : World :=
  if awaitsReply p x then
    { w with link := w.link.modifyPolling fun p =>
        if x.reply.isBroken then p.breakOff else p.respond x.reply.response }
  else w

/-- The contents of a stream arrive: the stream after them, and the reader. -/
def deliverPieces (s : Streaming) (generation : Nat) (pieces : List (List UInt8)) :
    Streaming × Edge.EventStream.Reader :=
  pieces.foldl (fun (s, reader) piece =>
    let (reader, messages) := reader.feed piece
    (messages.foldl (fun s m => s.receive generation m.kind m.data chances) s, reader))
    (s, .empty)

/-- How a reply ends a connection, if it does: the stream after the reply, and the outcome. -/
def deliverContents (s : Streaming) (generation : Nat) (reply : Reply) :
    Streaming × Option Outcome :=
  if reply.isDropped then (s, some .serverWasDisconnected)
  else if Polling.isRejection reply.status then (s, some .apiKeyNotFound)
  else if !Polling.isSuccess reply.status then (s, some .serverWasDisconnected)
  else
    let (s, reader) := deliverPieces s generation reply.pieces
    match s.connection? generation with
    | none => (s, none)
    | some c =>
      if reply.staysOpen then (s, none)
      else if reply.isBroken || !reader.mayEnd then (s, some .serverWasDisconnected)
      else (s, some (Streaming.closedOutcome c))

/-- The number of the connection of an exchange. -/
def generationOf (x : Exchange) : Nat := x.number + 1

/-- Puts an exchange back into its place. -/
def keep (w : World) (x : Exchange) : World :=
  let isEarlier (y : Exchange) : Bool := y.number < x.number
  { w with exchanges := w.exchanges.takeWhile isEarlier ++ x :: w.exchanges.dropWhile isEarlier }

/-- The reply on a connection arrives. A stream that stays open is kept. -/
def deliverStream (w : World) (s : Streaming) (x : Exchange) : World :=
  let generation := generationOf x
  if (s.connection? generation).isNone then w
  else
    let (s, outcome) := deliverContents s generation x.reply
    let w := { w with link := .streaming s }
    match outcome with
    | some outcome => w.endConnection generation outcome
    | none =>
      if (s.connection? generation).isNone then w
      else
        w.keep
          { x with
            stage := .open
            deadline := w.now.after w.retryer.settings.streamReadTimeout }

/-- The reply of an exchange arrives at the client. -/
def deliver (w : World) (x : Exchange) : World :=
  match w.link.polling?, w.link.streaming? with
  | some p, _ => w.deliverPoll p x
  | none, some s => w.deliverStream s x
  | none, none => w

/-- Removes the first exchange with a property, and gives it. -/
def takeExchange? (w : World) (p : Exchange → Bool) : Option (Exchange × World) :=
  (w.exchanges.find? p).map fun x => (x, { w with exchanges := w.exchanges.eraseP p })

/-- Delivers the first reply that is on its way. -/
def deliver? (w : World) : Option World :=
  (w.takeExchange? fun x => x.stage = .underWay).map fun (x, w) => w.deliver x

/-- Lets the oldest reply go that is held back. -/
def releaseReply (w : World) : World :=
  match w.takeExchange? fun x => x.stage = .held with
  | some (x, w) => w.keep { x with stage := .underWay }
  | none => w

/-! ### Timers -/

/-- The client gives up waiting for a reply. One that is held back stays where it is. -/
def giveUp (w : World) (x : Exchange) : World :=
  match w.link.polling?, w.link.streaming? with
  | some p, _ =>
    let w := w.keep { x with deadline := none }
    if awaitsReply p x then { w with link := w.link.modifyPolling Polling.breakOff } else w
  | none, _ => w.endConnection (generationOf x) .serverReadTimeout

/-- Somebody is told to reconnect. -/
def reconnect (w : World) : Reconnector → World
  | .edge => { w with link := w.link.modifyStreaming fun s => s.connect.1 }
  | .counter => { w with reconnects := w.reconnects + 1 }

/-- The timer of a governor fires, if one is due. -/
def fireGovernor? (w : World) : Option World :=
  match w.link with
  | .governedScripted g =>
    (g.dueTimer? w.now).map fun id => { w with link := .governedScripted (g.fire id) }
  | .governedPolling g =>
    (g.dueTimer? w.now).map fun id => { w with link := .governedPolling (g.fire id) }
  | _ => none

/-- A wait of the retryer beside the edge ends, if one is due. -/
def fireRetryer? (w : World) : Option World :=
  (w.retryer.takeDue? w.now).map fun (reconnector, retryer) =>
    { w with retryer := retryer }.reconnect reconnector

/-- A wait of the retryer of the stream ends, if one is due. -/
def fireStream? (w : World) : Option World := do
  let s ← w.link.streaming?
  let (reconnector, retryer) ← s.retryer.takeDue? w.now
  (w.modifyStreamRetryer fun _ => retryer).reconnect reconnector

/-- The client gives up waiting for a reply, if it is time to. -/
def fireDeadline? (w : World) : Option World :=
  (w.takeExchange? fun x => x.deadline.any fun due => due.hasCome w.now).map fun (x, w) =>
    w.giveUp x

/-- When the timers of the edge are due. -/
def edgeDueTimes : Link → List Instant
  | .governedScripted g => g.timers.map fun t => t.due
  | .governedPolling g => g.timers.map fun t => t.due
  | .streaming s => s.retryer.waits.map fun wait => wait.due
  | _ => []

/-- When timers are due. -/
def dueTimes (w : World) : List Instant :=
  edgeDueTimes w.link ++ (w.retryer.waits.map fun wait => wait.due) ++
    w.exchanges.filterMap fun x => x.deadline

/-- When the next timer is due. -/
def nextDue? (w : World) : Option Instant :=
  w.dueTimes.foldl (fun next t =>
    match next with
    | some u => if t.hasCome u then some t else some u
    | none => some t) none

/-! ### Settling -/

/-- One step of the governor, if there is one to take. -/
def stepGovernor? (w : World) : Option World :=
  match w.link with
  | .governedScripted g => g.step?.map fun g => { w with link := .governedScripted g }
  | .governedPolling g => g.step?.map fun g => { w with link := .governedPolling g }
  | _ => none

/-- The first thing that can be done at present. -/
def step? (w : World) : Option World :=
  w.stepGovernor?.or <| w.send?.or <| w.deliver?.or <|
    w.fireGovernor?.or <| w.fireRetryer?.or <| w.fireStream?.or w.fireDeadline?

/-- Does what can be done, and moves the clock to timers that are due by the given limit, which
may depend on the present. The first argument bounds the number of steps. -/
def run (limit : Instant → Instant) : Nat → World → World
  | 0, w => w
  | n + 1, w =>
    match w.step? with
    | some w => run limit n w
    | none =>
      match w.nextDue? with
      | some due => if due.hasCome (limit w.now) then run limit n (w.advanceTo due) else w
      | none => w

/-- A timer that is further away than this is not waited for. -/
def patience : Duration := .ofMillis 1000

/-- The number of steps after which a world counts as settled. -/
def maxSteps : Nat := 10000

/-- Does what can be done, and waits for timers that are near. -/
def settle (w : World) : World := run (fun now => now.after patience) maxSteps w

/-- Lets time pass. -/
def sleep (w : World) (d : Duration) : World :=
  let wake := w.now.after d
  (run (fun _ => wake) maxSteps w).advanceTo wake

end World

end FeatureFlags.Simulation
