import FeatureFlags.Client.Config
import FeatureFlags.Edge.Governor
import FeatureFlags.Edge.Polling
import FeatureFlags.Edge.Streaming
import FeatureFlags.Simulation.Scripted

/-!
# Links

The edges that a client can have, as one type: a stream, requests by use or by the clock, a
scripted edge, or no edge at all.
-/

set_option autoImplicit false

namespace FeatureFlags.Simulation

open Edge (Governed Polling Streaming)

/-- The edge of a client. -/
inductive Link where
  /-- No edge. -/
  | none (shared : Shared)
  /-- A scripted edge. -/
  | scripted (e : Scripted)
  /-- A scripted edge that is asked by the clock. -/
  | governedScripted (e : Governed Scripted)
  /-- Requests. -/
  | polling (e : Polling)
  /-- Requests by the clock. -/
  | governedPolling (e : Governed Polling)
  /-- A stream. -/
  | streaming (e : Streaming)

namespace Link

instance : Inhabited Link := ⟨.none .new⟩

/-- What the edge shares. -/
def shared : Link → Shared
  | .none s => s
  | .scripted e => Edge.shared e
  | .governedScripted e => Edge.shared e
  | .polling e => Edge.shared e
  | .governedPolling e => Edge.shared e
  | .streaming e => Edge.shared e

/-- Changes the edge, whatever it is. -/
def map (f : {σ : Type} → [Edge σ] → σ → σ) (ofNone : Shared → Shared) : Link → Link
  | .none s => .none (ofNone s)
  | .scripted e => .scripted (f e)
  | .governedScripted e => .governedScripted (f e)
  | .polling e => .polling (f e)
  | .governedPolling e => .governedPolling (f e)
  | .streaming e => .streaming (f e)

/-- Changes the edge, whatever it is, and gives what comes of it. -/
def run {α : Type} (f : {σ : Type} → [Edge σ] → σ → σ × α) (ofNone : Shared → Shared × α) :
    Link → Link × α
  | .none s => let (s, x) := ofNone s; (.none s, x)
  | .scripted e => let (e, x) := f e; (.scripted e, x)
  | .governedScripted e => let (e, x) := f e; (.governedScripted e, x)
  | .polling e => let (e, x) := f e; (.polling e, x)
  | .governedPolling e => let (e, x) := f e; (.governedPolling e, x)
  | .streaming e => let (e, x) := f e; (.streaming e, x)

/-- What the edge says, whatever it is. -/
def ask {α : Type} (f : {σ : Type} → [Edge σ] → σ → α) (ofNone : α) : Link → α
  | .none _ => ofNone
  | .scripted e => f e
  | .governedScripted e => f e
  | .polling e => f e
  | .governedPolling e => f e
  | .streaming e => f e

instance : Edge Link where
  shared := shared
  modifyShared l g := l.map (fun e => Edge.modifyShared e g) g
  poll := run (fun e => Edge.poll e) fun s => s.answered s.readiness
  changeContext l header sha :=
    l.run (fun e => Edge.changeContext e header sha) fun s => s.answered s.readiness
  featureUsed := map (fun e => Edge.featureUsed e) id
  interval := run (fun e => Edge.interval e) fun s => (s, .zero)
  isStopped := ask (fun e => Edge.isStopped e) false
  isReplacedOnChange := ask (fun e => Edge.isReplacedOnChange e) false
  close := map (fun e => Edge.close e) id

/-- Whether there is an edge at all. -/
def isEdge : Link → Bool
  | .none _ => false
  | _ => true

/-- The part that makes requests. -/
def polling? : Link → Option Polling
  | .polling e => some e
  | .governedPolling e => some e.inner
  | _ => .none

/-- Changes the part that makes requests. -/
def modifyPolling (f : Polling → Polling) : Link → Link
  | .polling e => .polling (f e)
  | .governedPolling e => .governedPolling { e with inner := f e.inner }
  | l => l

/-- The stream. -/
def streaming? : Link → Option Streaming
  | .streaming e => some e
  | _ => .none

/-- Changes the stream. -/
def modifyStreaming (f : Streaming → Streaming) : Link → Link
  | .streaming e => .streaming (f e)
  | l => l

/-- The part that is scripted. -/
def scripted? : Link → Option Scripted
  | .scripted e => some e
  | .governedScripted e => some e.inner
  | _ => .none

/-- Changes the part that is scripted. -/
def modifyScripted (f : Scripted → Scripted) : Link → Link
  | .scripted e => .scripted (f e)
  | .governedScripted e => .governedScripted { e with inner := f e.inner }
  | l => l

/-- The edge that a configuration asks for. -/
def ofConfig (config : Client.Config) : Link :=
  let shared := Shared.new.modifyRepository fun r => config.interceptors.foldl .intercept r
  match config.edgeType with
  | .streaming =>
    .streaming (.new shared config.streamUrl config.isServerEvaluated config.settings)
  | .passive interval => .polling (.new shared config.edgeUrl config.apiKeys interval false)
  | .active interval =>
    .governedPolling (.new (.new shared config.edgeUrl config.apiKeys interval true))

end Link

end FeatureFlags.Simulation
