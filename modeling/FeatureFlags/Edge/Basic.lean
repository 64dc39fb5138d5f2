import FeatureFlags.Repository.Update
import FeatureFlags.Time

/-!
# Edges

An edge keeps a repository in step with a server. Whatever an edge is made of, it shares with its
client a repository, the futures that callers wait for, and a clock. Every call that can lead to
a request gives a future, which is answered when the edge has heard from the server, or at once
if there is nothing to wait for.
-/

set_option autoImplicit false

namespace FeatureFlags

/-- What an edge shares with its client. -/
structure Shared where
  /-- The features. -/
  repository : Repository
  /-- The futures that were given to callers. -/
  futures : Futures
  /-- The present. -/
  now : Instant

namespace Shared

/-- A repository that knows nothing, and no futures, at the start of the clock. -/
def new : Shared := ⟨.new, .empty, ⟨0⟩⟩

instance : Inhabited Shared := ⟨new⟩

/-- Changes the repository. -/
def modifyRepository (s : Shared) (f : Repository → Repository) : Shared :=
  { s with repository := f s.repository }

/-- The readiness of the repository. -/
def readiness (s : Shared) : Readiness := s.repository.readiness

/-- Makes a future that falls back to the present readiness. -/
def promise (s : Shared) : Shared × Ticket :=
  ({ s with futures := s.futures.add s.readiness }, s.futures.nextTicket)

/-- Makes a future that is answered at once. -/
def answered (s : Shared) (r : Readiness) : Shared × Ticket :=
  ({ s with futures := s.futures.addAnswered r }, s.futures.nextTicket)

/-- Answers futures with the present readiness. -/
def answerAll (s : Shared) (ts : List Ticket) : Shared :=
  { s with futures := s.futures.answerAll ts s.readiness }

end Shared

/-- An edge of the type `σ`, with all that it shares. -/
class Edge (σ : Type) where
  /-- What the edge shares with its client. -/
  shared : σ → Shared
  /-- Changes what the edge shares with its client. -/
  modifyShared : σ → (Shared → Shared) → σ
  /-- Makes sure that the server is being asked. -/
  poll : σ → σ × Ticket
  /-- Tells that the context has another header, and the digest of this header. -/
  changeContext : σ → Option String → String → σ × Ticket
  /-- Tells that a feature was read. -/
  featureUsed : σ → σ
  /-- The time between two requests, zero for an edge that does not ask by the clock. -/
  interval : σ → σ × Duration
  /-- Whether the edge will make no further requests. -/
  isStopped : σ → Bool
  /-- Whether another header needs another connection. -/
  isReplacedOnChange : σ → Bool
  /-- Ends all requests. -/
  close : σ → σ

namespace Edge

variable {σ : Type} [Edge σ]

/-- The features of an edge. -/
def repository (e : σ) : Repository := (shared e).repository

/-- Changes the features of an edge. -/
def modifyRepository (e : σ) (f : Repository → Repository) : σ :=
  modifyShared e fun s => s.modifyRepository f

/-- The readiness of an edge. -/
def readiness (e : σ) : Readiness := (repository e).readiness

/-- The answer to a future, if there is one. -/
def result? (e : σ) (t : Ticket) : Option Readiness := (shared e).futures.result? t

end Edge

end FeatureFlags
