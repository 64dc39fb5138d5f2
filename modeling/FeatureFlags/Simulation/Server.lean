import FeatureFlags.Edge.EventStream
import FeatureFlags.Edge.Identification
import FeatureFlags.Edge.Polling
import FeatureFlags.Time
import FeatureFlags.Url.Basic

/-!
# Scripted servers

A server that answers the requests it receives with the replies of a script, one after the other,
or that cannot be reached at all. A reply may be held back, break off, or stay open.
-/

set_option autoImplicit false

namespace FeatureFlags.Simulation

/-- A reply in the script of a server. -/
structure Reply where
  /-- The status. -/
  status : Nat
  /-- The header about keeping the reply. -/
  cacheControl : Option String
  /-- The header with the tag of the contents. -/
  etag : Option String
  /-- The contents. -/
  body : List UInt8
  /-- The contents of a stream, in the pieces in which they arrive. -/
  chunks : Option (List (List UInt8))
  /-- Whether the reply is held back until it is released. -/
  isHeld : Bool
  /-- Whether the connection is closed instead of a reply. -/
  isDropped : Bool
  /-- Whether the connection is closed before the end of the contents. -/
  isTruncated : Bool
  /-- Whether the stream stays open behind its contents. -/
  staysOpen : Bool
deriving Repr

namespace Reply

/-- The reply to all requests behind the end of the script. -/
def exhausted : Reply where
  status := 401
  cacheControl := none
  etag := none
  body := []
  chunks := none
  isHeld := false
  isDropped := false
  isTruncated := false
  staysOpen := false

instance : Inhabited Reply := ⟨exhausted⟩

/-- Whether there are contents. Some statuses have none. -/
def hasContents (r : Reply) : Bool := r.status != 204 && r.status != 304

/-- The pieces in which the contents arrive. -/
def pieces (r : Reply) : List (List UInt8) :=
  if r.hasContents then r.chunks.getD [r.body] else []

/-- Whether the connection breaks before the reply is complete. -/
def isBroken (r : Reply) : Bool := r.isDropped || (r.isTruncated && r.hasContents)

/-- A header whose text is readable: characters of ASCII that are no controls. -/
def readable (s : Option String) : Option String :=
  s.filter fun s => s.toList.all fun c => c = '\t' || (0x20 ≤ c.toNat && c.toNat < 0x7F)

/-- The reply as an answer to a request for all features. -/
def response (r : Reply) : Edge.Response :=
  ⟨r.status, readable r.cacheControl, readable r.etag, r.pieces.flatten⟩

end Reply

/-- A request as the server receives it. -/
structure Received where
  /-- The path and the query. -/
  path : String
  /-- The kinds of contents that are accepted. -/
  accept : String
  /-- The identification of the client. -/
  sdk : String
  /-- The header of the context. -/
  context : Option String
  /-- The tag of the contents that are known. -/
  ifNoneMatch : Option String
deriving Repr

/-- A server with a script. -/
structure Server where
  /-- The replies; a server without a script cannot be reached. -/
  script : Option (List Reply)
  /-- The requests that were received, in order. -/
  received : List Received
deriving Repr

/-- How far a reply has come. -/
inductive Stage where
  /-- The server holds it back. -/
  | held
  /-- It is on its way. -/
  | underWay
  /-- All of it has arrived, and the stream stays open. -/
  | open
deriving DecidableEq, Repr

/-- A request together with the reply to it. -/
structure Exchange where
  /-- The place of the request among all that the client made. -/
  number : Nat
  /-- The reply. -/
  reply : Reply
  /-- How far the reply has come. -/
  stage : Stage
  /-- When the client gives up waiting. -/
  deadline : Option Instant
deriving Repr

namespace Server

/-- Whether a header can be sent: it has no controls but tabs. -/
def canSend (header : Option String) : Bool :=
  header.all fun s => s.toList.all fun c => c = '\t' || (0x20 ≤ c.toNat && c.toNat ≠ 0x7F)

/-- A header without the blanks before it, which are lost on the way. -/
def arrived (header : Option String) : Option String :=
  header.map fun s => s.dropWhile (fun c => c = ' ' || c = '\t') |>.toString

/-- What comes of a request. -/
inductive Attempt where
  /-- It could not be sent. -/
  | unsendable
  /-- The server could not be reached. -/
  | refused
  /-- The server received it and has a reply. -/
  | received (reply : Reply) (server : Server)

/-- Sends a request. -/
def attempt (s : Server) (url accept variant : String) (context ifNoneMatch : Option String) :
    Attempt :=
  match Url.parse url, s.script with
  | .error _, _ => .unsendable
  | .ok parts, script =>
    if !canSend context || !canSend ifNoneMatch then .unsendable
    else
      match script with
      | none => .refused
      | some replies =>
        let received : Received :=
          ⟨Url.target parts, accept, Edge.identification variant, arrived context,
            arrived ifNoneMatch⟩
        .received (replies[s.received.length]?.getD .exhausted)
          { s with received := s.received ++ [received] }

end Server

end FeatureFlags.Simulation
