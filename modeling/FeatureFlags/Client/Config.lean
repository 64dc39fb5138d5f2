import FeatureFlags.Edge.RetrySettings
import FeatureFlags.Url.Basic

/-!
# Configuration of clients

Where the server is, which environments are read, and how. A key with an asterisk is for local
evaluation of features; without any such key the server evaluates them.
-/

set_option autoImplicit false

namespace FeatureFlags.Client

/-- How a client talks to its server. -/
inductive EdgeType where
  /-- Over a stream. -/
  | streaming
  /-- By requests when features are read, at most one in an interval. -/
  | passive (interval : Duration)
  /-- By requests at intervals. -/
  | active (interval : Duration)
deriving DecidableEq, Repr

/-- What a client is made from. -/
structure Config where
  /-- The address of the server. -/
  edgeUrl : String
  /-- The keys of the environments. -/
  apiKeys : List String
  /-- How to talk to the server, if it was said. -/
  chosenType : Option EdgeType
  /-- Timeouts and delays. -/
  settings : RetrySettings
  /-- The overrides. -/
  interceptors : List Interceptor

/-- Why there is no client. -/
inductive ConfigError where
  /-- A key is missing or blank. -/
  | missingApiKey
  /-- The address is none. -/
  | invalidEdgeUrl (cause : UrlError)
deriving DecidableEq, Repr

/-- The description of an error, with its cause. -/
def ConfigError.message : ConfigError → String
  | .missingApiKey => "at least one api key is required"
  | .invalidEdgeUrl cause => "invalid edge_url configuration: " ++ cause.message

namespace Config

/-- A text without one given ending, if it has it. -/
def dropEnding (ending s : String) : String :=
  if Text.endsWith s ending then
    String.ofList (s.toList.take (s.toList.length - ending.toList.length))
  else s

/-- An address without one slash at its end, and then without the path of features. -/
def normalizeUrl (s : String) : String := dropEnding "/features" (dropEnding "/" s)

/-- The configuration for a server and some keys. -/
def new (edgeUrl : String) (apiKeys : List String) (settings : RetrySettings) : Config where
  edgeUrl := normalizeUrl edgeUrl
  apiKeys := apiKeys
  chosenType := none
  settings := settings
  interceptors := []

/-- The interval of requests unless something else is said. -/
def standardInterval : Duration := .ofSeconds 180

/-- Whether the server evaluates features. -/
def isServerEvaluated (c : Config) : Bool := !(c.apiKeys.any fun key => Text.contains key "*")

/-- The address of the stream. -/
def streamUrl (c : Config) : String := c.edgeUrl ++ "/features/" ++ c.apiKeys.head?.getD ""

/-- How to talk to the server. -/
def edgeType (c : Config) : EdgeType :=
  c.chosenType.getD
    (if c.isServerEvaluated then .passive standardInterval else .streaming)

/-- Checks the keys first, and then the address. -/
def check (c : Config) : Except ConfigError Unit :=
  if c.apiKeys.isEmpty || c.apiKeys.any fun key => (Text.trim key.toList).isEmpty then
    .error .missingApiKey
  else
    match Url.parse c.edgeUrl with
    | .error cause => .error (.invalidEdgeUrl cause)
    | .ok _ => .ok ()

end Config

end FeatureFlags.Client
