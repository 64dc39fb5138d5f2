import FeatureFlags.Interceptor
import FeatureFlags.Text.Blank
import FeatureFlags.Time

/-!
# Settings for connections

Timeouts and delays of connections to a server. Each of them can be set by an environment
variable under one of three names, in milliseconds; a text that is not a number of 64 bits counts
as if the variable were not set.
-/

set_option autoImplicit false

namespace FeatureFlags

/-- A number of 64 bits without a sign, written with digits and perhaps a plus sign. -/
def natural64? (cs : List Char) : Option Nat :=
  let digits := match cs with
    | '+' :: rest => rest
    | _ => cs
  if digits.isEmpty || !digits.all Char.isDigit then none
  else if Text.digitsValue digits < Nat.pow 2 64 then some (Text.digitsValue digits) else none

/-- Timeouts and delays of connections. -/
structure RetrySettings where
  /-- How long connecting may take, and the delay after a failure to connect. -/
  connectTimeout : Duration
  /-- How long a stream may be silent, and the delay after that. -/
  streamReadTimeout : Duration
  /-- How long an answer may take. -/
  answerTimeout : Duration
  /-- The delay after a connection was lost. -/
  disconnectDelay : Duration
  /-- The delay after the server said goodbye. -/
  goodbyeDelay : Duration
  /-- The multiplier of the first growing delay, in milliseconds. -/
  multiplier : Nat
  /-- The longest delay. -/
  maximumDelay : Duration
deriving DecidableEq, Repr

namespace RetrySettings

/-- The settings unless something else is said. -/
def standard : RetrySettings where
  connectTimeout := .ofMillis 5000
  streamReadTimeout := .ofMillis 1800000
  answerTimeout := .ofMillis 150000
  disconnectDelay := .zero
  goodbyeDelay := .zero
  multiplier := 10
  maximumDelay := .ofMillis 30000

instance : Inhabited RetrySettings := ⟨standard⟩

/-- The names of the variables for a setting: in capitals, with dots, and with underscores. -/
def variableNames (setting : String) : List String :=
  let dotted := "featurehub.edge." ++ setting
  let underscored := dotted.map fun c => if c = '.' || c = '-' then '_' else c
  [underscored.map Char.toUpper, dotted, underscored]

/-- The number that a setting has by environment variables. -/
def setting? (vars : Variables) (setting : String) : Option Nat :=
  (variableNames setting).findSome? fun name =>
    (vars.get? name).bind fun text => natural64? (Text.trim text.toList)

/-- The settings that environment variables leave or make. -/
def ofVariables (vars : Variables) : RetrySettings :=
  let duration (setting : String) (otherwise : Duration) : Duration :=
    ((setting? vars setting).map Duration.ofMillis).getD otherwise
  { connectTimeout := duration "server-connect-timeout-ms" standard.connectTimeout
    streamReadTimeout := duration "server-sse-read-timeout-ms" standard.streamReadTimeout
    answerTimeout := duration "server-rest-read-timeout-ms" standard.answerTimeout
    disconnectDelay := duration "server-disconnect-retry-ms" standard.disconnectDelay
    goodbyeDelay := duration "server-by-reconnect-ms" standard.goodbyeDelay
    maximumDelay := duration "maximum-backoff-ms" standard.maximumDelay
    multiplier := (setting? vars "backoff-multiplier").getD standard.multiplier }

/-- The value of the settings. -/
def toJson (s : RetrySettings) : Json :=
  .ofMembers
    [("server_connect_timeout", s.connectTimeout.toJson),
      ("server_sse_read_timeout", s.streamReadTimeout.toJson),
      ("server_rest_read_timeout", s.answerTimeout.toJson),
      ("server_disconnect_retry", s.disconnectDelay.toJson),
      ("server_bye_reconnect", s.goodbyeDelay.toJson),
      ("backoff_multiplier", .nat s.multiplier),
      ("maximum_backoff", s.maximumDelay.toJson)]

/-- The names of the fields, in order. -/
def fieldNames : List String :=
  ["server_connect_timeout", "server_sse_read_timeout", "server_rest_read_timeout",
    "server_disconnect_retry", "server_bye_reconnect", "backoff_multiplier", "maximum_backoff"]

/-- Reads settings, all of which have to be there. -/
def decode : Json.Decoder RetrySettings := fun room d => do
  let (inner, fields) ← Json.Fields.read fieldNames room d
  let connectTimeout ← fields.required inner "server_connect_timeout" Duration.decode
  let streamReadTimeout ← fields.required inner "server_sse_read_timeout" Duration.decode
  let answerTimeout ← fields.required inner "server_rest_read_timeout" Duration.decode
  let disconnectDelay ← fields.required inner "server_disconnect_retry" Duration.decode
  let goodbyeDelay ← fields.required inner "server_bye_reconnect" Duration.decode
  let multiplier ← fields.required inner "backoff_multiplier" (.natUpTo (Nat.pow 2 64 - 1))
  let maximumDelay ← fields.required inner "maximum_backoff" Duration.decode
  some { connectTimeout, streamReadTimeout, answerTimeout, disconnectDelay, goodbyeDelay,
         multiplier, maximumDelay }

end RetrySettings

end FeatureFlags
