import FeatureFlags.Text.Utf8

/-!
# Event streams

How events are read from the octets of a stream, piece by piece. A line ends with a line feed, a
carriage return, or both; a carriage return at the end of what has arrived may be followed by a
line feed and is left for later. A blank line ends an event. An event without data is no event,
and one without a type is a `message`.
-/

set_option autoImplicit false

namespace FeatureFlags.Edge.EventStream

/-- An event. -/
structure Message where
  /-- The type. -/
  kind : String
  /-- The data. -/
  data : String
deriving DecidableEq, Repr

/-- What has arrived and is not an event yet. -/
structure Reader where
  /-- The octets that are no characters yet. -/
  octets : List UInt8
  /-- The characters that are no line yet. -/
  text : List Char
  /-- The type of the event that has begun. -/
  kind : List Char
  /-- The data of the event that has begun, each line with a line feed behind it. -/
  data : List Char
deriving DecidableEq, Repr

namespace Reader

/-- A reader that nothing has arrived at. -/
def empty : Reader := ⟨[], [], [], []⟩

/-- The first line of a text, and what is behind its end. -/
def nextLine? : List Char → Option (List Char × List Char)
  | [] => none
  | '\n' :: rest => some ([], rest)
  | ['\r'] => none
  | '\r' :: '\n' :: rest => some ([], rest)
  | '\r' :: rest => some ([], rest)
  | c :: rest => (nextLine? rest).map fun l => (c :: l.1, l.2)

/-- The name and the value of the field in a line. -/
def field (line : List Char) : List Char × List Char :=
  let value :=
    match line.dropWhile (· ≠ ':') with
    | _ :: ' ' :: value => value
    | _ :: value => value
    | [] => []
  (line.takeWhile (· ≠ ':'), value)

/-- The reader after a line with a field. Unknown fields and comments change nothing. -/
def addField (r : Reader) (line : List Char) : Reader :=
  let (name, value) := field line
  if name = "event".toList then { r with kind := value }
  else if name = "data".toList then { r with data := r.data ++ value ++ ['\n'] }
  else r

/-- The event that a blank line ends. -/
def message? (r : Reader) : Option Message :=
  if r.data.isEmpty then none
  else
    some
      { kind := if r.kind.isEmpty then "message" else String.ofList r.kind
        data := String.ofList r.data.dropLast }

/-- Reads the lines of the text. The first argument bounds their number. -/
def readLines : Nat → Reader → Reader × List Message
  | 0, r => (r, [])
  | n + 1, r =>
    match nextLine? r.text with
    | none => (r, [])
    | some ([], rest) =>
      let (later, messages) := readLines n { r with text := rest, kind := [], data := [] }
      (later, r.message?.toList ++ messages)
    | some (line, rest) => readLines n ({ r with text := rest }.addField line)

/-- Takes octets that have arrived. Those that are no characters are kept. -/
def feed (r : Reader) (bytes : List UInt8) : Reader × List Message :=
  let (text, octets) := Text.validPrefix (r.octets ++ bytes)
  let text := r.text ++ text
  readLines text.length { r with octets := octets, text := text }

/-- Whether the stream may end here: all octets were characters. -/
def mayEnd (r : Reader) : Bool := r.octets.isEmpty

end Reader

end FeatureFlags.Edge.EventStream
