import FeatureFlags.Text.FormEncoding
import FeatureFlags.Url.Host

/-!
# Addresses of servers

Which texts are addresses, and which path and query a request to an address carries. Schemes of
the web have a host; an address of another scheme has one only if two slashes say so.
-/

set_option autoImplicit false

namespace FeatureFlags.Url

open Text

/-- The kinds of schemes. -/
inductive SchemeKind where
  /-- Files. -/
  | file
  /-- The other schemes of the web. -/
  | web
  /-- All other schemes. -/
  | other
deriving DecidableEq, Repr

/-- The kind of a scheme. -/
def schemeKind (scheme : String) : SchemeKind :=
  if scheme = "file" then .file
  else if ["http", "https", "ws", "wss", "ftp"].contains scheme then .web
  else .other

/-- An address, as far as it matters here. -/
structure Parts where
  /-- The scheme, in lower case. -/
  scheme : String
  /-- The host, if there is one. -/
  host : List Char
  /-- What stands behind the host and the port. -/
  rest : List Char
deriving DecidableEq, Repr

/-- A text without blanks and controls around it, and without tabs and line ends in it. -/
def cleaned (cs : List Char) : List Char :=
  let isOuter (c : Char) : Bool := c.toNat ≤ 0x20
  (((cs.dropWhile isOuter).reverse.dropWhile isOuter).reverse).filter fun c =>
    c != '\t' && c != '\n' && c != '\r'

/-- Whether a character may stand in a scheme. -/
def isSchemeChar (c : Char) : Bool := c.isAlphanum || c == '+' || c == '-' || c == '.'

/-- The scheme, and what stands behind its colon. -/
def splitScheme? (cs : List Char) : Option (String × List Char) :=
  match cs.head?.any Char.isAlpha, cs.dropWhile isSchemeChar with
  | true, ':' :: rest => some (String.ofList (lower (cs.takeWhile isSchemeChar)), rest)
  | _, _ => none

/-- Whether a character ends the part with the host. -/
def endsAuthority (isWeb : Bool) (c : Char) : Bool :=
  c == '/' || c == '?' || c == '#' || (isWeb && c == '\\')

/-- The name and the password of a user before the last `@`, if there is one, and what stands
behind it. -/
def splitUser (authority : List Char) : Option (List Char) × List Char :=
  if authority.contains '@' then
    let host := (authority.reverse.takeWhile (· ≠ '@')).reverse
    (some (authority.take (authority.length - host.length - 1)), host)
  else (none, authority)

/-- The host before the first colon outside of brackets, and what stands from there on. -/
def splitHost : Bool → List Char → List Char × List Char
  | _, [] => ([], [])
  | inBrackets, c :: rest =>
    if c = ':' && !inBrackets then ([], c :: rest)
    else
      let (host, port) := splitHost (c = '[' || (inBrackets && c ≠ ']')) rest
      (c :: host, port)

/-- Checks a port with the colon before it. A backslash ends it. -/
def checkPort : List Char → Except UrlError Unit
  | ':' :: rest =>
    let digits := rest.takeWhile (· ≠ '\\')
    if digits.all Char.isDigit && digitsValue digits < Nat.pow 2 16 then .ok ()
    else .error .invalidPort
  | _ => .ok ()

/-- The host in the part between the slashes and the path. A user needs a host, and so does an `@`
that has nothing but a path behind it. -/
def authorityHost (isWeb : Bool) (authority path : List Char) : Except UrlError (List Char) := do
  let (user, hostAndPort) := splitUser authority
  if user = some [] && hostAndPort.isEmpty && !path.isEmpty then throw .emptyHost
  let (host, port) := splitHost false hostAndPort
  if isWeb && host.isEmpty then throw .emptyHost
  let name ← if isWeb then checkHost host else checkOpaqueHost host
  if name.isEmpty && !port.isEmpty then throw .emptyHost
  checkPort port
  if name.isEmpty && user.any (fun u => !u.isEmpty && u ≠ [':']) then throw .emptyHost
  return name

/-- Whether a text is a drive: a letter and a colon or a bar. -/
def isDrive (cs : List Char) : Bool :=
  match cs with
  | [c, m] => c.isAlpha && (m == ':' || m == '|')
  | _ => false

/-- The host of an address of a file. -/
def fileHost (rest : List Char) : Except UrlError (List Char) :=
  let isSlash (c : Char) : Bool := c == '/' || c == '\\'
  match rest with
  | a :: b :: rest =>
    if isSlash a && isSlash b then
      let host := rest.takeWhile fun c => !endsAuthority true c
      if host.isEmpty || isDrive host then .ok [] else checkHost host
    else .ok []
  | _ => .ok []

/-- The parts of an address with a host, from the slashes before it on. -/
def parseAuthority (isWeb : Bool) (scheme : String) (rest : List Char) : Except UrlError Parts := do
  let authority := rest.takeWhile fun c => !endsAuthority isWeb c
  let path := rest.dropWhile fun c => !endsAuthority isWeb c
  return ⟨scheme, ← authorityHost isWeb authority path, path⟩

/-- The parts of the address that a text denotes. -/
def parse (s : String) : Except UrlError Parts :=
  match splitScheme? (cleaned s.toList) with
  | none => .error .relativeWithoutBase
  | some (scheme, rest) =>
    match schemeKind scheme with
    | .file => (fileHost rest).map fun host => ⟨scheme, host, rest⟩
    | .web => parseAuthority true scheme (rest.dropWhile fun c => c == '/' || c == '\\')
    | .other =>
      match rest with
      | '/' :: '/' :: rest => parseAuthority false scheme rest
      | _ => .ok ⟨scheme, [], rest⟩

/-! ### Paths of requests -/

/-- The text of a character in a path or a query, percent-encoded if it is beyond ASCII, a
control, or one of those given. -/
def encodeChar (special : List Char) (c : Char) : List Char :=
  if c.toNat ≤ 0x20 || 0x7F ≤ c.toNat || special.contains c then
    (String.utf8EncodeChar c).flatMap percentEncode
  else [c]

/-- The characters that are percent-encoded in paths. -/
def pathSpecial : List Char := ['"', '<', '>', '\x60', '#', '?', '\x7b', '\x7d']

/-- The characters that are percent-encoded in queries. -/
def querySpecial : List Char := ['"', '<', '>', '#', '\x27']

/-- A segment with percent-encoded dots as dots. -/
def plainDots : List Char → List Char
  | '%' :: '2' :: c :: rest =>
    if c.toLower = 'e' then '.' :: plainDots rest else '%' :: '2' :: c :: plainDots rest
  | c :: rest => c :: plainDots rest
  | [] => []

/-- Appends segments of a path to those before, of which the last comes first. One dot stands for
the same place, and two dots for the place above. -/
def resolveSegments : List (List Char) → List (List Char) → List (List Char)
  | before, [] => before.reverse
  | before, segment :: rest =>
    let plain := plainDots segment
    let isLast := rest.isEmpty
    if plain = ['.', '.'] then
      resolveSegments (if isLast then [] :: before.tail else before.tail) rest
    else if plain = ['.'] then resolveSegments (if isLast then [] :: before else before) rest
    else resolveSegments (segment.flatMap (encodeChar pathSpecial) :: before) rest

/-- The path and the query that a request to an address of the web carries. -/
def target (parts : Parts) : String :=
  let visible := parts.rest.takeWhile (· ≠ '#')
  let path := (visible.takeWhile (· ≠ '?')).map fun c => if c = '\\' then '/' else c
  let segments := resolveSegments [] ((path.splitOn '/').drop 1)
  let query :=
    match visible.dropWhile (· ≠ '?') with
    | '?' :: query => '?' :: query.flatMap (encodeChar querySpecial)
    | _ => []
  let text := segments.flatMap fun segment => '/' :: segment
  String.ofList ((if text.isEmpty then ['/'] else text) ++ query)

end FeatureFlags.Url
