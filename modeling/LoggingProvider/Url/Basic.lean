import LoggingProvider.Url.Host

/-!
# Addresses

An address has a scheme, mostly a host, a port, a path and a query. The path of most addresses is a
list of segments, kept percent-encoded; a segment that stands for the segment itself or for its
parent is resolved. An address whose path is no list of segments cannot be a base for others.
Blanks and controls around the text of an address do not belong to it, nor do tabs and line ends
inside. User information is passed over.

## Main definitions

* `Url`: addresses
* `Url.parse`: the address that a text denotes
* `Url.canBeBase`: whether segments can be added
* `Url.pushSegment`: the address with one more segment
* `Url.requestTarget`: the path and the query, as a request names them
* `Url.text`: the text of an address
-/

namespace LoggingProvider

/-- **The path of an address.** -/
inductive UrlPath where
  /-- A text that is no list of segments. -/
  | opaqueText (text : String)
  /-- Encoded segments, each after a slash. -/
  | segments (parts : List String)
deriving DecidableEq

/-- **An address.** -/
structure Url where
  /-- The scheme, in small letters. -/
  scheme : String
  /-- The host. -/
  host : Option Host
  /-- The port, none when it is the usual one. -/
  port : Option Nat
  /-- The path. -/
  path : UrlPath
  /-- The encoded query. -/
  query : Option String
  /-- The encoded fragment. -/
  fragment : Option String
deriving DecidableEq

namespace Url

/-- Whether addresses of a scheme are special: they have a host, and a backslash separates
segments. -/
def isSpecial (scheme : String) : Bool :=
  scheme ∈ ["http", "https", "ws", "wss", "ftp", "file"]

/-- The usual port of a scheme. -/
def usualPort? (scheme : String) : Option Nat :=
  if scheme = "http" || scheme = "ws" then some 80
  else if scheme = "https" || scheme = "wss" then some 443
  else if scheme = "ftp" then some 21
  else none

/-- Whether a character separates segments. -/
def isSlash (special : Bool) (c : Char) : Bool :=
  c = '/' || (special && c = '\\')

/-- Whether a character ends the host and the port. -/
def endsAuthority (special : Bool) (c : Char) : Bool :=
  isSlash special c || c = '?' || c = '#'

/-! ## Segments -/

/-- Tabs and line ends do not belong to an address. -/
def dropBreaks (cs : List Char) : List Char :=
  cs.filter fun c => c ≠ '\t' && c ≠ '\n' && c ≠ '\r'

/-- Whether an encoded segment stands for the segment itself. -/
def isHere (s : String) : Bool :=
  s ∈ [".", "%2e", "%2E"]

/-- Whether an encoded segment stands for the parent. -/
def isParent (s : String) : Bool :=
  s ∈ ["..", "%2e%2e", "%2e%2E", "%2E%2e", "%2E%2E", "%2e.", "%2E.", ".%2e", ".%2E"]

/-- The parts of a text between slashes. -/
def splitSlashes (special : Bool) : List Char → List (List Char)
  | [] => [[]]
  | c :: rest =>
    match splitSlashes special rest with
    | part :: more => if isSlash special c then [] :: part :: more else (c :: part) :: more
    | [] => [[c]]

/-- The resolved segments of a path, after the segments read before. -/
def resolve : List String → List String → List String
  | done, [] => done
  | done, [s] =>
    if isParent s then done.dropLast ++ [""] else if isHere s then done ++ [""] else done ++ [s]
  | done, s :: t :: rest =>
    if isParent s then resolve done.dropLast (t :: rest)
    else if isHere s then resolve done (t :: rest)
    else resolve (done ++ [s]) (t :: rest)

/-- The segments that the text of a path denotes. -/
def segmentsOf (special : Bool) (cs : List Char) : List String :=
  let parts (cs : List Char) :=
    resolve [] ((splitSlashes special cs).map fun part =>
      String.ofList (Percent.encode Percent.path part))
  match cs with
  | [] => if special then [""] else []
  | c :: rest => if isSlash special c then parts rest else parts (c :: rest)

/-- **The segments with one more.** A segment that stands for the segment itself or for its parent
is passed over, unless it does so only without its tabs and line ends. -/
def appendSegment (special : Bool) (parts : List String) (s : String) : List String :=
  if s = "." || s = ".." then parts
  else
    let front := if parts = [""] then [] else parts
    let reserved := if special then Percent.specialSegment else Percent.segment
    let cs := dropBreaks s.toList
    if cs = ['.', '.'] then parts.dropLast ++ [""]
    else if cs = ['.'] then front ++ [""]
    else front ++ [String.ofList (Percent.encode reserved cs)]

/-! ## Reading -/

/-- Whether a character around the text of an address does not belong to it. -/
def isPadding (c : Char) : Bool :=
  c.toNat ≤ 0x20

/-- The characters of an address. -/
def significant (s : String) : List Char :=
  dropBreaks ((s.toList.dropWhile isPadding).reverse.dropWhile isPadding).reverse

/-- Whether a character may stand in a scheme after its first. -/
def isSchemeChar (c : Char) : Bool :=
  c.isAlphanum || c = '+' || c = '-' || c = '.'

/-- The scheme of an address and what follows its colon. -/
def splitScheme? (cs : List Char) : Option (String × List Char) :=
  if cs.head?.any Char.isAlpha then
    match cs.dropWhile isSchemeChar with
    | ':' :: rest => some (String.ofList ((cs.takeWhile isSchemeChar).map Char.toLower), rest)
    | _ => none
  else none

/-- The user information before the last at sign, if there is one, and the text after it. -/
def splitUser (authority : List Char) : Option (List Char) × List Char :=
  if '@' ∈ authority then
    let host := (authority.reverse.takeWhile (· ≠ '@')).reverse
    (some (authority.take (authority.length - host.length - 1)), host)
  else (none, authority)

/-- Whether user information names a user or a password. A lone colon names neither. -/
def namesUser (user : List Char) : Bool :=
  !user.isEmpty && user ≠ [':']

/-- The characters of a host, up to a colon outside brackets, and what follows them. -/
def splitHost : Bool → List Char → List Char × List Char
  | _, [] => ([], [])
  | inside, c :: rest =>
    if c = ':' && !inside then ([], c :: rest)
    else
      let inside := if c = '[' then true else if c = ']' then false else inside
      let (host, tail) := splitHost inside rest
      (c :: host, tail)

/-- The port after a colon, none when it is the usual one, and what follows it. -/
def readPort (scheme : String) (cs : List Char) : Except UrlFault (Option Nat × List Char) :=
  let digits := cs.takeWhile Char.isDigit
  let rest := cs.dropWhile Char.isDigit
  let n := digits.foldl (fun n c => 10 * n + (c.toNat - 0x30)) 0
  if 65535 < n then .error .invalidPort
  else if rest.head?.any fun c => !endsAuthority true c then .error .invalidPort
  else if digits.isEmpty || usualPort? scheme = some n then .ok (none, rest)
  else .ok (some n, rest)

/-- The fragment in what follows a path and a query. -/
def fragmentOf (cs : List Char) : Option String :=
  match cs.dropWhile (· ≠ '#') with
  | [] => none
  | _ :: rest => some (String.ofList (Percent.encode Percent.fragment rest))

/-- The query in what follows a path. -/
def queryOf (special : Bool) (cs : List Char) : Option String :=
  match cs with
  | '?' :: rest =>
    some (String.ofList
      (Percent.encode (if special then Percent.specialQuery else Percent.query)
        (rest.takeWhile (· ≠ '#'))))
  | _ => none

/-- The address with a scheme, a host and a port; the rest of it is read from a text. -/
def withPath (scheme : String) (host : Option Host) (port : Option Nat) (cs : List Char) : Url :=
  let ends (c : Char) := c = '?' || c = '#'
  let special := isSpecial scheme
  ⟨scheme, host, port, .segments (segmentsOf special (cs.takeWhile fun c => !ends c)),
    queryOf special (cs.dropWhile fun c => !ends c), fragmentOf cs⟩

/-- The address after the two slashes that announce a host. -/
def readAuthority (scheme : String) (cs : List Char) : Except UrlFault Url := do
  let special := isSpecial scheme
  let authority := cs.takeWhile fun c => !endsAuthority special c
  let after := cs.dropWhile fun c => !endsAuthority special c
  let (user, hostPort) := splitUser authority
  if user = some [] && hostPort.isEmpty && !after.isEmpty then throw .emptyHost
  let (hostText, tail) := splitHost false hostPort
  if special && hostText.isEmpty then throw .emptyHost
  let host ← Host.ofText special hostText
  if hostText.isEmpty && (user.any namesUser || !tail.isEmpty) then throw .emptyHost
  let (port, rest) ←
    match tail with
    | ':' :: digits => readPort scheme (digits ++ after)
    | tail => pure (none, tail ++ after)
  return withPath scheme (if hostText.isEmpty then none else some host) port rest

/-- Whether a text is the letter of a drive, which is no host. -/
def isDrive : List Char → Bool
  | [c, d] => c.isAlpha && (d = ':' || d = '|')
  | _ => false

/-- The address of a file, after its scheme. -/
def readFile (cs : List Char) : Except UrlFault Url :=
  match cs with
  | a :: b :: rest =>
    if isSlash true a && isSlash true b then
      let hostText := rest.takeWhile fun c => !endsAuthority true c
      if hostText.isEmpty || isDrive hostText then .ok (withPath "file" none none rest)
      else do
        let host ← Host.ofText true hostText
        return withPath "file" (if host = .domain "localhost" then none else some host) none
          (rest.drop hostText.length)
    else .ok (withPath "file" none none cs)
  | cs => .ok (withPath "file" none none cs)

/-- **The address that a text denotes.** -/
def parse (s : String) : Except UrlFault Url :=
  match splitScheme? (significant s) with
  | none => .error .relative
  | some (scheme, rest) =>
    if scheme = "file" then readFile rest
    else if isSpecial scheme then readAuthority scheme (rest.dropWhile (isSlash true))
    else
      match rest with
      | '/' :: '/' :: rest => readAuthority scheme rest
      | '/' :: rest => .ok (withPath scheme none none ('/' :: rest))
      | rest =>
        let ends (c : Char) := c = '?' || c = '#'
        .ok ⟨scheme, none, none, .opaqueText (String.ofList (rest.takeWhile fun c => !ends c)),
          queryOf false (rest.dropWhile fun c => !ends c), fragmentOf rest⟩

/-! ## Use -/

/-- Whether segments can be added to the address. -/
def canBeBase (u : Url) : Bool :=
  match u.path with
  | .segments _ => true
  | .opaqueText _ => false

/-- The address without the empty segment at its end, unless that is its only one. -/
def popIfEmpty (u : Url) : Url :=
  match u.path with
  | .segments parts =>
    if 1 < parts.length && parts.getLast? = some "" then
      { u with path := .segments parts.dropLast }
    else u
  | .opaqueText _ => u

/-- **The address with one more segment.** -/
def pushSegment (u : Url) (s : String) : Url :=
  match u.path with
  | .segments parts => { u with path := .segments (appendSegment (isSpecial u.scheme) parts s) }
  | .opaqueText _ => u

/-- The text of a path. -/
def pathText (u : Url) : String :=
  match u.path with
  | .segments parts => String.join (parts.map ("/" ++ ·))
  | .opaqueText text => text

/-- The path and the query, as a request names them. -/
def requestTarget (u : Url) : String :=
  match u.query with
  | some q => u.pathText ++ "?" ++ q
  | none => u.pathText

/-- The host and the port, after the two slashes that announce them. -/
def authorityText (u : Url) : String :=
  match u.host with
  | some host => "//" ++ host.text ++ (u.port.map fun n => ":" ++ toString n).getD ""
  | none => ""

/-- **The text of an address**, without user information. -/
def text (u : Url) : String :=
  u.scheme ++ ":" ++ u.authorityText ++ u.requestTarget ++ (u.fragment.map ("#" ++ ·)).getD ""

end Url

end LoggingProvider
