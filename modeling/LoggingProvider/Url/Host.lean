import LoggingProvider.Domain.Name
import LoggingProvider.Url.Percent

/-!
# Hosts of addresses

The host of a special address is a domain name, or an address of the fourth or the sixth version of
the internet protocol. If the last label of a domain name is a number, the name must be an address
of the fourth version. The host of any other address is kept as it is written.

## Main definitions

* `UrlFault`: why a text is no address
* `Host`: the hosts
* `Host.isIpv6`: the addresses of the sixth version
* `Host.ipv4?`: the addresses of the fourth version
* `Host.ofText`: the host that a text denotes
-/

namespace LoggingProvider

/-- **Why a text is no address.** -/
inductive UrlFault where
  /-- There is no scheme. -/
  | relative
  | emptyHost
  | invalidPort
  | invalidIpv4
  | invalidIpv6
  /-- The host is no domain name. -/
  | invalidName
  /-- The host of an address that is not special has a forbidden character. -/
  | invalidCharacter
deriving DecidableEq

/-- The wording of a fault. -/
def UrlFault.message : UrlFault → String
  | .relative => "relative URL without a base"
  | .emptyHost => "empty host"
  | .invalidPort => "invalid port number"
  | .invalidIpv4 => "invalid IPv4 address"
  | .invalidIpv6 => "invalid IPv6 address"
  | .invalidName => "invalid international domain name"
  | .invalidCharacter => "invalid domain character"

/-- **The host of an address.** -/
inductive Host where
  /-- A domain name, folded, its labels decoded. -/
  | domain (name : String)
  /-- An address of the fourth version. -/
  | ipv4 (address : Nat)
  /-- An address of the sixth version, as it is written between its brackets. -/
  | ipv6 (text : String)
deriving DecidableEq

namespace Host

/-! ## Addresses of the sixth version -/

/-- A decimal number up to 255 without leading zeros, at the front of a text. -/
def octet? (cs : List Char) : Option (List Char) :=
  let digits := cs.takeWhile Char.isDigit
  let rest := cs.dropWhile Char.isDigit
  match digits with
  | [] => none
  | ['0'] => some rest
  | '0' :: _ => none
  | digits =>
    if digits.foldl (fun n c => 10 * n + (c.toNat - 0x30)) 0 ≤ 255 then some rest else none

/-- Whether a text is a number of decimal numbers with points between them. -/
def isDotted : Nat → List Char → Bool
  | 0, _ => false
  | 1, cs => octet? cs = some []
  | n + 2, cs =>
    match octet? cs with
    | some ('.' :: rest) => isDotted (n + 1) rest
    | _ => false

/-- Whether a text continues an address after some of its eight pieces. The first argument bounds
the number of steps, each of which reads a piece or the mark for pieces left out. -/
def isIpv6From : Nat → (pieces : Nat) → (shortened : Bool) → List Char → Bool
  | _, pieces, shortened, [] => shortened || pieces = 8
  | 0, _, _, _ :: _ => false
  | steps + 1, pieces, shortened, cs =>
    if 8 ≤ pieces then false
    else
      match cs with
      | ':' :: rest => !shortened && isIpv6From steps (pieces + 1) true rest
      | cs =>
        let digits := (cs.take 4).takeWhile fun c => (Percent.value? c).isSome
        match cs.drop digits.length with
        | [] => isIpv6From steps (pieces + 1) shortened []
        | '.' :: _ =>
          !digits.isEmpty && pieces ≤ 6 && isDotted 4 cs && (shortened || pieces = 6)
        | ':' :: rest => !rest.isEmpty && isIpv6From steps (pieces + 1) shortened rest
        | _ => false

/-- Whether a text is an address of the sixth version. -/
def isIpv6 : List Char → Bool
  | ':' :: ':' :: rest => isIpv6From rest.length 1 true rest
  | ':' :: _ => false
  | [_] => false
  | cs => isIpv6From cs.length 0 false cs

/-! ## Addresses of the fourth version -/

/-- The value of digits to a base; nothing when one is no digit of the base. -/
def radixValue? (base : Nat) : List Char → Nat → Option Nat
  | [], n => some n
  | c :: rest, n =>
    match Percent.value? c with
    | some v => if v < base then radixValue? base rest (base * n + v) else none
    | none => none

/-- A part of an address: a decimal number, an octal one after a zero, or a hexadecimal one after
the mark for it. -/
def ipv4Part? : List Char → Option Nat
  | [] => none
  | '0' :: 'x' :: digits => radixValue? 16 digits 0
  | '0' :: c :: digits => radixValue? 8 (c :: digits) 0
  | digits => radixValue? 10 digits 0

/-- The labels of a domain name without the empty one at the end. -/
def properLabels (name : List Char) : List (List Char) :=
  let parts := Domain.labels name
  if 1 < parts.length && parts.getLast?.any List.isEmpty then parts.dropLast else parts

/-- Whether the last label of a domain name is a number. -/
def endsInNumber (name : List Char) : Bool :=
  match (properLabels name).getLast? with
  | none => false
  | some label => (!label.isEmpty && label.all Char.isDigit) || (ipv4Part? label).isSome

/-- **The address of the fourth version that a domain name spells**: up to four parts, where the
last part fills all bytes that are left. -/
def ipv4? (name : List Char) : Option Nat := do
  let parts ← (properLabels name).mapM ipv4Part?
  let last ← parts.getLast?
  let front := parts.dropLast
  if 4 < parts.length || front.any (255 < ·) || Nat.pow 256 (4 - front.length) ≤ last then none
  else some (front.zipIdx.foldl (fun n e => n + e.1 * Nat.pow 256 (3 - e.2)) last)

/-! ## Hosts -/

/-- The text of a host. -/
def text : Host → String
  | .domain name => name
  | .ipv4 address =>
    let part (n : Nat) := toString (address / n % 256)
    ".".intercalate [part 16777216, part 65536, part 256, part 1]
  | .ipv6 text => "[" ++ text ++ "]"

/-- The characters that no host admits. -/
def forbiddenMarks : List Char :=
  [Char.ofNat 0, '\t', '\n', '\r', ' ', '#', '/', ':', '<', '>', '?', '@', '[', '\\', ']', '^', '|']

/-- The text between the brackets, if the text has them. -/
def bracketed? : List Char → Option (List Char)
  | '[' :: rest => if rest.getLast? = some ']' then some rest.dropLast else none
  | _ => none

/-- The address of the sixth version that a text in brackets denotes. -/
def ofBrackets (cs : List Char) : Except UrlFault Host :=
  match bracketed? cs with
  | some inner => if isIpv6 inner then .ok (.ipv6 (String.ofList inner)) else .error .invalidIpv6
  | none => .error .invalidIpv6

/-- **The host that a text denotes** in an address, special or not. -/
def ofText (special : Bool) (cs : List Char) : Except UrlFault Host :=
  if cs.head? = some '[' then ofBrackets cs
  else if !special then
    if cs.any (· ∈ forbiddenMarks) then .error .invalidCharacter
    else .ok (.domain (String.ofList cs))
  else
    match Domain.name? (Percent.decode cs) with
    | none => .error .invalidName
    | some name =>
      if name.isEmpty then .error .emptyHost
      else if endsInNumber name then
        match ipv4? name with
        | some address => .ok (.ipv4 address)
        | none => .error .invalidIpv4
      else .ok (.domain (String.ofList name))

end Host

end LoggingProvider
