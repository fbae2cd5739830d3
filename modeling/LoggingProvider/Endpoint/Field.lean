import LoggingProvider.Json.Decode
import LoggingProvider.Service

/-!
# Fields of an endpoint

A Kafka logging endpoint has a name and eighteen optional fields. A field is a text, a truth value
or a count. The interface writes truth values and counts in several ways, and all of them are read;
a form writes a truth value as one digit.

## Main definitions

* `Kind`: texts, truth values and counts
* `Kind.Carrier`: the values of a kind
* `Kind.ofJson`: the loose reading of a value
* `Kind.toJson`, `Kind.formText`: a value as a document and in a form
* `Field`: the optional fields, in the order of a form
* `Field.registered`: the fields of a service kind
-/

namespace LoggingProvider

namespace Endpoint

/-- **The kind of a field.** -/
inductive Kind where
  | text
  | flag
  | count
deriving DecidableEq

namespace Kind

/-- The values of a kind. -/
@[reducible]
def Carrier : Kind → Type
  | .text => String
  | .flag => Bool
  | .count => UInt64

instance : (k : Kind) → DecidableEq k.Carrier
  | .text => inferInstanceAs (DecidableEq String)
  | .flag => inferInstanceAs (DecidableEq Bool)
  | .count => inferInstanceAs (DecidableEq UInt64)

/-- A value as a document. -/
def toJson : (k : Kind) → k.Carrier → Json
  | .text, s => .string s
  | .flag, b => .bool b
  | .count, n => .ofUInt64 n

/-- A value in a form: a truth value is one or zero. -/
def formText : (k : Kind) → k.Carrier → String
  | .text, s => s
  | .flag, b => if b then "1" else "0"
  | .count, n => toString n.toNat

/-- A value of a form as a document. -/
def formJson : (k : Kind) → k.Carrier → Json
  | .text, s => .string s
  | .flag, b => .string (if b then "1" else "0")
  | .count, n => .ofUInt64 n

/-- The value that a document of the kind's own shape holds. -/
def strict? : (k : Kind) → Json → Option k.Carrier
  | .text, .string s => some s
  | .flag, .bool b => some b
  | .count, .number n => n.natural?
  | _, _ => none

/-! ## Loose reading -/

/-- A truth value, an integer that may be zero, or one of four words. -/
def looseFlag : Json → Option Bool
  | .bool b => some b
  | .number n => n.int64?.map fun i => decide (i ≠ 0)
  | .string s =>
    if s = "1" || s = "true" then some true
    else if s = "0" || s = "false" then some false
    else none
  | _ => none

/-- The value of decimal digits. -/
def digitsValue : List Char → Nat → Option Nat
  | [], n => some n
  | c :: rest, n => if c.isDigit then digitsValue rest (10 * n + (c.toNat - 0x30)) else none

/-- The natural number below a bound that a text spells: digits, with an optional plus sign. -/
def spelledBelow? (bound : Nat) (s : String) : Option Nat :=
  let digits := match s.toList with
    | '+' :: rest => rest
    | cs => cs
  if digits.isEmpty then none
  else (digitsValue digits 0).filter (· < bound)

/-- A count, or a text that spells one. -/
def looseCount : Json → Option UInt64
  | .number n => n.natural?
  | .string s => (spelledBelow? 18446744073709551616 s).map UInt64.ofNat
  | _ => none

/-- **The loose reading of a value**: a text must be one, any other kind is absent when nothing can
be made of the document. -/
def ofJson : (k : Kind) → Json → Except Json.DecodeFault (Option k.Carrier)
  | .text, v => Json.asOptional Json.asText v
  | .flag, v => .ok (looseFlag v)
  | .count, v => .ok (looseCount v)

end Kind

/-- **The optional fields of an endpoint.** -/
inductive Field where
  | topic
  | brokers
  | compressionCodec
  | requiredAcks
  | useTls
  | tlsCaCert
  | tlsClientCert
  | tlsClientKey
  | tlsHostname
  | format
  | formatVersion
  | placement
  | responseCondition
  | parseLogKeyvals
  | requestMaxBytes
  | authMethod
  | user
  | password
deriving DecidableEq

namespace Field

/-- The fields in the order of a form. -/
def all : List Field :=
  [.topic, .brokers, .compressionCodec, .requiredAcks, .useTls, .tlsCaCert, .tlsClientCert,
    .tlsClientKey, .tlsHostname, .format, .formatVersion, .placement, .responseCondition,
    .parseLogKeyvals, .requestMaxBytes, .authMethod, .user, .password]

/-- The kind of a field. -/
@[reducible]
def kind : Field → Kind
  | .useTls | .parseLogKeyvals => .flag
  | .formatVersion | .requestMaxBytes => .count
  | _ => .text

/-- The name of a field. -/
def name : Field → String
  | .topic => "topic"
  | .brokers => "brokers"
  | .compressionCodec => "compression_codec"
  | .requiredAcks => "required_acks"
  | .useTls => "use_tls"
  | .tlsCaCert => "tls_ca_cert"
  | .tlsClientCert => "tls_client_cert"
  | .tlsClientKey => "tls_client_key"
  | .tlsHostname => "tls_hostname"
  | .format => "format"
  | .formatVersion => "format_version"
  | .placement => "placement"
  | .responseCondition => "response_condition"
  | .parseLogKeyvals => "parse_log_keyvals"
  | .requestMaxBytes => "request_max_bytes"
  | .authMethod => "auth_method"
  | .user => "user"
  | .password => "password"

/-- The field with a name. -/
def ofName? (name : String) : Option Field :=
  all.find? fun f => f.name = name

/-- The fields that only services of one kind have. -/
def vclOnly : Field → Bool
  | .format | .formatVersion | .placement | .responseCondition => true
  | _ => false

/-- **Whether services of a kind have a field.** -/
def registered (kind : ServiceKind) (f : Field) : Bool :=
  kind = .vcl || !f.vclOnly

theorem mem_all (f : Field) : f ∈ all := by
  cases f <;> decide

end Field

end Endpoint

end LoggingProvider
