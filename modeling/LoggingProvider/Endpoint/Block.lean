import LoggingProvider.Endpoint.Basic
import LoggingProvider.Schema.Normalize

/-!
# The block of an endpoint

Endpoints are configured as a set of nested blocks, one block for each endpoint. The block has the
name and the fields that the service kind registers. An endpoint is recorded in a state as the
normal form of such a block.

## Main definitions

* `blockName`: the name of the set of blocks
* `Field.attr`: the attribute of a field
* `block`: the block of an endpoint
* `register`: a schema with the set of blocks
* `record`: an endpoint as a normalized block
-/

namespace LoggingProvider

namespace Endpoint

/-- The name of the set of blocks. -/
def blockName : String := "logging_kafka"

/-- The codecs for compressed logs. -/
def codecs : List Json := [.string "gzip", .string "snappy", .string "lz4"]

/-- The acknowledgements that a leader may wait for. -/
def acknowledgements : List Json := [.string "1", .string "0", .string "-1"]

/-- The methods of authentication. -/
def authMethods : List Json := [.string "plain", .string "scram-sha-256", .string "scram-sha-512"]

/-- The places for a logging call. -/
def placements : List Json := [.string "none", .string "waf_debug"]

/-- The versions of the logging format. -/
def formatVersions : List Json := [.ofNat 1, .ofNat 2]

/-- An optional text in PEM form, hidden and with its blanks dropped. -/
def pem (text : String) : Attribute :=
  (Attribute.optionalString.hidden.withNormalizer .trimSpace).withDescription text

/-- The attribute of the name. -/
def nameAttr : Attribute :=
  Attribute.requiredString.withDescription
    "Unique name of the Kafka logging endpoint. Changing it deletes and recreates the endpoint"

/-- **The attribute of a field.** -/
def Field.attr : Field → Attribute
  | .topic => Attribute.requiredString.withDescription "Kafka topic to send logs to"
  | .brokers =>
    Attribute.requiredString.withDescription
      "Comma-separated list of IP addresses or hostnames of Kafka brokers"
  | .compressionCodec =>
    (Attribute.optionalString.withAllowed codecs).withDescription "Codec used to compress logs"
  | .requiredAcks =>
    (Attribute.optionalString.withAllowed acknowledgements).withDescription
      ("Acknowledgements a leader must receive before a write succeeds: "
        ++ "1 (one server), 0 (none), -1 (all in-sync replicas)")
  | .useTls =>
    (Attribute.optionalBool.withDefault (.bool false)).withDescription
      "Whether to use TLS for secure logging"
  | .tlsCaCert => pem "CA certificate used to authenticate the brokers, in PEM format"
  | .tlsClientCert => pem "Client certificate used for authenticated requests, in PEM format"
  | .tlsClientKey => pem "Client private key used for authenticated requests, in PEM format"
  | .tlsHostname =>
    Attribute.optionalString.withDescription
      "Hostname used to verify the brokers' certificate (Common Name or SAN)"
  | .format => Attribute.optionalString.withDescription "Apache style log formatting"
  | .formatVersion =>
    ((Attribute.optionalInt64.withDefault (.ofNat 2)).withAllowed formatVersions).withDescription
      "Version of the custom logging format, 1 or 2"
  | .placement =>
    (Attribute.optionalString.withAllowed placements).withDescription
      "Where in the generated VCL the logging call is placed"
  | .responseCondition =>
    Attribute.optionalString.withDescription
      "Name of an existing condition gating the endpoint; empty to always log"
  | .parseLogKeyvals =>
    (Attribute.optionalBool.withDefault (.bool false)).withDescription
      "Parse key=value tuples from the start of each log line into record headers"
  | .requestMaxBytes =>
    (Attribute.optionalInt64.withDefault (.ofNat 0)).withDescription
      "Maximum size of a log batch; 0 means unbounded"
  | .authMethod =>
    (Attribute.optionalString.withAllowed authMethods).withDescription "SASL authentication method"
  | .user => Attribute.optionalString.withDescription "SASL user"
  | .password => Attribute.optionalString.hidden.withDescription "SASL password"

/-- The fields that services of a kind register. -/
def Field.registeredIn (kind : ServiceKind) : List Field :=
  Field.all.filter (Field.registered kind)

/-- **The block of an endpoint.** -/
def block (kind : ServiceKind) : Block :=
  ((Field.registeredIn kind).foldl (fun b f => b.withAttribute f.name f.attr)
      (Block.empty.withAttribute "name" nameAttr)).withDescription
    "Kafka logging endpoints of the service version"

/-- The schema with the set of blocks. -/
def register (kind : ServiceKind) (s : Schema) : Schema :=
  s.withBlock blockName (Nested.set (block kind))

/-- The members of an endpoint's block: its name and the registered fields that have a value. -/
def recordMembers (kind : ServiceKind) (e : Endpoint) : Dict Json :=
  Dict.ofEntries (("name", .string e.name) ::
    (Field.registeredIn kind).filterMap fun f =>
      (e.settings f).map fun v => (f.name, f.kind.toJson v))

/-- **An endpoint as a normalized block.** -/
def record (kind : ServiceKind) (e : Endpoint) : Json :=
  (block kind).normalize (.object (recordMembers kind e))

end Endpoint

end LoggingProvider
