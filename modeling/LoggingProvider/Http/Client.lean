import LoggingProvider.Config
import LoggingProvider.Http.Form
import LoggingProvider.Http.Status
import LoggingProvider.Json.Record
import LoggingProvider.Remote.Basic
import LoggingProvider.Url.Basic

/-!
# The client of the remote interface

The client turns a request about endpoints into a request to an address below the base address,
and the response into an answer. A refusal is reported with the message in its body, or with the
body itself, or with the phrase of its status.

## Main definitions

* `Http.Request`, `Http.Response`: what is sent and what comes back
* `Http.Transport`: how responses come about
* `Http.Client`: a base address and a key
* `Http.Client.ofConfig`: the client of a configuration
* `Http.Client.endpointUrl`: the address of the endpoints of a version, or of one of them
* `Http.Client.request`: the request for a call
* `Http.readReply`: the answer in a response
* `Http.Client.remote`: the client as an interface
-/

namespace LoggingProvider

namespace Http

/-- What a request does with its address. -/
inductive Method where
  | get
  | post
  | put
  | delete
deriving DecidableEq

/-- The name of a method. -/
def Method.name : Method → String
  | .get => "GET"
  | .post => "POST"
  | .put => "PUT"
  | .delete => "DELETE"

/-- **A request.** -/
structure Request where
  method : Method
  url : Url
  /-- The key that is sent along. -/
  key : String
  /-- The form that is sent, if any. -/
  form : Option (List (String × String))

/-- **A response.** -/
structure Response where
  status : UInt16
  body : Bytes

/-- **How responses come about**: the response to a request in a state, none when there is none,
and the next state. -/
def Transport (σ : Type) : Type := Request → σ → Option Response × σ

/-- The transport over which no response comes. -/
def Transport.silent (σ : Type) : Transport σ := fun _ s => (none, s)

/-- The name under which the client presents itself. -/
def agent : String := "hemmer-provider-fastly/0.1.0"

/-- The headers of a request. -/
def Request.headers (r : Request) : List (String × Bytes) :=
  [("fastly-key", Utf8.encode r.key), ("accept", Utf8.encode "application/json"),
    ("user-agent", Utf8.encode agent)]
    ++ (r.form.map fun _ =>
      ("content-type", Utf8.encode "application/x-www-form-urlencoded")).toList

/-- The body of a request. -/
def Request.body (r : Request) : Bytes :=
  (r.form.map fun entries => Utf8.encode (formText entries)).getD []

/-- Whether a key may be sent as a header: it has no control but the tab. -/
def isHeaderValue (key : String) : Bool :=
  (Utf8.encode key).all fun b => b = 0x09 || (0x20 ≤ b && b ≠ 0x7f)

/-- The largest number of bytes in the address of a request. -/
def longestAddress : Nat := 65534

/-- Whether requests can be sent to an address: it is one of the web and not too long, and its host
has none of the marks that no request line admits. -/
def isReachable (u : Url) : Bool :=
  (u.scheme = "http" || u.scheme = "https") && u.text.utf8ByteSize ≤ longestAddress &&
    match u.host with
    | some (.domain name) =>
      name.toList.all fun c => c ∉ ['"', '`', Char.ofNat 0x7b, Char.ofNat 0x7d]
    | _ => true

/-- **The client of the remote interface.** -/
structure Client where
  /-- The address that all others stand below. -/
  baseUrl : Url
  /-- The key that is sent with every request. -/
  key : String
deriving DecidableEq

namespace Client

/-- The fault of an address that cannot be used. -/
def invalidUrl (reason : String) : Fault :=
  .configuration ("invalid base_url: " ++ reason)

/-- **The client of a configuration.** -/
def ofConfig (c : Config) : Except Fault Client :=
  match Url.parse c.baseUrl with
  | .error fault => .error (invalidUrl fault.message)
  | .ok url => if url.canBeBase then .ok ⟨url, c.key⟩ else .error (invalidUrl c.baseUrl)

/-- The segments below the base address for a version, and for one endpoint of it. -/
def segmentsFor (target : Target) (name : Option String) : List String :=
  ["service", target.service, "version", toString target.version.toNat, "logging", "kafka"]
    ++ name.toList

/-- **The address of the endpoints of a version**, or of one of them. -/
def endpointUrl (c : Client) (target : Target) (name : Option String) : Url :=
  (segmentsFor target name).foldl Url.pushSegment c.baseUrl.popIfEmpty

/-- The request for a call. -/
def request (c : Client) : Call → Request
  | .list target => ⟨.get, c.endpointUrl target none, c.key, none⟩
  | .create target name settings =>
    ⟨.post, c.endpointUrl target none, c.key, some (("name", name) :: settings.formEntries)⟩
  | .update target name settings =>
    ⟨.put, c.endpointUrl target (some name), c.key, some settings.formEntries⟩
  | .delete target name => ⟨.delete, c.endpointUrl target (some name), c.key, none⟩

end Client

/-! ## Responses -/

/-- The names of the members that an endpoint is read from. -/
def endpointNames : List String :=
  "name" :: Endpoint.Field.all.map Endpoint.Field.name

/-- The names of the members that a refusal is read from. -/
def refusalNames : List String := ["msg", "detail"]

/-- Whether no name of a list occurs twice among the members of an object. -/
def namesOnce (names : List String) (members : List (String × Json)) : Bool :=
  decide ((members.map Prod.fst).filter (· ∈ names)).Nodup

/-- An endpoint from a document as it was read; a member that occurs twice is a fault. -/
def readEndpoint (v : Json) : Option Endpoint :=
  match v with
  | .object members =>
    if namesOnce endpointNames members then
      (Endpoint.ofJson v.canonical).toOption
    else none
  | v => (Endpoint.ofJson v.canonical).toOption

/-- The message in the document of a refusal: a summary, with a detail if there is one. -/
def refusalMessage? (v : Json) : Option String := do
  let (msg, detail) ←
    match v with
    | .object members =>
      if namesOnce refusalNames members then
        let d := Dict.ofEntries members
        some ((Dict.value? d "msg").getD .null, (Dict.value? d "detail").getD .null)
      else none
    | .array [] => some (.null, .null)
    | .array [msg] => some (msg, .null)
    | .array [msg, detail] => some (msg, detail)
    | _ => none
  let msg ← (Json.asOptional Json.asText msg).toOption
  let detail ← (Json.asOptional Json.asText detail).toOption
  match msg, detail with
  | some msg, some detail => some (msg ++ ": " ++ detail)
  | some msg, none => some msg
  | none, _ => none

/-- The fault that a refusal reports. -/
def refusal (r : Response) : Fault :=
  let body := Utf8.shown r.body
  let message := (Json.record? refusalNames (Utf8.encode body)).bind refusalMessage?
  .remote r.status
    (message.getD (if body = "" then (reason? r.status).getD "request failed" else body))

/-- **The answer to a call in the response to its request.** -/
def readReply (r : Response) : (c : Call) → Except Fault c.Reply
  | .list _ =>
    if !isSuccess r.status then .error (refusal r)
    else
      match (Json.records? endpointNames r.body).bind (List.mapM readEndpoint) with
      | some endpoints => .ok endpoints
      | none => .error (.transmission .unreadable)
  | .create _ _ _ | .update _ _ _ =>
    if !isSuccess r.status then .error (refusal r)
    else
      match (Json.record? endpointNames r.body).bind readEndpoint with
      | some e => .ok e
      | none => .error (.transmission .unreadable)
  | .delete _ _ => if isSuccess r.status then .ok () else .error (refusal r)

/-- **The client as an interface**, over a transport. -/
def Client.remote {σ : Type} (client : Client) (transport : Transport σ) : Remote σ :=
  ⟨fun c s =>
    let request := client.request c
    if !isHeaderValue client.key || !isReachable request.url then
      (.error (.transmission .unbuildable), s)
    else
      match transport request s with
      | (none, s) => (.error (.transmission .unanswered), s)
      | (some r, s) => (readReply r c, s)⟩

end Http

end LoggingProvider
