import LoggingProvider.Diagnostic
import LoggingProvider.Fault
import LoggingProvider.Schema.Basic
import LoggingProvider.Text.Quoted

/-!
# Provider configuration

The configuration of the provider gives the key for the remote interface, its address and the time
that a request may take. What it does not give comes from the environment or has a default.

## Main definitions

* `Config`: a resolved configuration
* `Config.resolve`: the configuration that a document and the environment give
* `Config.schema`: the schema of the configuration block
* `Config.diagnostics`: the findings about a configuration that cannot be resolved
-/

namespace LoggingProvider

/-- **A resolved configuration.** -/
structure Config where
  /-- The key that is sent with every request. -/
  key : String
  /-- The address of the interface, without a slash at its end. -/
  baseUrl : String
  /-- The time that a request may take, in seconds. -/
  timeout : UInt64
deriving DecidableEq

namespace Config

/-- The variable of the environment that holds the key. -/
def keyVariable : String := "FASTLY_API_KEY"

/-- The variable of the environment that holds the address. -/
def urlVariable : String := "FASTLY_API_URL"

/-- The address of the interface when none is given. -/
def defaultUrl : String := "https://api.fastly.com"

/-- The time that a request may take when none is given. -/
def defaultTimeout : UInt64 := 30

/-- What a document gives. -/
structure Given where
  key : Option String
  baseUrl : Option String
  timeout : Option UInt64

/-- The names of the settings. -/
def settingNames : List String := ["api_key", "base_url", "timeout_seconds"]

/-- One setting of a document. -/
def checkMember (name : String) (v : Json) : Except Json.DecodeFault Unit :=
  if name = "api_key" || name = "base_url" then (Json.asOptional Json.asText v).map fun _ => ()
  else if name = "timeout_seconds" then (Json.asOptional Json.asUInt64 v).map fun _ => ()
  else .error (.unknownField name settingNames)

/-- What a document gives: an object, or the array of all three settings in their order. -/
def Given.ofJson : Json → Except Json.DecodeFault Given
  | .null => .ok ⟨none, none, none⟩
  | .object members => do
    Json.checkMembers members checkMember
    let key ← Json.optional members "api_key" none (Json.asOptional Json.asText)
    let baseUrl ← Json.optional members "base_url" none (Json.asOptional Json.asText)
    let timeout ← Json.optional members "timeout_seconds" none (Json.asOptional Json.asUInt64)
    return ⟨key, baseUrl, timeout⟩
  | .array items => do
    let key ← Json.fieldAt "RawConfig" 3 items 0 (Json.asOptional Json.asText)
    let baseUrl ← Json.fieldAt "RawConfig" 3 items 1 (Json.asOptional Json.asText)
    let timeout ← Json.fieldAt "RawConfig" 3 items 2 (Json.asOptional Json.asUInt64)
    Json.noneAfter 3 items
    return ⟨key, baseUrl, timeout⟩
  | v => .error (.wrongKind v "struct RawConfig")

/-- A text that is not empty. -/
def nonempty (s : Option String) : Option String :=
  s.filter fun t => t ≠ ""

/-- Whether a text starts like an address of the web. -/
def isWebUrl (s : String) : Bool :=
  "http://".toList.isPrefixOf s.toList || "https://".toList.isPrefixOf s.toList

/-- The text without slashes at its end. -/
def dropSlashes (s : String) : String :=
  String.ofList (s.toList.reverse.dropWhile (· = '/')).reverse

/-- The key that counts: the one given, or else the one of the environment. -/
def chooseKey (given environment : Option String) : Option String :=
  (nonempty given).or (nonempty environment)

/-- The address that counts: the one given or else the one of the environment, unless it is
empty. -/
def chooseUrl (given environment : Option String) : String :=
  (nonempty (given.or environment)).getD defaultUrl

/-- **The configuration that a document and the environment give.** -/
def resolve (v : Json) (environment : String → Option String) : Except Fault Config := do
  let given ← (Given.ofJson v).mapError fun fault => .configuration fault.message
  let some key := chooseKey given.key (environment keyVariable)
    | throw (.configuration ("no API key configured; set api_key or " ++ keyVariable))
  let baseUrl := chooseUrl given.baseUrl (environment urlVariable)
  if !isWebUrl baseUrl then
    throw (.configuration ("base_url must be an http(s) URL, got " ++ baseUrl))
  let timeout := given.timeout.getD defaultTimeout
  if timeout = 0 then throw (.configuration "timeout_seconds must be greater than zero")
  return ⟨key, dropSlashes baseUrl, timeout⟩

/-- The text of a configuration, which does not show the key. -/
def text (c : Config) : String :=
  "ProviderConfig \x7b api_key: \"<redacted>\", base_url: " ++ Text.quoted c.baseUrl
    ++ ", timeout: " ++ toString c.timeout.toNat ++ "s \x7d"

/-- **The schema of the configuration block.** -/
def schema : Schema :=
  let key := Attribute.optionalString.hidden.withDescription
    ("Fastly API key. Falls back to the " ++ keyVariable ++ " environment variable")
  let baseUrl := Attribute.optionalString.withDescription
    ("Fastly API URL. Falls back to " ++ urlVariable ++ ", then " ++ defaultUrl)
  let timeout := (Attribute.optionalInt64.withDefault (.ofUInt64 defaultTimeout)).withDescription
    "Timeout for each Fastly API request, in seconds"
  (((Schema.empty 0).withAttribute "api_key" key).withAttribute "base_url" baseUrl).withAttribute
    "timeout_seconds" timeout

/-- The findings about a configuration that may not have been resolved. -/
def diagnostics : Except Fault Config → List Diagnostic
  | .ok _ => []
  | .error fault =>
    [(Diagnostic.error "Invalid provider configuration").withDetail fault.message]

end Config

end LoggingProvider
