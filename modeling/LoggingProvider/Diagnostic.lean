import LoggingProvider.Json.Decode

/-!
# Diagnostics

A diagnostic is a finding about a configuration or a state: an error or a warning, with a summary,
and with a detail and the path of the attribute where it was found if there are such.

## Main definitions

* `Severity`: error or warning
* `Diagnostic`: a finding
* `Diagnostic.toJson`, `Diagnostic.ofJson`: its document
-/

namespace LoggingProvider

/-- How severe a finding is. -/
inductive Severity where
  | error
  | warning
deriving DecidableEq

/-- The name of a severity. -/
def Severity.name : Severity → String
  | .error => "error"
  | .warning => "warning"

/-- A severity from its document. -/
def Severity.ofJson (v : Json) : Except Json.DecodeFault Severity :=
  (Json.asVariant false ["error", "warning"] v).map fun s =>
    if s = "error" then .error else .warning

/-- **A finding about a configuration or a state.** -/
structure Diagnostic where
  /-- How severe it is. -/
  severity : Severity
  /-- What was found. -/
  summary : String
  /-- More about it. -/
  detail : Option String
  /-- The path of the attribute where it was found. -/
  path : Option String
deriving DecidableEq

namespace Diagnostic

/-- An error with a summary. -/
def error (summary : String) : Diagnostic := ⟨.error, summary, none, none⟩

/-- A warning with a summary. -/
def warning (summary : String) : Diagnostic := ⟨.warning, summary, none, none⟩

/-- The finding with a detail. -/
def withDetail (d : Diagnostic) (detail : String) : Diagnostic := { d with detail := some detail }

/-- The finding at a path. -/
def withPath (d : Diagnostic) (path : String) : Diagnostic := { d with path := some path }

/-- Whether the finding is an error. -/
def isError (d : Diagnostic) : Bool := d.severity = .error

/-- The members for an optional text. -/
def textMember (name : String) : Option String → List (String × Json)
  | none => []
  | some s => [(name, .string s)]

/-- The document of a finding. -/
def toJson (d : Diagnostic) : Json :=
  .object
    (textMember "attribute" d.path ++ textMember "detail" d.detail
      ++ [("severity", .string d.severity.name), ("summary", .string d.summary)])

/-- One member of a finding's document. -/
def checkMember (name : String) (v : Json) : Except Json.DecodeFault Unit :=
  match name with
  | "severity" => (Severity.ofJson v).map fun _ => ()
  | "summary" => v.asText.map fun _ => ()
  | "detail" => (Json.asOptional Json.asText v).map fun _ => ()
  | "attribute" => (Json.asOptional Json.asText v).map fun _ => ()
  | _ => .ok ()

/-- A finding from its document. -/
def ofJson : Json → Except Json.DecodeFault Diagnostic
  | .object members => do
    Json.checkMembers members checkMember
    let severity ← Json.required members "severity" Severity.ofJson
    let summary ← Json.required members "summary" Json.asText
    let detail ← Json.optional members "detail" none (Json.asOptional Json.asText)
    let path ← Json.optional members "attribute" none (Json.asOptional Json.asText)
    return ⟨severity, summary, detail, path⟩
  | .array items => do
    let severity ← Json.fieldAt "Diagnostic" 4 items 0 Severity.ofJson
    let summary ← Json.fieldAt "Diagnostic" 4 items 1 Json.asText
    let detail ← Json.fieldAt "Diagnostic" 4 items 2 (Json.asOptional Json.asText)
    let path ← Json.fieldAt "Diagnostic" 4 items 3 (Json.asOptional Json.asText)
    Json.noneAfter 4 items
    return ⟨severity, summary, detail, path⟩
  | v => .error (.wrongKind v "struct Diagnostic")

end Diagnostic

end LoggingProvider
