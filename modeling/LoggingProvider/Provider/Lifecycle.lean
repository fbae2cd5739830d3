import LoggingProvider.Provider.Plugin

/-!
# Lifecycles

A host takes a resource through its life in fixed sequences: it plans, carries the plan out, and
reads back what it finds. A finding that is an error ends an operation that checks.

## Main definitions

* `Plugin.planCreate`, `Plugin.planUpdate`, `Plugin.planDelete`: the three kinds of plan
* `Plugin.lifecycleCreate`, `Plugin.lifecycleUpdate`, `Plugin.lifecycleDelete`,
  `Plugin.lifecycleCrud`: the sequences
* `CheckFault`: why an operation that checks fails
* `Plugin.check`: an operation that fails when a finding is an error
-/

namespace LoggingProvider

namespace Plugin

variable {σ : Type}

/-- The plan for a resource that does not exist yet. -/
def planCreate (p : Plugin σ) (type : String) (proposed : Json) : Action σ Plan :=
  p.plan type none proposed proposed

/-- The plan for a resource that exists. -/
def planUpdate (p : Plugin σ) (type : String) (prior proposed : Json) : Action σ Plan :=
  p.plan type (some prior) proposed proposed

/-- The plan for the end of a resource. -/
def planDelete (p : Plugin σ) (type : String) (prior : Json) : Action σ Plan :=
  p.plan type (some prior) .null .null

/-- **Plan, create and read.** -/
def lifecycleCreate (p : Plugin σ) (type : String) (config : Json) : Action σ Json := do
  let plan ← p.planCreate type config
  let created ← p.create type plan.state
  p.read type created

/-- **Plan, update and read.** -/
def lifecycleUpdate (p : Plugin σ) (type : String) (prior proposed : Json) : Action σ Json := do
  let plan ← p.planUpdate type prior proposed
  let updated ← p.update type prior plan.state
  p.read type updated

/-- **Plan and delete.** -/
def lifecycleDelete (p : Plugin σ) (type : String) (current : Json) : Action σ Unit := do
  let _ ← p.planDelete type current
  p.delete type current

/-- **Create, update and delete**, with the state before the deletion. -/
def lifecycleCrud (p : Plugin σ) (type : String) (initial changed : Json) : Action σ Json := do
  let created ← p.lifecycleCreate type initial
  let updated ← p.lifecycleUpdate type created changed
  p.lifecycleDelete type updated
  return updated

end Plugin

/-! ## Checks -/

/-- **Why an operation that checks fails.** -/
inductive CheckFault where
  /-- Some findings are errors. -/
  | findings (errors : List Diagnostic)
  /-- The operation itself fails. -/
  | fault (cause : Fault)

/-- The word for a severity in a report. -/
def Severity.word : Severity → String
  | .error => "Error"
  | .warning => "Warning"

/-- A finding as a line of a report. -/
def Diagnostic.line (d : Diagnostic) : String :=
  "  [" ++ d.severity.word ++ "] " ++ d.summary
    ++ (d.detail.map fun s => ": " ++ s).getD ""
    ++ (d.path.map fun s => " (at " ++ s ++ ")").getD "" ++ "\n"

/-- The wording of a failed check. -/
def CheckFault.text : CheckFault → String
  | .findings errors =>
    "Operation failed with " ++ toString errors.length ++ " diagnostic(s):\n"
      ++ String.join (errors.map Diagnostic.line)
  | .fault cause => "Provider error: " ++ cause.text

/-- The outcome of a check on findings. -/
def CheckFault.ofFindings (findings : List Diagnostic) : Except CheckFault Unit :=
  match findings.filter Diagnostic.isError with
  | [] => .ok ()
  | errors => .error (.findings errors)

/-- **An operation that fails when a finding is an error.** -/
def Plugin.check {σ : Type} (act : Action σ (List Diagnostic)) :
    StateM σ (Except CheckFault Unit) :=
  fun s =>
    match act s with
    | (.ok findings, s) => (CheckFault.ofFindings findings, s)
    | (.error fault, s) => (.error (.fault fault), s)

end LoggingProvider
