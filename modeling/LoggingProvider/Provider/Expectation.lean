import LoggingProvider.Diagnostic
import LoggingProvider.Provider.Change
import LoggingProvider.Text.Quoted

/-!
# Expectations

What is expected of a plan or of findings. An expectation that does not hold is reported with what
was found instead.

## Main definitions

* `PlanExpectation`: expectations of plans
* `PlanExpectation.check`: whether a plan is as expected
* `FindingsExpectation`: expectations of findings
* `FindingsExpectation.check`: whether findings are as expected
-/

namespace LoggingProvider

/-- **What is expected of a plan.** -/
inductive PlanExpectation where
  /-- It has changes and replaces nothing. -/
  | creates
  | noChanges
  | hasChanges
  | replaces
  | updatesInPlace
  /-- It changes the value at a path. -/
  | changesAt (path : String)
  /-- It does not change the value at a path. -/
  | keepsAt (path : String)

/-- Whether an expectation holds, and else what is reported. -/
def expect (holds : Bool) (report : String) : Except String Unit :=
  if holds then .ok () else .error report

/-- The paths that a plan changes. -/
def Plan.paths (p : Plan) : List String :=
  p.changes.map Change.path

/-- **Whether a plan is as expected.** -/
def PlanExpectation.check (p : Plan) : PlanExpectation → Except String Unit
  | .creates => do
    expect (!p.changes.isEmpty) "Expected plan to have changes for create, but got no changes"
    expect (!p.replaces) "Expected plan to create, not replace"
  | .noChanges =>
    expect p.changes.isEmpty
      ("Expected no changes, but got " ++ toString p.changes.length ++ " change(s): "
        ++ Text.quotedList p.paths)
  | .hasChanges =>
    expect (!p.changes.isEmpty) "Expected plan to have changes, but got no changes"
  | .replaces =>
    expect p.replaces "Expected plan to require replacement, but it does not"
  | .updatesInPlace =>
    expect (!p.replaces) "Expected plan to update in place, but it requires replacement"
  | .changesAt path =>
    expect (path ∈ p.paths)
      ("Expected plan to change attribute '" ++ path
        ++ "', but it was not changed. Changed attributes: " ++ Text.quotedList p.paths)
  | .keepsAt path =>
    expect (path ∉ p.paths)
      ("Expected plan to not change attribute '" ++ path ++ "', but it was changed")

/-- **What is expected of findings.** -/
inductive FindingsExpectation where
  | noErrors
  | hasErrors
  /-- The summary of an error has a part. -/
  | errorContains (part : String)

/-- Whether a text has a part. -/
def Text.hasPart (part : List Char) : List Char → Bool
  | [] => part.isEmpty
  | c :: rest => part.isPrefixOf (c :: rest) || hasPart part rest

/-- The summaries of the errors among findings. -/
def errorSummaries (findings : List Diagnostic) : List String :=
  (findings.filter Diagnostic.isError).map Diagnostic.summary

/-- **Whether findings are as expected.** -/
def FindingsExpectation.check (findings : List Diagnostic) :
    FindingsExpectation → Except String Unit
  | .noErrors =>
    expect (errorSummaries findings).isEmpty
      ("Expected no errors, but got " ++ toString (errorSummaries findings).length
        ++ " error(s): " ++ Text.quotedList (errorSummaries findings))
  | .hasErrors =>
    expect (!(errorSummaries findings).isEmpty) "Expected at least one error, but got none"
  | .errorContains part =>
    expect ((errorSummaries findings).any fun s => Text.hasPart part.toList s.toList)
      ("Expected an error containing '" ++ part ++ "', but no matching error found. Errors: "
        ++ Text.quotedList (errorSummaries findings))

end LoggingProvider
