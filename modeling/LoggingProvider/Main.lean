import LoggingProvider.Provider.Session
import LoggingProvider.Remote.Store
import LoggingProvider.Rpc.Line

/-!
# The provider as a program

The program announces itself and then answers requests, one on each line of its input, against a
store in memory. It ends with its input.

## Main definitions

* `answerLine`: the answer to a line
* `main`: the program
-/

namespace LoggingProvider

/-- The answer to a line and the session after it. -/
def answerLine (p : Plugin (Session Store)) (line : String) (s : Session Store) :
    String × Session Store :=
  match Json.parse line with
  | .error fault => (fault.message, s)
  | .ok v =>
    match Rpc.Request.ofJson v with
    | none => ("unknown request", s)
    | some request =>
      let (response, s) := Rpc.serve p request s
      ((Json.object response.members).compact, s)

/-- Every line of the input is answered, up to its end. -/
partial def serveLines (p : Plugin (Session Store)) (s : Session Store) : IO Unit := do
  let line ← (← IO.getStdin).getLine
  if line.isEmpty then return
  let (answer, s) := answerLine p line s
  let output ← IO.getStdout
  output.putStrLn answer
  output.flush
  serveLines p s

/-- The variables of the environment that the provider looks at. -/
def environment : IO (String → Option String) := do
  let key ← IO.getEnv Config.keyVariable
  let url ← IO.getEnv Config.urlVariable
  return fun name =>
    if name = Config.keyVariable then key else if name = Config.urlVariable then url else none

end LoggingProvider

open LoggingProvider in
/-- The program. -/
def main : IO Unit := do
  let around : Surroundings Store := ⟨← environment, Http.Transport.silent Store⟩
  IO.println (Rpc.handshake "stdio")
  serveLines (Provider.plugin around) ⟨some Store.remote, Store.empty⟩
