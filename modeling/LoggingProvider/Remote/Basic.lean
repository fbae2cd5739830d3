import LoggingProvider.Endpoint.Request

/-!
# Remote interfaces

A remote interface answers requests about endpoints. Its answers may depend on everything that was
asked before: an interface has states, and each answer comes with the next state. What the provider
does with an interface is an action, which fails at the first fault it does not tolerate.

## Main definitions

* `Call.Reply`: what a request is answered with
* `Remote`: an interface with states
* `Action`: a computation that uses an interface
* `Remote.call`: one request, as an action
* `Remote.traced`: an interface that keeps a list of its requests
-/

namespace LoggingProvider

/-- **What a request is answered with.** -/
@[reducible]
def Call.Reply : Call → Type
  | .list _ => List Endpoint
  | .create _ _ _ => Endpoint
  | .update _ _ _ => Endpoint
  | .delete _ _ => Unit

/-- The service version that a request is addressed to. -/
def Call.target : Call → Target
  | .list target => target
  | .create target _ _ => target
  | .update target _ _ => target
  | .delete target _ => target

/-- The endpoint that a request names. -/
def Call.name? : Call → Option String
  | .list _ => none
  | .create _ name _ => some name
  | .update _ name _ => some name
  | .delete _ name => some name

/-- Whether a request is one for a list, which changes nothing. -/
def Call.isList : Call → Bool
  | .list _ => true
  | _ => false

/-- **An interface with states**: the answer to a request in a state, and the next state. -/
structure Remote (σ : Type) where
  /-- The answer to a request. -/
  answer : (c : Call) → σ → Except Fault c.Reply × σ

/-- **A computation on the states of an interface**, which may fail. -/
abbrev Action (σ α : Type) : Type := ExceptT Fault (StateM σ) α

namespace Action

variable {σ α : Type}

/-- The computation with a known outcome. -/
def ofExcept (r : Except Fault α) : Action σ α := fun s => (r, s)

end Action

namespace Remote

variable {σ α : Type}

/-- One request, as an action. -/
def call (remote : Remote σ) (c : Call) : Action σ c.Reply := fun s => remote.answer c s

/-- One request whose fault may be passed over. -/
def attempt (remote : Remote σ) (tolerated : Fault → Bool) (c : Call) : Action σ Unit := fun s =>
  match remote.answer c s with
  | (.ok _, s) => (.ok (), s)
  | (.error fault, s) => if tolerated fault then (.ok (), s) else (.error fault, s)

/-- **The interface that keeps its requests**, the first one first. -/
def traced (remote : Remote σ) : Remote (σ × List Call) :=
  ⟨fun c s =>
    let (r, next) := remote.answer c s.1
    (r, next, s.2 ++ [c])⟩

/-- The requests that an action makes from a state. -/
def callsOf (remote : Remote σ) (act : Remote (σ × List Call) → Action (σ × List Call) α) (s : σ) :
    List Call :=
  (act remote.traced (s, [])).2.2

end Remote

end LoggingProvider
