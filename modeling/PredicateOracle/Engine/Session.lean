import PredicateOracle.Engine.Client
import PredicateOracle.Random.Draw

/-!
# PredicateOracle.Engine.Session -- steps on an engine and a stream

Checks and workloads are sequences of steps that draw from a stream and make requests to an engine.
`Session ε σ` is the monad of such steps, with errors of type `ε` and engine states of type `σ`.
A sequence ends at the first error or fault, and whatever it did before stays done: the world that
is left is part of the outcome in either case.
-/

namespace PredicateOracle

open PredicateOracle.Random (Stream)

/-- What steps act on: an engine and a stream. -/
structure World (σ : Type) where
  engine : σ
  stream : Stream

/-- What ends a sequence of steps: a fault of its own or an error. -/
inductive Halt (ε : Type) where
  | fault (fault : Fault)
  | raised (error : ε)
  deriving DecidableEq, Repr

/-- Steps with errors `ε` on engines with states `σ`. -/
abbrev Session (ε σ : Type) := ExceptT (Halt ε) (StateM (World σ))

namespace Session

variable {ε σ α : Type}

/-- The outcome of steps in a world, and the world that is left. -/
def runOn (t : Session ε σ α) (w : World σ) : Except (Halt ε) α × World σ :=
  Id.run (StateT.run (ExceptT.run t) w)

/-- Ends the sequence with an error. -/
def raise (e : ε) : Session ε σ α := throw (.raised e)

/-- Draws from the stream. -/
def draw (g : Gen α) : Session ε σ α :=
  ExceptT.mk fun w =>
    match g.runOn w.stream with
    | (.ok a, s) => (.ok a, { w with stream := s })
    | (.error f, s) => (.error (.fault f), { w with stream := s })

/-- Makes a request and looks at the answer. -/
def request (r : StateM σ (Answer α)) : Session ε σ (Answer α) :=
  ExceptT.mk fun w =>
    match Id.run (r.run w.engine) with
    | (a, e) => (.ok a, { w with engine := e })

/-- Makes a request; a refusal is turned into an error. -/
def ask (r : StateM σ (Answer α)) (refused : EngineError → ε) : Session ε σ α := do
  match ← request r with
  | .ok a => return a
  | .error e => raise (refused e)

end Session
end PredicateOracle
