import ApiCall.Assembly
import ApiCall.Attempt

/-!
Calls of operations: a request is assembled once, sent until a reply stands, and the value of a
successful response is decoded.
-/

namespace ApiCall

/-- How many characters of a body are shown in the log. -/
def previewLength : Nat := 256

/-- The start of a body, with dots where it is cut. -/
def bodyPreview (body : Bytes) : String :=
  let text := Utf8.decodeLossy body
  if text.length ≤ previewLength then String.ofList text
  else String.ofList (text.take previewLength ++ "...".toList)

/-- The event of a call that ends with a status which is no success. -/
def failedEvent (e : Error) (body : Bytes) : LogEvent :=
  ⟨.warn, "operation failed", [("error", e.message), ("body", bodyPreview body)]⟩

/-- Assembles the request of an operation and goes on with it. -/
def Assembler.andThen {σ α : Type} (a : Assembler) (op : Operation) (arguments : Arguments)
    (state : σ) (next : Request → Outcome σ α) : Outcome σ α :=
  let actions := (a.events op arguments).map Action.log
  match a.assemble op arguments with
  | .ok r => (next r).after actions
  | .error e => ⟨.error e, state, actions⟩

/-- An assembler and the transport of its requests. -/
structure Executor (σ : Type) where
  assembler : Assembler
  transport : Transport σ

namespace Executor

variable {σ : Type}

/-- The successful response of a request. -/
def receive (e : Executor σ) (state : σ) (r : Request) : Outcome σ Response :=
  let outcome := e.transport.send .full r state
  match outcome.result with
  | .error _ => outcome
  | .ok response =>
    let received := Action.log (receivedEvent response)
    match response.ensureSuccess with
    | .ok response => { outcome with result := .ok response, trace := outcome.trace ++ [received] }
    | .error error =>
      { outcome with
        result := .error error
        trace := outcome.trace ++ [received, .log (failedEvent error response.body)] }

/-- Calls an operation, with its successful response as the result. -/
def executeRaw (e : Executor σ) (op : Operation) (arguments : Arguments) (state : σ) :
    Outcome σ Response :=
  e.assembler.andThen op arguments state (e.receive state)

/-- Calls an operation, with the value of its successful response as the result. -/
def execute (e : Executor σ) (op : Operation) (arguments : Arguments) (state : σ) :
    Outcome σ Json.Value :=
  let outcome := e.executeRaw op arguments state
  { outcome with result := do (← outcome.result).decode }

end Executor

end ApiCall
