import ApiCall.Execution

/-!
Calls in flight. Any number of calls may be under way on one executor and its clones, and their
attempts, replies and waits may come in any order. Every handle of the service carries a retry
state. A call starts from a copy of the one in its handle, and only its own replies change the copy.
-/

namespace ApiCall

/-- What the calls of one executor and its clones have in common. -/
structure Endpoint where
  registry : Registry := {}
  settings : Settings := {}
  /-- The boundary of multipart forms; `none` takes one from the moment of each call. -/
  boundary : Option String := none
  deriving Repr

/-- The assembler as it works at a moment, which is given in nanoseconds. -/
def Endpoint.assembler (e : Endpoint) (moment : Nat) : Assembler where
  registry := e.registry
  settings := e.settings
  boundary := e.boundary.getD (Form.boundaryAt moment)

/-- What is asked of an executor. -/
inductive Demand where
  | send (request : Request)
  | executeRaw (op : Operation) (arguments : Arguments)
  | execute (op : Operation) (arguments : Arguments)

/-- What a call that went well returns. -/
inductive Answer where
  | response (response : Response)
  | value (value : Json.Value)
  deriving Repr

/-- A successful reply is kept and another one becomes an error, with the events of either. -/
def Reply.settle : Reply → Reply × List LogEvent
  | .error e => (.error e, [])
  | .ok response =>
    match response.ensureSuccess with
    | .ok kept => (.ok kept, [receivedEvent response])
    | .error e => (.error e, [receivedEvent response, failedEvent e response.body])

namespace Demand

/-- The request to send. -/
def request (a : Assembler) : Demand → Except Error Request
  | .send r => .ok r
  | .executeRaw op arguments | .execute op arguments => a.assemble op arguments

/-- The events before the first attempt. -/
def events (a : Assembler) : Demand → List LogEvent
  | .send _ => []
  | .executeRaw op arguments | .execute op arguments => a.events op arguments

/-- What is returned for the reply that stands, and the events after the last attempt. -/
def conclude (reply : Reply) : Demand → Except Error Answer × List LogEvent
  | .send _ => (.response <$> reply, [])
  | .executeRaw .. => (.response <$> reply.settle.1, reply.settle.2)
  | .execute .. => (.value <$> (reply.settle.1 >>= Response.decode), reply.settle.2)

end Demand

/-- Where a call stands. -/
inductive Phase where
  /-- An attempt is due. -/
  | ready (request : Request)
  /-- An attempt was made. -/
  | awaiting (request : Request)
  /-- Another attempt was granted, after a wait. -/
  | waiting (request : Request)
  | done (result : Except Error Answer)

structure Call where
  /-- When it was started. -/
  moment : Nat
  demand : Demand
  /-- Its own copy of the retry state. -/
  retry : RetryState
  phase : Phase
  received : List Reply := []
  trace : List Action

/-- What may happen to a call. -/
inductive CallStep where
  | attempt
  | reply (reply : Reply)
  | wake

namespace Call

/-- What the call returned, once it is done. -/
def result? (c : Call) : Option (Except Error Answer) :=
  match c.phase with
  | .done result => some result
  | _ => none

/-- A call that starts from a copy of a retry state. -/
def start (e : Endpoint) (moment : Nat) (retry : RetryState) (demand : Demand) : Call where
  moment
  demand
  retry
  phase :=
    match demand.request (e.assembler moment) with
    | .ok r => .ready r
    | .error error => .done (.error error)
  trace := (demand.events (e.assembler moment)).map .log

/-- The call after a reply to its request, which stands unless another attempt is granted. -/
def receive (c : Call) (r : Request) (reply : Reply) : Call :=
  match c.retry.next r.retry reply with
  | (retry, none) =>
    { c with
      retry
      phase := .done (c.demand.conclude reply).1
      received := c.received ++ [reply]
      trace := c.trace ++ .log (replyEvent reply) :: (c.demand.conclude reply).2.map .log }
  | (retry, some reason) =>
    { c with
      retry
      phase := .waiting r
      received := c.received ++ [reply]
      trace := c.trace ++
        [.log (replyEvent reply), .log (retry.event r.retry reason), .wait r.retry.delay] }

/-- The call after a step, if the step can happen to it. -/
def next? (c : Call) (step : CallStep) : Option Call :=
  match step, c.phase with
  | .attempt, .ready r =>
    some { c with
      phase := .awaiting r
      trace := c.trace ++ [.log (Announcement.full.event r), .send r] }
  | .reply reply, .awaiting r => some (c.receive r reply)
  | .wake, .waiting r => some { c with phase := .ready r }
  | _, _ => none

end Call

/-- The executor with its clones, and the calls that were started on them. -/
structure System where
  /-- The retry state in the service of each handle: the executor's first, then those of clones. -/
  services : List RetryState := [{}]
  calls : List Call := []

inductive SystemStep where
  /-- The handle is cloned. -/
  | clone (handle : Nat)
  /-- A call is started on the handle. -/
  | start (handle moment : Nat) (demand : Demand)
  /-- Something happens to one of the calls. -/
  | call (index : Nat) (step : CallStep)

namespace System

/-- The system after a step, if the step can happen in it. -/
def next? (e : Endpoint) (s : System) : SystemStep → Option System
  | .clone handle => do
    return { s with services := s.services ++ [← s.services[handle]?] }
  | .start handle moment demand => do
    return { s with calls := s.calls ++ [.start e moment (← s.services[handle]?) demand] }
  | .call index step => do
    let c ← s.calls[index]?
    return { s with calls := s.calls.set index (← c.next? step) }

/-- A new executor after some steps, if they can happen in this order. -/
def run (e : Endpoint) (steps : List SystemStep) : Option System :=
  steps.foldlM (next? e) {}

end System

end ApiCall
