import ApiCall.Log
import ApiCall.Request
import ApiCall.Response

/-!
Attempts at one request. Connection errors, timeouts and the statuses of the request's policy call
for another attempt, as long as the policy grants one. Every attempt sends the same request.
-/

namespace ApiCall

/-- What comes back from one attempt. -/
abbrev Reply := Except Error Response

/-- Why a reply calls for another attempt, if it does. -/
def RetryPolicy.reason? (p : RetryPolicy) : Reply → Option String
  | .ok r => if p.retriesStatus r.status.code then some r.status.text else none
  | .error e => if e.isConnection || e.isTimeout then some e.message else none

/-- What is left of the attempts that a policy grants. -/
structure RetryState where
  /-- Further attempts; `none` until the first reply, which fixes them. -/
  remaining : Option UInt32 := none
  /-- The number of the attempt that is under way. -/
  attempt : UInt32 := 1
  deriving DecidableEq, Repr, Inhabited

namespace RetryState

/-- The further attempts that a policy leaves. -/
def left (s : RetryState) (p : RetryPolicy) : UInt32 :=
  s.remaining.getD p.times

/-- The state after a reply, with the reason when another attempt is granted. -/
def next (s : RetryState) (p : RetryPolicy) (reply : Reply) : RetryState × Option String :=
  if s.left p = 0 then ({ s with remaining := some 0 }, none)
  else
    match p.reason? reply with
    | none => ({ s with remaining := some (s.left p) }, none)
    | some reason => (⟨some (s.left p - 1), s.attempt + 1⟩, some reason)

theorem left_next_lt {s t : RetryState} {p : RetryPolicy} {reply : Reply} {reason : String}
    (h : s.next p reply = (t, some reason)) : (t.left p).toNat < (s.left p).toNat := by
  unfold next at h
  split at h
  · cases h
  · rename_i hleft
    split at h
    · cases h
    · cases h
      have hpos : (s.left p).toNat ≠ 0 := fun h => hleft (UInt32.toNat_inj.1 (by simpa using h))
      have hone : (1 : UInt32) ≤ s.left p := by
        rw [UInt32.le_iff_toNat_le, UInt32.toNat_one]
        omega
      change (s.left p - 1).toNat < (s.left p).toNat
      rw [UInt32.toNat_sub_of_le _ _ hone, UInt32.toNat_one]
      omega

/-- The event of another attempt, with the state that it starts from. -/
def event (s : RetryState) (p : RetryPolicy) (reason : String) : LogEvent :=
  ⟨.warn, "retrying request",
    [("attempt", String.ofList (Decimal.ofNat s.attempt.toNat)),
      ("delay_ms", String.ofList (Decimal.ofNat p.delay.milliseconds)),
      ("reason", reason)]⟩

end RetryState

/-- One thing that happens during a call. -/
inductive Action where
  | send (request : Request)
  | wait (duration : Duration)
  | log (event : LogEvent)
  deriving DecidableEq, Repr

namespace Action

def request? : Action → Option Request
  | .send request => some request
  | _ => none

def wait? : Action → Option Duration
  | .wait duration => some duration
  | _ => none

def event? : Action → Option LogEvent
  | .log event => some event
  | _ => none

end Action

/-- The result of a call, the state of the transport after it, and what happened on the way. -/
structure Outcome (σ α : Type) where
  result : Except Error α
  state : σ
  trace : List Action

namespace Outcome

variable {σ α β : Type}

/-- The same outcome after some earlier actions. -/
def after (o : Outcome σ α) (actions : List Action) : Outcome σ α :=
  { o with trace := actions ++ o.trace }

/-- The requests that were sent. -/
def sent (o : Outcome σ α) : List Request :=
  o.trace.filterMap Action.request?

/-- The waits between them. -/
def waits (o : Outcome σ α) : List Duration :=
  o.trace.filterMap Action.wait?

/-- The events that were logged. -/
def events (o : Outcome σ α) : List LogEvent :=
  o.trace.filterMap Action.event?

end Outcome

/-- A service that answers requests, with a state that each answer may change. -/
structure Transport (σ : Type) where
  call : Request → σ → Reply × σ

/-- The transport that gives the replies of a list, and fails to connect when there is none left. -/
def Transport.scripted : Transport (List Reply) where
  call _ replies :=
    match replies with
    | [] => (.error (.connection "script exhausted"), [])
    | reply :: rest => (reply, rest)

/-- How an attempt is announced: with its timeout, or in short. -/
inductive Announcement where
  | full
  | short
  deriving DecidableEq, Repr

/-- The event before an attempt. -/
def Announcement.event (a : Announcement) (r : Request) : LogEvent :=
  match a with
  | .full =>
    ⟨.debug, "sending request",
      [("timeout_ms", String.ofList (Decimal.ofNat r.timeout.milliseconds))]⟩
  | .short => ⟨.info, "sending request", []⟩

private def statusField (r : Response) : String × String :=
  ("status", String.ofList (Decimal.ofNat r.status.code))

/-- The event after an attempt. -/
def replyEvent : Reply → LogEvent
  | .ok r =>
    if r.isSuccess then ⟨.info, "request completed", [statusField r]⟩
    else ⟨.warn, "request failed with HTTP error", [statusField r]⟩
  | .error e => ⟨.warn, "request failed", [("error", e.message)]⟩

/-- The event of a response that ends a call. -/
def receivedEvent (r : Response) : LogEvent :=
  ⟨.debug, "response received", [statusField r]⟩

namespace Transport

variable {σ : Type}

/-- Sends a request until a reply stands, beginning with a given number of attempts left. -/
def sendFrom (t : Transport σ) (a : Announcement) (r : Request) (s : RetryState) (state : σ) :
    Outcome σ Response :=
  let (reply, state) := t.call r state
  let actions := [.log (a.event r), .send r, .log (replyEvent reply)]
  match _h : s.next r.retry reply with
  | (_, none) => ⟨reply, state, actions⟩
  | (s, some reason) =>
    (sendFrom t a r s state).after
      (actions ++ [.log (s.event r.retry reason), .wait r.retry.delay])
termination_by (s.left r.retry).toNat
decreasing_by exact RetryState.left_next_lt _h

/-- Sends a request until a reply stands. -/
def send (t : Transport σ) (a : Announcement) (r : Request) (state : σ) : Outcome σ Response :=
  t.sendFrom a r {} state

end Transport

end ApiCall
