import ApiCall.Duration

/-!
Retry policies. A zero count, a zero delay and an empty list of statuses are unset, and the next
policy in line fills them in.
-/

namespace ApiCall

structure RetryPolicy where
  /-- How many attempts may follow the first one. -/
  times : UInt32 := 0
  /-- The wait before each further attempt. -/
  delay : Duration := .zero
  /-- The response statuses after which another attempt is made. -/
  statuses : List Nat := []
  deriving DecidableEq, Repr, Inhabited

namespace RetryPolicy

/-- The policy of last resort: no further attempt, a second of wait, and the usual statuses. -/
def standard : RetryPolicy where
  delay := .ofSeconds 1
  statuses := [429, 500, 502, 503]

/-- Fills every unset field from another policy. -/
def or (p fallback : RetryPolicy) : RetryPolicy where
  times := if p.times = 0 then fallback.times else p.times
  delay := if p.delay.isZero then fallback.delay else p.delay
  statuses := if p.statuses.isEmpty then fallback.statuses else p.statuses

def retriesStatus (p : RetryPolicy) (status : Nat) : Bool :=
  p.statuses.contains status

end RetryPolicy

end ApiCall
