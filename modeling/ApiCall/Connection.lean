import ApiCall.Duration

/-!
Settings of the connections that all requests share.
-/

namespace ApiCall

structure ConnectionSettings where
  /-- The time to establish a connection. -/
  connectTimeout : Duration := .ofSeconds 10
  /-- How many idle connections to one host are kept. -/
  idlePerHost : Nat := 32
  /-- How long an idle connection is kept. -/
  idleTimeout : Duration := .ofSeconds 90
  /-- Connections without encryption are allowed. -/
  allowPlain : Bool := true
  deriving DecidableEq, Repr, Inhabited

end ApiCall
