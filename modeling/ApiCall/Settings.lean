import ApiCall.Retry
import ApiCall.Security

/-!
Settings of one server: where it is, what every request carries, and the defaults of requests.
-/

namespace ApiCall

/-- The timeout of requests for which none is set. -/
def defaultTimeout : Duration := .ofSeconds 30

/-- The last level of defaults. -/
structure GlobalDefaults where
  timeout : Duration := defaultTimeout
  retry : RetryPolicy := .standard
  deriving DecidableEq, Repr, Inhabited

structure Settings where
  baseUrl : String := ""
  /-- Headers of every request. -/
  headers : List (String × String) := []
  securitySchemes : List (String × SecurityScheme) := []
  /-- Credentials by the name of their scheme. -/
  credentials : List (String × Credential) := []
  /-- Requirements of operations that declare none. -/
  security : List Requirement := []
  timeout : Option Duration := none
  retry : Option RetryPolicy := none
  global : GlobalDefaults := {}
  deriving DecidableEq, Repr, Inhabited

namespace Settings

/-- The first timeout that is set and not zero: the operation's, the server's, the global one. -/
def resolveTimeout (s : Settings) (operation : Option Duration) : Duration :=
  (([operation, s.timeout, some s.global.timeout].filterMap id).find? (!·.isZero)).getD
    defaultTimeout

/-- The retry policy, field by field: the operation's, the server's, the global one. -/
def resolveRetry (s : Settings) (operation : Option RetryPolicy) : RetryPolicy :=
  (operation.getD {}).or ((s.retry.getD {}).or s.global.retry)

def withHeader (s : Settings) (name value : String) : Settings :=
  { s with headers := Assoc.insert name value s.headers }

def withSecurityScheme (s : Settings) (name : String) (scheme : SecurityScheme) : Settings :=
  { s with securitySchemes := Assoc.insert name scheme s.securitySchemes }

def withCredential (s : Settings) (name : String) (credential : Credential) : Settings :=
  { s with credentials := Assoc.insert name credential s.credentials }

def withRequirement (s : Settings) (requirement : Requirement) : Settings :=
  { s with security := s.security ++ [requirement] }

end Settings

end ApiCall
