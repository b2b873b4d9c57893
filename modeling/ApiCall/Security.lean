import ApiCall.Assoc
import ApiCall.Text.Base64

/-!
Credentials and where they go. An operation lists requirements; the first scheme in them that is
declared, has a credential that is not empty and suits that credential is honoured, and no other.
-/

namespace ApiCall

/-- Where an API key is sent. -/
inductive KeyLocation where
  | header
  | query
  | cookie
  deriving DecidableEq, Repr

def KeyLocation.name : KeyLocation → String
  | .header => "header"
  | .query => "query"
  | .cookie => "cookie"

/-- How a credential is written into an authorization header. -/
inductive HttpScheme where
  | bearer
  | basic
  deriving DecidableEq, Repr

def HttpScheme.name : HttpScheme → String
  | .bearer => "bearer"
  | .basic => "basic"

/-- A declared security scheme. -/
inductive SecurityScheme where
  | apiKey (name : String) (location : KeyLocation)
  /-- An authorization header, under another name if one is given. -/
  | http (scheme : HttpScheme) (header : Option String)
  | oauth2
  | openIdConnect
  deriving DecidableEq, Repr

inductive Credential where
  | token (text : String)
  | basic (username password : String)
  deriving DecidableEq, Repr

/-- Nothing was configured: no token, or no user name. -/
def Credential.isEmpty : Credential → Bool
  | .token text => text.isEmpty
  | .basic username _ => username.isEmpty

/-- A requirement: scheme names with their scopes, in declaration order. -/
structure Requirement where
  schemes : List (String × List String) := []
  deriving DecidableEq, Repr, Inhabited

/-- The names of a requirement's schemes. -/
def Requirement.names (r : Requirement) : List String :=
  r.schemes.map Prod.fst

/-- Adds a scheme without scopes. -/
def Requirement.and (r : Requirement) (name : String) : Requirement :=
  ⟨Assoc.insert name [] r.schemes⟩

/-- Where a credential lands in a request. -/
inductive Injection where
  | header (name value : String)
  | query (name value : String)
  | cookie (name value : String)
  deriving DecidableEq, Repr

private def authorization (header : Option String) (value : String) : Injection :=
  .header (header.getD "Authorization") value

/-- The text that carries a credential of the basic scheme. -/
def Credential.basicText : Credential → String
  | .token text => text
  | .basic username password =>
    String.ofList (Base64.encode (bytesOf (username ++ ":" ++ password)))

/-- The injection of a credential, if its kind suits the scheme. -/
def SecurityScheme.injection : SecurityScheme → Credential → Option Injection
  | .apiKey name .header, .token text => some (.header name text)
  | .apiKey name .query, .token text => some (.query name text)
  | .apiKey name .cookie, .token text => some (.cookie name text)
  | .http .bearer header, .token text => some (authorization header ("Bearer " ++ text))
  | .http .basic header, credential =>
    some (authorization header ("Basic " ++ credential.basicText))
  | .oauth2, .token text => some (authorization none ("Bearer " ++ text))
  | .openIdConnect, .token text => some (authorization none ("Bearer " ++ text))
  | _, _ => none

/-- The injection of the scheme of one name, if it is declared, configured and suited. -/
def injectionOf (schemes : List (String × SecurityScheme))
    (credentials : List (String × Credential)) (name : String) : Option Injection := do
  let scheme ← schemes.lookup name
  let credential ← credentials.lookup name
  if credential.isEmpty then none else scheme.injection credential

/-- The first scheme in requirement order that has an injection, with that injection. -/
def chooseInjection (requirements : List Requirement) (schemes : List (String × SecurityScheme))
    (credentials : List (String × Credential)) : Option (String × Injection) :=
  (requirements.flatMap Requirement.names).findSome? fun name =>
    (injectionOf schemes credentials name).map fun injection => (name, injection)

end ApiCall
