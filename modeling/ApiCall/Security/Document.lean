import ApiCall.Json.Decoder
import ApiCall.Security

/-!
Security schemes, credentials and requirements as JSON documents.
-/

namespace ApiCall

open Json Json.Decoder

def KeyLocation.decoder : Decoder KeyLocation :=
  enumeration ([.header, .query, .cookie].map fun l : KeyLocation => (l.name, l))

def HttpScheme.decoder : Decoder HttpScheme :=
  enumeration ([.bearer, .basic].map fun s : HttpScheme => (s.name, s))

/-- The parts of an API key scheme while it is read. -/
private structure KeyParts where
  name : String := ""
  location : KeyLocation := .header

/-- The parts of an HTTP scheme while it is read. -/
private structure HttpParts where
  scheme : HttpScheme := .bearer
  header : Option String := none

private def apiKeyOf (v : Value) : Except Reason SecurityScheme := do
  let parts ← ofFields "struct variant SecurityScheme::ApiKey" ({} : KeyParts)
    [required "name" string fun name k => { k with name },
     required "in" KeyLocation.decoder fun location k => { k with location }] v
  return .apiKey parts.name parts.location

private def httpOf (v : Value) : Except Reason SecurityScheme := do
  let parts ← ofFields "struct variant SecurityScheme::Http" ({} : HttpParts)
    [required "scheme" HttpScheme.decoder fun scheme h => { h with scheme },
     optional "header" (option string) fun header h => { h with header }] v
  return .http parts.scheme parts.header

def SecurityScheme.decoder : Decoder SecurityScheme :=
  tagged "type" "internally tagged enum SecurityScheme"
    [("apiKey", apiKeyOf), ("http", httpOf), ("oauth2", noContent .oauth2),
     ("openIdConnect", noContent .openIdConnect)]

private def credentialOf : Value → Except Reason Credential
  | .string token => .ok (.token token)
  | v =>
    match ofFields "struct variant Credential::Basic" ("", "")
      [required "username" string fun username (_, password) => (username, password),
       optional "password" string fun password (username, _) => (username, password)] v with
    | .ok (username, password) => .ok (.basic username password)
    | .error _ => .error (.refused "data did not match any variant of untagged enum Credential")

/-- A token is a string; a user name and a password are members or items. -/
def Credential.decoder : Decoder Credential :=
  whole credentialOf

def Requirement.decoder : Decoder Requirement :=
  (dict (list string)).map Requirement.mk

end ApiCall
