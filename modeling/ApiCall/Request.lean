import ApiCall.Body
import ApiCall.QueryString
import ApiCall.Settings
import ApiCall.Url.Basic

/-!
Requests that are ready to send. The query of the parameters is kept apart from the URL, since its
escaping is its own.
-/

namespace ApiCall

structure Request where
  method : Method
  url : Url
  /-- The query of the parameters. -/
  query : QueryString := {}
  headers : Headers := {}
  body : Option Payload := none
  /-- The time that one attempt may take. -/
  timeout : Duration := defaultTimeout
  retry : RetryPolicy := .standard
  deriving DecidableEq, Repr

namespace Request

/-- The bytes of the body, none without a body. -/
def bodyBytes (r : Request) : Bytes :=
  match r.body with
  | some payload => payload.bytes
  | none => []

/-- The URL with the query of the parameters, if there is one, in place of its own. -/
def fullUrl (r : Request) : Url :=
  if r.query.isEmpty then r.url else r.url.setQuery r.query.text

end Request

end ApiCall
