import ApiCall.Header
import ApiCall.Json.Decoder
import ApiCall.Status
import ApiCall.Text.Base64

/-!
Responses with a body that has been read to its end, and the values that bodies hold.
-/

namespace ApiCall

open Json

structure Response where
  status : Status
  headers : Headers := {}
  body : Bytes := []
  deriving DecidableEq, Repr

namespace Response

def isSuccess (r : Response) : Bool :=
  r.status.isSuccess

def contentType? (r : Response) : Option String :=
  r.headers.text? "content-type"

/-- The body as text, with a replacement character for each sequence that is not UTF-8. -/
def text (r : Response) : String :=
  String.ofList (Utf8.decodeLossy r.body)

/-- The body as base64. -/
def base64 (r : Response) : String :=
  String.ofList (Base64.encode r.body)

/-- What a decoder reads from the body. -/
def read {α : Type} (r : Response) (decoder : Decoder α) : Except Error α :=
  match decoder.run r.body with
  | .ok a => .ok a
  | .error fault => .error (.ofFault fault)

/-- The value of a body of no declared type: JSON if all of it is JSON, else text if it is UTF-8,
else base64. -/
def sniff (r : Response) : Value :=
  match Json.parse? r.body with
  | some v => v
  | none => .string ((stringOf? r.body).getD r.base64)

/-- The value of the body. An empty body is null, and only a JSON type can be violated. -/
def decode (r : Response) : Except Error Value :=
  if r.body.isEmpty then .ok .null
  else
    match r.contentType? with
    | none => .ok r.sniff
    | some contentType =>
      if MediaType.isJson contentType then r.read Decoder.value
      else if MediaType.isText contentType then .ok (.string r.text)
      else .ok (.string r.base64)

/-- The response itself if it is a success, and an error with its body if not. -/
def ensureSuccess (r : Response) : Except Error Response :=
  if r.isSuccess then .ok r
  else .error (.http r.status.code (r.status.phrase?.getD "unexpected status") (some r.body))

end Response

end ApiCall
