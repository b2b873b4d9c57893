import ApiCall.Directive
import ApiCall.Json.Fault
import ApiCall.Text.Utf8
import ApiCall.Url.Fault

/-!
What can go wrong from the arguments of a call to its result. Errors about a value carry the dotted
path of that value.
-/

namespace ApiCall

inductive Error where
  /-- A value that may not be absent is absent. -/
  | valueMissing (path : String)
  /-- A value of another kind than its schema says. -/
  | wrongKind (path expected actual : String)
  /-- A string outside the allowed set. -/
  | notAllowed (path value : String) (allowed : List String)
  | unsupportedContentType (contentType : String)
  | unsupportedLocation (path : String) (location : Location)
  /-- A parameter that has no form in its location. -/
  | unsupportedParameter (path message : String)
  | bodyMissing (path : String)
  | bodyEncoding (path message : String)
  | invalidHeader (name message : String)
  | invalidUrl (fault : UrlFault)
  /-- A document that cannot be read, with the way to the place. -/
  | document (path message : String)
  /-- A response whose status is no success. -/
  | http (status : Nat) (message : String) (body : Option Bytes)
  | connection (message : String)
  | tls (message : String)
  | timeout
  deriving DecidableEq, Repr

namespace Error

def message : Error → String
  | .valueMissing path => s!"{path}: value is required"
  | .wrongKind path expected actual => s!"{path}: expected {expected}, got {actual}"
  | .notAllowed path value allowed =>
    s!"{path}: invalid enum value {Quoted.quote value}, expected one of {Quoted.quoteList allowed}"
  | .unsupportedContentType contentType => s!"unsupported content type: {contentType}"
  | .unsupportedLocation path location =>
    s!"{path}: unsupported parameter location {location.name}"
  | .unsupportedParameter path message => s!"{path}: {message}"
  | .bodyMissing path => s!"{path}: request body is required"
  | .bodyEncoding path message => s!"{path}: failed to encode body: {message}"
  | .invalidHeader name message => s!"invalid header {Quoted.quote name}: {message}"
  | .invalidUrl fault => s!"invalid URL: {fault.message}"
  | .document path message => s!"JSON deserialization error at \x27{path}\x27: {message}"
  | .http status message _ => s!"HTTP error {status}: {message}"
  | .connection message => s!"connection error: {message}"
  | .tls message => s!"TLS error: {message}"
  | .timeout => "request timeout"

def isTimeout : Error → Bool
  | .timeout => true
  | _ => false

def isConnection : Error → Bool
  | .connection _ => true
  | _ => false

/-- The error comes from the arguments or a document, and the same call fails in the same way. -/
def isEncoding : Error → Bool
  | .http .. => false
  | .connection _ => false
  | .tls _ => false
  | .timeout => false
  | _ => true

/-- The status of a response that was no success. -/
def status? : Error → Option Nat
  | .http status _ _ => some status
  | _ => none

/-- The body of a response that was no success. -/
def body? : Error → Option Bytes
  | .http _ _ body => body
  | _ => none

/-- The error of a document fault. -/
def ofFault (f : Json.Fault) : Error :=
  .document f.pathText f.reason.message

end Error

end ApiCall
