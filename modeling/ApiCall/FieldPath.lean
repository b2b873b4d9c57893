import ApiCall.Error
import ApiCall.Json.Value

/-!
Where a value stands inside the arguments: the argument's name and the steps from there.
-/

namespace ApiCall

/-- A step into an object or an array. -/
inductive PathStep where
  | field (name : String)
  | index (i : Nat)
  deriving DecidableEq, Repr

def PathStep.text : PathStep → String
  | .field name => name
  | .index i => String.ofList (Decimal.ofNat i)

structure FieldPath where
  root : String
  steps : List PathStep := []
  deriving DecidableEq, Repr

namespace FieldPath

def field (p : FieldPath) (name : String) : FieldPath :=
  { p with steps := p.steps ++ [.field name] }

def index (p : FieldPath) (i : Nat) : FieldPath :=
  { p with steps := p.steps ++ [.index i] }

/-- The root and the steps with dots between them. -/
def text (p : FieldPath) : String :=
  ".".intercalate (p.root :: p.steps.map PathStep.text)

end FieldPath

namespace Error

def missingAt (path : FieldPath) : Error :=
  .valueMissing path.text

def mismatchAt (path : FieldPath) (expected : String) (value : Json.Value) : Error :=
  .wrongKind path.text expected value.kind

def bodyEncodingAt (path : FieldPath) (message : String) : Error :=
  .bodyEncoding path.text message

end Error

end ApiCall
