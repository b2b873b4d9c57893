import ApiCall.Directive
import ApiCall.Method
import ApiCall.Settings

/-!
Operations: what an API offers under one method and path, with the parameters and the body it takes.
-/

namespace ApiCall

/-- A parameter outside the body. -/
structure Parameter where
  /-- The argument that holds the value. -/
  argumentName : String
  schema : Schema
  directive : Directive
  deriving Repr

/-- A parameter whose argument has its name on the wire. -/
def Parameter.ofDirective (schema : Schema) (directive : Directive) : Parameter :=
  ⟨directive.name, schema, directive⟩

/-- What an operation says about its body. -/
structure BodySpec where
  /-- The argument that holds the body. -/
  argumentName : String := "body"
  contentType : String := "application/json"
  schema : Schema
  /-- How single fields of a form are written. -/
  encoding : List (String × Directive) := []
  deriving Repr

structure Operation where
  name : String
  method : Method
  /-- The template of the path, with names in braces for its parameters. -/
  path : String
  parameters : List Parameter := []
  body : Option BodySpec := none
  /-- Requirements of its own; `none` leaves them to the server. -/
  security : Option (List Requirement) := none
  timeout : Option Duration := none
  retry : Option RetryPolicy := none
  deriving Repr

end ApiCall
