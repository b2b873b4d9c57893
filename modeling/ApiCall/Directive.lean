import ApiCall.MediaType
import ApiCall.Schema

/-!
Directives: where a parameter or body field is sent and in which style it is written.
-/

namespace ApiCall

/-- Where a value is sent. -/
inductive Location where
  | query
  | header
  | path
  | cookie
  /-- A field of a form body. -/
  | formField
  deriving DecidableEq, Repr

def Location.name : Location → String
  | .query => "query"
  | .header => "header"
  | .path => "path"
  | .cookie => "cookie"
  | .formField => "formField"

/-- How a value with parts is written. -/
inductive Style where
  | form
  | spaceDelimited
  | pipeDelimited
  /-- Keys in brackets, one entry for each value. -/
  | deepObject
  deriving DecidableEq, Repr

def Style.name : Style → String
  | .form => "form"
  | .spaceDelimited => "spaceDelimited"
  | .pipeDelimited => "pipeDelimited"
  | .deepObject => "deepObject"

/-- The character between the values of a parameter that is not exploded. -/
def Style.separator : Style → Char
  | .form => ','
  | .deepObject => ','
  | .spaceDelimited => ' '
  | .pipeDelimited => '|'

/-- A header of a multipart part. Its value is taken from an argument. -/
structure PartHeader where
  argumentName : String
  schema : Schema
  explode : Bool := false
  deriving Repr, Inhabited

/-- How one parameter or body field is written. -/
structure Directive where
  /-- The name on the wire. -/
  name : String
  location : Location := .query
  style : Style := .form
  /-- The declared flag, if there is one. -/
  explode : Option Bool := none
  /-- Reserved characters of the query stand unescaped. -/
  allowReserved : Bool := false
  /-- Content types of a multipart part. -/
  contentTypes : Option (List String) := none
  /-- Headers of a multipart part. -/
  headers : List (String × PartHeader) := []
  deriving Repr

namespace Directive

def withStyle (d : Directive) (style : Style) : Directive :=
  { d with style }

def withExplode (d : Directive) (explode : Bool) : Directive :=
  { d with explode := some explode }

def withAllowReserved (d : Directive) (allowReserved : Bool) : Directive :=
  { d with allowReserved }

/-- Adds a content type after those declared. -/
def withContentType (d : Directive) (contentType : String) : Directive :=
  { d with contentTypes := some (d.contentTypes.getD [] ++ [contentType]) }

def withHeader (d : Directive) (name : String) (header : PartHeader) : Directive :=
  { d with headers := Assoc.insert name header d.headers }

/-- The flag that applies: the declared one, or true for the form style only. -/
def exploded (d : Directive) : Bool :=
  d.explode.getD (d.style == .form)

/-- The first content type declared. -/
def primaryContentType (d : Directive) : Option String :=
  d.contentTypes.bind List.head?

/-- A JSON part is allowed: no content types are declared, or a JSON type is among them. -/
def acceptsJson (d : Directive) : Bool :=
  match d.contentTypes with
  | none => true
  | some types => types.any MediaType.isJson

end Directive

end ApiCall
