import ApiCall.Assoc

/-!
Schemas: the shape of argument values. Types that a description names are kept in a registry, which
is also how recursive types are written.
-/

namespace ApiCall

/-- How a leaf value is represented. -/
inductive ScalarKind where
  | boolean
  | integer
  | float
  | string
  | date
  | dateTime
  | uuid
  | bytes
  /-- Binary content, as a data URI or base64. -/
  | binary
  /-- A string out of a set. -/
  | choice (allowed : List String)
  /-- Any value, written as JSON. -/
  | json
  /-- Seconds since the epoch. -/
  | unixTime
  deriving DecidableEq, Repr

/-- The name of a kind in descriptions and messages. -/
def ScalarKind.name : ScalarKind → String
  | .boolean => "boolean"
  | .integer => "integer"
  | .float => "float"
  | .string => "string"
  | .date => "date"
  | .dateTime => "date-time"
  | .uuid => "uuid"
  | .bytes => "bytes"
  | .binary => "binary"
  | .choice _ => "enum"
  | .json => "json"
  | .unixTime => "unix-time"

/-- The shape of a value. A field of an object may be absent exactly when its schema is nullable. -/
inductive Schema where
  | scalar (kind : ScalarKind)
  | object (fields : List (String × Schema))
  | array (items : Schema)
  | nullable (underlying : Schema)
  | named (name : String)
  deriving Repr, Inhabited

/-- The fields of an object type, in declaration order. -/
abbrev Fields := List (String × Schema)

/-- The value may be absent. -/
def Schema.isNullable : Schema → Bool
  | .nullable _ => true
  | _ => false

/-- The schema inside all nullable wrappers. -/
def Schema.unwrapNullable : Schema → Schema
  | .nullable underlying => underlying.unwrapNullable
  | s => s

/-- A schema whose name, if it was one, has been looked up. -/
inductive Shape where
  | scalar (kind : ScalarKind)
  | object (fields : Fields)
  | array (items : Schema)
  | nullable (underlying : Schema)
  deriving Repr

/-- Named types. A name may stand for a scalar and an object at the same time. -/
structure Registry where
  scalars : List (String × ScalarKind) := []
  objects : List (String × Fields) := []
  deriving Repr, Inhabited

namespace Registry

def withScalar (r : Registry) (name : String) (kind : ScalarKind) : Registry :=
  { r with scalars := Assoc.insert name kind r.scalars }

def withObject (r : Registry) (name : String) (fields : Fields) : Registry :=
  { r with objects := Assoc.insert name fields r.objects }

def scalar? (r : Registry) (name : String) : Option ScalarKind :=
  r.scalars.lookup name

def object? (r : Registry) (name : String) : Option Fields :=
  r.objects.lookup name

/-- What a name stands for: a scalar first, then an object; an unknown name is any JSON value. -/
def named (r : Registry) (name : String) : Shape :=
  match r.scalar? name with
  | some kind => .scalar kind
  | none =>
    match r.object? name with
    | some fields => .object fields
    | none => .scalar .json

/-- Looks up the outermost name of a schema. -/
def resolve (r : Registry) : Schema → Shape
  | .scalar kind => .scalar kind
  | .object fields => .object fields
  | .array items => .array items
  | .nullable underlying => .nullable underlying
  | .named name => r.named name

/-- The schema is a binary scalar once nullable wrappers are removed and its name is looked up. -/
def isBinary (r : Registry) (s : Schema) : Bool :=
  match r.resolve s.unwrapNullable with
  | .scalar .binary => true
  | _ => false

end Registry

end ApiCall
