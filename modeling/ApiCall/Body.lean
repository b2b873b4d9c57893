import ApiCall.Binary
import ApiCall.Header
import ApiCall.Items.Encode
import ApiCall.Multipart
import ApiCall.Operation
import ApiCall.Rendering
import ApiCall.Text.FormEncoding

/-!
Request bodies. The media type of the declared content type decides how the value is written: as
JSON, as form fields, as the parts of a multipart form, as plain text or as decoded bytes.
-/

namespace ApiCall

open Json

/-- The values that a call is given, by argument name. -/
abbrev Arguments := List (String × Value)

/-- A body that is ready to send. -/
inductive Payload where
  | raw (contentType : String) (data : Bytes)
  | multipart (form : Form)
  deriving DecidableEq, Repr

namespace Payload

def contentType : Payload → String
  | .raw contentType _ => contentType
  | .multipart form => form.contentType

def bytes : Payload → Bytes
  | .raw _ data => data
  | .multipart form => form.write

end Payload

/-- The directive of a body field: the declared one, or that of a form field of its name. -/
def BodySpec.directive (spec : BodySpec) (field : String) : Directive :=
  (spec.encoding.lookup field).getD { name := field, location := .formField }

/-- The declared fields of a form body and its members. The members of a body of any type are taken
for fields of any type. -/
def BodySpec.members (spec : BodySpec) (r : Registry) (value : Value) (path : FieldPath) :
    Except Error (Fields × List (String × Value)) :=
  match value, r.resolve spec.schema.unwrapNullable with
  | .object members, .object fields => .ok (fields, members)
  | .object members, .scalar .json =>
    .ok (members.map fun (name, _) => (name, .scalar .json), members)
  | v, _ => .error (.mismatchAt path "object" v)

/-- One entry of a urlencoded form. -/
def formField (d : Directive) (key value : String) : String :=
  if d.allowReserved then escapeComponent key true ++ "=" ++ escapeComponent value true
  else FormEncoding.field key value

/-- The text of a urlencoded form: the entries of all fields with `&` between them. -/
def BodySpec.urlencoded (spec : BodySpec) (r : Registry) (value : Value) (path : FieldPath) :
    Except Error String := do
  let (fields, members) ← spec.members r value path
  let segments ← fields.mapM fun (name, schema) => do
    let items ← r.encode schema (members.lookup name) (path.field name)
    let d := spec.directive name
    return (d.entries name items).map fun (key, value) => formField d key value
  return "&".intercalate segments.flatten

/-- The headers of a field's parts, with the values that the arguments hold for them. -/
def Directive.partHeaders (d : Directive) (r : Registry) (arguments : Arguments) :
    Except Error (List (String × String)) := do
  let headers ← d.headers.mapM fun (name, header) => do
    let items ← r.encode header.schema (arguments.lookup header.argumentName)
      { root := header.argumentName }
    match items.headerText header.explode with
    | none => return []
    | some value =>
      match headerName name, headerValue (bytesOf value) with
      | .ok _, .ok _ => return [(name, value)]
      | .error fault, _ => throw (.invalidHeader name fault.message)
      | _, .error fault => throw (.invalidHeader name fault.message)
  return headers.flatten

/-- A part with binary content. Its content type is the declared one, that of the data URI, or that
of arbitrary bytes. -/
def filePart (name : String) (value : Value) (d : Directive) (path : FieldPath) :
    Except Error Part := do
  let binary ← Binary.ofValue value path
  let contentType := (d.primaryContentType.or binary.mediaType).getD MediaType.octetStream
  return (Part.ofFile name name binary.data).withContentType contentType

/-- The binary parts of array elements, the first of which has the given index. -/
def fileParts (name : String) (d : Directive) (path : FieldPath) (i : Nat) :
    List Value → Except Error (List Part)
  | [] => .ok []
  | element :: rest => do
    let part ← filePart name element d (path.index i)
    let parts ← fileParts name d path (i + 1) rest
    return part :: parts

/-- The value has parts that may be written as one JSON text. -/
def isStructured (shape : Shape) (value : Value) : Bool :=
  match shape with
  | .object _ => true
  | .array _ => true
  | .scalar .json => value.isContainer
  | _ => false

/-- The parts of one field that is not binary. -/
def textParts (r : Registry) (name : String) (schema : Schema) (value : Value) (d : Directive)
    (path : FieldPath) : Except Error (List Part) := do
  let items ← r.encode schema (some value) path
  let structured := isStructured (r.resolve schema) value
  if structured && d.style != .deepObject && d.acceptsJson then
    let part : Part := { name, data := value.bytes }
    return [part.withContentType (d.primaryContentType.getD MediaType.json)]
  let parts : List (String × String) :=
    if structured then d.entries name items
    else [(name, (items.findDefault.map fun item => ",".intercalate item.values).getD "")]
  return parts.map fun (key, text) =>
    { name := key, contentType := d.primaryContentType, data := bytesOf text }

/-- The parts of one field: files for binary content, one JSON text, or one part for each entry. -/
def fieldParts (r : Registry) (name : String) (schema : Schema) (value : Value) (d : Directive)
    (path : FieldPath) : Except Error (List Part) :=
  let schema := schema.unwrapNullable
  if r.isBinary schema then do return [← filePart name value d path]
  else
    match r.resolve schema with
    | .array items =>
      if r.isBinary items then
        match value with
        | .array elements => fileParts name d path 0 elements
        | v => .error (.mismatchAt path "array" v)
      else textParts r name schema value d path
    | _ => textParts r name schema value d path

/-- A multipart form: the parts of each field that has a value, with the headers of the field. -/
def BodySpec.form (spec : BodySpec) (r : Registry) (boundary : String) (value : Value)
    (arguments : Arguments) (path : FieldPath) : Except Error Form := do
  let (fields, members) ← spec.members r value path
  let parts ← fields.mapM fun (name, schema) => do
    match (members.lookup name).filter (!·.isNull) with
    | none =>
      if schema.isNullable then return []
      else throw (.missingAt (path.field name))
    | some value =>
      let d := spec.directive name
      let headers ← d.partHeaders r arguments
      let parts ← fieldParts r name schema value d (path.field name)
      return parts.map fun part => headers.foldl (fun p (name, text) => p.withHeader name text) part
  return { boundary, parts := parts.flatten }

/-- The payload of a value that is there. -/
def BodySpec.payload (spec : BodySpec) (r : Registry) (boundary : String) (value : Value)
    (arguments : Arguments) : Except Error Payload := do
  let path : FieldPath := { root := spec.argumentName }
  let media := MediaType.ofContentType spec.contentType
  let raw (data : Bytes) : Payload := .raw spec.contentType data
  if MediaType.isJson media then
    let _ ← r.encode spec.schema (some value) path
    return raw value.bytes
  else if media = MediaType.urlencoded then
    return raw (bytesOf (← spec.urlencoded r value path))
  else if media = MediaType.multipart then
    return .multipart (← spec.form r boundary value arguments path)
  else if MediaType.isText media then
    return raw (bytesOf (ScalarKind.jsonText value))
  else if media = MediaType.octetStream then
    return raw (← Binary.ofValue value path).data
  else throw (.unsupportedContentType spec.contentType)

/-- The payload of an optional value. Only a nullable body may be absent. -/
def BodySpec.build (spec : BodySpec) (r : Registry) (boundary : String) (value : Option Value)
    (arguments : Arguments) : Except Error (Option Payload) :=
  match value.filter (!·.isNull) with
  | none => if spec.schema.isNullable then .ok none else .error (.bodyMissing spec.argumentName)
  | some value => do return some (← spec.payload r boundary value arguments)

end ApiCall
