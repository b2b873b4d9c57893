import ApiCall.Json.Decoder
import ApiCall.Schema

/-!
Schemas and registries as JSON documents. A schema tells its variants apart by the member `kind` and
a scalar by `type`.
-/

namespace ApiCall

open Json Json.Decoder

private def scalarVariants : Variants ScalarKind := [
  ("boolean", noContent .boolean),
  ("integer", noContent .integer),
  ("float", noContent .float),
  ("string", noContent .string),
  ("date", noContent .date),
  ("date-time", noContent .dateTime),
  ("uuid", noContent .uuid),
  ("bytes", noContent .bytes),
  ("binary", noContent .binary),
  ("enum", ofFields "struct variant ScalarKind::Enum" (.choice [])
    [required "allowed" (list string) fun allowed _ => .choice allowed]),
  ("json", noContent .json),
  ("unix-time", noContent .unixTime)]

def ScalarKind.decoder : Decoder ScalarKind :=
  tagged "type" "internally tagged enum ScalarKind" scalarVariants

/-- The fields of an object type, given how their schemas are read. -/
private def fieldsDecoder (schema : Decoder Schema) : Decoder Fields :=
  record "struct ObjectSchema" [] [required "fields" (dict schema) fun fields _ => fields]

/-- The variants of a schema, given how the schemas inside it are read. -/
private def schemaVariants (schema : Decoder Schema) : Variants Schema := [
  ("scalar", ofFields "struct variant TypeSchema::Scalar" default
    [required "scalar" ScalarKind.decoder fun kind _ => .scalar kind]),
  ("object", fun
    | .object entries => Schema.object <$> (fieldsDecoder schema).plain (.object entries)
    | v => .error (.wrongType v.found "struct variant TypeSchema::Object")),
  ("array", ofFields "struct variant TypeSchema::Array" default
    [required "items" schema fun items _ => .array items]),
  ("nullable", ofFields "struct variant TypeSchema::Nullable" default
    [required "underlying" schema fun underlying _ => .nullable underlying]),
  ("named", ofFields "struct variant TypeSchema::Named" default
    [required "name" string fun name _ => .named name])]

private def schemaTagged (inner : Decoder Schema) : Decoder Schema :=
  tagged "kind" "internally tagged enum TypeSchema" (schemaVariants inner)

/-- A schema out of a value that nests at most `depth` containers. -/
private def Schema.ofPlain : Nat → Value → Except Reason Schema
  | 0, _ => .error .tooDeep
  | depth + 1, v => (schemaTagged (whole (Schema.ofPlain depth))).plain v

/-- Schemas inside a schema are read once the outermost one is complete; no document nests deeper
than the limit. -/
def Schema.decoder : Decoder Schema where
  text := (schemaTagged (whole (Schema.ofPlain (depthLimit + 1)))).text
  plain := Schema.ofPlain (depthLimit + 1)

/-- An object type by itself. -/
def Fields.decoder : Decoder Fields :=
  fieldsDecoder Schema.decoder

def Registry.decoder : Decoder Registry :=
  record "struct SchemaRegistry" {}
    [optional "scalars" (dict ScalarKind.decoder) fun scalars r => { r with scalars },
     optional "objects" (dict Fields.decoder) fun objects r => { r with objects }]

end ApiCall
