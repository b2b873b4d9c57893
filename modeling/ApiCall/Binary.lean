import ApiCall.FieldPath
import ApiCall.Text.Base64
import ApiCall.Text.Blank
import ApiCall.Text.Percent
import ApiCall.Text.Split

/-!
Binary arguments: strings that hold base64, alone or in a data URI.
-/

namespace ApiCall

/-- Decoded content, with the media type that a data URI declares. -/
structure Binary where
  mediaType : Option String := none
  data : Bytes
  deriving DecidableEq, Repr

namespace Binary

/-- The content of a base64 text. -/
def base64 (path : FieldPath) (text : List Char) : Except Error Bytes :=
  match Base64.decode (Utf8.encode text) with
  | .ok data => .ok data
  | .error fault => .error (.bodyEncodingAt path ("invalid base64: " ++ fault.message))

/-- The content of a data URI, given what follows its scheme. -/
def ofDataUri (uri : List Char) (path : FieldPath) : Except Error Binary :=
  match Split.once ',' uri with
  | none => .error (.bodyEncodingAt path "data URI without payload")
  | some (header, payload) => do
    let (header, data) ←
      match Split.before? ";base64".toList header with
      | some header => do pure (header, ← base64 path payload)
      | none => pure (header, Percent.decode (Utf8.encode payload))
    let media := header.takeWhile (· != ';')
    return ⟨if media.isEmpty then none else some (String.ofList media), data⟩

/-- The content of an argument: a data URI, or base64 with white space around it. -/
def ofValue (value : Json.Value) (path : FieldPath) : Except Error Binary :=
  match value with
  | .string text =>
    match Split.after? "data:".toList text.toList with
    | some uri => ofDataUri uri path
    | none => do return { data := ← base64 path (Blank.trim text.toList) }
  | v => .error (.mismatchAt path "binary" v)

end Binary

end ApiCall
