import ApiCall.MediaType
import ApiCall.Text.Utf8

/-!
Multipart forms: parts with headers of their own between boundary lines.
-/

namespace ApiCall

/-- One part of a form. A content type is kept apart from the other headers, so there is at most one
of it. -/
structure Part where
  name : String
  filename : Option String := none
  contentType : Option String := none
  /-- Further headers, in the order in which they were added. -/
  headers : List (String × String) := []
  data : Bytes
  deriving DecidableEq, Repr

namespace Part

def withFilename (p : Part) (filename : String) : Part :=
  { p with filename := some filename }

def withContentType (p : Part) (contentType : String) : Part :=
  { p with contentType := some contentType }

/-- Adds a header; a content type replaces the one that the part has. -/
def withHeader (p : Part) (name value : String) : Part :=
  if sameIgnoringCase name "content-type" then p.withContentType value
  else { p with headers := p.headers ++ [(name, value)] }

/-- A part of plain text. -/
def ofText (name text : String) : Part where
  name
  contentType := some "text/plain"
  data := bytesOf text

/-- A part of JSON. -/
def ofJson (name : String) (data : Bytes) : Part where
  name
  contentType := some MediaType.json
  data

/-- A part with a file name. -/
def ofFile (name filename : String) (data : Bytes) : Part where
  name
  filename := some filename
  contentType := some MediaType.octetStream
  data

/-- A character inside a quoted name: quotes and backslashes are escaped by a backslash, and line
breaks by their percent codes. -/
def quoteChar (c : Char) : List Char :=
  if c = '\\' then ['\\', '\\']
  else if c = '"' then ['\\', '"']
  else if c = '\r' then "%0D".toList
  else if c = '\n' then "%0A".toList
  else [c]

/-- A name between double quotes. -/
def quote (text : String) : String :=
  String.ofList ('"' :: text.toList.flatMap quoteChar ++ ['"'])

/-- The lines of a part's header block, without their ends. -/
def headerLines (p : Part) : List String :=
  let filename := match p.filename with
    | some filename => "; filename=" ++ quote filename
    | none => ""
  let contentType := match p.contentType with
    | some contentType => ["Content-Type: " ++ contentType]
    | none => []
  ("Content-Disposition: form-data; name=" ++ quote p.name ++ filename) :: contentType ++
    p.headers.map fun (name, value) => name ++ ": " ++ value

/-- The header block, an empty line and the data. -/
def write (p : Part) : Bytes :=
  p.headerLines.flatMap (fun line => bytesOf (line ++ "\r\n")) ++ bytesOf "\r\n" ++ p.data

end Part

/-- Parts and the text that stands between them. -/
structure Form where
  /-- It must not occur in the data of a part. -/
  boundary : String
  parts : List Part := []
  deriving DecidableEq, Repr

namespace Form

/-- A boundary for the forms of one moment, which is given in nanoseconds. -/
def boundaryAt (nanoseconds : Nat) : String :=
  "----RestwireBoundary" ++ String.ofList (Nat.toDigits 16 nanoseconds)

def push (f : Form) (part : Part) : Form :=
  { f with parts := f.parts ++ [part] }

/-- The content type that announces the boundary. -/
def contentType (f : Form) : String :=
  "multipart/form-data; boundary=" ++ f.boundary

/-- The form's bytes: a boundary line before each part, and a closing one at the end. -/
def write (f : Form) : Bytes :=
  f.parts.flatMap (fun part =>
    bytesOf ("--" ++ f.boundary ++ "\r\n") ++ part.write ++ bytesOf "\r\n") ++
    bytesOf ("--" ++ f.boundary ++ "--\r\n")

end Form

end ApiCall
