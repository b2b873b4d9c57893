import ApiCall.Text.Blank
import ApiCall.Text.Split

/-!
Media types of content types: what stands before the first semicolon, in lower case.
-/

namespace ApiCall

namespace MediaType

def json : String := "application/json"
def urlencoded : String := "application/x-www-form-urlencoded"
def multipart : String := "multipart/form-data"
def octetStream : String := "application/octet-stream"

/-- The media type of a content type, without parameters and in lower case. -/
def ofContentType (contentType : String) : String :=
  String.ofList
    ((Blank.trim (contentType.toList.takeWhile (· != ';'))).map Char.toLower)

/-- The media type lies under `text/`. -/
def isText (contentType : String) : Bool :=
  "text/".toList.isPrefixOf (ofContentType contentType).toList

/-- JSON itself, or an `application` type with the suffix `+json`. -/
def isJson (contentType : String) : Bool :=
  let media := (ofContentType contentType).toList
  media == json.toList ||
    ("application/".toList.isPrefixOf media && "+json".toList.isSuffixOf media)

end MediaType

end ApiCall
