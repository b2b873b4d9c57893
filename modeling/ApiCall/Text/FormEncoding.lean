import ApiCall.Text.Percent

/-!
The encoding of form fields: a space is a plus, letters, digits and four marks stand as they are,
and every other byte is a triplet.
-/

namespace ApiCall

namespace FormEncoding

/-- Characters that stand as they are. -/
def isKept (c : Char) : Bool :=
  c.isAlphanum || c == '*' || c == '-' || c == '.' || c == '_'

def encodeChar (c : Char) : List Char :=
  if c = ' ' then ['+'] else Percent.encodeChar isKept c

def encode (text : String) : String :=
  String.ofList (text.toList.flatMap encodeChar)

/-- One field: key and value with `=` between them. -/
def field (key value : String) : String :=
  encode key ++ "=" ++ encode value

end FormEncoding

end ApiCall
