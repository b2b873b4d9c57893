import ApiCall.Text.Percent

/-!
Query strings: key and value pairs in the order in which they were added. The text escapes keys and
values, so it has no `&` and `=` but those between them, unless an entry allows reserved characters.
-/

namespace ApiCall

/-- Escapes everything but unreserved characters, and reserved ones where they are allowed. -/
def escapeComponent (text : String) (allowReserved : Bool) : String :=
  String.ofList <|
    Percent.encode (fun c => Percent.isUnreserved c || (allowReserved && Percent.isReserved c))
      text.toList

structure QueryEntry where
  key : String
  value : String
  allowReserved : Bool := false
  deriving DecidableEq, Repr

/-- The escaped key and value with `=` between them. -/
def QueryEntry.text (e : QueryEntry) : String :=
  escapeComponent e.key e.allowReserved ++ "=" ++ escapeComponent e.value e.allowReserved

structure QueryString where
  entries : List QueryEntry := []
  deriving DecidableEq, Repr, Inhabited

namespace QueryString

/-- Adds one entry at the end. -/
def append (q : QueryString) (key value : String) (allowReserved : Bool) : QueryString :=
  ⟨q.entries ++ [⟨key, value, allowReserved⟩]⟩

/-- Adds the entries of a parameter at the end. -/
def extend (q : QueryString) (pairs : List (String × String)) (allowReserved : Bool) :
    QueryString :=
  ⟨q.entries ++ pairs.map fun (key, value) => ⟨key, value, allowReserved⟩⟩

def isEmpty (q : QueryString) : Bool :=
  q.entries.isEmpty

/-- The text without the question mark. -/
def text (q : QueryString) : String :=
  "&".intercalate (q.entries.map QueryEntry.text)

end QueryString

end ApiCall
