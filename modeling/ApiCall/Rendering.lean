import ApiCall.Directive
import ApiCall.Items
import ApiCall.QueryString

/-!
Items on the wire. An exploded parameter is one entry for each value; otherwise its keys and values
stand in one entry, with the separator of the style between them. The deep-object style always gives
one entry for each value and keeps array positions as `[]`.
-/

namespace ApiCall

namespace Key

/-- A step in brackets. -/
def bracket (key : Key) : String :=
  "[" ++ key.text ++ "]"

/-- A key path on its own: a field at its start is bare, every other step is in brackets. -/
def label : List Key → String
  | [] => ""
  | .field name :: rest => name ++ String.join (rest.map bracket)
  | .element :: rest => String.join ((.element :: rest).map bracket)

/-- A key path after the name of its parameter: every step is in brackets. -/
def labelUnder (name : String) (keys : List Key) : String :=
  name ++ String.join (keys.map bracket)

end Key

/-- The keys and values of an item that is not exploded. -/
def Item.flatParts (item : Item) : List String :=
  match item.trimmed with
  | [] => item.values
  | keys => Key.label keys :: item.values

/-- The values of an exploded item in a header, each after its key and `=`. -/
def Item.keyedParts (item : Item) : List String :=
  match item.trimmed with
  | [] => item.values
  | keys => item.values.map fun value => Key.label keys ++ "=" ++ value

/-- The value of a header: all parts with commas between them, if there is a part. -/
def Items.headerText (items : Items) (explode : Bool) : Option String :=
  match items.flatMap (if explode then Item.keyedParts else Item.flatParts) with
  | [] => none
  | parts => some (",".intercalate parts)

namespace Directive

/-- The key of an item in a query. Array positions at the end are dropped; an object's path then
stands on its own, and one that starts at an array keeps the name. Deep objects keep all of both. -/
def key (d : Directive) (name : String) (keys : List Key) : String :=
  if d.style = .deepObject then Key.labelUnder name keys
  else
    match Key.trim keys with
    | .field first :: rest => Key.label (.field first :: rest)
    | keys => Key.labelUnder name keys

/-- The entries of a parameter under its name, in item order. -/
def entries (d : Directive) (name : String) (items : Items) : List (String × String) :=
  if d.style = .deepObject ∨ d.exploded then
    items.flatMap fun item => item.values.map fun value => (d.key name item.keys, value)
  else
    match items.flatMap Item.flatParts with
    | [] => []
    | parts => [(name, (String.singleton d.style.separator).intercalate parts)]

/-- The entries of a cookie, with escaped values and bare keys. -/
def cookiePairs (d : Directive) (name : String) (items : Items) : List String :=
  (d.entries name items).map fun (key, value) => key ++ "=" ++ escapeComponent value false

end Directive

end ApiCall
