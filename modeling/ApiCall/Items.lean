/-!
Items: a value taken apart into its leaves. Each item is a key path, the object fields and array
positions on the way to a leaf, and the texts found there. Array positions are anonymous, so the
texts of all elements gather in one item.
-/

namespace ApiCall

/-- One step of a key path. -/
inductive Key where
  | field (name : String)
  | element
  deriving DecidableEq, Repr

namespace Key

/-- What stands between the brackets of a rendered key. -/
def text : Key → String
  | .field name => name
  | .element => ""

def isElement : Key → Bool
  | .element => true
  | .field _ => false

/-- A key path without the array positions at its end. -/
def trim (keys : List Key) : List Key :=
  (keys.reverse.dropWhile isElement).reverse

end Key

/-- A key path and the texts found there, of which there is at least one. -/
structure Item where
  keys : List Key
  values : List String
  deriving DecidableEq, Repr

/-- The key path without the array positions at its end. -/
def Item.trimmed (item : Item) : List Key :=
  Key.trim item.keys

/-- Items in the order in which their key paths first came. -/
abbrev Items := List Item

namespace Items

/-- Appends texts to the item of a key path, or adds an item at the end. -/
def append (keys : List Key) (values : List String) : Items → Items
  | [] => [⟨keys, values⟩]
  | item :: rest =>
    if item.keys = keys then { item with values := item.values ++ values } :: rest
    else item :: append keys values rest

/-- Adds texts under a key path; nothing changes when there are none. -/
def add (items : Items) (keys : List Key) (values : List String) : Items :=
  if values.isEmpty then items else append keys values items

/-- The item of a scalar or of an array of scalars: its trimmed path is empty. -/
def findDefault (items : Items) : Option Item :=
  items.find? fun item => item.trimmed.isEmpty

end Items

end ApiCall
