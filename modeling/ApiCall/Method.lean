/-!
Request methods. Their names are read in any case.
-/

namespace ApiCall

inductive Method where
  | get
  | post
  | put
  | delete
  | patch
  | head
  | options
  deriving DecidableEq, Repr, Inhabited

namespace Method

def name : Method → String
  | .get => "GET"
  | .post => "POST"
  | .put => "PUT"
  | .delete => "DELETE"
  | .patch => "PATCH"
  | .head => "HEAD"
  | .options => "OPTIONS"

def all : List Method :=
  [.get, .post, .put, .delete, .patch, .head, .options]

/-- The method of a name, whatever the case of its letters. -/
def ofName? (text : String) : Option Method :=
  let upper := text.toList.map Char.toUpper
  all.find? fun m => m.name.toList == upper

/-- The message about a name of no method. -/
def unsupported (text : String) : String :=
  "unsupported HTTP method: " ++ text

end Method

end ApiCall
