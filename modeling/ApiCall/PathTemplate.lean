import ApiCall.Error
import ApiCall.Items
import ApiCall.Text.Percent
import ApiCall.Text.Split

/-!
Path templates: names in braces are replaced by escaped values. A value keeps within its segment,
since slashes, braces, percent signs and the characters that end a path are escaped.
-/

namespace ApiCall

namespace PathTemplate

/-- Characters that stand as they are in a path segment. -/
def isSegmentChar (c : Char) : Bool :=
  Percent.visibleExcept " \"#<>`?\x7b\x7d/\\%".toList c

def escapeSegment (text : String) : String :=
  String.ofList (Percent.encode isSegmentChar text.toList)

/-- Replaces each occurrence of a name in braces. -/
def replaceName (template name new : String) : String :=
  String.ofList (Split.replace '\x7b' (name.toList ++ ['\x7d']) new.toList template.toList)

/-- Replaces a parameter by its values, joined with commas. Only a scalar or an array of scalars has
a form in the path. -/
def substitute (template name : String) (items : Items) : Except Error String :=
  match items with
  | [item] =>
    if item.trimmed.isEmpty then
      .ok (replaceName template name (escapeSegment (",".intercalate item.values)))
    else .error (unsupported name)
  | _ => .error (unsupported name)
where
  unsupported (name : String) : Error :=
    .unsupportedParameter name "only scalar or array values can be substituted into the path"

end PathTemplate

end ApiCall
