import ApiCall.Text.Percent
import ApiCall.Text.Split
import ApiCall.Url.Scheme

/-!
Paths of URLs. A segment of one dot is left out and one of two dots takes the segment before it
away, also where the dots are escaped. Drive letters of file URLs are kept.
-/

namespace ApiCall

namespace UrlPath

/-- Characters of a fragment that stand as they are. -/
def isFragmentChar (c : Char) : Bool :=
  Percent.visibleExcept " \"<>`".toList c

/-- Characters of a path that stand as they are. -/
def isPathChar (c : Char) : Bool :=
  Percent.visibleExcept " \"<>`#?\x7b\x7d".toList c

/-- The escaped dot, in either case, or the dot itself at the start of a text. -/
def dot? : List Char → Option (List Char)
  | '.' :: cs => some cs
  | '%' :: '2' :: 'e' :: cs => some cs
  | '%' :: '2' :: 'E' :: cs => some cs
  | _ => none

/-- The segment stands for its own directory. -/
def isDot (segment : List Char) : Bool :=
  dot? segment == some []

/-- The segment stands for the directory above. -/
def isDoubleDot (segment : List Char) : Bool :=
  (dot? segment).bind dot? == some []

/-- The first two characters are a letter and a colon or a bar. -/
def isDrive : List Char → Bool
  | [letter, mark] => letter.isAlpha && (mark == ':' || mark == '|')
  | _ => false

/-- The last segment starts like a drive letter, so two dots do not take it away. -/
def isKept : List Char → Bool
  | letter :: mark :: rest =>
    isDrive [letter, mark] && (rest.isEmpty || rest.head? == some '\\')
  | _ => false

/-- Takes the last segment away; the segments are in reverse order. -/
def dropLast : List (List Char) → List (List Char)
  | [] => []
  | segment :: before => if isKept segment then segment :: before else before

/-- The first segment of a file URL: the mark of a drive letter is a colon there. -/
def first (segment : List Char) : List Char :=
  match segment with
  | letter :: _ => if isDrive segment then [letter, ':'] else segment
  | [] => []

/-- Adds the segments of a path to those before them. All of them are in reverse order, and a dot
segment at the end leaves an empty one. -/
def resolve (isFile : Bool) (before : List (List Char)) : List (List Char) → List (List Char)
  | [] => before
  | segment :: rest =>
    if isDoubleDot segment then
      let before := dropLast before
      if rest.isEmpty then [] :: before else resolve isFile before rest
    else if isDot segment then
      if rest.isEmpty then [] :: before else resolve isFile before rest
    else
      let segment := Percent.encode isPathChar segment
      resolve isFile ((if isFile ∧ before.isEmpty then first segment else segment) :: before) rest

/-- The text of a path of these segments. -/
def join (segments : List (List Char)) : List Char :=
  segments.flatMap ('/' :: ·)

/-- The segments between the separators of a path, without the separator it starts with. -/
def pieces (kind : SchemeKind) (cs : List Char) : List (List Char) :=
  Split.pieces '/' <|
    match cs.map fun c => if kind.isSlash c then '/' else c with
    | '/' :: cs => cs
    | cs => cs

/-- The segments that stand in the path of a URL with a hierarchy. -/
def segments (kind : SchemeKind) (cs : List Char) : List (List Char) :=
  (resolve (kind == .file) [] (pieces kind cs)).reverse

/-- The path of these segments. A file URL has no empty segments at its start but a single one. -/
def text (kind : SchemeKind) (segments : List (List Char)) : List Char :=
  if kind = .file then
    match segments.dropWhile List.isEmpty with
    | [] => ['/']
    | segments => join segments
  else join segments

/-- The path of a URL with a hierarchy. -/
def read (kind : SchemeKind) (cs : List Char) : List Char :=
  text kind (segments kind cs)

/-- The first segment is a drive letter. -/
def hasDrive (segments : List (List Char)) : Bool :=
  segments.head?.any isDrive

end UrlPath

end ApiCall
