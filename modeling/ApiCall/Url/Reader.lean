import ApiCall.Text.Blank
import ApiCall.Url.Basic
import ApiCall.Url.Host

/-!
Reading URLs. Controls and spaces at the ends are dropped, tabs and line ends anywhere. Each part is
escaped as it is read, so a text may come back changed, and what comes back is read as itself.
-/

namespace ApiCall

namespace Url

/-- Characters of user information that stand as they are. -/
def isUserChar (c : Char) : Bool :=
  UrlPath.isPathChar c && !"/:;=@[\\]^|".toList.contains c

/-- The text without the characters that a URL ignores. -/
def clean (cs : List Char) : List Char :=
  (Blank.trimBy (fun c => decide (c.toNat ≤ 32)) cs).filter fun c =>
    !(c == '\t' || c == '\n' || c == '\r')

/-- What stands before and after the last occurrence of a character. -/
def splitLast (sep : Char) (cs : List Char) : Option (List Char × List Char) :=
  (Split.once sep cs.reverse).map fun (after, before) => (before.reverse, after.reverse)

/-- The text of user information: a name and, after a colon, a password that is not empty. -/
def userText (user : List Char) : List Char :=
  let (name, password) := (Split.once ':' user).getD (user, [])
  let enc := Percent.encode isUserChar
  if name.isEmpty ∧ password.isEmpty then []
  else enc name ++ (if password.isEmpty then [] else ':' :: enc password) ++ ['@']

/-- The port of a text of digits, and what follows them. -/
def readPort (cs : List Char) : Except UrlFault (Option Nat × List Char) :=
  let (digits, rest) := cs.span Char.isDigit
  match Ipv4.digits? 10 digits with
  | some port =>
    if port < 65536 then .ok (if digits.isEmpty then none else some port, rest) else .error .port
  | none => .error .port

/-- The port as it is written: not at all when it is the one of the scheme. -/
def portText (kind : SchemeKind) : Option Nat → List Char
  | none => []
  | some port => if kind = .network port then [] else ':' :: Decimal.ofNat port

/-- The text of an authority, and what is left of it for the path. The flag tells that the URL goes
on after the authority. -/
def readAuthority (kind : SchemeKind) (cs : List Char) (goesOn : Bool) :
    Except UrlFault (List Char × List Char) := do
  let (user, place) := (splitLast '@' cs).getD ([], cs)
  if user.isEmpty ∧ place.length < cs.length ∧ place.isEmpty ∧ goesOn then throw .emptyHost
  let (hostText, portPart) := Host.split false place
  if hostText.isEmpty ∧ (kind.isSpecial ∨ !portPart.isEmpty) then throw .emptyHost
  let host ← if kind.isSpecial then Host.special hostText else Host.ordinary hostText
  let user := userText user
  let (port, rest) ← readPort (portPart.drop 1)
  if !(rest.isEmpty || rest.head? == some '\\') then throw .port
  if host.isEmpty ∧ !user.isEmpty then throw .emptyHost
  return (user ++ host ++ portText kind port, rest)

/-- Authority and path of a URL whose text, without its scheme and two slashes, is split here. -/
def readPlace (kind : SchemeKind) (cs : List Char) (goesOn : Bool) :
    Except UrlFault (List Char × List Char) := do
  let (authority, path) := cs.span fun c => !kind.isSlash c
  let (authority, rest) ← readAuthority kind authority (goesOn || !path.isEmpty)
  let path := rest ++ path
  if path.isEmpty ∧ !kind.isSpecial then return (authority, [])
  return (authority, UrlPath.read kind path)

/-- Host and path of a file URL after its two slashes. The local host is left out, and so is any
host before a drive letter. Where no host stands, the slash of the path is a segment of its own. -/
def readFilePlace (cs : List Char) : Except UrlFault (List Char × List Char) := do
  let (host, path) := cs.span fun c => !SchemeKind.file.isSlash c
  if UrlPath.isDrive host then return ([], UrlPath.read .file cs)
  let host ← if host.isEmpty then pure [] else Host.special host
  if host.isEmpty ∨ host = "localhost".toList then return ([], UrlPath.read .file ('/' :: path))
  let segments := UrlPath.segments .file path
  return (if UrlPath.hasDrive segments then [] else host, UrlPath.text .file segments)

/-- Authority and path of a URL, given its text between the scheme and the query. -/
def readHierarchy (kind : SchemeKind) (cs : List Char) (goesOn : Bool) :
    Except UrlFault (Option (List Char) × List Char) :=
  match kind with
  | .network _ => do
    let (authority, path) ← readPlace kind (cs.dropWhile kind.isSlash) goesOn
    return (some authority, path)
  | .file =>
    match cs.span kind.isSlash with
    | (_ :: _ :: _, _) => do
      let (host, path) ← readFilePlace (cs.drop 2)
      return (some host, path)
    | _ => .ok (some [], UrlPath.read kind cs)
  | .other =>
    match cs with
    | '/' :: '/' :: cs => do
      let (authority, path) ← readPlace kind cs goesOn
      return (some authority, path)
    | '/' :: _ => .ok (none, UrlPath.read kind cs)
    | _ => .ok (none, Percent.encode Percent.isVisibleAscii cs)

/-- Reads a URL. -/
def parse (text : String) : Except UrlFault Url := do
  let (scheme, rest) ←
    match splitScheme? (clean text.toList) with
    | some parts => pure parts
    | none => throw .noBase
  let kind := SchemeKind.ofName (String.ofList scheme)
  let (rest, fragment) := cut '#' rest
  let (rest, query) := cut '?' rest
  let (authority, path) ← readHierarchy kind rest (query.isSome || fragment.isSome)
  return {
    scheme := String.ofList scheme
    authority := authority.map String.ofList
    path := String.ofList path
    query := query.map fun query =>
      String.ofList (Percent.encode (isQueryChar kind) query)
    fragment := fragment.map fun fragment =>
      String.ofList (Percent.encode UrlPath.isFragmentChar fragment) }
where
  /-- What precedes a mark, and what follows it if it is there. -/
  cut (mark : Char) (cs : List Char) : List Char × Option (List Char) :=
    match Split.once mark cs with
    | some (before, after) => (before, some after)
    | none => (cs, none)

end Url

end ApiCall
