/-!
URL schemes. Six of them are special: their URLs always have a host, or name a file, and a backslash
in them is a slash.
-/

namespace ApiCall

/-- How the rest of a URL is read after its scheme. -/
inductive SchemeKind where
  /-- A network scheme with the port that need not be written. -/
  | network (defaultPort : Nat)
  | file
  | other
  deriving DecidableEq, Repr

namespace SchemeKind

/-- The kind of a lower-case scheme. -/
def ofName (scheme : String) : SchemeKind :=
  if scheme = "http" ∨ scheme = "ws" then .network 80
  else if scheme = "https" ∨ scheme = "wss" then .network 443
  else if scheme = "ftp" then .network 21
  else if scheme = "file" then .file
  else .other

def isSpecial : SchemeKind → Bool
  | .other => false
  | _ => true

/-- The character separates path segments. -/
def isSlash (kind : SchemeKind) (c : Char) : Bool :=
  c == '/' || (c == '\\' && kind.isSpecial)

end SchemeKind

/-- Characters of a scheme after its first letter. -/
def isSchemeChar (c : Char) : Bool :=
  c.isAlphanum || c == '+' || c == '-' || c == '.'

/-- The lower-case scheme before the first colon, and what follows the colon. -/
def splitScheme? : List Char → Option (List Char × List Char)
  | [] => none
  | c :: cs =>
    if c.isAlpha then
      match cs.span isSchemeChar with
      | (scheme, ':' :: rest) => some ((c :: scheme).map Char.toLower, rest)
      | _ => none
    else none

end ApiCall
