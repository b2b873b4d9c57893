import ApiCall.Url.Path

/-!
URLs as the texts of their parts, each of them escaped.
-/

namespace ApiCall

structure Url where
  /-- The scheme in lower case. -/
  scheme : String
  /-- User information, host and port; `none` for a URL that names no place on a network. -/
  authority : Option String
  path : String
  query : Option String := none
  fragment : Option String := none
  deriving DecidableEq, Repr, Inhabited

namespace Url

/-- Characters of a query that stand as they are. -/
def isQueryChar (kind : SchemeKind) (c : Char) : Bool :=
  Percent.visibleExcept " \"#<>".toList c && !(kind.isSpecial && c == '\x27')

/-- The text of the URL. Without an authority, a path of two slashes at its start is told apart from
one by a dot. -/
def text (u : Url) : String :=
  let authority := match u.authority with
    | some authority => "//" ++ authority
    | none => if "//".toList.isPrefixOf u.path.toList then "/." else ""
  let query := match u.query with
    | some query => "?" ++ query
    | none => ""
  let fragment := match u.fragment with
    | some fragment => "#" ++ fragment
    | none => ""
  u.scheme ++ ":" ++ authority ++ u.path ++ query ++ fragment

/-- The escaped text of a query. -/
def escapeQuery (scheme query : String) : String :=
  String.ofList (Percent.encode (isQueryChar (.ofName scheme)) query.toList)

/-- Replaces the query, of which characters that no query may have are escaped. -/
def setQuery (u : Url) (query : String) : Url :=
  { u with query := some (escapeQuery u.scheme query) }

end Url

end ApiCall
