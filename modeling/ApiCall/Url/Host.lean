import ApiCall.Url.Domain
import ApiCall.Url.Fault
import ApiCall.Url.Ipv6
import ApiCall.Url.Scheme

/-!
Hosts of URLs. A special URL has a domain or an address; any other one has whatever text its scheme
gives a meaning to.
-/

namespace ApiCall

namespace Host

/-- Characters that may not stand in a host of a scheme that is not special. -/
def isForbidden (c : Char) : Bool :=
  c.toNat == 0 || "\t\n\r #/:<>?@[\\]^|".toList.contains c

/-- An address in brackets, given what follows the opening one. -/
def bracketed (cs : List Char) : Except UrlFault (List Char) :=
  match cs.reverse with
  | ']' :: inner =>
    match Ipv6.parse? inner.reverse with
    | some groups => .ok (Ipv6.text groups)
    | none => .error .ipv6
  | _ => .error .ipv6

/-- The host of a special URL: an address or a domain that is not empty. -/
def special : List Char → Except UrlFault (List Char)
  | '[' :: cs => bracketed cs
  | cs =>
    match (Utf8.decode? (Percent.decode (Utf8.encode cs))).bind Domain.ascii? with
    | none => .error .internationalName
    | some [] => .error .emptyHost
    | some domain =>
      if Ipv4.isMeant domain then
        match Ipv4.parse? domain with
        | some address => .ok (Ipv4.text address)
        | none => .error .ipv4
      else .ok domain

/-- The host of any other URL. -/
def ordinary : List Char → Except UrlFault (List Char)
  | '[' :: cs => bracketed cs
  | cs =>
    if cs.any isForbidden then .error .domainCharacter
    else .ok (Percent.encode Percent.isVisibleAscii cs)

/-- The host text up to the first colon outside brackets, and the rest. -/
def split (inBrackets : Bool) : List Char → List Char × List Char
  | [] => ([], [])
  | c :: cs =>
    if c = ':' ∧ !inBrackets then ([], c :: cs)
    else
      let (host, rest) := split (c == '[' || (inBrackets && c != ']')) cs
      (c :: host, rest)

end Host

end ApiCall
