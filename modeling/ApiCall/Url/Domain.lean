import ApiCall.Url.Domain.Label

/-!
Domain names of hosts. A domain is written in ASCII, with each label in its own form.
-/

namespace ApiCall

namespace Domain

/-- ASCII characters that may not stand in a domain. -/
def isForbidden (c : Char) : Bool :=
  decide (c.toNat ≤ 32) || c.toNat == 127 || "%#/:<>?@[\\]^|".toList.contains c

/-- The ASCII form of a domain, if it has one. -/
def ascii? (domain : List Char) : Option (List Char) := do
  let domain := mapped domain
  if domain.any isForbidden then none
  let labels ← (Split.pieces '.' domain).mapM read?
  if labels.any isRightToLeft ∧ !labels.all (directionsFit <| ·.map Direction.ofChar) then none
  return ['.'].intercalate (labels.map form)

end Domain

end ApiCall
