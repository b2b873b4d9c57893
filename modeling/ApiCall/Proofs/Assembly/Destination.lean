import ApiCall.Proofs.Assembly.Segments
import ApiCall.Proofs.Url.Authority
import Mathlib

/-!
Where a request is sent. Whatever the path, the arguments and the query hold, the URL of a request
has the scheme and the authority of the base, since the base ends before the first slash that is
added to it (`Assembler.destination_is_base`).
-/

namespace ApiCall

/-- Where a URL leads: its scheme and the text of its user information, host and port. -/
def Url.destination (u : Url) : String × Option String :=
  (u.scheme, u.authority)

theorem Request.destination_fullUrl (r : Request) : r.fullUrl.destination = r.url.destination := by
  unfold fullUrl
  split
  · rfl
  · rfl

/-- A path below a base that is a URL itself leads where the base does. -/
theorem joinUrl_destination {base path : String} {start url : Url}
    (hstart : Url.parse base = .ok start) (hscheme : start.scheme = "http" ∨ start.scheme = "https")
    (h : joinUrl base path = .ok url) : url.destination = start.destination := by
  have hbase : base.isEmpty = false := by
    cases hempty : base.isEmpty with
    | false => rfl
    | true =>
        rw [String.isEmpty_iff.mp hempty] at hstart
        cases hstart
  have hkind : ∃ standard, SchemeKind.ofName start.scheme = .network standard := by
    rcases hscheme with hname | hname
    · exact ⟨80, by rw [hname]; rfl⟩
    · exact ⟨443, by rw [hname]; rfl⟩
  obtain ⟨standard, hkind⟩ := hkind
  rw [← String.ofList_toList (s := base)] at hstart
  have hjoined := Url.authority_of_joined hstart hkind ((joinUrl_eq_ok_iff hbase).mp h)
  exact Prod.ext hjoined.1 hjoined.2

namespace Assembler

variable {a : Assembler} {op : Operation} {arguments : Arguments} {request : Request}

/-- No argument redirects a request: where the base is an HTTP URL on its own, the URL of a request
has its scheme, user information, host and port, with the query of the parameters and without. -/
theorem destination_is_base {base : Url} (hbase : Url.parse a.settings.baseUrl = .ok base)
    (hscheme : base.scheme = "http" ∨ base.scheme = "https")
    (h : a.assemble op arguments = .ok request) :
    request.url.destination = base.destination ∧
      request.fullUrl.destination = base.destination := by
  obtain ⟨phases⟩ := assemble_phases h
  have hurl : request.url = phases.url := congrArg Request.url phases.request_eq
  have hdestination := joinUrl_destination hbase hscheme phases.url_eq
  rw [Request.destination_fullUrl, hurl]
  exact ⟨hdestination, hdestination⟩

/-- A base with backslashes, a user and a port, and a path that tries to go on with another host. -/
theorem destination_is_base_of_at_sign :
    let a : Assembler :=
      { settings := { baseUrl := "http:\\\\u@[::1]:8" }, boundary := "B" }
    let op : Operation :=
      { name := "go", method := .get, path := "//@x/{to}"
        parameters :=
          [{ argumentName := "to", schema := .scalar .string
             directive := { name := "to", location := .path } },
           { argumentName := "q", schema := .scalar .string, directive := { name := "q" } }] }
    let arguments : Arguments := [("to", .string "@y"), ("q", .string "z")]
    let request : Request :=
      { method := .get, url := ⟨"http", some "u@[::1]:8", "/@x/@y", none, none⟩
        query := ⟨[⟨"q", "z", false⟩]⟩ }
    let base : Url := ⟨"http", some "u@[::1]:8", "/", none, none⟩
    Url.parse a.settings.baseUrl = .ok base ∧ a.assemble op arguments = .ok request ∧
      request.fullUrl.destination = ("http", some "u@[::1]:8") := by
  intro a op arguments request base
  have hbase : Url.parse a.settings.baseUrl = .ok base := by cbv
  have h : a.assemble op arguments = .ok request := by cbv
  exact ⟨hbase, h, (destination_is_base hbase (Or.inl rfl) h).2⟩

end Assembler

end ApiCall
