import ApiCall.Proofs.Assembly.Query
import ApiCall.Proofs.Header.LastWrite

/-!
The headers of an assembled request. They are set one after the other: those of the server, those of
the parameters, the content type of the body and that of the credential
(`Assembler.headers_of_phases`). All but the cookie header stay as they were set, so of several
headers of one name the last one is sent (`Assembler.last_header_is_sent`).
-/

namespace ApiCall

/-- The header of a parameter, if it has one. There is none outside the headers. -/
def Parameter.header? (p : Parameter) (r : Registry) (arguments : Arguments) :
    Option (String × String) :=
  match p.directive.location,
    r.encode p.schema (arguments.lookup p.argumentName) { root := p.argumentName } with
  | .header, .ok items =>
    (items.headerText (p.directive.explode.getD false)).map fun value => (p.directive.name, value)
  | _, _ => none

/-- The header that tells the content type of a body. -/
def Payload.header (payload : Payload) : String × String :=
  ("content-type", payload.contentType)

/-- The body of an operation, if it has one that can be built. -/
def Operation.payload? (op : Operation) (r : Registry) (boundary : String)
    (arguments : Arguments) : Option Payload :=
  (op.payload r boundary arguments).toOption.join

/-- The header of the credential that was chosen, if it goes there. -/
def Injection.header? : Option (String × Injection) → Option (String × String)
  | some (_, .header name value) => some (name, value)
  | _ => none

/-- All headers of a call in the order in which they are set, but for the joined cookies. -/
def Assembler.headers (a : Assembler) (op : Operation) (arguments : Arguments) :
    List (String × String) :=
  a.settings.headers ++
    op.parameters.filterMap (fun p => p.header? a.registry arguments) ++
    ((op.payload? a.registry a.boundary arguments).map Payload.header).toList ++
    (Injection.header? (a.injection op)).toList

namespace Draft

variable {d d' : Draft}

theorem withHeader_headers {name value : String} (h : d.withHeader name value = .ok d') :
    d.headers.setAll [(name, value)] = .ok d'.headers := by
  obtain ⟨headers, hheaders, hlast⟩ := bind_eq_ok.mp h
  cases hlast
  exact bind_eq_ok.mpr ⟨headers, hheaders, rfl⟩

theorem withHeaders_headers {headers : List (String × String)}
    (h : headers.foldlM (fun d (name, value) => d.withHeader name value) d = .ok d') :
    d.headers.setAll headers = .ok d'.headers := by
  have hacts := foldlM_acts (fun d : Draft => d.headers) (fun header => [header])
    (fun _ _ _ hstep => withHeader_headers hstep) h
  rwa [List.flatMap_singleton'] at hacts

theorem withParameter_headers {r : Registry} {arguments : Arguments} {p : Parameter}
    (h : d.withParameter r arguments p = .ok d') :
    d.headers.setAll (p.header? r arguments).toList = .ok d'.headers := by
  obtain ⟨items, hitems, hstep⟩ := withParameter_step h
  rw [Parameter.header?, hitems]
  cases hstep with
  | header hlocation hvalue hheaders =>
      rw [hlocation]
      dsimp only
      rw [hvalue]
      exact bind_eq_ok.mpr ⟨_, hheaders, rfl⟩
  | noHeader hlocation hvalue =>
      rw [hlocation]
      dsimp only
      rw [hvalue]
      rfl
  | path hlocation | query hlocation | cookie hlocation =>
      rw [hlocation]
      rfl

theorem withParameters_headers {r : Registry} {arguments : Arguments} {parameters : List Parameter}
    (h : parameters.foldlM (withParameter r arguments) d = .ok d') :
    d.headers.setAll (parameters.filterMap fun p => p.header? r arguments) = .ok d'.headers := by
  rw [List.filterMap_eq_flatMap_toList]
  exact foldlM_acts (fun d : Draft => d.headers) _
    (fun _ _ _ hstep => withParameter_headers hstep) h

theorem withPayload_headers {body : Option Payload} (h : d.withPayload body = .ok d') :
    d.headers.setAll (body.map Payload.header).toList = .ok d'.headers := by
  cases body with
  | none =>
      cases h
      rfl
  | some payload => exact withHeader_headers h

theorem withCredential_headers {chosen : Option (String × Injection)}
    (h : d.withCredential chosen = .ok d') :
    d.headers.setAll (Injection.header? chosen).toList = .ok d'.headers := by
  rcases chosen with _ | ⟨scheme, ⟨name, value⟩ | ⟨name, value⟩ | ⟨name, value⟩⟩
  · cases h
    rfl
  · exact withHeader_headers h
  · cases h
    rfl
  · cases h
    rfl

/-- The header that joins all cookies after those that are set already, if there is a cookie. -/
def cookieHeader? (d : Draft) : Option (String × String) :=
  if d.cookies.isEmpty then none
  else some ("cookie", "; ".intercalate ((d.headers.text? "cookie").toList ++ d.cookies))

theorem withCookieHeader_headers (h : d.withCookieHeader = .ok d') :
    d.headers.setAll d.cookieHeader?.toList = .ok d'.headers := by
  unfold withCookieHeader at h
  unfold cookieHeader?
  split at h
  · rename_i hempty
    cases h
    rw [if_pos hempty]
    rfl
  · rename_i hempty
    rw [if_neg hempty]
    exact withHeader_headers h

end Draft

namespace Assembler

variable {a : Assembler} {op : Operation} {arguments : Arguments} {request : Request}

theorem payload?_of_phases (phases : a.Phases op arguments request) :
    op.payload? a.registry a.boundary arguments = phases.body := by
  rw [Operation.payload?, phases.body_eq]
  cases phases.body <;> rfl

theorem headers_of_phases (phases : a.Phases op arguments request) :
    ({} : Headers).setAll (a.headers op arguments) = .ok phases.secured.headers := by
  have hstart : ({} : Headers).setAll a.settings.headers = .ok phases.start.headers :=
    Draft.withHeaders_headers phases.start_eq
  have hparameters : phases.start.headers.setAll
      (op.parameters.filterMap fun p => p.header? a.registry arguments) =
        .ok phases.parameters.headers :=
    Draft.withParameters_headers phases.parameters_eq
  have htyped : phases.parameters.headers.setAll
      ((op.payload? a.registry a.boundary arguments).map Payload.header).toList =
        .ok phases.typed.headers := by
    rw [payload?_of_phases phases]
    exact Draft.withPayload_headers phases.typed_eq
  have hsecured := Draft.withCredential_headers phases.secured_eq
  have hdraft := Headers.setAll_append (Headers.setAll_append hstart hparameters) htyped
  exact Headers.setAll_append hdraft hsecured

/-- A request has the last header of each name, the joined cookies being the very last. -/
theorem sentUnder_of_phases (phases : a.Phases op arguments request) (name : String) :
    request.headers.sentUnder name =
      ((Headers.lastValue? (a.headers op arguments ++ phases.secured.cookieHeader?.toList)
        name).map bytesOf).toList := by
  have hfinal := Headers.setAll_append (headers_of_phases phases)
    (Draft.withCookieHeader_headers phases.final_eq)
  rw [phases.request_headers]
  exact Headers.sentUnder_of_setAll hfinal name

/-- Every header of a call is fit to be sent, also one that a later header of its name replaces.
Under a name other than that of the cookies, the request has the value of the last header of this
name in any case and nothing else, so a credential stands before all others. -/
theorem last_header_is_sent (h : a.assemble op arguments = .ok request) :
    (∀ p ∈ op.parameters, ∃ items,
      a.registry.encode p.schema (arguments.lookup p.argumentName) { root := p.argumentName } =
        .ok items) ∧
    op.payload a.registry a.boundary arguments = .ok request.body ∧
    (∀ header ∈ a.headers op arguments, IsHeaderText header.1 header.2) ∧
    (∀ name, sameIgnoringCase name "cookie" = false →
      request.headers.sentUnder name =
        ((Headers.lastValue? (a.headers op arguments) name).map bytesOf).toList) ∧
    ∀ scheme name value, a.injection op = some (scheme, .header name value) →
      sameIgnoringCase name "cookie" = false →
        request.headers.sentUnder name = [bytesOf value] := by
  obtain ⟨phases⟩ := assemble_phases h
  obtain ⟨hfit, _, _⟩ := Headers.setAll_eq_ok Headers.isMap_empty (headers_of_phases phases)
  have hsent : ∀ name, sameIgnoringCase name "cookie" = false →
      request.headers.sentUnder name =
        ((Headers.lastValue? (a.headers op arguments) name).map bytesOf).toList := by
    intro name hname
    have hcookies : Headers.lastValue? phases.secured.cookieHeader?.toList name = none := by
      unfold Draft.cookieHeader?
      split
      · rfl
      · rw [Option.toList_some, Headers.lastValue?_singleton, sameIgnoringCase_comm, hname]
        rfl
    rw [sentUnder_of_phases phases, Headers.lastValue?_append, hcookies, Option.none_or]
  refine ⟨encode_of_phases phases, ?_, hfit, hsent, ?_⟩
  · rw [phases.body_eq, phases.request_body]
  · intro scheme name value hinjection hname
    have hlast : Headers.lastValue? (a.headers op arguments) name = some value := by
      rw [headers, hinjection, Headers.lastValue?_append, Injection.header?, Option.toList_some,
        Headers.lastValue?_singleton, if_pos (sameIgnoringCase_iff.mpr rfl), Option.some_or]
    rw [hsent name hname, hlast]
    rfl

/-- Four headers of one name in as many spellings, of which the credential is the last, and a
parameter without a value. -/
theorem last_header_is_sent_of_credential :
    let a : Assembler :=
      { settings :=
          { baseUrl := "http://[::1]/v1"
            headers := [("AUTH", "none"), ("aUTH", "é")]
            securitySchemes := [("user", .apiKey "Auth" .header)]
            credentials := [("user", .token "t0k")]
            security := [⟨[("user", [])]⟩] }
        boundary := "B" }
    let parameter (name : String) : Parameter :=
      { argumentName := name, schema := .nullable (.scalar .string)
        directive := { name, location := .header } }
    let op : Operation :=
      { name := "list", method := .get, path := "/pets"
        parameters := [parameter "auth", parameter "Id"] }
    let arguments : Arguments := [("auth", .string "guest")]
    let request : Request :=
      { method := .get, url := ⟨"http", some "[::1]", "/v1/pets", none, none⟩
        headers := ⟨[("auth", [bytesOf "t0k"])]⟩ }
    let headers : List (String × String) :=
      [("AUTH", "none"), ("aUTH", "é"), ("auth", "guest"), ("Auth", "t0k")]
    a.assemble op arguments = .ok request ∧ a.headers op arguments = headers ∧
      request.headers.sentUnder "autH" = [bytesOf "t0k"] ∧
      request.headers.sentUnder "Id" = [] := by
  intro a parameter op arguments request headers
  have h : a.assemble op arguments = .ok request := by cbv
  have hheaders : a.headers op arguments = headers := by cbv
  have hsent := (last_header_is_sent h).2.2.2.1
  rw [hheaders] at hsent
  refine ⟨h, hheaders, ?_, ?_⟩
  · rw [hsent "autH" (by decide)]
    decide
  · rw [hsent "Id" (by decide)]
    decide

end Assembler

end ApiCall
