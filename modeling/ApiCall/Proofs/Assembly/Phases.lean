import ApiCall.Assembly
import ApiCall.Proofs.Success

/-!
The phases of assembling a request. A request that is returned has gone through all of them
(`Assembler.assemble_phases`); what one phase does to a draft is said once, so that whatever holds
of the request follows phase by phase. Headers are kept apart from the rest: a phase that only sets
headers changes nothing that is seen without them.
-/

namespace ApiCall

/-- The body of an operation. -/
def Operation.payload (op : Operation) (r : Registry) (boundary : String) (arguments : Arguments) :
    Except Error (Option Payload) :=
  match op.body with
  | none => .ok none
  | some spec => spec.build r boundary (arguments.lookup spec.argumentName) arguments

namespace Draft

/-- Sets the content type of a body, if there is one. -/
def withPayload (d : Draft) : Option Payload → Except Error Draft
  | none => .ok d
  | some payload => d.withHeader "content-type" payload.contentType

/-- Adds the credential of a scheme, if one is chosen. -/
def withCredential (d : Draft) : Option (String × Injection) → Except Error Draft
  | none => .ok d
  | some (_, injection) => d.withInjection injection

/-- What a parameter does to a draft. Its location decides, and a header without a value does
nothing. -/
inductive ParameterStep (d : Draft) (p : Parameter) (items : Items) : Draft → Prop where
  | path {path : String} (hlocation : p.directive.location = .path) (hitems : items ≠ [])
      (hpath : PathTemplate.substitute d.path p.directive.name items = .ok path) :
      ParameterStep d p items { d with path }
  | query (hlocation : p.directive.location = .query) :
      ParameterStep d p items { d with
        query :=
          d.query.extend (p.directive.entries p.directive.name items) p.directive.allowReserved }
  | header {value : String} {headers : Headers} (hlocation : p.directive.location = .header)
      (hvalue : items.headerText (p.directive.explode.getD false) = some value)
      (hheaders : d.headers.set p.directive.name value = .ok headers) :
      ParameterStep d p items { d with headers }
  | noHeader (hlocation : p.directive.location = .header)
      (hvalue : items.headerText (p.directive.explode.getD false) = none) :
      ParameterStep d p items d
  | cookie (hlocation : p.directive.location = .cookie) :
      ParameterStep d p items { d with
        cookies := d.cookies ++ p.directive.cookiePairs p.directive.name items }

theorem withParameter_step {r : Registry} {arguments : Arguments} {d d' : Draft} {p : Parameter}
    (h : d.withParameter r arguments p = .ok d') :
    ∃ items, r.encode p.schema (arguments.lookup p.argumentName) { root := p.argumentName } =
      .ok items ∧ d.ParameterStep p items d' := by
  obtain ⟨items, hitems, hadded⟩ := bind_eq_ok.mp h
  refine ⟨items, hitems, ?_⟩
  unfold withItems at hadded
  cases hlocation : p.directive.location with
  | path =>
      simp only [hlocation] at hadded
      split at hadded
      · cases hadded
      · rename_i hempty
        obtain ⟨path, hpath, hlast⟩ := bind_eq_ok.mp hadded
        cases hlast
        exact .path hlocation (fun hnil => hempty (hnil ▸ rfl)) hpath
  | query =>
      simp only [hlocation] at hadded
      cases hadded
      exact .query hlocation
  | header =>
      simp only [hlocation] at hadded
      split at hadded
      · rename_i value hvalue
        obtain ⟨headers, hheaders, hlast⟩ := bind_eq_ok.mp hadded
        cases hlast
        exact .header hlocation hvalue hheaders
      · rename_i hvalue
        cases hadded
        exact .noHeader hlocation hvalue
  | cookie =>
      simp only [hlocation] at hadded
      cases hadded
      exact .cookie hlocation
  | formField =>
      simp only [hlocation] at hadded
      cases hadded

section Keeps

variable {γ : Type} (view : Draft → γ) (hview : ∀ d headers, view { d with headers } = view d)
include hview

theorem withHeader_keeps {d d' : Draft} {name value : String}
    (h : d.withHeader name value = .ok d') : view d' = view d := by
  obtain ⟨headers, _, hlast⟩ := bind_eq_ok.mp h
  cases hlast
  exact hview d headers

theorem withHeaders_keeps {headers : List (String × String)} {d d' : Draft}
    (h : headers.foldlM (fun d (name, value) => d.withHeader name value) d = .ok d') :
    view d' = view d :=
  foldlM_keeps view (fun _ _ _ hstep => withHeader_keeps view hview hstep) h

theorem withPayload_keeps {d d' : Draft} {body : Option Payload}
    (h : d.withPayload body = .ok d') : view d' = view d := by
  cases body with
  | none =>
      cases h
      rfl
  | some payload => exact withHeader_keeps view hview h

theorem withCookieHeader_keeps {d d' : Draft} (h : d.withCookieHeader = .ok d') :
    view d' = view d := by
  unfold withCookieHeader at h
  split at h
  · cases h
    rfl
  · exact withHeader_keeps view hview h

end Keeps

end Draft

/-- A request and the drafts it went through, one for each phase. -/
structure Assembler.Phases (a : Assembler) (op : Operation) (arguments : Arguments)
    (request : Request) where
  start : Draft
  parameters : Draft
  body : Option Payload
  typed : Draft
  secured : Draft
  final : Draft
  url : Url
  start_eq : a.settings.headers.foldlM (fun d (name, value) => d.withHeader name value)
    ({ path := op.path } : Draft) = .ok start
  parameters_eq : op.parameters.foldlM (Draft.withParameter a.registry arguments) start =
    .ok parameters
  body_eq : op.payload a.registry a.boundary arguments = .ok body
  typed_eq : parameters.withPayload body = .ok typed
  secured_eq : typed.withCredential (a.injection op) = .ok secured
  final_eq : secured.withCookieHeader = .ok final
  url_eq : joinUrl a.settings.baseUrl final.path = .ok url
  request_eq : request = {
    method := op.method, url, query := final.query, headers := final.headers, body,
    timeout := a.settings.resolveTimeout op.timeout, retry := a.settings.resolveRetry op.retry }

theorem Assembler.Phases.request_body {a : Assembler} {op : Operation} {arguments : Arguments}
    {request : Request} (phases : a.Phases op arguments request) :
    request.body = phases.body :=
  congrArg Request.body phases.request_eq

theorem Assembler.Phases.request_headers {a : Assembler} {op : Operation} {arguments : Arguments}
    {request : Request} (phases : a.Phases op arguments request) :
    request.headers = phases.final.headers :=
  congrArg Request.headers phases.request_eq

theorem Assembler.assemble_phases {a : Assembler} {op : Operation} {arguments : Arguments}
    {request : Request} (h : a.assemble op arguments = .ok request) :
    Nonempty (a.Phases op arguments request) := by
  unfold assemble at h
  obtain ⟨⟨typed, body⟩, hdraft, hfinish⟩ := bind_eq_ok.mp h
  unfold draft at hdraft
  obtain ⟨start, hstart, hdraft⟩ := bind_eq_ok.mp hdraft
  obtain ⟨parameters, hparameters, hdraft⟩ := bind_eq_ok.mp hdraft
  have hbody : op.payload a.registry a.boundary arguments = .ok body ∧
      parameters.withPayload body = .ok typed := by
    unfold Operation.payload
    cases hspec : op.body with
    | none =>
        simp only [hspec] at hdraft
        cases hdraft
        exact ⟨rfl, rfl⟩
    | some spec =>
        simp only [hspec] at hdraft
        obtain ⟨payload, hpayload, hdraft⟩ := bind_eq_ok.mp hdraft
        cases payload with
        | none =>
            cases hdraft
            exact ⟨hpayload, rfl⟩
        | some payload =>
            obtain ⟨d, hd, hdraft⟩ := bind_eq_ok.mp hdraft
            cases hdraft
            exact ⟨hpayload, hd⟩
  -- the rest of the pipeline, with its match on the credential folded into one phase
  replace hfinish : (typed.withCredential (a.injection op) >>= fun d =>
      d.withCookieHeader >>= fun d => joinUrl a.settings.baseUrl d.path >>= fun url =>
        pure {
          method := op.method, url, query := d.query, headers := d.headers, body,
          timeout := a.settings.resolveTimeout op.timeout,
          retry := a.settings.resolveRetry op.retry }) = .ok request := by
    unfold finish at hfinish
    rcases hinjection : a.injection op with _ | ⟨scheme, injection⟩ <;>
      simp only [hinjection] at hfinish ⊢ <;> exact hfinish
  obtain ⟨secured, hsecured, hfinish⟩ := bind_eq_ok.mp hfinish
  obtain ⟨final, hfinal, hfinish⟩ := bind_eq_ok.mp hfinish
  obtain ⟨url, hurl, hfinish⟩ := bind_eq_ok.mp hfinish
  exact ⟨⟨start, parameters, body, typed, secured, final, url, hstart, hparameters, hbody.1,
    hbody.2, hsecured, hfinal, hurl, (Except.ok.inj hfinish).symm⟩⟩

end ApiCall
