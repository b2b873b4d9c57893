import ApiCall.Proofs.Assembly.Phases
import ApiCall.Proofs.Query.ReadBack

/-!
The query of an assembled request holds the entries of the query parameters in declaration order and
then those of the credential (`Assembler.query_of_phases`), and its text reads back as these.
-/

namespace ApiCall

/-- The query entries of a parameter. There are none outside the query. -/
def Parameter.queryEntries (p : Parameter) (r : Registry) (arguments : Arguments) :
    List QueryEntry :=
  match p.directive.location,
    r.encode p.schema (arguments.lookup p.argumentName) { root := p.argumentName } with
  | .query, .ok items =>
    (p.directive.entries p.directive.name items).map fun (key, value) =>
      ⟨key, value, p.directive.allowReserved⟩
  | _, _ => []

/-- The query entry of the credential that was chosen, if it goes there. -/
def Injection.queryEntries : Option (String × Injection) → List QueryEntry
  | some (_, .query name value) => [⟨name, value, false⟩]
  | _ => []

/-- All query entries of a call. -/
def Assembler.queryEntries (a : Assembler) (op : Operation) (arguments : Arguments) :
    List QueryEntry :=
  op.parameters.flatMap (fun p => p.queryEntries a.registry arguments) ++
    Injection.queryEntries (a.injection op)

namespace Draft

theorem query_without_headers (d : Draft) (headers : Headers) :
    { d with headers }.query = d.query :=
  rfl

theorem withParameter_query {r : Registry} {arguments : Arguments} {d d' : Draft} {p : Parameter}
    (h : d.withParameter r arguments p = .ok d') :
    d'.query.entries = d.query.entries ++ p.queryEntries r arguments := by
  obtain ⟨items, hitems, hstep⟩ := withParameter_step h
  rw [Parameter.queryEntries, hitems]
  cases hstep with
  | query hlocation =>
      rw [hlocation]
      rfl
  | path hlocation | header hlocation | noHeader hlocation | cookie hlocation =>
      rw [hlocation]
      exact (List.append_nil _).symm

theorem withParameters_query {r : Registry} {arguments : Arguments} {d d' : Draft}
    {parameters : List Parameter} (h : parameters.foldlM (withParameter r arguments) d = .ok d') :
    d'.query.entries = d.query.entries ++ parameters.flatMap fun p => p.queryEntries r arguments :=
  foldlM_gathers (fun d : Draft => d.query.entries) _
    (fun _ _ _ hstep => withParameter_query hstep) h

theorem withCredential_query {d d' : Draft} {chosen : Option (String × Injection)}
    (h : d.withCredential chosen = .ok d') :
    d'.query.entries = d.query.entries ++ Injection.queryEntries chosen := by
  rcases chosen with _ | ⟨scheme, ⟨name, value⟩ | ⟨name, value⟩ | ⟨name, value⟩⟩
  · cases h
    simp [Injection.queryEntries]
  · simp [withHeader_keeps query query_without_headers h, Injection.queryEntries]
  · cases h
    simp [QueryString.append, Injection.queryEntries]
  · cases h
    simp [Injection.queryEntries]

end Draft

namespace Assembler

variable {a : Assembler} {op : Operation} {arguments : Arguments} {request : Request}

theorem query_of_phases (phases : a.Phases op arguments request) :
    request.query.entries = a.queryEntries op arguments := by
  have hview := Draft.query_without_headers
  rw [phases.request_eq, queryEntries]
  calc phases.final.query.entries
      = phases.secured.query.entries := by
        rw [Draft.withCookieHeader_keeps Draft.query hview phases.final_eq]
    _ = phases.typed.query.entries ++ Injection.queryEntries (a.injection op) :=
        Draft.withCredential_query phases.secured_eq
    _ = phases.parameters.query.entries ++ Injection.queryEntries (a.injection op) := by
        rw [Draft.withPayload_keeps Draft.query hview phases.typed_eq]
    _ = _ := by
        rw [Draft.withParameters_query phases.parameters_eq,
          Draft.withHeaders_keeps Draft.query hview phases.start_eq,
          List.nil_append]

theorem encode_of_phases (phases : a.Phases op arguments request) :
    ∀ p ∈ op.parameters, ∃ items,
      a.registry.encode p.schema (arguments.lookup p.argumentName) { root := p.argumentName } =
        .ok items := by
  intro p hp
  obtain ⟨d, d', hstep⟩ := foldlM_steps phases.parameters_eq p hp
  obtain ⟨items, hitems, _⟩ := bind_eq_ok.mp hstep
  exact ⟨items, hitems⟩

/-- The query text of a request is read back as the entries of its query parameters, in declaration
order, and of its credential. Entries that allow reserved characters must not hold the delimiters
themselves; in their text, reserved and unreserved characters stand and every other byte is a
triplet. -/
theorem assemble_query_reads_back (h : a.assemble op arguments = .ok request) :
    (∀ p ∈ op.parameters, ∃ items,
      a.registry.encode p.schema (arguments.lookup p.argumentName) { root := p.argumentName } =
        .ok items) ∧
    ((∀ e ∈ a.queryEntries op arguments, e.allowReserved = true →
        '&' ∉ e.key.toList ∧ '=' ∉ e.key.toList ∧ '&' ∉ e.value.toList) →
      QueryString.read? request.query.text =
        some ((a.queryEntries op arguments).map fun e => (e.key, e.value))) ∧
    (request.query.text = "" ↔ a.queryEntries op arguments = []) ∧
    request.query.text = "&".intercalate ((a.queryEntries op arguments).map QueryEntry.text) ∧
    ∀ e ∈ a.queryEntries op arguments, e.allowReserved = true →
      let escaped (text : String) : Bytes := (bytesOf text).flatMap
        (Percent.escapeByte fun c => Percent.isUnreserved c || Percent.isReserved c)
      bytesOf e.text = escaped e.key ++ bytesOf "=" ++ escaped e.value := by
  obtain ⟨phases⟩ := assemble_phases h
  have hquery := query_of_phases phases
  rw [← hquery]
  refine ⟨encode_of_phases phases, fun hseparable => QueryString.read?_text hseparable,
    QueryString.text_eq_empty_iff _, rfl, ?_⟩
  intro e _ hallowed
  have hkept : Percent.isQueryKept e.allowReserved =
      fun c => Percent.isUnreserved c || Percent.isReserved c := by
    funext c
    simp [Percent.isQueryKept, hallowed]
  have hequals : bytesOf "=" = [61] := by decide
  rw [e.bytesOf_text, hkept, hequals]

/-- Mixed flags, delimiters inside values, a name outside ASCII and a key from the credentials. -/
theorem assemble_query_reads_back_mixed :
    let a : Assembler :=
      { settings :=
          { baseUrl := "http://[::1]/v1"
            securitySchemes := [("key", .apiKey "api key" .query)]
            credentials := [("key", .token "s&t")]
            security := [⟨[("key", [])]⟩] }
        boundary := "B" }
    let op : Operation :=
      { name := "find", method := .get, path := "/pets"
        parameters :=
          [{ argumentName := "q", schema := .scalar .string, directive := { name := "q" } },
           { argumentName := "at", schema := .scalar .string
             directive := { name := "at", allowReserved := true } }] }
    let arguments : Arguments := [("q", .string "a=b&c"), ("at", .string "x=/é")]
    let request : Request :=
      { method := .get, url := ⟨"http", some "[::1]", "/v1/pets", none, none⟩
        query := ⟨[⟨"q", "a=b&c", false⟩, ⟨"at", "x=/é", true⟩, ⟨"api key", "s&t", false⟩]⟩ }
    a.assemble op arguments = .ok request ∧
      QueryString.read? request.query.text =
        some [("q", "a=b&c"), ("at", "x=/é"), ("api key", "s&t")] := by
  intro a op arguments request
  have h : a.assemble op arguments = .ok request := by cbv
  have hentries : a.queryEntries op arguments = request.query.entries := by cbv
  have hread := (assemble_query_reads_back h).2.1
  rw [hentries] at hread
  exact ⟨h, hread (by decide)⟩

end Assembler

end ApiCall
