import ApiCall.Proofs.Assembly.Headers

/-!
The cookies of an assembled request: those of its parameters in declaration order and that of the
credential, after what was set as a cookie header before. What was set is read as a text to be
joined, so it stays exactly if it is ASCII (`Assembler.cookies_kept_iff`).
-/

namespace ApiCall

/-- The cookies of a parameter. There are none outside the cookies. -/
def Parameter.cookies (p : Parameter) (r : Registry) (arguments : Arguments) : List String :=
  match p.directive.location,
    r.encode p.schema (arguments.lookup p.argumentName) { root := p.argumentName } with
  | .cookie, .ok items => p.directive.cookiePairs p.directive.name items
  | _, _ => []

/-- The cookie of the credential that was chosen, if it goes there. -/
def Injection.cookie? : Option (String × Injection) → Option String
  | some (_, .cookie name value) => some (name ++ "=" ++ value)
  | _ => none

/-- All cookies of a call. -/
def Assembler.cookies (a : Assembler) (op : Operation) (arguments : Arguments) : List String :=
  op.parameters.flatMap (fun p => p.cookies a.registry arguments) ++
    (Injection.cookie? (a.injection op)).toList

namespace Draft

variable {d d' : Draft}

theorem cookies_without_headers (d : Draft) (headers : Headers) :
    { d with headers }.cookies = d.cookies :=
  rfl

theorem withParameter_cookies {r : Registry} {arguments : Arguments} {p : Parameter}
    (h : d.withParameter r arguments p = .ok d') :
    d'.cookies = d.cookies ++ p.cookies r arguments := by
  obtain ⟨items, hitems, hstep⟩ := withParameter_step h
  rw [Parameter.cookies, hitems]
  cases hstep with
  | cookie hlocation =>
      rw [hlocation]
  | path hlocation | query hlocation | header hlocation | noHeader hlocation =>
      rw [hlocation]
      exact (List.append_nil _).symm

theorem withParameters_cookies {r : Registry} {arguments : Arguments}
    {parameters : List Parameter} (h : parameters.foldlM (withParameter r arguments) d = .ok d') :
    d'.cookies = d.cookies ++ parameters.flatMap fun p => p.cookies r arguments :=
  foldlM_gathers Draft.cookies _ (fun _ _ _ hstep => withParameter_cookies hstep) h

theorem withCredential_cookies {chosen : Option (String × Injection)}
    (h : d.withCredential chosen = .ok d') :
    d'.cookies = d.cookies ++ (Injection.cookie? chosen).toList := by
  rcases chosen with _ | ⟨scheme, ⟨name, value⟩ | ⟨name, value⟩ | ⟨name, value⟩⟩
  · cases h
    exact (List.append_nil _).symm
  · exact (withHeader_keeps cookies cookies_without_headers h).trans (List.append_nil _).symm
  · cases h
    exact (List.append_nil _).symm
  · cases h
    rfl

end Draft

namespace Assembler

variable {a : Assembler} {op : Operation} {arguments : Arguments} {request : Request}

theorem cookies_of_phases (phases : a.Phases op arguments request) :
    phases.secured.cookies = a.cookies op arguments := by
  have hview := Draft.cookies_without_headers
  have hstart : phases.start.cookies = [] :=
    Draft.withHeaders_keeps Draft.cookies hview phases.start_eq
  rw [Draft.withCredential_cookies phases.secured_eq,
    Draft.withPayload_keeps Draft.cookies hview phases.typed_eq,
    Draft.withParameters_cookies phases.parameters_eq, hstart,
    List.nil_append]
  rfl

/-- What is read back as the cookie header before the cookies are joined. -/
theorem text?_of_phases (phases : a.Phases op arguments request) :
    phases.secured.headers.text? "cookie" =
      (Headers.lastValue? (a.headers op arguments) "cookie").filter isAscii := by
  obtain ⟨hfit, _, hlookup⟩ := Headers.setAll_eq_ok Headers.isMap_empty (headers_of_phases phases)
  rw [Headers.text?, Headers.values, hlookup]
  cases hlast : Headers.lastValue? (a.headers op arguments) "cookie" with
  | none => rfl
  | some text =>
      obtain ⟨header, hmem, rfl⟩ := Headers.mem_of_lastValue? hlast
      exact (headerText?_bytesOf (hfit header hmem).value_bytes).trans rfl

/-- One more text in front makes a joined text longer. -/
private theorem intercalate_ne_cons (text : String) {texts : List String} (h : texts ≠ []) :
    "; ".intercalate texts ≠ "; ".intercalate (text :: texts) := by
  intro heq
  obtain ⟨first, rest, rfl⟩ := List.exists_cons_of_ne_nil h
  have hlength := congrArg (fun joined => joined.toList.length) heq
  simp only [String.toList_intercalate, List.map_cons, List.intercalate_cons_cons,
    List.length_append] at hlength
  have hseparator : "; ".toList.length = 2 := by decide
  omega

/-- The filter leaves the joined text as it is only if it leaves out nothing. -/
private theorem intercalate_filter_iff {before : Option String} {cookies : List String}
    (h : cookies ≠ []) :
    "; ".intercalate ((before.filter isAscii).toList ++ cookies) =
        "; ".intercalate (before.toList ++ cookies) ↔
      ∀ text, before = some text → isAscii text = true := by
  cases before with
  | none => simp
  | some text =>
      rw [Option.filter_some]
      split
      · rename_i hascii
        simp [hascii]
      · rename_i hlost
        constructor
        · intro heq
          exact absurd heq (intercalate_ne_cons text h)
        · intro hall
          exact absurd (hall text rfl) hlost

theorem cookie_of_phases (phases : a.Phases op arguments request) :
    request.headers.sentUnder "cookie" =
      if (a.cookies op arguments).isEmpty then
        ((Headers.lastValue? (a.headers op arguments) "cookie").map bytesOf).toList
      else
        [bytesOf ("; ".intercalate
          (((Headers.lastValue? (a.headers op arguments) "cookie").filter isAscii).toList ++
            a.cookies op arguments))] := by
  rw [sentUnder_of_phases phases, Draft.cookieHeader?, cookies_of_phases, text?_of_phases,
    Headers.lastValue?_append]
  split
  · rfl
  · rw [Option.toList_some, Headers.lastValue?_singleton, if_pos (sameIgnoringCase_iff.mpr rfl),
      Option.some_or]
    rfl

/-- Where there are cookies, they are joined behind the last cookie header that was set before, if
that is ASCII. A header outside ASCII is lost. Without cookies it is sent as it was set. -/
theorem cookies_kept_iff (h : a.assemble op arguments = .ok request) :
    let before := Headers.lastValue? (a.headers op arguments) "cookie"
    let cookies := a.cookies op arguments
    (∀ p ∈ op.parameters, ∃ items,
      a.registry.encode p.schema (arguments.lookup p.argumentName) { root := p.argumentName } =
        .ok items) ∧
    (cookies = [] → request.headers.sentUnder "cookie" = (before.map bytesOf).toList) ∧
    (cookies ≠ [] →
      request.headers.sentUnder "cookie" =
        [bytesOf ("; ".intercalate ((before.filter isAscii).toList ++ cookies))] ∧
      (request.headers.sentUnder "cookie" =
          [bytesOf ("; ".intercalate (before.toList ++ cookies))] ↔
        ∀ text, before = some text → isAscii text = true)) := by
  intro before cookies
  obtain ⟨phases⟩ := assemble_phases h
  have hsent := cookie_of_phases phases
  refine ⟨encode_of_phases phases, ?_, ?_⟩
  · intro hnone
    rw [hsent, if_pos (List.isEmpty_iff.mpr hnone)]
  · intro hsome
    rw [if_neg (mt List.isEmpty_iff.mp hsome)] at hsent
    refine ⟨hsent, ?_⟩
    rw [hsent, List.singleton_inj, bytesOf_inj]
    exact intercalate_filter_iff hsome

/-- A static cookie, one of a parameter and one of the credential. -/
theorem cookies_kept_of_ascii :
    let a : Assembler :=
      { settings :=
          { baseUrl := "http://[::1]/v1", headers := [("Cookie", "a=1")]
            securitySchemes := [("user", .apiKey "SID" .cookie)]
            credentials := [("user", .token "t0k")]
            security := [⟨[("user", [])]⟩] }
        boundary := "B" }
    let op : Operation :=
      { name := "me", method := .get, path := "/me"
        parameters :=
          [{ argumentName := "lang", schema := .scalar .string
             directive := { name := "lang", location := .cookie } }] }
    let arguments : Arguments := [("lang", .string "fr;")]
    let request : Request :=
      { method := .get, url := ⟨"http", some "[::1]", "/v1/me", none, none⟩
        headers := ⟨[("cookie", [bytesOf "a=1; lang=fr%3B; SID=t0k"])]⟩ }
    a.assemble op arguments = .ok request ∧
      a.cookies op arguments = ["lang=fr%3B", "SID=t0k"] ∧
      request.headers.sentUnder "cookie" = [bytesOf "a=1; lang=fr%3B; SID=t0k"] := by
  intro a op arguments request
  have h : a.assemble op arguments = .ok request := by cbv
  have hbefore : Headers.lastValue? (a.headers op arguments) "cookie" = some "a=1" := by cbv
  have hcookies : a.cookies op arguments = ["lang=fr%3B", "SID=t0k"] := by cbv
  have hkept := (cookies_kept_iff h).2.2
  rw [hbefore, hcookies] at hkept
  obtain ⟨_, hall⟩ := hkept (by decide)
  refine ⟨h, hcookies, ?_⟩
  rw [hall.mpr (by rintro text ⟨⟩; decide)]
  decide

/-- A static cookie outside ASCII is sent alone, and is lost when a parameter brings another. -/
theorem cookie_lost_beyond_ascii :
    let a : Assembler :=
      { settings := { baseUrl := "http://[::1]/v1", headers := [("Cookie", "name=é")] }
        boundary := "B" }
    let op : Operation :=
      { name := "me", method := .get, path := "/me"
        parameters :=
          [{ argumentName := "lang", schema := .nullable (.scalar .string)
             directive := { name := "lang", location := .cookie } }] }
    let request (cookie : String) : Request :=
      { method := .get, url := ⟨"http", some "[::1]", "/v1/me", none, none⟩
        headers := ⟨[("cookie", [bytesOf cookie])]⟩ }
    a.assemble op [] = .ok (request "name=é") ∧
      a.assemble op [("lang", .string "fr")] = .ok (request "lang=fr") ∧
      Headers.lastValue? (a.headers op [("lang", .string "fr")]) "cookie" = some "name=é" ∧
      a.cookies op [("lang", .string "fr")] = ["lang=fr"] ∧
      (request "lang=fr").headers.sentUnder "cookie" ≠ [bytesOf "name=é; lang=fr"] := by
  intro a op request
  refine ⟨by cbv, by cbv, by cbv, by cbv, by decide⟩

end Assembler

end ApiCall
