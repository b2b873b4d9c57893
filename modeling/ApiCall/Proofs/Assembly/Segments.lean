import ApiCall.Proofs.Assembly.Path
import ApiCall.Proofs.Path.Segments
import ApiCall.Proofs.Url.Below
import Mathlib

/-!
Where an argument ends up in the URL. The segments of the URL are those of the base and then those
of the template with the values in their places, unless a segment comes out as one or two dots, or
the first of several as empty. The escapes of a value do not prevent this: dots and empty texts
have nothing to escape (`Assembler.segments_eq_iff`).
-/

namespace ApiCall

/-- The decoded segments of the path. -/
def Url.segments (u : Url) : List Bytes :=
  (UrlPath.readSegments u.path.toList).map UrlPath.decodeSegment

/-! ### URLs below a base -/

/-- The text below a base: the base without the slashes at its end, one slash and the path without
those at its start. -/
theorem joinUrl_eq_ok_iff {base path : String} {url : Url} (hbase : base.isEmpty = false) :
    joinUrl base path = .ok url ↔
      Url.parse (String.ofList ((base.toList.reverse.dropWhile (· == '/')).reverse ++
        '/' :: path.toList.dropWhile (· == '/'))) = .ok url := by
  simp only [joinUrl, hbase, Bool.false_eq_true, if_false]
  split
  · rename_i heq
    rw [heq]
    simp
  · rename_i heq
    rw [heq]
    simp

theorem not_isEmpty_of_joinUrl {base : String} {directory : Url}
    (h : joinUrl base "" = .ok directory) : base.isEmpty = false := by
  cases hbase : base.isEmpty with
  | false => rfl
  | true =>
      have hfault : Url.parse "" = .error .noBase := rfl
      simp only [joinUrl, hbase, if_true, hfault] at h
      cases h

theorem segments_of_path {url : Url} {port : Nat} {cs : List Char}
    {before segments : List (List Char)}
    (hpath : url.path = String.ofList (UrlPath.read (.network port) cs))
    (hread : UrlPath.segments (.network port) cs = (UrlPath.resolve false before segments).reverse)
    (hne : segments ≠ []) (hbefore : ∀ segment ∈ before, '/' ∉ segment)
    (hsegments : ∀ segment ∈ segments, '/' ∉ segment) :
    url.segments =
      (UrlPath.resolve false before segments).reverse.map UrlPath.decodeSegment := by
  have hslash : ∀ segment ∈ (UrlPath.resolve false before segments).reverse, '/' ∉ segment := by
    intro segment hmem
    exact UrlPath.not_mem_resolve hbefore hsegments segment (List.mem_reverse.mp hmem)
  have htext (segments : List (List Char)) :
      UrlPath.text (.network port) segments = UrlPath.join segments := rfl
  have hresolved : (UrlPath.resolve false before segments).reverse ≠ [] := by
    simpa using UrlPath.resolve_ne_nil hne before
  rw [Url.segments, hpath, String.toList_ofList, UrlPath.read, hread, htext,
    UrlPath.readSegments_join hresolved hslash]

/-- A path below a base: the segments of the base stay, and those of the path are resolved. -/
theorem joinUrl_below {base : String} {directory : Url} {port : Nat}
    (hdirectory : joinUrl base "" = .ok directory)
    (hkind : SchemeKind.ofName directory.scheme = .network port)
    (hquery : directory.query = none) (hfragment : directory.fragment = none) :
    ∃ before : List (List Char),
      directory.segments = before.reverse.map UrlPath.decodeSegment ++ [[]] ∧
      ∀ path : String, (∀ c ∈ path.toList, 32 < c.toNat ∧ c ≠ '#' ∧ c ≠ '?' ∧ c ≠ '\\') →
        ∃ url, joinUrl base path = .ok url ∧
          url.segments = (UrlPath.resolve false before
            (Split.pieces '/' (path.toList.dropWhile (· == '/')))).reverse.map
              UrlPath.decodeSegment := by
  have hbase := not_isEmpty_of_joinUrl hdirectory
  have hparse := (joinUrl_eq_ok_iff hbase).mp hdirectory
  obtain ⟨start, hbelow⟩ := Url.parse_below hparse hkind hquery hfragment
  obtain ⟨before, hbefore, hsegments⟩ := UrlPath.segments_below port start
  have hread {url : Url} {extra : List Char} (hextra : '\\' ∉ extra)
      (hpath : url.path = String.ofList (UrlPath.read (.network port) (start ++ '/' :: extra))) :
      url.segments = (UrlPath.resolve false before (Split.pieces '/' extra)).reverse.map
        UrlPath.decodeSegment :=
    segments_of_path hpath (hsegments extra hextra) (Split.pieces_ne_nil _ _) hbefore
      fun _ hmem => Split.not_mem_of_mem_pieces hmem
  refine ⟨before, ?_, ?_⟩
  · have hself := Except.ok.inj (hparse.symm.trans (hbelow [] (List.forall_mem_nil _)))
    rw [hread List.not_mem_nil (congrArg Url.path hself), UrlPath.resolve_empty,
      List.reverse_cons, List.map_append]
    rfl
  · intro path hpath
    have hdrop : ∀ c ∈ path.toList.dropWhile (· == '/'), c ∈ path.toList :=
      fun c hc => (List.dropWhile_sublist _).mem hc
    have hparsed := hbelow _ fun c hc =>
      ⟨(hpath c (hdrop c hc)).1, (hpath c (hdrop c hc)).2.1, (hpath c (hdrop c hc)).2.2.1⟩
    refine ⟨_, (joinUrl_eq_ok_iff hbase).mpr hparsed, hread ?_ rfl⟩
    intro hmem
    exact (hpath _ (hdrop _ hmem)).2.2.2 rfl

/-! ### The segments of a template -/

/-- The names of the path parameters. -/
def Operation.pathNames (op : Operation) : List String :=
  (op.parameters.filter (·.directive.location = .path)).map (·.directive.name)

/-- The path of the operation has these segments, made of unreserved text and of places for its path
parameters. -/
structure Operation.HasSegments (op : Operation) (segments : List (List PathTemplate.Piece)) :
    Prop where
  nonempty : segments ≠ []
  path : op.path = PathTemplate.text (PathTemplate.ofSegments segments) ∨
    op.path = PathTemplate.text (.literal "/" :: PathTemplate.ofSegments segments)
  pieces : ∀ segment ∈ segments, PathTemplate.IsFilledBy op.pathNames segment
  names : ∀ name ∈ op.pathNames, '\x7d' ∉ name.toList

namespace Assembler

variable {a : Assembler} {op : Operation} {arguments : Arguments} {request : Request}

theorem mem_pathTexts_of_phases (phases : a.Phases op arguments request) :
    ∀ name ∈ op.pathNames, name ∈ (op.pathTexts a.registry arguments).map Prod.fst := by
  intro name hname
  obtain ⟨p, hp, rfl⟩ := List.mem_map.mp hname
  obtain ⟨hp, hlocation⟩ := List.mem_filter.mp hp
  obtain ⟨text, htext⟩ := pathText_of_phases phases hp (of_decide_eq_true hlocation)
  exact List.mem_map.mpr ⟨_, htext, rfl⟩

/-- The path of a request, behind the slash that it may begin with. -/
theorem toList_path_of_phases (phases : a.Phases op arguments request)
    {segments : List (List PathTemplate.Piece)} (hop : op.HasSegments segments) :
    ∃ start : List Char, (start = [] ∨ start = ['/']) ∧
      phases.final.path.toList = start ++ List.intercalate ['/']
        ((segments.map (PathTemplate.fillSegment (op.pathTexts a.registry arguments))).map
          PathTemplate.escaped) := by
  have hfilled := PathTemplate.toList_text_fill fun segment hmem =>
    (hop.pieces segment hmem).mono (mem_pathTexts_of_phases phases)
  have hbraces := PathTemplate.braceFree_ofSegments fun segment hmem =>
    (hop.pieces segment hmem).braceFree
  have hnames : ∀ p ∈ op.parameters, p.directive.location = .path →
      '\x7d' ∉ p.directive.name.toList := by
    intro p hp hlocation
    refine hop.names _ (List.mem_map.mpr ⟨p, List.mem_filter.mpr ⟨hp, ?_⟩, rfl⟩)
    exact decide_eq_true hlocation
  rcases hop.path with hpath | hpath
  · refine ⟨[], Or.inl rfl, ?_⟩
    rw [path_of_phases phases hpath hbraces hnames, hfilled, List.nil_append]
  · refine ⟨['/'], Or.inr rfl, ?_⟩
    have hslash : (PathTemplate.Piece.literal "/").BraceFree := ⟨by decide, by decide⟩
    rw [path_of_phases phases hpath (List.forall_mem_cons.mpr ⟨hslash, hbraces⟩) hnames, ← hfilled,
      PathTemplate.text, PathTemplate.text, String.toList_ofList, String.toList_ofList,
      List.map_cons, List.flatMap_cons]
    rfl

/-- The base is taken as a directory, with one slash at its end. The segments of the URL are those
of the directory and then those of the template, with the values in their places, exactly when no
segment comes out as one or two dots and the first one of several does not come out as empty. -/
theorem segments_eq_iff (h : a.assemble op arguments = .ok request) {directory : Url}
    (hdirectory : joinUrl a.settings.baseUrl "" = .ok directory)
    (hscheme : directory.scheme = "http" ∨ directory.scheme = "https")
    (hquery : directory.query = none) (hfragment : directory.fragment = none)
    {segments : List (List PathTemplate.Piece)} (hop : op.HasSegments segments) :
    let filled := segments.map (PathTemplate.fillSegment (op.pathTexts a.registry arguments))
    request.url.segments = directory.segments.dropLast ++ filled.map bytesOf ↔
      (filled.head? = some "" → filled.length = 1) ∧
        ∀ text ∈ filled, text ≠ "." ∧ text ≠ ".." := by
  intro filled
  obtain ⟨phases⟩ := assemble_phases h
  obtain ⟨start, hstart, hpath⟩ := toList_path_of_phases phases hop
  change phases.final.path.toList =
    start ++ List.intercalate ['/'] (filled.map PathTemplate.escaped) at hpath
  have hchars : ∀ c ∈ phases.final.path.toList, 32 < c.toNat ∧ c ≠ '#' ∧ c ≠ '?' ∧ c ≠ '\\' := by
    intro c hc
    rw [hpath, List.mem_append] at hc
    rcases hc with hc | hc
    · rcases hstart with rfl | rfl
      · cases hc
      · obtain rfl := List.mem_singleton.mp hc
        decide
    · exact PathTemplate.mem_intercalate_escaped hc
  have hdrop : phases.final.path.toList.dropWhile (· == '/') =
      (List.intercalate ['/'] (filled.map PathTemplate.escaped)).dropWhile (· == '/') := by
    rw [hpath]
    rcases hstart with rfl | rfl
    · rfl
    · rfl
  have hkind : ∃ port, SchemeKind.ofName directory.scheme = .network port := by
    rcases hscheme with hscheme | hscheme
    · exact ⟨80, by rw [hscheme]; rfl⟩
    · exact ⟨443, by rw [hscheme]; rfl⟩
  obtain ⟨port, hkind⟩ := hkind
  obtain ⟨before, hbefore, hbelow⟩ := joinUrl_below hdirectory hkind hquery hfragment
  obtain ⟨url, hjoined, hsegments⟩ := hbelow phases.final.path hchars
  have hrequest : request.url = url := by
    have hurl := Except.ok.inj (phases.url_eq.symm.trans hjoined)
    exact (congrArg Request.url phases.request_eq).trans hurl
  have hfilled : filled ≠ [] := by
    simpa [filled] using hop.nonempty
  rw [hrequest, hsegments, hdrop, hbefore, List.dropLast_concat]
  exact PathTemplate.resolve_escaped_iff hfilled before

/-- Dots that have other text next to them stay in their segments. -/
theorem segments_eq_of_dots_in_text :
    let a : Assembler := { settings := { baseUrl := "http://[::1]/v1/" }, boundary := "B" }
    let op : Operation :=
      { name := "file", method := .get, path := "/users/{ids}/{name}.txt"
        parameters :=
          [{ argumentName := "ids", schema := .array (.scalar .string)
             directive := { name := "ids", location := .path } },
           { argumentName := "name", schema := .scalar .string
             directive := { name := "name", location := .path } }] }
    let arguments : Arguments :=
      [("ids", .array [.string "..", .string "é"]), ("name", .string ".")]
    ∃ request, a.assemble op arguments = .ok request ∧
      request.url.path = "/v1/users/..,%C3%A9/..txt" ∧
      request.url.segments = ["v1", "users", "..,é", "..txt"].map bytesOf := by
  intro a op arguments
  have h : a.assemble op arguments = .ok
      { method := .get
        url := ⟨"http", some "[::1]", "/v1/users/..,%C3%A9/..txt", none, none⟩ } := by
    cbv
  have hdirectory : joinUrl a.settings.baseUrl "" =
      .ok ⟨"http", some "[::1]", "/v1/", none, none⟩ :=
    (joinUrl_eq_ok_iff (by decide)).mpr (by cbv)
  have hop : op.HasSegments
      [[.literal "users"], [.placeholder "ids"], [.placeholder "name", .literal ".txt"]] := by
    exact ⟨by decide, Or.inr (by decide), by decide, by decide⟩
  have htexts : op.pathTexts a.registry arguments = [("ids", "..,é"), ("name", ".")] := by cbv
  have hsegments := segments_eq_iff h hdirectory (Or.inl rfl) rfl rfl hop
  rw [htexts] at hsegments
  exact ⟨_, h, rfl, hsegments.mpr (by decide)⟩

/-- Two dots take the segment before them away, and an empty first segment is lost. -/
theorem argument_removes_segment :
    let a : Assembler := { settings := { baseUrl := "http://[::1]/v1" }, boundary := "B" }
    let op (path : String) : Operation :=
      { name := "keys", method := .get, path
        parameters :=
          [{ argumentName := "id", schema := .scalar .string
             directive := { name := "id", location := .path } }] }
    let request : Request :=
      { method := .get, url := ⟨"http", some "[::1]", "/v1/keys", none, none⟩ }
    let user : List (List PathTemplate.Piece) :=
      [[.literal "users"], [.placeholder "id"], [.literal "keys"]]
    let any : List (List PathTemplate.Piece) := [[.placeholder "id"], [.literal "keys"]]
    (op "/users/{id}/keys").HasSegments user ∧ (op "/{id}/keys").HasSegments any ∧
      a.assemble (op "/users/{id}/keys") [("id", .string "..")] = .ok request ∧
      a.assemble (op "/{id}/keys") [("id", .string "")] = .ok request ∧
      request.url.segments ≠ ["v1", "users", "..", "keys"].map bytesOf ∧
      request.url.segments ≠ ["v1", "", "keys"].map bytesOf := by
  intro a op request user any
  have hdots : a.assemble (op "/users/{id}/keys") [("id", .string "..")] = .ok request := by cbv
  have hempty : a.assemble (op "/{id}/keys") [("id", .string "")] = .ok request := by cbv
  refine ⟨?_, ?_, hdots, hempty, by decide, by decide⟩
  · exact ⟨by decide, Or.inr (by decide), by decide, by decide⟩
  · exact ⟨by decide, Or.inr (by decide), by decide, by decide⟩

end Assembler

end ApiCall
