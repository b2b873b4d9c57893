import ApiCall.Proofs.Assembly.Cookies
import ApiCall.Proofs.Query.WireKeys
import Mathlib

/-!
Reading a cookie header back: it is cut at `; `, and each piece at its first `=`. Names stand in it
as they are, so they must have no `;` and no `=` of their own. Values are escaped, so whatever they
are, none of them brings in another cookie (`Assembler.cookie_header_reads_back`).
-/

namespace ApiCall

/-- A name that ends no cookie and no name of one. -/
def IsCookieName (name : String) : Prop :=
  ';' ∉ name.toList ∧ '=' ∉ name.toList

/-- The field names of an object type are cookie names. -/
def Shape.HasCookieFields : Shape → Prop
  | .object fields => ∀ field ∈ fields, IsCookieName field.1
  | _ => True

/-- The parameter's name is a cookie name, and those of all fields behind its schema are. -/
structure Parameter.HasCookieNames (r : Registry) (p : Parameter) : Prop where
  name : IsCookieName p.directive.name
  fields : r.Throughout Shape.HasCookieFields p.schema

/-- The entries of a parameter that are sent as cookies. -/
def Parameter.cookieEntries (p : Parameter) (r : Registry) (arguments : Arguments) :
    List (String × String) :=
  match p.directive.location,
    r.encode p.schema (arguments.lookup p.argumentName) { root := p.argumentName } with
  | .cookie, .ok items => p.directive.entries p.directive.name items
  | _, _ => []

/-- The entries of all cookie parameters of a call. -/
def Assembler.cookieEntries (a : Assembler) (op : Operation) (arguments : Arguments) :
    List (String × String) :=
  op.parameters.flatMap fun p => p.cookieEntries a.registry arguments

namespace Cookies

/-- The name and the value on both sides of the first `=`. -/
def readPair? (piece : List Char) : Option (String × String) :=
  (Split.once '=' piece).map fun (name, value) => (String.ofList name, String.ofList value)

/-- The names and values of a cookie header, as they stand in it. -/
def read? (header : String) : Option (List (String × String)) :=
  (Split.piecesAt ';' [' '] header.toList).mapM readPair?

/-- A pair of a cookie header has the name of an entry, and its value decodes to that of the entry.
All that stands in this value is an unreserved character or belongs to a triplet. -/
structure Carries (pair entry : String × String) : Prop where
  name_eq : pair.1 = entry.1
  decoded : stringOf? (Percent.decode (bytesOf pair.2)) = some entry.2
  escaped : Percent.IsEscaped Percent.isUnreserved pair.2.toList

/-- The pair that an entry is written as. -/
def pair (entry : String × String) : String × String :=
  (entry.1, escapeComponent entry.2 false)

/-- The text of a pair. -/
def text (pair : String × String) : String :=
  pair.1 ++ "=" ++ pair.2

theorem carries_pair (entry : String × String) : Carries (pair entry) entry := by
  refine ⟨rfl, decode_escapeComponent entry.2 false, ?_⟩
  have hkeep : Percent.isQueryKept false = Percent.isUnreserved := by
    funext c
    exact Bool.or_false _
  rw [pair, toList_escapeComponent, hkeep]
  exact Percent.isEscaped_encode _ _

theorem toList_text (pair : String × String) :
    (text pair).toList = pair.1.toList ++ '=' :: pair.2.toList := by
  simp [text]

theorem readPair?_text {pair : String × String} (h : '=' ∉ pair.1.toList) :
    readPair? (text pair).toList = some pair := by
  rw [readPair?, toList_text, Split.once_append h]
  simp

theorem not_mem_text_pair {entry : String × String} (h : ';' ∉ entry.1.toList) :
    ';' ∉ (text (pair entry)).toList := by
  have hvalue : ';' ∉ (escapeComponent entry.2 false).toList := by
    intro hmem
    rw [toList_escapeComponent] at hmem
    rcases Percent.mem_encode hmem with ⟨hkept, _⟩ | hpercent | halphanum
    · exact absurd hkept (by decide)
    · exact absurd hpercent (by decide)
    · exact absurd halphanum (by decide)
  rw [toList_text, List.mem_append, List.mem_cons]
  rintro (hmem | heq | hmem)
  · exact h hmem
  · exact absurd heq (by decide)
  · exact hvalue hmem

/-- Entries under cookie names are read back from the text that joins their pairs. -/
theorem read?_intercalate {entries : List (String × String)} (hne : entries ≠ [])
    (h : ∀ entry ∈ entries, IsCookieName entry.1) :
    read? ("; ".intercalate (entries.map fun entry => text (pair entry))) =
      some (entries.map pair) := by
  have hpieces : ∀ piece ∈ entries.map fun entry => (text (pair entry)).toList,
      ¬ [';', ' '] <:+: piece := by
    intro piece hpiece hmark
    obtain ⟨entry, hentry, rfl⟩ := List.mem_map.mp hpiece
    exact not_mem_text_pair (h entry hentry).1 (hmark.subset List.mem_cons_self)
  have hjoin : ("; ".intercalate (entries.map fun entry => text (pair entry))).toList =
      List.intercalate [';', ' '] (entries.map fun entry => (text (pair entry)).toList) := by
    rw [String.toList_intercalate, List.map_map]
    rfl
  have hread : ∀ entry ∈ entries, readPair? (text (pair entry)).toList = some (pair entry) :=
    fun entry hentry => readPair?_text (h entry hentry).2
  rw [read?, hjoin, Split.piecesAt_intercalate (by decide) (by simpa using hne) hpieces,
    Split.mapM_map_eq_some hread]

end Cookies

/-- The key of a cookie is made of the parameter's name and those of fields. -/
theorem Parameter.isCookieName {p : Parameter} {r : Registry} {arguments : Arguments}
    (h : p.directive.location = .cookie → p.HasCookieNames r) {entry : String × String}
    (hentry : entry ∈ p.cookieEntries r arguments) : IsCookieName entry.1 := by
  unfold Parameter.cookieEntries at hentry
  split at hentry
  · rename_i items hlocation hitems
    obtain ⟨hname, hthroughout⟩ := h hlocation
    rcases Directive.key_of_mem_entries hentry with heq | ⟨item, hitem, hkey⟩
    · rw [heq]
      exact hname
    · have hfields : ∀ field, Key.field field ∈ item.keys → IsCookieName field := by
        intro field hfield
        obtain ⟨fields, hnames, found, hfound, rfl⟩ :=
          (Registry.isLeafPath_of_encode hitems hitem).throughout_field hthroughout hfield
        exact hnames found hfound
      rw [hkey]
      constructor
      · exact Directive.not_mem_key (by decide) (by decide) hname.1
          fun field hfield => (hfields field hfield).1
      · exact Directive.not_mem_key (by decide) (by decide) hname.2
          fun field hfield => (hfields field hfield).2
  · cases hentry

theorem Parameter.cookies_eq (p : Parameter) (r : Registry) (arguments : Arguments) :
    p.cookies r arguments =
      (p.cookieEntries r arguments).map fun entry => Cookies.text (Cookies.pair entry) := by
  unfold Parameter.cookies Parameter.cookieEntries
  cases p.directive.location <;>
    cases r.encode p.schema (arguments.lookup p.argumentName) { root := p.argumentName } <;> rfl

namespace Assembler

variable {a : Assembler} {op : Operation} {arguments : Arguments} {request : Request}

theorem cookies_of_entries (hcredential : Injection.cookie? (a.injection op) = none) :
    a.cookies op arguments =
      (a.cookieEntries op arguments).map fun entry => Cookies.text (Cookies.pair entry) := by
  rw [cookies, hcredential, Option.toList_none, List.append_nil, cookieEntries, List.map_flatMap]
  simp only [Parameter.cookies_eq]

/-- The cookie header of a request is read back as the entries of its cookie parameters, in
declaration order, if nothing else sets a cookie. Names must have none of the two delimiters; values
may be anything. -/
theorem cookie_header_reads_back (h : a.assemble op arguments = .ok request)
    (hnames : ∀ p ∈ op.parameters, p.directive.location = .cookie → p.HasCookieNames a.registry)
    (hheaders : ∀ header ∈ a.headers op arguments, sameIgnoringCase header.1 "cookie" = false)
    (hcredential : Injection.cookie? (a.injection op) = none)
    (hentries : a.cookieEntries op arguments ≠ []) :
    (∀ p ∈ op.parameters, ∃ items,
      a.registry.encode p.schema (arguments.lookup p.argumentName) { root := p.argumentName } =
        .ok items) ∧
    ∃ header pairs, request.headers.sentUnder "cookie" = [bytesOf header] ∧
      Cookies.read? header = some pairs ∧
      List.Forall₂ Cookies.Carries pairs (a.cookieEntries op arguments) := by
  obtain ⟨phases⟩ := assemble_phases h
  have hsent := cookie_of_phases phases
  have hcookies : a.cookies op arguments = _ := cookies_of_entries hcredential
  have hsome : ¬ (a.cookies op arguments).isEmpty = true := by
    rw [hcookies, List.isEmpty_iff, List.map_eq_nil_iff]
    exact hentries
  rw [if_neg hsome, Headers.lastValue?_eq_none hheaders, Option.filter_none, Option.toList_none,
    List.nil_append, hcookies] at hsent
  have hclean : ∀ entry ∈ a.cookieEntries op arguments, IsCookieName entry.1 := by
    intro entry hentry
    obtain ⟨p, hp, hentry⟩ := List.mem_flatMap.mp hentry
    exact p.isCookieName (hnames p hp) hentry
  refine ⟨encode_of_phases phases, _, _, hsent, Cookies.read?_intercalate hentries hclean, ?_⟩
  rw [List.forall₂_map_left_iff]
  exact List.forall₂_same.mpr fun entry _ => Cookies.carries_pair entry

/-- A deep object and a list. Its values try to bring in a cookie of their own. -/
theorem cookie_header_reads_back_of_delimiters :
    let a : Assembler := { settings := { baseUrl := "http://[::1]/v1" }, boundary := "B" }
    let filter : Schema := .object [("b", .scalar .string)]
    let texts : Schema := .array (.scalar .string)
    let op : Operation :=
      { name := "me", method := .get, path := "/me"
        parameters :=
          [{ argumentName := "q", schema := filter
             directive := { name := "q", location := .cookie, style := .deepObject } },
           { argumentName := "t", schema := texts
             directive := { name := "t", location := .cookie, explode := some false } }] }
    let arguments : Arguments :=
      [("q", .object [("b", .string "x; s=1")]), ("t", .array [.string "é", .string "="])]
    let request : Request :=
      { method := .get, url := ⟨"http", some "[::1]", "/v1/me", none, none⟩
        headers := ⟨[("cookie", [bytesOf "q[b]=x%3B%20s%3D1; t=%C3%A9%2C%3D"])]⟩ }
    a.assemble op arguments = .ok request ∧
      ∃ pairs, Cookies.read? "q[b]=x%3B%20s%3D1; t=%C3%A9%2C%3D" = some pairs ∧
        List.Forall₂ Cookies.Carries pairs [("q[b]", "x; s=1"), ("t", "é,=")] := by
  intro a filter texts op arguments request
  have h : a.assemble op arguments = .ok request := by cbv
  have hheaders : a.headers op arguments = [] := by cbv
  have hentries : a.cookieEntries op arguments = [("q[b]", "x; s=1"), ("t", "é,=")] := by cbv
  have hsent : request.headers.sentUnder "cookie" =
      [bytesOf "q[b]=x%3B%20s%3D1; t=%C3%A9%2C%3D"] := by decide
  have hfilter : a.registry.Throughout Shape.HasCookieFields filter := by
    refine Registry.throughout_of_closed [filter, .scalar .string] ?_ ?_ ?_
    · simp [Registry.resolve, Shape.HasCookieFields, IsCookieName, filter]
    · simp [Registry.below, Registry.resolve, filter]
    · simp
  have htexts : a.registry.Throughout Shape.HasCookieFields texts := by
    refine Registry.throughout_of_closed [texts, .scalar .string] ?_ ?_ ?_
    · simp [Registry.resolve, Shape.HasCookieFields, texts]
    · simp [Registry.below, Registry.resolve, texts]
    · simp
  have hnames : ∀ p ∈ op.parameters, p.directive.location = .cookie →
      p.HasCookieNames a.registry := by
    intro p hp _
    rcases List.mem_pair.mp hp with rfl | rfl
    · exact ⟨by simp [IsCookieName], hfilter⟩
    · exact ⟨by simp [IsCookieName], htexts⟩
  obtain ⟨_, header, pairs, hheader, hread, hcarries⟩ := cookie_header_reads_back h hnames
    (by simp [hheaders]) (by decide) (by simp [hentries])
  rw [hsent, List.singleton_inj, bytesOf_inj] at hheader
  rw [hentries] at hcarries
  rw [hheader]
  exact ⟨h, pairs, hread, hcarries⟩

end Assembler

end ApiCall
