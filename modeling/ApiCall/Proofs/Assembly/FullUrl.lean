import ApiCall.Proofs.Assembly.Query
import ApiCall.Proofs.Text.Split

/-!
The query of a full URL. Attaching a query to a URL escapes what may not stand there and keeps every
pair (`QueryString.pairs_escapeQuery`), but the query that the URL had is lost. So the full URL of a
request has all pairs exactly if the URL has none of its own or the parameters have none
(`Assembler.full_url_keeps_pairs_iff`).
-/

namespace ApiCall

/-! ### Pairs of a query -/

namespace QueryString

/-- The key and the value on both sides of the first `=`, as the bytes that they spell. -/
def pair (piece : List Char) : Bytes × Bytes :=
  let (key, value) := (Split.once '=' piece).getD (piece, [])
  (Percent.decode (Utf8.encode key), Percent.decode (Utf8.encode value))

/-- The pairs of a query text. The empty text has none. -/
def pairs (text : String) : List (Bytes × Bytes) :=
  if text = "" then [] else (Split.pieces '&' text.toList).map pair

theorem pairs_eq_nil_iff (text : String) : pairs text = [] ↔ text = "" := by
  unfold pairs
  split
  · rename_i hempty
    exact iff_of_true rfl hempty
  · rename_i hempty
    refine iff_of_false ?_ hempty
    rw [List.map_eq_nil_iff]
    exact Split.pieces_ne_nil _ _

end QueryString

/-- The pairs of the URL's own query. -/
def Url.queryPairs (u : Url) : List (Bytes × Bytes) :=
  QueryString.pairs (u.query.getD "")

/-! ### Escaping a query -/

namespace Url

theorem isQueryChar_keepsTriplets (kind : SchemeKind) :
    Percent.KeepsTriplets (isQueryChar kind) where
  ascii := by
    intro c hc
    simp only [isQueryChar, Percent.visibleExcept, Percent.isVisibleAscii, Bool.and_eq_true,
      decide_eq_true_eq] at hc
    omega
  percent := by
    rw [isQueryChar, Bool.and_eq_true]
    exact ⟨by decide, by simp⟩
  alphanumeric := by
    intro c hc
    rw [isQueryChar, Percent.visibleExcept_of_isAlphanum (by decide) hc, Bool.true_and]
    have hquote : (c == '\x27') = false := by
      rw [beq_eq_false_iff_ne]
      rintro rfl
      cases hc
    rw [hquote, Bool.and_false]
    rfl

/-- A delimiter of pairs stands in an escaped query where it stood before, and nowhere else. -/
theorem encodeChar_delimiter (kind : SchemeKind) {delimiter : Char}
    (h : delimiter = '&' ∨ delimiter = '=') :
    Percent.encodeChar (isQueryChar kind) delimiter = [delimiter] ∧
      ∀ c, c ≠ delimiter → delimiter ∉ Percent.encodeChar (isQueryChar kind) c := by
  have hplain : delimiter ≠ '%' ∧ delimiter.isAlphanum = false ∧
      isQueryChar kind delimiter = true := by
    rcases h with rfl | rfl
    · exact ⟨by decide, by decide, by simp [isQueryChar]; decide⟩
    · exact ⟨by decide, by decide, by simp [isQueryChar]; decide⟩
  refine ⟨if_pos hplain.2.2, ?_⟩
  intro c hc hmem
  have hencoded : delimiter ∈ Percent.encode (isQueryChar kind) [c] := by
    simpa [Percent.encode] using hmem
  rcases Percent.mem_encode hencoded with ⟨-, hmem⟩ | hpercent | halphanumeric
  · exact hc (List.mem_singleton.mp hmem).symm
  · exact hplain.1 hpercent
  · rw [hplain.2.1] at halphanumeric
    cases halphanumeric

/-- No character of an escaped query starts a fragment. -/
theorem hash_not_mem_encode (kind : SchemeKind) (query : List Char) :
    '#' ∉ Percent.encode (isQueryChar kind) query := by
  intro hmem
  rcases Percent.mem_encode hmem with ⟨hkept, -⟩ | hpercent | halphanumeric
  · rw [isQueryChar, Bool.and_eq_true] at hkept
    exact absurd hkept.1 (by decide)
  · exact absurd hpercent (by decide)
  · exact absurd halphanumeric (by decide)

theorem hash_not_mem_query {text query : String} {url : Url} (h : parse text = .ok url)
    (hquery : url.query = some query) : '#' ∉ query.toList := by
  unfold parse at h
  cases hscheme : splitScheme? (clean text.toList) with
  | none =>
      rw [hscheme] at h
      cases h
  | some parts =>
      simp only [hscheme, pure_bind] at h
      obtain ⟨place, -, h⟩ := bind_eq_ok.mp h
      cases h
      obtain ⟨cs, -, rfl⟩ := Option.map_eq_some_iff.mp hquery
      rw [String.toList_ofList]
      exact hash_not_mem_encode _ cs

end Url

namespace QueryString

theorem pair_encode (kind : SchemeKind) (piece : List Char) :
    pair (Percent.encode (Url.isQueryChar kind) piece) = pair piece := by
  have hkeep := Url.isQueryChar_keepsTriplets kind
  obtain ⟨hequals, hother⟩ := Url.encodeChar_delimiter kind (Or.inr rfl)
  unfold pair
  rw [Percent.encode, Split.once_flatMap hequals hother]
  cases Split.once '=' piece with
  | none => exact Prod.ext (hkeep.decode_encode piece) rfl
  | some cut => exact Prod.ext (hkeep.decode_encode cut.1) (hkeep.decode_encode cut.2)

/-- Escaping a query for a URL keeps its pairs. -/
theorem pairs_escapeQuery (scheme query : String) :
    pairs (Url.escapeQuery scheme query) = pairs query := by
  obtain ⟨hampersand, hother⟩ := Url.encodeChar_delimiter (.ofName scheme) (Or.inl rfl)
  -- the empty text is told apart from one empty piece, and escaping must not blur that
  have hempty : Url.escapeQuery scheme query = "" ↔ query = "" := by
    rw [Url.escapeQuery, ← String.toList_eq_nil_iff, String.toList_ofList,
      Percent.encode_eq_nil_iff, String.toList_eq_nil_iff]
  unfold pairs
  simp only [hempty]
  rw [Url.escapeQuery, String.toList_ofList, Percent.encode,
    Split.pieces_flatMap hampersand hother, List.map_map]
  congr 1
  exact List.map_congr_left fun piece _ => pair_encode _ piece

end QueryString

namespace Request

variable (r : Request)

/-- A full URL is the URL with another query or the URL itself. -/
theorem fullUrl_eq : r.fullUrl =
    if r.query.entries = [] then r.url
    else { r.url with query := some (Url.escapeQuery r.url.scheme r.query.text) } := by
  simp only [fullUrl, QueryString.isEmpty, List.isEmpty_iff, Url.setQuery]

/-- The query of the parameters is all of the full URL's, unless there is none. -/
theorem queryPairs_fullUrl : r.fullUrl.queryPairs =
    if r.query.entries = [] then r.url.queryPairs else QueryString.pairs r.query.text := by
  rw [fullUrl_eq]
  split
  · rfl
  · exact QueryString.pairs_escapeQuery _ _

/-- Where no query of the URL holds a `#`, none of the full URL does. -/
theorem hash_not_mem_fullUrl (h : ∀ query, r.url.query = some query → '#' ∉ query.toList) :
    ∀ query, r.fullUrl.query = some query → '#' ∉ query.toList := by
  rw [fullUrl_eq]
  split
  · exact h
  · rintro query ⟨⟩
    rw [Url.escapeQuery, String.toList_ofList]
    exact Url.hash_not_mem_encode _ _

end Request

theorem parse_of_joinUrl {base path : String} {url : Url} (h : joinUrl base path = .ok url) :
    ∃ text, Url.parse text = .ok url := by
  unfold joinUrl at h
  dsimp only at h
  split at h
  · rename_i heq
    cases h
    exact ⟨_, heq⟩
  · cases h

namespace Assembler

variable {a : Assembler} {op : Operation} {arguments : Arguments} {request : Request}

/-- The full URL of a request differs from its URL in the query only, and no character of its query
starts a fragment. The query has the pairs of the parameters and the credential, in order and
unchanged; the pairs that stood in the base or in the path are there only if those have none. So no
pair is lost exactly if one of the two sides is empty. -/
theorem full_url_keeps_pairs_iff (h : a.assemble op arguments = .ok request) :
    let full := request.fullUrl
    let own := request.url.queryPairs
    let added := QueryString.pairs ("&".intercalate ((a.queryEntries op arguments).map (·.text)))
    { full with query := request.url.query } = request.url ∧
      (∀ query, full.query = some query → '#' ∉ query.toList) ∧
      request.query.text = "&".intercalate ((a.queryEntries op arguments).map (·.text)) ∧
      full.queryPairs = (if a.queryEntries op arguments = [] then own else added) ∧
      (full.queryPairs = own ++ added ↔ own = [] ∨ a.queryEntries op arguments = []) := by
  intro full own added
  obtain ⟨phases⟩ := assemble_phases h
  have hquery := query_of_phases phases
  have hurl : request.url = phases.url := congrArg Request.url phases.request_eq
  obtain ⟨text, htext⟩ := parse_of_joinUrl phases.url_eq
  rw [← hurl] at htext
  have hadded : QueryString.pairs request.query.text = added := by
    rw [QueryString.text, hquery]
  have hnone : added = [] ↔ a.queryEntries op arguments = [] := by
    rw [← hadded, QueryString.pairs_eq_nil_iff, QueryString.text_eq_empty_iff, hquery]
  have hpairs : full.queryPairs = if a.queryEntries op arguments = [] then own else added := by
    rw [Request.queryPairs_fullUrl, hquery, hadded]
  refine ⟨?_, ?_, by rw [QueryString.text, hquery], hpairs, ?_⟩
  · change { request.fullUrl with query := request.url.query } = request.url
    rw [Request.fullUrl_eq]
    split
    · rfl
    · rfl
  · exact request.hash_not_mem_fullUrl fun query => Url.hash_not_mem_query htext
  · rw [hpairs]
    split
    · rename_i hempty
      rw [hnone.mpr hempty, List.append_nil]
      exact iff_of_true rfl (Or.inr hempty)
    · rename_i hempty
      rw [List.self_eq_append_left, or_iff_left hempty]

/-- A value with a number sign and a quote, below a path that has a fragment. -/
theorem full_url_keeps_pairs_of_reserved :
    let a : Assembler := { settings := { baseUrl := "http://[::1]/v1" }, boundary := "B" }
    let op : Operation :=
      { name := "find", method := .get, path := "/pets#top"
        parameters :=
          [{ argumentName := "q", schema := .scalar .string
             directive := { name := "q", allowReserved := true } }] }
    let request : Request :=
      { method := .get, url := ⟨"http", some "[::1]", "/v1/pets", none, some "top"⟩
        query := ⟨[⟨"q", "a#b'c", true⟩]⟩ }
    a.assemble op [("q", .string "a#b'c")] = .ok request ∧
      request.query.text = "q=a#b'c" ∧
      request.fullUrl.text = "http://[::1]/v1/pets?q=a%23b%27c#top" ∧
      request.fullUrl.queryPairs = [(bytesOf "q", bytesOf "a#b'c")] := by
  intro a op request
  have h : a.assemble op [("q", .string "a#b'c")] = .ok request := by cbv
  obtain ⟨-, -, -, hpairs, -⟩ := full_url_keeps_pairs_iff h
  have hentries : a.queryEntries op [("q", .string "a#b'c")] = request.query.entries := by cbv
  rw [hentries] at hpairs
  refine ⟨h, by cbv, by cbv, hpairs.trans ?_⟩
  cbv

/-- A path with a fixed query, and a parameter: the fixed pair is lost. -/
theorem full_url_loses_pair :
    let a : Assembler := { settings := { baseUrl := "http://[::1]/v1" }, boundary := "B" }
    let op : Operation :=
      { name := "find", method := .get, path := "/pets?kind=dog"
        parameters := [{ argumentName := "q", schema := .scalar .string
                         directive := { name := "q" } }] }
    let request : Request :=
      { method := .get, url := ⟨"http", some "[::1]", "/v1/pets", some "kind=dog", none⟩
        query := ⟨[⟨"q", "x", false⟩]⟩ }
    a.assemble op [("q", .string "x")] = .ok request ∧
      request.fullUrl.text = "http://[::1]/v1/pets?q=x" ∧
      request.fullUrl.queryPairs ≠
        request.url.queryPairs ++ QueryString.pairs request.query.text := by
  intro a op request
  refine ⟨by cbv, by cbv, by decide⟩

end Assembler

end ApiCall
