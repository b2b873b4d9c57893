import ApiCall.Proofs.Path.Template
import ApiCall.Proofs.Url.Path

/-!
Escaped segments in the path of a URL. They stand there as they are and are told apart from each
other, but dots are not escaped and mean a directory; so the segments that are found below a
directory are the ones that were put there exactly as long as none is one or two dots, and the
first of several is not lost as empty (`PathTemplate.resolve_escaped_iff`).
-/

namespace ApiCall

namespace PathTemplate

theorem decode_escaped (text : String) : UrlPath.decodeSegment (escaped text) = bytesOf text :=
  Percent.decode_encode isSegmentChar_keepsAscii text.toList

/-- A segment that comes out as dots stands for a directory. -/
theorem isDots_escaped_iff (text : String) :
    UrlPath.IsDots (escaped text) ↔ text = "." ∨ text = ".." := by
  have hdecode := decode_escaped text
  rw [UrlPath.decodeSegment] at hdecode
  constructor
  · rintro (hdot | hdouble)
    · rw [UrlPath.decode_of_isDot hdot] at hdecode
      exact Or.inl (bytesOf_inj.mp hdecode.symm)
    · rw [UrlPath.decode_of_isDoubleDot hdouble] at hdecode
      exact Or.inr (bytesOf_inj.mp hdecode.symm)
  · rintro (rfl | rfl)
    · decide
    · decide

example : ¬ UrlPath.IsDots (escaped "%2e%2E") := by decide

theorem ne_of_class {p : Char → Bool} {c d : Char} (hc : p c = true) (hd : p d = false) :
    c ≠ d := by
  rintro rfl
  rw [hc] at hd
  cases hd

theorem isPathChar_of_isSegmentChar {c : Char} (h : isSegmentChar c = true) :
    UrlPath.isPathChar c = true := by
  have hdropped : " \"<>`#?\x7b\x7d".toList.all (fun d => ! isSegmentChar d) = true := by decide
  have hvisible := h
  unfold isSegmentChar Percent.visibleExcept at hvisible
  rw [Bool.and_eq_true] at hvisible
  rw [UrlPath.isPathChar, Percent.visibleExcept, hvisible.1, Bool.true_and, Bool.not_eq_true',
    List.contains_eq_mem, decide_eq_false_iff_not]
  intro hmem
  have hc := List.all_eq_true.mp hdropped c hmem
  rw [h] at hc
  cases hc

theorem lt_toNat_of_isSegmentChar {c : Char} (h : isSegmentChar c = true) : 32 < c.toNat := by
  have hspace : c ≠ ' ' := ne_of_class h (by decide)
  have hne : c.toNat ≠ 32 := fun heq => hspace (Char.toNat_inj.mp heq)
  unfold isSegmentChar Percent.visibleExcept Percent.isVisibleAscii at h
  simp only [Bool.and_eq_true, decide_eq_true_eq] at h
  omega

/-- What stands in an escaped segment stands in a path as it is, and ends no segment. -/
theorem mem_escaped {text : String} {c : Char} (h : c ∈ escaped text) :
    UrlPath.isPathChar c = true ∧ c ≠ '/' ∧ 32 < c.toNat ∧ c ≠ '#' ∧ c ≠ '?' ∧ c ≠ '\\' := by
  rcases Percent.mem_encode h with ⟨hkept, _⟩ | rfl | halnum
  · have hne {d : Char} (hd : isSegmentChar d = false) : c ≠ d := ne_of_class hkept hd
    exact ⟨isPathChar_of_isSegmentChar hkept, hne (by decide), lt_toNat_of_isSegmentChar hkept,
      hne (by decide), hne (by decide), hne (by decide)⟩
  · decide
  · have hne {d : Char} (hd : d.isAlphanum = false) : c ≠ d := ne_of_class halnum hd
    have hrange := Percent.toNat_of_isAlphanum halnum
    exact ⟨Percent.visibleExcept_of_isAlphanum (by decide) halnum, hne (by decide), by omega,
      hne (by decide), hne (by decide), hne (by decide)⟩

/-- A path of escaped segments goes on to its end, and nothing of it is dropped. -/
theorem mem_intercalate_escaped {texts : List String} {c : Char}
    (h : c ∈ List.intercalate ['/'] (texts.map escaped)) :
    32 < c.toNat ∧ c ≠ '#' ∧ c ≠ '?' ∧ c ≠ '\\' := by
  rcases Split.mem_intercalate h with rfl | ⟨segment, hmem, hc⟩
  · decide
  · obtain ⟨text, _, rfl⟩ := List.mem_map.mp hmem
    exact (mem_escaped hc).2.2

theorem isEscaped_escaped (text : String) : UrlPath.IsEscaped (escaped text) :=
  fun _ hc => (mem_escaped hc).1

theorem escaped_eq_nil_iff (text : String) :
    escaped text = [] ↔ text = "" := by
  constructor
  · intro h
    by_contra hne
    have hdecode := decode_escaped text
    rw [h] at hdecode
    exact bytesOf_ne_nil hne hdecode.symm
  · rintro rfl
    rfl

/-- The segments of a path that begins with some slashes are the escaped ones, and they are found as
they were before the escapes. -/
theorem resolve_escaped_iff {texts : List String} (hne : texts ≠ []) (before : List (List Char)) :
    (UrlPath.resolve false before (Split.pieces '/'
        ((List.intercalate ['/'] (texts.map escaped)).dropWhile (· == '/')))).reverse.map
          UrlPath.decodeSegment = before.reverse.map UrlPath.decodeSegment ++ texts.map bytesOf ↔
      (texts.head? = some "" → texts.length = 1) ∧ ∀ text ∈ texts, text ≠ "." ∧ text ≠ ".." := by
  have hsegments : texts.map escaped ≠ [] := by
    simpa using hne
  have hslash : ∀ segment ∈ texts.map escaped, '/' ∉ segment := by
    intro segment hmem hslash
    obtain ⟨text, _, rfl⟩ := List.mem_map.mp hmem
    exact (mem_escaped hslash).2.1 rfl
  have hhead : (texts.map escaped).head? = some [] ↔ texts.head? = some "" := by
    rw [List.head?_map, Option.map_eq_some_iff]
    constructor
    · rintro ⟨text, htext, hnil⟩
      rw [htext, (escaped_eq_nil_iff text).mp hnil]
    · intro htext
      exact ⟨"", htext, rfl⟩
  have hdecoded : (texts.map escaped).map UrlPath.decodeSegment = texts.map bytesOf := by
    rw [List.map_map]
    exact List.map_congr_left fun text _ => decode_escaped text
  rw [← hdecoded, ← List.map_append]
  by_cases hfirst : texts.head? = some "" → texts.length = 1
  · have hpieces := Split.pieces_dropWhile hsegments hslash fun hnil => by
      rw [List.length_map]
      exact hfirst (hhead.mp hnil)
    rw [hpieces, UrlPath.resolve_eq_iff, List.forall_mem_map, and_iff_right hfirst]
    · refine forall₂_congr ?_
      intro text _
      rw [isDots_escaped_iff, not_or]
    · intro segment hmem
      obtain ⟨text, _, rfl⟩ := List.mem_map.mp hmem
      exact isEscaped_escaped text
  · obtain ⟨hnil, hmany⟩ := Classical.not_imp.mp hfirst
    have hlost := Split.length_pieces_dropWhile_lt hslash (hhead.mpr hnil) (by
      rwa [List.length_map])
    constructor
    · intro heq
      -- fewer pieces than segments cannot be resolved to all of them
      have hlength := congrArg List.length heq
      have hresolved := UrlPath.length_resolve_le before (Split.pieces '/'
        ((List.intercalate ['/'] (texts.map escaped)).dropWhile (· == '/')))
      simp only [List.length_map, List.length_reverse, List.length_append] at hlength hlost
      omega
    · rintro ⟨hfirst', _⟩
      exact absurd hfirst' hfirst

end PathTemplate

end ApiCall
