import ApiCall.Proofs.Success
import ApiCall.Proofs.Url.Path
import ApiCall.Url.Reader
import Mathlib.Data.List.DropRight

/-!
URLs below a directory. The text of a network URL that ends with a slash and is continued with
characters of a path is read as the URL of the directory, and only the path goes on
(`Url.parse_below`).
-/

namespace ApiCall

/-! ### Parts of a text that goes on after a slash -/

theorem dropWhile_append_cons {α : Type} {p : α → Bool} {x : α} (hx : p x = false)
    (xs ys : List α) : (xs ++ x :: ys).dropWhile p = xs.dropWhile p ++ x :: ys := by
  rw [List.dropWhile_append]
  split
  · rename_i hempty
    rw [List.isEmpty_iff.mp hempty, List.nil_append, List.dropWhile_cons_of_neg (by simp [hx])]
  · rfl

theorem takeWhile_append_cons {α : Type} {p : α → Bool} {x : α} (hx : p x = false)
    (xs ys : List α) : (xs ++ x :: ys).takeWhile p = xs.takeWhile p := by
  induction xs with
  | nil => rw [List.nil_append, List.takeWhile_cons_of_neg (by simp [hx]), List.takeWhile_nil]
  | cons y xs ih =>
      rw [List.cons_append, List.takeWhile_cons, List.takeWhile_cons, ih]

theorem span_append_cons {α : Type} {p : α → Bool} {x : α} (hx : p x = false) (xs ys : List α) :
    (xs ++ x :: ys).span p = (xs.takeWhile p, xs.dropWhile p ++ x :: ys) := by
  rw [List.span_eq_takeWhile_dropWhile, takeWhile_append_cons hx, dropWhile_append_cons hx]

/-- What a slash stands before has no part in the scheme. -/
theorem splitScheme?_below {start extra scheme rest : List Char}
    (h : splitScheme? (start ++ '/' :: extra) = some (scheme, rest)) :
    ∃ following, rest = following ++ '/' :: extra ∧ ∀ other,
      splitScheme? (start ++ '/' :: other) = some (scheme, following ++ '/' :: other) := by
  have hslash : isSchemeChar '/' = false := by decide
  cases start with
  | nil => cases h
  | cons c cs =>
      rw [List.cons_append, splitScheme?] at h
      split at h
      · rename_i halpha
        rw [span_append_cons hslash] at h
        cases hrest : cs.dropWhile isSchemeChar with
        | nil =>
            -- the slash itself would stand where the colon is expected
            rw [hrest] at h
            simp at h
        | cons d ds =>
            rw [hrest] at h
            simp only [List.cons_append] at h
            split at h
            · rename_i heq
              cases heq
              cases h
              refine ⟨ds, rfl, ?_⟩
              intro other
              rw [List.cons_append, splitScheme?, if_pos halpha, span_append_cons hslash, hrest]
              rfl
            · cases h
      · cases h

namespace Url

/-- Characters that are dropped at the ends of a URL. -/
def isEdge (c : Char) : Bool :=
  decide (c.toNat ≤ 32)

/-- Characters that are not dropped wherever they stand. -/
def isKept (c : Char) : Bool :=
  !(c == '\t' || c == '\n' || c == '\r')

theorem clean_eq (cs : List Char) :
    clean cs = ((cs.dropWhile isEdge).rdropWhile isEdge).filter isKept :=
  rfl

/-- A slash stays, so what stands before it and what follows it are cleaned on their own. -/
theorem clean_append_slash (start extra : List Char) :
    clean (start ++ '/' :: extra) =
      (start.dropWhile isEdge).filter isKept ++ '/' :: (extra.rdropWhile isEdge).filter isKept := by
  have htrim : (start.dropWhile isEdge ++ '/' :: extra).rdropWhile isEdge =
      start.dropWhile isEdge ++ '/' :: extra.rdropWhile isEdge := by
    rw [List.rdropWhile, List.reverse_append, List.reverse_cons, List.append_assoc,
      List.singleton_append, dropWhile_append_cons (by decide), List.reverse_append,
      List.reverse_cons, List.reverse_reverse, List.append_assoc]
    rfl
  rw [clean_eq, dropWhile_append_cons (by decide), htrim, List.filter_append,
    List.filter_cons_of_pos (by decide)]

/-- From the slash on, no character is dropped that is not a control or a space. -/
theorem clean_below (start extra : List Char) (h : ∀ c ∈ extra, 32 < c.toNat) :
    clean (start ++ '/' :: extra) = (start.dropWhile isEdge).filter isKept ++ '/' :: extra := by
  have hedge : ∀ c ∈ extra, isEdge c = false := fun c hc => by
    simpa [isEdge] using h c hc
  have htrim : extra.rdropWhile isEdge = extra := by
    rw [List.rdropWhile_eq_self_iff]
    intro hne
    simp [hedge _ (List.getLast_mem hne)]
  have hkeep : extra.filter isKept = extra := by
    rw [List.filter_eq_self]
    intro c hc
    have hlarge := h c hc
    simp only [isKept, Bool.not_eq_true', Bool.or_eq_false_iff, beq_eq_false_iff_ne]
    refine ⟨⟨?_, ?_⟩, ?_⟩
    · rintro rfl
      exact absurd hlarge (by decide)
    · rintro rfl
      exact absurd hlarge (by decide)
    · rintro rfl
      exact absurd hlarge (by decide)
  rw [clean_append_slash, htrim, hkeep]

/-! ### URLs without a query and a fragment -/

theorem cut_of_not_mem {mark : Char} {cs : List Char} (h : mark ∉ cs) :
    parse.cut mark cs = (cs, none) := by
  rw [parse.cut, Split.once_eq_none_iff.mpr h]

theorem cut_none {mark : Char} {cs : List Char} (h : (parse.cut mark cs).2 = none) :
    mark ∉ cs := by
  unfold parse.cut at h
  split at h
  · cases h
  · rename_i hnone
    exact Split.once_eq_none_iff.mp hnone

/-- The URL of a scheme, an authority and a path. -/
def ofPlace (scheme : List Char) (place : Option (List Char) × List Char) : Url where
  scheme := String.ofList scheme
  authority := place.1.map String.ofList
  path := String.ofList place.2

theorem parse_of_plain {text : String} {scheme rest : List Char}
    (hscheme : splitScheme? (clean text.toList) = some (scheme, rest)) (hfragment : '#' ∉ rest)
    (hquery : '?' ∉ rest) :
    parse text =
      (readHierarchy (.ofName (String.ofList scheme)) rest false).map (ofPlace scheme) := by
  unfold parse
  simp only [hscheme, pure_bind, cut_of_not_mem hfragment, cut_of_not_mem hquery]
  change (readHierarchy (.ofName (String.ofList scheme)) rest false >>= fun place =>
    Except.ok (ofPlace scheme place)) = _
  cases readHierarchy (.ofName (String.ofList scheme)) rest false with
  | error fault => rfl
  | ok place => rfl

/-- A URL that has neither a query nor a fragment has no mark of one in its text. -/
theorem plain_of_parse {text : String} {base : Url} (h : parse text = .ok base)
    (hquery : base.query = none) (hfragment : base.fragment = none) :
    ∃ scheme rest, splitScheme? (clean text.toList) = some (scheme, rest) ∧ '#' ∉ rest ∧
      '?' ∉ rest := by
  unfold parse at h
  cases hscheme : splitScheme? (clean text.toList) with
  | none =>
      rw [hscheme] at h
      cases h
  | some parts =>
      obtain ⟨scheme, rest⟩ := parts
      simp only [hscheme] at h
      obtain ⟨parts, hparts, h⟩ := bind_eq_ok.mp h
      cases hparts
      obtain ⟨place, _, h⟩ := bind_eq_ok.mp h
      cases h
      have hnoFragment : '#' ∉ rest := cut_none (Option.map_eq_none_iff.mp hfragment)
      have hcut := Option.map_eq_none_iff.mp hquery
      rw [cut_of_not_mem hnoFragment] at hcut
      exact ⟨scheme, rest, rfl, hnoFragment, cut_none hcut⟩

/-! ### Network URLs -/

theorem readPlace_nil (port : Nat) (goesOn : Bool) :
    readPlace (.network port) [] goesOn = .error .emptyHost := by
  cases goesOn with
  | false => rfl
  | true => rfl

/-- The authority ends before the slash, so what follows the slash belongs to the path. -/
theorem readPlace_below (port : Nat) (start : List Char) :
    ∃ place : Except UrlFault (List Char × List Char), ∀ extra goesOn,
      readPlace (.network port) (start ++ '/' :: extra) goesOn =
        place.map fun (authority, before) =>
          (authority, UrlPath.read (.network port) (before ++ '/' :: extra)) := by
  let inside (c : Char) : Bool := !(SchemeKind.network port).isSlash c
  refine ⟨(readAuthority (.network port) (start.takeWhile inside) true).map
    fun (authority, rest) => (authority, rest ++ start.dropWhile inside), ?_⟩
  intro extra goesOn
  have hslash : inside '/' = false := rfl
  have hspan := span_append_cons hslash start extra
  have hmore (cs : List Char) : (cs ++ '/' :: extra).isEmpty = false := by
    simp
  unfold readPlace
  rw [hspan]
  simp only [hmore, Bool.not_false, Bool.or_true, ← List.append_assoc, Bool.false_eq_true,
    false_and, if_false]
  cases readAuthority (.network port) (start.takeWhile inside) true with
  | error fault => rfl
  | ok place => rfl

theorem readHierarchy_below {port : Nat} {start : List Char} {goesOn : Bool}
    {place : Option (List Char) × List Char}
    (h : readHierarchy (.network port) (start ++ ['/']) goesOn = .ok place) :
    ∃ authority before, ∀ extra goesOn,
      readHierarchy (.network port) (start ++ '/' :: extra) goesOn =
        .ok (some authority, UrlPath.read (.network port) (before ++ '/' :: extra)) := by
  let slash := (SchemeKind.network port).isSlash
  cases hstart : start.dropWhile slash with
  | nil =>
      -- nothing but slashes: the directory would have no host, and it was read
      have hdrop : (start ++ ['/']).dropWhile slash = [] := by
        rw [List.dropWhile_append, hstart]
        rfl
      rw [readHierarchy, hdrop, readPlace_nil] at h
      cases h
  | cons c following =>
      have hdrop (extra : List Char) :
          (start ++ '/' :: extra).dropWhile slash = c :: following ++ '/' :: extra := by
        rw [List.dropWhile_append, hstart]
        rfl
      obtain ⟨result, hplace⟩ := readPlace_below port (c :: following)
      rw [readHierarchy, hdrop [], hplace] at h
      cases hresult : result with
      | error fault =>
          rw [hresult] at h
          cases h
      | ok result =>
          obtain ⟨authority, before⟩ := result
          refine ⟨authority, before, ?_⟩
          intro extra goesOn
          rw [readHierarchy, hdrop extra, hplace, hresult]
          rfl

/-- A URL text that goes on below a directory names the place of the directory, and its path goes
on there. -/
theorem parse_below {start : List Char} {base : Url} {port : Nat}
    (hbase : parse (String.ofList (start ++ ['/'])) = .ok base)
    (hkind : SchemeKind.ofName base.scheme = .network port) (hquery : base.query = none)
    (hfragment : base.fragment = none) :
    ∃ before, ∀ extra : List Char, (∀ c ∈ extra, 32 < c.toNat ∧ c ≠ '#' ∧ c ≠ '?') →
      parse (String.ofList (start ++ '/' :: extra)) =
        .ok { base with
          path := String.ofList (UrlPath.read (.network port) (before ++ '/' :: extra)) } := by
  obtain ⟨scheme, rest, hscheme, hnoFragment, hnoQuery⟩ := plain_of_parse hbase hquery hfragment
  have hparse := parse_of_plain hscheme hnoFragment hnoQuery
  rw [String.toList_ofList, clean_below start [] (List.forall_mem_nil _)] at hscheme
  obtain ⟨following, rfl, hfollowing⟩ := splitScheme?_below hscheme
  rw [hbase] at hparse
  cases hplace : readHierarchy (.ofName (String.ofList scheme)) (following ++ ['/']) false with
  | error fault =>
      rw [hplace] at hparse
      cases hparse
  | ok place =>
      rw [hplace] at hparse
      obtain rfl : base = ofPlace scheme place := Except.ok.inj hparse
      change SchemeKind.ofName (String.ofList scheme) = .network port at hkind
      rw [hkind] at hplace
      obtain ⟨authority, before, hread⟩ := readHierarchy_below hplace
      have hauthority : place.1 = some authority :=
        congrArg Prod.fst (Except.ok.inj (hplace.symm.trans (hread [] false)))
      refine ⟨before, ?_⟩
      intro extra hextra
      have hscheme' : splitScheme? (clean (String.ofList (start ++ '/' :: extra)).toList) =
          some (scheme, following ++ '/' :: extra) := by
        rw [String.toList_ofList, clean_below start extra fun c hc => (hextra c hc).1,
          hfollowing]
      -- neither the directory nor what follows has a mark, so all of it belongs to the hierarchy
      have hplain {mark : Char} (hmark : mark ∉ following ++ ['/']) (hne : mark ∉ extra) :
          mark ∉ following ++ '/' :: extra := by
        rw [List.append_cons, List.mem_append]
        exact not_or.mpr ⟨hmark, hne⟩
      rw [parse_of_plain hscheme' (hplain hnoFragment fun hmem => (hextra _ hmem).2.1 rfl)
        (hplain hnoQuery fun hmem => (hextra _ hmem).2.2 rfl), hkind, hread]
      simp only [Except.map, ofPlace, hauthority]

end Url

end ApiCall
