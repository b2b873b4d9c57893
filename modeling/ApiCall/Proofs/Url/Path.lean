import ApiCall.Proofs.Text.Percent
import ApiCall.Proofs.Text.Split
import ApiCall.Url.Path

/-!
Segments of network URLs. Below a directory the path is the directory's own segments and then the
resolved ones of the text (`UrlPath.segments_below`). Resolving keeps segments that are not dots as
they are (`UrlPath.resolve_of_plain`); where there are dots, it loses segments or leaves an empty
last one (`UrlPath.resolve_of_dots`).
-/

namespace ApiCall

namespace UrlPath

/-- The segment stands for its own directory or for the one above. -/
def IsDots (segment : List Char) : Prop :=
  isDot segment = true ∨ isDoubleDot segment = true

instance (segment : List Char) : Decidable (IsDots segment) :=
  inferInstanceAs (Decidable (_ ∨ _))

/-- What escaping a segment again does to it: nothing. -/
def IsEscaped (segment : List Char) : Prop :=
  ∀ c ∈ segment, isPathChar c = true

/-! ### Resolving -/

/-- What a segment does to those before it when others follow. All of them are in reverse order. -/
def step (before : List (List Char)) (segment : List Char) : List (List Char) :=
  if isDoubleDot segment then dropLast before
  else if isDot segment then before
  else Percent.encode isPathChar segment :: before

theorem resolve_cons {rest : List (List Char)} (hrest : rest ≠ []) (before : List (List Char))
    (segment : List Char) :
    resolve false before (segment :: rest) = resolve false (step before segment) rest := by
  have hmore : rest.isEmpty = false := by
    simpa using hrest
  unfold step
  simp only [resolve, hmore, Bool.false_eq_true, if_false, false_and]
  split
  · rfl
  · split
    · rfl
    · rfl

theorem resolve_singleton (before : List (List Char)) (last : List Char) :
    resolve false before [last] =
      if IsDots last then [] :: step before last else step before last := by
  unfold step
  simp only [resolve, IsDots, List.isEmpty_nil, if_true, Bool.false_eq_true, if_false, false_and]
  by_cases hdouble : isDoubleDot last = true
  · simp [hdouble]
  · by_cases hdot : isDot last = true
    · simp [hdouble, hdot]
    · simp [hdouble, hdot]

/-- All segments but the last one take one step each, and dots at the end leave an empty one. -/
theorem resolve_append {rest : List (List Char)} (hrest : rest ≠ [])
    (before segments : List (List Char)) :
    resolve false before (segments ++ rest) = resolve false (segments.foldl step before) rest := by
  induction segments generalizing before with
  | nil => rfl
  | cons segment segments ih =>
      have hmore : segments ++ rest ≠ [] := by
        simp [hrest]
      rw [List.cons_append, resolve_cons hmore, ih, List.foldl_cons]

theorem resolve_concat (before init : List (List Char)) (last : List Char) :
    resolve false before (init ++ [last]) =
      if IsDots last then [] :: (init ++ [last]).foldl step before
      else (init ++ [last]).foldl step before := by
  rw [resolve_append (List.cons_ne_nil _ _), resolve_singleton, List.foldl_append, List.foldl_cons,
    List.foldl_nil]

/-! ### What a step leaves -/

theorem step_of_plain {segment : List Char} (hdots : ¬ IsDots segment)
    (hescaped : IsEscaped segment) (before : List (List Char)) :
    step before segment = segment :: before := by
  obtain ⟨hdot, hdouble⟩ := not_or.mp hdots
  rw [step, if_neg hdouble, if_neg hdot, Percent.encode_of_kept hescaped]

theorem foldl_step_of_plain {segments : List (List Char)}
    (h : ∀ segment ∈ segments, ¬ IsDots segment ∧ IsEscaped segment)
    (before : List (List Char)) : segments.foldl step before = segments.reverse ++ before := by
  induction segments generalizing before with
  | nil => rfl
  | cons segment segments ih =>
      obtain ⟨⟨hdots, hescaped⟩, hrest⟩ := List.forall_mem_cons.mp h
      rw [List.foldl_cons, step_of_plain hdots hescaped, ih hrest, List.reverse_cons,
        List.append_assoc, List.singleton_append]

theorem mem_dropLast {before : List (List Char)} {segment : List Char}
    (h : segment ∈ dropLast before) : segment ∈ before := by
  unfold dropLast at h
  split at h
  · exact h
  split at h
  · exact h
  · exact List.mem_cons_of_mem _ h

theorem length_dropLast_le (before : List (List Char)) :
    (dropLast before).length ≤ before.length := by
  unfold dropLast
  split
  · exact Nat.le_refl _
  split
  · exact Nat.le_refl _
  · exact Nat.le_succ _

theorem length_step_le (before : List (List Char)) (segment : List Char) :
    (step before segment).length ≤ before.length + 1 := by
  have hdrop := length_dropLast_le before
  unfold step
  split
  · omega
  split
  · omega
  · exact Nat.le_refl _

theorem length_step_of_dots {segment : List Char} (h : IsDots segment)
    (before : List (List Char)) : (step before segment).length ≤ before.length := by
  have hdrop := length_dropLast_le before
  unfold step
  split
  · exact hdrop
  split
  · exact Nat.le_refl _
  · rename_i hdouble hdot
    exact absurd h (not_or.mpr ⟨hdot, hdouble⟩)

theorem length_foldl_step_le (before segments : List (List Char)) :
    (segments.foldl step before).length ≤ before.length + segments.length := by
  induction segments generalizing before with
  | nil => exact Nat.le_refl _
  | cons segment segments ih =>
      have hstep := length_step_le before segment
      have hrest := ih (step before segment)
      rw [List.foldl_cons, List.length_cons]
      omega

theorem length_foldl_step_of_dots {segments : List (List Char)}
    (h : ∃ segment ∈ segments, IsDots segment) (before : List (List Char)) :
    (segments.foldl step before).length < before.length + segments.length := by
  induction segments generalizing before with
  | nil =>
      obtain ⟨segment, hmem, _⟩ := h
      cases hmem
  | cons segment segments ih =>
      rw [List.foldl_cons, List.length_cons]
      -- dots add no segment and any other step adds one at most, so one step of dots is enough
      by_cases hdots : IsDots segment
      · have hstep := length_step_of_dots hdots before
        have hrest := length_foldl_step_le (step before segment) segments
        omega
      · have hmore : ∃ other ∈ segments, IsDots other := by
          obtain ⟨other, hmem, hother⟩ := h
          rcases List.mem_cons.mp hmem with rfl | hmem
          · exact absurd hother hdots
          · exact ⟨other, hmem, hother⟩
        have hstep := length_step_le before segment
        have hrest := ih hmore (step before segment)
        omega

/-! ### What resolving leaves -/

theorem resolve_of_plain {segments : List (List Char)}
    (h : ∀ segment ∈ segments, ¬ IsDots segment ∧ IsEscaped segment)
    (before : List (List Char)) :
    resolve false before segments = segments.reverse ++ before := by
  rcases List.eq_nil_or_concat' segments with rfl | ⟨init, last, rfl⟩
  · rfl
  · have hlast : ¬ IsDots last := (h last (List.mem_append_right _ (List.mem_singleton_self _))).1
    rw [resolve_concat, if_neg hlast, foldl_step_of_plain h]

theorem resolve_ne_nil {segments : List (List Char)} (hne : segments ≠ [])
    (before : List (List Char)) : resolve false before segments ≠ [] := by
  rcases List.eq_nil_or_concat' segments with rfl | ⟨init, last, rfl⟩
  · exact absurd rfl hne
  · rw [resolve_append (List.cons_ne_nil _ _), resolve_singleton]
    split
    · exact List.cons_ne_nil _ _
    · rename_i hdots
      obtain ⟨hdot, hdouble⟩ := not_or.mp hdots
      rw [step, if_neg hdouble, if_neg hdot]
      exact List.cons_ne_nil _ _

theorem length_resolve_le (before segments : List (List Char)) :
    (resolve false before segments).length ≤ before.length + segments.length := by
  rcases List.eq_nil_or_concat' segments with rfl | ⟨init, last, rfl⟩
  · exact Nat.le_refl _
  · rw [resolve_concat]
    split
    · rename_i hdots
      have hmem : last ∈ init ++ [last] := List.mem_append_right _ (List.mem_singleton_self _)
      exact length_foldl_step_of_dots ⟨last, hmem, hdots⟩ before
    · exact length_foldl_step_le before _

/-- Dots make a path shorter; only at the end they may leave an empty segment in their place. -/
theorem resolve_of_dots {segments : List (List Char)} (h : ∃ segment ∈ segments, IsDots segment)
    (before : List (List Char)) :
    (resolve false before segments).length < before.length + segments.length ∨
      (∃ last, segments.getLast? = some last ∧ IsDots last) ∧
        (resolve false before segments).head? = some [] := by
  rcases List.eq_nil_or_concat' segments with rfl | ⟨init, last, rfl⟩
  · obtain ⟨segment, hmem, _⟩ := h
    cases hmem
  · rw [resolve_concat]
    split
    · rename_i hdots
      exact Or.inr ⟨⟨last, List.getLast?_concat, hdots⟩, rfl⟩
    · exact Or.inl (length_foldl_step_of_dots h before)

theorem not_mem_foldl_step {before segments : List (List Char)}
    (hbefore : ∀ segment ∈ before, '/' ∉ segment)
    (hsegments : ∀ segment ∈ segments, '/' ∉ segment) :
    ∀ segment ∈ segments.foldl step before, '/' ∉ segment := by
  have hstep {before : List (List Char)} (hbefore : ∀ segment ∈ before, '/' ∉ segment)
      {segment : List Char} (hsegment : '/' ∉ segment) :
      ∀ other ∈ step before segment, '/' ∉ other := by
    intro other hmem
    unfold step at hmem
    split at hmem
    · exact hbefore other (mem_dropLast hmem)
    split at hmem
    · exact hbefore other hmem
    · rcases List.mem_cons.mp hmem with rfl | hmem
      · intro hslash
        rcases Percent.mem_encode hslash with ⟨_, hkept⟩ | heq | hdigit
        · exact hsegment hkept
        · exact absurd heq (by decide)
        · exact absurd hdigit (by decide)
      · exact hbefore other hmem
  induction segments generalizing before with
  | nil => exact hbefore
  | cons segment segments ih =>
      obtain ⟨hsegment, hrest⟩ := List.forall_mem_cons.mp hsegments
      exact ih (hstep hbefore hsegment) hrest

/-- Resolving brings no slash into a segment. -/
theorem not_mem_resolve {before segments : List (List Char)}
    (hbefore : ∀ segment ∈ before, '/' ∉ segment)
    (hsegments : ∀ segment ∈ segments, '/' ∉ segment) :
    ∀ segment ∈ resolve false before segments, '/' ∉ segment := by
  have hfold := not_mem_foldl_step hbefore hsegments
  rcases List.eq_nil_or_concat' segments with rfl | ⟨init, last, rfl⟩
  · exact hbefore
  · rw [resolve_concat]
    split
    · exact List.forall_mem_cons.mpr ⟨List.not_mem_nil, hfold⟩
    · exact hfold

/-! ### Paths below a directory -/

/-- The segments in the text of a path. -/
def readSegments (path : List Char) : List (List Char) :=
  Split.pieces '/' (path.drop 1)

theorem join_eq {segments : List (List Char)} (hne : segments ≠ []) :
    join segments = '/' :: List.intercalate ['/'] segments := by
  induction segments with
  | nil => exact absurd rfl hne
  | cons segment segments ih =>
      cases segments with
      | nil => simp [join]
      | cons other segments =>
          have hrest := ih (List.cons_ne_nil _ _)
          rw [join, List.flatMap_cons, ← join, hrest, List.intercalate_cons_cons]
          simp

theorem readSegments_join {segments : List (List Char)} (hne : segments ≠ [])
    (h : ∀ segment ∈ segments, '/' ∉ segment) : readSegments (join segments) = segments := by
  rw [readSegments, join_eq hne, List.drop_succ_cons, List.drop_zero,
    Split.pieces_intercalate hne h]

def toSlash (port : Nat) (c : Char) : Char :=
  if (SchemeKind.network port).isSlash c then '/' else c

theorem map_toSlash (port : Nat) {cs : List Char} (h : '\\' ∉ cs) : cs.map (toSlash port) = cs := by
  have hsame : ∀ c ∈ cs, toSlash port c = id c := by
    intro c hc
    have hne : c ≠ '\\' := fun heq => h (heq ▸ hc)
    unfold toSlash SchemeKind.isSlash
    split
    · rename_i hslash
      simp only [beq_eq_false_iff_ne.mpr hne, Bool.false_and, Bool.or_false, beq_iff_eq] at hslash
      exact hslash.symm
    · rfl
  rw [List.map_congr_left hsame, List.map_id]

theorem pieces_of_slash {port : Nat} {c : Char} (hc : toSlash port c = '/') (cs : List Char) :
    pieces (.network port) (c :: cs) = Split.pieces '/' (cs.map (toSlash port)) := by
  unfold toSlash at hc
  unfold pieces
  rw [List.map_cons, hc]
  rfl

theorem pieces_of_not_slash {port : Nat} {c : Char} (hc : toSlash port c ≠ '/')
    (cs : List Char) :
    pieces (.network port) (c :: cs) = Split.pieces '/' ((c :: cs).map (toSlash port)) := by
  unfold toSlash at hc
  unfold pieces
  rw [List.map_cons]
  split
  · rename_i heq
    exact absurd (List.cons.inj heq).1 hc
  · rfl

/-- What stands before a slash has pieces of its own, whatever follows. -/
theorem pieces_below (port : Nat) (start : List Char) :
    ∃ directory : List (List Char), (∀ segment ∈ directory, '/' ∉ segment) ∧
      ∀ extra, '\\' ∉ extra →
        pieces (.network port) (start ++ '/' :: extra) = directory ++ Split.pieces '/' extra := by
  have hslash : toSlash port '/' = '/' := by
    simp [toSlash]
  cases start with
  | nil =>
      refine ⟨[], List.forall_mem_nil _, ?_⟩
      intro extra hextra
      rw [List.nil_append, pieces_of_slash hslash, map_toSlash port hextra, List.nil_append]
  | cons c start =>
      -- a slash at the start opens the first segment and separates nothing
      by_cases hc : toSlash port c = '/'
      · refine ⟨Split.pieces '/' (start.map (toSlash port)),
          fun _ hmem => Split.not_mem_of_mem_pieces hmem, ?_⟩
        intro extra hextra
        rw [List.cons_append, pieces_of_slash hc, List.map_append, List.map_cons, hslash,
          map_toSlash port hextra, Split.pieces_append]
      · refine ⟨Split.pieces '/' ((c :: start).map (toSlash port)),
          fun _ hmem => Split.not_mem_of_mem_pieces hmem, ?_⟩
        intro extra hextra
        rw [List.cons_append, pieces_of_not_slash hc, ← List.cons_append, List.map_append,
          List.map_cons (a := '/'), hslash, map_toSlash port hextra, Split.pieces_append]

/-- Below a directory, the segments of a path are those of the directory and then the ones that
follow, resolved. -/
theorem segments_below (port : Nat) (start : List Char) :
    ∃ directory : List (List Char), (∀ segment ∈ directory, '/' ∉ segment) ∧
      ∀ extra, '\\' ∉ extra →
        segments (.network port) (start ++ '/' :: extra) =
          (resolve false directory (Split.pieces '/' extra)).reverse := by
  obtain ⟨directory, hdirectory, hpieces⟩ := pieces_below port start
  have hempty : ∀ segment ∈ ([] : List (List Char)), '/' ∉ segment := List.forall_mem_nil _
  refine ⟨directory.foldl step [], not_mem_foldl_step hempty hdirectory, ?_⟩
  intro extra hextra
  have hfile : (SchemeKind.network port == .file) = false := rfl
  rw [segments, hpieces extra hextra, hfile, resolve_append (Split.pieces_ne_nil _ _)]

/-- The path of the directory itself ends with an empty segment. -/
theorem resolve_empty (directory : List (List Char)) :
    resolve false directory (Split.pieces '/' []) = [] :: directory := by
  have hplain : ∀ segment ∈ Split.pieces '/' [], ¬ IsDots segment ∧ IsEscaped segment := by
    intro segment hmem
    obtain rfl := List.mem_singleton.mp hmem
    exact ⟨by decide, fun _ hc => absurd hc List.not_mem_nil⟩
  rw [resolve_of_plain hplain]
  rfl

/-! ### Dots behind escapes -/

theorem decode_of_dot? {cs rest : List Char} (h : dot? cs = some rest) :
    Percent.decode (Utf8.encode cs) = 46 :: Percent.decode (Utf8.encode rest) := by
  unfold dot? at h
  split at h
  · cases h
    exact Percent.decode_cons_of_ne (show (46 : UInt8) ≠ 37 by decide) (Utf8.encode rest)
  · cases h
    rfl
  · cases h
    rfl
  · cases h

theorem decode_of_isDot {segment : List Char} (h : isDot segment = true) :
    Percent.decode (Utf8.encode segment) = bytesOf "." := by
  have hdot : dot? segment = some [] := by
    simpa [isDot] using h
  rw [decode_of_dot? hdot]
  rfl

theorem decode_of_isDoubleDot {segment : List Char} (h : isDoubleDot segment = true) :
    Percent.decode (Utf8.encode segment) = bytesOf ".." := by
  have hdots : (dot? segment).bind dot? = some [] := by
    simpa [isDoubleDot] using h
  obtain ⟨rest, hfirst, hsecond⟩ := Option.bind_eq_some_iff.mp hdots
  rw [decode_of_dot? hfirst, decode_of_dot? hsecond]
  rfl

/-- What a segment stands for. -/
def decodeSegment (segment : List Char) : Bytes :=
  Percent.decode (Utf8.encode segment)

/-- Segments below a directory are found in the path as they were written exactly when none of them
stands for a directory itself. -/
theorem resolve_eq_iff {segments : List (List Char)}
    (hescaped : ∀ segment ∈ segments, IsEscaped segment) (before : List (List Char)) :
    (resolve false before segments).reverse.map decodeSegment =
        (before.reverse ++ segments).map decodeSegment ↔
      ∀ segment ∈ segments, ¬ IsDots segment := by
  constructor
  · intro heq segment hmem hdots
    rcases resolve_of_dots ⟨segment, hmem, hdots⟩ before with hshort | ⟨⟨last, hlast, hdots⟩, hhead⟩
    · have hlength := congrArg List.length heq
      simp only [List.length_map, List.length_reverse, List.length_append] at hlength
      omega
    · -- the last segment is found empty, but what was written there stands for one or two dots
      have hends := congrArg List.getLast? heq
      rw [List.getLast?_map, List.getLast?_reverse, hhead, List.getLast?_map, List.getLast?_append,
        hlast] at hends
      have hempty : decodeSegment [] = decodeSegment last := Option.some.inj hends
      rcases hdots with hdot | hdouble
      · rw [decodeSegment, decodeSegment, decode_of_isDot hdot] at hempty
        exact absurd hempty (by decide)
      · rw [decodeSegment, decodeSegment, decode_of_isDoubleDot hdouble] at hempty
        exact absurd hempty (by decide)
  · intro hplain
    rw [resolve_of_plain fun segment hmem => ⟨hplain segment hmem, hescaped segment hmem⟩,
      List.reverse_append, List.reverse_reverse]

end UrlPath

end ApiCall
