import ApiCall.Assoc
import ApiCall.PathTemplate
import ApiCall.Proofs.Text.Percent
import ApiCall.Proofs.Text.Split
import Mathlib

/-!
Path templates as texts and names in braces. Replacing a name fills the places of this name and
leaves all others alone (`PathTemplate.replaceName_text`), so replacing several names, one after
the other, fills each place with the first value that its name has (`Piece.fill_cons`). Escaped
values have no brace, so they can all be put in at once (`PathTemplate.foldl_replaceName_text`).
-/

namespace ApiCall

namespace PathTemplate

/-- What a path template is made of. -/
inductive Piece where
  | literal (text : String)
  | placeholder (name : String)
  deriving DecidableEq, Repr

namespace Piece

/-- The piece as it stands in a template. -/
def text : Piece → List Char
  | literal text => text.toList
  | placeholder name => '\x7b' :: (name.toList ++ ['\x7d'])

/-- The text or the name has no brace. -/
def BraceFree : Piece → Prop
  | literal text => '\x7b' ∉ text.toList ∧ '\x7d' ∉ text.toList
  | placeholder name => '\x7b' ∉ name.toList ∧ '\x7d' ∉ name.toList

instance (piece : Piece) : Decidable piece.BraceFree :=
  match piece with
  | literal _ => inferInstanceAs (Decidable (_ ∧ _))
  | placeholder _ => inferInstanceAs (Decidable (_ ∧ _))

/-- Puts the first value of its name in a place. -/
def fill (values : List (String × String)) : Piece → Piece
  | literal text => literal text
  | placeholder name =>
    match values.lookup name with
    | some value => literal value
    | none => placeholder name

theorem fill_nil : fill [] = id := by
  funext piece
  cases piece with
  | literal text => rfl
  | placeholder name => rfl

theorem fill_cons (name value : String) (values : List (String × String)) (piece : Piece) :
    (piece.fill [(name, value)]).fill values = piece.fill ((name, value) :: values) := by
  cases piece with
  | literal text => rfl
  | placeholder other =>
      by_cases heq : other = name
      · subst heq
        simp [fill]
      · simp [fill, List.lookup, beq_eq_false_iff_ne.mpr heq]

theorem fill_congr {values others : List (String × String)}
    (h : ∀ name, values.lookup name = others.lookup name) : fill values = fill others := by
  funext piece
  cases piece with
  | literal text => rfl
  | placeholder name => rw [fill, fill, h]

theorem fill_self (name value : String) :
    (placeholder name).fill [(name, value)] = literal value := by
  simp [fill]

theorem fill_of_ne {name other : String} (hne : other ≠ name) (value : String) :
    (placeholder other).fill [(name, value)] = placeholder other := by
  simp [fill, List.lookup, beq_eq_false_iff_ne.mpr hne]

theorem BraceFree.fill {piece : Piece} (h : piece.BraceFree) {values : List (String × String)}
    (hvalues : ∀ entry ∈ values, (literal entry.2).BraceFree) : (piece.fill values).BraceFree := by
  cases piece with
  | literal text => exact h
  | placeholder name =>
      rw [Piece.fill]
      cases hlookup : values.lookup name with
      | none => exact h
      | some value => exact hvalues (name, value) (Assoc.mem_of_lookup hlookup)

end Piece

/-- The text of a template. -/
def text (pieces : List Piece) : String :=
  String.ofList (pieces.flatMap Piece.text)

/-- The place of another name is passed over: its closing brace is not the one that is looked
for. -/
theorem replace_placeholder_of_ne {name other : String} (hne : other ≠ name)
    (hname : '\x7d' ∉ name.toList) (hother : (Piece.placeholder other).BraceFree)
    (new rest : List Char) :
    Split.replace '\x7b' (name.toList ++ ['\x7d']) new ((Piece.placeholder other).text ++ rest) =
      (Piece.placeholder other).text ++
        Split.replace '\x7b' (name.toList ++ ['\x7d']) new rest := by
  have hnone : Split.after? ('\x7b' :: (name.toList ++ ['\x7d']))
      ('\x7b' :: (other.toList ++ '\x7d' :: rest)) = none := by
    rw [Option.eq_none_iff_forall_ne_some]
    intro following hsome
    have heq := Split.after?_eq_some_iff.mp hsome
    rw [List.cons_append, List.append_assoc, List.singleton_append, List.cons.injEq] at heq
    have hcut := Split.once_append hother.2 rest
    rw [heq.2, Split.once_append hname, Option.some.injEq, Prod.mk.injEq] at hcut
    exact hne (String.toList_inj.mp hcut.1).symm
  have hopen : '\x7b' ∉ other.toList ++ ['\x7d'] := by
    rw [List.mem_append, List.mem_singleton]
    rintro (hmem | heq)
    · exact hother.1 hmem
    · exact absurd heq (by decide)
  rw [Piece.text, List.cons_append, List.append_assoc, List.singleton_append,
    Split.replace_cons_of_none new hnone]
  rw [show other.toList ++ '\x7d' :: rest = (other.toList ++ ['\x7d']) ++ rest by simp,
    Split.replace_append_of_not_mem hopen]
  simp

/-- Replacing a name fills the places of this name and changes nothing else. -/
theorem replaceName_text {pieces : List Piece} (h : ∀ piece ∈ pieces, piece.BraceFree)
    {name : String} (hname : '\x7d' ∉ name.toList) (new : String) :
    replaceName (text pieces) name new = text (pieces.map (Piece.fill [(name, new)])) := by
  have hchars : Split.replace '\x7b' (name.toList ++ ['\x7d']) new.toList
      (pieces.flatMap Piece.text) =
        (pieces.map (Piece.fill [(name, new)])).flatMap Piece.text := by
    induction pieces with
    | nil =>
        rw [List.flatMap_nil, Split.replace]
        rfl
    | cons piece pieces ih =>
        obtain ⟨hpiece, hpieces⟩ := List.forall_mem_cons.mp h
        rw [List.flatMap_cons, List.map_cons, List.flatMap_cons, ← ih hpieces]
        cases piece with
        | literal t => exact Split.replace_append_of_not_mem hpiece.1 _ _ _
        | placeholder other =>
            by_cases heq : other = name
            · subst heq
              rw [Piece.fill_self]
              exact Split.replace_append_self _ _ _ _
            · rw [Piece.fill_of_ne heq, replace_placeholder_of_ne heq hname hpiece]
  rw [replaceName, text, String.toList_ofList, hchars, text]

/-- Only a single item without a key path takes a place. -/
theorem substitute_eq_ok {template name path : String} {items : Items}
    (h : substitute template name items = .ok path) :
    ∃ item, items = [item] ∧ item.trimmed.isEmpty = true ∧
      path = replaceName template name (escapeSegment (",".intercalate item.values)) := by
  match items with
  | [item] =>
      rw [substitute] at h
      split at h
      · rename_i htrimmed
        exact ⟨item, rfl, htrimmed, (Except.ok.inj h).symm⟩
      · cases h
  | [] => cases h
  | _ :: _ :: _ => cases h

/-- Whether a value can be substituted does not depend on the template. -/
theorem exists_substitute_eq_ok {template name path : String} {items : Items}
    (h : substitute template name items = .ok path) (other : String) :
    ∃ path', substitute other name items = .ok path' := by
  obtain ⟨item, rfl, htrimmed, _⟩ := substitute_eq_ok h
  exact ⟨_, if_pos htrimmed⟩

/-! ### Escaped values -/

/-- Escapes the values that are put in the places of a template. -/
def escapeValues (values : List (String × String)) : List (String × String) :=
  values.map fun (name, value) => (name, escapeSegment value)

theorem isSegmentChar_keepsAscii : Percent.KeepsAscii isSegmentChar := by
  intro c hc
  unfold isSegmentChar Percent.visibleExcept Percent.isVisibleAscii at hc
  simp only [Bool.and_eq_true, decide_eq_true_eq, Bool.not_eq_true'] at hc
  refine ⟨by omega, ?_⟩
  rintro rfl
  exact absurd hc.2 (by decide)

theorem not_mem_escapeSegment {c : Char} (hkeep : isSegmentChar c = false) (hpercent : c ≠ '%')
    (halnum : c.isAlphanum = false) (value : String) : c ∉ (escapeSegment value).toList := by
  intro hmem
  rw [escapeSegment, String.toList_ofList] at hmem
  rcases Percent.mem_encode hmem with ⟨hkept, _⟩ | heq | hdigit
  · exact absurd hkept (by simp [hkeep])
  · exact hpercent heq
  · exact absurd hdigit (by simp [halnum])

theorem braceFree_escapeSegment (value : String) :
    (Piece.literal (escapeSegment value)).BraceFree :=
  ⟨not_mem_escapeSegment (by decide) (by decide) (by decide) value,
    not_mem_escapeSegment (by decide) (by decide) (by decide) value⟩

theorem decode_escapeSegment (value : String) :
    Percent.decode (bytesOf (escapeSegment value)) = bytesOf value := by
  rw [bytesOf, escapeSegment, String.toList_ofList]
  exact Percent.decode_encode isSegmentChar_keepsAscii value.toList

/-- How a text is shown in one segment of a path. It decodes to the text; its bytes are those of the
text, with a triplet for each one that is no character of segments; and it has none of the
characters that would end the segment or open a place. -/
structure Shows (shown text : String) : Prop where
  decoded : Percent.decode (bytesOf shown) = bytesOf text
  escaped : Percent.IsEscaped isSegmentChar shown.toList
  bytes : bytesOf shown = (bytesOf text).flatMap (Percent.escapeByte isSegmentChar)
  delimiterFree : ∀ c ∈ " \"#<>`?\x7b\x7d/\\".toList, c ∉ shown.toList

/-- A text is shown in one way only. -/
theorem Shows.unique {shown other text : String} (h : Shows shown text)
    (hother : Shows other text) : shown = other :=
  bytesOf_inj.mp (h.bytes.trans hother.bytes.symm)

theorem shows_escapeSegment (text : String) : Shows (escapeSegment text) text where
  decoded := decode_escapeSegment text
  escaped := by
    rw [escapeSegment, String.toList_ofList]
    exact Percent.isEscaped_encode isSegmentChar text.toList
  bytes := by
    rw [bytesOf, escapeSegment, String.toList_ofList]
    exact Percent.encode_bytes isSegmentChar_keepsAscii text.toList
  delimiterFree := by
    have hclass : " \"#<>`?\x7b\x7d/\\".toList.all
        (fun c => !isSegmentChar c && c != '%' && !c.isAlphanum) = true := by
      decide
    intro c hc
    have hc' := List.all_eq_true.mp hclass c hc
    simp only [Bool.and_eq_true, Bool.not_eq_true', bne_iff_ne] at hc'
    obtain ⟨⟨hkeep, hpercent⟩, halnum⟩ := hc'
    exact not_mem_escapeSegment hkeep hpercent halnum text

/-- Replacing a name by an escaped value puts this value wherever the name stands in braces. -/
theorem replaced_replaceName (template name new : String) :
    Split.Replaced (Piece.placeholder name).text new.toList template.toList
      (replaceName template name new).toList := by
  rw [replaceName, String.toList_ofList]
  exact Split.replaced_replace _ _ _ _

/-- A value brings no place into a template, since its braces are escaped. -/
theorem braceFree_map_fill {pieces : List Piece} (h : ∀ piece ∈ pieces, piece.BraceFree)
    (values : List (String × String)) :
    ∀ piece ∈ pieces.map (Piece.fill (escapeValues values)), piece.BraceFree := by
  intro piece hmem
  obtain ⟨original, horiginal, rfl⟩ := List.mem_map.mp hmem
  apply (h original horiginal).fill
  intro entry hentry
  obtain ⟨value, -, rfl⟩ := List.mem_map.mp hentry
  exact braceFree_escapeSegment value.2

/-- Escaped values replace their names one after the other as they would all at once. -/
theorem foldl_replaceName_text {pieces : List Piece} (h : ∀ piece ∈ pieces, piece.BraceFree)
    {values : List (String × String)} (hnames : ∀ entry ∈ values, '\x7d' ∉ entry.1.toList) :
    values.foldl (fun path entry => replaceName path entry.1 (escapeSegment entry.2))
        (text pieces) =
      text (pieces.map (Piece.fill (escapeValues values))) := by
  induction values generalizing pieces with
  | nil => simp [escapeValues, Piece.fill_nil]
  | cons entry values ih =>
      obtain ⟨hname, hnames⟩ := List.forall_mem_cons.mp hnames
      have hfilled : ∀ piece ∈ pieces.map (Piece.fill [(entry.1, escapeSegment entry.2)]),
          piece.BraceFree := braceFree_map_fill h [entry]
      rw [List.foldl_cons, replaceName_text h hname, ih hfilled hnames, List.map_map]
      simp only [escapeValues, List.map_cons, Function.comp_def, Piece.fill_cons]

theorem isSegmentChar_of_isUnreserved {c : Char} (h : Percent.isUnreserved c = true) :
    isSegmentChar c = true := by
  simp only [Percent.isUnreserved, Bool.or_eq_true, beq_iff_eq] at h
  rcases h with (((halnum | rfl) | rfl) | rfl) | rfl
  · exact Percent.visibleExcept_of_isAlphanum (by decide) halnum
  · decide
  · decide
  · decide
  · decide

/-! ### Segments of a template -/

/-- The template whose segments are these, with slashes between them. -/
def ofSegments (segments : List (List Piece)) : List Piece :=
  List.intercalate [.literal "/"] segments

theorem map_ofSegments (f : Piece → Piece) (hslash : f (.literal "/") = .literal "/")
    (segments : List (List Piece)) :
    (ofSegments segments).map f = ofSegments (segments.map (List.map f)) := by
  induction segments with
  | nil => rfl
  | cons segment segments ih =>
      cases segments with
      | nil => simp [ofSegments]
      | cons other segments =>
          rw [ofSegments] at ih ⊢
          rw [List.intercalate_cons_cons, List.map_append, List.map_append, ih, List.map_singleton,
            hslash, ofSegments, ofSegments, List.map_cons, List.map_cons, List.map_cons,
            List.intercalate_cons_cons]

theorem flatMap_text_ofSegments (segments : List (List Piece)) :
    (ofSegments segments).flatMap Piece.text =
      List.intercalate ['/'] (segments.map (List.flatMap Piece.text)) := by
  induction segments with
  | nil => rfl
  | cons segment segments ih =>
      cases segments with
      | nil => simp [ofSegments]
      | cons other segments =>
          rw [ofSegments] at ih ⊢
          rw [List.intercalate_cons_cons, List.flatMap_append, List.flatMap_append, ih,
            List.map_cons, List.map_cons, List.map_cons, List.intercalate_cons_cons]
          rfl

/-- A segment as it stands in a URL. -/
def escaped (text : String) : List Char :=
  Percent.encode isSegmentChar text.toList

/-- The piece is unreserved text or a place for one of these names. -/
def Piece.IsFilledBy (names : List String) : Piece → Prop
  | literal text => text.toList.all Percent.isUnreserved = true
  | placeholder name => ('\x7b' ∉ name.toList ∧ '\x7d' ∉ name.toList) ∧ name ∈ names

instance (names : List String) (piece : Piece) : Decidable (piece.IsFilledBy names) :=
  match piece with
  | .literal _ => inferInstanceAs (Decidable (_ = true))
  | .placeholder _ => inferInstanceAs (Decidable ((_ ∧ _) ∧ _))

/-- The segment has unreserved text and places for these names only. -/
def IsFilledBy (names : List String) (segment : List Piece) : Prop :=
  ∀ piece ∈ segment, piece.IsFilledBy names

instance (names : List String) (segment : List Piece) : Decidable (IsFilledBy names segment) :=
  inferInstanceAs (Decidable (∀ _ ∈ _, _))

/-- The text of a segment with values in its places. -/
def fillSegment (values : List (String × String)) (segment : List Piece) : String :=
  text (segment.map (Piece.fill values))

theorem lookup_escapeValues (values : List (String × String)) (name : String) :
    (escapeValues values).lookup name = (values.lookup name).map escapeSegment := by
  induction values with
  | nil => rfl
  | cons entry values ih =>
      rw [escapeValues, List.map_cons, ← escapeValues, List.lookup_cons, List.lookup_cons, ih]
      split
      · rfl
      · rfl

theorem exists_lookup_of_mem {values : List (String × String)} {name : String}
    (h : name ∈ values.map Prod.fst) : ∃ value, values.lookup name = some value := by
  obtain ⟨entry, hentry, rfl⟩ := List.mem_map.mp h
  cases hlookup : values.lookup entry.1 with
  | none =>
      have hnone := List.lookup_eq_none_iff.mp hlookup entry hentry
      simp at hnone
  | some value => exact ⟨value, rfl⟩

/-- Escaping the values escapes the whole segment, since its own text needs no escapes. -/
theorem text_fill_escapeValues {values : List (String × String)} {segment : List Piece}
    (h : IsFilledBy (values.map Prod.fst) segment) :
    (segment.map (Piece.fill (escapeValues values))).flatMap Piece.text =
      escaped (fillSegment values segment) := by
  rw [escaped, fillSegment, text, String.toList_ofList]
  induction segment with
  | nil => rfl
  | cons piece segment ih =>
      obtain ⟨hpiece, hsegment⟩ := List.forall_mem_cons.mp h
      have hescaped : (piece.fill (escapeValues values)).text =
          Percent.encode isSegmentChar (piece.fill values).text := by
        cases piece with
        | literal text =>
            exact (Percent.encode_of_kept fun c hc =>
              isSegmentChar_of_isUnreserved (List.all_eq_true.mp hpiece c hc)).symm
        | placeholder name =>
            obtain ⟨value, hvalue⟩ := exists_lookup_of_mem hpiece.2
            have hlookup := lookup_escapeValues values name
            rw [hvalue, Option.map_some] at hlookup
            simp only [Piece.fill, hvalue, hlookup]
            exact String.toList_ofList
      rw [List.map_cons, List.flatMap_cons, List.map_cons, List.flatMap_cons, hescaped,
        ih hsegment, Percent.encode, Percent.encode, Percent.encode, List.flatMap_append]

theorem IsFilledBy.mono {names others : List String} (hnames : ∀ name ∈ names, name ∈ others)
    {segment : List Piece} (h : IsFilledBy names segment) : IsFilledBy others segment := by
  intro piece hmem
  have hpiece := h piece hmem
  cases piece with
  | literal text => exact hpiece
  | placeholder name => exact ⟨hpiece.1, hnames name hpiece.2⟩

theorem IsFilledBy.braceFree {names : List String} {segment : List Piece}
    (h : IsFilledBy names segment) : ∀ piece ∈ segment, piece.BraceFree := by
  intro piece hmem
  have hpiece := h piece hmem
  cases piece with
  | literal text =>
      constructor
      · intro hbrace
        exact absurd (List.all_eq_true.mp hpiece _ hbrace) (by decide)
      · intro hbrace
        exact absurd (List.all_eq_true.mp hpiece _ hbrace) (by decide)
  | placeholder name => exact hpiece.1

theorem braceFree_ofSegments {segments : List (List Piece)}
    (h : ∀ segment ∈ segments, ∀ piece ∈ segment, piece.BraceFree) :
    ∀ piece ∈ ofSegments segments, piece.BraceFree := by
  intro piece hmem
  rcases Split.mem_intercalate hmem with rfl | ⟨segment, hsegment, hpiece⟩
  · exact ⟨by decide, by decide⟩
  · exact h segment hsegment piece hpiece

/-- The text of a template with escaped values in its places is made of the escaped segments. -/
theorem toList_text_fill {values : List (String × String)} {segments : List (List Piece)}
    (h : ∀ segment ∈ segments, IsFilledBy (values.map Prod.fst) segment) :
    (text ((ofSegments segments).map (Piece.fill (escapeValues values)))).toList =
      List.intercalate ['/'] ((segments.map (fillSegment values)).map escaped) := by
  rw [text, String.toList_ofList, map_ofSegments _ rfl, flatMap_text_ofSegments, List.map_map,
    List.map_map]
  refine congrArg _ (List.map_congr_left ?_)
  intro segment hmem
  exact text_fill_escapeValues (h segment hmem)

end PathTemplate

end ApiCall
