import ApiCall.MediaType
import Mathlib

/-!
A media type is its own media type (`MediaType.ofContentType_ofContentType`): it has no parameters,
no blanks at its ends and no capital letters that could be taken away once more.
-/

namespace ApiCall

/-- A letter in lower case is no blank, no semicolon and no capital letter, as far as the letter
itself is not. -/
private theorem toLower_spec (c : Char) :
    c.toLower.toLower = c.toLower ∧ Blank.isBlank c.toLower = Blank.isBlank c ∧
      (c.toLower = ';' ↔ c = ';') := by
  by_cases hupper : c.isUpper = true
  · have hrange : 65 ≤ c.toNat ∧ c.toNat ≤ 90 := by
      simpa [Char.isUpper, UInt32.le_iff_toNat_le] using hupper
    have hletters : ∀ i : Fin 26, let d := Char.ofNat (65 + i)
        d.toLower.toLower = d.toLower ∧ Blank.isBlank d.toLower = Blank.isBlank d ∧
          (d.toLower = ';' ↔ d = ';') := by
      decide
    have hletter := hletters ⟨c.toNat - 65, by omega⟩
    rw [show 65 + (c.toNat - 65) = c.toNat by omega, Char.ofNat_toNat] at hletter
    exact hletter
  · have hself : c.toLower = c := Char.toLower_eq_of_not_isUpper (by simpa using hupper)
    rw [hself, hself]
    exact ⟨rfl, rfl, Iff.rfl⟩

namespace Blank

theorem trimBy_eq_rdropWhile (drop : Char → Bool) (cs : List Char) :
    trimBy drop cs = (cs.dropWhile drop).rdropWhile drop := rfl

/-- A trimmed text has nothing at its ends to be taken away. -/
theorem trimBy_trimBy (drop : Char → Bool) (cs : List Char) :
    trimBy drop (trimBy drop cs) = trimBy drop cs := by
  have hstart : (trimBy drop cs).dropWhile drop = trimBy drop cs := by
    rw [List.dropWhile_eq_self_iff]
    intro hpos
    have hne : trimBy drop cs ≠ [] := List.ne_nil_of_length_pos hpos
    have hhead := (List.rdropWhile_prefix drop (cs.dropWhile drop)).head hne
    have hnot := List.head_dropWhile_not drop (l := cs)
      (fun hnil => hne (by rw [trimBy_eq_rdropWhile, hnil]; rfl))
    rw [← List.head_eq_getElem hne]
    change ¬ drop (((cs.dropWhile drop).rdropWhile drop).head hne) = true
    rw [hhead, hnot]
    exact Bool.false_ne_true
  rw [trimBy_eq_rdropWhile, hstart, trimBy_eq_rdropWhile]
  exact List.rdropWhile_idempotent drop _

theorem trim_trim (cs : List Char) : trim (trim cs) = trim cs :=
  trimBy_trimBy isBlank cs

theorem dropWhile_of_not_blank {cs : List Char} (h : ∀ c ∈ cs, isBlank c = false) :
    cs.dropWhile isBlank = cs := by
  rw [List.dropWhile_eq_self_iff]
  intro hpos
  rw [h _ (List.getElem_mem hpos)]
  exact Bool.false_ne_true

/-- The text is the inner one with nothing but white space before and after it. -/
def Padded (text inner : List Char) : Prop :=
  ∃ before after, text = before ++ (inner ++ after) ∧ (∀ c ∈ before, isBlank c = true) ∧
    ∀ c ∈ after, isBlank c = true

theorem padded_trim (text : List Char) : Padded text (trim text) := by
  have hstart : text.takeWhile isBlank ++ text.dropWhile isBlank = text :=
    List.takeWhile_append_dropWhile
  have hend : trim text ++ (text.dropWhile isBlank).rtakeWhile isBlank = text.dropWhile isBlank :=
    List.rdropWhile_append_rtakeWhile
  refine ⟨text.takeWhile isBlank, (text.dropWhile isBlank).rtakeWhile isBlank, ?_, ?_, ?_⟩
  · rw [hend, hstart]
  · exact fun c hc => List.mem_takeWhile_imp hc
  · exact fun c hc => List.mem_rtakeWhile_imp hc

/-- What has no blank at all is what trimming leaves of it between blanks. -/
theorem trim_eq_iff {text inner : List Char} (hinner : ∀ c ∈ inner, isBlank c = false) :
    trim text = inner ↔ Padded text inner := by
  constructor
  · rintro rfl
    exact padded_trim text
  · rintro ⟨before, after, rfl, hbefore, hafter⟩
    have hreverse : ∀ c ∈ inner.reverse, isBlank c = false :=
      fun c hc => hinner c (List.mem_reverse.mp hc)
    have hend : (after.reverse ++ inner.reverse).dropWhile isBlank = inner.reverse := by
      rw [List.dropWhile_append_of_pos fun c hc => hafter c (List.mem_reverse.mp hc),
        dropWhile_of_not_blank hreverse]
    rw [trim, trimBy, List.dropWhile_append_of_pos hbefore]
    cases inner with
    | nil =>
        rw [List.nil_append, List.dropWhile_eq_nil_iff.mpr hafter]
        rfl
    | cons c inner =>
        rw [List.cons_append, List.dropWhile_cons, hinner c List.mem_cons_self,
          if_neg Bool.false_ne_true, ← List.cons_append, List.reverse_append, hend,
          List.reverse_reverse]

/-- A text without blanks has none at its ends. -/
theorem trim_of_not_blank {cs : List Char} (h : ∀ c ∈ cs, isBlank c = false) : trim cs = cs :=
  (trim_eq_iff h).mpr ⟨[], [], by simp, by simp, by simp⟩

theorem trim_map_toLower (cs : List Char) :
    trim (cs.map Char.toLower) = (trim cs).map Char.toLower := by
  have hblank : isBlank ∘ Char.toLower = isBlank := by
    funext c
    exact (toLower_spec c).2.1
  simp only [trim, trimBy, List.dropWhile_map, ← List.map_reverse, hblank]

end Blank

namespace MediaType

theorem ofContentType_ofContentType (contentType : String) :
    ofContentType (ofContentType contentType) = ofContentType contentType := by
  generalize hmain : contentType.toList.takeWhile (· != ';') = main
  have hplain : ((Blank.trim main).map Char.toLower).takeWhile (· != ';') =
      (Blank.trim main).map Char.toLower := by
    rw [List.takeWhile_eq_self_iff, List.forall_mem_map]
    intro c hc
    have hmem : c ∈ main := by
      have hsuffix := (List.dropWhile_suffix Blank.isBlank (l := main)).subset
      exact hsuffix ((List.rdropWhile_prefix Blank.isBlank _).subset hc)
    have hne : (c != ';') = true := by
      rw [← hmain] at hmem
      exact List.mem_takeWhile_imp (p := fun x => x != ';') hmem
    simpa [(toLower_spec c).2.2] using hne
  have hlower : ((Blank.trim main).map Char.toLower).map Char.toLower =
      (Blank.trim main).map Char.toLower := by
    rw [List.map_map]
    exact List.map_congr_left fun c _ => (toLower_spec c).1
  unfold ofContentType
  rw [hmain, String.toList_ofList, hplain, Blank.trim_map_toLower, Blank.trim_trim,
    hlower]

/-- Parameters and the case of letters do not decide whether a content type is JSON. -/
theorem isJson_ofContentType (contentType : String) :
    isJson (ofContentType contentType) = isJson contentType := by
  unfold isJson
  rw [ofContentType_ofContentType]

end MediaType

end ApiCall
