import ApiCall.Proofs.Text.Percent
import ApiCall.Proofs.Text.Split
import ApiCall.Text.FormEncoding

/-!
Reading urlencoded forms back: the bytes are cut at `&`, each piece at its first `=`, a plus becomes
a space before triplets become bytes. No key and no value holds a delimiter once it is encoded, so
all fields come back, whatever their texts are (`FormEncoding.read?_fields`).
-/

namespace ApiCall

theorem bytesOf_intercalate (sep : Char) (hsep : sep.toNat < 0x80) (texts : List String) :
    bytesOf ((String.singleton sep).intercalate texts) =
      List.intercalate [UInt8.ofNat sep.toNat] (texts.map bytesOf) := by
  rw [bytesOf, String.toList_intercalate, String.toList_singleton]
  induction texts with
  | nil => rfl
  | cons text texts ih =>
      cases texts with
      | nil => simp [bytesOf]
      | cons other texts =>
          simp only [List.map_cons, List.intercalate_cons_cons] at ih ⊢
          rw [Utf8.encode_append, Utf8.encode_append, ih]
          simp [Utf8.encode, Utf8.encodeChar_of_lt hsep, bytesOf]

namespace FormEncoding

/-! ### Reading -/

/-- A plus stands for a space. -/
def plusToSpace (b : UInt8) : UInt8 :=
  if b = 43 then 32 else b

/-- The text that was encoded. -/
def decode? (bytes : Bytes) : Option String :=
  stringOf? (Percent.decode (bytes.map plusToSpace))

/-- The key and the value on both sides of the first `=`. Without one there is no value. -/
def readField? (piece : Bytes) : Option (String × String) := do
  let (key, value) := (Split.once 61 piece).getD (piece, [])
  return (← decode? key, ← decode? value)

/-- The fields of a form. The empty text has none. -/
def read? (bytes : Bytes) : Option (List (String × String)) :=
  if bytes.isEmpty then some [] else (Split.pieces 38 bytes).mapM readField?

/-! ### Keys and values -/

/-- Characters that are themselves again when a plus has become a space. -/
private def isKeptOrSpace (c : Char) : Bool :=
  isKept c || c == ' '

private theorem isKeptOrSpace_keepsAscii : Percent.KeepsAscii isKeptOrSpace := by
  intro c hc
  simp only [isKeptOrSpace, isKept, Bool.or_eq_true, beq_iff_eq] at hc
  rcases hc with ((((halnum | rfl) | rfl) | rfl) | rfl) | rfl
  · refine ⟨Percent.toNat_lt_of_isAlphanum halnum, ?_⟩
    rintro rfl
    simp at halnum
  all_goals decide

/-- What stands in an encoded text: kept characters, pluses for spaces and triplets. -/
theorem mem_encode {text : String} {c : Char} (h : c ∈ (encode text).toList) :
    isKept c = true ∨ c = '+' ∨ c = '%' ∨ c.isAlphanum = true := by
  rw [encode, String.toList_ofList] at h
  obtain ⟨d, _, hc⟩ := List.mem_flatMap.mp h
  unfold encodeChar at hc
  split at hc
  · exact Or.inr (Or.inl (List.mem_singleton.mp hc))
  · have hmem : c ∈ Percent.encode isKept [d] := by
      simpa [Percent.encode] using hc
    rcases Percent.mem_encode hmem with ⟨hkept, _⟩ | hrest
    · exact Or.inl hkept
    · exact Or.inr (Or.inr hrest)

/-- No delimiter of a form stands in an encoded text. -/
theorem not_mem_encode {b : UInt8} (hb : b = 38 ∨ b = 61) (text : String) :
    b ∉ bytesOf (encode text) := by
  have hmark {c : Char} (hascii : c.toNat < 0x80) (hkept : isKept c = false)
      (hrest : c ≠ '+' ∧ c ≠ '%' ∧ c.isAlphanum = false) :
      UInt8.ofNat c.toNat ∉ bytesOf (encode text) := by
    rw [bytesOf, Utf8.ofNat_mem_encode hascii]
    intro hmem
    obtain ⟨hplus, hpercent, hnot⟩ := hrest
    rcases mem_encode hmem with hkeep | heq | heq | halnum
    · simp [hkept] at hkeep
    · exact hplus heq
    · exact hpercent heq
    · simp [hnot] at halnum
  rcases hb with rfl | rfl
  · exact hmark (c := '&') (by decide) (by decide) (by decide)
  · exact hmark (c := '=') (by decide) (by decide) (by decide)

/-- One character, with its plus read as a space, is the escaped character where spaces are kept. -/
private theorem map_plusToSpace_encodeChar (c : Char) :
    (Utf8.encode (encodeChar c)).map plusToSpace =
      Utf8.encode (Percent.encodeChar isKeptOrSpace c) := by
  by_cases hspace : c = ' '
  · subst hspace
    rfl
  · have hkeep : isKeptOrSpace c = isKept c := by
      simp [isKeptOrSpace, hspace]
    have hplus : (43 : UInt8) ∉ Utf8.encode (Percent.encodeChar isKept c) := by
      have hsame : Percent.encodeChar isKept c = Percent.encode isKept [c] := by
        simp [Percent.encode]
      rw [hsame]
      intro hmem
      have hchar := (Utf8.ofNat_mem_encode (c := '+') (by decide)).mp hmem
      rcases Percent.mem_encode hchar with ⟨hkept, _⟩ | heq | halnum
      · exact absurd hkept (by decide)
      · exact absurd heq (by decide)
      · exact absurd halnum (by decide)
    have hsame : Percent.encodeChar isKeptOrSpace c = Percent.encodeChar isKept c := by
      rw [Percent.encodeChar, Percent.encodeChar, hkeep]
    rw [encodeChar, if_neg hspace, hsame]
    refine (List.map_congr_left ?_).trans (List.map_id _)
    intro b hb
    rw [plusToSpace, if_neg]
    · rfl
    · rintro rfl
      exact hplus hb

theorem map_plusToSpace_encode (text : String) :
    (bytesOf (encode text)).map plusToSpace =
      Utf8.encode (Percent.encode isKeptOrSpace text.toList) := by
  rw [bytesOf, encode, String.toList_ofList, Percent.encode]
  induction text.toList with
  | nil => rfl
  | cons c cs ih =>
      rw [List.flatMap_cons, List.flatMap_cons, Utf8.encode_append, Utf8.encode_append,
        List.map_append, ih, map_plusToSpace_encodeChar]

theorem decode?_encode (text : String) : decode? (bytesOf (encode text)) = some text := by
  rw [decode?, map_plusToSpace_encode, Percent.decode_encode isKeptOrSpace_keepsAscii]
  exact stringOf?_bytesOf text

/-! ### Fields -/

theorem bytesOf_field (key value : String) :
    bytesOf (field key value) = bytesOf (encode key) ++ 61 :: bytesOf (encode value) := by
  have hsep : bytesOf "=" = [61] := by decide
  rw [field, bytesOf_append, bytesOf_append, List.append_assoc, hsep, List.singleton_append]

theorem readField?_field (key value : String) :
    readField? (bytesOf (field key value)) = some (key, value) := by
  have hcut := Split.once_append (not_mem_encode (Or.inr rfl) key) (bytesOf (encode value))
  rw [readField?, bytesOf_field, hcut]
  simp [decode?_encode]

theorem not_mem_field (key value : String) : (38 : UInt8) ∉ bytesOf (field key value) := by
  rw [bytesOf_field, List.mem_append, List.mem_cons]
  rintro (hmem | heq | hmem)
  · exact not_mem_encode (Or.inl rfl) key hmem
  · exact absurd heq (by decide)
  · exact not_mem_encode (Or.inl rfl) value hmem

/-- The fields of a form are read back in order. -/
theorem read?_fields (entries : List (String × String)) :
    read? (bytesOf ("&".intercalate (entries.map fun entry => field entry.1 entry.2))) =
      some entries := by
  have hjoin : bytesOf ("&".intercalate (entries.map fun entry => field entry.1 entry.2)) =
      List.intercalate [38] (entries.map fun entry => bytesOf (field entry.1 entry.2)) := by
    have hsep : "&" = String.singleton '&' := rfl
    have hbyte : UInt8.ofNat '&'.toNat = 38 := rfl
    rw [hsep, bytesOf_intercalate '&' (by decide), List.map_map, hbyte, Function.comp_def]
  have hpieces (hne : entries ≠ []) : Split.pieces 38
      (List.intercalate [38] (entries.map fun entry => bytesOf (field entry.1 entry.2))) =
        entries.map fun entry => bytesOf (field entry.1 entry.2) := by
    apply Split.pieces_intercalate
    · simpa using hne
    · intro piece hpiece
      obtain ⟨entry, _, rfl⟩ := List.mem_map.mp hpiece
      exact not_mem_field entry.1 entry.2
  rw [hjoin, read?]
  split
  · rename_i hempty
    -- a field has its delimiter at least, so only a form without fields is empty
    cases entries with
    | nil => rfl
    | cons first rest =>
        have hfirst := hpieces (List.cons_ne_nil _ _)
        rw [List.isEmpty_iff.mp hempty, Split.pieces, List.map_cons, List.cons.injEq,
          bytesOf_field] at hfirst
        simp at hfirst
  · rename_i hempty
    have hne : entries ≠ [] := by
      rintro rfl
      exact hempty rfl
    have hread : (entries.map fun entry => bytesOf (field entry.1 entry.2)).mapM readField? =
        some (entries.map id) :=
      Split.mapM_map_eq_some fun entry _ => readField?_field entry.1 entry.2
    rw [hpieces hne, hread, List.map_id]

end FormEncoding

end ApiCall
