import ApiCall.Header
import ApiCall.Proofs.Text.Utf8
import ApiCall.Text.Percent
import Mathlib

/-!
The texts of a header. Names are compared in lower case, and what is accepted as a name or a value
says so in full (`headerName_eq_ok`, `headerValue_eq_ok`). Of the values that are accepted, the
ASCII ones are read back as texts (`headerText?_bytesOf`).
-/

namespace ApiCall

theorem toList_lowerAscii (text : String) :
    (lowerAscii text).toList = text.toList.map Char.toLower := by
  rw [lowerAscii, String.toList_ofList]

theorem lowerAscii_lowerAscii (text : String) : lowerAscii (lowerAscii text) = lowerAscii text := by
  rw [lowerAscii, toList_lowerAscii, List.map_map]
  exact congrArg String.ofList
    (List.map_congr_left fun c _ => Char.toLower_toLower_eq_toLower c)

theorem sameIgnoringCase_iff {first second : String} :
    sameIgnoringCase first second = true ↔ lowerAscii first = lowerAscii second := by
  rw [sameIgnoringCase, beq_iff_eq, ← toList_lowerAscii, ← toList_lowerAscii, String.toList_inj]

theorem sameIgnoringCase_comm (first second : String) :
    sameIgnoringCase first second = sameIgnoringCase second first :=
  Bool.beq_comm

/-- The name is a token of bounded length, and the value has no control but the tab. -/
structure IsHeaderText (name value : String) : Prop where
  name_ne : name ≠ ""
  name_chars : ∀ c ∈ name.toList, isHeaderNameChar c = true
  name_size : name.utf8ByteSize ≤ maxHeaderName
  value_bytes : ∀ b ∈ bytesOf value, 32 ≤ b ∧ b ≠ 127 ∨ b = 9

theorem isHeaderValueByte_iff (b : UInt8) :
    isHeaderValueByte b = true ↔ 32 ≤ b ∧ b ≠ 127 ∨ b = 9 := by
  simp [isHeaderValueByte]

theorem headerName_eq_ok {name lowered : String} (h : headerName name = .ok lowered) :
    (name ≠ "" ∧ (∀ c ∈ name.toList, isHeaderNameChar c = true) ∧
      name.utf8ByteSize ≤ maxHeaderName) ∧ lowered = lowerAscii name := by
  unfold headerName at h
  split at h
  · rename_i hvalid
    obtain ⟨hne, hchars, hsize⟩ := hvalid
    exact ⟨⟨hne, List.all_eq_true.mp hchars, hsize⟩, (Except.ok.inj h).symm⟩
  · cases h

theorem headerValue_eq_ok {bytes value : Bytes} (h : headerValue bytes = .ok value) :
    (∀ b ∈ bytes, 32 ≤ b ∧ b ≠ 127 ∨ b = 9) ∧ value = bytes := by
  unfold headerValue at h
  split at h
  · rename_i hvalid
    refine ⟨?_, (Except.ok.inj h).symm⟩
    intro b hb
    exact (isHeaderValueByte_iff b).mp (List.all_eq_true.mp hvalid b hb)
  · cases h

/-- All characters are ASCII. -/
def isAscii (text : String) : Bool :=
  text.toList.all fun c => decide (c.toNat < 0x80)

theorem isAscii_iff {text : String} : isAscii text = true ↔ ∀ c ∈ text.toList, c.toNat < 0x80 := by
  simp [isAscii]

private theorem isVisible_iff {b : UInt8} (hfit : 32 ≤ b ∧ b ≠ 127 ∨ b = 9) :
    ((32 ≤ b && b < 127) || b == 9) = true ↔ b.toNat < 0x80 := by
  rcases hfit with ⟨hlow, hne⟩ | rfl
  · have hcode : b.toNat ≠ 127 := fun heq => hne (UInt8.toNat_inj.mp heq)
    have hlow : 32 ≤ b.toNat := hlow
    simp only [Bool.or_eq_true, Bool.and_eq_true, decide_eq_true_eq, beq_iff_eq,
      UInt8.le_iff_toNat_le, UInt8.lt_iff_toNat_lt, ← UInt8.toNat_inj, UInt8.reduceToNat]
    omega
  · decide

/-- Of the values that a header may have, the ASCII ones are read back as texts. -/
theorem headerText?_bytesOf {text : String}
    (hfit : ∀ b ∈ bytesOf text, 32 ≤ b ∧ b ≠ 127 ∨ b = 9) :
    headerText? (bytesOf text) = if isAscii text then some text else none := by
  have hvisible :
      ((bytesOf text).all fun b => (32 ≤ b && b < 127) || b == 9) = isAscii text := by
    rw [Bool.eq_iff_iff, List.all_eq_true, isAscii_iff, ← Utf8.forall_mem_encode_lt_iff]
    exact forall₂_congr fun b hb => isVisible_iff (hfit b hb)
  unfold headerText?
  rw [hvisible]
  split
  · rename_i hascii
    rw [bytesOf, Utf8.map_ofNat_encode (isAscii_iff.mp hascii), String.ofList_toList]
  · rfl

/-- A text of visible characters is read back as it is. -/
theorem headerText?_of_visible {text : String}
    (h : ∀ c ∈ text.toList, Percent.isVisibleAscii c = true) :
    headerText? (bytesOf text) = some text := by
  have hcodes (c : Char) (hc : c ∈ text.toList) : 0x20 ≤ c.toNat ∧ c.toNat < 0x7F := by
    have hvisible := h c hc
    rwa [Percent.isVisibleAscii, Bool.and_eq_true, decide_eq_true_iff, decide_eq_true_iff]
      at hvisible
  have hfit (b : UInt8) (hb : b ∈ bytesOf text) : 32 ≤ b ∧ b ≠ 127 ∨ b = 9 := by
    obtain ⟨c, hc, hbyte⟩ := List.mem_flatMap.mp hb
    obtain ⟨hlow, hhigh⟩ := hcodes c hc
    rw [Utf8.encodeChar_of_lt (by omega), List.mem_singleton] at hbyte
    have hcode : b.toNat = c.toNat := by
      rw [hbyte, Utf8.toNat_ofNat_of_lt (by omega)]
    refine Or.inl ⟨UInt8.le_iff_toNat_le.mpr (hcode ▸ hlow), ?_⟩
    rintro rfl
    exact absurd hcode (Nat.ne_of_gt hhigh)
  have hascii : isAscii text = true := isAscii_iff.mpr fun c hc => by
    have hhigh := (hcodes c hc).2
    omega
  rw [headerText?_bytesOf hfit, if_pos hascii]

end ApiCall
