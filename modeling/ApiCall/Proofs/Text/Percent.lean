import ApiCall.Proofs.Text.Utf8
import ApiCall.Text.Percent
import Mathlib

/-!
Percent-encoding is undone by decoding, for any keep set of ASCII characters without the percent
sign (`decode_encode`). Byte by byte it leaves the kept characters alone and writes a triplet for
everything else (`encode_bytes`), and the only other characters it brings in are percent signs,
digits and letters (`mem_encode`). A keep set that has the characters of triplets changes the
spelling of a text only, not what it decodes to (`KeepsTriplets.decode_encode`).
-/

namespace ApiCall

namespace Percent

/-- Kept characters are ASCII, and the percent sign is none of them. -/
def KeepsAscii (keep : Char → Bool) : Prop :=
  ∀ c, keep c = true → c.toNat < 0x80 ∧ c ≠ '%'

/-- A hexadecimal digit is an ASCII digit or letter and has the value it was written for. -/
theorem digit_spec {n : Nat} (h : n < 16) :
    (digit n).toNat < 0x80 ∧ (digit n).isAlphanum = true ∧
      digitValue? (digit n).toNat = some n := by
  have hall : ∀ n : Fin 16, (digit n).toNat < 0x80 ∧ (digit n).isAlphanum = true ∧
      digitValue? (digit n).toNat = some n.val := by
    decide
  exact hall ⟨n, h⟩

/-- The bytes of a triplet. -/
def tripletBytes (b : UInt8) : Bytes :=
  Utf8.encode (triplet b)

theorem tripletBytes_eq (b : UInt8) :
    tripletBytes b = [37, UInt8.ofNat (digit (b.toNat / 16)).toNat,
      UInt8.ofNat (digit (b.toNat % 16)).toNat] := by
  have hb := b.toNat_lt
  obtain ⟨hhigh, _, _⟩ := digit_spec (show b.toNat / 16 < 16 by omega)
  obtain ⟨hlow, _, _⟩ := digit_spec (show b.toNat % 16 < 16 by omega)
  simp only [tripletBytes, triplet, Utf8.encode, List.flatMap_cons, List.flatMap_nil,
    Utf8.encodeChar_of_lt hhigh, Utf8.encodeChar_of_lt hlow]
  rfl

theorem decode_tripletBytes_append (b : UInt8) (rest : Bytes) :
    decode (tripletBytes b ++ rest) = b :: decode rest := by
  have hb := b.toNat_lt
  obtain ⟨hhigh, _, hvalueHigh⟩ := digit_spec (show b.toNat / 16 < 16 by omega)
  obtain ⟨hlow, _, hvalueLow⟩ := digit_spec (show b.toNat % 16 < 16 by omega)
  have hsum : b.toNat / 16 * 16 + b.toNat % 16 = b.toNat := by omega
  rw [tripletBytes_eq]
  simp only [List.cons_append, List.nil_append, decode, if_true]
  rw [Utf8.toNat_ofNat_of_lt (by omega), Utf8.toNat_ofNat_of_lt (by omega), hvalueHigh, hvalueLow]
  simp [hsum]

theorem decode_cons_of_ne {b : UInt8} (h : b ≠ 37) (rest : Bytes) :
    decode (b :: rest) = b :: decode rest := by
  rcases rest with _ | ⟨c, _ | ⟨d, rest⟩⟩
  · simp [decode]
  · simp [decode]
  · rw [decode, if_neg h]

/-- The bytes of one character are written byte by byte. -/
theorem encode_encodeChar (keep : Char → Bool) (c : Char) :
    Utf8.encode (encodeChar keep c) =
      if keep c then Utf8.encodeChar c else (Utf8.encodeChar c).flatMap tripletBytes := by
  unfold encodeChar
  split
  · simp [Utf8.encode]
  · simp only [Utf8.encode, List.flatMap_assoc]
    rfl

theorem decode_flatMap_tripletBytes_append (bytes rest : Bytes) :
    decode (bytes.flatMap tripletBytes ++ rest) = bytes ++ decode rest := by
  induction bytes with
  | nil => rfl
  | cons b bytes ih =>
      rw [List.flatMap_cons, List.append_assoc, decode_tripletBytes_append, ih, List.cons_append]

/-- The code of an ASCII character is the percent sign's for this character only. -/
theorem ofNat_toNat_ne {c : Char} (hascii : c.toNat < 0x80) (hpercent : c ≠ '%') :
    UInt8.ofNat c.toNat ≠ 37 := by
  intro h
  apply hpercent
  have hnat := congrArg UInt8.toNat h
  rw [Utf8.toNat_ofNat_of_lt (by omega)] at hnat
  rw [← Char.ofNat_toNat c, hnat]
  rfl

/-- Decoding gives back the bytes of the text. -/
theorem decode_encode {keep : Char → Bool} (hkeep : KeepsAscii keep) (cs : List Char) :
    decode (Utf8.encode (encode keep cs)) = Utf8.encode cs := by
  induction cs with
  | nil => rfl
  | cons c cs ih =>
      rw [encode, List.flatMap_cons, Utf8.encode_append, encode_encodeChar]
      rw [encode] at ih
      cases hc : keep c with
      | false =>
          simp only [Bool.false_eq_true, if_false, decode_flatMap_tripletBytes_append, ih]
          simp [Utf8.encode]
      | true =>
          obtain ⟨hascii, hpercent⟩ := hkeep c hc
          have hb := ofNat_toNat_ne hascii hpercent
          simp only [if_true, Utf8.encodeChar_of_lt hascii, List.cons_append, List.nil_append,
            decode_cons_of_ne hb, ih]
          simp [Utf8.encode, Utf8.encodeChar_of_lt hascii]

/-- One byte of a text: the code of a kept character, or a triplet. -/
def escapeByte (keep : Char → Bool) (b : UInt8) : Bytes :=
  if b.toNat < 0x80 ∧ keep (Char.ofNat b.toNat) = true then [b] else tripletBytes b

/-- Escaping works on bytes: no character but a kept one stands for itself. -/
theorem encode_bytes_of_ascii {keep : Char → Bool}
    (hascii : ∀ c, keep c = true → c.toNat < 0x80) (cs : List Char) :
    Utf8.encode (encode keep cs) = (Utf8.encode cs).flatMap (escapeByte keep) := by
  have hchar (c : Char) : Utf8.encode (encodeChar keep c) =
      (Utf8.encodeChar c).flatMap (escapeByte keep) := by
    rw [encode_encodeChar]
    by_cases hc : c.toNat < 0x80
    · have hmod : c.toNat % 256 = c.toNat := Nat.mod_eq_of_lt (by omega)
      simp [Utf8.encodeChar_of_lt hc, escapeByte, hmod, hc]
    · have hnot : keep c = false := by
        by_contra h
        exact hc (hascii c (by simpa using h))
      simp only [hnot, Bool.false_eq_true, if_false]
      refine List.flatMap_congr fun b hb => ?_
      have hlarge := Utf8.le_of_mem_encodeChar hc hb
      rw [escapeByte, if_neg (by omega)]
  induction cs with
  | nil => rfl
  | cons c cs ih =>
      simp only [encode, Utf8.encode, List.flatMap_cons, List.flatMap_append] at ih hchar ⊢
      rw [ih, hchar]

theorem encode_bytes {keep : Char → Bool} (hkeep : KeepsAscii keep) (cs : List Char) :
    Utf8.encode (encode keep cs) = (Utf8.encode cs).flatMap (escapeByte keep) :=
  encode_bytes_of_ascii (fun c hc => (hkeep c hc).1) cs

/-- A text of kept characters is its own escaped text. -/
theorem encode_of_kept {keep : Char → Bool} {cs : List Char} (h : ∀ c ∈ cs, keep c = true) :
    encode keep cs = cs := by
  have hchars : cs.flatMap (encodeChar keep) = cs.flatMap fun c => [c] := by
    refine List.flatMap_congr ?_
    intro c hc
    rw [encodeChar, if_pos (h c hc)]
  rw [encode, hchars, List.flatMap_singleton']

/-- What stands in an escaped text is kept from the text itself, a percent sign or a digit. -/
theorem mem_encode {keep : Char → Bool} {cs : List Char} {x : Char} (h : x ∈ encode keep cs) :
    (keep x = true ∧ x ∈ cs) ∨ x = '%' ∨ x.isAlphanum = true := by
  obtain ⟨c, hc, hx⟩ := List.mem_flatMap.mp h
  unfold encodeChar at hx
  split at hx
  · rename_i hkeep
    rw [List.mem_singleton.mp hx]
    exact Or.inl ⟨hkeep, hc⟩
  · obtain ⟨b, _, hb⟩ := List.mem_flatMap.mp hx
    have hlt := b.toNat_lt
    simp only [triplet, List.mem_cons, List.not_mem_nil, or_false] at hb
    rcases hb with rfl | rfl | rfl
    · exact Or.inr (Or.inl rfl)
    · exact Or.inr (Or.inr (digit_spec (by omega)).2.1)
    · exact Or.inr (Or.inr (digit_spec (by omega)).2.1)

/-- Kept characters and triplets, and nothing else. -/
inductive IsEscaped (keep : Char → Bool) : List Char → Prop where
  | nil : IsEscaped keep []
  | kept {c : Char} {cs : List Char} (hkeep : keep c = true) (hrest : IsEscaped keep cs) :
      IsEscaped keep (c :: cs)
  | triplet {high low : Char} {cs : List Char} (hhigh : (digitValue? high.toNat).isSome = true)
      (hlow : (digitValue? low.toNat).isSome = true) (hrest : IsEscaped keep cs) :
      IsEscaped keep ('%' :: high :: low :: cs)

theorem IsEscaped.triplets_append {keep : Char → Bool} {cs : List Char} (h : IsEscaped keep cs)
    (bytes : Bytes) : IsEscaped keep (bytes.flatMap Percent.triplet ++ cs) := by
  induction bytes with
  | nil => exact h
  | cons b bytes ih =>
      have hb := b.toNat_lt
      obtain ⟨_, _, hhigh⟩ := digit_spec (show b.toNat / 16 < 16 by omega)
      obtain ⟨_, _, hlow⟩ := digit_spec (show b.toNat % 16 < 16 by omega)
      exact .triplet (Option.isSome_of_eq_some hhigh) (Option.isSome_of_eq_some hlow) ih

theorem isEscaped_encode (keep : Char → Bool) (cs : List Char) :
    IsEscaped keep (encode keep cs) := by
  induction cs with
  | nil => exact .nil
  | cons c cs ih =>
      rw [encode, List.flatMap_cons, encodeChar]
      split
      · rename_i hkeep
        exact .kept hkeep ih
      · exact ih.triplets_append _

theorem encodeChar_ne_nil (keep : Char → Bool) (c : Char) : encodeChar keep c ≠ [] := by
  unfold encodeChar
  split
  · exact List.cons_ne_nil _ _
  · unfold Utf8.encodeChar
    dsimp only
    split_ifs <;> exact List.cons_ne_nil _ _

theorem encode_eq_nil_iff {keep : Char → Bool} {cs : List Char} :
    encode keep cs = [] ↔ cs = [] := by
  cases cs with
  | nil => exact iff_of_true rfl rfl
  | cons c cs =>
      refine iff_of_false ?_ (List.cons_ne_nil _ _)
      rw [encode, List.flatMap_cons]
      exact List.append_ne_nil_of_left_ne_nil (encodeChar_ne_nil keep c) _

/-- A percent-encoding of bytes. Any byte may be written as a triplet, with digits of either case,
and that of an ASCII character other than the percent sign also as this character. -/
inductive Spells : List Char → Bytes → Prop where
  | nil : Spells [] []
  | plain {c : Char} {cs : List Char} {bytes : Bytes} (hascii : c.toNat < 0x80)
      (hpercent : c ≠ '%') (hrest : Spells cs bytes) :
      Spells (c :: cs) (UInt8.ofNat c.toNat :: bytes)
  | triplet {high low : Char} {first second : Nat} {cs : List Char} {bytes : Bytes}
      (hhigh : digitValue? high.toNat = some first) (hlow : digitValue? low.toNat = some second)
      (hrest : Spells cs bytes) :
      Spells ('%' :: high :: low :: cs) (UInt8.ofNat (first * 16 + second) :: bytes)

theorem toNat_lt_of_digitValue? {n value : Nat} (h : digitValue? n = some value) : n < 0x80 := by
  unfold digitValue? at h
  split_ifs at h <;> omega

/-- Every percent-encoding of bytes is decoded to them. -/
theorem Spells.decode_eq {cs : List Char} {bytes : Bytes} (h : Spells cs bytes) :
    decode (Utf8.encode cs) = bytes := by
  induction h with
  | nil => rfl
  | plain hascii hpercent _ ih =>
      rw [Utf8.encode, List.flatMap_cons, Utf8.encodeChar_of_lt hascii, List.singleton_append,
        decode_cons_of_ne (ofNat_toNat_ne hascii hpercent)]
      exact congrArg _ ih
  | triplet hhigh hlow _ ih =>
      have hhighAscii := toNat_lt_of_digitValue? hhigh
      have hlowAscii := toNat_lt_of_digitValue? hlow
      rw [Utf8.encode, List.flatMap_cons, List.flatMap_cons, List.flatMap_cons,
        Utf8.encodeChar_of_lt hhighAscii, Utf8.encodeChar_of_lt hlowAscii]
      simp only [show Utf8.encodeChar '%' = [37] from rfl, List.cons_append, List.nil_append,
        decode, if_true, Utf8.toNat_ofNat_of_lt (Nat.lt_trans hhighAscii (by decide : 0x80 < 256)),
        Utf8.toNat_ofNat_of_lt (Nat.lt_trans hlowAscii (by decide : 0x80 < 256)), hhigh, hlow]
      exact congrArg _ ih

/-! ### Letters and digits -/

theorem toNat_of_isAlphanum {c : Char} (h : c.isAlphanum = true) :
    48 ≤ c.toNat ∧ c.toNat ≤ 122 := by
  simp only [Char.isAlphanum, Char.isAlpha, Char.isUpper, Char.isLower, Char.isDigit,
    Bool.or_eq_true, Bool.and_eq_true, decide_eq_true_eq, ge_iff_le, UInt32.le_iff_toNat_le] at h
  change 48 ≤ c.val.toNat ∧ c.val.toNat ≤ 122
  simp only [UInt32.reduceToNat, Char.reduceVal] at h
  omega

theorem toNat_lt_of_isAlphanum {c : Char} (h : c.isAlphanum = true) : c.toNat < 0x80 := by
  have hrange := toNat_of_isAlphanum h
  omega

theorem visibleExcept_of_isAlphanum {drop : List Char}
    (hdrop : drop.all (fun d => !d.isAlphanum) = true) {c : Char} (h : c.isAlphanum = true) :
    visibleExcept drop c = true := by
  obtain ⟨hlow, hhigh⟩ := toNat_of_isAlphanum h
  have hkept : c ∉ drop := by
    intro hmem
    have hc := List.all_eq_true.mp hdrop c hmem
    rw [h] at hc
    cases hc
  simp only [visibleExcept, isVisibleAscii, Bool.and_eq_true, decide_eq_true_eq,
    Bool.not_eq_true', List.contains_eq_mem, decide_eq_false_iff_not]
  exact ⟨⟨by omega, by omega⟩, hkept⟩

/-! ### Escaping a text that has triplets -/

/-- Kept characters are ASCII, and those of a triplet are kept. -/
structure KeepsTriplets (keep : Char → Bool) : Prop where
  ascii : ∀ c, keep c = true → c.toNat < 0x80
  percent : keep '%' = true
  alphanumeric : ∀ c, c.isAlphanum = true → keep c = true

/-- The bytes start with two hexadecimal digits. -/
def StartsDigits (bytes : Bytes) : Prop :=
  ∃ high low rest first second, bytes = high :: low :: rest ∧
    digitValue? high.toNat = some first ∧ digitValue? low.toNat = some second

theorem decode_percent {bytes : Bytes} (h : ¬ StartsDigits bytes) :
    decode (37 :: bytes) = 37 :: decode bytes := by
  rcases bytes with _ | ⟨high, _ | ⟨low, rest⟩⟩
  · rfl
  · rfl
  · rw [decode, if_pos rfl]
    split
    · rename_i first second hfirst hsecond
      exact absurd ⟨high, low, rest, first, second, rfl, hfirst, hsecond⟩ h
    · rfl

namespace KeepsTriplets

variable {keep : Char → Bool}

theorem escapeByte_percent (hkeep : KeepsTriplets keep) : escapeByte keep 37 = [37] :=
  if_pos ⟨by decide, hkeep.percent⟩

theorem escapeByte_digit (hkeep : KeepsTriplets keep) {b : UInt8} {value : Nat}
    (h : digitValue? b.toNat = some value) : escapeByte keep b = [b] := by
  have hdigits : ∀ n : Fin 128, (digitValue? n).isSome = true →
      (Char.ofNat n).isAlphanum = true := by
    decide
  have hb := toNat_lt_of_digitValue? h
  exact if_pos ⟨hb, hkeep.alphanumeric _ (hdigits ⟨b.toNat, hb⟩ (by simp [h]))⟩

/-- Where an escaped text has a digit, it escapes this digit itself. -/
theorem eq_of_escaped_digit {b digit : UInt8} {value : Nat} {following tail : Bytes}
    (hdigit : digitValue? digit.toNat = some value)
    (h : escapeByte keep b ++ following = digit :: tail) : b = digit ∧ following = tail := by
  unfold escapeByte at h
  split at h
  · exact List.cons.inj h
  · rw [tripletBytes_eq] at h
    obtain rfl := (List.cons.inj h).1
    cases hdigit

/-- Digits at the start of an escaped text stand there before it is escaped. -/
theorem startsDigits_of_escaped {bytes : Bytes}
    (h : StartsDigits (bytes.flatMap (escapeByte keep))) : StartsDigits bytes := by
  obtain ⟨high, low, rest, first, second, heq, hfirst, hsecond⟩ := h
  rcases bytes with _ | ⟨b, bytes⟩
  · cases heq
  obtain ⟨rfl, htail⟩ := eq_of_escaped_digit hfirst heq
  rcases bytes with _ | ⟨c, bytes⟩
  · cases htail
  obtain ⟨rfl, -⟩ := eq_of_escaped_digit hsecond htail
  exact ⟨b, c, bytes, first, second, rfl, hfirst, hsecond⟩

/-- A byte that starts no triplet comes back as itself. -/
theorem decode_escaped_cons (hkeep : KeepsTriplets keep) {b : UInt8} {bytes : Bytes}
    (h : b = 37 → ¬ StartsDigits bytes) :
    decode ((b :: bytes).flatMap (escapeByte keep)) =
      b :: decode (bytes.flatMap (escapeByte keep)) := by
  rw [List.flatMap_cons]
  by_cases hb : b = 37
  · rw [hb, hkeep.escapeByte_percent, List.singleton_append,
      decode_percent (mt startsDigits_of_escaped (h hb))]
  · unfold escapeByte
    split
    · rw [List.singleton_append, decode_cons_of_ne hb]
    · rw [decode_tripletBytes_append]

theorem decode_escaped (hkeep : KeepsTriplets keep) (bytes : Bytes) :
    decode (bytes.flatMap (escapeByte keep)) = decode bytes := by
  fun_induction decode bytes with
  | case1 => rfl
  | case2 a =>
      rw [decode_escaped_cons hkeep]
      · rfl
      · rintro - ⟨_, _, _, _, _, heq, -⟩
        cases heq
  | case3 a b =>
      rw [decode_escaped_cons hkeep, decode_escaped_cons hkeep]
      · rfl
      · rintro - ⟨_, _, _, _, _, heq, -⟩
        cases heq
      · rintro - ⟨_, _, _, _, _, heq, -⟩
        cases heq
  | case4 b c rest high low hlow hhigh ih =>
      -- a triplet is kept as it stands, so it is still one
      rw [List.flatMap_cons, List.flatMap_cons, List.flatMap_cons, hkeep.escapeByte_percent,
        hkeep.escapeByte_digit hhigh, hkeep.escapeByte_digit hlow]
      simp only [List.singleton_append, decode, if_true, hhigh, hlow, ih]
  | case5 b c rest hnot ih =>
      rw [decode_escaped_cons hkeep, ih]
      rintro - ⟨_, _, _, high, low, heq, hhigh, hlow⟩
      cases heq
      exact hnot high low hhigh hlow
  | case6 a b c rest hne ih =>
      rw [decode_escaped_cons hkeep fun heq => absurd heq hne, ih]

/-- Escaping what may not stand in a text leaves what the text spells. -/
theorem decode_encode (hkeep : KeepsTriplets keep) (cs : List Char) :
    decode (Utf8.encode (encode keep cs)) = decode (Utf8.encode cs) := by
  rw [encode_bytes_of_ascii hkeep.ascii, hkeep.decode_escaped]

end KeepsTriplets

end Percent

end ApiCall
