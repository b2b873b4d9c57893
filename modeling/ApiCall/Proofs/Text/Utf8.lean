import ApiCall.Text.Utf8
import Mathlib.Data.List.Basic

/-!
UTF-8 is read back as it was written: the first byte of a character announces exactly the bytes that
follow it (`next_encodeChar`), so a text comes back whole (`decode?_encode`).
-/

namespace ApiCall

namespace Utf8

theorem encode_append (first second : List Char) :
    encode (first ++ second) = encode first ++ encode second := by
  simp [encode]

theorem encodeChar_of_lt {c : Char} (h : c.toNat < 0x80) :
    encodeChar c = [UInt8.ofNat c.toNat] := by
  simp [encodeChar, h]

theorem toNat_ofNat_of_lt {n : Nat} (h : n < 256) : (UInt8.ofNat n).toNat = n := by
  simp [Nat.mod_eq_of_lt h]

/-- No byte of a character outside ASCII is the code of an ASCII character. -/
theorem le_of_mem_encodeChar {c : Char} (h : ¬ c.toNat < 0x80) {b : UInt8}
    (hb : b ∈ encodeChar c) : 0x80 ≤ b.toNat := by
  have hmax : c.toNat < 0x110000 := by
    rcases c.valid with hv | hv
    · exact Nat.lt_trans hv (by omega)
    · exact hv.2
  unfold encodeChar at hb
  simp only [if_neg h] at hb
  split at hb
  · simp only [List.mem_cons, List.not_mem_nil, or_false] at hb
    rcases hb with rfl | rfl <;> rw [toNat_ofNat_of_lt (by omega)] <;> omega
  split at hb
  · simp only [List.mem_cons, List.not_mem_nil, or_false] at hb
    rcases hb with rfl | rfl | rfl <;> rw [toNat_ofNat_of_lt (by omega)] <;> omega
  · simp only [List.mem_cons, List.not_mem_nil, or_false] at hb
    rcases hb with rfl | rfl | rfl | rfl <;> rw [toNat_ofNat_of_lt (by omega)] <;> omega

/-- The code of an ASCII character stands for this character only. -/
theorem ofNat_mem_encode {c : Char} (hc : c.toNat < 0x80) {cs : List Char} :
    UInt8.ofNat c.toNat ∈ encode cs ↔ c ∈ cs := by
  constructor
  · intro hmem
    obtain ⟨d, hd, hbyte⟩ := List.mem_flatMap.mp hmem
    by_cases hascii : d.toNat < 0x80
    · rw [encodeChar_of_lt hascii, List.mem_singleton] at hbyte
      have hcode := congrArg UInt8.toNat hbyte
      rw [toNat_ofNat_of_lt (by omega), toNat_ofNat_of_lt (by omega)] at hcode
      exact Char.toNat_inj.mp hcode ▸ hd
    · have hle := le_of_mem_encodeChar hascii hbyte
      rw [toNat_ofNat_of_lt (by omega)] at hle
      omega
  · intro hmem
    refine List.mem_flatMap.mpr ⟨c, hmem, ?_⟩
    rw [encodeChar_of_lt hc]
    exact List.mem_singleton_self _

private theorem lead?_one {n : Nat} (h : n < 0x80) :
    lead? (UInt8.ofNat n) = some ⟨0, n, 0x80, 0xBF⟩ := by
  simp only [lead?, toNat_ofNat_of_lt (show n < 256 by omega)]
  rw [if_pos h]

private theorem lead?_two {m : Nat} (hlow : 2 ≤ m) (hhigh : m < 0x20) :
    lead? (UInt8.ofNat (0xC0 + m)) = some ⟨1, m, 0x80, 0xBF⟩ := by
  simp only [lead?, toNat_ofNat_of_lt (show 0xC0 + m < 256 by omega)]
  rw [if_neg (by omega), if_neg (by omega), if_pos (by omega)]
  simp

/-- The byte after the first one is bounded from below where the character could be shorter, and
from above where it could be a surrogate. -/
private theorem lead?_three {m : Nat} (h : m < 16) :
    lead? (UInt8.ofNat (0xE0 + m)) =
      some ⟨2, m, if m = 0 then 0xA0 else 0x80, if m = 13 then 0x9F else 0xBF⟩ := by
  simp only [lead?, toNat_ofNat_of_lt (show 0xE0 + m < 256 by omega)]
  rw [if_neg (by omega), if_neg (by omega), if_neg (by omega)]
  by_cases hzero : m = 0
  · simp [hzero]
  by_cases hlast : m = 13
  · simp [hlast]
  rw [if_neg (by omega), if_neg (by omega), if_pos (by omega)]
  simp [hzero, hlast]

private theorem lead?_four {m : Nat} (h : m ≤ 4) :
    lead? (UInt8.ofNat (0xF0 + m)) =
      some ⟨3, m, if m = 0 then 0x90 else 0x80, if m = 4 then 0x8F else 0xBF⟩ := by
  have hcases : m = 0 ∨ m = 1 ∨ m = 2 ∨ m = 3 ∨ m = 4 := by omega
  rcases hcases with rfl | rfl | rfl | rfl | rfl <;> rfl

/-- A byte that follows adds its six bits. -/
private theorem tail_cons {count bits low high k : Nat} (hk : k < 64) (hlow : low ≤ 0x80 + k)
    (hhigh : 0x80 + k ≤ high) (rest : Bytes) :
    tail (count + 1) bits low high (UInt8.ofNat (0x80 + k) :: rest) =
      tail count (bits * 64 + k) 0x80 0xBF rest := by
  rw [tail, toNat_ofNat_of_lt (by omega), if_pos ⟨hlow, hhigh⟩]
  simp

private theorem tail_cons_plain {count bits k : Nat} (hk : k < 64) (rest : Bytes) :
    tail (count + 1) bits 0x80 0xBF (UInt8.ofNat (0x80 + k) :: rest) =
      tail count (bits * 64 + k) 0x80 0xBF rest :=
  tail_cons hk (by omega) (by omega) rest

private theorem tail_zero (bits low high : Nat) (rest : Bytes) :
    tail 0 bits low high rest = (some bits, rest) := by
  rw [tail]

/-- The bytes of a character are read as that character, and nothing after them is touched. -/
theorem next_encodeChar (c : Char) (rest : Bytes) :
    ∃ b following, encodeChar c = b :: following ∧
      next b (following ++ rest) = (some c, rest) := by
  have hvalid : c.toNat < 0xD800 ∨ 0xDFFF < c.toNat ∧ c.toNat < 0x110000 := c.valid
  have hc : Char.ofNat c.toNat = c := Char.ofNat_toNat c
  generalize hn : c.toNat = n at hvalid hc
  unfold encodeChar
  simp only [hn]
  split
  · rename_i h1
    refine ⟨_, _, rfl, ?_⟩
    simp only [next, lead?_one h1, List.nil_append, tail_zero, hc]
  split
  · rename_i h1 h2
    refine ⟨_, _, rfl, ?_⟩
    have hsum : n / 64 * 64 + n % 64 = n := by omega
    simp only [next, lead?_two (show 2 ≤ n / 64 by omega) (show n / 64 < 0x20 by omega),
      List.cons_append, List.nil_append, tail_cons_plain (show n % 64 < 64 by omega), tail_zero]
    rw [hsum, hc]
  split
  · rename_i h1 h2 h3
    refine ⟨_, _, rfl, ?_⟩
    have hlow : (if n / 4096 = 0 then 0xA0 else 0x80) ≤ 0x80 + n / 64 % 64 := by
      split <;> omega
    have hhigh : 0x80 + n / 64 % 64 ≤ if n / 4096 = 13 then 0x9F else 0xBF := by
      split <;> omega
    have hsum : (n / 4096 * 64 + n / 64 % 64) * 64 + n % 64 = n := by omega
    simp only [next, lead?_three (show n / 4096 < 16 by omega), List.cons_append, List.nil_append,
      tail_cons (show n / 64 % 64 < 64 by omega) hlow hhigh,
      tail_cons_plain (show n % 64 < 64 by omega), tail_zero]
    rw [hsum, hc]
  · rename_i h1 h2 h3
    refine ⟨_, _, rfl, ?_⟩
    have hlow : (if n / 262144 = 0 then 0x90 else 0x80) ≤ 0x80 + n / 4096 % 64 := by
      split <;> omega
    have hhigh : 0x80 + n / 4096 % 64 ≤ if n / 262144 = 4 then 0x8F else 0xBF := by
      split <;> omega
    have hsum : ((n / 262144 * 64 + n / 4096 % 64) * 64 + n / 64 % 64) * 64 + n % 64 = n := by
      omega
    simp only [next, lead?_four (show n / 262144 ≤ 4 by omega), List.cons_append, List.nil_append,
      tail_cons (show n / 4096 % 64 < 64 by omega) hlow hhigh,
      tail_cons_plain (show n / 64 % 64 < 64 by omega),
      tail_cons_plain (show n % 64 < 64 by omega), tail_zero]
    rw [hsum, hc]

/-- ASCII texts are those that are written in ASCII bytes. -/
theorem forall_mem_encode_lt_iff {cs : List Char} :
    (∀ b ∈ encode cs, b.toNat < 0x80) ↔ ∀ c ∈ cs, c.toNat < 0x80 := by
  constructor
  · intro h c hc
    by_contra hlarge
    obtain ⟨b, following, hbytes, _⟩ := next_encodeChar c []
    have hmem : b ∈ encodeChar c := hbytes ▸ List.mem_cons_self
    have hlow := le_of_mem_encodeChar hlarge hmem
    have hhigh := h b (List.mem_flatMap.mpr ⟨c, hc, hmem⟩)
    omega
  · intro h b hb
    obtain ⟨c, hc, hbyte⟩ := List.mem_flatMap.mp hb
    have hcode := h c hc
    rw [encodeChar_of_lt hcode, List.mem_singleton] at hbyte
    rw [hbyte, toNat_ofNat_of_lt (by omega)]
    exact hcode

/-- An ASCII text is written one byte for each character, and the bytes are read back as codes. -/
theorem map_ofNat_encode {cs : List Char} (h : ∀ c ∈ cs, c.toNat < 0x80) :
    (encode cs).map (fun b => Char.ofNat b.toNat) = cs := by
  induction cs with
  | nil => rfl
  | cons c cs ih =>
      obtain ⟨hc, hcs⟩ := List.forall_mem_cons.mp h
      rw [encode, List.flatMap_cons, encodeChar_of_lt hc, List.map_append, List.map_singleton,
        toNat_ofNat_of_lt (by omega), Char.ofNat_toNat, List.singleton_append]
      exact congrArg (c :: ·) (ih hcs)

theorem decodeSteps_encodeChar_append (c : Char) (rest : Bytes) :
    decodeSteps (encodeChar c ++ rest) = some c :: decodeSteps rest := by
  obtain ⟨b, following, hbytes, hnext⟩ := next_encodeChar c rest
  rw [hbytes, List.cons_append, decodeSteps, hnext]

theorem decodeSteps_encode (cs : List Char) : decodeSteps (encode cs) = cs.map some := by
  induction cs with
  | nil => simp [encode, decodeSteps]
  | cons c cs ih =>
      simp only [encode, List.flatMap_cons] at ih ⊢
      rw [decodeSteps_encodeChar_append, ih]
      rfl

/-- A text is read back from its bytes. -/
theorem decode?_encode (cs : List Char) : decode? (encode cs) = some cs := by
  rw [decode?, decodeSteps_encode, List.mapM_map]
  exact List.mapM_pure.trans (congrArg some (List.map_id' cs))

end Utf8

@[simp] theorem stringOf?_bytesOf (s : String) : stringOf? (bytesOf s) = some s := by
  simp [stringOf?, bytesOf, Utf8.decode?_encode]

theorem bytesOf_append (first second : String) :
    bytesOf (first ++ second) = bytesOf first ++ bytesOf second := by
  rw [bytesOf, String.toList_append, Utf8.encode_append]
  rfl

theorem bytesOf_inj {first second : String} : bytesOf first = bytesOf second ↔ first = second := by
  constructor
  · intro h
    have hread := congrArg stringOf? h
    rw [stringOf?_bytesOf, stringOf?_bytesOf] at hread
    exact Option.some.inj hread
  · rintro rfl
    rfl

theorem bytesOf_ne_nil {s : String} (h : s ≠ "") : bytesOf s ≠ [] := by
  intro hnil
  exact h (bytesOf_inj.mp (hnil.trans (show [] = bytesOf "" by decide)))

end ApiCall
