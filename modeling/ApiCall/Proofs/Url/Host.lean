import ApiCall.Proofs.Text.Canonical
import ApiCall.Proofs.Text.Percent
import ApiCall.Url.Host
import Mathlib

/-!
Controls and blanks in a host. A domain that holds one has no form in ASCII
(`Domain.ascii?_eq_none`), whether it stands there as it is or in other characters. So the last
character of a host is never one of them (`Host.lt_of_special`).
-/

namespace ApiCall

variable {z : Char}

namespace Domain

theorem toLower_of_le (h : z.toNat ≤ 32) : z.toLower = z := by
  have small : ∀ n : Fin 33, (Char.ofNat n).toLower = Char.ofNat n := by decide
  simpa using small ⟨z.toNat, by omega⟩

theorem mem_mapped (hz : z.toNat ≤ 32) {cs : List Char} (h : z ∈ cs) : z ∈ mapped cs := by
  apply Canonical.mem_text hz
  refine List.mem_flatMap.mpr ⟨z, h, ?_⟩
  rw [image_of_ascii (by omega), toLower_of_le hz]
  exact List.mem_singleton_self z

/-- No domain holds a control or a blank. -/
theorem ascii?_eq_none (hz : z.toNat ≤ 32) {cs : List Char} (h : z ∈ cs) : ascii? cs = none := by
  have hforbidden : (mapped cs).any isForbidden = true :=
    List.any_eq_true.mpr ⟨z, mem_mapped hz h, by simp [isForbidden, hz]⟩
  unfold ascii?
  simp only [hforbidden, if_true]
  rfl

end Domain

/-! ### Bytes that are read as characters -/

/-- A byte that is part of no triplet stays where triplets are decoded. -/
theorem Percent.mem_decode {b : UInt8} (hpercent : b ≠ 37) (hdigit : digitValue? b.toNat = none)
    {bytes : Bytes} (h : b ∈ bytes) : b ∈ decode bytes := by
  fun_induction decode bytes with
  | case1 => cases h
  | case2 | case3 => exact h
  | case4 first second rest high low hlow hhigh ih =>
      simp only [List.mem_cons] at h ⊢
      rcases h with rfl | rfl | rfl | hrest
      · exact absurd rfl hpercent
      · cases hdigit.symm.trans hhigh
      · cases hdigit.symm.trans hlow
      · exact Or.inr (ih hrest)
  | case5 _ _ _ _ ih | case6 _ _ _ _ _ ih =>
      exact List.mem_cons.mpr ((List.mem_cons.mp h).imp id ih)

namespace Utf8

/-- The bytes after a first one are none of ASCII. -/
theorem mem_tail {b : UInt8} (hb : b.toNat < 0x80) {count bits low high : Nat} (hlow : 0x80 ≤ low)
    {bytes : Bytes} (h : b ∈ bytes) : b ∈ (tail count bits low high bytes).2 := by
  induction bytes generalizing count bits low high with
  | nil => cases h
  | cons first rest ih =>
      cases count with
      | zero => exact h
      | succ count =>
          unfold tail
          split
          · rename_i hrange
            apply ih (by omega)
            rcases List.mem_cons.mp h with rfl | hrest
            · omega
            · exact hrest
          · exact h

theorem low_of_lead? {first : UInt8} {lead : Lead} (h : lead? first = some lead) :
    0x80 ≤ lead.low := by
  unfold lead? at h
  dsimp only at h
  split_ifs at h <;> cases h <;> simp

theorem mem_next {b first : UInt8} (hb : b.toNat < 0x80) {rest : Bytes} (h : b ∈ rest) :
    b ∈ (next first rest).2 := by
  unfold next
  split
  · exact h
  · rename_i lead hlead
    have htail : b ∈ (tail lead.count lead.bits lead.low lead.high rest).2 :=
      mem_tail hb (low_of_lead? hlead) h
    split
    · rename_i heq
      rwa [heq] at htail
    · rename_i heq
      rwa [heq] at htail

/-- A byte of ASCII is read as its own character, whatever stands before it. -/
theorem mem_decodeSteps (hz : z.toNat < 0x80) {bytes : Bytes} (h : UInt8.ofNat z.toNat ∈ bytes) :
    some z ∈ decodeSteps bytes := by
  have hb : (UInt8.ofNat z.toNat).toNat < 0x80 := by
    rwa [toNat_ofNat_of_lt (by omega)]
  fun_induction decodeSteps bytes with
  | case1 => cases h
  | case2 first rest ih =>
      rcases List.mem_cons.mp h with rfl | hrest
      · have hnext := decodeSteps_encodeChar_append z rest
        rw [encodeChar_of_lt hz, List.singleton_append, decodeSteps] at hnext
        rw [(List.cons.inj hnext).1]
        exact List.mem_cons_self
      · exact List.mem_cons_of_mem _ (ih (mem_next hb hrest))

theorem mem_of_mapM_id {steps : List (Option Char)} {cs : List Char}
    (h : steps.mapM id = some cs) (hmem : some z ∈ steps) : z ∈ cs := by
  induction steps generalizing cs with
  | nil => cases hmem
  | cons step steps ih =>
      rw [List.mapM_cons] at h
      obtain ⟨c, hc, h⟩ := Option.bind_eq_some_iff.mp h
      obtain ⟨rest, hrest, h⟩ := Option.bind_eq_some_iff.mp h
      obtain rfl : c :: rest = cs := Option.some.inj h
      rcases List.mem_cons.mp hmem with rfl | hmem
      · obtain rfl : z = c := Option.some.inj hc
        exact List.mem_cons_self
      · exact List.mem_cons_of_mem c (ih hrest hmem)

theorem mem_decode? (hz : z.toNat < 0x80) {bytes : Bytes} {cs : List Char}
    (hread : decode? bytes = some cs) (h : UInt8.ofNat z.toNat ∈ bytes) : z ∈ cs :=
  mem_of_mapM_id hread (mem_decodeSteps hz h)

end Utf8

/-! ### Hosts -/

namespace Host

theorem bracketed_concat_eq_error (h : z ≠ ']') (cs : List Char) :
    bracketed (cs ++ [z]) = .error .ipv6 := by
  unfold bracketed
  rw [List.reverse_concat]
  split
  · rename_i heq
    exact absurd (List.cons.inj heq).1 h
  · rfl

/-- A text with a control or a blank is no domain, also where percent signs are decoded first. -/
theorem domain_eq_none (hz : z.toNat ≤ 32) {cs : List Char} (h : z ∈ cs) :
    (Utf8.decode? (Percent.decode (Utf8.encode cs))).bind Domain.ascii? = none := by
  have hbyte : (UInt8.ofNat z.toNat).toNat = z.toNat := Utf8.toNat_ofNat_of_lt (by omega)
  have hpercent : UInt8.ofNat z.toNat ≠ 37 := by
    intro heq
    rw [heq] at hbyte
    have hcode : z.toNat = 37 := hbyte.symm
    omega
  have hdigit : Percent.digitValue? (UInt8.ofNat z.toNat).toNat = none := by
    rw [hbyte, Percent.digitValue?, if_neg (by omega), if_neg (by omega), if_neg (by omega)]
  have hmem := Percent.mem_decode hpercent hdigit ((Utf8.ofNat_mem_encode (by omega)).mpr h)
  rw [Option.bind_eq_none_iff]
  intro domain hread
  exact Domain.ascii?_eq_none hz (Utf8.mem_decode? (by omega) hread hmem)

/-- The host of a special URL does not end with a control or a blank. -/
theorem lt_of_special {cs host : List Char} (h : special (cs ++ [z]) = .ok host) :
    32 < z.toNat := by
  by_contra hz
  rw [Nat.not_lt] at hz
  unfold special at h
  split at h
  · rename_i inner heq
    -- an address in brackets would have to end with the closing one
    cases cs with
    | nil =>
        obtain rfl : z = '[' := (List.cons.inj heq).1
        exact absurd hz (by decide)
    | cons c cs =>
        have hlast : z ≠ ']' := by
          rintro rfl
          exact absurd hz (by decide)
        rw [List.cons_append] at heq
        rw [← (List.cons.inj heq).2, bracketed_concat_eq_error hlast] at h
        cases h
  · rw [domain_eq_none hz (by simp)] at h
    cases h

end Host

end ApiCall
