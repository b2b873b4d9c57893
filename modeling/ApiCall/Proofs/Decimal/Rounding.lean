import ApiCall.Decimal.Binary64
import Mathlib

/-!
Which exact values are rounded to a finite double-precision number. These are the ratios below
`Binary64.overflow`, which lies half a unit above the greatest finite number: a tie there goes to
the even significand, and this is the one that has no room (`Binary64.isFinite_ofRatio`).
-/

namespace ApiCall

namespace Binary64

/-- The least magnitude that is too large: halfway between the greatest finite number and
`2^1024`. -/
def overflow : ℚ :=
  2 ^ 1024 - 2 ^ 970

theorem overflow_eq : overflow = (2 ^ 53 - 1 / 2) * 2 ^ (971 : Int) := by
  have hsplit (k : Nat) : (2 : ℚ) ^ (k + 54) - 2 ^ k = (2 ^ 53 - 1 / 2) * 2 ^ (k + 1) := by
    ring
  exact hsplit 970

theorem one_lt_overflow : 1 < overflow := by
  have hunit : (1 : ℚ) ≤ 2 ^ (971 : Int) := one_le_zpow₀ one_le_two (by decide)
  rw [overflow_eq]
  exact one_lt_mul_of_lt_of_le (by norm_num) hunit

theorem overflow_lt : overflow < 10 ^ 309 := by
  calc overflow < 2 ^ 1024 := sub_lt_self _ (pow_pos two_pos 970)
    _ = (2 ^ 93) ^ 11 * 2 := by rw [← pow_mul, ← pow_succ]
    _ ≤ (10 ^ 28) ^ 11 * 10 := by gcongr <;> norm_num
    _ = 10 ^ 309 := by rw [← pow_mul, ← pow_succ]

variable {num den : Nat}

/-! ### Nearest integers -/

/-- A ratio stays below an even number as long as it is more than a half away from it. The number
before it is odd, so a tie does not stay there. -/
theorem nearestEven_lt_iff {k : Nat} (hden : 0 < den) (hk : k % 2 = 0) :
    nearestEven num den < k ↔ (num / den : ℚ) < k - 1 / 2 := by
  have hratio : (num / den : ℚ) < k - 1 / 2 ↔ 2 * num + den < 2 * k * den := by
    have hpos : (0 : ℚ) < den := by exact_mod_cast hden
    rw [div_lt_iff₀ hpos, ← Nat.cast_lt (α := ℚ)]
    push_cast
    constructor <;> intro h <;> linarith
  obtain ⟨q, hq⟩ : ∃ q, num / den = q := ⟨_, rfl⟩
  obtain ⟨r, hr⟩ : ∃ r, num % den = r := ⟨_, rfl⟩
  have hnum : num = den * q + r := by
    rw [← hq, ← hr, Nat.div_add_mod]
  have hrest : r < den := hr ▸ Nat.mod_lt num hden
  rw [hratio]
  simp only [nearestEven, hq, hr]
  rcases lt_trichotomy (q + 1) k with hlt | rfl | hgt
  · have hroom : (q + 2) * den ≤ k * den := Nat.mul_le_mul_right den hlt
    have hleft : 2 * num + den < 2 * k * den := by
      rw [hnum]
      linarith
    refine iff_of_true ?_ hleft
    split_ifs <;> omega
  · have hright : 2 * num + den < 2 * (q + 1) * den ↔ 2 * r < den := by
      rw [hnum]
      constructor <;> intro h <;> linarith
    rw [hright]
    split_ifs <;> omega
  · have hroom : k * den ≤ q * den := Nat.mul_le_mul_right den (by omega)
    have hright : ¬ 2 * num + den < 2 * k * den := by
      rw [hnum]
      linarith
    refine iff_of_false ?_ hright
    split_ifs <;> omega

theorem nearestEven_le {k : Nat} (hden : 0 < den) (h : (num / den : ℚ) < k) :
    nearestEven num den ≤ k := by
  have hquotient : num / den < k := by
    rw [← Nat.floor_div_eq_div (K := ℚ)]
    exact (Nat.floor_lt (by positivity)).mpr h
  simp only [nearestEven]
  split_ifs <;> omega

/-! ### The exponent -/

theorem scale_spec (num : Nat) (hden : 0 < den) (e : Int) :
    0 < (scale num den e).2 ∧
      ((scale num den e).1 / (scale num den e).2 : ℚ) = num / den / 2 ^ e := by
  unfold scale
  split
  · rename_i hpos
    lift e to Nat using hpos
    refine ⟨Nat.mul_pos hden (Nat.pow_pos (by decide)), ?_⟩
    simp [div_div]
  · rename_i hneg
    obtain ⟨k, rfl⟩ : ∃ k : Nat, e = -k := ⟨(-e).toNat, by omega⟩
    refine ⟨hden, ?_⟩
    simp [div_eq_mul_inv, mul_right_comm]

/-- A ratio lies between the powers of two that the lengths of its parts give. -/
theorem ratio_bounds (hnum : 0 < num) (hden : 0 < den) :
    (2 : ℚ) ^ ((num.log2 : Int) - den.log2 - 1) ≤ num / den ∧
      (num / den : ℚ) < 2 ^ ((num.log2 : Int) - den.log2 + 1) := by
  have htwo : (2 : ℚ) ≠ 0 := two_ne_zero
  have hpos : (0 : ℚ) < den := by exact_mod_cast hden
  have hnumlow : (2 : ℚ) ^ num.log2 ≤ num := by
    exact_mod_cast Nat.log2_self_le hnum.ne'
  have hnumhigh : (num : ℚ) < 2 ^ (num.log2 + 1) := by
    exact_mod_cast Nat.lt_log2_self
  have hdenlow : (2 : ℚ) ^ den.log2 ≤ den := by
    exact_mod_cast Nat.log2_self_le hden.ne'
  have hdenhigh : (den : ℚ) < 2 ^ (den.log2 + 1) := by
    exact_mod_cast Nat.lt_log2_self
  constructor
  · calc (2 : ℚ) ^ ((num.log2 : Int) - den.log2 - 1)
        = 2 ^ num.log2 / 2 ^ (den.log2 + 1) := by
          rw [← zpow_natCast, ← zpow_natCast, ← zpow_sub₀ htwo]
          push_cast
          congr 1
          ring
      _ ≤ num / den := div_le_div₀ (by positivity) hnumlow hpos hdenhigh.le
  · calc (num / den : ℚ) < 2 ^ (num.log2 + 1) / 2 ^ den.log2 :=
          div_lt_div₀ hnumhigh hdenlow (by positivity) (by positivity)
      _ = 2 ^ ((num.log2 : Int) - den.log2 + 1) := by
          rw [← zpow_natCast, ← zpow_natCast, ← zpow_sub₀ htwo]
          push_cast
          congr 1
          ring

/-- The exponent leaves at most 53 bits before the point, and exactly 53 of them unless it is the
least one. -/
theorem exponentFor_spec (hnum : 0 < num) (hden : 0 < den) :
    (num / den : ℚ) < 2 ^ 53 * 2 ^ exponentFor num den ∧
      (-1074 < exponentFor num den → (2 ^ 52 * 2 ^ exponentFor num den : ℚ) ≤ num / den) := by
  have htwo : (2 : ℚ) ≠ 0 := two_ne_zero
  obtain ⟨hlow, hhigh⟩ := ratio_bounds hnum hden
  obtain ⟨x, hx⟩ : ∃ x : ℚ, x = num / den := ⟨_, rfl⟩
  obtain ⟨e, he⟩ : ∃ e, max ((num.log2 : Int) - den.log2 - 53) (-1074) = e := ⟨_, rfl⟩
  obtain ⟨hpos, hscale⟩ := scale_spec num hden e
  rw [← hx] at hlow hhigh hscale ⊢
  have hupper : x < 2 ^ 54 * 2 ^ e := by
    calc x < 2 ^ ((num.log2 : Int) - den.log2 + 1) := hhigh
      _ ≤ 2 ^ (54 + e) := zpow_le_zpow_right₀ one_le_two (by omega)
      _ = 2 ^ 54 * 2 ^ e := zpow_add₀ htwo 54 e
  have hlower : -1074 < e → 2 ^ 52 * 2 ^ e ≤ x := by
    intro hnormal
    calc (2 : ℚ) ^ 52 * 2 ^ e = 2 ^ (52 + e) := (zpow_add₀ htwo 52 e).symm
      _ = 2 ^ ((num.log2 : Int) - den.log2 - 1) := by
          congr 1
          omega
      _ ≤ x := hlow
  have hunit : (0 : ℚ) < 2 ^ e := zpow_pos two_pos e
  have hlong : 0x20_0000_0000_0000 * (scale num den e).2 ≤ (scale num den e).1 ↔
      2 ^ 53 * 2 ^ e ≤ x := by
    rw [← le_div_iff₀ hunit, ← hscale, le_div_iff₀ (by exact_mod_cast hpos),
      ← Nat.cast_le (α := ℚ)]
    norm_num
  unfold exponentFor
  simp only [he, hlong]
  split_ifs with hbits
  · rw [zpow_add_one₀ htwo]
    exact ⟨by linarith, fun _ => by linarith⟩
  · exact ⟨not_le.mp hbits, hlower⟩

/-- The significand that a ratio is rounded to, before a carry. -/
def significand (num den : Nat) : Nat :=
  nearestEven (scale num den (exponentFor num den)).1 (scale num den (exponentFor num den)).2

/-- The significand has 53 bits, or it is the least number that has more of them. It is the latter
from half a unit below this number on. -/
theorem significand_spec (hnum : 0 < num) (hden : 0 < den) :
    significand num den ≤ 0x20_0000_0000_0000 ∧
      (significand num den < 0x20_0000_0000_0000 ↔
        (num / den : ℚ) < (2 ^ 53 - 1 / 2) * 2 ^ exponentFor num den) := by
  obtain ⟨hupper, -⟩ := exponentFor_spec hnum hden
  obtain ⟨hpos, hscale⟩ := scale_spec num hden (exponentFor num den)
  have hunit : (0 : ℚ) < 2 ^ exponentFor num den := zpow_pos two_pos _
  unfold significand
  constructor
  · apply nearestEven_le hpos
    rw [hscale, div_lt_iff₀ hunit]
    norm_num at hupper ⊢
    exact hupper
  · rw [nearestEven_lt_iff hpos (by decide), hscale, div_lt_iff₀ hunit]
    norm_num

/-- The greatest exponent has no room for a carry. -/
theorem isFinite_ofRatio_iff_exponent (negative : Bool) (hnum : 0 < num) (hden : 0 < den) :
    (ofRatio negative num den).isFinite = true ↔
      exponentFor num den < 971 ∨
        exponentFor num den = 971 ∧ significand num den < 0x20_0000_0000_0000 := by
  have hbits := (significand_spec hnum hden).1
  have hround : nearestEven (scale num den (exponentFor num den)).1
      (scale num den (exponentFor num den)).2 = significand num den := rfl
  simp only [ofRatio, if_neg hnum.ne', hround]
  split_ifs <;> simp only [isFinite, true_iff, Bool.false_eq_true, false_iff] <;> omega

/-- A ratio is rounded to a finite number exactly when it is below the threshold. -/
theorem isFinite_ofRatio (negative : Bool) (hden : 0 < den) :
    (ofRatio negative num den).isFinite = true ↔ (num / den : ℚ) < overflow := by
  have htwo : (2 : ℚ) ≠ 0 := two_ne_zero
  rcases Nat.eq_zero_or_pos num with rfl | hnum
  · rw [Nat.cast_zero, zero_div]
    exact iff_of_true rfl (one_pos.trans one_lt_overflow)
  obtain ⟨hupper, hlower⟩ := exponentFor_spec hnum hden
  rw [isFinite_ofRatio_iff_exponent negative hnum hden, (significand_spec hnum hden).2, overflow_eq]
  generalize exponentFor num den = e at hupper hlower ⊢
  have hgreatest : (0 : ℚ) < 2 ^ (971 : Int) := zpow_pos two_pos 971
  rcases lt_trichotomy e 971 with hless | rfl | hmore
  · have hroom : (2 : ℚ) ^ (e + 1) ≤ 2 ^ (971 : Int) := zpow_le_zpow_right₀ one_le_two hless
    rw [zpow_add_one₀ htwo] at hroom
    refine iff_of_true (Or.inl hless) ?_
    generalize (2 : ℚ) ^ (971 : Int) = greatest at hroom hgreatest ⊢
    linarith
  · exact ⟨fun h => (h.resolve_left (lt_irrefl _)).2, fun h => Or.inr ⟨rfl, h⟩⟩
  · have hroom : (2 : ℚ) ^ ((971 : Int) + 1) ≤ 2 ^ e := zpow_le_zpow_right₀ one_le_two hmore
    have hlarge := hlower (by omega)
    rw [zpow_add_one₀ htwo] at hroom
    refine iff_of_false (by omega) ?_
    generalize (2 : ℚ) ^ (971 : Int) = greatest at hroom hgreatest ⊢
    linarith

theorem isFinite_ofInt (i : Int) : (ofInt i).isFinite = true ↔ (i.natAbs : ℚ) < overflow := by
  rw [ofInt, isFinite_ofRatio _ Nat.one_pos, Nat.cast_one, div_one]

end Binary64

end ApiCall
