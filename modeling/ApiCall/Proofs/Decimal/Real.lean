import ApiCall.Decimal.Real
import ApiCall.Proofs.Decimal.Integer
import ApiCall.Proofs.Decimal.Rounding
import Mathlib

/-!
Decimal fractions. `SpellsReal` says which texts spell one, with its digits as one significand and
its power of ten. The reader takes exactly these texts (`float?_eq_some_iff`), and what it gives is
finite exactly for the values below the threshold of overflow (`isFinite_nearest`).
-/

namespace ApiCall

namespace Decimal

/-- A point with the digits of the fraction, which are none where there is no point. -/
inductive Point : List Char → List Char → Prop where
  | none : Point [] []
  | some {fraction : List Char} : Point ('.' :: fraction) fraction

/-- The part that moves the point, and the power of ten it stands for. -/
inductive SpellsExponent : List Char → Int → Prop where
  | none : SpellsExponent [] 0
  | some {mark : Char} {power : List Char} {e : Int} (hmark : mark = 'e' ∨ mark = 'E')
      (hpower : SpellsInt power e) : SpellsExponent (mark :: power) e

/-- A text that spells the fraction `significand · 10^exponent` or its negative. There is at least
one digit, before the point or after it. -/
inductive SpellsReal : List Char → Bool → Nat → Int → Prop where
  | mk {sign whole point fraction mark : List Char} {negative : Bool} {e : Int}
      (hsign : Sign sign negative) (hpoint : Point point fraction)
      (hdigits : IsDigits (whole ++ fraction)) (hmark : SpellsExponent mark e) :
      SpellsReal (sign ++ (whole ++ (point ++ mark))) negative (inBaseTen (whole ++ fraction))
        (e - fraction.length)

/-! ### The exponent -/

theorem exponentPart?_cons (c : Char) (rest : List Char) :
    exponentPart? (c :: rest) =
      if c = 'e' ∨ c = 'E' then (value? (splitSign rest).2).map (signed (splitSign rest).1)
      else none := by
  have hmark : ((c == 'e' || c == 'E') = true) ↔ (c = 'e' ∨ c = 'E') := by
    rw [Bool.or_eq_true, beq_iff_eq, beq_iff_eq]
  rw [exponentPart?]
  by_cases hc : c = 'e' ∨ c = 'E'
  · rw [if_pos (hmark.mpr hc), if_pos hc]
    obtain ⟨negative, digits⟩ := splitSign rest
    cases hn : value? digits <;> simp [hn, signed]
  · rw [if_neg (mt hmark.mp hc), if_neg hc]

theorem exponentPart?_eq_some_iff {cs : List Char} {e : Int} :
    exponentPart? cs = some e ↔ SpellsExponent cs e := by
  cases cs with
  | nil =>
      constructor
      · intro h
        obtain rfl := Option.some.inj h
        exact .none
      · rintro ⟨⟩
        rfl
  | cons c rest =>
      rw [exponentPart?_cons, Option.ite_none_right_eq_some, Option.map_eq_some_iff]
      constructor
      · rintro ⟨hc, n, hn, he⟩
        exact .some hc (spellsInt_iff.mpr ⟨n, hn, he.symm⟩)
      · rintro ⟨⟩
        rename_i hc hpower
        obtain ⟨n, hn, he⟩ := spellsInt_iff.mp hpower
        exact ⟨hc, n, hn, he.symm⟩

/-! ### The digits -/

/-- A run of digits is cut off where something else follows. -/
theorem span_digits {digits rest : List Char} (hdigits : ∀ c ∈ digits, c.isDigit = true)
    (hrest : ∀ c ∈ rest.head?, c.isDigit = false) :
    (digits ++ rest).takeWhile isDigit = digits ∧ (digits ++ rest).dropWhile isDigit = rest := by
  have hall : ∀ c ∈ digits, isDigit c = true := fun c hc => isDigit_iff.mpr (hdigits c hc)
  have hend : rest.takeWhile isDigit = [] ∧ rest.dropWhile isDigit = rest := by
    cases rest with
    | nil => exact ⟨rfl, rfl⟩
    | cons c rest =>
        have hc : ¬ isDigit c = true := by
          rw [isDigit_iff, hrest c rfl]
          exact Bool.false_ne_true
        rw [List.takeWhile_cons_of_neg hc, List.dropWhile_cons_of_neg hc]
        exact ⟨rfl, rfl⟩
  rw [List.takeWhile_append_of_pos hall, List.dropWhile_append_of_pos hall, hend.1, hend.2,
    List.append_nil]
  exact ⟨rfl, rfl⟩

/-- The digits after the point, if there is one, and the rest. -/
def splitFraction : List Char → List Char × List Char
  | '.' :: cs => (cs.takeWhile isDigit, cs.dropWhile isDigit)
  | cs => ([], cs)

theorem exists_point (cs : List Char) :
    ∃ point, Point point (splitFraction cs).1 ∧ cs = point ++ (splitFraction cs).2 := by
  unfold splitFraction
  split
  · refine ⟨_, .some, ?_⟩
    rw [List.cons_append, List.takeWhile_append_dropWhile]
  · exact ⟨[], .none, rfl⟩

theorem SpellsExponent.head {mark : List Char} {e : Int} (h : SpellsExponent mark e) :
    ∀ c ∈ mark.head?, c.isDigit = false ∧ c ≠ '.' := by
  cases h with
  | none => exact fun c hc => nomatch hc
  | some hletter _ =>
      intro c hc
      obtain rfl := Option.some.inj hc
      rcases hletter with rfl | rfl
      · decide
      · decide

theorem splitFraction_append {point fraction mark : List Char} {e : Int}
    (hpoint : Point point fraction) (hfraction : ∀ c ∈ fraction, c.isDigit = true)
    (hmark : SpellsExponent mark e) : splitFraction (point ++ mark) = (fraction, mark) := by
  cases hpoint with
  | none =>
      rw [List.nil_append]
      unfold splitFraction
      split
      · exact absurd rfl (hmark.head '.' rfl).2
      · rfl
  | some =>
      obtain ⟨htake, hdrop⟩ := span_digits hfraction fun c hc => (hmark.head c hc).1
      rw [List.cons_append, splitFraction, htake, hdrop]

theorem float?_eq (cs : List Char) :
    let body := (splitSign cs).2
    let after := splitFraction (body.dropWhile isDigit)
    float? cs = (value? (body.takeWhile isDigit ++ after.1)).bind fun n =>
      (exponentPart? after.2).bind fun e =>
        some (nearest (splitSign cs).1 n (e - after.1.length)) :=
  rfl

/-- Nothing before the first digit or the point is taken for a sign. -/
theorem not_sign_of_digits {whole point fraction : List Char} (hpoint : Point point fraction)
    (hdigits : IsDigits (whole ++ fraction)) {sign : Char} (hsign : sign = '-' ∨ sign = '+')
    (mark : List Char) : (whole ++ (point ++ mark)).head? ≠ some sign := by
  have hnodigit : sign.isDigit = false ∧ '.' ≠ sign := by
    rcases hsign with rfl | rfl
    · decide
    · decide
  intro hhead
  cases whole with
  | nil =>
      cases hpoint with
      | none => exact hdigits.1 rfl
      | some => exact hnodigit.2 (Option.some.inj hhead)
  | cons c whole =>
      have hc : c.isDigit = true := hdigits.2 c (List.mem_cons_self)
      rw [Option.some.inj hhead, hnodigit.1] at hc
      exact Bool.false_ne_true hc

/-- The reader takes the spellings of fractions and nothing else. -/
theorem float?_eq_some_iff {cs : List Char} {x : Binary64} :
    float? cs = some x ↔
      ∃ negative n e, SpellsReal cs negative n e ∧ x = nearest negative n e := by
  constructor
  · intro h
    rw [float?_eq, Option.bind_eq_some_iff] at h
    obtain ⟨n, hn, h⟩ := h
    obtain ⟨e, he, hx⟩ := Option.bind_eq_some_iff.mp h
    obtain ⟨hdigits, rfl⟩ := value?_eq_some_iff.mp hn
    obtain ⟨sign, hsign, hcs⟩ := exists_sign cs
    obtain ⟨point, hpoint, hafter⟩ := exists_point ((splitSign cs).2.dropWhile isDigit)
    refine ⟨_, _, _, ?_, (Option.some.inj hx).symm⟩
    have hspells := SpellsReal.mk hsign hpoint hdigits (exponentPart?_eq_some_iff.mp he)
    rwa [← hafter, List.takeWhile_append_dropWhile, ← hcs] at hspells
  · rintro ⟨negative, n, e, ⟨hsign, hpoint, hdigits, hmark⟩, rfl⟩
    rename_i sign whole point fraction mark e
    obtain ⟨hwhole, hfraction⟩ := List.forall_mem_append.mp hdigits.2
    have hbody := splitSign_append hsign
      (not_sign_of_digits hpoint hdigits (Or.inl rfl) mark)
      (not_sign_of_digits hpoint hdigits (Or.inr rfl) mark)
    have hnext : ∀ c ∈ (point ++ mark).head?, c.isDigit = false := by
      cases hpoint with
      | none => exact fun c hc => (hmark.head c hc).1
      | some =>
          intro c hc
          obtain rfl := Option.some.inj hc
          rfl
    obtain ⟨htake, hdrop⟩ := span_digits hwhole hnext
    rw [float?_eq, hbody, htake, hdrop, splitFraction_append hpoint hfraction hmark,
      value?_eq_some_iff.mpr ⟨hdigits, rfl⟩, exponentPart?_eq_some_iff.mpr hmark]
    rfl

theorem SpellsReal.not_blank {cs : List Char} {negative : Bool} {n : Nat} {e : Int}
    (h : SpellsReal cs negative n e) : ∀ c ∈ cs, Blank.isBlank c = false := by
  obtain ⟨hsign, hpoint, hdigits, hmark⟩ := h
  have hdigit : ∀ c, c.isDigit = true → Blank.isBlank c = false := fun c hc => (isDigit_spec hc).1
  obtain ⟨hwhole, hfraction⟩ := List.forall_mem_append.mp hdigits.2
  simp only [List.forall_mem_append]
  refine ⟨hsign.not_blank, fun c hc => hdigit c (hwhole c hc), ?_, ?_⟩
  · cases hpoint with
    | none => exact fun c hc => absurd hc List.not_mem_nil
    | some => exact List.forall_mem_cons.mpr ⟨rfl, fun c hc => hdigit c (hfraction c hc)⟩
  · cases hmark with
    | none => exact fun c hc => absurd hc List.not_mem_nil
    | some hletter hpower =>
        refine List.forall_mem_cons.mpr ⟨?_, hpower.not_blank⟩
        rcases hletter with rfl | rfl
        · rfl
        · rfl

/-! ### The value -/

theorem length_ofNat {n : Nat} (hn : 0 < n) :
    10 ^ ((ofNat n).length - 1) ≤ n ∧ n < 10 ^ (ofNat n).length := by
  induction n using ofNat.induct with
  | case1 n hsmall =>
      rw [ofNat, if_pos hsmall]
      exact ⟨hn, hsmall⟩
  | case2 n hlarge ih =>
      obtain ⟨hlow, hhigh⟩ := ih (by omega)
      have hlength : 0 < (ofNat (n / 10)).length :=
        List.length_pos_of_ne_nil (isDigits_ofNat _).1
      have hpower : 10 ^ (ofNat (n / 10)).length = 10 ^ ((ofNat (n / 10)).length - 1) * 10 :=
        (Nat.pow_pred_mul hlength).symm
      rw [ofNat, if_neg hlarge, List.length_append, List.length_singleton, Nat.add_sub_cancel,
        Nat.pow_succ]
      omega

/-- A decimal fraction is rounded to a finite number exactly when it is below the threshold. The
sizes that are decided before any power is formed lie far beyond it on both sides. -/
theorem isFinite_nearest (negative : Bool) (n : Nat) (e : Int) :
    (nearest negative n e).isFinite = true ↔ (n * 10 ^ e : ℚ) < Binary64.overflow := by
  have hten : (10 : ℚ) ≠ 0 := by norm_num
  have hunit : (0 : ℚ) < 10 ^ e := zpow_pos (by norm_num) e
  rcases Nat.eq_zero_or_pos n with rfl | hn
  · rw [Nat.cast_zero, zero_mul]
    exact iff_of_true rfl (one_pos.trans Binary64.one_lt_overflow)
  obtain ⟨hlow, hhigh⟩ := length_ofNat hn
  have hlow' : (10 : ℚ) ^ ((ofNat n).length - 1) ≤ n := by exact_mod_cast hlow
  have hhigh' : (n : ℚ) < 10 ^ (ofNat n).length := by exact_mod_cast hhigh
  simp only [nearest, if_neg hn.ne']
  split_ifs with hlarge hsmall hpositive
  · have hsize : Binary64.overflow ≤ n * 10 ^ e := by
      calc Binary64.overflow ≤ 10 ^ (309 : Int) := Binary64.overflow_lt.le
        _ ≤ 10 ^ (((ofNat n).length - 1 : Nat) + e) :=
          zpow_le_zpow_right₀ (by norm_num) (by omega)
        _ = 10 ^ ((ofNat n).length - 1) * 10 ^ e := by rw [zpow_add₀ hten, zpow_natCast]
        _ ≤ n * 10 ^ e := mul_le_mul_of_nonneg_right hlow' hunit.le
    exact iff_of_false Bool.false_ne_true (not_lt.mpr hsize)
  · have hsize : n * 10 ^ e < Binary64.overflow := by
      calc (n * 10 ^ e : ℚ) < 10 ^ (ofNat n).length * 10 ^ e := mul_lt_mul_of_pos_right hhigh' hunit
        _ = 10 ^ ((ofNat n).length + e) := by rw [zpow_add₀ hten, zpow_natCast]
        _ ≤ 1 := zpow_le_one_of_nonpos₀ (by norm_num) (by omega)
        _ < Binary64.overflow := Binary64.one_lt_overflow
    exact iff_of_true rfl hsize
  · lift e to Nat using hpositive
    rw [Binary64.isFinite_ofRatio negative Nat.one_pos]
    simp
  · obtain ⟨k, rfl⟩ : ∃ k : Nat, e = -k := ⟨(-e).toNat, by omega⟩
    have hden : 0 < Nat.pow 10 (- -(k : Int)).toNat := Nat.pow_pos (by decide)
    rw [Binary64.isFinite_ofRatio negative hden]
    simp [div_eq_mul_inv]

end Decimal

end ApiCall
