import ApiCall.Proofs.Decimal.Integer
import ApiCall.Scalar
import Mathlib

/-!
What becomes of a canonical text that comes back as a string. Truth values, strings, choices and
JSON texts stand for themselves; the decimal spelling of an integer is read as this integer as far
as it has 64 bits with a sign (`Decimal.int64?_ofInt`). A number may be greater than that, and its
text is then the one that is not taken again (`ScalarKind.encode_text_iff`).
-/

namespace ApiCall

open Json

namespace ScalarKind

theorem integer?_ofInt (i : Int) :
    integer? (.string (String.ofList (Decimal.ofInt i))) =
      if Decimal.IsInt64 i then some (String.ofList (Decimal.ofInt i)) else none := by
  rw [integer?, String.toList_ofList, Decimal.trim_ofInt, Decimal.int64?_ofInt]
  split
  · rfl
  · rfl

/-- The text of an integer is the spelling of a number, or of an integer read from a string. -/
theorem integer?_eq_some {v : Value} {s : String} (h : integer? v = some s) :
    ∃ i, s = String.ofList (Decimal.ofInt i) ∧ (v = .number (.integer i) ∨
      Decimal.IsInt64 i ∧ ∃ t, v = .string t) := by
  unfold integer? at h
  split at h
  · rename_i i
    exact ⟨i, (Option.some.inj h).symm, Or.inl rfl⟩
  · rename_i t
    obtain ⟨i, hi, rfl⟩ := Option.map_eq_some_iff.mp h
    exact ⟨i, rfl, Or.inr ⟨(Decimal.int64?_eq_some_iff.mp hi).1, t, rfl⟩⟩
  · cases h

/-- The value is a number that no string can spell for its kind: an integer beyond those of 64 bits
with a sign. -/
def IsUnspelled (kind : ScalarKind) (v : Value) : Prop :=
  (kind = .integer ∨ kind = .unixTime) ∧ ∃ i, v = .number (.integer i) ∧ ¬ Decimal.IsInt64 i

theorem encode_of_integral {kind : ScalarKind} (hkind : kind = .integer ∨ kind = .unixTime)
    (v : Value) (path : FieldPath) :
    kind.encode v path =
      match integer? v with
      | some text => .ok text
      | none => .error (.mismatchAt path kind.name v) := by
  rcases hkind with rfl | rfl
  · rfl
  · rfl

/-- The text that comes out of an integer is read again, or the integer was too large a number. -/
theorem encode_integer_text {kind : ScalarKind} (hkind : kind = .integer ∨ kind = .unixTime)
    {v : Value} {path : FieldPath} {s : String} (h : kind.encode v path = .ok s) :
    (¬ kind.IsUnspelled v ∧ kind.encode (.string s) path = .ok s) ∨
      (kind.IsUnspelled v ∧
        kind.encode (.string s) path = .error (.wrongKind path.text kind.name "string")) := by
  have htext : integer? v = some s := by
    rw [encode_of_integral hkind] at h
    split at h
    · rename_i text htext
      rw [htext, Except.ok.inj h]
    · cases h
  obtain ⟨i, rfl, hv⟩ := integer?_eq_some htext
  have hiff : kind.IsUnspelled v ↔ ¬ Decimal.IsInt64 i := by
    constructor
    · rintro ⟨-, j, rfl, hj⟩
      rcases hv with heq | ⟨-, t, heq⟩
      · cases heq
        exact hj
      · cases heq
    · intro hi
      rcases hv with heq | ⟨hin, -⟩
      · exact ⟨hkind, i, heq, hi⟩
      · exact absurd hin hi
  rw [encode_of_integral hkind, integer?_ofInt]
  by_cases hin : Decimal.IsInt64 i
  · rw [if_pos hin]
    exact Or.inl ⟨fun hunspelled => hiff.mp hunspelled hin, rfl⟩
  · rw [if_neg hin]
    exact Or.inr ⟨hiff.mpr hin, rfl⟩

/-- The texts of all other kinds but the fractions are strings of their kind. -/
theorem encode_other_text {kind : ScalarKind} (hfloat : kind ≠ .float) (hinteger : kind ≠ .integer)
    (htime : kind ≠ .unixTime) {v : Value} {path : FieldPath} {s : String}
    (h : kind.encode v path = .ok s) : kind.encode (.string s) path = .ok s := by
  cases kind with
  | float => exact absurd rfl hfloat
  | integer => exact absurd rfl hinteger
  | unixTime => exact absurd rfl htime
  | boolean =>
      have hs : s = "true" ∨ s = "false" := by
        cases v with
        | bool b => cases b <;> simp_all [encode, boolean?]
        | string t =>
            by_cases ht : t = "true" ∨ t = "false"
            · simp only [encode, boolean?, if_pos ht, Except.ok.injEq] at h
              exact h ▸ ht
            · simp [encode, boolean?, if_neg ht] at h
        | _ => simp [encode, boolean?] at h
      simp [encode, boolean?, hs]
  | choice allowed =>
      cases v with
      | string t =>
          have hallowed : allowed.contains s = true := by
            by_cases ht : allowed.contains t = true
            · simp only [encode, if_pos ht, Except.ok.injEq] at h
              exact h ▸ ht
            · simp only [encode, if_neg ht] at h
              cases h
          simp only [encode, if_pos hallowed]
      | _ => cases h
  | json | string | date | dateTime | uuid | bytes | binary => rfl

/-- A canonical text that comes back as a string is taken as it is, by every kind but the fractions,
unless it spells an integer that only a number can hold: this string is no integer. -/
theorem encode_text_iff {kind : ScalarKind} (hfloat : kind ≠ .float) {v : Value} {path : FieldPath}
    {s : String} (h : kind.encode v path = .ok s) :
    (kind.encode (.string s) path = .ok s ↔ ¬ kind.IsUnspelled v) ∧
      (kind.IsUnspelled v →
        kind.encode (.string s) path = .error (.wrongKind path.text kind.name "string")) := by
  have hcases : (¬ kind.IsUnspelled v ∧ kind.encode (.string s) path = .ok s) ∨
      (kind.IsUnspelled v ∧
        kind.encode (.string s) path = .error (.wrongKind path.text kind.name "string")) := by
    by_cases hkind : kind = .integer ∨ kind = .unixTime
    · exact encode_integer_text hkind h
    · obtain ⟨hinteger, htime⟩ := not_or.mp hkind
      exact Or.inl ⟨fun hunspelled => hkind hunspelled.1,
        encode_other_text hfloat hinteger htime h⟩
  rcases hcases with ⟨hspelled, hagain⟩ | ⟨hunspelled, hrefused⟩
  · exact ⟨iff_of_true hagain hspelled, fun hunspelled => absurd hunspelled hspelled⟩
  · rw [hrefused]
    exact ⟨iff_of_false (by simp) (not_not_intro hunspelled), fun _ => rfl⟩

/-- A time out of a padded string is read again, and the greatest number of 64 bits is not. -/
theorem encode_text_iff_of_times :
    let path : FieldPath := { root := "v" }
    let greatest : Value := .number (.integer 18446744073709551615)
    unixTime.encode (.string " +007 ") path = .ok "7" ∧
      unixTime.encode (.string "7") path = .ok "7" ∧
      unixTime.encode greatest path = .ok "18446744073709551615" ∧
      unixTime.encode (.string "18446744073709551615") path =
        .error (.wrongKind "v" "unix-time" "string") := by
  intro path greatest
  have hpadded : unixTime.encode (.string " +007 ") path = .ok "7" := by cbv
  have hgreatest : unixTime.encode greatest path = .ok "18446744073709551615" := by cbv
  have hspelled : ¬ unixTime.IsUnspelled (.string " +007 ") := by
    rintro ⟨-, i, heq, -⟩
    cases heq
  have hunspelled : unixTime.IsUnspelled greatest :=
    ⟨Or.inr rfl, 18446744073709551615, rfl, by decide⟩
  exact ⟨hpadded, (encode_text_iff (by decide) hpadded).1.mpr hspelled, hgreatest,
    (encode_text_iff (by decide) hgreatest).2 hunspelled⟩

/-- An integer is taken as a number, and its own spelling is not. -/
theorem number_taken_spelling_refused :
    let path : FieldPath := { root := "v" }
    integer.encode (.number (.integer 18446744073709551615)) path = .ok "18446744073709551615" ∧
      integer.encode (.string "18446744073709551615") path =
        .error (.wrongKind "v" "integer" "string") := by
  constructor
  · cbv
  · cbv

end ScalarKind

end ApiCall
