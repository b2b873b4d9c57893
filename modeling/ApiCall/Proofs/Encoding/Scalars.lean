import ApiCall.Items.Encode
import ApiCall.Proofs.Decimal.Real

/-!
Which values a scalar kind takes. `ScalarKind.Takes` says it for each kind without a word about the
text that is written: truth values and numbers may be spelled out in a string, a choice is one of
its strings. A value has a text exactly when its kind takes it (`ScalarKind.isSome_text?_iff`), and
what is wrong with any other value does not depend on where it stands (`ScalarKind.encode_eq`).
-/

namespace ApiCall

open Json

/-- What can be wrong with the value at one position. -/
inductive Misfit where
  /-- A value that may not be absent is absent or null. -/
  | missing
  | wrongKind (expected actual : String)
  /-- A string outside the allowed set. -/
  | notAllowed (value : String) (allowed : List String)
  deriving DecidableEq, Repr

/-- The error of a misfit at a dotted path. -/
def Misfit.error (path : String) : Misfit → Error
  | .missing => .valueMissing path
  | .wrongKind expected actual => .wrongKind path expected actual
  | .notAllowed value allowed => .notAllowed path value allowed

namespace Decimal

/-- The text spells an integer of 64 bits. -/
def SpellsInt64 (cs : List Char) : Prop :=
  ∃ i, SpellsInt cs i ∧ IsInt64 i

/-- The text spells a fraction whose magnitude has a finite double-precision number next to it. -/
def SpellsFinite (cs : List Char) : Prop :=
  ∃ negative significand exponent, SpellsReal cs negative significand exponent ∧
    (significand * 10 ^ exponent : ℚ) < Binary64.overflow

theorem SpellsInt64.not_blank {cs : List Char} (h : SpellsInt64 cs) :
    ∀ c ∈ cs, Blank.isBlank c = false := by
  obtain ⟨i, hi, -⟩ := h
  exact hi.not_blank

theorem SpellsFinite.not_blank {cs : List Char} (h : SpellsFinite cs) :
    ∀ c ∈ cs, Blank.isBlank c = false := by
  obtain ⟨negative, n, e, hspells, -⟩ := h
  exact hspells.not_blank

theorem isSome_int64?_iff (cs : List Char) : (int64? cs).isSome = true ↔ SpellsInt64 cs := by
  simp only [Option.isSome_iff_exists, int64?_eq_some_iff, SpellsInt64, and_comm]

theorem exists_finite_float?_iff (cs : List Char) :
    (∃ x, float? cs = some x ∧ x.isFinite = true) ↔ SpellsFinite cs := by
  constructor
  · rintro ⟨x, hx, hfinite⟩
    obtain ⟨negative, n, e, hspells, rfl⟩ := float?_eq_some_iff.mp hx
    exact ⟨negative, n, e, hspells, (isFinite_nearest negative n e).mp hfinite⟩
  · rintro ⟨negative, n, e, hspells, hsize⟩
    exact ⟨_, float?_eq_some_iff.mpr ⟨negative, n, e, hspells, rfl⟩,
      (isFinite_nearest negative n e).mpr hsize⟩

end Decimal

namespace Json.Value

/-- A truth value, or one of the two words for it. -/
def IsTruth : Value → Prop
  | .bool _ => True
  | .string s => s = "true" ∨ s = "false"
  | _ => False

/-- An integer, or a string that spells one of 64 bits, maybe between blanks. -/
def IsWhole : Value → Prop
  | .number (.integer _) => True
  | .string s => ∃ inner, Blank.Padded s.toList inner ∧ Decimal.SpellsInt64 inner
  | _ => False

/-- A number, or a string that spells one, maybe between blanks. It has a finite double-precision
number next to it. -/
def IsReal : Value → Prop
  | .number (.integer i) => (i.natAbs : ℚ) < Binary64.overflow
  | .number (.float x) => x.isFinite = true
  | .string s => ∃ inner, Blank.Padded s.toList inner ∧ Decimal.SpellsFinite inner
  | _ => False

/-- A string. -/
def IsText : Value → Prop
  | .string _ => True
  | _ => False

end Json.Value

namespace ScalarKind

/-- The value is one of the kind. -/
def Takes : ScalarKind → Value → Prop
  | .boolean, v => v.IsTruth
  | .integer, v => v.IsWhole
  | .unixTime, v => v.IsWhole
  | .float, v => v.IsReal
  | .choice allowed, v => ∃ s ∈ allowed, v = .string s
  | .json, _ => True
  | .string, v => v.IsText
  | .date, v => v.IsText
  | .dateTime, v => v.IsText
  | .uuid, v => v.IsText
  | .bytes, v => v.IsText
  | .binary, v => v.IsText

/-- The canonical text of a value, if it is one of this kind. -/
def text? (kind : ScalarKind) (v : Value) : Option String :=
  (kind.encode v { root := "" }).toOption

/-- What is wrong with a value that is not one of this kind. -/
def misfit (kind : ScalarKind) (v : Value) : Misfit :=
  match kind, v with
  | .choice allowed, .string s => .notAllowed s allowed
  | _, _ => .wrongKind kind.name v.kind

/-- The text that a value of the kind is read as, without a path for the error. -/
def read? : ScalarKind → Value → Option String
  | .boolean => boolean?
  | .integer => integer?
  | .unixTime => integer?
  | .float => real?
  | .choice allowed => fun v => (string? v).filter allowed.contains
  | .json => fun v => some (jsonText v)
  | _ => string?

theorem encode_eq_read? (kind : ScalarKind) (v : Value) (path : FieldPath) :
    kind.encode v path =
      match kind.read? v with
      | some text => .ok text
      | none => .error ((kind.misfit v).error path.text) := by
  cases kind with
  | choice allowed =>
      cases v with
      | string s =>
          by_cases hs : s ∈ allowed
          · simp [encode, read?, string?, Option.filter, hs]
          · simp [encode, read?, string?, Option.filter, hs, misfit, Misfit.error]
      | _ => rfl
  | _ => rfl

theorem text?_eq_read? (kind : ScalarKind) (v : Value) : kind.text? v = kind.read? v := by
  rw [text?, encode_eq_read?]
  cases kind.read? v with
  | none => rfl
  | some text => rfl

/-- The text does not depend on where the value stands, only the error does. -/
theorem encode_eq (kind : ScalarKind) (v : Value) (path : FieldPath) :
    kind.encode v path =
      match kind.text? v with
      | some text => .ok text
      | none => .error ((kind.misfit v).error path.text) := by
  rw [encode_eq_read?, text?_eq_read?]

/-! ### What has a text -/

theorem isSome_boolean?_iff (v : Value) : (boolean? v).isSome = true ↔ v.IsTruth := by
  cases v with
  | bool b => cases b <;> exact iff_of_true rfl trivial
  | string s =>
      rw [boolean?, Value.IsTruth]
      split
      · rename_i hs
        exact iff_of_true rfl hs
      · rename_i hs
        exact iff_of_false Bool.false_ne_true hs
  | _ => exact iff_of_false Bool.false_ne_true id

/-- A string spells what is left of it between blanks, as far as no blank stands in a spelling. -/
theorem exists_padded_iff {P : List Char → Prop} {text : List Char}
    (hP : ∀ inner, P inner → ∀ c ∈ inner, Blank.isBlank c = false) :
    (∃ inner, Blank.Padded text inner ∧ P inner) ↔ P (Blank.trim text) := by
  constructor
  · rintro ⟨inner, hpadded, hinner⟩
    rwa [(Blank.trim_eq_iff (hP inner hinner)).mpr hpadded]
  · intro h
    exact ⟨_, Blank.padded_trim text, h⟩

theorem isSome_integer?_iff (v : Value) : (integer? v).isSome = true ↔ v.IsWhole := by
  cases v with
  | number n =>
      cases n with
      | integer i => exact iff_of_true rfl trivial
      | float x => exact iff_of_false Bool.false_ne_true id
  | string s =>
      rw [integer?, Option.isSome_map, Decimal.isSome_int64?_iff]
      exact (exists_padded_iff fun _ => Decimal.SpellsInt64.not_blank).symm
  | _ => exact iff_of_false Bool.false_ne_true id

theorem isSome_real?_iff_isFinite (v : Value) :
    (real? v).isSome = true ↔ ∃ x, realOf? v = some x ∧ x.isFinite = true := by
  rw [real?]
  cases realOf? v with
  | none => simp
  | some x =>
      cases hx : x.isFinite with
      | true => simp [hx]
      | false => simp [hx]

theorem isSome_real?_iff (v : Value) : (real? v).isSome = true ↔ v.IsReal := by
  rw [isSome_real?_iff_isFinite]
  cases v with
  | number n =>
      cases n with
      | integer i =>
          rw [Value.IsReal, ← Binary64.isFinite_ofInt]
          simp [realOf?]
      | float x => simp [realOf?, Value.IsReal]
  | string s =>
      rw [Value.IsReal, exists_padded_iff fun _ => Decimal.SpellsFinite.not_blank]
      exact Decimal.exists_finite_float?_iff _
  | null | bool b | array items | object members => simp [realOf?, Value.IsReal]

theorem isSome_string?_iff (v : Value) : (string? v).isSome = true ↔ v.IsText := by
  cases v with
  | string s => exact iff_of_true rfl trivial
  | _ => exact iff_of_false Bool.false_ne_true id

/-- A value has a text exactly when its kind takes it. -/
theorem isSome_text?_iff (kind : ScalarKind) (v : Value) :
    (kind.text? v).isSome = true ↔ kind.Takes v := by
  rw [text?_eq_read?]
  cases kind with
  | boolean => exact isSome_boolean?_iff v
  | integer | unixTime => exact isSome_integer?_iff v
  | float => exact isSome_real?_iff v
  | choice allowed =>
      cases v with
      | string s => simp [read?, string?, Takes]
      | _ => simp [read?, string?, Takes]
  | json => exact iff_of_true rfl trivial
  | string | date | dateTime | uuid | bytes | binary => exact isSome_string?_iff v

theorem exists_text {kind : ScalarKind} {v : Value} (h : kind.Takes v) :
    ∃ text, kind.text? v = some text :=
  Option.isSome_iff_exists.mp ((isSome_text?_iff kind v).mpr h)

theorem text?_eq_none {kind : ScalarKind} {v : Value} (h : ¬ kind.Takes v) :
    kind.text? v = none := by
  rwa [← isSome_text?_iff, Option.not_isSome_iff_eq_none] at h

end ScalarKind

end ApiCall
