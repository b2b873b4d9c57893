import ApiCall.Json.Reader
import ApiCall.Proofs.Success
import Mathlib

/-!
Numbers of JSON without their sign. A `Numeral` is a text that is made of digits, a fraction and an
exponent, `numberOf` is what these parts stand for, and the reader takes the longest numeral that it
finds (`numberRest_eq_ok_iff`).
-/

namespace ApiCall

namespace Json

/-- One or more digits. -/
def IsDigits (digits : Bytes) : Prop :=
  digits ≠ [] ∧ ∀ b ∈ digits, isDigitByte b = true

/-- Digits of which the first is no zero, unless it is the only one. -/
def IsWhole (digits : Bytes) : Prop :=
  IsDigits digits ∧ (digits.head? = some 48 → digits = [48])

/-- A fraction and its digits, which are none where there is no point. -/
inductive Fraction : Bytes → Bytes → Prop where
  | none : Fraction [] []
  | some {digits : Bytes} (hdigits : IsDigits digits) : Fraction (46 :: digits) digits

/-- The sign of an exponent, and whether it turns the exponent down. -/
inductive ExponentSign : Bytes → Bool → Prop where
  | none : ExponentSign [] false
  | plus : ExponentSign [43] false
  | minus : ExponentSign [45] true

/-- The letter before an exponent. -/
def isExponentMark (b : UInt8) : Bool :=
  b == 101 || b == 69

/-- An exponent with its direction and digits, if there is one. -/
inductive Exponent : Bytes → Option (Bool × Bytes) → Prop where
  | none : Exponent [] none
  | some {mark : UInt8} {sign digits : Bytes} {down : Bool} (hmark : isExponentMark mark = true)
      (hsign : ExponentSign sign down) (hdigits : IsDigits digits) :
      Exponent (mark :: (sign ++ digits)) (some (down, digits))

/-- A number without its sign: its text and its parts. -/
inductive Numeral : Bytes → Bytes → Bytes → Option (Bool × Bytes) → Prop where
  | mk {whole point fraction mark : Bytes} {exponent : Option (Bool × Bytes)}
      (hwhole : IsWhole whole) (hfraction : Fraction point fraction)
      (hexponent : Exponent mark exponent) :
      Numeral (whole ++ (point ++ mark)) whole fraction exponent

/-- A significand with a power of ten, to which the exponent is added. An exponent that fits into no
word decides on its own. -/
def scaledNumber (negative : Bool) (significand : Nat) (power : Int) :
    Option (Bool × Bytes) → Except Reason Number
  | none => realNumber negative significand power
  | some (down, digits) =>
    let n := digitsValue digits
    if n < 0x8000_0000 then
      realNumber negative significand (if down then power - n else power + n)
    else if significand ≠ 0 ∧ !down then .error .numberOutOfRange
    else .ok (.float (.zero negative))

/-- The number that the parts of a numeral stand for. Without fraction and exponent it is an
integer, unless its digits are too many. -/
def numberOf (negative : Bool) (whole fraction : Bytes) (exponent : Option (Bool × Bytes)) :
    Except Reason Number :=
  let (significand, count, long) := takeDigits 0 0 whole
  let power : Int := (whole.length - count : Nat)
  if fraction = [] ∧ exponent = none ∧ long = false then .ok (integerNumber negative significand)
  else
    let (significand, count, _) := takeDigits significand 0 fraction
    scaledNumber negative significand (power - count) exponent

/-- No longer number starts here: what follows is no digit, and a point or the mark of an exponent
only where the number has them already. -/
def NumberEnds (text rest : Bytes) : Prop :=
  nextIs isDigitByte rest = false ∧
    (nextIs isExponentMark rest = true → text.any isExponentMark = true) ∧
    (nextIs (· == 46) rest = true → text.any isExponentMark = true ∨ 46 ∈ text)

/-! ### Runs of bytes -/

theorem nextIs_dropWhile (p : UInt8 → Bool) (s : Bytes) : nextIs p (s.dropWhile p) = false := by
  cases hdrop : s.dropWhile p with
  | nil => rfl
  | cons b rest =>
      have hhead := List.head_dropWhile_not p (l := s) (by simp [hdrop])
      simpa [hdrop, nextIs] using hhead

/-- A run is cut off where the next byte is not of its class. -/
theorem span_run {p : UInt8 → Bool} {run rest : Bytes} (hrun : ∀ b ∈ run, p b = true)
    (hrest : nextIs p rest = false) :
    (run ++ rest).takeWhile p = run ∧ (run ++ rest).dropWhile p = rest := by
  have hend : rest.takeWhile p = [] ∧ rest.dropWhile p = rest := by
    cases rest with
    | nil => exact ⟨rfl, rfl⟩
    | cons b rest =>
        have hb : p b = false := hrest
        rw [List.takeWhile_cons, List.dropWhile_cons, hb]
        exact ⟨rfl, rfl⟩
  rw [List.takeWhile_append_of_pos hrun, List.dropWhile_append_of_pos hrun, hend.1, hend.2,
    List.append_nil]
  exact ⟨rfl, rfl⟩

theorem IsDigits.cons {digits : Bytes} (h : IsDigits digits) :
    ∃ b more, digits = b :: more ∧ isDigitByte b = true := by
  obtain ⟨hne, hall⟩ := h
  obtain ⟨b, more, rfl⟩ := List.exists_cons_of_ne_nil hne
  exact ⟨b, more, rfl, hall b List.mem_cons_self⟩

/-! ### From the exponent to the whole number -/

variable {negative : Bool} {significand : Nat} {power : Int} {n : Number} {s rest : Bytes}

/-- Splits off the sign of an exponent. -/
def splitExponentSign : Bytes → Bool × Bytes
  | 43 :: s => (false, s)
  | 45 :: s => (true, s)
  | s => (false, s)

theorem splitExponentSign_eq_iff {down : Bool} {digits : Bytes} (hdigits : IsDigits digits) :
    splitExponentSign s = (down, digits ++ rest) ↔
      ∃ sign, s = sign ++ (digits ++ rest) ∧ ExponentSign sign down := by
  constructor
  · intro h
    unfold splitExponentSign at h
    split at h
    · obtain ⟨rfl, rfl⟩ := Prod.mk.inj h
      exact ⟨[43], rfl, .plus⟩
    · obtain ⟨rfl, rfl⟩ := Prod.mk.inj h
      exact ⟨[45], rfl, .minus⟩
    · obtain ⟨rfl, rfl⟩ := Prod.mk.inj h
      exact ⟨[], rfl, .none⟩
  · rintro ⟨sign, rfl, hsign⟩
    obtain ⟨b, more, rfl, hb⟩ := hdigits.cons
    cases hsign with
    | none =>
        rw [List.nil_append, List.cons_append, splitExponentSign]
        · rintro tail hplus
          cases (List.cons.inj hplus).1
          cases hb
        · rintro tail hminus
          cases (List.cons.inj hminus).1
          cases hb
    | plus => rfl
    | minus => rfl

/-- The number of an exponent's digits, and what follows them. -/
def exponentDigits (negative : Bool) (significand : Nat) (power : Int) (down : Bool) (s : Bytes) :
    Except Reason (Number × Bytes) :=
  if nextIs isDigitByte s then
    (scaledNumber negative significand power (some (down, s.takeWhile isDigitByte))).map
      fun n => (n, s.dropWhile isDigitByte)
  else .error (if s = [] then .endInValue else .invalidNumber)

theorem exponentRest_eq (negative : Bool) (significand : Nat) (power : Int) (s : Bytes) :
    exponentRest negative significand power s =
      exponentDigits negative significand power (splitExponentSign s).1
        (splitExponentSign s).2 := by
  unfold exponentRest
  split
  rename_i down tail hsplit
  change splitExponentSign s = (down, tail) at hsplit
  rw [hsplit]
  cases tail with
  | nil => rfl
  | cons b tail =>
      unfold exponentDigits scaledNumber
      dsimp only [nextIs]
      split_ifs
      all_goals first | rfl | contradiction

theorem map_mk_eq_ok {x : Except Reason Number} {after : Bytes} :
    (x.map fun n => (n, after)) = .ok (n, rest) ↔ x = .ok n ∧ after = rest := by
  cases x <;> simp [Except.map]

/-- What is taken of a text that starts with a digit is a run of digits. -/
theorem digits_eq_iff {digits : Bytes} (hs : nextIs isDigitByte s = true) :
    s.takeWhile isDigitByte = digits ∧ s.dropWhile isDigitByte = rest ↔
      s = digits ++ rest ∧ IsDigits digits ∧ nextIs isDigitByte rest = false := by
  constructor
  · rintro ⟨rfl, rfl⟩
    refine ⟨(List.takeWhile_append_dropWhile).symm, ⟨?_, fun b hb => List.mem_takeWhile_imp hb⟩,
      nextIs_dropWhile isDigitByte s⟩
    cases s with
    | nil => cases hs
    | cons b tail =>
        have hb : isDigitByte b = true := hs
        rw [List.takeWhile_cons, if_pos hb]
        exact List.cons_ne_nil _ _
  · rintro ⟨rfl, hdigits, hrest⟩
    exact span_run hdigits.2 hrest

theorem exponentRest_eq_ok_iff :
    exponentRest negative significand power s = .ok (n, rest) ↔
      ∃ sign down digits, s = sign ++ (digits ++ rest) ∧ ExponentSign sign down ∧ IsDigits digits ∧
        nextIs isDigitByte rest = false ∧
        scaledNumber negative significand power (some (down, digits)) = .ok n := by
  rw [exponentRest_eq]
  unfold exponentDigits
  constructor
  · intro h
    split at h
    · rename_i hnext
      obtain ⟨hnumber, hafter⟩ := map_mk_eq_ok.mp h
      obtain ⟨hsplit, hdigits, hrest⟩ := (digits_eq_iff hnext).mp ⟨rfl, hafter⟩
      obtain ⟨sign, hs, hsign⟩ := (splitExponentSign_eq_iff hdigits).mp (Prod.ext rfl hsplit)
      exact ⟨sign, _, _, hs, hsign, hdigits, hrest, hnumber⟩
    · cases h
  · rintro ⟨sign, down, digits, hs, hsign, hdigits, hrest, hnumber⟩
    rw [(splitExponentSign_eq_iff hdigits).mpr ⟨sign, hs, hsign⟩]
    obtain ⟨htake, hdrop⟩ := span_run hdigits.2 hrest
    have hnext : nextIs isDigitByte (digits ++ rest) = true := by
      obtain ⟨b, more, rfl, hb⟩ := hdigits.cons
      exact hb
    dsimp only
    rw [if_pos hnext, htake, hdrop]
    exact map_mk_eq_ok.mpr ⟨hnumber, rfl⟩

theorem scaled_cons_mark {mark : UInt8} (hmark : isExponentMark mark = true) :
    scaled negative significand power (mark :: s) = exponentRest negative significand power s := by
  simp only [isExponentMark, Bool.or_eq_true, beq_iff_eq] at hmark
  rcases hmark with rfl | rfl <;> rfl

theorem scaled_of_not_mark (h : nextIs isExponentMark s = false) :
    scaled negative significand power s =
      (realNumber negative significand power).map fun n => (n, s) := by
  have hlast : (do
        let x ← realNumber negative significand power
        return (x, s) : Except Reason (Number × Bytes)) =
      (realNumber negative significand power).map fun n => (n, s) := by
    cases realNumber negative significand power <;> rfl
  rw [← hlast]
  unfold scaled
  split
  · cases h
  · cases h
  · rfl

/-- After the digits an exponent is read if there is one. -/
theorem scaled_eq_ok_iff (hs : nextIs isDigitByte s = false) :
    scaled negative significand power s = .ok (n, rest) ↔
      ∃ mark exponent, s = mark ++ rest ∧ Exponent mark exponent ∧
        scaledNumber negative significand power exponent = .ok n ∧
        nextIs isDigitByte rest = false ∧
        (exponent = none → nextIs isExponentMark rest = false) := by
  constructor
  · intro h
    cases hmark : nextIs isExponentMark s with
    | false =>
        rw [scaled_of_not_mark hmark] at h
        obtain ⟨hnumber, rfl⟩ := map_mk_eq_ok.mp h
        exact ⟨[], none, rfl, .none, hnumber, hs, fun _ => hmark⟩
    | true =>
        cases s with
        | nil => cases hmark
        | cons mark tail =>
            rw [scaled_cons_mark hmark] at h
            obtain ⟨sign, down, digits, rfl, hsign, hdigits, hrest, hnumber⟩ :=
              exponentRest_eq_ok_iff.mp h
            exact ⟨_, _, by simp, .some hmark hsign hdigits, hnumber, hrest,
              fun hnone => nomatch hnone⟩
  · rintro ⟨mark, exponent, rfl, hexponent, hnumber, hdigit, hnone⟩
    cases hexponent with
    | none =>
        rw [List.nil_append, scaled_of_not_mark (hnone rfl)]
        exact map_mk_eq_ok.mpr ⟨hnumber, rfl⟩
    | @some mark sign digits down hmark hsign hdigits =>
        rw [List.cons_append, scaled_cons_mark hmark, List.append_assoc]
        exact exponentRest_eq_ok_iff.mpr ⟨sign, down, digits, rfl, hsign, hdigits, hdigit, hnumber⟩

/-- What follows the digits starts with the mark of an exponent or, where there is none, with what
follows the number. -/
theorem nextIs_of_exponent {p : UInt8 → Bool} (hlower : p 101 = false) (hupper : p 69 = false)
    {mark : Bytes} {exponent : Option (Bool × Bytes)} (h : Exponent mark exponent)
    (hrest : exponent = none → nextIs p rest = false) : nextIs p (mark ++ rest) = false := by
  cases h with
  | none => exact hrest rfl
  | some hmark =>
      simp only [isExponentMark, Bool.or_eq_true, beq_iff_eq] at hmark
      rcases hmark with rfl | rfl
      · exact hlower
      · exact hupper

/-- After the point there are digits, and then perhaps an exponent. -/
theorem fractionRest_eq_ok_iff :
    fractionRest negative significand power s = .ok (n, rest) ↔
      ∃ digits mark exponent, s = digits ++ (mark ++ rest) ∧ IsDigits digits ∧
        Exponent mark exponent ∧
        scaledNumber negative (takeDigits significand 0 digits).1
          (power - (takeDigits significand 0 digits).2.1) exponent = .ok n ∧
        nextIs isDigitByte rest = false ∧
        (exponent = none → nextIs isExponentMark rest = false) := by
  unfold fractionRest
  constructor
  · intro h
    dsimp only at h
    split at h
    · cases h
    · rename_i hne
      have hafter := nextIs_dropWhile isDigitByte s
      obtain ⟨mark, exponent, hdrop, hexponent, hnumber, hends⟩ := (scaled_eq_ok_iff hafter).mp h
      refine ⟨_, mark, exponent, ?_, ⟨?_, fun b hb => List.mem_takeWhile_imp hb⟩, hexponent,
        hnumber, hends⟩
      · rw [← hdrop, List.takeWhile_append_dropWhile]
      · exact fun hnil => hne (List.isEmpty_iff.mpr hnil)
  · rintro ⟨digits, mark, exponent, rfl, hdigits, hexponent, hnumber, hends⟩
    have hafter := nextIs_of_exponent rfl rfl hexponent fun _ => hends.1
    obtain ⟨htake, hdrop⟩ := span_run hdigits.2 hafter
    have hne : ¬ digits.isEmpty = true := fun hempty => hdigits.1 (List.isEmpty_iff.mp hempty)
    simp only [htake, hdrop]
    rw [if_neg hne]
    exact (scaled_eq_ok_iff hafter).mpr ⟨mark, exponent, rfl, hexponent, hnumber, hends⟩

/-- What is read after the whole part of a number. -/
def afterWhole (negative : Bool) (whole s : Bytes) : Except Reason (Number × Bytes) :=
  let (significand, count, long) := takeDigits 0 0 whole
  let power : Int := (whole.length - count : Nat)
  match s with
  | 46 :: rest => fractionRest negative significand power rest
  | rest =>
    if long ∨ nextIs isExponentMark rest then scaled negative significand power rest
    else .ok (integerNumber negative significand, rest)

theorem numberRest_eq_ok_iff_whole :
    numberRest negative s = .ok (n, rest) ↔
      ∃ whole after, s = whole ++ after ∧ IsWhole whole ∧ nextIs isDigitByte after = false ∧
        afterWhole negative whole after = .ok (n, rest) := by
  constructor
  · intro h
    unfold numberRest at h
    cases s with
    | nil => cases h
    | cons b after =>
        dsimp only at h
        split at h
        · cases h
        split at h
        · cases h
        · rename_i hdigit hzero
          have hb : isDigitByte b = true := by simpa using hdigit
          refine ⟨(b :: after).takeWhile isDigitByte, (b :: after).dropWhile isDigitByte,
            (List.takeWhile_append_dropWhile).symm, ?_, nextIs_dropWhile _ _, h⟩
          obtain ⟨-, hdigits, -⟩ := (digits_eq_iff (s := b :: after) hb).mp ⟨rfl, rfl⟩
          refine ⟨hdigits, ?_⟩
          rw [List.takeWhile_cons, if_pos hb, List.head?_cons, Option.some.injEq]
          rintro rfl
          have hnext : nextIs isDigitByte after = false := by simpa using hzero
          have htake : after.takeWhile isDigitByte = [] :=
            (span_run (List.forall_mem_nil _) hnext).1
          rw [htake]
  · rintro ⟨whole, after, rfl, ⟨hdigits, hzero⟩, hafter, h⟩
    obtain ⟨htake, hdrop⟩ := span_run hdigits.2 hafter
    obtain ⟨b, more, rfl, hb⟩ := hdigits.cons
    have hleading : ¬ (b = 48 ∧ nextIs isDigitByte (more ++ after) = true) := by
      rintro ⟨rfl, hnext⟩
      obtain rfl : more = [] := (List.cons.inj (hzero rfl)).2
      rw [List.nil_append, hafter] at hnext
      cases hnext
    rw [List.cons_append] at htake hdrop ⊢
    unfold numberRest
    dsimp only
    rw [hb, htake, hdrop, if_neg (by simp), if_neg hleading]
    exact h

theorem afterWhole_point (whole : Bytes) :
    afterWhole negative whole (46 :: s) =
      fractionRest negative (takeDigits 0 0 whole).1
        ((whole.length - (takeDigits 0 0 whole).2.1 : Nat) : Int) s := rfl

theorem afterWhole_of_not_point {whole : Bytes} (h : nextIs (· == 46) s = false) :
    afterWhole negative whole s =
      if (takeDigits 0 0 whole).2.2 ∨ nextIs isExponentMark s then
        scaled negative (takeDigits 0 0 whole).1
          ((whole.length - (takeDigits 0 0 whole).2.1 : Nat) : Int) s
      else .ok (integerNumber negative (takeDigits 0 0 whole).1, s) := by
  unfold afterWhole
  dsimp only
  split
  · cases h
  · rfl

theorem numberOf_fraction {whole digits : Bytes} (hne : digits ≠ [])
    (exponent : Option (Bool × Bytes)) :
    numberOf negative whole digits exponent =
      scaledNumber negative (takeDigits (takeDigits 0 0 whole).1 0 digits).1
        (((whole.length - (takeDigits 0 0 whole).2.1 : Nat) : Int) -
          (takeDigits (takeDigits 0 0 whole).1 0 digits).2.1) exponent := by
  unfold numberOf
  exact if_neg fun h => hne h.1

theorem numberOf_integer {whole : Bytes} (hlong : (takeDigits 0 0 whole).2.2 = false) :
    numberOf negative whole [] none =
      .ok (integerNumber negative (takeDigits 0 0 whole).1) := by
  unfold numberOf
  exact if_pos ⟨rfl, rfl, hlong⟩

theorem numberOf_scaled {whole : Bytes} {exponent : Option (Bool × Bytes)}
    (h : exponent = none → (takeDigits 0 0 whole).2.2 = true) :
    numberOf negative whole [] exponent =
      scaledNumber negative (takeDigits 0 0 whole).1
        ((whole.length - (takeDigits 0 0 whole).2.1 : Nat) : Int) exponent := by
  unfold numberOf
  refine (if_neg ?_).trans ?_
  · rintro ⟨-, hnone, hlong⟩
    rw [h hnone] at hlong
    cases hlong
  · exact congrArg (scaledNumber negative _ · exponent) (Int.sub_zero _)

/-- What stands behind the whole part: a fraction, an exponent and then nothing that goes on with
the number. -/
theorem afterWhole_eq_ok_iff {whole : Bytes} (hs : nextIs isDigitByte s = false) :
    afterWhole negative whole s = .ok (n, rest) ↔
      ∃ point fraction mark exponent, s = point ++ (mark ++ rest) ∧ Fraction point fraction ∧
        Exponent mark exponent ∧ numberOf negative whole fraction exponent = .ok n ∧
        nextIs isDigitByte rest = false ∧
        (exponent = none → nextIs isExponentMark rest = false) ∧
        (exponent = none → fraction = [] → nextIs (· == 46) rest = false) := by
  constructor
  · intro h
    cases hpoint : nextIs (· == 46) s with
    | true =>
        cases s with
        | nil => cases hpoint
        | cons b tail =>
            obtain rfl : b = 46 := beq_iff_eq.mp hpoint
            rw [afterWhole_point] at h
            obtain ⟨digits, mark, exponent, rfl, hdigits, hexponent, hnumber, hdigit, hmark⟩ :=
              fractionRest_eq_ok_iff.mp h
            refine ⟨_, digits, mark, exponent, rfl, .some hdigits, hexponent, ?_, hdigit, hmark,
              fun _ hnil => absurd hnil hdigits.1⟩
            rw [numberOf_fraction hdigits.1, hnumber]
    | false =>
        rw [afterWhole_of_not_point hpoint] at h
        split at h
        · rename_i hscaled
          obtain ⟨mark, exponent, rfl, hexponent, hnumber, hdigit, hmark⟩ :=
            (scaled_eq_ok_iff hs).mp h
          refine ⟨[], [], mark, exponent, rfl, .none, hexponent, ?_, hdigit, hmark, ?_⟩
          · rw [numberOf_scaled, hnumber]
            rintro rfl
            cases hexponent
            rcases hscaled with hlong | hnext
            · exact hlong
            · rw [List.nil_append, hmark rfl] at hnext
              cases hnext
          · rintro rfl -
            cases hexponent
            exact hpoint
        · rename_i hplain
          rw [not_or, Bool.not_eq_true, Bool.not_eq_true] at hplain
          obtain ⟨rfl, rfl⟩ := Prod.mk.inj (Except.ok.inj h)
          exact ⟨[], [], [], none, rfl, .none, .none, numberOf_integer hplain.1, hs,
            fun _ => hplain.2, fun _ _ => hpoint⟩
  · rintro ⟨point, fraction, mark, exponent, rfl, hfraction, hexponent, hnumber, hdigit, hmark,
      hpoint⟩
    cases hfraction with
    | some hdigits =>
        rw [numberOf_fraction hdigits.1] at hnumber
        rw [List.cons_append, afterWhole_point]
        exact fractionRest_eq_ok_iff.mpr
          ⟨_, mark, exponent, rfl, hdigits, hexponent, hnumber, hdigit, hmark⟩
    | none =>
        rw [List.nil_append] at hs ⊢
        rw [afterWhole_of_not_point
          (nextIs_of_exponent rfl rfl hexponent fun hnone => hpoint hnone rfl)]
        by_cases hplain : exponent = none ∧ (takeDigits 0 0 whole).2.2 = false
        · obtain ⟨rfl, hlong⟩ := hplain
          cases hexponent
          have hmark := hmark rfl
          rw [numberOf_integer hlong] at hnumber
          obtain rfl := Except.ok.inj hnumber
          rw [List.nil_append, hlong, hmark]
          rfl
        · have hlong : exponent = none → (takeDigits 0 0 whole).2.2 = true := by
            intro hnone
            by_contra hfalse
            exact hplain ⟨hnone, Bool.not_eq_true _ ▸ hfalse⟩
          rw [numberOf_scaled hlong] at hnumber
          have hscaled : (takeDigits 0 0 whole).2.2 = true ∨
              nextIs isExponentMark (mark ++ rest) = true := by
            cases hexponent with
            | none => exact Or.inl (hlong rfl)
            | some hfirst => exact Or.inr hfirst
          rw [if_pos hscaled]
          exact (scaled_eq_ok_iff hs).mpr
            ⟨mark, exponent, rfl, hexponent, hnumber, hdigit, hmark⟩

/-! ### The longest numeral -/

theorem not_mark_of_digits {digits : Bytes} (h : IsDigits digits) :
    digits.any isExponentMark = false ∧ 46 ∉ digits := by
  constructor
  · rw [List.any_eq_false]
    intro b hb hmark
    have hdigit := h.2 b hb
    simp only [isExponentMark, Bool.or_eq_true, beq_iff_eq] at hmark
    rcases hmark with rfl | rfl <;> cases hdigit
  · intro hpoint
    cases h.2 46 hpoint

theorem shows_of_exponent {mark : Bytes} {exponent : Option (Bool × Bytes)}
    (h : Exponent mark exponent) :
    46 ∉ mark ∧ (mark.any isExponentMark = true ↔ exponent ≠ none) := by
  cases h with
  | none => simp
  | @some letter sign digits down hletter hsign hdigits =>
      have hsignPoint : 46 ∉ sign := by
        cases hsign <;> decide
      have hne : 46 ≠ letter := by
        rintro rfl
        cases hletter
      refine ⟨?_, iff_of_true ?_ (Option.some_ne_none _)⟩
      · simp only [List.mem_cons, List.mem_append, hsignPoint, (not_mark_of_digits hdigits).2, hne,
          or_self, not_false_eq_true]
      · rw [List.any_cons, hletter, Bool.true_or]

/-- The text of a numeral shows whether it has an exponent or a fraction. -/
theorem Numeral.shows {text whole fraction : Bytes} {exponent : Option (Bool × Bytes)}
    (h : Numeral text whole fraction exponent) :
    (text.any isExponentMark = true ↔ exponent ≠ none) ∧ (46 ∈ text ↔ fraction ≠ []) := by
  obtain ⟨⟨hwhole, -⟩, hfraction, hexponent⟩ := h
  obtain ⟨hwholeMark, hwholePoint⟩ := not_mark_of_digits hwhole
  simp only [List.any_append, List.mem_append, hwholeMark, hwholePoint, Bool.false_or, false_or]
  obtain ⟨hnoPoint, hmark⟩ := shows_of_exponent hexponent
  cases hfraction with
  | none => exact ⟨by simpa using hmark, by simpa using hnoPoint⟩
  | some hdigits =>
      obtain ⟨hdigitsMark, -⟩ := not_mark_of_digits hdigits
      have hpoint : (46 :: fraction).any isExponentMark = false := by
        rw [List.any_cons, hdigitsMark]
        rfl
      rw [hpoint, Bool.false_or]
      exact ⟨hmark, iff_of_true (Or.inl List.mem_cons_self) hdigits.1⟩

theorem Numeral.ends_iff {text whole fraction : Bytes} {exponent : Option (Bool × Bytes)}
    (h : Numeral text whole fraction exponent) :
    NumberEnds text rest ↔ nextIs isDigitByte rest = false ∧
      (exponent = none → nextIs isExponentMark rest = false) ∧
      (exponent = none → fraction = [] → nextIs (· == 46) rest = false) := by
  unfold NumberEnds
  rw [h.shows.1, h.shows.2]
  simp only [← Bool.not_eq_true]
  tauto

/-- The reader takes the longest numeral at the front of a text. -/
theorem numberRest_eq_ok_iff :
    numberRest negative s = .ok (n, rest) ↔
      ∃ text whole fraction exponent, s = text ++ rest ∧ Numeral text whole fraction exponent ∧
        numberOf negative whole fraction exponent = .ok n ∧ NumberEnds text rest := by
  rw [numberRest_eq_ok_iff_whole]
  constructor
  · rintro ⟨whole, after, rfl, hwhole, hafter, h⟩
    obtain ⟨point, fraction, mark, exponent, rfl, hfraction, hexponent, hnumber, hends⟩ :=
      (afterWhole_eq_ok_iff hafter).mp h
    have hnumeral := Numeral.mk hwhole hfraction hexponent
    refine ⟨_, whole, fraction, exponent, ?_, hnumeral, hnumber, hnumeral.ends_iff.mpr hends⟩
    simp only [List.append_assoc]
  · rintro ⟨_, whole, fraction, exponent, rfl, hnumeral, hnumber, hends⟩
    have hclosed := hnumeral.ends_iff.mp hends
    obtain ⟨hwhole, hfraction, hexponent⟩ := hnumeral
    rename_i point mark
    have hmark := nextIs_of_exponent rfl rfl hexponent fun _ => hclosed.1
    have hafter : nextIs isDigitByte (point ++ (mark ++ rest)) = false := by
      cases hfraction with
      | none => exact hmark
      | some hdigits => rfl
    refine ⟨whole, point ++ (mark ++ rest), by simp only [List.append_assoc], hwhole, hafter, ?_⟩
    exact (afterWhole_eq_ok_iff hafter).mpr
      ⟨point, fraction, mark, exponent, rfl, hfraction, hexponent, hnumber, hclosed⟩

end Json

end ApiCall
