import ApiCall.Decimal.Integer
import ApiCall.Proofs.Text.MediaType
import Mathlib

/-!
Integers in decimal. `SpellsInt` says which texts spell an integer, and which one, without a reader:
digits with at most one sign before them. The reader takes exactly the spellings of the integers of
64 bits (`int64?_eq_some_iff`), and each integer is written as one of its spellings
(`spellsInt_ofInt`).
-/

namespace ApiCall

namespace Decimal

/-- The integer has 64 bits, one of which is its sign. -/
def IsInt64 (i : Int) : Prop :=
  -0x8000_0000_0000_0000 ≤ i ∧ i < 0x8000_0000_0000_0000

instance (i : Int) : Decidable (IsInt64 i) :=
  inferInstanceAs (Decidable (_ ∧ _))

/-- One or more digits. -/
def IsDigits (cs : List Char) : Prop :=
  cs ≠ [] ∧ ∀ c ∈ cs, c.isDigit = true

/-- The number that digits stand for in base ten. -/
def inBaseTen (cs : List Char) : Nat :=
  Nat.ofDigits 10 (cs.reverse.map fun c => c.toNat - '0'.toNat)

/-- What may stand before the digits, and whether it is a minus. -/
inductive Sign : List Char → Bool → Prop where
  | none : Sign [] false
  | plus : Sign ['+'] false
  | minus : Sign ['-'] true

/-- The number or its negative. -/
def signed (negative : Bool) (n : Nat) : Int :=
  if negative then -(n : Int) else n

/-- A text of digits with at most one sign before them, and the integer it stands for. -/
inductive SpellsInt : List Char → Int → Prop where
  | mk {sign digits : List Char} {negative : Bool} (hsign : Sign sign negative)
      (hdigits : IsDigits digits) :
      SpellsInt (sign ++ digits) (signed negative (inBaseTen digits))

/-! ### Digits -/

theorem isDigit_iff_range {c : Char} : c.isDigit = true ↔ 48 ≤ c.toNat ∧ c.toNat ≤ 57 := by
  simp only [Char.isDigit, Bool.and_eq_true, decide_eq_true_eq, ge_iff_le,
    UInt32.le_iff_toNat_le]
  rfl

theorem digitChar_spec {n : Nat} (h : n < 10) :
    (digitChar n).isDigit = true ∧ (digitChar n).toNat - '0'.toNat = n ∧
      Blank.isBlank (digitChar n) = false ∧ digitChar n ≠ '-' ∧ digitChar n ≠ '+' := by
  have hall : ∀ n : Fin 10, (digitChar n).isDigit = true ∧
      (digitChar n).toNat - '0'.toNat = n ∧ Blank.isBlank (digitChar n) = false ∧
      digitChar n ≠ '-' ∧ digitChar n ≠ '+' := by
    decide
  exact hall ⟨n, h⟩

theorem digit?_eq_some_iff {c : Char} {d : Nat} :
    digit? c = some d ↔ c.isDigit = true ∧ d = c.toNat - '0'.toNat := by
  rw [digit?, Option.ite_none_right_eq_some, isDigit_iff_range, Option.some.injEq]
  exact and_congr_right fun _ => eq_comm

theorem isDigit_iff {c : Char} : isDigit c = true ↔ c.isDigit = true := by
  simp [isDigit, Option.isSome_iff_exists, digit?_eq_some_iff]

theorem inBaseTen_cons (c : Char) (cs : List Char) :
    inBaseTen (c :: cs) = (c.toNat - '0'.toNat) * 10 ^ cs.length + inBaseTen cs := by
  rw [inBaseTen, List.reverse_cons, List.map_append, Nat.ofDigits_append, List.length_map,
    List.length_reverse, List.map_singleton, Nat.ofDigits_singleton, mul_comm, add_comm]
  rfl

theorem valueFrom?_eq_some_iff {start n : Nat} {cs : List Char} :
    valueFrom? start cs = some n ↔
      (∀ c ∈ cs, c.isDigit = true) ∧ n = start * 10 ^ cs.length + inBaseTen cs := by
  induction cs generalizing start with
  | nil => simpa [valueFrom?, inBaseTen] using eq_comm
  | cons c cs ih =>
      rw [valueFrom?, Option.bind_eq_bind, Option.bind_eq_some_iff, List.forall_mem_cons,
        inBaseTen_cons, List.length_cons]
      constructor
      · rintro ⟨d, hd, hrest⟩
        obtain ⟨hc, rfl⟩ := digit?_eq_some_iff.mp hd
        obtain ⟨hcs, rfl⟩ := ih.mp hrest
        exact ⟨⟨hc, hcs⟩, by ring⟩
      · rintro ⟨⟨hc, hcs⟩, rfl⟩
        exact ⟨_, digit?_eq_some_iff.mpr ⟨hc, rfl⟩, ih.mpr ⟨hcs, by ring⟩⟩

theorem value?_eq_some_iff {cs : List Char} {n : Nat} :
    value? cs = some n ↔ IsDigits cs ∧ n = inBaseTen cs := by
  cases cs with
  | nil => exact iff_of_false (fun h => nomatch h) fun h => h.1.1 rfl
  | cons c cs =>
      change valueFrom? 0 (c :: cs) = some n ↔ _
      rw [valueFrom?_eq_some_iff, zero_mul, zero_add]
      exact and_congr_left fun _ => ⟨fun hall => ⟨List.cons_ne_nil c cs, hall⟩, And.right⟩

theorem isDigit_spec {c : Char} (h : c.isDigit = true) :
    Blank.isBlank c = false ∧ c ≠ '-' ∧ c ≠ '+' := by
  obtain ⟨n, hn, rfl⟩ : ∃ n < 10, c = digitChar n := by
    have hrange := isDigit_iff_range.mp h
    refine ⟨c.toNat - 48, by omega, ?_⟩
    rw [digitChar, show 48 + (c.toNat - 48) = c.toNat by omega, Char.ofNat_toNat]
  exact (digitChar_spec hn).2.2

/-! ### Signs -/

/-- The text after its sign. -/
theorem exists_sign (cs : List Char) :
    ∃ sign, Sign sign (splitSign cs).1 ∧ cs = sign ++ (splitSign cs).2 := by
  unfold splitSign
  split
  · exact ⟨['-'], .minus, rfl⟩
  · exact ⟨['+'], .plus, rfl⟩
  · exact ⟨[], .none, rfl⟩

/-- Where no second sign follows, the first one is split off. -/
theorem splitSign_append {sign rest : List Char} {negative : Bool} (hsign : Sign sign negative)
    (hminus : rest.head? ≠ some '-') (hplus : rest.head? ≠ some '+') :
    splitSign (sign ++ rest) = (negative, rest) := by
  cases hsign with
  | none =>
      rw [List.nil_append]
      unfold splitSign
      split
      · exact absurd rfl hminus
      · exact absurd rfl hplus
      · rfl
  | plus => rfl
  | minus => rfl

theorem splitSign_digits {sign digits : List Char} {negative : Bool} (hsign : Sign sign negative)
    (hdigits : ∀ c ∈ digits, c.isDigit = true) :
    splitSign (sign ++ digits) = (negative, digits) := by
  refine splitSign_append hsign ?_ ?_
  · intro hhead
    exact (isDigit_spec (hdigits _ (List.mem_of_mem_head? hhead))).2.1 rfl
  · intro hhead
    exact (isDigit_spec (hdigits _ (List.mem_of_mem_head? hhead))).2.2 rfl

theorem spellsInt_iff {cs : List Char} {i : Int} :
    SpellsInt cs i ↔
      ∃ n, value? (splitSign cs).2 = some n ∧ i = signed (splitSign cs).1 n := by
  constructor
  · rintro ⟨hsign, hdigits⟩
    rw [splitSign_digits hsign hdigits.2]
    exact ⟨_, value?_eq_some_iff.mpr ⟨hdigits, rfl⟩, rfl⟩
  · rintro ⟨n, hn, rfl⟩
    obtain ⟨sign, hsign, hcs⟩ := exists_sign cs
    obtain ⟨hdigits, rfl⟩ := value?_eq_some_iff.mp hn
    nth_rewrite 1 [hcs]
    exact .mk hsign hdigits

/-- The reader takes the spellings of the integers of 64 bits and nothing else. -/
theorem int64?_eq_some_iff {cs : List Char} {i : Int} :
    int64? cs = some i ↔ IsInt64 i ∧ SpellsInt cs i := by
  unfold int64?
  rw [spellsInt_iff, Option.bind_eq_bind, Option.bind_eq_some_iff]
  constructor
  · rintro ⟨n, hn, h⟩
    obtain ⟨hrange, hi⟩ := Option.ite_none_right_eq_some.mp h
    obtain rfl := Option.some.inj hi
    exact ⟨hrange, n, hn, rfl⟩
  · rintro ⟨hrange, n, hn, rfl⟩
    exact ⟨n, hn, if_pos hrange⟩

theorem Sign.not_blank {sign : List Char} {negative : Bool} (h : Sign sign negative) :
    ∀ c ∈ sign, Blank.isBlank c = false := by
  cases h with
  | none => exact fun c hc => absurd hc List.not_mem_nil
  | plus => exact List.forall_mem_singleton.mpr rfl
  | minus => exact List.forall_mem_singleton.mpr rfl

theorem SpellsInt.not_blank {cs : List Char} {i : Int} (h : SpellsInt cs i) :
    ∀ c ∈ cs, Blank.isBlank c = false := by
  obtain ⟨hsign, hdigits⟩ := h
  rw [List.forall_mem_append]
  exact ⟨hsign.not_blank, fun c hc => (isDigit_spec (hdigits.2 c hc)).1⟩

/-! ### Written integers -/

theorem isDigits_ofNat (n : Nat) : IsDigits (ofNat n) := by
  induction n using ofNat.induct with
  | case1 n hsmall =>
      rw [ofNat, if_pos hsmall]
      exact ⟨List.cons_ne_nil _ _, by simpa using (digitChar_spec hsmall).1⟩
  | case2 n hlarge ih =>
      have hlast := (digitChar_spec (Nat.mod_lt n (by decide : 10 > 0))).1
      rw [ofNat, if_neg hlarge]
      refine ⟨List.append_ne_nil_of_right_ne_nil _ (List.cons_ne_nil _ _), ?_⟩
      rw [List.forall_mem_append, List.forall_mem_singleton]
      exact ⟨ih.2, hlast⟩

theorem inBaseTen_append_digitChar (cs : List Char) {d : Nat} (h : d < 10) :
    inBaseTen (cs ++ [digitChar d]) = 10 * inBaseTen cs + d := by
  rw [inBaseTen, List.reverse_append, List.reverse_singleton, List.singleton_append,
    List.map_cons, Nat.ofDigits_cons, (digitChar_spec h).2.1, add_comm]
  rfl

theorem inBaseTen_ofNat (n : Nat) : inBaseTen (ofNat n) = n := by
  induction n using ofNat.induct with
  | case1 n hsmall =>
      rw [ofNat, if_pos hsmall]
      exact (inBaseTen_append_digitChar [] hsmall).trans (Nat.zero_add n)
  | case2 n hlarge ih =>
      rw [ofNat, if_neg hlarge, inBaseTen_append_digitChar _ (Nat.mod_lt n (by decide)), ih,
        Nat.div_add_mod]

theorem spellsInt_ofInt (i : Int) : SpellsInt (ofInt i) i := by
  cases i with
  | ofNat n =>
      have h := SpellsInt.mk .none (isDigits_ofNat n)
      rwa [inBaseTen_ofNat] at h
  | negSucc n =>
      have h := SpellsInt.mk .minus (isDigits_ofNat (n + 1))
      rwa [inBaseTen_ofNat] at h

theorem SpellsInt.unique {cs : List Char} {i j : Int} (hi : SpellsInt cs i) (hj : SpellsInt cs j) :
    i = j := by
  obtain ⟨n, hn, rfl⟩ := spellsInt_iff.mp hi
  obtain ⟨m, hm, rfl⟩ := spellsInt_iff.mp hj
  rw [Option.some.inj (hn.symm.trans hm)]

/-- The spelling of an integer is read as this integer, if it has 64 bits with a sign. -/
theorem int64?_ofInt (i : Int) : int64? (ofInt i) = if IsInt64 i then some i else none := by
  split
  · rename_i hrange
    exact int64?_eq_some_iff.mpr ⟨hrange, spellsInt_ofInt i⟩
  · rename_i hrange
    rw [Option.eq_none_iff_forall_ne_some]
    intro j hj
    obtain ⟨hin, hspells⟩ := int64?_eq_some_iff.mp hj
    exact hrange (hspells.unique (spellsInt_ofInt i) ▸ hin)

theorem trim_ofInt (i : Int) : Blank.trim (ofInt i) = ofInt i :=
  Blank.trim_of_not_blank (spellsInt_ofInt i).not_blank

end Decimal

end ApiCall
