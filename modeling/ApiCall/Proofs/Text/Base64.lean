import ApiCall.Proofs.Success
import ApiCall.Proofs.Text.Utf8
import ApiCall.Text.Base64
import Mathlib

/-!
Base64 is read back as it was written (`decode_encode`), and nothing else is read: a text that is
accepted is the one spelling of its bytes, padding and unused bits included (`eq_encode_of_decode`).
-/

namespace ApiCall

namespace Base64

/-- The code of the symbol of a number. -/
def symbolByte (n : Nat) : UInt8 :=
  UInt8.ofNat (symbol n).toNat

/-- The bytes of a base64 text. -/
def text (bytes : Bytes) : Bytes :=
  Utf8.encode (encode bytes)

theorem symbol_spec {n : Nat} (h : n < 64) :
    ((symbol n).isAlphanum = true ∨ symbol n = '+' ∨ symbol n = '/') ∧
      value? (symbolByte n) = some n := by
  have hall : ∀ n : Fin 64, ((symbol n).isAlphanum = true ∨ symbol n = '+' ∨ symbol n = '/') ∧
      value? (symbolByte n) = some n.val := by
    decide
  exact hall ⟨n, h⟩

/-- Every number is that of one byte only. -/
theorem value?_eq_some {b : UInt8} {n : Nat} (h : value? b = some n) :
    n < 64 ∧ b = symbolByte n := by
  have hn : n < 64 := by
    simp only [value?] at h
    split_ifs at h <;> simp only [Option.some.injEq] at h <;> omega
  have hsymbol := (symbol_spec hn).2
  refine ⟨hn, UInt8.toNat_inj.mp ?_⟩
  simp only [value?] at h hsymbol
  split_ifs at h <;> simp only [Option.some.injEq] at h <;>
    split_ifs at hsymbol <;> simp only [Option.some.injEq] at hsymbol <;> omega

theorem symbolByte_ne_pad {n : Nat} (h : n < 64) : symbolByte n ≠ 61 := by
  intro heq
  have hvalue := (symbol_spec h).2
  rw [heq] at hvalue
  cases hvalue

theorem valueAt_symbolByte {n : Nat} (h : n < 64) (offset : Nat) :
    valueAt offset (symbolByte n) = .ok n := by
  rw [valueAt, (symbol_spec h).2]

theorem valueAt_eq_ok {offset n : Nat} {b : UInt8} (h : valueAt offset b = .ok n) :
    n < 64 ∧ b = symbolByte n := by
  unfold valueAt at h
  split at h
  · rename_i m hvalue
    obtain rfl : m = n := Except.ok.inj h
    exact value?_eq_some hvalue
  · cases h

/-! ### The last group -/

theorem lastSymbols_symbolByte {n : Nat} (h : n < 64) (offset : Nat) (read : List Nat)
    (rest : Bytes) :
    lastSymbols offset read (symbolByte n :: rest) = lastSymbols offset (read ++ [n]) rest := by
  rw [lastSymbols]
  refine (if_neg (symbolByte_ne_pad h)).trans ?_
  rw [valueAt_symbolByte h]
  rfl

theorem lastSymbols_pads {numbers : List Nat} (h : 2 ≤ numbers.length) (offset count : Nat) :
    lastSymbols offset numbers (List.replicate count 61) = .ok (numbers, count) := by
  cases count with
  | zero => rfl
  | succ count =>
      rw [List.replicate_succ, lastSymbols]
      refine (if_pos rfl).trans ((if_neg (Nat.not_lt.mpr h)).trans ?_)
      have hall : ((List.replicate count (61 : UInt8)).all (· == 61)) = true := by
        rw [List.all_eq_true]
        intro b hb
        rw [List.eq_of_mem_replicate hb]
        rfl
      refine (if_pos hall).trans ?_
      rw [List.length_replicate]

/-- A group that is read is made of symbols and then of padding. -/
theorem lastSymbols_eq_ok {offset : Nat} {read numbers : List Nat} {padding : Nat} {group : Bytes}
    (h : lastSymbols offset read group = .ok (numbers, padding)) :
    ∃ more, numbers = read ++ more ∧ (∀ n ∈ more, n < 64) ∧
      group = more.map symbolByte ++ List.replicate padding 61 := by
  induction group generalizing read with
  | nil =>
      cases h
      exact ⟨[], by simp⟩
  | cons b rest ih =>
      rw [lastSymbols] at h
      split at h
      · rename_i hpad
        split at h
        · cases h
        split at h
        · rename_i hrest
          cases h
          refine ⟨[], by simp, by simp, ?_⟩
          have hall : ∀ c ∈ rest, c = 61 := by
            intro c hc
            exact beq_iff_eq.mp (List.all_eq_true.mp hrest c hc)
          rw [hpad, List.map_nil, List.nil_append, List.replicate_succ,
            ← List.eq_replicate_of_mem hall]
          rfl
        · cases h
      · obtain ⟨n, hn, hrest⟩ := bind_eq_ok.mp h
        obtain ⟨hlt, rfl⟩ := valueAt_eq_ok hn
        obtain ⟨more, rfl, hmore, rfl⟩ := ih hrest
        refine ⟨n :: more, by simp, ?_, by simp⟩
        exact List.forall_mem_cons.mpr ⟨hlt, hmore⟩

theorem lastSymbols_group {numbers : List Nat} (hlt : ∀ n ∈ numbers, n < 64)
    (hlength : 2 ≤ numbers.length) (offset padding : Nat) :
    lastSymbols offset [] (numbers.map symbolByte ++ List.replicate padding 61) =
      .ok (numbers, padding) := by
  have hread (read more : List Nat) (hmore : ∀ n ∈ more, n < 64) (rest : Bytes) :
      lastSymbols offset read (more.map symbolByte ++ rest) =
        lastSymbols offset (read ++ more) rest := by
    induction more generalizing read with
    | nil => simp
    | cons n more ih =>
        obtain ⟨hn, hrest⟩ := List.forall_mem_cons.mp hmore
        rw [List.map_cons, List.cons_append, lastSymbols_symbolByte hn, ih _ hrest,
          List.append_assoc, List.singleton_append]
  rw [hread [] numbers hlt, List.nil_append, lastSymbols_pads hlength]

/-- The bytes of a last group of two, three or four numbers, where the unused bits are zero. -/
def lastBytes? : List Nat → Option Bytes
  | [a, b] => if b % 16 = 0 then some [UInt8.ofNat (a * 4 + b / 16)] else none
  | [a, b, c] =>
    if c % 4 = 0 then some [UInt8.ofNat (a * 4 + b / 16), UInt8.ofNat (b * 16 + c / 4)] else none
  | [a, b, c, d] =>
    some [UInt8.ofNat (a * 4 + b / 16), UInt8.ofNat (b * 16 + c / 4), UInt8.ofNat (c * 64 + d)]
  | _ => none

theorem length_of_lastBytes? {numbers : List Nat} {bytes : Bytes}
    (h : lastBytes? numbers = some bytes) : 2 ≤ numbers.length ∧ numbers.length ≤ 4 := by
  unfold lastBytes? at h
  split at h
  · simp
  · simp
  · simp
  · cases h

/-- A last group is the symbols of its numbers, filled up to four. -/
theorem decodeLast_eq_ok_iff {offset : Nat} {group bytes : Bytes} (hgroup : group.length ≤ 4) :
    decodeLast offset group = .ok bytes ↔
      ∃ numbers, (∀ n ∈ numbers, n < 64) ∧ lastBytes? numbers = some bytes ∧
        group = numbers.map symbolByte ++ List.replicate (4 - numbers.length) 61 := by
  constructor
  · intro h
    unfold decodeLast at h
    obtain ⟨⟨numbers, padding⟩, hread, hrest⟩ := bind_eq_ok.mp h
    obtain ⟨more, hnumbers, hlt, rfl⟩ := lastSymbols_eq_ok hread
    obtain rfl : numbers = more := hnumbers
    simp only [List.length_append, List.length_map, List.length_replicate] at hgroup
    dsimp only at hrest
    obtain ⟨hcount, hrest⟩ := guard_eq_ok.mp hrest
    obtain ⟨hwhole, hrest⟩ := guard_eq_ok.mp hrest
    have hpadding : padding = 4 - numbers.length := by omega
    refine ⟨numbers, hlt, ?_, by rw [hpadding]⟩
    split at hrest
    · obtain ⟨hbits, hrest⟩ := guard_eq_ok.mp hrest
      rw [lastBytes?, if_pos (not_not.mp hbits)]
      exact congrArg some (Except.ok.inj hrest)
    · obtain ⟨hbits, hrest⟩ := guard_eq_ok.mp hrest
      rw [lastBytes?, if_pos (not_not.mp hbits)]
      exact congrArg some (Except.ok.inj hrest)
    · exact congrArg some (Except.ok.inj hrest)
    · cases hrest
  · rintro ⟨numbers, hlt, hbytes, rfl⟩
    obtain ⟨hlow, hhigh⟩ := length_of_lastBytes? hbytes
    have hread := lastSymbols_group hlt hlow offset (4 - numbers.length)
    unfold decodeLast
    refine bind_eq_ok.mpr ⟨_, hread, ?_⟩
    refine guard_eq_ok.mpr ⟨by omega, guard_eq_ok.mpr ⟨by omega, ?_⟩⟩
    unfold lastBytes? at hbytes
    split at hbytes
    · split at hbytes
      · rename_i hbits
        exact guard_eq_ok.mpr ⟨not_not.mpr hbits, congrArg Except.ok (Option.some.inj hbytes)⟩
      · cases hbytes
    · split at hbytes
      · rename_i hbits
        exact guard_eq_ok.mpr ⟨not_not.mpr hbits, congrArg Except.ok (Option.some.inj hbytes)⟩
      · cases hbytes
    · exact congrArg Except.ok (Option.some.inj hbytes)
    · cases hbytes

/-! ### All groups -/

theorem encode_symbol_cons {n : Nat} (h : n < 64) (cs : List Char) :
    Utf8.encode (symbol n :: cs) = symbolByte n :: Utf8.encode cs := by
  have hascii : (symbol n).toNat < 0x80 := by
    have hall : ∀ n : Fin 64, (symbol n).toNat < 0x80 := by decide
    exact hall ⟨n, h⟩
  rw [Utf8.encode, List.flatMap_cons, Utf8.encodeChar_of_lt hascii]
  rfl

/-- Four numbers are three bytes, whatever follows. -/
theorem text_append {a b c d : Nat} (ha : a < 64) (hb : b < 64) (hc : c < 64) (hd : d < 64)
    (rest : Bytes) :
    text (UInt8.ofNat (a * 4 + b / 16) :: UInt8.ofNat (b * 16 + c / 4) ::
        UInt8.ofNat (c * 64 + d) :: rest) =
      symbolByte a :: symbolByte b :: symbolByte c :: symbolByte d :: text rest := by
  have hsum : ((a * 4 + b / 16) % 2 ^ 8 * 256 + (b * 16 + c / 4) % 2 ^ 8) * 256 +
      (c * 64 + d) % 2 ^ 8 = ((a * 64 + b) * 64 + c) * 64 + d := by omega
  have hfirst : (((a * 64 + b) * 64 + c) * 64 + d) / 262144 = a := by omega
  have hsecond : (((a * 64 + b) * 64 + c) * 64 + d) / 4096 % 64 = b := by omega
  have hthird : (((a * 64 + b) * 64 + c) * 64 + d) / 64 % 64 = c := by omega
  have hfourth : (((a * 64 + b) * 64 + c) * 64 + d) % 64 = d := by omega
  simp only [text, encode, UInt8.toNat_ofNat', hsum, hfirst, hsecond, hthird, hfourth]
  rw [encode_symbol_cons ha, encode_symbol_cons hb, encode_symbol_cons hc, encode_symbol_cons hd]

/-- A last group is the text of its bytes. -/
theorem text_of_lastBytes? {numbers : List Nat} {bytes : Bytes} (hlt : ∀ n ∈ numbers, n < 64)
    (h : lastBytes? numbers = some bytes) :
    text bytes = numbers.map symbolByte ++ List.replicate (4 - numbers.length) 61 := by
  unfold lastBytes? at h
  split at h
  · rename_i a b
    split at h
    · rename_i hbits
      obtain rfl := Option.some.inj h
      have ha : a < 64 := hlt a (by simp)
      have hb : b < 64 := hlt b (by simp)
      have hfirst : (a * 4 + b / 16) % 2 ^ 8 * 16 / 64 = a := by omega
      have hsecond : (a * 4 + b / 16) % 2 ^ 8 * 16 % 64 = b := by omega
      simp only [text, encode, UInt8.toNat_ofNat', hfirst, hsecond]
      rw [encode_symbol_cons ha, encode_symbol_cons hb]
      rfl
    · cases h
  · rename_i a b c
    split at h
    · rename_i hbits
      obtain rfl := Option.some.inj h
      have ha : a < 64 := hlt a (by simp)
      have hb : b < 64 := hlt b (by simp)
      have hc : c < 64 := hlt c (by simp)
      have hsum : ((a * 4 + b / 16) % 2 ^ 8 * 256 + (b * 16 + c / 4) % 2 ^ 8) * 4 =
          (a * 64 + b) * 64 + c := by omega
      have hfirst : ((a * 64 + b) * 64 + c) / 4096 = a := by omega
      have hsecond : ((a * 64 + b) * 64 + c) / 64 % 64 = b := by omega
      have hthird : ((a * 64 + b) * 64 + c) % 64 = c := by omega
      simp only [text, encode, UInt8.toNat_ofNat', hsum, hfirst, hsecond, hthird]
      rw [encode_symbol_cons ha, encode_symbol_cons hb, encode_symbol_cons hc]
      rfl
    · cases h
  · rename_i a b c d
    obtain rfl := Option.some.inj h
    exact text_append (hlt a (by simp)) (hlt b (by simp)) (hlt c (by simp)) (hlt d (by simp)) []
  · cases h

theorem exists_numbers (x y z : UInt8) :
    ∃ a b c d, a < 64 ∧ b < 64 ∧ c < 64 ∧ d < 64 ∧ x = UInt8.ofNat (a * 4 + b / 16) ∧
      y = UInt8.ofNat (b * 16 + c / 4) ∧ z = UInt8.ofNat (c * 64 + d) := by
  have hx := x.toNat_lt
  have hy := y.toNat_lt
  have hz := z.toNat_lt
  refine ⟨x.toNat / 4, x.toNat % 4 * 16 + y.toNat / 16, y.toNat % 16 * 4 + z.toNat / 64,
    z.toNat % 64, by omega, by omega, by omega, by omega, ?_, ?_, ?_⟩
  all_goals
    apply UInt8.toNat_inj.mp
    rw [UInt8.toNat_ofNat']
    omega

/-- Up to three bytes are a last group. -/
theorem exists_lastBytes? {bytes : Bytes} (hne : bytes ≠ []) (hlength : bytes.length ≤ 3) :
    ∃ numbers, (∀ n ∈ numbers, n < 64) ∧ lastBytes? numbers = some bytes := by
  match bytes with
  | [x] =>
      obtain ⟨a, b, c, _, ha, hb, hc, _, rfl, hzero, _⟩ := exists_numbers x 0 0
      have hbits : b % 16 = 0 := by
        have hnat := congrArg UInt8.toNat hzero
        rw [UInt8.toNat_ofNat'] at hnat
        simp only [UInt8.reduceToNat] at hnat
        omega
      refine ⟨[a, b], by simp [ha, hb], ?_⟩
      rw [lastBytes?, if_pos hbits]
  | [x, y] =>
      obtain ⟨a, b, c, d, ha, hb, hc, hd, rfl, rfl, hzero⟩ := exists_numbers x y 0
      have hbits : c % 4 = 0 := by
        have hnat := congrArg UInt8.toNat hzero
        rw [UInt8.toNat_ofNat'] at hnat
        simp only [UInt8.reduceToNat] at hnat
        omega
      refine ⟨[a, b, c], by simp [ha, hb, hc], ?_⟩
      rw [lastBytes?, if_pos hbits]
  | [x, y, z] =>
      obtain ⟨a, b, c, d, ha, hb, hc, hd, rfl, rfl, rfl⟩ := exists_numbers x y z
      exact ⟨[a, b, c, d], by simp [ha, hb, hc, hd], rfl⟩

theorem decodeFrom_of_length_le {group : Bytes} (h : group.length ≤ 4) (offset : Nat) :
    decodeFrom offset group = decodeLast offset group := by
  rw [decodeFrom]
  rintro a b c d e rest rfl
  simp only [List.length_cons] at h
  omega

theorem decodeFrom_last {bytes : Bytes} (hne : bytes ≠ []) (hlength : bytes.length ≤ 3)
    (offset : Nat) : (text bytes).length = 4 ∧ decodeFrom offset (text bytes) = .ok bytes := by
  obtain ⟨numbers, hlt, hbytes⟩ := exists_lastBytes? hne hlength
  have htext := text_of_lastBytes? hlt hbytes
  have hgroup : (text bytes).length = 4 := by
    have hnumbers := length_of_lastBytes? hbytes
    simp only [htext, List.length_append, List.length_map, List.length_replicate]
    omega
  rw [decodeFrom_of_length_le hgroup.le, decodeLast_eq_ok_iff hgroup.le]
  exact ⟨hgroup, numbers, hlt, hbytes, htext⟩

theorem length_text (bytes : Bytes) : (text bytes).length = 4 * ((bytes.length + 2) / 3) := by
  induction bytes using encode.induct with
  | case1 => rfl
  | case2 a => simpa using (decodeFrom_last (List.cons_ne_nil a []) (by simp) 0).1
  | case3 a b => simpa using (decodeFrom_last (List.cons_ne_nil a [b]) (by simp) 0).1
  | case4 x y z rest ih =>
      obtain ⟨a, b, c, d, ha, hb, hc, hd, rfl, rfl, rfl⟩ := exists_numbers x y z
      rw [text_append ha hb hc hd]
      simp only [List.length_cons, ih]
      omega

theorem decodeFrom_text {bytes : Bytes} (hne : bytes ≠ []) (offset : Nat) :
    decodeFrom offset (text bytes) = .ok bytes := by
  induction bytes using encode.induct generalizing offset with
  | case1 => exact absurd rfl hne
  | case2 a => exact (decodeFrom_last hne (by simp) offset).2
  | case3 a b => exact (decodeFrom_last hne (by simp) offset).2
  | case4 x y z rest ih =>
      cases rest with
      | nil => exact (decodeFrom_last hne (by simp) offset).2
      | cons w rest =>
          obtain ⟨a, b, c, d, ha, hb, hc, hd, rfl, rfl, rfl⟩ := exists_numbers x y z
          have hrest := ih (List.cons_ne_nil w rest) (offset + 4)
          have hlength := length_text (w :: rest)
          rw [text_append ha hb hc hd]
          cases htext : text (w :: rest) with
          | nil =>
              rw [htext] at hlength
              simp only [List.length_nil, List.length_cons] at hlength
              omega
          | cons e more =>
              rw [htext] at hrest
              rw [decodeFrom, valueAt_symbolByte ha, valueAt_symbolByte hb, valueAt_symbolByte hc,
                valueAt_symbolByte hd, hrest]
              rfl

theorem eq_text_of_decodeFrom {offset : Nat} {s bytes : Bytes}
    (h : decodeFrom offset s = .ok bytes) : s = text bytes := by
  induction offset, s using decodeFrom.induct generalizing bytes with
  | case1 offset a b c d e rest ih =>
      rw [decodeFrom] at h
      obtain ⟨m, hm, h⟩ := bind_eq_ok.mp h
      obtain ⟨n, hn, h⟩ := bind_eq_ok.mp h
      obtain ⟨p, hp, h⟩ := bind_eq_ok.mp h
      obtain ⟨q, hq, h⟩ := bind_eq_ok.mp h
      obtain ⟨tail, htail, h⟩ := bind_eq_ok.mp h
      obtain rfl := Except.ok.inj h
      obtain ⟨hmlt, rfl⟩ := valueAt_eq_ok hm
      obtain ⟨hnlt, rfl⟩ := valueAt_eq_ok hn
      obtain ⟨hplt, rfl⟩ := valueAt_eq_ok hp
      obtain ⟨hqlt, rfl⟩ := valueAt_eq_ok hq
      rw [text_append hmlt hnlt hplt hqlt, ← ih htail]
  | case2 offset group hshort =>
      have hgroup : group.length ≤ 4 := by
        match group with
        | [] | [_] | [_, _] | [_, _, _] | [_, _, _, _] => simp
        | a :: b :: c :: d :: e :: rest => exact (hshort a b c d e rest rfl).elim
      rw [decodeFrom_of_length_le hgroup] at h
      obtain ⟨numbers, hlt, hbytes, hsymbols⟩ := (decodeLast_eq_ok_iff hgroup).mp h
      rw [hsymbols, text_of_lastBytes? hlt hbytes]

/-- The bytes of a text are read back from it. -/
theorem decode_encode (bytes : Bytes) : decode (Utf8.encode (encode bytes)) = .ok bytes := by
  have hlength := length_text bytes
  cases bytes with
  | nil => rfl
  | cons b rest =>
      have hread := decodeFrom_text (List.cons_ne_nil b rest) 0
      change decode (text (b :: rest)) = _
      have hwhole : ¬ (text (b :: rest)).length % 4 = 1 := by omega
      have hne : ¬ (text (b :: rest)).isEmpty = true := by
        rw [List.isEmpty_iff_length_eq_zero, hlength]
        simp only [List.length_cons]
        omega
      unfold decode
      rw [if_neg hwhole]
      exact (if_neg hne).trans hread

/-- A text that is read is the one that its bytes are written as. -/
theorem eq_encode_of_decode {s bytes : Bytes} (h : decode s = .ok bytes) :
    s = Utf8.encode (encode bytes) := by
  cases s with
  | nil =>
      cases h
      rfl
  | cons b rest =>
      have hread : decodeFrom 0 (b :: rest) = .ok bytes := by
        unfold decode at h
        simp only [List.isEmpty_cons, Bool.false_eq_true, if_false] at h
        split at h
        · split at h
          · obtain ⟨n, -, h⟩ := bind_eq_ok.mp h
            exact h
          · exact h
        · exact h
      exact eq_text_of_decodeFrom hread

/-- A text is written with letters, digits and three marks. -/
theorem mem_encode {bytes : Bytes} {c : Char} (h : c ∈ encode bytes) :
    c.isAlphanum = true ∨ c = '+' ∨ c = '/' ∨ c = '=' := by
  have hsymbol {n : Nat} (hn : n < 64) (hc : c = symbol n) :
      c.isAlphanum = true ∨ c = '+' ∨ c = '/' ∨ c = '=' := by
    rcases (symbol_spec hn).1 with halnum | hplus | hslash
    · exact Or.inl (hc ▸ halnum)
    · exact Or.inr (Or.inl (hc.trans hplus))
    · exact Or.inr (Or.inr (Or.inl (hc.trans hslash)))
  induction bytes using encode.induct with
  | case1 => cases h
  | case2 a =>
      have ha := a.toNat_lt
      simp only [encode, List.mem_cons, List.not_mem_nil, or_false] at h
      rcases h with hc | hc | hc | hc
      · exact hsymbol (by omega) hc
      · exact hsymbol (by omega) hc
      · exact Or.inr (Or.inr (Or.inr hc))
      · exact Or.inr (Or.inr (Or.inr hc))
  | case3 a b =>
      have ha := a.toNat_lt
      have hb := b.toNat_lt
      simp only [encode, List.mem_cons, List.not_mem_nil, or_false] at h
      rcases h with hc | hc | hc | hc
      · exact hsymbol (by omega) hc
      · exact hsymbol (by omega) hc
      · exact hsymbol (by omega) hc
      · exact Or.inr (Or.inr (Or.inr hc))
  | case4 x y z rest ih =>
      have hx := x.toNat_lt
      have hy := y.toNat_lt
      have hz := z.toNat_lt
      simp only [encode, List.mem_cons] at h
      rcases h with hc | hc | hc | hc | hrest
      · exact hsymbol (by omega) hc
      · exact hsymbol (by omega) hc
      · exact hsymbol (by omega) hc
      · exact hsymbol (by omega) hc
      · exact ih hrest

end Base64

end ApiCall
