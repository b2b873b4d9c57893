import ApiCall.Json.Writer
import ApiCall.Proofs.Json.Document
import Mathlib

/-!
What is written as JSON is one document (`isDocument_bytes`): strings with their escapes, integers
digit by digit, and containers without blanks. A value is read back as it was, if nothing of it is
lost on the way (`Value.IsExact`).
-/

namespace ApiCall

namespace Assoc

variable {α β : Type} [BEq α]

theorem ofList_concat (pairs : List (α × β)) (key : α) (value : β) :
    ofList (pairs ++ [(key, value)]) = insert key value (ofList pairs) := by
  rw [ofList, List.foldl_append]
  rfl

variable [LawfulBEq α]

theorem insert_of_not_mem {key : α} {value : β} {entries : List (α × β)}
    (h : key ∉ entries.map Prod.fst) : insert key value entries = entries ++ [(key, value)] := by
  induction entries with
  | nil => rfl
  | cons entry rest ih =>
      obtain ⟨k, v⟩ := entry
      rw [List.map_cons, List.mem_cons, not_or] at h
      rw [insert, if_neg fun hk => h.1 (eq_of_beq hk).symm, ih h.2]
      rfl

/-- A list that has each key once is a map as it stands. -/
theorem ofList_of_nodup {pairs : List (α × β)} (h : (pairs.map Prod.fst).Nodup) :
    ofList pairs = pairs := by
  induction pairs using List.reverseRecOn with
  | nil => rfl
  | append_singleton pairs pair ih =>
      obtain ⟨key, value⟩ := pair
      rw [List.map_append, List.nodup_append'] at h
      obtain ⟨hkeys, -, hnew⟩ := h
      rw [ofList_concat, ih hkeys]
      exact insert_of_not_mem fun hmem => hnew hmem List.mem_cons_self

end Assoc

namespace Json

/-- Every number is an integer of 64 bits, with or without a sign, and every object has each key
once. -/
inductive Value.IsExact : Value → Prop where
  | null : IsExact .null
  | bool (b : Bool) : IsExact (.bool b)
  | integer {i : Int} (hlow : -0x8000_0000_0000_0000 ≤ i) (hhigh : i < 0x1_0000_0000_0000_0000) :
      IsExact (.number (.integer i))
  | string (s : String) : IsExact (.string s)
  | array {items : List Value} (hitems : ∀ v ∈ items, IsExact v) : IsExact (.array items)
  | object {members : List (String × Value)} (hkeys : (members.map Prod.fst).Nodup)
      (hmembers : ∀ member ∈ members, IsExact member.2) : IsExact (.object members)

/-! ### Merging -/

theorem mergeItems_of_forall {items : List Value} (h : ∀ v ∈ items, v.merge = v) :
    mergeItems items = items := by
  induction items with
  | nil => rfl
  | cons v rest ih =>
      obtain ⟨hv, hrest⟩ := List.forall_mem_cons.mp h
      rw [mergeItems, hv, ih hrest]

theorem mergeMembers_of_forall {members : List (String × Value)}
    (h : ∀ member ∈ members, member.2.merge = member.2) : mergeMembers members = members := by
  induction members with
  | nil => rfl
  | cons member rest ih =>
      obtain ⟨hv, hrest⟩ := List.forall_mem_cons.mp h
      rw [mergeMembers, hv, ih hrest]

/-- Nothing is merged where no key is repeated. -/
theorem Value.IsExact.merge_eq {v : Value} (h : v.IsExact) : v.merge = v := by
  induction h with
  | array _ ih => rw [merge, mergeItems_of_forall ih]
  | object hkeys _ ih => rw [merge, mergeMembers_of_forall ih, Assoc.ofList_of_nodup hkeys]
  | _ => rfl

/-! ### Strings -/

/-- The code of the character that a whole escape stands for. -/
def escapeCode? : Bytes → Option Nat
  | [92, letter] => (simpleEscape? letter).map UInt8.toNat
  | [92, 117, a, b, c, d] => hex4? a b c d
  | _ => none

theorem content_escape {escape s text : Bytes} {c : Char}
    (hcode : escapeCode? escape = some c.toNat) (hascii : c.toNat < 0x80) (h : Content s text) :
    Content (escape ++ s) (Utf8.encodeChar c ++ text) := by
  unfold escapeCode? at hcode
  split at hcode
  · obtain ⟨b, hletter, hb⟩ := Option.map_eq_some_iff.mp hcode
    rw [Utf8.encodeChar_of_lt hascii, ← hb, UInt8.ofNat_toNat]
    exact .simple hletter h
  · have hunicode := Content.unicode hcode (fun hn => by have := hn.1; omega)
      (fun hn => by have := hn.1; omega) h
    rwa [Char.ofNat_toNat] at hunicode
  · cases hcode

theorem content_plain {bytes s text : Bytes} (hbytes : ∀ b ∈ bytes, b ≠ 34 ∧ b ≠ 92 ∧ ¬ b < 32)
    (h : Content s text) : Content (bytes ++ s) (bytes ++ text) := by
  induction bytes with
  | nil => exact h
  | cons b bytes ih =>
      obtain ⟨⟨hquote, hescape, hcontrol⟩, hrest⟩ := List.forall_mem_cons.mp hbytes
      exact .plain hquote hescape hcontrol (ih hrest)

/-- Controls, quotes and backslashes are written as escapes. -/
theorem escapeCode?_escapeChar {c : Char} (h : c.toNat < 32 ∨ c = '"' ∨ c = '\\') :
    escapeCode? (Utf8.encode (escapeChar c)) = some c.toNat := by
  rcases h with hcontrol | rfl | rfl
  · have hcontrols : ∀ n : Fin 32,
        escapeCode? (Utf8.encode (escapeChar (Char.ofNat n))) = some n.1 := by
      decide
    have hc := hcontrols ⟨c.toNat, hcontrol⟩
    rwa [Char.ofNat_toNat] at hc
  · decide
  · decide

/-- Every other character is written as it is. -/
theorem escapeChar_of_plain {c : Char} (hcontrol : ¬ c.toNat < 32) (hquote : c ≠ '"')
    (hescape : c ≠ '\\') : escapeChar c = [c] := by
  have hbreaks : c ≠ '\n' ∧ c ≠ '\r' ∧ c ≠ '\t' := by
    refine ⟨?_, ?_, ?_⟩ <;> rintro rfl <;> exact hcontrol (by decide)
  unfold escapeChar
  simp only [beq_iff_eq, hquote, hescape, hbreaks, if_false, if_neg hcontrol]
  rw [if_neg (by omega), if_neg (by omega)]

theorem plain_of_mem_encodeChar {c : Char} (hcontrol : ¬ c.toNat < 32) (hquote : c ≠ '"')
    (hescape : c ≠ '\\') {b : UInt8} (hb : b ∈ Utf8.encodeChar c) : b ≠ 34 ∧ b ≠ 92 ∧ ¬ b < 32 := by
  simp only [← UInt8.toNat_inj, UInt8.lt_iff_toNat_lt, ne_eq, UInt8.reduceToNat]
  by_cases hascii : c.toNat < 0x80
  · rw [Utf8.encodeChar_of_lt hascii, List.mem_singleton] at hb
    rw [hb, Utf8.toNat_ofNat_of_lt (by omega)]
    exact ⟨fun h => hquote (Char.toNat_inj.mp h), fun h => hescape (Char.toNat_inj.mp h), hcontrol⟩
  · have hlow := Utf8.le_of_mem_encodeChar hascii hb
    omega

theorem content_escapeChar (c : Char) {s text : Bytes} (h : Content s text) :
    Content (Utf8.encode (escapeChar c) ++ s) (Utf8.encodeChar c ++ text) := by
  by_cases hspecial : c.toNat < 32 ∨ c = '"' ∨ c = '\\'
  · have hascii : c.toNat < 0x80 := by
      rcases hspecial with hcontrol | rfl | rfl
      · omega
      · decide
      · decide
    exact content_escape (escapeCode?_escapeChar hspecial) hascii h
  · obtain ⟨hcontrol, hquote, hescape⟩ := by simpa only [not_or] using hspecial
    rw [escapeChar_of_plain hcontrol hquote hescape]
    have hone : Utf8.encode [c] = Utf8.encodeChar c := List.append_nil _
    rw [hone]
    exact content_plain (fun b hb => plain_of_mem_encodeChar hcontrol hquote hescape hb) h

theorem content_escapeChars (cs : List Char) :
    Content (Utf8.encode (cs.flatMap escapeChar)) (Utf8.encode cs) := by
  induction cs with
  | nil => exact .nil
  | cons c cs ih =>
      rw [List.flatMap_cons, Utf8.encode_append]
      exact content_escapeChar c ih

/-- A quoted string is a literal that stands for it. -/
theorem literal_quote (s : String) : Literal (Utf8.encode (quote s)) s := by
  have hquote : Utf8.encode (quote s) =
      34 :: (Utf8.encode (s.toList.flatMap escapeChar) ++ [34]) := by
    rw [quote, Utf8.encode_append]
    rfl
  rw [hquote]
  exact .mk (content_escapeChars s.toList) (stringOf?_bytesOf s)

/-! ### Integers -/

theorem encode_ofNat (n : Nat) :
    Utf8.encode (Decimal.ofNat n) =
      if n < 10 then [UInt8.ofNat (48 + n)]
      else Utf8.encode (Decimal.ofNat (n / 10)) ++ [UInt8.ofNat (48 + n % 10)] := by
  have hdigits : ∀ d : Fin 10, Utf8.encode [Decimal.digitChar d] = [UInt8.ofNat (48 + d)] := by
    decide
  rw [Decimal.ofNat]
  split
  · rename_i hsmall
    exact hdigits ⟨n, hsmall⟩
  · rw [Utf8.encode_append, hdigits ⟨n % 10, Nat.mod_lt n (by decide)⟩]

theorem isDigitByte_ofNat {d : Nat} (h : d < 10) : isDigitByte (UInt8.ofNat (48 + d)) = true := by
  rw [isDigitByte, Utf8.toNat_ofNat_of_lt (by omega), decide_eq_true_iff]
  omega

theorem isDigits_ofNat (n : Nat) : IsDigits (Utf8.encode (Decimal.ofNat n)) := by
  induction n using Decimal.ofNat.induct with
  | case1 n hsmall =>
      rw [encode_ofNat, if_pos hsmall]
      exact ⟨List.cons_ne_nil _ _, List.forall_mem_singleton.mpr (isDigitByte_ofNat hsmall)⟩
  | case2 n hlarge ih =>
      rw [encode_ofNat, if_neg hlarge]
      refine ⟨List.append_ne_nil_of_left_ne_nil ih.1 _, fun b hb => ?_⟩
      rcases List.mem_append.mp hb with hb | hb
      · exact ih.2 b hb
      · rw [List.mem_singleton.mp hb]
        exact isDigitByte_ofNat (Nat.mod_lt n (by decide))

theorem head?_ofNat {n : Nat} (h : n ≠ 0) : (Utf8.encode (Decimal.ofNat n)).head? ≠ some 48 := by
  induction n using Decimal.ofNat.induct with
  | case1 n hsmall =>
      rw [encode_ofNat, if_pos hsmall]
      intro hzero
      have hcode := congrArg UInt8.toNat (Option.some.inj hzero)
      rw [Utf8.toNat_ofNat_of_lt (by omega)] at hcode
      exact h (Nat.add_left_cancel hcode)
  | case2 n hlarge ih =>
      rw [encode_ofNat, if_neg hlarge, List.head?_append_of_ne_nil _ (isDigits_ofNat _).1]
      exact ih (by omega)

/-- The digits of a number have no leading zero. -/
theorem isWhole_ofNat (n : Nat) : IsWhole (Utf8.encode (Decimal.ofNat n)) := by
  refine ⟨isDigits_ofNat n, fun hzero => ?_⟩
  by_cases hn : n = 0
  · rw [hn, encode_ofNat]
    rfl
  · exact absurd hzero (head?_ofNat hn)

theorem takeDigits_append {start count n k : Nat} {digits : Bytes}
    (h : takeDigits start count digits = (n, k, false)) (more : Bytes) :
    takeDigits start count (digits ++ more) = takeDigits n k more := by
  induction digits generalizing start count with
  | nil =>
      rw [takeDigits] at h
      obtain ⟨rfl, hcount⟩ := Prod.mk.inj h
      rw [(Prod.mk.inj hcount).1]
      rfl
  | cons b digits ih =>
      rw [List.cons_append, takeDigits]
      rw [takeDigits] at h
      split at h
      · rename_i hfits
        rw [if_pos hfits]
        exact ih h
      · cases h

/-- A number of 64 bits is read from its digits, none of which is left over. -/
theorem takeDigits_ofNat {n : Nat} (h : n < 0x1_0000_0000_0000_0000) :
    ∃ count, takeDigits 0 0 (Utf8.encode (Decimal.ofNat n)) = (n, count, false) := by
  have hdigit (start count d : Nat) (hd : d < 10)
      (hfits : start * 10 + d < 0x1_0000_0000_0000_0000) :
      takeDigits start count [UInt8.ofNat (48 + d)] = (start * 10 + d, count + 1, false) := by
    rw [takeDigits, Utf8.toNat_ofNat_of_lt (by omega), Nat.add_sub_cancel_left]
    exact if_pos hfits
  induction n using Decimal.ofNat.induct with
  | case1 n hsmall =>
      rw [encode_ofNat, if_pos hsmall, hdigit 0 0 n hsmall (by omega)]
      exact ⟨1, by simp⟩
  | case2 n hlarge ih =>
      obtain ⟨count, hread⟩ := ih (by omega)
      have hsum : n / 10 * 10 + n % 10 = n := by omega
      rw [encode_ofNat, if_neg hlarge, takeDigits_append hread,
        hdigit _ count (n % 10) (Nat.mod_lt n (by decide)) (by omega), hsum]
      exact ⟨count + 1, rfl⟩

theorem numeral_ofNat (n : Nat) :
    Numeral (Utf8.encode (Decimal.ofNat n)) (Utf8.encode (Decimal.ofNat n)) [] none := by
  have hnumeral := Numeral.mk (isWhole_ofNat n) .none .none
  rwa [List.append_nil, List.append_nil] at hnumeral

theorem numberOf_ofNat (negative : Bool) {n : Nat} (h : n < 0x1_0000_0000_0000_0000) :
    numberOf negative (Utf8.encode (Decimal.ofNat n)) [] none = .ok (integerNumber negative n) := by
  obtain ⟨count, hread⟩ := takeDigits_ofNat h
  rw [numberOf_integer (by rw [hread]), hread]

/-- An integer of 64 bits is spelled by its sign and digits. -/
theorem spells_ofInt {i : Int} (hlow : -0x8000_0000_0000_0000 ≤ i)
    (hhigh : i < 0x1_0000_0000_0000_0000) :
    Spells (Utf8.encode (Decimal.ofInt i)) (.number (.integer i)) := by
  cases i with
  | ofNat n =>
      have hn : n < 0x1_0000_0000_0000_0000 := by
        rw [Int.ofNat_eq_natCast] at hhigh
        omega
      exact .number (numeral_ofNat n) (numberOf_ofNat false hn)
  | negSucc n =>
      have hn : n + 1 ≤ 0x8000_0000_0000_0000 := by omega
      have hnumber : integerNumber true (n + 1) = .integer (Int.negSucc n) := by
        rw [integerNumber, if_pos rfl]
        exact if_pos ⟨Nat.succ_pos n, hn⟩
      exact .negative (numeral_ofNat (n + 1)) (hnumber ▸ numberOf_ofNat true (by omega))

/-! ### Containers -/

theorem listing_last {α : Type} {P : Bytes → α → Prop} {close : UInt8} {text : Bytes} {x : α}
    (h : P text x) : Listing P close (text ++ [close]) [x] :=
  .last h blanks_nil

theorem listing_cons {α : Type} {P : Bytes → α → Prop} {close : UInt8} {text more : Bytes} {x : α}
    {xs : List α} (h : P text x) (hmore : Listing P close more xs) :
    Listing P close (text ++ 44 :: more) (x :: xs) :=
  .cons h blanks_nil blanks_nil hmore

/-- Items of an array are written with commas between them. -/
theorem listing_writeItems {items : List Value} (hne : items ≠ [])
    (h : ∀ v ∈ items, Spells v.bytes v) :
    Listing Spells 93 (Utf8.encode (writeItems items) ++ [93]) items := by
  induction items with
  | nil => exact absurd rfl hne
  | cons v rest ih =>
      obtain ⟨hv, hrest⟩ := List.forall_mem_cons.mp h
      cases rest with
      | nil => exact listing_last hv
      | cons w rest =>
          have hmore := listing_cons hv (ih (List.cons_ne_nil _ _) hrest)
          have hwritten : Utf8.encode (writeItems (v :: w :: rest)) =
              v.bytes ++ 44 :: Utf8.encode (writeItems (w :: rest)) := by
            rw [writeItems, Utf8.encode_append]
            · rfl
            · exact List.cons_ne_nil _ _
          rw [hwritten, List.append_assoc]
          exact hmore

theorem memberOf_write {key : String} {v : Value} (h : Spells v.bytes v) :
    MemberOf Spells (Utf8.encode (quote key ++ ':' :: v.write)) (key, v) := by
  rw [Utf8.encode_append]
  exact .mk (literal_quote key) blanks_nil blanks_nil h

/-- Members of an object are written with commas between them. -/
theorem listing_writeMembers {members : List (String × Value)} (hne : members ≠ [])
    (h : ∀ member ∈ members, Spells member.2.bytes member.2) :
    Listing (MemberOf Spells) 125 (Utf8.encode (writeMembers members) ++ [125]) members := by
  induction members with
  | nil => exact absurd rfl hne
  | cons member rest ih =>
      obtain ⟨key, v⟩ := member
      obtain ⟨hv, hrest⟩ := List.forall_mem_cons.mp h
      have hmember : MemberOf Spells (Utf8.encode (quote key ++ ':' :: v.write)) (key, v) :=
        memberOf_write hv
      cases rest with
      | nil => exact listing_last hmember
      | cons next rest =>
          have hmore := listing_cons hmember (ih (List.cons_ne_nil _ _) hrest)
          have hwritten : Utf8.encode (writeMembers ((key, v) :: next :: rest)) =
              Utf8.encode (quote key ++ ':' :: v.write) ++
                44 :: Utf8.encode (writeMembers (next :: rest)) := by
            rw [writeMembers, Utf8.encode_append]
            · rfl
            · exact List.cons_ne_nil _ _
          rw [hwritten, List.append_assoc]
          exact hmore

/-- The compact text of a value is a text of that value. -/
theorem Value.IsExact.spells_bytes {v : Value} (h : v.IsExact) : Spells v.bytes v := by
  induction h with
  | null => exact .null
  | bool b => cases b <;> constructor
  | integer hlow hhigh => exact spells_ofInt hlow hhigh
  | string s => exact .string (literal_quote s)
  | @array items _ ih =>
      have hbytes : (Value.array items).bytes = 91 :: (Utf8.encode (writeItems items) ++ [93]) := by
        rw [Value.bytes, write, Utf8.encode_append]
        rfl
      rw [hbytes]
      cases items with
      | nil => exact .emptyArray blanks_nil
      | cons v rest =>
          have harray := Spells.array blanks_nil (listing_writeItems (List.cons_ne_nil v rest) ih)
          exact harray
  | @object members _ _ ih =>
      have hbytes : (Value.object members).bytes =
          123 :: (Utf8.encode (writeMembers members) ++ [125]) := by
        rw [Value.bytes, write, Utf8.encode_append]
        rfl
      rw [hbytes]
      cases members with
      | nil => exact .emptyObject blanks_nil
      | cons member rest =>
          have hobject :=
            Spells.object blanks_nil (listing_writeMembers (List.cons_ne_nil member rest) ih)
          exact hobject

/-- The compact text of a value is a document of that value. -/
theorem isDocument_bytes {v : Value} (hexact : v.IsExact) (hdepth : v.depth ≤ depthLimit) :
    IsDocument v.bytes v :=
  ⟨[], v.bytes, [], v, by simp, blanks_nil, blanks_nil,
    ⟨hexact.spells_bytes, hdepth⟩, hexact.merge_eq⟩

end Json

end ApiCall
