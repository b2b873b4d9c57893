import ApiCall.Json.Reader
import ApiCall.Proofs.Success
import ApiCall.Proofs.Text.Utf8
import Mathlib

/-!
String literals of JSON. `Content` is their grammar, escape by escape, and the reader takes exactly
the literals of this grammar (`stringRest_eq_ok_iff`).
-/

namespace ApiCall

namespace Json

/-- The first and the second half of a pair that stands for one character. -/
def IsLeading (n : Nat) : Prop := 0xD800 ≤ n ∧ n ≤ 0xDBFF

def IsTrailing (n : Nat) : Prop := 0xDC00 ≤ n ∧ n ≤ 0xDFFF

/-- What stands between the quotes of a literal, and the bytes that it stands for: bytes that need
no escape, one-letter escapes, escaped characters and escaped pairs. -/
inductive Content : Bytes → Bytes → Prop where
  | nil : Content [] []
  | plain {b : UInt8} {s text : Bytes} (hquote : b ≠ 34) (hescape : b ≠ 92) (hcontrol : ¬ b < 32)
      (hrest : Content s text) : Content (b :: s) (b :: text)
  | simple {letter b : UInt8} {s text : Bytes} (hletter : simpleEscape? letter = some b)
      (hrest : Content s text) : Content (92 :: letter :: s) (b :: text)
  | unicode {a b c d : UInt8} {n : Nat} {s text : Bytes} (hcode : hex4? a b c d = some n)
      (hleading : ¬ IsLeading n) (htrailing : ¬ IsTrailing n) (hrest : Content s text) :
      Content (92 :: 117 :: a :: b :: c :: d :: s) (Utf8.encodeChar (Char.ofNat n) ++ text)
  | pair {a b c d e f g h : UInt8} {m n : Nat} {s text : Bytes} (hfirst : hex4? a b c d = some m)
      (hleading : IsLeading m) (hsecond : hex4? e f g h = some n) (htrailing : IsTrailing n)
      (hrest : Content s text) :
      Content (92 :: 117 :: a :: b :: c :: d :: 92 :: 117 :: e :: f :: g :: h :: s)
        (Utf8.encodeChar (Char.ofNat (0x10000 + (m - 0xD800) * 1024 + (n - 0xDC00))) ++ text)

/-- What is read up to a quote is a content. -/
theorem content_of_stringBytes {s text rest : Bytes} (h : stringBytes s = .ok (text, rest)) :
    ∃ content, s = content ++ 34 :: rest ∧ Content content text := by
  fun_induction stringBytes s generalizing text rest with
  | case8 a b c d m hfirst _ hleading e f g i tail n hsecond htrailing code =>
      rename_i ih
      obtain ⟨⟨following, _⟩, hread, hlast⟩ := bind_eq_ok.mp h
      obtain ⟨rfl, rfl⟩ := Prod.mk.inj (Except.ok.inj hlast)
      obtain ⟨content, rfl, hcontent⟩ := ih hread
      exact ⟨_, rfl, .pair hfirst hleading hsecond htrailing hcontent⟩
  | case12 a b c d tail n hcode htrailing hleading ih =>
      obtain ⟨⟨following, _⟩, hread, hlast⟩ := bind_eq_ok.mp h
      obtain ⟨rfl, rfl⟩ := Prod.mk.inj (Except.ok.inj hlast)
      obtain ⟨content, rfl, hcontent⟩ := ih hread
      exact ⟨_, rfl, .unicode hcode hleading htrailing hcontent⟩
  | case15 letter tail _ _ b hletter ih =>
      obtain ⟨⟨following, _⟩, hread, hlast⟩ := bind_eq_ok.mp h
      obtain ⟨rfl, rfl⟩ := Prod.mk.inj (Except.ok.inj hlast)
      obtain ⟨content, rfl, hcontent⟩ := ih hread
      exact ⟨_, rfl, .simple hletter hcontent⟩
  | case16 tail =>
      cases h
      exact ⟨[], rfl, .nil⟩
  | case18 b tail hend _ _ hescape hquote hcontrol ih =>
      obtain ⟨⟨following, _⟩, hread, hlast⟩ := bind_eq_ok.mp h
      obtain ⟨rfl, rfl⟩ := Prod.mk.inj (Except.ok.inj hlast)
      obtain ⟨content, rfl, hcontent⟩ := ih hread
      have hplain : b ≠ 92 := by
        intro hb
        cases content with
        | nil => exact hescape 34 _ hb rfl
        | cons c content => exact hescape c _ hb rfl
      exact ⟨_, rfl, .plain hquote hplain hcontrol hcontent⟩
  | _ => cases h

/-- A content is read to its end. -/
theorem Content.stringBytes_eq {content text : Bytes} (h : Content content text) (rest : Bytes) :
    stringBytes (content ++ 34 :: rest) = .ok (text, rest) := by
  induction h with
  | nil => simp [stringBytes]
  | plain hquote hescape hcontrol _ ih =>
      rw [List.cons_append, stringBytes.eq_6]
      · rw [if_neg hquote, if_neg hcontrol, ih]
        rfl
      · exact fun hb => absurd hb hescape
      · exact fun _ _ _ _ _ hb => absurd hb hescape
      · exact fun _ hb => absurd hb hescape
      · exact fun _ _ hb => absurd hb hescape
  | @simple letter b s text hletter _ ih =>
      have hnot : letter ≠ 117 := by
        rintro rfl
        cases hletter
      rw [List.cons_append, List.cons_append, stringBytes.eq_5]
      · rw [hletter, ih]
        rfl
      · exact fun _ _ _ _ _ hb => absurd hb hnot
      · exact fun hb => absurd hb hnot
  | unicode hcode hleading htrailing _ ih =>
      simp only [List.cons_append, stringBytes.eq_3, hcode]
      refine (if_neg htrailing).trans ((if_neg hleading).trans ?_)
      rw [ih]
      rfl
  | @pair a b c d e f g i m n s text hfirst hleading hsecond htrailing _ ih =>
      have hnot : ¬ IsTrailing m := fun hm => by
        have hlow := hm.1
        have hhigh := hleading.2
        omega
      simp only [List.cons_append, stringBytes.eq_3, hfirst, hsecond]
      refine (if_neg hnot).trans ((if_pos hleading).trans ((if_pos htrailing).trans ?_))
      rw [ih]
      rfl

/-- A string literal, quotes included, and the string that it stands for. -/
inductive Literal : Bytes → String → Prop where
  | mk {content text : Bytes} {s : String} (hcontent : Content content text)
      (hutf8 : stringOf? text = some s) : Literal (34 :: (content ++ [34])) s

/-- Behind an opening quote the reader takes what makes a literal of it. -/
theorem stringRest_eq_ok_iff {tail rest : Bytes} {s : String} :
    stringRest tail = .ok (s, rest) ↔
      ∃ literal, 34 :: tail = literal ++ rest ∧ Literal literal s := by
  constructor
  · intro h
    obtain ⟨⟨text, _⟩, hread, hlast⟩ := bind_eq_ok.mp h
    dsimp only at hlast
    split at hlast
    · rename_i s' hutf8
      obtain ⟨rfl, rfl⟩ := Prod.mk.inj (Except.ok.inj hlast)
      obtain ⟨content, rfl, hcontent⟩ := content_of_stringBytes hread
      exact ⟨_, by simp, .mk hcontent hutf8⟩
    · cases hlast
  · rintro ⟨_, htail, ⟨hcontent, hutf8⟩⟩
    rw [List.cons_append, List.append_assoc, List.singleton_append, List.cons.injEq] at htail
    rw [htail.2, stringRest]
    refine bind_eq_ok.mpr ⟨_, hcontent.stringBytes_eq rest, ?_⟩
    dsimp only
    rw [hutf8]
    rfl

end Json

end ApiCall
