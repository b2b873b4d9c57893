import ApiCall.Proofs.Json.Reader
import ApiCall.Response
import Mathlib

/-!
Bodies that hold JSON. Without a content type a body is taken for JSON if all of it is one document
(`parse?_eq_some_iff`); under a JSON content type it is enough that it starts with one, and what
follows is left alone (`Response.json_agrees_iff`).
-/

namespace ApiCall

namespace Json

/-- A text starts with a document: after blanks the text of a value that the rest does not go on
with. Of a repeated key the last value counts. -/
def StartsWith (s : Bytes) (v : Value) (rest : Bytes) : Prop :=
  ∃ blanks text w, s = blanks ++ (text ++ rest) ∧ Blanks blanks ∧
    SpellsWithin depthLimit text w ∧ EndsBefore rest text w ∧ w.merge = v

/-- A text is a document: the text of a value with nothing but blanks around it. -/
def IsDocument (s : Bytes) (v : Value) : Prop :=
  ∃ before text after w, s = before ++ (text ++ after) ∧ Blanks before ∧ Blanks after ∧
    SpellsWithin depthLimit text w ∧ w.merge = v

theorem isDocument_iff {s : Bytes} {v : Value} :
    IsDocument s v ↔ ∃ rest, StartsWith s v rest ∧ Blanks rest := by
  constructor
  · rintro ⟨before, text, after, w, hs, hbefore, hafter, hspells, hmerge⟩
    exact ⟨after, ⟨before, text, w, hs, hbefore, hspells, endsBefore_blanks hafter text w, hmerge⟩,
      hafter⟩
  · rintro ⟨after, ⟨before, text, w, hs, hbefore, hspells, -, hmerge⟩, hafter⟩
    exact ⟨before, text, after, w, hs, hbefore, hafter, hspells, hmerge⟩

/-- A document is what the reader takes, with repeated keys merged. -/
theorem startsWith_iff {s rest : Bytes} {v : Value} :
    StartsWith s v rest ↔ ∃ w, value depthLimit s = .ok (w, rest) ∧ w.merge = v := by
  constructor
  · rintro ⟨blanks, text, w, rfl, hblanks, hspells, hends, rfl⟩
    obtain ⟨b, tail, rfl, hblank, -⟩ := hspells.1.start
    refine ⟨w, (value_eq_ok_iff depthLimit _ w rest).mpr ⟨_, ?_, hspells, hends⟩, rfl⟩
    exact (skipBlank_append hblanks _).trans (skipBlank_of_next hblank)
  · rintro ⟨w, hread, rfl⟩
    obtain ⟨text, htext, hspells, hends⟩ := (value_eq_ok_iff depthLimit s w rest).mp hread
    obtain ⟨blanks, hblanks, hs⟩ := exists_blanks s
    exact ⟨blanks, text, w, htext ▸ hs, hblanks, hspells, hends, rfl⟩

/-- A reader that goes less deep takes the same document. -/
theorem startsWith_of_value {depth : Nat} (hdepth : depth ≤ depthLimit) {s rest : Bytes} {w : Value}
    (h : value depth s = .ok (w, rest)) : StartsWith s w.merge rest := by
  obtain ⟨text, htext, ⟨hspells, hle⟩, hends⟩ := (value_eq_ok_iff depth s w rest).mp h
  refine startsWith_iff.mpr ⟨w, (value_eq_ok_iff depthLimit s w rest).mpr ?_, rfl⟩
  exact ⟨text, htext, ⟨hspells, Nat.le_trans hle hdepth⟩, hends⟩

/-- What a text starts with is decided by the text. -/
theorem StartsWith.unique {s rest rest' : Bytes} {v v' : Value} (h : StartsWith s v rest)
    (h' : StartsWith s v' rest') : v = v' ∧ rest = rest' := by
  obtain ⟨w, hread, rfl⟩ := startsWith_iff.mp h
  obtain ⟨w', hread', rfl⟩ := startsWith_iff.mp h'
  obtain ⟨rfl, rfl⟩ := Prod.mk.inj (Except.ok.inj (hread.symm.trans hread'))
  exact ⟨rfl, rfl⟩

theorem isEmpty_skipBlank_iff {s : Bytes} : (skipBlank s).isEmpty = true ↔ Blanks s := by
  rw [List.isEmpty_iff]
  exact List.dropWhile_eq_nil_iff

theorem parse?_eq_some_iff {s : Bytes} {v : Value} : parse? s = some v ↔ IsDocument s v := by
  rw [isDocument_iff]
  constructor
  · intro h
    unfold parse? at h
    split at h
    · rename_i w rest hread
      obtain ⟨hblank, hv⟩ := Option.ite_none_right_eq_some.mp h
      exact ⟨rest, startsWith_iff.mpr ⟨w, hread, Option.some.inj hv⟩,
        isEmpty_skipBlank_iff.mp hblank⟩
    · cases h
  · rintro ⟨rest, hstarts, hblank⟩
    obtain ⟨w, hread, rfl⟩ := startsWith_iff.mp hstarts
    unfold parse?
    rw [hread]
    exact if_pos (isEmpty_skipBlank_iff.mpr hblank)

theorem run_value_eq_ok_iff {s : Bytes} {v : Value} :
    Decoder.value.run s = .ok v ↔ ∃ rest, StartsWith s v rest := by
  constructor
  · intro h
    obtain ⟨⟨_, rest⟩, hread, hlast⟩ := bind_eq_ok.mp h
    obtain rfl := Except.ok.inj hlast
    obtain ⟨⟨w, after⟩, hvalue, hlast⟩ := bind_eq_ok.mp hread
    obtain ⟨rfl, rfl⟩ := Prod.mk.inj (Except.ok.inj hlast)
    exact ⟨_, startsWith_iff.mpr ⟨w, hvalue, rfl⟩⟩
  · rintro ⟨rest, hstarts⟩
    obtain ⟨w, hread, rfl⟩ := startsWith_iff.mp hstarts
    exact bind_eq_ok.mpr ⟨_, bind_eq_ok.mpr ⟨_, hread, rfl⟩, rfl⟩

end Json

namespace Response

open Json

variable {r : Response} {contentType : String}

theorem decode_json (hbody : r.body ≠ []) (htype : r.contentType? = some contentType)
    (hjson : MediaType.isJson contentType = true) : r.decode = r.read Decoder.value := by
  have hnot : ¬ r.body.isEmpty = true := fun hempty => hbody (List.isEmpty_iff.mp hempty)
  rw [decode, if_neg hnot, htype]
  exact if_pos hjson

theorem decode_untyped (hbody : r.body ≠ []) (hnone : r.contentType? = none) :
    r.decode = .ok r.sniff := by
  have hnot : ¬ r.body.isEmpty = true := fun hempty => hbody (List.isEmpty_iff.mp hempty)
  rw [decode, if_neg hnot, hnone]

/-- Under a JSON content type the body gives the document that it starts with. -/
theorem decode_json_eq_ok_iff (hbody : r.body ≠ []) (htype : r.contentType? = some contentType)
    (hjson : MediaType.isJson contentType = true) {v : Value} :
    r.decode = .ok v ↔ ∃ rest, StartsWith r.body v rest := by
  rw [decode_json hbody htype hjson, ← run_value_eq_ok_iff]
  unfold read
  cases Decoder.value.run r.body <;> simp

/-- A body that is not empty gives a value under a JSON content type exactly if it starts with a
document, and every other one is refused as such. Without a content type it is taken for JSON
exactly if all of it is a document; then both ways give the same value, and they agree on all
values exactly if nothing but blanks follows what the body starts with. -/
theorem json_agrees_iff {declared sniffed : Response} {contentType : String}
    (hbody : declared.body ≠ []) (hsame : sniffed.body = declared.body)
    (htype : declared.contentType? = some contentType)
    (hjson : MediaType.isJson contentType = true) (hnone : sniffed.contentType? = none) :
    (∀ v, declared.decode = .ok v ↔ ∃ rest, StartsWith declared.body v rest) ∧
      (∀ e, declared.decode = .error e → ∃ path message, e = .document path message) ∧
      (∀ v, parse? declared.body = some v ↔ IsDocument declared.body v) ∧
      (∀ v, IsDocument declared.body v → declared.decode = .ok v ∧ sniffed.decode = .ok v) ∧
      ((∀ v, declared.decode = .ok v ↔ IsDocument declared.body v) ↔
        ∀ v rest, StartsWith declared.body v rest → Blanks rest) := by
  have hdecode (v : Value) : declared.decode = .ok v ↔ ∃ rest, StartsWith declared.body v rest :=
    decode_json_eq_ok_iff hbody htype hjson
  have hwhole (v : Value) (h : IsDocument declared.body v) : declared.decode = .ok v := by
    obtain ⟨rest, hstarts, -⟩ := isDocument_iff.mp h
    exact (hdecode v).mpr ⟨rest, hstarts⟩
  refine ⟨hdecode, ?_, fun v => parse?_eq_some_iff, ?_, ?_⟩
  · intro e he
    rw [decode_json hbody htype hjson] at he
    unfold read at he
    split at he
    · cases he
    · exact ⟨_, _, (Except.error.inj he).symm⟩
  · intro v h
    refine ⟨hwhole v h, ?_⟩
    rw [decode_untyped (hsame ▸ hbody) hnone, sniff, hsame, parse?_eq_some_iff.mpr h]
  · constructor
    · intro hagree v rest hstarts
      obtain ⟨rest', hstarts', hblanks⟩ :=
        isDocument_iff.mp ((hagree v).mp ((hdecode v).mpr ⟨rest, hstarts⟩))
      obtain ⟨-, rfl⟩ := hstarts.unique hstarts'
      exact hblanks
    · intro hblanks v
      refine ⟨fun h => ?_, hwhole v⟩
      obtain ⟨rest, hstarts⟩ := (hdecode v).mp h
      exact isDocument_iff.mpr ⟨rest, hstarts, hblanks v rest hstarts⟩

/-- Blanks around the document, an escape and a repeated key. -/
theorem json_agrees_on_object :
    let body : Bytes := bytesOf " \x7b\"a\": [1],\"a\":\"\\u00e9\"\x7d\n"
    let declared : Response :=
      { status := ⟨200, by decide⟩
        headers := ⟨[("content-type", [bytesOf "application/problem+json; charset=utf-8"])]⟩
        body }
    let sniffed : Response := { status := ⟨200, by decide⟩, body }
    let v : Value := .object [("a", .string "é")]
    IsDocument body v ∧ declared.decode = .ok v ∧ sniffed.decode = .ok v := by
  intro body declared sniffed v
  obtain ⟨-, -, -, hsame, -⟩ := json_agrees_iff (show declared.body ≠ [] by decide)
    (show sniffed.body = declared.body from rfl)
    (show declared.contentType? = some "application/problem+json; charset=utf-8" by decide)
    (by decide) rfl
  have hbytes : body = [32, 123, 34, 97, 34, 58, 32, 91, 49, 93, 44, 34, 97, 34, 58, 34, 92, 117,
      48, 48, 101, 57, 34, 125, 10] := by decide
  have hread : value 2 body =
      .ok (.object [("a", .array [.number (.integer 1)]), ("a", .string "é")], [10]) := by
    rw [hbytes]
    cbv
  have hblanks : Blanks [10] := List.forall_mem_singleton.mpr rfl
  have hdocument : IsDocument body v :=
    isDocument_iff.mpr ⟨[10], startsWith_of_value (by decide) hread, hblanks⟩
  exact ⟨hdocument, hsame v hdocument⟩

/-- A document with text behind it is given as if it were the whole body. -/
theorem json_accepts_trailing_text :
    let body : Bytes := bytesOf "\x7b\"a\":1\x7d trailing"
    let declared : Response :=
      { status := ⟨200, by decide⟩
        headers := ⟨[("content-type", [bytesOf "application/json"])]⟩
        body }
    declared.decode = .ok (.object [("a", .number (.integer 1))]) ∧
      parse? body = none ∧ ∀ v, ¬ IsDocument body v := by
  intro body declared
  have hbytes : body = [123, 34, 97, 34, 58, 49, 125] ++ bytesOf " trailing" := by decide
  have hread : value 1 body =
      .ok (.object [("a", .number (.integer 1))], bytesOf " trailing") := by
    rw [hbytes]
    cbv
  have hstarts : StartsWith body (.object [("a", .number (.integer 1))]) (bytesOf " trailing") :=
    startsWith_of_value (by decide) hread
  have hnot (v : Value) : ¬ IsDocument body v := by
    intro hdocument
    obtain ⟨rest, hwhole, hblanks⟩ := isDocument_iff.mp hdocument
    obtain ⟨-, rfl⟩ := hwhole.unique hstarts
    exact absurd hblanks (by decide)
  refine ⟨?_, ?_, hnot⟩
  · exact (decode_json_eq_ok_iff (by decide)
      (show declared.contentType? = some "application/json" by decide) (by decide)).mpr ⟨_, hstarts⟩
  · exact Option.eq_none_iff_forall_ne_some.mpr fun v hv => hnot v (parse?_eq_some_iff.mp hv)

end Response

end ApiCall
