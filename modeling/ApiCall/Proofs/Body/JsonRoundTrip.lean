import ApiCall.Proofs.Body.Encodings
import ApiCall.Proofs.Header.Text
import ApiCall.Proofs.Json.Written
import Mathlib

/-!
JSON bodies sent back. The payload that is built for a value, received as a body of the same content
type, gives that value again (`BodySpec.json_round_trip`).
-/

namespace ApiCall

open Json

namespace BodySpec

/-- The payload of a JSON body, given back under its content type, is decoded to the value that it
was built for: all members in their order, declared or not, and all strings. -/
theorem json_round_trip (spec : BodySpec) (r : Registry) (boundary : String) (arguments : Arguments)
    {v : Value} {result : Option Payload} (hjson : MediaType.isJson spec.contentType = true)
    (hvisible : ∀ c ∈ spec.contentType.toList, Percent.isVisibleAscii c = true)
    (hnull : v.isNull = false) (hdepth : v.depth ≤ 127) (hexact : v.IsExact)
    (hbuild : spec.build r boundary (some v) arguments = .ok result) :
    ∃ payload, result = some payload ∧ ∀ response : Response, response.body = payload.bytes →
      (response.headers.values "content-type").head? = some (bytesOf payload.contentType) →
      response.decode = .ok v := by
  have hpresent : present (some v) = some v := by
    rw [present, Option.filter_some, hnull]
    rfl
  rw [build_present spec hpresent, payload_json spec r boundary v arguments hjson] at hbuild
  obtain ⟨payload, hpayload, hlast⟩ := bind_eq_ok.mp hbuild
  obtain ⟨items, -, hraw⟩ := bind_eq_ok.mp hpayload
  obtain rfl := Except.ok.inj hraw
  obtain rfl := Except.ok.inj hlast
  refine ⟨_, rfl, fun response hbody hheader => ?_⟩
  obtain ⟨rest, hstarts, -⟩ := isDocument_iff.mp (isDocument_bytes hexact hdepth)
  have hne : response.body ≠ [] := by
    obtain ⟨b, tail, hbytes, -⟩ := hexact.spells_bytes.start
    rw [hbody]
    exact fun hnil => List.cons_ne_nil b tail (hbytes.symm.trans hnil)
  have htype : response.contentType? = some spec.contentType := by
    have hlower : lowerAscii "content-type" = "content-type" := by decide
    rw [Response.contentType?, Headers.text?, hlower, hheader]
    exact headerText?_of_visible hvisible
  exact (Response.decode_json_eq_ok_iff hne htype hjson).mpr ⟨rest, hbody ▸ hstarts⟩

/-- Both ends of the integers in an undeclared member, a member that is null, and a text with
escapes, a control and a letter outside ASCII. -/
theorem json_round_trip_of_object :
    let spec : BodySpec :=
      { contentType := "Application/Problem+JSON; charset=utf-8"
        schema := .object [("text", .scalar .string), ("note", .nullable (.scalar .string))] }
    let value : Value := .object
      [("ends", .array [.number (.integer (-0x8000_0000_0000_0000)),
          .number (.integer 0xFFFF_FFFF_FFFF_FFFF)]),
       ("note", .null), ("text", .string "\"\\\n\x01é")]
    ∃ payload, spec.build {} "B" (some value) [] = .ok (some payload) ∧
      ({ status := ⟨200, by decide⟩
         headers := ⟨[("content-type", [bytesOf payload.contentType])]⟩
         body := payload.bytes } : Response).decode = .ok value := by
  intro spec value
  have hexact : value.IsExact := by
    refine .object (by decide) ?_
    intro member hmember
    simp only [List.mem_cons, List.not_mem_nil, or_false] at hmember
    rcases hmember with rfl | rfl | rfl
    · refine .array ?_
      intro v hv
      simp only [List.mem_cons, List.not_mem_nil, or_false] at hv
      rcases hv with rfl | rfl <;> exact .integer (by decide) (by decide)
    · exact .null
    · exact .string _
  have hitems : ({} : Registry).encode spec.schema (some value) { root := "body" } =
      .ok [⟨[.field "text"], ["\"\\\n\x01é"]⟩] := by cbv
  have hbuild : spec.build {} "B" (some value) [] =
      .ok (some (.raw spec.contentType value.bytes)) := by
    rw [build_present spec (show present (some value) = some value from rfl),
      payload_json spec {} "B" value [] (by decide)]
    change ((Registry.encode {} spec.schema (some value) { root := "body" } >>= _) >>= _) = _
    rw [hitems]
    rfl
  have hvisible : spec.contentType.toList.all Percent.isVisibleAscii = true := by decide
  obtain ⟨payload, hpayload, hdecode⟩ := json_round_trip spec {} "B" [] (by decide)
    (List.all_eq_true.mp hvisible) rfl (by decide) hexact hbuild
  exact ⟨payload, hpayload ▸ hbuild, hdecode _ rfl rfl⟩

end BodySpec

end ApiCall
