import ApiCall.Proofs.Body.Encodings

/-!
Members of form bodies that are null. Where the body has a declared object type they are as good as
absent. A body of any type takes its own members for fields that must be there, so the first null
among them is refused (`BodySpec.null_members_absent_iff`).
-/

namespace ApiCall

open Json

namespace Json

theorem present_present (value : Option Value) : present (present value) = present value := by
  simp [present, Option.filter_filter]

/-- The members that are not null. -/
def withoutNulls (members : List (String × Value)) : List (String × Value) :=
  members.filter (!·.2.isNull)

theorem lookup_withoutNulls {members : List (String × Value)}
    (hkeys : (members.map Prod.fst).Nodup) (name : String) :
    (withoutNulls members).lookup name = present (members.lookup name) := by
  induction members with
  | nil => rfl
  | cons member rest ih =>
      obtain ⟨key, v⟩ := member
      obtain ⟨hkey, hrest⟩ := List.nodup_cons.mp hkeys
      have ih := ih hrest
      unfold withoutNulls at ih ⊢
      rw [List.filter_cons]
      by_cases hname : name = key
      · subst hname
        rw [Assoc.lookup_eq_none_of_not_mem hkey] at ih
        cases hnull : v.isNull <;> simp [present, Option.filter_some, hnull, ih]
      · have hother : (name == key) = false := beq_eq_false_iff_ne.mpr hname
        rw [List.lookup_cons, hother, ← ih]
        split
        · rw [List.lookup_cons, hother]
        · rfl

end Json

namespace BodySpec

variable {spec : BodySpec} {r : Registry} {boundary : String} {arguments : Arguments}

/-- A body that is written field by field: what is written for each field, and the payload of all of
them. Only the value of a field counts, a null is as good as none, and only a nullable field may be
without one. -/
structure Fieldwise (spec : BodySpec) (r : Registry) (boundary : String) (arguments : Arguments)
    (β : Type) where
  write : List (String × Value) → String × Schema → Except Error β
  join : List β → Payload
  write_eq : ∀ {members others field},
    present (members.lookup field.1) = present (others.lookup field.1) →
      write members field = write others field
  write_absent : ∀ {members field}, present (members.lookup field.1) = none →
    field.2.isNullable = false → write members field =
      .error (.missingAt (({ root := spec.argumentName } : FieldPath).field field.1))
  payload_eq : ∀ body, spec.payload r boundary body arguments =
    (spec.members r body { root := spec.argumentName } >>= fun (fields, members) =>
      fields.mapM (write members) >>= fun written => pure (join written))

/-- Both form encodings write field by field. -/
theorem exists_fieldwise
    (hmedia : MediaType.ofContentType spec.contentType = MediaType.urlencoded ∨
      MediaType.ofContentType spec.contentType = MediaType.multipart) :
    ∃ β, Nonempty (spec.Fieldwise r boundary arguments β) := by
  let path : FieldPath := { root := spec.argumentName }
  rcases hmedia with hmedia | hmedia
  · refine ⟨List String, ⟨{
      write := fun members field => do
        let items ← r.encode field.2 (members.lookup field.1) (path.field field.1)
        let d := spec.directive field.1
        return (d.entries field.1 items).map fun entry => formField d entry.1 entry.2
      join := fun segments => .raw spec.contentType (bytesOf ("&".intercalate segments.flatten))
      write_eq := ?_, write_absent := ?_, payload_eq := ?_ }⟩⟩
    · intro members others field h
      rw [Registry.encode, Registry.encode, encodeInto_of_present_eq h]
    · intro members field habsent hfield
      rw [Registry.encode_absent field.2 habsent, hfield]
      rfl
    · intro body
      rw [payload_urlencoded spec r boundary body arguments hmedia, urlencoded, bind_assoc]
      refine bind_congr fun found => ?_
      exact bind_assoc _ _ _
  · refine ⟨List Part, ⟨{
      write := fun members field => spec.partsOf r arguments members path field
      join := fun parts => .multipart { boundary, parts := parts.flatten }
      write_eq := ?_, write_absent := ?_, payload_eq := ?_ }⟩⟩
    · intro members others field h
      rw [partsOf, partsOf, h]
    · intro members field habsent hfield
      rw [partsOf, habsent, hfield]
      rfl
    · intro body
      rw [payload_multipart spec r boundary body arguments hmedia, form_eq, bind_assoc]
      refine bind_congr fun found => ?_
      exact bind_assoc _ _ _

namespace Fieldwise

variable {β : Type}

/-- The members of a body of a declared type count for as much as they are there. -/
theorem payload_withoutNulls (w : spec.Fieldwise r boundary arguments β) {fields : Fields}
    {members : List (String × Value)} (hs : r.resolve spec.schema.unwrapNullable = .object fields)
    (hkeys : (members.map Prod.fst).Nodup) :
    spec.payload r boundary (.object members) arguments =
      spec.payload r boundary (.object (withoutNulls members)) arguments := by
  have hfields : fields.mapM (w.write members) = fields.mapM (w.write (withoutNulls members)) := by
    refine mapM_congr_left ?_
    intro field _
    apply w.write_eq
    rw [lookup_withoutNulls hkeys, present_present]
  rw [w.payload_eq, w.payload_eq, members_eq hs, members_eq hs]
  change (fields.mapM (w.write members) >>= fun written => pure (w.join written)) =
    fields.mapM (w.write (withoutNulls members)) >>= fun written => pure (w.join written)
  rw [hfields]

/-- What is written for one member of a body of any type. -/
def writeMember (w : spec.Fieldwise r boundary arguments β) (member : String × Value) :
    Except Error β :=
  w.write [member] (member.1, .scalar .json)

theorem payload_any (w : spec.Fieldwise r boundary arguments β) {members : List (String × Value)}
    (hs : r.resolve spec.schema.unwrapNullable = .scalar .json)
    (hkeys : (members.map Prod.fst).Nodup) :
    spec.payload r boundary (.object members) arguments =
      members.mapM w.writeMember >>= fun written => pure (w.join written) := by
  have hmembers : spec.members r (.object members) { root := spec.argumentName } =
      .ok (members.map fun member => (member.1, .scalar .json), members) := by
    unfold BodySpec.members
    rw [hs]
  have hwritten : (members.map fun member => (member.1, Schema.scalar .json)).mapM
      (w.write members) = members.mapM w.writeMember := by
    rw [List.mapM_map]
    refine mapM_congr_left ?_
    rintro ⟨name, v⟩ hmember
    -- the field that a member is taken for finds this member again
    apply w.write_eq
    rw [Assoc.lookup_of_mem hkeys hmember, List.lookup_cons_self]
  rw [w.payload_eq, hmembers]
  change ((members.map fun member => (member.1, Schema.scalar .json)).mapM (w.write members) >>=
    fun written => pure (w.join written)) = _
  rw [hwritten]

/-- A null member of a body of any type is refused, if no member before it fails. -/
theorem payload_any_null (w : spec.Fieldwise r boundary arguments β)
    {before after : List (String × Value)} {name : String}
    (hs : r.resolve spec.schema.unwrapNullable = .scalar .json)
    (hkeys : ((before ++ (name, .null) :: after).map Prod.fst).Nodup) :
    spec.payload r boundary (.object (before ++ (name, .null) :: after)) arguments =
      (spec.payload r boundary (.object before) arguments >>= fun _ =>
        .error (.missingAt (({ root := spec.argumentName } : FieldPath).field name))) := by
  have hbefore : (before.map Prod.fst).Nodup := by
    rw [List.map_append] at hkeys
    exact hkeys.of_append_left
  have hnull : w.writeMember (name, .null) =
      .error (.missingAt (({ root := spec.argumentName } : FieldPath).field name)) :=
    w.write_absent (by simp [present, Value.isNull]) rfl
  rw [w.payload_any hs hkeys, w.payload_any hs hbefore, List.mapM_append, List.mapM_cons, hnull]
  cases before.mapM w.writeMember <;> rfl

end Fieldwise

/-- In a form body of a declared object type, members that are null may be left out. In one of any
type the first of them is refused by its path, unless a member before it fails; so where the body
without them is accepted, leaving them out makes no difference exactly when there is none. -/
theorem null_members_absent_iff
    (hmedia : MediaType.ofContentType spec.contentType = MediaType.urlencoded ∨
      MediaType.ofContentType spec.contentType = MediaType.multipart)
    {members : List (String × Value)} (hkeys : (members.map Prod.fst).Nodup) :
    let build (members : List (String × Value)) : Except Error (Option Payload) :=
      spec.build r boundary (some (.object members)) arguments
    (∀ fields, r.resolve spec.schema.unwrapNullable = .object fields →
        build members = build (withoutNulls members)) ∧
      (r.resolve spec.schema.unwrapNullable = .scalar .json →
        (∀ before name after, members = before ++ (name, .null) :: after →
          build members = (build before >>= fun _ =>
            .error (.missingAt (({ root := spec.argumentName } : FieldPath).field name)))) ∧
        ∀ payload, build (withoutNulls members) = .ok payload →
          (build members = build (withoutNulls members) ↔
            ∀ member ∈ members, member.2.isNull = false)) := by
  intro build
  obtain ⟨β, ⟨w⟩⟩ : ∃ β, Nonempty (spec.Fieldwise r boundary arguments β) :=
    exists_fieldwise hmedia
  have hbuild (members : List (String × Value)) : build members =
      (spec.payload r boundary (.object members) arguments >>= fun payload =>
        pure (some payload)) :=
    build_present spec rfl
  have hnull : r.resolve spec.schema.unwrapNullable = .scalar .json →
      ∀ before name after, members = before ++ (name, .null) :: after →
        build members = (build before >>= fun _ =>
          .error (.missingAt (({ root := spec.argumentName } : FieldPath).field name))) := by
    rintro hs before name after rfl
    rw [hbuild, hbuild, w.payload_any_null hs hkeys]
    cases spec.payload r boundary (.object before) arguments <;> rfl
  refine ⟨?_, fun hs => ⟨hnull hs, ?_⟩⟩
  · intro fields hs
    rw [hbuild, hbuild, w.payload_withoutNulls hs hkeys]
  · intro payload hpayload
    constructor
    · intro heq member hmember
      by_contra hmemberNull
      obtain ⟨before, after, hsplit⟩ := List.append_of_mem hmember
      obtain ⟨name, v⟩ := member
      obtain rfl : v = .null := by
        cases v with
        | null => rfl
        | _ => exact absurd rfl hmemberNull
      rw [hpayload, hnull hs before name after hsplit] at heq
      obtain ⟨_, _, hlast⟩ := bind_eq_ok.mp heq
      cases hlast
    · intro hpresent
      rw [withoutNulls, filter_of_not_isNull hpresent]

/-- A declared type with an optional field, in a form with parts. -/
theorem null_members_absent_of_declared :
    let r : Registry :=
      { objects := [("Pet", [("name", .scalar .string), ("age", .nullable (.scalar .integer))])] }
    let spec : BodySpec := { contentType := "multipart/form-data", schema := .named "Pet" }
    let members : List (String × Value) := [("age", .null), ("name", .string "Rex")]
    let part : Part := { name := "name", data := bytesOf "Rex" }
    (members.map Prod.fst).Nodup ∧
      spec.build r "B" (some (.object [("name", .string "Rex")])) [] =
        .ok (some (.multipart { boundary := "B", parts := [part] })) ∧
      spec.build r "B" (some (.object members)) [] =
        .ok (some (.multipart { boundary := "B", parts := [part] })) := by
  intro r spec members part
  have hkeys : (members.map Prod.fst).Nodup := by decide
  have hwithout : spec.build r "B" (some (.object [("name", .string "Rex")])) [] =
      .ok (some (.multipart { boundary := "B", parts := [part] })) :=
    build_of_form (by decide) rfl (by cbv)
  obtain ⟨hdeclared, -⟩ := @null_members_absent_iff spec r "B" [] (Or.inr (by decide)) members hkeys
  exact ⟨hkeys, hwithout, (hdeclared _ rfl).trans hwithout⟩

/-- A body of any type whose only member is null: it is refused, and the empty one is accepted. -/
theorem null_member_refused_in_any_type :
    let spec : BodySpec :=
      { contentType := "application/x-www-form-urlencoded", schema := .scalar .json }
    withoutNulls [("a", .null)] = [] ∧
      spec.build {} "B" (some (.object [("a", .null)])) [] = .error (.valueMissing "body.a") ∧
      spec.build {} "B" (some (.object [])) [] =
        .ok (some (.raw "application/x-www-form-urlencoded" [])) := by
  intro spec
  have hmedia : MediaType.ofContentType spec.contentType = MediaType.urlencoded := by decide
  have hnull : spec.urlencoded {} (.object [("a", .null)]) { root := "body" } =
      .error (.valueMissing "body.a") := by cbv
  have hempty : spec.urlencoded {} (.object []) { root := "body" } = .ok "" := by cbv
  refine ⟨rfl, ?_, ?_⟩
  · rw [build_present spec (show present (some (.object [("a", .null)])) = some _ from rfl),
      payload_urlencoded spec {} "B" _ [] hmedia, hnull]
    rfl
  · rw [build_present spec (show present (some (.object [])) = some _ from rfl),
      payload_urlencoded spec {} "B" _ [] hmedia, hempty]
    rfl

end BodySpec

end ApiCall
