import ApiCall.Proofs.Encoding.Reach
import ApiCall.Proofs.Encoding.Leaves
import Mathlib

/-!
How deep the walk over a value nests. A name may lead back to any type, so the schema says nothing
about that; but a name is looked up and passed over at once, and the walk stays at a value only to
remove a nullable wrapper. So of a chain of nested steps no more stand at one value than there are
wrappers around its schema, and one, and then the value gets smaller (`Registry.Enters.reserve_lt`).
A walk that counts its nesting never gets beyond this (`Registry.encode_nests_within`).
-/

namespace ApiCall

open Json

/-! ### Heights of values and runs of wrappers -/

namespace Json

mutual

/-- How many values stand inside each other, the outermost one included. -/
def Value.height : Value → Nat
  | .array items => heightOfItems items + 1
  | .object members => heightOfMembers members + 1
  | _ => 1

/-- The height of the highest item. -/
def heightOfItems : List Value → Nat
  | [] => 0
  | v :: rest => max v.height (heightOfItems rest)

/-- The height of the highest member. -/
def heightOfMembers : List (String × Value) → Nat
  | [] => 0
  | (_, v) :: rest => max v.height (heightOfMembers rest)

end

/-- The height of an optional value; one that is not there has none. -/
def heightOf : Option Value → Nat
  | none => 0
  | some v => v.height

theorem Value.height_pos (v : Value) : 0 < v.height := by
  cases v <;> simp [height]

theorem height_le_heightOfItems {elements : List Value} {element : Value}
    (h : element ∈ elements) : element.height ≤ heightOfItems elements := by
  induction elements with
  | nil => cases h
  | cons first rest ih =>
      rw [heightOfItems]
      rcases List.mem_cons.mp h with rfl | hrest
      · exact Nat.le_max_left _ _
      · exact (ih hrest).trans (Nat.le_max_right _ _)

theorem heightOf_lookup_le (name : String) (members : List (String × Value)) :
    heightOf (members.lookup name) ≤ heightOfMembers members := by
  induction members with
  | nil => exact Nat.zero_le _
  | cons member rest ih =>
      obtain ⟨key, v⟩ := member
      rw [List.lookup_cons, heightOfMembers]
      split
      · exact Nat.le_max_left _ _
      · exact ih.trans (Nat.le_max_right _ _)

end Json

/-- How many nullable wrappers are around a schema. -/
def Schema.wrappers : Schema → Nat
  | .nullable underlying => underlying.wrappers + 1
  | _ => 0

mutual

/-- The longest run of nullable wrappers directly inside each other, anywhere in a schema. -/
def Schema.longestRun : Schema → Nat
  | .scalar _ => 0
  | .object fields => longestRunOfFields fields
  | .array items => items.longestRun
  | .nullable underlying => max (underlying.wrappers + 1) underlying.longestRun
  | .named _ => 0

/-- The longest run in the schemas of an object's fields. -/
def longestRunOfFields : List (String × Schema) → Nat
  | [] => 0
  | (_, schema) :: rest => max schema.longestRun (longestRunOfFields rest)

end

theorem Schema.wrappers_le_longestRun (schema : Schema) : schema.wrappers ≤ schema.longestRun := by
  cases schema with
  | nullable underlying => exact Nat.le_max_left _ _
  | _ => exact Nat.zero_le _

theorem longestRun_le_of_mem {fields : Fields} {field : String × Schema} (h : field ∈ fields) :
    field.2.longestRun ≤ longestRunOfFields fields := by
  induction fields with
  | nil => cases h
  | cons first rest ih =>
      rw [longestRunOfFields]
      rcases List.mem_cons.mp h with rfl | hrest
      · exact Nat.le_max_left _ _
      · exact (ih hrest).trans (Nat.le_max_right _ _)

namespace Registry

variable {r : Registry} {n : Nat}

/-- The longest run of nullable wrappers in a schema or in an object type of the registry. -/
def longestRun (r : Registry) (schema : Schema) : Nat :=
  (r.objects.map fun object => longestRunOfFields object.2).foldr max schema.longestRun

/-- No run of wrappers is longer than `n`, neither in the schema nor in a named object type. -/
structure RunsWithin (r : Registry) (n : Nat) (schema : Schema) : Prop where
  schema_le : schema.longestRun ≤ n
  objects_le : ∀ object ∈ r.objects, longestRunOfFields object.2 ≤ n

theorem runsWithin_longestRun (r : Registry) (schema : Schema) :
    r.RunsWithin (r.longestRun schema) schema := by
  have hfold (runs : List Nat) (start : Nat) :
      start ≤ runs.foldr max start ∧ ∀ run ∈ runs, run ≤ runs.foldr max start := by
    induction runs with
    | nil => simp
    | cons run runs ih =>
        simp only [List.foldr_cons, List.forall_mem_cons]
        refine ⟨ih.1.trans (Nat.le_max_right _ _), Nat.le_max_left _ _, ?_⟩
        intro other hother
        exact (ih.2 other hother).trans (Nat.le_max_right _ _)
  obtain ⟨hschema, hobjects⟩ :=
    hfold (r.objects.map fun object => longestRunOfFields object.2) schema.longestRun
  refine ⟨hschema, ?_⟩
  intro object hobject
  exact hobjects _ (List.mem_map_of_mem hobject)

theorem RunsWithin.wrappers_le {schema : Schema} (h : r.RunsWithin n schema) :
    schema.wrappers ≤ n :=
  schema.wrappers_le_longestRun.trans h.schema_le

/-- The schemas below a name stand in the registry, all others in the schema itself. -/
theorem RunsWithin.below {schema next : Schema} (h : r.RunsWithin n schema)
    (hnext : next ∈ r.below schema) : r.RunsWithin n next := by
  refine ⟨?_, h.objects_le⟩
  have hschema := h.schema_le
  cases schema with
  | scalar kind => cases hnext
  | object fields =>
      obtain ⟨field, hfield, rfl⟩ := List.mem_map.mp hnext
      exact (longestRun_le_of_mem hfield).trans hschema
  | array items =>
      obtain rfl := List.mem_singleton.mp hnext
      exact hschema
  | nullable underlying =>
      obtain rfl := List.mem_singleton.mp hnext
      exact (Nat.le_max_right _ _).trans hschema
  | named name =>
      simp only [Registry.below, resolve, named] at hnext
      cases hscalar : r.scalar? name with
      | some kind => simp [hscalar] at hnext
      | none =>
          cases hobject : r.object? name with
          | none => simp [hscalar, hobject] at hnext
          | some fields =>
              simp only [hscalar, hobject, List.mem_map] at hnext
              obtain ⟨field, hfield, rfl⟩ := hnext
              exact (longestRun_le_of_mem hfield).trans
                (h.objects_le _ (Assoc.mem_of_lookup hobject))

/-! ### Chains of nested steps -/

/-- A place of the walk: a schema and the value that is to fit it, if there is one. -/
abbrev Place := Schema × Option Value

/-- At the first place the walk may go on to the second one: to the same value inside a wrapper, to
an element, or to what an object has under the name of a field. -/
inductive Enters (r : Registry) : Place → Place → Prop where
  | wrapped {underlying : Schema} {v : Value} (hv : v.isNull = false) :
      Enters r (.nullable underlying, some v) (underlying, some v)
  | element {schema items : Schema} {elements : List Value} {element : Value}
      (hs : r.resolve schema = .array items) (helement : element ∈ elements) :
      Enters r (schema, some (.array elements)) (items, some element)
  | field {schema : Schema} {fields : Fields} {members : List (String × Value)}
      {field : String × Schema} (hs : r.resolve schema = .object fields) (hfield : field ∈ fields) :
      Enters r (schema, some (.object members)) (field.2, members.lookup field.1)

theorem Enters.mem_below {place next : Place} (h : r.Enters place next) :
    next.1 ∈ r.below place.1 := by
  cases h with
  | wrapped _ => exact List.mem_singleton_self _
  | element hs _ =>
      simp only [below, hs]
      exact List.mem_singleton_self _
  | field hs hfield =>
      simp only [below, hs]
      exact List.mem_map_of_mem hfield

/-- How many steps may stand inside each other from a place on, where no run of wrappers is longer
than `n`: one for each wrapper here and one at the value itself, as many for each value below it as
there can be at most, and one for a field that is missing. -/
def reserve (n : Nat) : Place → Nat
  | (_, none) => 1
  | (schema, some v) => schema.wrappers + 1 + (v.height - 1) * (n + 1) + 1

theorem reserve_le {place : Place} (h : place.1.wrappers ≤ n) :
    reserve n place ≤ heightOf place.2 * (n + 1) + 1 := by
  obtain ⟨schema, _ | v⟩ := place
  · exact Nat.le_add_left _ _
  · obtain ⟨rest, hrest⟩ := Nat.exists_eq_succ_of_ne_zero v.height_pos.ne'
    simp only [reserve, heightOf, hrest, Nat.succ_eq_add_one, Nat.add_sub_cancel, Nat.succ_mul]
    dsimp only at h
    omega

/-- The reserve at the first place is enough for anything that is lower than its value. -/
theorem lt_reserve_of_height {schema : Schema} {v : Value} {place : Place}
    (hwrappers : place.1.wrappers ≤ n) (hheight : heightOf place.2 < v.height) :
    reserve n place < reserve n (schema, some v) := by
  have hplace := reserve_le hwrappers
  have hbelow : heightOf place.2 * (n + 1) ≤ (v.height - 1) * (n + 1) :=
    Nat.mul_le_mul_right _ (by omega)
  have hhere : reserve n (schema, some v) = schema.wrappers + 1 + (v.height - 1) * (n + 1) + 1 :=
    rfl
  omega

/-- A step uses up some of the reserve: the wrapper that it removes, or else a level of the
value. -/
theorem Enters.reserve_lt {place next : Place} (h : r.Enters place next)
    (hwithin : r.RunsWithin n next.1) : reserve n next < reserve n place := by
  cases h with
  | wrapped _ =>
      simp only [reserve, Schema.wrappers]
      omega
  | element _ helement =>
      apply lt_reserve_of_height hwithin.wrappers_le
      have hle := height_le_heightOfItems helement
      simp only [heightOf, Value.height]
      omega
  | @field _ _ members field _ _ =>
      apply lt_reserve_of_height hwithin.wrappers_le
      have hle := heightOf_lookup_le field.1 members
      simp only [Value.height]
      omega

/-- A chain of steps is no longer than the reserve that it starts with. -/
theorem length_le_reserve {place : Place} {chain : List Place}
    (hchain : List.IsChain r.Enters (place :: chain)) (hwithin : r.RunsWithin n place.1) :
    chain.length + 1 ≤ reserve n place := by
  induction chain generalizing place with
  | nil =>
      obtain ⟨schema, _ | v⟩ := place
      · exact Nat.le_refl _
      · simp [reserve]
  | cons next chain ih =>
      obtain ⟨hstep, hrest⟩ := List.isChain_cons_cons.mp hchain
      have hnext := hwithin.below hstep.mem_below
      have hlength := ih hrest hnext
      have hless := hstep.reserve_lt hnext
      rw [List.length_cons]
      omega

/-! ### The walk with its nesting counted -/

/-- The walk where at most `bound` steps may stand inside each other; it gives up, with no result at
all, when one more is called for. -/
def encodeWithin (r : Registry) (bound : Nat) (items : Items) (keys : List Key) (schema : Schema)
    (value : Option Value) (path : FieldPath) : ExceptT Error Option Items :=
  match bound with
  | 0 => ExceptT.mk none
  | bound + 1 =>
    match present value with
    | none => if schema.isNullable then pure items else throw (.missingAt path)
    | some v =>
      match r.resolve schema with
      | .nullable underlying => encodeWithin r bound items keys underlying (some v) path
      | .scalar kind => do
        let text ← kind.encode v path
        return items.add keys [text]
      | .array schema =>
        match v with
        | .array elements =>
          elements.zipIdx.foldlM (fun items (element, i) =>
            encodeWithin r bound items (keys ++ [.element]) schema (some element)
              (path.index i)) items
        | v => throw (.mismatchAt path "array" v)
      | .object fields =>
        match v with
        | .object members =>
          fields.foldlM (fun items (name, schema) =>
            encodeWithin r bound items (keys ++ [.field name]) schema (members.lookup name)
              (path.field name)) items
        | v => throw (.mismatchAt path "object" v)

/-- The counted walk ends in the same way as the walk itself, or it gives up and something holds. -/
def EndsAs (P : Prop) (counted : ExceptT Error Option Items) (result : Except Error Items) :
    Prop :=
  counted.run = some result ∨ counted.run = none ∧ P

namespace EndsAs

variable {P : Prop}

theorem mono {Q : Prop} {counted : ExceptT Error Option Items} {result : Except Error Items}
    (h : EndsAs P counted result) (hPQ : P → Q) : EndsAs Q counted result :=
  h.imp_right fun ⟨hgives, hP⟩ => ⟨hgives, hPQ hP⟩

theorem bind {counted : ExceptT Error Option Items} {result : Except Error Items}
    {next : Items → ExceptT Error Option Items} {after : Items → Except Error Items}
    (h : EndsAs P counted result) (hnext : ∀ items, EndsAs P (next items) (after items)) :
    EndsAs P (counted >>= next) (result >>= after) := by
  rcases h with hends | ⟨hgives, hP⟩
  · cases result with
    | error e =>
        left
        rw [ExceptT.run_bind, hends]
        rfl
    | ok items =>
        rcases hnext items with hends' | ⟨hgives', hP⟩
        · left
          rw [ExceptT.run_bind, hends]
          exact hends'
        · right
          refine ⟨?_, hP⟩
          rw [ExceptT.run_bind, hends]
          exact hgives'
  · right
    refine ⟨?_, hP⟩
    rw [ExceptT.run_bind, hgives]
    rfl

theorem elements {schema : Schema} {keys : List Key} {path : FieldPath} {bound : Nat}
    {elements : List Value} (h : ∀ element ∈ elements, ∀ items path,
      EndsAs P (r.encodeWithin bound items keys schema (some element) path)
        (encodeInto r items keys schema (some element) path)) (items : Items) (i : Nat) :
    EndsAs P ((elements.zipIdx i).foldlM (fun items (element, i) =>
        r.encodeWithin bound items keys schema (some element) (path.index i)) items)
      (encodeElements r items keys schema elements i path) := by
  induction elements generalizing items i with
  | nil =>
      rw [encodeElements]
      exact Or.inl rfl
  | cons element rest ih =>
      obtain ⟨hone, hrest⟩ := List.forall_mem_cons.mp h
      rw [List.zipIdx_cons, List.foldlM_cons, encodeElements]
      exact (hone items (path.index i)).bind fun items => ih hrest items (i + 1)

theorem fields {keys : List Key} {path : FieldPath} {bound : Nat} {fields : Fields}
    {members : List (String × Value)} (h : ∀ field ∈ fields, ∀ items keys path,
      EndsAs P (r.encodeWithin bound items keys field.2 (members.lookup field.1) path)
        (encodeInto r items keys field.2 (members.lookup field.1) path)) (items : Items) :
    EndsAs P (fields.foldlM (fun items (name, schema) =>
        r.encodeWithin bound items (keys ++ [.field name]) schema (members.lookup name)
          (path.field name)) items)
      (encodeFields r items keys fields members path) := by
  induction fields generalizing items with
  | nil =>
      rw [encodeFields]
      exact Or.inl rfl
  | cons field rest ih =>
      obtain ⟨hone, hrest⟩ := List.forall_mem_cons.mp h
      obtain ⟨name, schema⟩ := field
      rw [List.foldlM_cons, encodeFields]
      exact (hone items (keys ++ [.field name]) (path.field name)).bind fun items =>
        ih hrest items

end EndsAs

/-- A step of the counted walk ends as that of the walk itself if they do so wherever they enter. -/
theorem encodeWithin_step {P : Prop} {bound : Nat} {schema : Schema} {value : Option Value}
    (h : ∀ next, r.Enters (schema, value) next → ∀ items keys path,
      EndsAs P (r.encodeWithin bound items keys next.1 next.2 path)
        (encodeInto r items keys next.1 next.2 path))
    (items : Items) (keys : List Key) (path : FieldPath) :
    EndsAs P (r.encodeWithin (bound + 1) items keys schema value path)
      (encodeInto r items keys schema value path) := by
  rw [encodeWithin]
  cases hvalue : present value with
  | none =>
      left
      cases schema with
      | nullable underlying =>
          rw [encodeInto_nullable_absent r items keys underlying hvalue]
          rfl
      | _ =>
          rw [encodeInto_absent r items keys rfl hvalue]
          rfl
  | some v =>
      obtain ⟨rfl, hv⟩ := present_eq_some hvalue
      dsimp only
      cases hs : r.resolve schema with
      | nullable underlying =>
          obtain rfl := resolve_eq_nullable hs
          rw [encodeInto_nullable_some r items keys underlying hv]
          exact h _ (.wrapped hv) items keys path
      | scalar kind =>
          left
          rw [encodeInto_of_resolve hs (by simp) hv, encodeShape]
          dsimp only
          cases kind.encode v path <;> rfl
      | array elementSchema =>
          rw [encodeInto_of_resolve hs (by simp) hv]
          cases v with
          | array elements =>
              rw [encodeShape]
              refine EndsAs.elements ?_ items 0
              intro element helement items path
              exact h _ (.element hs helement) items _ path
          | _ =>
              left
              rw [encodeShape]
              · rfl
              · simp
      | object fields =>
          rw [encodeInto_of_resolve hs (by simp) hv]
          cases v with
          | object members =>
              rw [encodeShape]
              refine EndsAs.fields ?_ items
              intro field hfield items keys path
              exact h _ (.field hs hfield) items keys path
          | _ =>
              left
              rw [encodeShape]
              · rfl
              · simp

/-- A chain of so many steps begins at a place. -/
def HasChain (r : Registry) (place : Place) (steps : Nat) : Prop :=
  ∃ chain, List.IsChain r.Enters (place :: chain) ∧ chain.length = steps

theorem Enters.hasChain {place next : Place} {steps : Nat} (h : r.Enters place next)
    (hchain : r.HasChain next steps) : r.HasChain place (steps + 1) := by
  obtain ⟨chain, hsteps, rfl⟩ := hchain
  exact ⟨next :: chain, List.isChain_cons_cons.mpr ⟨h, hsteps⟩, rfl⟩

/-- The counted walk gives up only where a chain of as many steps begins. -/
theorem encodeWithin_endsAs (r : Registry) (bound : Nat) (items : Items) (keys : List Key)
    (schema : Schema) (value : Option Value) (path : FieldPath) :
    EndsAs (r.HasChain (schema, value) bound) (r.encodeWithin bound items keys schema value path)
      (encodeInto r items keys schema value path) := by
  induction bound generalizing items keys schema value path with
  | zero =>
      right
      exact ⟨rfl, [], List.isChain_singleton _, rfl⟩
  | succ bound ih =>
      apply encodeWithin_step
      intro next hnext items keys path
      exact (ih items keys next.1 next.2 path).mono hnext.hasChain

/-- Steps that stand inside each other are no more than the value is high, each time with all
wrappers that a schema or an object type has in one run, and one. So the walk that counts its
nesting ends as the walk itself, on types that refer to each other in any way. -/
theorem encode_nests_within (r : Registry) (schema : Schema) (value : Option Value)
    (path : FieldPath) :
    let bound := heightOf value * (r.longestRun schema + 1) + 1
    (∀ chain, List.IsChain r.Enters ((schema, value) :: chain) → chain.length + 1 ≤ bound) ∧
      ∀ steps, bound ≤ steps →
        (r.encodeWithin steps [] [] schema value path).run = some (r.encode schema value path) := by
  intro bound
  have hwithin := r.runsWithin_longestRun schema
  have hchain : ∀ chain, List.IsChain r.Enters ((schema, value) :: chain) →
      chain.length + 1 ≤ bound := by
    intro chain hchain
    exact (length_le_reserve hchain hwithin).trans (reserve_le hwithin.wrappers_le)
  refine ⟨hchain, ?_⟩
  intro steps hsteps
  rcases r.encodeWithin_endsAs steps [] [] schema value path with hends | ⟨_, chain, hlong, rfl⟩
  · exact hends
  · have hshort := hchain chain hlong
    omega

/-- Two types that refer to each other. A field is missing in the lower of two objects, so that not
one step of the bound is left over. -/
theorem encode_nests_within_of_two_types :
    let r : Registry :=
      { objects :=
          [("A", [("b", .nullable (.nullable (.named "B")))]),
           ("B", [("a", .nullable (.nullable (.named "A")))])] }
    let schema : Schema := .nullable (.nullable (.named "A"))
    let value : Value := .object [("b", .object [])]
    let path : FieldPath := { root := "a" }
    value.height = 2 ∧ r.longestRun schema = 2 ∧
      (∀ chain, List.IsChain r.Enters ((schema, some value) :: chain) → chain.length + 1 ≤ 7) ∧
      (r.encodeWithin 7 [] [] schema (some value) path).run = some (.ok []) ∧
      (r.encodeWithin 6 [] [] schema (some value) path).run = none := by
  intro r schema value path
  have hheight : value.height = 2 := by decide
  have hrun : r.longestRun schema = 2 := by decide
  have hencode : r.encode schema (some value) path = .ok [] := by cbv
  obtain ⟨hchain, hsteps⟩ := r.encode_nests_within schema (some value) path
  rw [heightOf, hheight, hrun] at hchain hsteps
  refine ⟨hheight, hrun, hchain, ?_, by cbv⟩
  rw [hsteps 7 (Nat.le_refl 7), hencode]

end Registry

end ApiCall
