import ApiCall.Json.Reader

/-!
Decoders: how a JSON document is read as a type. A decoder reads from the text itself, where the
first fault in reading order wins and carries the way to it. Some types can only be told after
looking at all their members; those are first read as plain values, and decoders also read from
such a value, where faults carry no way.
-/

namespace ApiCall

namespace Json

/-- Reads a type from the text, at most `depth` containers deep, or from a value already read. -/
structure Decoder (α : Type) where
  text : Nat → Reader α
  plain : Value → Except Reason α

namespace Decoder

/-- Applies a function to what is decoded. -/
def map {α β : Type} (f : α → β) (d : Decoder α) : Decoder β where
  text depth s := do
    let (x, rest) ← d.text depth s
    return (f x, rest)
  plain v := f <$> d.plain v

/-- Applies a function that may refuse what is decoded. -/
def check {α β : Type} (f : α → Except Reason β) (d : Decoder α) : Decoder β where
  text depth s := do
    let (x, rest) ← d.text depth s
    return (← atHere (f x), rest)
  plain v := d.plain v >>= f

/-- Decodes a value of no containers by what was read of it. -/
private def scalar {α : Type} (expected : String) (pick : Value → Option (Except Reason α))
    (starts : UInt8 → Bool) : Decoder α where
  text _ s := do
    match skipBlank s with
    | [] => throw (.here .endInValue)
    | b :: rest =>
      if starts b then
        let (v, rest) ← atHere (scalarAt b rest)
        match pick v with
        | some x => return (← atHere x, rest)
        | none => throw (.here (.wrongType v.found expected))
      else throw (.here (mismatchAt expected (b :: rest)))
  plain v :=
    match pick v with
    | some x => x
    | none => .error (.wrongType v.found expected)

/-- A string, described in faults by the given words. -/
def stringAs (expected : String) : Decoder String :=
  scalar expected (fun | .string s => some (.ok s) | _ => none) (· == 34)

def string : Decoder String :=
  stringAs "a string"

def bool : Decoder Bool :=
  scalar "a boolean" (fun | .bool b => some (.ok b) | _ => none) (fun b => b == 116 || b == 102)

private def startsNumber (b : UInt8) : Bool :=
  b == 45 || isDigitByte b

/-- A number as a double-precision one. -/
def float : Decoder Binary64 :=
  scalar "f64"
    (fun
      | .number (.integer i) => some (.ok (.ofInt i))
      | .number (.float x) => some (.ok x)
      | _ => none)
    startsNumber

/-- A natural number of the given width. -/
def unsigned (bits : Nat) : Decoder Nat :=
  let name := s!"u{bits}"
  scalar name
    (fun
      | .number (.integer i) =>
        some (if 0 ≤ i ∧ i.toNat < Nat.pow 2 bits then .ok i.toNat
          else .error (.wrongValue (.integer i) name))
      | _ => none)
    startsNumber

/-- Any value; of a repeated key the last value counts. -/
def value : Decoder Value where
  text depth s := do
    let (v, rest) ← Json.value depth s
    return (v.merge, rest)
  plain v := .ok v.merge

/-- Reads null, or what the decoder reads. -/
def option {α : Type} (d : Decoder α) : Decoder (Option α) where
  text depth s :=
    match skipBlank s with
    | 110 :: rest => do
      return (none, ← atHere (word ['u', 'l', 'l'] rest))
    | s => do
      let (x, rest) ← d.text depth s
      return (some x, rest)
  plain
    | .null => .ok none
    | v => some <$> d.plain v

/-- Enters a container: one level of the depth is used up. -/
private def enter {α : Type} (depth : Nat) (inner : Nat → Except Fault α) : Except Fault α :=
  match depth with
  | 0 => .error (.here .tooDeep)
  | depth + 1 => inner depth

/-- An array of what the decoder reads. -/
def list {α : Type} (d : Decoder α) : Decoder (List α) where
  text depth s :=
    match skipBlank s with
    | [] => .error (.here .endInValue)
    | 91 :: rest => enter depth fun depth => elements (fun _ => d.text depth) rest
    | s => .error (.here (mismatchAt "a sequence" s))
  plain
    | .array items => items.mapM d.plain
    | v => .error (.wrongType v.found "a sequence")

/-- An object whose members the decoder reads. -/
def dict {α : Type} (d : Decoder α) : Decoder (List (String × α)) where
  text depth s :=
    match skipBlank s with
    | [] => .error (.here .endInValue)
    | 123 :: rest =>
      enter depth fun depth =>
        members (fun entries key => .ok fun s => do
          let (x, rest) ← d.text depth s
          return (Assoc.insert key x entries, rest)) [] rest
    | s => .error (.here (mismatchAt "a map" s))
  plain
    | .object entries =>
      entries.foldlM (fun collected (key, v) => do
        return Assoc.insert key (← d.plain v) collected) []
    | v => .error (.wrongType v.found "a map")

/-- What the name of a variant stands for. -/
private def variant {α : Type} (variants : List (String × α)) (name : String) :
    Except Reason α :=
  match variants.lookup name with
  | some x => .ok x
  | none => .error (.unknownVariant name (variants.map Prod.fst))

private def variantName : Decoder String :=
  stringAs "variant identifier"

/-- Null as the content of a variant that has none. -/
private def unitRest (s : Bytes) : Except Fault Bytes :=
  match skipBlank s with
  | [] => .error (.here .endInValue)
  | 110 :: rest => atHere (word ['u', 'l', 'l'] rest)
  | s => .error (.here (mismatchAt "unit" s))

/-- One of several names, either as a string or as the key of an object with `null` in it. -/
def enumeration {α : Type} (variants : List (String × α)) : Decoder α where
  text depth s :=
    match skipBlank s with
    | [] => .error (.here .endInValue)
    | 34 :: rest => do
      let (name, rest) ← atHere (stringRest rest)
      return (← atHere (variant variants name), rest)
    | 123 :: rest =>
      enter depth fun depth => do
        let (name, rest) ← variantName.text depth rest
        let x ← atHere (variant variants name)
        let rest ← colon rest
        let rest ← under (.key name) (unitRest rest)
        match skipBlank rest with
        | [] => throw (.here .endInObject)
        | 125 :: rest => return (x, rest)
        | _ => throw (.here .expectedValue)
    | _ => .error (.here .expectedValue)
  plain
    | .string name => variant variants name
    | .object [(name, content)] => do
      let x ← variant variants name
      match content with
      | .null => return x
      | .object [] => return x
      | v => throw (.wrongType v.found "unit")
    | .object _ => .error (.wrongValue .map "map with a single key")
    | v => .error (.wrongType v.found "string or map")

/-- A field of a record: its key, whether it must be there, and how its value changes the record. -/
structure RecordField (σ : Type) where
  name : String
  required : Bool
  set : Decoder (σ → σ)

/-- A field that must be there. -/
def required {σ α : Type} (name : String) (d : Decoder α) (set : α → σ → σ) : RecordField σ :=
  ⟨name, true, d.map set⟩

/-- A field that keeps the record's own value when it is absent. -/
def optional {σ α : Type} (name : String) (d : Decoder α) (set : α → σ → σ) : RecordField σ :=
  ⟨name, false, d.map set⟩

/-- A record under construction, with the names of the fields that were set. -/
structure Partial (σ : Type) where
  record : σ
  seen : List String

private def count (n : Nat) : String :=
  if n = 1 then "1 element" else s!"{n} elements"

/-- The record, if every required field was set. -/
private def Partial.finish {σ : Type} (fields : List (RecordField σ)) (p : Partial σ) :
    Except Reason σ :=
  match fields.find? fun field => field.required && !p.seen.contains field.name with
  | some field => .error (.missingField field.name)
  | none => .ok p.record

/-- Sets a field that was not set before. -/
private def Partial.fresh {σ : Type} (p : Partial σ) (name : String) : Except Reason Unit :=
  if p.seen.contains name then .error (.duplicateField name) else .ok ()

/-- The fields of a record by position from index `i` on, when a further item starts at `s`. What
follows the last field read is returned. -/
private def positionalFrom {σ : Type} (title : String) (total depth : Nat) :
    List (RecordField σ) → Nat → σ → Bytes → Except Fault (σ × Bytes)
  | [], _, record, s => .ok (record, s)
  | field :: fields, i, record, s => do
    let first := i == 0
    let s ← match skipBlank s with
      | [] => throw (.here .endInArray)
      | 93 :: rest =>
        match (field :: fields).findIdx? (·.required) with
        | some k => throw (.here (.wrongLength (i + k) s!"{title} with {count total}"))
        | none => return (record, 93 :: rest)
      | 44 :: rest =>
        if first then pure (44 :: rest)
        else
          match skipBlank rest with
          | [] => throw (.here .endInValue)
          | 93 :: _ => throw (.here .trailingComma)
          | rest => pure rest
      | rest => if first then pure rest else throw (.here .expectedCommaOrBracket)
    let (set, s) ← under (.index i) (field.set.text depth s)
    positionalFrom title total depth fields (i + 1) (set record) s

/-- The end of an array whose fields have all been read. -/
private def arrayEnd (s : Bytes) : Except Fault Bytes :=
  match skipBlank s with
  | [] => .error (.here .endInArray)
  | 93 :: rest => .ok rest
  | 44 :: rest =>
    match skipBlank rest with
    | 93 :: _ => .error (.here .trailingComma)
    | _ => .error (.here .trailingText)
  | _ => .error (.here .trailingText)

/-- The fields of a record from the members of an object already read. -/
private def named {σ : Type} (start : σ) (fields : List (RecordField σ))
    (entries : List (String × Value)) : Except Reason σ := do
  let p ← entries.foldlM (fun (p : Partial σ) (key, v) => do
    match fields.find? (·.name == key) with
    | none => return p
    | some field =>
      p.fresh key
      return ⟨(← field.set.plain v) p.record, key :: p.seen⟩) ⟨start, []⟩
  p.finish fields

/-- The fields of a record from the items of an array already read. -/
private def positional {σ : Type} (title : String) (start : σ) (fields : List (RecordField σ))
    (items : List Value) : Except Reason σ := do
  let record ← (fields.zip items).foldlM (fun record (field, v) => do
    return (← field.set.plain v) record) start
  match (fields.drop items.length).findIdx? (·.required) with
  | some k => throw (.wrongLength (items.length + k) s!"{title} with {count fields.length}")
  | none =>
    if fields.length < items.length then
      throw (.wrongLength items.length s!"{count fields.length} in sequence")
    return record

/-- A record, as an object or as an array of its fields in order. -/
def ofFields {σ : Type} (title : String) (start : σ) (fields : List (RecordField σ)) : Value →
    Except Reason σ
  | .object entries => named start fields entries
  | .array items => positional title start fields items
  | v => .error (.wrongType v.found title)

/-- A record with the given fields; other members are passed over. -/
def record {σ : Type} (title : String) (start : σ) (fields : List (RecordField σ)) : Decoder σ where
  text depth s :=
    match skipBlank s with
    | [] => .error (.here .endInValue)
    | 91 :: rest =>
      enter depth fun depth => do
        let (record, rest) ← positionalFrom title fields.length depth fields 0 start rest
        return (record, ← arrayEnd rest)
    | 123 :: rest =>
      enter depth fun depth => do
        let entry (p : Partial σ) (key : String) : Except Reason (Reader (Partial σ)) :=
          match fields.find? (·.name == key) with
          | none => .ok fun s => do
            let ((), rest) ← skip s
            return (p, rest)
          | some field => do
            p.fresh key
            return fun s => do
              let (set, rest) ← field.set.text depth s
              return (⟨set p.record, key :: p.seen⟩, rest)
        let (p, rest) ← members entry ⟨start, []⟩ rest
        return (← atHere (p.finish fields), rest)
    | s => .error (.here (mismatchAt title s))
  plain := ofFields title start fields

/-- A record some of whose members belong to a second record in it: members that are no fields are
kept as plain values and read when the object is complete. -/
def flattened {σ : Type} (title : String) (start : σ) (fields : List (RecordField σ))
    (others : List (String × Value) → σ → Except Reason σ) : Decoder σ where
  text depth s :=
    match skipBlank s with
    | [] => .error (.here .endInValue)
    | 123 :: rest =>
      enter depth fun depth => do
        let entry (state : Partial σ × List (String × Value)) (key : String) :
            Except Reason (Reader (Partial σ × List (String × Value))) :=
          let (p, kept) := state
          match fields.find? (·.name == key) with
          | none => .ok fun s => do
            let (v, rest) ← Json.value depth s
            return ((p, (key, v) :: kept), rest)
          | some field => do
            p.fresh key
            return fun s => do
              let (set, rest) ← field.set.text depth s
              return ((⟨set p.record, key :: p.seen⟩, kept), rest)
        let ((p, kept), rest) ← members entry (⟨start, []⟩, []) rest
        let record ← atHere (p.finish fields)
        return (← atHere (others kept.reverse record), rest)
    | s => .error (.here (mismatchAt title s))
  plain
    | .object entries => do
      let record ← named start fields entries
      let names := fields.map (·.name)
      others (entries.filter fun (key, _) => !names.contains key) record
    | v => .error (.wrongType v.found title)

/-- The variants of a tagged type: each name with the decoder of the members beside the tag. -/
abbrev Variants (α : Type) := List (String × (Value → Except Reason α))

/-- A variant without content: further members are ignored, further items are not. -/
def noContent {α : Type} (x : α) : Value → Except Reason α
  | .array (item :: items) =>
    .error (.wrongLength (item :: items).length "0 elements in sequence")
  | _ => .ok x

/-- The variant that a tag already read names, by its name or its position. -/
private def tagOf {α : Type} (variants : Variants α) :
    Value → Except Reason (Value → Except Reason α)
  | .string name => variant variants name
  | .number (.integer i) =>
    if i < 0 then .error (.wrongType (.integer i) "variant identifier")
    else
      match variants[i.toNat]? with
      | some (_, d) => .ok d
      | none =>
        .error (.wrongValue (.integer i) s!"variant index 0 <= i < {variants.length}")
  | v => .error (.wrongType v.found "variant identifier")

/-- One part of a tagged value: the tag's meaning or a plain value. -/
private inductive Part (α : Type) where
  | tag (decode : Value → Except Reason α)
  | content (v : Value)

/-- The tag and the other members of an object already read. -/
private def splitTag {α : Type} (tag : String) (variants : Variants α)
    (entries : List (String × Value)) : Except Reason α := do
  let found ← entries.foldlM (fun (found : Option (Value → Except Reason α)) (key, v) => do
    if key == tag then
      if found.isSome then throw (.duplicateField tag)
      return some (← tagOf variants v)
    else return found) none
  match found with
  | none => throw (.missingField tag)
  | some decode => decode (.object (entries.filter fun (key, _) => key != tag))

/-- A type with variants that are told apart by the member `tag`, or by the first item of an array.
The rest is kept as a plain value until the whole has been read. -/
def tagged {α : Type} (tag title : String) (variants : Variants α) : Decoder α where
  text depth s :=
    match skipBlank s with
    | [] => .error (.here .endInValue)
    | 123 :: rest =>
      enter depth fun depth => do
        let entry (state : Option (Value → Except Reason α) × List (String × Value))
            (key : String) :
            Except Reason (Reader (Option (Value → Except Reason α) × List (String × Value))) :=
          let (found, kept) := state
          if key == tag then
            if found.isSome then .error (.duplicateField tag)
            else .ok fun s => do
              let (name, rest) ← variantName.text depth s
              return ((some (← atHere (variant variants name)), kept), rest)
          else .ok fun s => do
            let (v, rest) ← Json.value depth s
            return ((found, (key, v) :: kept), rest)
        let ((found, kept), rest) ← members entry (none, []) rest
        match found with
        | none => throw (.here (.missingField tag))
        | some decode => return (← atHere (decode (.object kept.reverse)), rest)
    | 91 :: rest =>
      enter depth fun depth => do
        let read (i : Nat) : Reader (Part α) := fun s =>
          if i = 0 then do
            let (name, rest) ← variantName.text depth s
            return (.tag (← atHere (variant variants name)), rest)
          else do
            let (v, rest) ← Json.value depth s
            return (.content v, rest)
        let (parts, rest) ← elements read rest
        match parts with
        | .tag decode :: parts =>
          let items := parts.filterMap fun | .content v => some v | .tag _ => none
          return (← atHere (decode (.array items)), rest)
        | _ => throw (.here (.missingField tag))
    | b :: rest => do
      let (v, _) ← atHere (scalarAt b rest)
      throw (.here (.wrongType v.found title))
  plain
    | .object entries => splitTag tag variants entries
    | .array [] => .error (.missingField tag)
    | .array (v :: items) => do
      let decode ← tagOf variants v
      decode (.array items)
    | v => .error (.wrongType v.found title)

/-- A type that is told by its content alone: the value is read as a whole, and what it means is
decided afterwards. -/
def whole {α : Type} (d : Value → Except Reason α) : Decoder α where
  text depth s := do
    let (v, rest) ← Json.value depth s
    return (← atHere (d v), rest)
  plain := d

/-- Reads a document; whatever follows its value is left alone. -/
def run {α : Type} (d : Decoder α) (s : Bytes) : Except Fault α := do
  let (x, _) ← d.text depthLimit s
  return x

end Decoder

end Json

end ApiCall
