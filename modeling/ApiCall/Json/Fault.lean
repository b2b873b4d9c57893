import ApiCall.Decimal.Shortest
import ApiCall.Json.Value
import ApiCall.Text.Quoted

/-!
Why a JSON document cannot be read as a certain type, and where. A fault is met at the innermost
value and takes the steps that lead there from each container around it.
-/

namespace ApiCall

namespace Json

/-- What was met where something else was wanted. -/
inductive Found where
  | null
  | bool (b : Bool)
  | integer (i : Int)
  | float (x : Binary64)
  | string (s : String)
  | sequence
  | map
  deriving DecidableEq, Repr

/-- The description of a value in messages. -/
def Value.found : Value → Found
  | .null => .null
  | .bool b => .bool b
  | .number (.integer i) => .integer i
  | .number (.float x) => .float x
  | .string s => .string s
  | .array _ => .sequence
  | .object _ => .map

def Found.text : Found → String
  | .null => "null"
  | .bool b => s!"boolean `{b}`"
  | .integer i => s!"integer `{String.ofList (Decimal.ofInt i)}`"
  | .float x => s!"floating point `{String.ofList (Decimal.jsonText x)}`"
  | .string s => s!"string {Quoted.quote s}"
  | .sequence => "sequence"
  | .map => "map"

inductive Reason where
  | endInValue
  | endInString
  | endInArray
  | endInObject
  | expectedValue
  | expectedWord
  | expectedColon
  | expectedCommaOrBracket
  | expectedCommaOrBrace
  | keyNotString
  | trailingComma
  | trailingText
  | invalidNumber
  | numberOutOfRange
  | invalidEscape
  /-- A surrogate that does not pair with the one before or after it. -/
  | loneSurrogate
  /-- The first half of a surrogate pair without an escape after it. -/
  | brokenPair
  | controlCharacter
  | invalidUtf8
  | tooDeep
  | wrongType (found : Found) (expected : String)
  | wrongValue (found : Found) (expected : String)
  | wrongLength (count : Nat) (expected : String)
  | unknownVariant (name : String) (variants : List String)
  | missingField (name : String)
  | duplicateField (name : String)
  /-- A value of the right type that the type's own rules refuse. -/
  | refused (message : String)
  deriving DecidableEq, Repr

/-- The choice of variants in messages. -/
def oneOf : List String → String
  | [] => "there are no variants"
  | [a] => s!"expected `{a}`"
  | [a, b] => s!"expected `{a}` or `{b}`"
  | names => "expected one of " ++ ", ".intercalate (names.map fun name => s!"`{name}`")

def Reason.message : Reason → String
  | .endInValue => "EOF while parsing a value"
  | .endInString => "EOF while parsing a string"
  | .endInArray => "EOF while parsing a list"
  | .endInObject => "EOF while parsing an object"
  | .expectedValue => "expected value"
  | .expectedWord => "expected ident"
  | .expectedColon => "expected `:`"
  | .expectedCommaOrBracket => "expected `,` or `]`"
  | .expectedCommaOrBrace => "expected `,` or `\x7d`"
  | .keyNotString => "key must be a string"
  | .trailingComma => "trailing comma"
  | .trailingText => "trailing characters"
  | .invalidNumber => "invalid number"
  | .numberOutOfRange => "number out of range"
  | .invalidEscape => "invalid escape"
  | .loneSurrogate => "lone leading surrogate in hex escape"
  | .brokenPair => "unexpected end of hex escape"
  | .controlCharacter => "control character (\\u0000-\\u001F) found while parsing a string"
  | .invalidUtf8 => "invalid unicode code point"
  | .tooDeep => "recursion limit exceeded"
  | .wrongType found expected => s!"invalid type: {found.text}, expected {expected}"
  | .wrongValue found expected => s!"invalid value: {found.text}, expected {expected}"
  | .wrongLength count expected => s!"invalid length {count}, expected {expected}"
  | .unknownVariant name variants => s!"unknown variant `{name}`, {oneOf variants}"
  | .missingField name => s!"missing field `{name}`"
  | .duplicateField name => s!"duplicate field `{name}`"
  | .refused message => message

/-- One step from a container to a value in it. -/
inductive Step where
  | index (i : Nat)
  | key (name : String)
  /-- The place of a key that could not be read. -/
  | unknown
  deriving DecidableEq, Repr

/-- A reason and the way to the value where it was met. -/
structure Fault where
  path : List Step
  reason : Reason
  deriving DecidableEq, Repr

/-- A fault at the current value. -/
def Fault.here (reason : Reason) : Fault :=
  ⟨[], reason⟩

/-- Steps with dots between them; an index attaches to what stands before it. -/
def Step.render : Bool → List Step → String
  | _, [] => ""
  | _, .index i :: rest => s!"[{i}]" ++ render false rest
  | first, .key name :: rest => (if first then "" else ".") ++ name ++ render false rest
  | first, .unknown :: rest => (if first then "" else ".") ++ "?" ++ render false rest

/-- The way to the faulty value; a dot stands for the document itself. -/
def Fault.pathText (f : Fault) : String :=
  match f.path with
  | [] => "."
  | path => Step.render true path

/-- Moves the fault of a part under the step that leads to the part. -/
def under {α : Type} (step : Step) : Except Fault α → Except Fault α
  | .ok x => .ok x
  | .error f => .error ⟨step :: f.path, f.reason⟩

/-- Reports a reason at the current value. -/
def atHere {α : Type} : Except Reason α → Except Fault α
  | .ok x => .ok x
  | .error reason => .error (Fault.here reason)

end Json

end ApiCall
