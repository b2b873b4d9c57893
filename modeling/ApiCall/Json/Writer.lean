import ApiCall.Decimal.Shortest
import ApiCall.Json.Value
import ApiCall.Text.Utf8

/-!
The compact JSON text of a value: no blanks, members in their order, and only quotes, backslashes
and control characters escaped.
-/

namespace ApiCall

namespace Json

private def hexDigit (n : Nat) : Char :=
  if n < 10 then Char.ofNat (48 + n) else Char.ofNat (87 + n)

/-- One character inside a JSON string. -/
def escapeChar (c : Char) : List Char :=
  if c == '"' then ['\\', '"']
  else if c == '\\' then ['\\', '\\']
  else if c == '\n' then ['\\', 'n']
  else if c == '\r' then ['\\', 'r']
  else if c == '\t' then ['\\', 't']
  else if c.toNat = 8 then ['\\', 'b']
  else if c.toNat = 12 then ['\\', 'f']
  else if c.toNat < 32 then ['\\', 'u', '0', '0', hexDigit (c.toNat / 16), hexDigit (c.toNat % 16)]
  else [c]

/-- A JSON string literal. -/
def quote (s : String) : List Char :=
  '"' :: s.toList.flatMap escapeChar ++ ['"']

def Number.write : Number → List Char
  | .integer i => Decimal.ofInt i
  | .float x => Decimal.jsonText x

mutual

/-- The compact text of a value. -/
def Value.write : Value → List Char
  | .null => "null".toList
  | .bool true => "true".toList
  | .bool false => "false".toList
  | .number n => n.write
  | .string s => quote s
  | .array items => '[' :: writeItems items ++ [']']
  | .object members => '\x7b' :: writeMembers members ++ ['\x7d']

/-- The items of an array with commas between them. -/
def writeItems : List Value → List Char
  | [] => []
  | [v] => v.write
  | v :: rest => v.write ++ ',' :: writeItems rest

/-- The members of an object with commas between them. -/
def writeMembers : List (String × Value) → List Char
  | [] => []
  | [(key, v)] => quote key ++ ':' :: v.write
  | (key, v) :: rest => quote key ++ ':' :: v.write ++ ',' :: writeMembers rest

end

/-- The compact text of a value as a string. -/
def Value.text (v : Value) : String :=
  String.ofList v.write

/-- The compact text of a value in bytes. -/
def Value.bytes (v : Value) : Bytes :=
  Utf8.encode v.write

end Json

end ApiCall
