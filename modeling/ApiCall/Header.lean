import ApiCall.Error

/-!
Headers of requests and responses. Names are compared without regard to case and kept in lower case
and in sorted order; the values of one name keep the order in which they were added.
-/

namespace ApiCall

/-- Why a text can be no part of a header. -/
inductive HeaderFault where
  | name
  | value
  deriving DecidableEq, Repr

def HeaderFault.message : HeaderFault → String
  | .name => "invalid HTTP header name"
  | .value => "failed to parse header value"

/-- Characters of header names: letters, digits and fifteen marks. -/
def isHeaderNameChar (c : Char) : Bool :=
  c.isAlphanum || "!#$%&'*+-.^_`|~".toList.contains c

/-- The longest header name. -/
def maxHeaderName : Nat := 65535

/-- The lower-case form of a header name. -/
def headerName (text : String) : Except HeaderFault String :=
  if text ≠ "" ∧ text.toList.all isHeaderNameChar ∧ text.utf8ByteSize ≤ maxHeaderName then
    .ok (lowerAscii text)
  else .error .name

/-- Bytes of header values: all but controls, with the tab allowed. -/
def isHeaderValueByte (b : UInt8) : Bool :=
  (32 ≤ b && b != 127) || b == 9

/-- The bytes of a header value, if all of them are allowed. -/
def headerValue (value : Bytes) : Except HeaderFault Bytes :=
  if value.all isHeaderValueByte then .ok value else .error .value

/-- The text of a header value of visible ASCII characters, blanks and tabs. -/
def headerText? (value : Bytes) : Option String :=
  if value.all fun b => (32 ≤ b && b < 127) || b == 9 then
    some (String.ofList (value.map fun b => Char.ofNat b.toNat))
  else none

structure Headers where
  /-- The names in sorted order, each with its values. -/
  entries : List (String × List Bytes) := []
  deriving DecidableEq, Repr, Inhabited

namespace Headers

/-- Changes the values of one name, which are none if the name is not there. -/
def update (name : String) (change : List Bytes → List Bytes) :
    List (String × List Bytes) → List (String × List Bytes)
  | [] => [(name, change [])]
  | (n, values) :: rest =>
    if name = n then (n, change values) :: rest
    else if name < n then (name, change []) :: (n, values) :: rest
    else (n, values) :: update name change rest

/-- Sets the one value of a name. -/
def insert (h : Headers) (name : String) (value : Bytes) : Headers :=
  ⟨update name (fun _ => [value]) h.entries⟩

/-- Adds a value after those of the same name. -/
def append (h : Headers) (name : String) (value : Bytes) : Headers :=
  ⟨update name (· ++ [value]) h.entries⟩

/-- All values of a lower-case name. -/
def values (h : Headers) (name : String) : List Bytes :=
  (h.entries.lookup name).getD []

/-- The first value of a name in any case, if it is a text. -/
def text? (h : Headers) (name : String) : Option String :=
  (h.values (lowerAscii name)).head?.bind headerText?

/-- Every name with each of its values. -/
def toList (h : Headers) : List (String × Bytes) :=
  h.entries.flatMap fun (name, values) => values.map fun value => (name, value)

/-- Sets a header of a request, whose name and value must be valid. -/
def set (h : Headers) (name value : String) : Except Error Headers :=
  match headerName name, headerValue (bytesOf value) with
  | .ok n, .ok v => .ok (h.insert n v)
  | .error fault, _ => .error (.invalidHeader name fault.message)
  | _, .error fault => .error (.invalidHeader name fault.message)

end Headers

end ApiCall
