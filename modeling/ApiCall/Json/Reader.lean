import ApiCall.Decimal.Real
import ApiCall.Json.Fault
import ApiCall.Text.Percent

/-!
Reading JSON text byte by byte. A reader takes the rest of the text and gives a value and what
follows it. Arrays and objects are read by two loops, `elements` and `members`, that take the reader
of their parts; what is read of the parts decides what is built. Nesting is bounded by a depth, and
`skip` passes over a value of any depth without looking into its strings and numbers.
-/

namespace ApiCall

namespace Json

/-- Reads a value at the front of a text and gives what follows it. -/
abbrev Reader (α : Type) := Bytes → Except Fault (α × Bytes)

/-- The rest of a text from its next byte that is no blank. -/
def skipBlank (s : Bytes) : Bytes :=
  s.dropWhile fun b => b == 32 || b == 10 || b == 9 || b == 13

def isDigitByte (b : UInt8) : Bool :=
  decide (48 ≤ b.toNat ∧ b.toNat ≤ 57)

/-- Whether the next byte is there and satisfies a test. -/
def nextIs (p : UInt8 → Bool) : Bytes → Bool
  | [] => false
  | b :: _ => p b

/-- The value of four hexadecimal digits. -/
def hex4? (a b c d : UInt8) : Option Nat := do
  let a ← Percent.digitValue? a.toNat
  let b ← Percent.digitValue? b.toNat
  let c ← Percent.digitValue? c.toNat
  let d ← Percent.digitValue? d.toNat
  return ((a * 16 + b) * 16 + c) * 16 + d

/-- The byte that a one-letter escape stands for. -/
def simpleEscape? (b : UInt8) : Option UInt8 :=
  if b = 34 ∨ b = 92 ∨ b = 47 then some b
  else if b = 98 then some 8
  else if b = 102 then some 12
  else if b = 110 then some 10
  else if b = 114 then some 13
  else if b = 116 then some 9
  else none

/-- The bytes up to the closing quote, escapes resolved, and what follows the quote. -/
def stringBytes : Bytes → Except Reason (Bytes × Bytes)
  | [] => .error .endInString
  | 92 :: [] => .error .endInString
  | 92 :: 117 :: a :: b :: c :: d :: rest =>
    match hex4? a b c d with
    | none => .error .invalidEscape
    | some n =>
      if 0xDC00 ≤ n ∧ n ≤ 0xDFFF then .error .loneSurrogate
      else if 0xD800 ≤ n ∧ n ≤ 0xDBFF then
        match rest with
        | [] => .error .endInString
        | 92 :: [] => .error .endInString
        | 92 :: 117 :: a :: b :: c :: d :: rest =>
          match hex4? a b c d with
          | none => .error .invalidEscape
          | some m =>
            if 0xDC00 ≤ m ∧ m ≤ 0xDFFF then do
              let code := 0x10000 + (n - 0xD800) * 1024 + (m - 0xDC00)
              let (text, rest) ← stringBytes rest
              return (Utf8.encodeChar (Char.ofNat code) ++ text, rest)
            else .error .loneSurrogate
        | 92 :: 117 :: _ => .error .endInString
        | _ => .error .brokenPair
      else do
        let (text, rest) ← stringBytes rest
        return (Utf8.encodeChar (Char.ofNat n) ++ text, rest)
  | 92 :: 117 :: _ => .error .endInString
  | 92 :: b :: rest =>
    match simpleEscape? b with
    | none => .error .invalidEscape
    | some b => do
      let (text, rest) ← stringBytes rest
      return (b :: text, rest)
  | b :: rest =>
    if b = 34 then .ok ([], rest)
    else if b < 32 then .error .controlCharacter
    else do
      let (text, rest) ← stringBytes rest
      return (b :: text, rest)

/-- The string that starts after an opening quote. -/
def stringRest (s : Bytes) : Except Reason (String × Bytes) := do
  let (bytes, rest) ← stringBytes s
  match stringOf? bytes with
  | some text => return (text, rest)
  | none => throw .invalidUtf8

/-- Reads the remaining letters of `null`, `true` or `false`. -/
def word : List Char → Bytes → Except Reason Bytes
  | [], s => .ok s
  | _ :: _, [] => .error .endInValue
  | c :: cs, b :: rest => if b.toNat = c.toNat then word cs rest else .error .expectedWord

/-- Appends digits to a significand while it fits into 64 bits; gives the significand, how many
digits were taken and whether any was left. -/
def takeDigits (significand count : Nat) : Bytes → Nat × Nat × Bool
  | [] => (significand, count, false)
  | b :: rest =>
    let next := significand * 10 + (b.toNat - 48)
    if next < 0x1_0000_0000_0000_0000 then takeDigits next (count + 1) rest
    else (significand, count, true)

/-- The number of digits, as a natural number. -/
def digitsValue (digits : Bytes) : Nat :=
  digits.foldl (fun n b => n * 10 + (b.toNat - 48)) 0

/-- A number computed from its significand and power of ten. -/
def realNumber (negative : Bool) (significand : Nat) (exponent : Int) : Except Reason Number :=
  match Decimal.stepwise significand exponent with
  | some x => .ok (.float (if negative then x.negate else x))
  | none => .error .numberOutOfRange

/-- The exponent after its mark, added to a power of ten. -/
def exponentRest (negative : Bool) (significand : Nat) (power : Int) (s : Bytes) :
    Except Reason (Number × Bytes) :=
  let (down, s) := match s with
    | 43 :: s => (false, s)
    | 45 :: s => (true, s)
    | s => (false, s)
  match s with
  | [] => .error .endInValue
  | b :: _ =>
    if isDigitByte b then
      let n := digitsValue (s.takeWhile isDigitByte)
      let rest := s.dropWhile isDigitByte
      if n < 0x8000_0000 then do
        let x ← realNumber negative significand (if down then power - n else power + n)
        return (x, rest)
      else if significand ≠ 0 ∧ !down then .error .numberOutOfRange
      else .ok (.float (.zero negative), rest)
    else .error .invalidNumber

/-- What follows a number's digits: an exponent, or nothing that belongs to the number. -/
def scaled (negative : Bool) (significand : Nat) (power : Int) (s : Bytes) :
    Except Reason (Number × Bytes) :=
  match s with
  | 101 :: rest => exponentRest negative significand power rest
  | 69 :: rest => exponentRest negative significand power rest
  | rest => do
    let x ← realNumber negative significand power
    return (x, rest)

/-- The digits after a point. Digits that no longer fit into the significand are dropped. -/
def fractionRest (negative : Bool) (significand : Nat) (power : Int) (s : Bytes) :
    Except Reason (Number × Bytes) :=
  let digits := s.takeWhile isDigitByte
  let rest := s.dropWhile isDigitByte
  if digits.isEmpty then
    .error (if rest.isEmpty then .endInValue else .invalidNumber)
  else
    let (significand, count, _) := takeDigits significand 0 digits
    scaled negative significand (power - count) rest

/-- An integer literal, or the double-precision number of one outside the 64-bit ranges. -/
def integerNumber (negative : Bool) (significand : Nat) : Number :=
  if negative then
    if 0 < significand ∧ significand ≤ 0x8000_0000_0000_0000 then .integer (-(significand : Int))
    else .float (.ofRatio true significand 1)
  else .integer significand

/-- The number whose sign has been read. -/
def numberRest (negative : Bool) (s : Bytes) : Except Reason (Number × Bytes) :=
  match s with
  | [] => .error .endInValue
  | b :: after =>
    if !isDigitByte b then .error .invalidNumber
    else if b = 48 ∧ nextIs isDigitByte after then .error .invalidNumber
    else
      let digits := s.takeWhile isDigitByte
      let rest := s.dropWhile isDigitByte
      let (significand, count, long) := takeDigits 0 0 digits
      let power : Int := (digits.length - count : Nat)
      match rest with
      | 46 :: rest => fractionRest negative significand power rest
      | rest =>
        if long ∨ nextIs (fun b => b == 101 || b == 69) rest then
          scaled negative significand power rest
        else .ok (integerNumber negative significand, rest)

/-- A reader of something that is not a container. -/
def scalarAt (b : UInt8) (rest : Bytes) : Except Reason (Value × Bytes) :=
  if b = 110 then do
    return (.null, ← word ['u', 'l', 'l'] rest)
  else if b = 116 then do
    return (.bool true, ← word ['r', 'u', 'e'] rest)
  else if b = 102 then do
    return (.bool false, ← word ['a', 'l', 's', 'e'] rest)
  else if b = 34 then do
    let (text, rest) ← stringRest rest
    return (.string text, rest)
  else if b = 45 then do
    let (n, rest) ← numberRest true rest
    return (.number n, rest)
  else if isDigitByte b then do
    let (n, rest) ← numberRest false (b :: rest)
    return (.number n, rest)
  else .error .expectedValue

/-- The items of an array from one that starts at `s`, each read by its position. A text of `fuel`
bytes has no more items than that. -/
def elementsFrom {α : Type} (read : Nat → Reader α) : Nat → Nat → Reader (List α)
  | 0, _, _ => .error (.here .endInArray)
  | fuel + 1, i, s => do
    let (x, s) ← under (.index i) (read i s)
    match skipBlank s with
    | [] => throw (.here .endInArray)
    | 93 :: rest => return ([x], rest)
    | 44 :: rest =>
      match skipBlank rest with
      | [] => throw (.here .endInValue)
      | 93 :: _ => throw (.here .trailingComma)
      | s => do
        let (xs, rest) ← elementsFrom read fuel (i + 1) s
        return (x :: xs, rest)
    | _ => throw (.here .expectedCommaOrBracket)

/-- The items of an array whose bracket has been read. -/
def elements {α : Type} (read : Nat → Reader α) : Reader (List α) := fun s =>
  match skipBlank s with
  | [] => .error (.here .endInArray)
  | 93 :: rest => .ok ([], rest)
  | s => elementsFrom read s.length 0 s

/-- The colon between a key and its value. -/
def colon (s : Bytes) : Except Fault Bytes :=
  match skipBlank s with
  | [] => .error (.here .endInObject)
  | 58 :: rest => .ok rest
  | _ => .error (.here .expectedColon)

/-- The members of an object from a key whose quote has been read. Each key chooses the reader that
turns what was collected so far and the member's value into what is collected next. -/
def membersFrom {σ : Type} (entry : σ → String → Except Reason (Reader σ)) : Nat → σ → Reader σ
  | 0, _, _ => .error (.here .endInObject)
  | fuel + 1, collected, s => do
    let (key, s) ← under .unknown (atHere (stringRest s))
    let read ← atHere (entry collected key)
    let s ← colon s
    let (collected, s) ← under (.key key) (read s)
    match skipBlank s with
    | [] => throw ⟨[.unknown], .endInObject⟩
    | 125 :: rest => return (collected, rest)
    | 44 :: rest =>
      match skipBlank rest with
      | [] => throw ⟨[.unknown], .endInValue⟩
      | 34 :: rest => membersFrom entry fuel collected rest
      | 125 :: _ => throw ⟨[.unknown], .trailingComma⟩
      | _ => throw ⟨[.unknown], .keyNotString⟩
    | _ => throw ⟨[.unknown], .expectedCommaOrBrace⟩

/-- The members of an object whose brace has been read. -/
def members {σ : Type} (entry : σ → String → Except Reason (Reader σ)) (start : σ) : Reader σ :=
  fun s =>
    match skipBlank s with
    | [] => .error ⟨[.unknown], .endInObject⟩
    | 125 :: rest => .ok (start, rest)
    | 34 :: rest => membersFrom entry rest.length.succ start rest
    | _ => .error ⟨[.unknown], .keyNotString⟩

/-- Reads any value with at most `depth` containers around each other. Repeated keys are kept. -/
def value (depth : Nat) : Reader Value := fun s =>
  match skipBlank s with
  | [] => .error (.here .endInValue)
  | b :: rest =>
    if b = 91 then
      match depth with
      | 0 => .error (.here .tooDeep)
      | depth + 1 => do
        let (items, rest) ← elements (fun _ => value depth) rest
        return (.array items, rest)
    else if b = 123 then
      match depth with
      | 0 => .error (.here .tooDeep)
      | depth + 1 => do
        let entry (collected : List (String × Value)) (key : String) :
            Except Reason (Reader (List (String × Value))) :=
          .ok fun s => do
            let (v, rest) ← value depth s
            return ((key, v) :: collected, rest)
        let (collected, rest) ← members entry [] rest
        return (.object collected.reverse, rest)
    else atHere (scalarAt b rest)

/-- How many containers may stand around each other in a document. -/
def depthLimit : Nat := 127

/-- The reason why a value that starts at `s` is not of the expected type: what it is, or why it
cannot be read. Containers are told by their first byte. -/
def mismatchAt (expected : String) (s : Bytes) : Reason :=
  match s with
  | [] => .expectedValue
  | b :: rest =>
    if b = 91 then .wrongType .sequence expected
    else if b = 123 then .wrongType .map expected
    else
      match scalarAt b rest with
      | .ok (v, _) => .wrongType v.found expected
      | .error reason => reason

/-- A string's content passed over: escapes are checked for their form only. -/
def skipString : Bytes → Except Reason Bytes
  | [] => .error .endInString
  | 92 :: [] => .error .endInString
  | 92 :: 117 :: a :: b :: c :: d :: rest =>
    if (hex4? a b c d).isSome then skipString rest else .error .invalidEscape
  | 92 :: 117 :: _ => .error .endInString
  | 92 :: b :: rest =>
    if (simpleEscape? b).isSome then skipString rest else .error .invalidEscape
  | b :: rest =>
    if b = 34 then .ok rest
    else if b < 32 then .error .controlCharacter
    else skipString rest

/-- The exponent of a number passed over. -/
def skipExponent (s : Bytes) : Except Reason Bytes :=
  let s := match s with
    | 43 :: s => s
    | 45 :: s => s
    | s => s
  if nextIs isDigitByte s then .ok (s.dropWhile isDigitByte) else .error .invalidNumber

/-- What may follow the digits of a number, passed over. -/
def skipScale (s : Bytes) : Except Reason Bytes :=
  match s with
  | 101 :: rest => skipExponent rest
  | 69 :: rest => skipExponent rest
  | rest => .ok rest

/-- A number whose sign has been read, passed over. -/
def skipNumber (s : Bytes) : Except Reason Bytes :=
  match s with
  | [] => .error .invalidNumber
  | b :: after =>
    if !isDigitByte b then .error .invalidNumber
    else if b = 48 ∧ nextIs isDigitByte after then .error .invalidNumber
    else
      match s.dropWhile isDigitByte with
      | 46 :: rest =>
        if nextIs isDigitByte rest then skipScale (rest.dropWhile isDigitByte)
        else .error .invalidNumber
      | rest => skipScale rest

/-- A scalar passed over. -/
def skipScalar (b : UInt8) (rest : Bytes) : Except Reason Bytes :=
  if b = 110 then word ['u', 'l', 'l'] rest
  else if b = 116 then word ['r', 'u', 'e'] rest
  else if b = 102 then word ['a', 'l', 's', 'e'] rest
  else if b = 34 then skipString rest
  else if b = 45 then skipNumber rest
  else if isDigitByte b then skipNumber (b :: rest)
  else .error .expectedValue

/-- The containers that are open around a value, innermost first: `true` for an object. -/
abbrev Open := List Bool

/-- What is expected next when a value is passed over. -/
inductive Expecting where
  | value
  | key
  | separator
  deriving DecidableEq, Repr

/-- Passes over the rest of a value, given the open containers. Each round but the last consumes a
byte, or turns from a value to what follows it, so twice the length of the text bounds them. -/
def skipFrom : Nat → Open → Expecting → Bytes → Except Reason Bytes
  | 0, _, _, _ => .error .endInValue
  | _ + 1, [], .separator, s => .ok s
  | fuel + 1, opened, .value, s =>
    match skipBlank s with
    | [] => .error .endInValue
    | b :: rest =>
      if b = 91 then
        match skipBlank rest with
        | [] => .error .endInArray
        | 93 :: rest => skipFrom fuel opened .separator rest
        | rest => skipFrom fuel (false :: opened) .value rest
      else if b = 123 then
        match skipBlank rest with
        | [] => .error .endInObject
        | 125 :: rest => skipFrom fuel opened .separator rest
        | rest => skipFrom fuel (true :: opened) .key rest
      else do
        let rest ← skipScalar b rest
        skipFrom fuel opened .separator rest
  | fuel + 1, opened, .key, s =>
    match skipBlank s with
    | [] => .error .endInObject
    | 34 :: rest => do
      let rest ← skipString rest
      match skipBlank rest with
      | [] => throw .endInObject
      | 58 :: rest => skipFrom fuel opened .value rest
      | _ => throw .expectedColon
    | _ => .error .keyNotString
  | fuel + 1, false :: opened, .separator, s =>
    match skipBlank s with
    | [] => .error .endInArray
    | 44 :: rest => skipFrom fuel (false :: opened) .value rest
    | 93 :: rest => skipFrom fuel opened .separator rest
    | _ => .error .expectedCommaOrBracket
  | fuel + 1, true :: opened, .separator, s =>
    match skipBlank s with
    | [] => .error .endInObject
    | 44 :: rest => skipFrom fuel (true :: opened) .key rest
    | 125 :: rest => skipFrom fuel opened .separator rest
    | _ => .error .expectedCommaOrBrace

/-- Passes over a value. -/
def skip : Reader Unit := fun s =>
  match skipFrom (2 * s.length + 2) [] .value s with
  | .ok rest => .ok ((), rest)
  | .error reason => .error (.here reason)

/-- The value of a whole text: a document with nothing but blanks around it. -/
def parse? (s : Bytes) : Option Value :=
  match value depthLimit s with
  | .ok (v, rest) => if (skipBlank rest).isEmpty then some v.merge else none
  | .error _ => none

end Json

end ApiCall
