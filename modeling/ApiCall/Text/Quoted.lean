import ApiCall.Text.Invisible

/-!
Texts as they are quoted in messages: between double quotes, with backslash escapes for quotes,
backslashes and common controls, and numbers in braces for characters without a visible form.
-/

namespace ApiCall

namespace Quoted

/-- One character between quotes. -/
def escapeChar (c : Char) : List Char :=
  if c == Char.ofNat 0 then ['\\', '0']
  else if c == '\t' then ['\\', 't']
  else if c == '\r' then ['\\', 'r']
  else if c == '\n' then ['\\', 'n']
  else if c == '"' then ['\\', '"']
  else if c == '\\' then ['\\', '\\']
  else if Invisible.contains c.toNat then
    ['\\', 'u', '\x7b'] ++ Nat.toDigits 16 c.toNat ++ ['\x7d']
  else [c]

/-- The text between double quotes. -/
def quote (s : String) : String :=
  String.ofList ('"' :: s.toList.flatMap escapeChar ++ ['"'])

/-- A bracketed list of quoted texts. -/
def quoteList (xs : List String) : String :=
  "[" ++ ", ".intercalate (xs.map quote) ++ "]"

end Quoted

end ApiCall
