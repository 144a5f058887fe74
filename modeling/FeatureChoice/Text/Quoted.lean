import FeatureChoice.Text.Unprintable
/-!
Quoted texts, as values are shown in messages. A text stands in single quotes, or in double quotes
if it holds a single quote and no double one. The quote in use and the backslash take a backslash
in front, tab and line ends have escapes of their own, and every other unprintable character is
written by its code point in two, four or eight hexadecimal digits.
-/

namespace FeatureChoice.Text

/-- The last so many hexadecimal digits of a number, in small letters. -/
def hexDigits : Nat → Nat → List Char
  | 0, _ => []
  | width + 1, n => hexDigits width (n / 16) ++ [Nat.digitChar (n % 16)]

def quoteFor (cs : List Char) : Char :=
  if cs.contains '\'' && !cs.contains '"' then '"' else '\''

def escapeQuoted (quote : Char) (c : Char) : List Char :=
  if c = quote || c = '\\' then ['\\', c]
  else if c = '\n' then ['\\', 'n']
  else if c = '\r' then ['\\', 'r']
  else if c = '\t' then ['\\', 't']
  else if isPrintable c then [c]
  else if c.toNat < 0x100 then '\\' :: 'x' :: hexDigits 2 c.toNat
  else if c.toNat < 0x10000 then '\\' :: 'u' :: hexDigits 4 c.toNat
  else '\\' :: 'U' :: hexDigits 8 c.toNat

def quoted (s : String) : String :=
  let cs := s.toList
  let quote := quoteFor cs
  String.ofList (quote :: cs.flatMap (escapeQuoted quote) ++ [quote])

/-! ### JSON strings -/

def escapeUnit (unit : Nat) : List Char := '\\' :: 'u' :: hexDigits 4 unit

/-- One character of a JSON string that holds printable ASCII only. -/
def escapeJson (c : Char) : List Char :=
  if c = '"' || c = '\\' then ['\\', c]
  else if c = '\n' then ['\\', 'n']
  else if c = '\r' then ['\\', 'r']
  else if c = '\t' then ['\\', 't']
  else if c.toNat = 0x08 then ['\\', 'b']
  else if c.toNat = 0x0c then ['\\', 'f']
  else if 0x20 ≤ c.toNat && c.toNat ≤ 0x7e then [c]
  else if c.toNat < 0x10000 then escapeUnit c.toNat
  else
    let above := c.toNat - 0x10000
    escapeUnit (0xd800 + above / 0x400) ++ escapeUnit (0xdc00 + above % 0x400)

def jsonQuoted (s : String) : String :=
  String.ofList ('"' :: s.toList.flatMap escapeJson ++ ['"'])

end FeatureChoice.Text
