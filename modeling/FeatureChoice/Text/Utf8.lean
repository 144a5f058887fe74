import FeatureChoice.Text.Quoted
/-!
Reading bytes as UTF-8. The reader takes the bytes one at a time; within a character it knows how
many bytes are owed and between which bounds the next one must lie, and it refuses at the first
byte that no character can have there.
-/

namespace FeatureChoice.Text

/-- Why bytes are not UTF-8. -/
inductive Utf8Cause where
  | startByte
  | continuationByte
  | endOfData
  deriving DecidableEq, Repr

/-- Bytes that are not UTF-8: the first of them, and the positions from `start` up to `stop`. -/
structure Utf8Error where
  cause : Utf8Cause
  lead : UInt8
  start : Nat
  stop : Nat
  deriving DecidableEq, Repr

/-- A character of which some bytes are still owed. -/
structure PartialChar where
  lead : UInt8
  start : Nat
  owed : Nat
  low : Nat
  high : Nat
  code : Nat
  deriving DecidableEq, Repr

/-- What a first byte begins: a whole character, or one with bytes owed. -/
def beginChar (b : UInt8) (position : Nat) : Option (Char ⊕ PartialChar) :=
  let n := b.toNat
  let wait (owed low high code : Nat) : Option (Char ⊕ PartialChar) :=
    some (.inr ⟨b, position, owed, low, high, code⟩)
  if n ≤ 0x7f then some (.inl (Char.ofNat n))
  else if 0xc2 ≤ n && n ≤ 0xdf then wait 1 0x80 0xbf (n - 0xc0)
  else if n = 0xe0 then wait 2 0xa0 0xbf 0
  else if n = 0xed then wait 2 0x80 0x9f 0xd
  else if 0xe1 ≤ n && n ≤ 0xef then wait 2 0x80 0xbf (n - 0xe0)
  else if n = 0xf0 then wait 3 0x90 0xbf 0
  else if 0xf1 ≤ n && n ≤ 0xf3 then wait 3 0x80 0xbf (n - 0xf0)
  else if n = 0xf4 then wait 3 0x80 0x8f 4
  else none

/-- Read bytes from a position on; the characters so far are kept in reverse. -/
def decodeFrom (position : Nat) (seen : List Char) :
    Option PartialChar → List UInt8 → Except Utf8Error (List Char)
  | none, [] => .ok seen.reverse
  | some p, [] => .error ⟨.endOfData, p.lead, p.start, position⟩
  | none, b :: bytes =>
    match beginChar b position with
    | none => .error ⟨.startByte, b, position, position + 1⟩
    | some (.inl c) => decodeFrom (position + 1) (c :: seen) none bytes
    | some (.inr p) => decodeFrom (position + 1) seen (some p) bytes
  | some p, b :: bytes =>
    let n := b.toNat
    if p.low ≤ n && n ≤ p.high then
      let code := p.code * 64 + (n - 0x80)
      if p.owed ≤ 1 then decodeFrom (position + 1) (Char.ofNat code :: seen) none bytes
      else decodeFrom (position + 1) seen
        (some { p with owed := p.owed - 1, low := 0x80, high := 0xbf, code := code }) bytes
    else .error ⟨.continuationByte, p.lead, p.start, position⟩

def decodeUtf8 (bytes : List UInt8) : Except Utf8Error (List Char) :=
  decodeFrom 0 [] none bytes

def Utf8Cause.message : Utf8Cause → String
  | .startByte => "invalid start byte"
  | .continuationByte => "invalid continuation byte"
  | .endOfData => "unexpected end of data"

/-- A single byte is named by its value, several by their positions. -/
def Utf8Error.message (e : Utf8Error) : String :=
  let place :=
    if e.stop = e.start + 1 then
      "byte 0x" ++ String.ofList (hexDigits 2 e.lead.toNat) ++ s!" in position {e.start}"
    else s!"bytes in position {e.start}-{e.stop - 1}"
  "'utf-8' codec can't decode " ++ place ++ ": " ++ e.cause.message

end FeatureChoice.Text
