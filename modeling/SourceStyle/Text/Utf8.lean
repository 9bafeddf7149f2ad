import SourceStyle.Text

/-!
# UTF-8

`encode` writes a text as bytes. `decode` reads bytes strictly, and on bytes that are no text says
where the first fault is: a byte that starts no character, a byte that does not continue the one
begun, or the end of the bytes in the middle of a character.
-/

namespace SourceStyle

namespace Utf8

inductive Reason where
  | start
  | continuation
  | unfinished
  deriving DecidableEq

def Reason.message : Reason → String
  | start => "invalid start byte"
  | continuation => "invalid continuation byte"
  | unfinished => "unexpected end of data"

/-- A faulty character: its first byte, and the offsets of the first byte and of the last one that
could belong to it. -/
structure Fault where
  byte : Nat
  first : Nat
  last : Nat
  reason : Reason
  deriving DecidableEq

def Fault.message (f : Fault) : String :=
  let place :=
    if f.first = f.last then
      s!"byte 0x{String.ofList (Nat.toDigits 16 f.byte)} in position {f.first}"
    else s!"bytes in position {f.first}-{f.last}"
  s!"'utf-8' codec can't decode {place}: {f.reason.message}"

/-- A character of which some bytes are still owed. The next one has to be from `low` to `high`. -/
structure Pending where
  byte : Nat
  first : Nat
  owed : Nat
  low : Nat
  high : Nat
  value : Nat

/-- What a first byte promises, if it can be one of several bytes. -/
def Pending.ofFirst? (b offset : Nat) : Option Pending :=
  if 0xc2 ≤ b ∧ b ≤ 0xdf then some ⟨b, offset, 1, 0x80, 0xbf, b - 0xc0⟩
  else if 0xe0 ≤ b ∧ b ≤ 0xef then
    some ⟨b, offset, 2, if b = 0xe0 then 0xa0 else 0x80, if b = 0xed then 0x9f else 0xbf, b - 0xe0⟩
  else if 0xf0 ≤ b ∧ b ≤ 0xf4 then
    some ⟨b, offset, 3, if b = 0xf0 then 0x90 else 0x80, if b = 0xf4 then 0x8f else 0xbf, b - 0xf0⟩
  else none

/-- Read the bytes from an offset on. -/
def decodeFrom (offset : Nat) (pending : Option Pending) : List UInt8 → Except Fault Text
  | [] =>
    match pending with
    | none => .ok []
    | some p => .error ⟨p.byte, p.first, offset - 1, .unfinished⟩
  | byte :: bytes =>
    let b := byte.toNat
    match pending with
    | none =>
      if b < 0x80 then (decodeFrom (offset + 1) none bytes).map (Char.ofNat b :: ·)
      else match Pending.ofFirst? b offset with
        | some p => decodeFrom (offset + 1) (some p) bytes
        | none => .error ⟨b, offset, offset, .start⟩
    | some p =>
      if p.low ≤ b ∧ b ≤ p.high then
        let value := p.value * 64 + (b - 0x80)
        if p.owed = 1 then (decodeFrom (offset + 1) none bytes).map (Char.ofNat value :: ·)
        else decodeFrom (offset + 1) (some ⟨p.byte, p.first, p.owed - 1, 0x80, 0xbf, value⟩) bytes
      else .error ⟨p.byte, p.first, offset - 1, .continuation⟩

def decode (bytes : List UInt8) : Except Fault Text := decodeFrom 0 none bytes

def encodeChar (c : Char) : List UInt8 :=
  let n := c.toNat
  let low (m : Nat) : UInt8 := UInt8.ofNat (0x80 + m % 64)
  if n < 0x80 then [UInt8.ofNat n]
  else if n < 0x800 then [UInt8.ofNat (0xc0 + n / 0x40), low n]
  else if n < 0x10000 then [UInt8.ofNat (0xe0 + n / 0x1000), low (n / 0x40), low n]
  else [UInt8.ofNat (0xf0 + n / 0x40000), low (n / 0x1000), low (n / 0x40), low n]

def encode (t : Text) : List UInt8 := t.flatMap encodeChar

end Utf8

end SourceStyle
