/-!
# Reading UTF-8

Bytes that are not well formed are read as replacement characters, one for each
longest piece that could still have become a character.
-/

namespace CodeSense.Text.Utf8

def replacement : Char := '\uFFFD'

/-- A character begun: its bits so far, the bounds of its next byte, and the bytes after that. -/
structure Pending where
  bits : Nat
  lo : UInt8
  hi : UInt8
  more : Nat
  deriving DecidableEq

/-- What a lead byte begins. Its bounds leave out overlong forms, surrogates and all above U+10FFFF. -/
def lead? (b : UInt8) : Option Pending :=
  if b < 0xC2 then none
  else if b < 0xE0 then some ⟨b.toNat - 0xC0, 0x80, 0xBF, 0⟩
  else if b == 0xE0 then some ⟨0, 0xA0, 0xBF, 1⟩
  else if b == 0xED then some ⟨0xD, 0x80, 0x9F, 1⟩
  else if b < 0xF0 then some ⟨b.toNat - 0xE0, 0x80, 0xBF, 1⟩
  else if b == 0xF0 then some ⟨0, 0x90, 0xBF, 2⟩
  else if b < 0xF4 then some ⟨b.toNat - 0xF0, 0x80, 0xBF, 2⟩
  else if b == 0xF4 then some ⟨4, 0x80, 0x8F, 2⟩
  else none

def start (b : UInt8) : List Char × Option Pending :=
  if b < 0x80 then ([Char.ofNat b.toNat], none)
  else
    match lead? b with
    | some p => ([], some p)
    | none => ([replacement], none)

def feed : Option Pending → UInt8 → List Char × Option Pending
  | none, b => start b
  | some p, b =>
    if p.lo ≤ b && b ≤ p.hi then
      let bits := p.bits * 64 + b.toNat % 64
      match p.more with
      | 0 => ([Char.ofNat bits], none)
      | more + 1 => ([], some ⟨bits, 0x80, 0xBF, more⟩)
    else (replacement :: (start b).1, (start b).2)

def decodeFrom : Option Pending → List UInt8 → List Char
  | none, [] => []
  | some _, [] => [replacement]
  | p, b :: bytes => (feed p b).1 ++ decodeFrom (feed p b).2 bytes

def decode (bytes : List UInt8) : List Char := decodeFrom none bytes

def encode (s : List Char) : List UInt8 := s.flatMap String.utf8EncodeChar

end CodeSense.Text.Utf8
