/-!
# UTF-8

Bytes as text. `decode` never fails: where the bytes are no UTF-8, each longest part that could
have begun a character, or one byte where there is none, becomes U+FFFD.
-/

namespace TrackSelect.Text.Utf8

/-- The character for bytes that are none. -/
def replacement : Char := '\ufffd'

/-- A character of which the first bytes have been read: how many more it takes, the bounds of the
next one, and the bits of its code point so far. -/
structure Begun where
  owed : Nat
  low : Nat
  high : Nat
  bits : Nat

/-- Read a byte between characters: the characters that come out, and one that has begun. -/
def start (byte : Nat) : List Char × Option Begun :=
  if byte < 0x80 then ([Char.ofNat byte], none)
  else if 0xC2 ≤ byte && byte ≤ 0xDF then ([], some ⟨1, 0x80, 0xBF, byte - 0xC0⟩)
  else if byte = 0xE0 then ([], some ⟨2, 0xA0, 0xBF, 0⟩)
  else if byte = 0xED then ([], some ⟨2, 0x80, 0x9F, 0xD⟩)
  else if 0xE1 ≤ byte && byte ≤ 0xEF then ([], some ⟨2, 0x80, 0xBF, byte - 0xE0⟩)
  else if byte = 0xF0 then ([], some ⟨3, 0x90, 0xBF, 0⟩)
  else if byte = 0xF4 then ([], some ⟨3, 0x80, 0x8F, 4⟩)
  else if 0xF1 ≤ byte && byte ≤ 0xF3 then ([], some ⟨3, 0x80, 0xBF, byte - 0xF0⟩)
  else ([replacement], none)

/-- Read a byte in the middle of a character. One that does not fit starts anew. -/
def goOn (begun : Begun) (byte : Nat) : List Char × Option Begun :=
  if begun.low ≤ byte && byte ≤ begun.high then
    let bits := begun.bits * 64 + (byte - 0x80)
    if begun.owed = 1 then ([Char.ofNat bits], none)
    else ([], some ⟨begun.owed - 1, 0x80, 0xBF, bits⟩)
  else
    let (cs, next) := start byte
    (replacement :: cs, next)

/-- The characters of bytes that follow the beginning of a character or none. -/
def decodeFrom : Option Begun → List UInt8 → List Char
  | none, [] => []
  | some _, [] => [replacement]
  | begun, byte :: rest =>
    let (cs, next) := match begun with
      | some begun => goOn begun byte.toNat
      | none => start byte.toNat
    cs ++ decodeFrom next rest

/-- The text of some bytes. -/
def decode (bytes : List UInt8) : String := String.ofList (decodeFrom none bytes)

/-- The bytes of a text. -/
def encode (text : String) : List UInt8 := text.toUTF8.toList

/-- The text of some bytes, if they are the bytes of a text. -/
def decode? (bytes : List UInt8) : Option String :=
  let text := decode bytes
  if encode text = bytes then some text else none

end TrackSelect.Text.Utf8
