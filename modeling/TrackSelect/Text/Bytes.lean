import TrackSelect.Text.Utf8

/-!
# Byte text

Scripts and small programs work on bytes, not on characters. A byte text is a string in which each
character has the number of a byte. `ofText` gives the bytes of a text, `toText` the text of bytes.
-/

namespace TrackSelect.Text.Bytes

/-- The character that stands for a byte. -/
def ofByte (byte : UInt8) : Char := Char.ofNat byte.toNat

/-- The byte that a character stands for. -/
def toByte (c : Char) : UInt8 := UInt8.ofNat c.toNat

/-- The byte text of packed bytes. -/
def unpack (bytes : ByteArray) : List Char := bytes.toList.map ofByte

/-- The packed bytes of a byte text. -/
def pack (cs : List Char) : ByteArray := cs.foldl (fun bytes c => bytes.push (toByte c)) .empty

/-- The packed bytes of a byte text. -/
def packString (text : String) : ByteArray :=
  text.foldl (fun bytes c => bytes.push (toByte c)) .empty

/-- The bytes of a text. -/
def ofText (text : String) : String := String.ofList ((Utf8.encode text).map ofByte)

/-- The text of a byte text. -/
def toText (text : String) : String := Utf8.decode (text.toList.map toByte)

end TrackSelect.Text.Bytes
