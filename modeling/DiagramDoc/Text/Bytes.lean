/-! # Bytes of a text

A text travels as its UTF-8 bytes. Bytes are written in hexadecimal as two digits each, or in
groups of three as four digits of base 64.
-/

namespace DiagramDoc.Text

def bytes (s : String) : List UInt8 := s.toUTF8.data.toList

def textOfBytes? (bs : List UInt8) : Option String := String.fromUTF8? ⟨bs.toArray⟩

theorem textOfBytes?_bytes (s : String) : textOfBytes? (bytes s) = some s := by
  have hdata : (⟨(bytes s).toArray⟩ : ByteArray) = s.toUTF8 := by simp [bytes]
  rw [textOfBytes?, hdata, String.fromUTF8?]
  simp [String.fromUTF8, s.isValidUTF8]

def hexDigits : List Char := "0123456789abcdef".toList

def hexByte (b : UInt8) : List Char :=
  [hexDigits.getD (b.toNat / 16) '0', hexDigits.getD (b.toNat % 16) '0']

def hex (bs : List UInt8) : List Char := bs.flatMap hexByte

end DiagramDoc.Text
