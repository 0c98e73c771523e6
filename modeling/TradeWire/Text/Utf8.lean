/-!
# Bytes of a text

A text is sent in UTF-8. A received field need not be valid UTF-8: a byte that is no part of a
character is shown as an escape by its number, so that nothing is lost.
-/

namespace TradeWire

abbrev Bytes := List UInt8

namespace Text

/-- The bytes of a list of characters. -/
def encodeChars (cs : List Char) : Bytes := cs.flatMap String.utf8EncodeChar

def encode (s : String) : Bytes := encodeChars s.toList

/-- The character that a list of bytes starts with. -/
def leadingChar? (bytes : Bytes) : Option Char :=
  (bytes.take 4).toByteArray.utf8DecodeChar? 0

/-- How a byte outside of every character is shown. -/
def byteEscape (b : UInt8) : List Char :=
  '\\' :: 'x' :: Nat.digitChar (b.toNat / 16) :: [Nat.digitChar (b.toNat % 16)]

/-- The characters of bytes, where the first `skip` bytes belong to a character already read. -/
def decodeFrom : (skip : Nat) → Bytes → List Char
  | _, [] => []
  | skip + 1, _ :: rest => decodeFrom skip rest
  | 0, b :: rest =>
    match leadingChar? (b :: rest) with
    | some c => c :: decodeFrom (c.utf8Size - 1) rest
    | none => byteEscape b ++ decodeFrom 0 rest

/-- The text of bytes, with escapes for what is not UTF-8. -/
def decode (bytes : Bytes) : String := String.ofList (decodeFrom 0 bytes)

end Text

end TradeWire
