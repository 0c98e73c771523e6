import TradeWire.Text.Printable

/-!
# Quoted text

A text between quotes, for messages that name what was read. Single quotes are used unless the text
holds a single quote and no double quote. A backslash, the quote in use, and characters that are not
printable are written as escapes.
-/

namespace TradeWire.Text

/-- `digits` lower-case hexadecimal digits of a number. -/
def hexDigits (digits n : Nat) : List Char :=
  let shown := Nat.toDigits 16 n
  List.replicate (digits - shown.length) '0' ++ shown

/-- The quote that a text is written in. -/
def quoteFor (text : List Char) : Char :=
  if text.contains '\'' && !text.contains '"' then '"' else '\''

/-- An escape by number, as short as the number allows. -/
def numberEscape (n : Nat) : List Char :=
  if n < 0x100 then '\\' :: 'x' :: hexDigits 2 n
  else if n < 0x10000 then '\\' :: 'u' :: hexDigits 4 n
  else '\\' :: 'U' :: hexDigits 8 n

/-- The escape of a backslash, the quote in use, and the usual controls. -/
def shortEscape? (quote c : Char) : Option (List Char) :=
  if c = '\\' || c = quote then some ['\\', c]
  else if c = '\n' then some ['\\', 'n']
  else if c = '\r' then some ['\\', 'r']
  else if c = '\t' then some ['\\', 't']
  else none

def quotedChar (quote c : Char) : List Char :=
  (shortEscape? quote c).getD (if isPrintable c then [c] else numberEscape c.toNat)

/-- The characters of a text between quotes. -/
def quotedChars (text : List Char) : List Char :=
  let quote := quoteFor text
  quote :: text.flatMap (quotedChar quote) ++ [quote]

def quoted (s : String) : String := String.ofList (quotedChars s.toList)

/-- Bytes between quotes after a `b`; those outside printable ASCII are written by number. -/
def quotedBytes (bytes : List UInt8) : List Char :=
  let chars := bytes.map fun b => Char.ofNat b.toNat
  let quote := quoteFor chars
  let shown (c : Char) :=
    (shortEscape? quote c).getD (if ' ' ≤ c ∧ c ≤ '~' then [c] else numberEscape c.toNat)
  'b' :: quote :: chars.flatMap shown ++ [quote]

end TradeWire.Text
