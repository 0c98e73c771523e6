import TradeWire.Decimal.Double
import TradeWire.Text.Blank
import TradeWire.Text.Digit
import TradeWire.Text.Quoted

/-!
# Numerals

Reading integers and decimal numbers from text. Blanks around a numeral are ignored, digits of any
script count, and a single underscore may stand between two digits. An integer has at most 4300
digits, both read and written; a decimal number is rounded to the nearest double.
-/

namespace TradeWire.Text

/-- Numerals are read as ASCII: the digits and blanks of other scripts become ASCII ones, and any
other character a question mark, which no numeral holds. -/
def numeralChar (c : Char) : Char :=
  if c.toNat < 127 then c
  else if isBlank c then ' '
  else match digitValue? c with
    | some value => Nat.digitChar value
    | none => '?'

/-- The blanks of ASCII that may surround a numeral. -/
def isNumeralBlank (c : Char) : Bool := c = ' ' || (9 ≤ c.toNat && c.toNat ≤ 13)

/-- Drops the blanks at both ends. -/
def trimmed (cs : List Char) : List Char :=
  ((cs.dropWhile isNumeralBlank).reverse.dropWhile isNumeralBlank).reverse

/-- Takes a sign off the front; true is a minus. -/
def splitSign : List Char → Bool × List Char
  | '-' :: rest => (true, rest)
  | '+' :: rest => (false, rest)
  | rest => (false, rest)

def isDigit (c : Char) : Bool := '0' ≤ c && c ≤ '9'

/-- Every underscore stands between two digits; `previous` tells whether a digit came before. -/
def underscoresBetweenDigits : (previous : Bool) → List Char → Bool
  | _, [] => true
  | previous, '_' :: rest =>
    previous && (rest.head?.any isDigit) && underscoresBetweenDigits false rest
  | _, c :: rest => underscoresBetweenDigits (isDigit c) rest

/-- The value of a list of ASCII digits. -/
def digitsValue (digits : List Char) : Nat :=
  digits.foldl (fun value c => value * 10 + (c.toNat - '0'.toNat)) 0

/-! ## Integers -/

/-- The most digits of an integer in text. -/
def maxDigits : Nat := 4300

/-- Why a text is not an integer. -/
inductive IntegerError where
  | malformed
  | tooManyDigits (digits : Nat)
  deriving DecidableEq

def readSigned (cs : List Char) : Except IntegerError Int :=
  let (negative, unsigned) := splitSign (trimmed cs)
  let (run, rest) := unsigned.span fun c => isDigit c || c = '_'
  let digits := run.filter isDigit
  if digits.isEmpty || !underscoresBetweenDigits false run then .error .malformed
  else if maxDigits < digits.length then .error (.tooManyDigits digits.length)
  else if !rest.isEmpty then .error .malformed
  else .ok (if negative then -(digitsValue digits : Int) else digitsValue digits)

/-- Reads an integer. -/
def readInt (s : String) : Except IntegerError Int :=
  readSigned (s.toList.map numeralChar)

/-- Reads an integer from ASCII bytes. -/
def readIntBytes (bytes : List UInt8) : Except IntegerError Int :=
  readSigned (bytes.map fun b => if b < 127 then Char.ofNat b.toNat else '?')

/-- The text of an integer, which exists while it has at most the digits that can be read. -/
def writtenInt? (n : Int) : Option String :=
  let digits := Nat.toDigits 10 n.natAbs
  if maxDigits < digits.length then none
  else some (String.ofList (if n < 0 then '-' :: digits else digits))

/-- How much of a quoted text is shown when it is not an integer. -/
def shownLength : Nat := 200

/-- What is said of a text that is not an integer, of which the start of `shown` is shown. -/
def IntegerError.messageOf (shown : List Char) : IntegerError → String
  | .malformed =>
    "invalid literal for int() with base 10: " ++ String.ofList (shown.take shownLength)
  | .tooManyDigits digits =>
    "Exceeds the limit (4300 digits) for integer string conversion: value has "
      ++ toString digits ++ " digits; use sys.set_int_max_str_digits() to increase the limit"

/-- What is said of a text. Its quotes are those of the whole text. -/
def IntegerError.message (text : String) (error : IntegerError) : String :=
  error.messageOf (quotedChars text.toList)

/-- What is said of bytes. They are cut before they are quoted, so that no later byte bears on the
quotes. -/
def IntegerError.bytesMessage (bytes : List UInt8) (error : IntegerError) : String :=
  error.messageOf (quotedBytes (bytes.take shownLength))

/-- What is said of an integer that is too long to be written. -/
def unwritableMessage : String :=
  "Exceeds the limit (4300 digits) for integer string conversion; use " ++
    "sys.set_int_max_str_digits() to increase the limit"

/-! ## Decimal numbers -/

/-- The double of an infinity or of what is no number, by name in any case. -/
def readName (negative : Bool) (cs : List Char) : Option Double :=
  let name := String.ofList (cs.map Char.toLower)
  if name = "inf" || name = "infinity" then some (.infinite negative)
  else if name = "nan" then some .notANumber
  else none

/-- An exponent: nothing, or `e` with an optional sign and at least one digit. -/
def readExponent : List Char → Option Int
  | [] => some 0
  | e :: rest =>
    let (negative, digits) := splitSign rest
    if (e = 'e' || e = 'E') && !digits.isEmpty && digits.all isDigit then
      some (if negative then -(digitsValue digits : Int) else digitsValue digits)
    else none

/-- A fraction: nothing, or a point with any digits; the digits and what follows. -/
def splitFraction : List Char → List Char × List Char
  | '.' :: rest => rest.span isDigit
  | rest => ([], rest)

/-- An unsigned decimal number with digits before or after its point. -/
def readMagnitude (negative : Bool) (cs : List Char) : Option Double :=
  let (whole, afterWhole) := cs.span isDigit
  let (fraction, afterFraction) := splitFraction afterWhole
  let digits := whole ++ fraction
  if digits.isEmpty then none
  else (readExponent afterFraction).map fun power =>
    .ofDecimal negative (digitsValue digits) (power - fraction.length)

/-- Reads a decimal number, an infinity, or the name of what is no number. -/
def readDouble? (s : String) : Option Double :=
  let cs := trimmed (s.toList.map numeralChar)
  if !underscoresBetweenDigits false cs then none
  else
    let (negative, unsigned) := splitSign (cs.filter (· ≠ '_'))
    (readName negative unsigned).orElse fun _ => readMagnitude negative unsigned

end TradeWire.Text
