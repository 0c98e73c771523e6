import TradeWire.Decimal.Shortest

/-!
# Written doubles

Two ways to write a double, both with the digits of its shortest decimal. `Double.text` uses a point
while the decimal exponent is at least -4 and below 16, and an exponent outside; `Double.plainText`
spells that exponent out, so that it holds nothing but a sign, digits and at most one point.
-/

namespace TradeWire

/-- Decimal digits without trailing zeros, read as `0.d₁d₂d₃… * 10 ^ point`. -/
structure Digits where
  digits : List Char
  point : Int

namespace Digits

/-- The digits of a positive decimal. -/
def ofDecimal (d : Decimal) : Digits :=
  let all := Nat.toDigits 10 d.coefficient
  ⟨(all.reverse.dropWhile (· = '0')).reverse, all.length + d.power⟩

/-- The exponent of the first digit. -/
def exponent (d : Digits) : Int := d.point - 1

/-- The digits that stand before the point, a zero if there are none. -/
def whole (d : Digits) : List Char :=
  if d.point ≤ 0 then ['0']
  else d.digits.take d.point.toNat ++ List.replicate (d.point.toNat - d.digits.length) '0'

/-- The digits that stand after the point, none if the number is whole. -/
def fraction (d : Digits) : List Char :=
  if d.point ≤ 0 then List.replicate (-d.point).toNat '0' ++ d.digits
  else d.digits.drop d.point.toNat

/-- Positional form; a whole number is written without a point. -/
def positional (d : Digits) : List Char :=
  if d.fraction = [] then d.whole else d.whole ++ '.' :: d.fraction

/-- Positional form with at least one digit after the point. -/
def pointed (d : Digits) : List Char :=
  d.whole ++ '.' :: (if d.fraction = [] then ['0'] else d.fraction)

/-- One digit before the point, and an exponent with its sign and at least two digits. -/
def scientific (d : Digits) : List Char :=
  let mantissa := match d.digits with
    | first :: second :: rest => first :: '.' :: second :: rest
    | short => short
  let size := Nat.toDigits 10 d.exponent.natAbs
  let padded := if size.length < 2 then '0' :: size else size
  mantissa ++ 'e' :: (if d.exponent < 0 then '-' else '+') :: padded

end Digits

namespace Double

/-- The decimal exponents that are written positionally. -/
def positionalExponent (e : Int) : Bool := -4 ≤ e && e < 16

/-- The characters of a double, given how its nonzero finite magnitudes are written. -/
def written (magnitude : Digits → List Char) : Double → List Char
  | .finite negative rank =>
    let sign := if negative then ['-'] else []
    sign ++ if rank.val = 0 then ['0', '.', '0'] else magnitude (.ofDecimal (.shortest rank))
  | .infinite negative => if negative then ['-', 'i', 'n', 'f'] else ['i', 'n', 'f']
  | .notANumber => ['n', 'a', 'n']

/-- Shortest text, with an exponent for very small and very large magnitudes. -/
def text (x : Double) : String :=
  String.ofList <| x.written fun d =>
    if positionalExponent d.exponent then d.pointed else d.scientific

/-- Shortest text without an exponent. -/
def plainText (x : Double) : String :=
  String.ofList <| x.written fun d =>
    if positionalExponent d.exponent then d.pointed else d.positional

end Double

end TradeWire
