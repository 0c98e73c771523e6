/-!
# Double-precision numbers

A finite double is its sign and its rank among the doubles that are not negative, counted from
zero. The rank orders magnitudes, and the exact value is `significand * 2 ^ exponent` of the rank.
Rounding a quotient of natural numbers gives the rank of the nearest double, a half going to the
even one. All of it is arithmetic on `Nat` and `Int`.
-/

namespace TradeWire

/-- The number of doubles that share an exponent: one for each fraction of 52 bits. -/
def Double.fractions : Nat := 0x10000000000000

/-- The number of finite doubles that are not negative. -/
def Double.rankLimit : Nat := 2047 * Double.fractions

/-- A double-precision number: a sign and a rank, an infinity, or the value that is no number. -/
inductive Double where
  | finite (negative : Bool) (rank : Fin Double.rankLimit)
  | infinite (negative : Bool)
  | notANumber
  deriving DecidableEq

namespace Double

/-- The integer factor of the value at a rank. -/
def significand (rank : Nat) : Nat :=
  if rank < fractions then rank else fractions + rank % fractions

/-- The power of two of the value at a rank. -/
def exponent (rank : Nat) : Int :=
  if rank < fractions then -1074 else (rank / fractions : Nat) - 1075

/-- The value at a rank as a quotient of natural numbers. -/
def ratio (rank : Nat) : Nat × Nat :=
  let m := significand rank
  let q := exponent rank
  if 0 ≤ q then (m * Nat.pow 2 q.toNat, 1) else (m, Nat.pow 2 (-q).toNat)

/-- The double at a rank, or the infinity when no finite double has it. -/
def ofRank (negative : Bool) (rank : Nat) : Double :=
  if h : rank < rankLimit then .finite negative ⟨rank, h⟩ else .infinite negative

def zero : Double := ofRank false 0

/-- The largest finite double, which stands for a value that is not set. -/
def largest : Double := ofRank false (rankLimit - 1)

instance : Inhabited Double := ⟨zero⟩

/-! ## Rounding -/

/-- The quotient rounded to the nearest natural number, a half to the even one. -/
def roundedQuotient (num den : Nat) : Nat :=
  let whole := num / den
  let twice := 2 * (num % den)
  if twice < den ∨ (twice = den ∧ whole % 2 = 0) then whole else whole + 1

/-- The largest `e` with `2 ^ e ≤ num / den`, for positive `num` and `den`. -/
def floorLog2 (num den : Nat) : Int :=
  let e : Int := (Nat.log2 num : Int) - Nat.log2 den
  let reached :=
    if 0 ≤ e then den * Nat.pow 2 e.toNat ≤ num else den ≤ num * Nat.pow 2 (-e).toNat
  if reached then e else e - 1

/-- The rank nearest to the quotient; the limit and more stand for what is too large. -/
def rankOfRatio (num den : Nat) : Nat :=
  let q := max (-1074) (floorLog2 num den - 52)
  let m := if 0 ≤ q then roundedQuotient num (den * Nat.pow 2 q.toNat)
    else roundedQuotient (num * Nat.pow 2 (-q).toNat) den
  (q + 1074).toNat * fractions + m

/-- The number of decimal digits of a natural number, none for zero. -/
def decimalLength (n : Nat) : Nat :=
  if n = 0 then 0 else (Nat.toDigits 10 n).length

/-- The rank nearest to `coefficient * 10 ^ power`. Values beyond every double, and those below
half of the smallest one, are told by their length alone. -/
def rankOfDecimal (coefficient : Nat) (power : Int) : Nat :=
  let length : Int := decimalLength coefficient
  if coefficient = 0 ∨ length + power < -330 then 0
  else if 310 < length + power then rankLimit
  else if 0 ≤ power then rankOfRatio (coefficient * Nat.pow 10 power.toNat) 1
  else rankOfRatio coefficient (Nat.pow 10 (-power).toNat)

/-- The double nearest to `±coefficient * 10 ^ power`. -/
def ofDecimal (negative : Bool) (coefficient : Nat) (power : Int) : Double :=
  ofRank negative (rankOfDecimal coefficient power)

/-! ## Integers -/

/-- Why a number has no counterpart on the other side. -/
inductive ConversionError where
  | infinityToInteger
  | notANumberToInteger
  | integerTooLarge
  deriving DecidableEq

def ConversionError.message : ConversionError → String
  | .infinityToInteger => "cannot convert float infinity to integer"
  | .notANumberToInteger => "cannot convert float NaN to integer"
  | .integerTooLarge => "int too large to convert to float"

/-- The nearest double of an integer. -/
def ofInt (n : Int) : Except ConversionError Double :=
  let rank := if n = 0 then 0 else rankOfRatio n.natAbs 1
  if h : rank < rankLimit then .ok (.finite (n < 0) ⟨rank, h⟩) else .error .integerTooLarge

/-- The integer part, the fraction dropped. -/
def truncate : Double → Except ConversionError Int
  | .finite negative rank =>
    let (num, den) := ratio rank
    let whole : Int := (num / den : Nat)
    .ok (if negative then -whole else whole)
  | .infinite _ => .error .infinityToInteger
  | .notANumber => .error .notANumberToInteger

/-! ## Comparison -/

/-- The place on the number line, the same for both zeros. -/
def place : Double → Option Int
  | .finite negative rank => some (if negative then -(rank.val : Int) else rank.val)
  | .infinite negative => some (if negative then -(rankLimit : Int) else rankLimit)
  | .notANumber => none

/-- Numeric equality: the zeros are equal, and what is no number equals nothing. -/
def same (x y : Double) : Bool :=
  match x.place, y.place with
  | some a, some b => a == b
  | _, _ => false

/-- Numeric order; nothing is below or above what is no number. -/
def below (x y : Double) : Bool :=
  match x.place, y.place with
  | some a, some b => a < b
  | _, _ => false

/-- Exact equality with an integer. -/
def sameInt (x : Double) (n : Int) : Bool :=
  match x with
  | .finite negative rank =>
    let (num, den) := ratio rank
    (if negative then -(num : Int) else num) == n * den
  | _ => false

def isZero (x : Double) : Bool := x.place == some 0

def isPositive (x : Double) : Bool := zero.below x

end Double

end TradeWire
