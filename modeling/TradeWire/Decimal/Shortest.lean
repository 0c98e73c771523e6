import TradeWire.Decimal.Double

/-!
# Shortest decimals

The shortest decimal of a positive finite double: of the decimals with the fewest digits that read
back as the same double, the one nearest to it, and of two equally near the one with the even last
digit. For each number of digits only the two neighbours of the value on that decimal grid can
qualify, and both are tried by reading them back.
-/

namespace TradeWire

/-- The number `coefficient * 10 ^ power`. -/
structure Decimal where
  coefficient : Nat
  power : Int
  deriving DecidableEq, Inhabited

namespace Decimal

/-- The largest `e` with `10 ^ e ≤ num / den`, for positive `num` and `den`. -/
def floorLog10 (num den : Nat) : Int :=
  if den ≤ num then (Double.decimalLength (num / den) : Int) - 1
  else -(Double.decimalLength ((den - 1) / num) : Int)

/-- The quotient of `num / den` by `10 ^ power` as numerator and denominator. -/
def scaled (num den : Nat) (power : Int) : Nat × Nat :=
  if 0 ≤ power then (num, den * Nat.pow 10 power.toNat)
  else (num * Nat.pow 10 (-power).toNat, den)

/-- Of the two neighbours of the value at `10 ^ power`, the nearest that reads back as `rank`. -/
def neighbour? (rank : Nat) (num den : Nat) (power : Int) : Option Decimal :=
  let (n, d) := scaled num den power
  let low := n / d
  let twice := 2 * (n % d)
  let lowFits := Double.rankOfDecimal low power == rank
  let highFits := Double.rankOfDecimal (low + 1) power == rank
  if lowFits && (!highFits || twice < d || (twice == d && low % 2 == 0)) then some ⟨low, power⟩
  else if highFits then some ⟨low + 1, power⟩
  else none

/-- All digits of the value at a rank. -/
def exact (rank : Nat) : Decimal :=
  let m := Double.significand rank
  let q := Double.exponent rank
  if 0 ≤ q then ⟨m * Nat.pow 2 q.toNat, 0⟩ else ⟨m * Nat.pow 5 (-q).toNat, q⟩

/-- Tries `digits`, `digits + 1`, ... digits, `more` times in all. -/
def shortestFrom (rank num den : Nat) (top : Int) (digits : Nat) : (more : Nat) → Decimal
  | 0 => exact rank
  | more + 1 =>
    match neighbour? rank num den (top - digits + 1) with
    | some found => found
    | none => shortestFrom rank num den top (digits + 1) more

/-- The shortest decimal of the finite double at a positive rank; 17 digits are always enough. -/
def shortest (rank : Nat) : Decimal :=
  let (num, den) := Double.ratio rank
  shortestFrom rank num den (floorLog10 num den) 1 17

end Decimal

end TradeWire
