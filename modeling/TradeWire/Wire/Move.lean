import TradeWire.Wire.Number
import TradeWire.Wire.Reading

/-!
# Moves of a cursor

The fields of a message can be read one by one, each as what is asked for, and fields can be
skipped. A move that fails need not be the last one: the next goes on from where it has left the
cursor.
-/

namespace TradeWire

/-- A double, or an integer where there are no fractions. -/
def Reading.doubleOrInt (fractional : Bool) : Reading Number :=
  if fractional then do return .real (← double) else do return .int (← int)

/-- What a single field is read as. -/
inductive FieldType where
  | raw
  | text
  | int
  | long
  | double
  | flag
  | doubleOrInt (fractional : Bool)
  deriving DecidableEq

def FieldType.reading : FieldType → Reading Field
  | .raw => do return .text (← Reading.next)
  | .text => do return Label.field (← Reading.text)
  | .int => do return .int (← Reading.int)
  | .long => do return .int (← Reading.long)
  | .double => do return .real (← Reading.double)
  | .flag => do return .flag (← Reading.flag)
  | .doubleOrInt fractional => do return (← Reading.doubleOrInt fractional).field

/-- What is asked of a cursor. -/
inductive Move where
  | read (type : FieldType)
  | skip (count : Int)
  deriving DecidableEq

def Move.reading : Move → Reading Field
  | .read type => type.reading
  | .skip count => do
    Reading.skip count
    return .empty

namespace Cursor

/-- Where a move leaves a cursor, whether it has a value or fails. -/
def moved (c : Cursor) (move : Move) : Cursor := (move.reading.start c).2

/-- Where some moves leave a cursor. -/
def go (c : Cursor) (moves : List Move) : Cursor := moves.foldl moved c

end Cursor

end TradeWire
