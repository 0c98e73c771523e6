import TradeWire.Decimal.Written
import TradeWire.Text.Numeral
import TradeWire.Text.Utf8

/-!
# Fields

A message is a list of fields, each sent as its text and one zero byte. The type of a field follows
from its place in the message. A number that is not set has the largest value of its type; it is
sent as an empty field, and an empty numeric field is read as that value.
-/

namespace TradeWire

/-- The integer that stands for "not set" in a 32-bit place. -/
def unsetInt : Int := 0x7fffffff

/-- The integer that stands for "not set" in a 64-bit place. -/
def unsetLong : Int := 0x7fffffffffffffff

/-- The double that stands for "not set". -/
def unsetDouble : Double := Double.largest

/-- The id under which problems are reported that belong to no request. -/
def noId : Int := -1

/-- A scalar that a field can hold. -/
inductive Field where
  | empty
  | flag (value : Bool)
  | int (value : Int)
  | real (value : Double)
  | text (value : String)
  deriving Inhabited, DecidableEq

/-- Why a value has no field text. -/
inductive EncodeError where
  | foreign (kind : String)
  | tooManyDigits
  deriving DecidableEq

def EncodeError.message : EncodeError → String
  | .foreign kind => "cannot encode field of type " ++ kind
  | .tooManyDigits => Text.unwritableMessage

namespace Field

/-- The text that a field is sent as. -/
def wire : Field → Except EncodeError String
  | .empty => .ok ""
  | .flag value => .ok (if value then "1" else "0")
  | .int value =>
    if value = unsetInt ∨ value = unsetLong then .ok ""
    else match Text.writtenInt? value with
      | some written => .ok written
      | none => .error .tooManyDigits
  | .real value => .ok (if value.same unsetDouble then "" else value.plainText)
  | .text value => .ok value

/-- The bytes of a text as one field. -/
def terminated (text : String) : Bytes := Text.encode text ++ [0]

def encode (field : Field) : Except EncodeError Bytes := field.wire.map terminated

/-- The bytes of a message. -/
def encodeAll : List Field → Except EncodeError Bytes
  | [] => .ok []
  | field :: rest => do
    let first ← field.encode
    let others ← encodeAll rest
    return first ++ others

end Field

/-! ## The fields of a payload -/

/-- The pieces of bytes that end in a zero byte, given those read so far of the piece at hand; the
last piece may lack its zero byte unless it is empty. -/
def piecesFrom : (piece : Bytes) → Bytes → List Bytes
  | [], [] => []
  | piece, [] => [piece.reverse]
  | piece, b :: rest =>
    if b = 0 then piece.reverse :: piecesFrom [] rest else piecesFrom (b :: piece) rest

/-- The texts of the fields of a payload. -/
def splitFields (payload : Bytes) : List String :=
  (piecesFrom [] payload).map Text.decode

end TradeWire
