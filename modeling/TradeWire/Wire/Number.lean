import TradeWire.Wire.Field

/-!
# Attribute values

A price or quantity is a double or an integer, and a text attribute may be missing. Both know the
field they are sent as.
-/

namespace TradeWire

/-- A price, quantity or the like. -/
inductive Number where
  | int (value : Int)
  | real (value : Double)
  deriving DecidableEq

namespace Number

instance : Inhabited Number := ⟨.real Double.zero⟩

/-- Zero as a double. -/
def zero : Number := .real Double.zero

/-- The number that is not set. -/
def unset : Number := .real unsetDouble

def field : Number → Field
  | .int value => .int value
  | .real value => .real value

/-- A number that is not set equals the unset double, however it is held. -/
def isUnset : Number → Bool
  | .int value => unsetDouble.sameInt value
  | .real value => value.same unsetDouble

def toDouble : Number → Except Double.ConversionError Double
  | .int value => Double.ofInt value
  | .real value => .ok value

def truncate : Number → Except Double.ConversionError Int
  | .int value => .ok value
  | .real value => value.truncate

end Number

/-- A text attribute; a missing one is sent like an empty one. -/
abbrev Label := Option String

namespace Label

/-- The empty text, which means "not specified". -/
def blank : Label := some ""

def field : Label → Field
  | none => .empty
  | some value => .text value

/-- Holds a text that is not empty. -/
def isGiven (label : Label) : Bool := label.any (· ≠ "")

end Label

namespace Field

/-- The number that a flag or integer counts as. -/
def asInt? : Field → Option Int
  | .flag value => some (if value then 1 else 0)
  | .int value => some value
  | _ => none

/-- Equality of scalars: flags count as 1 and 0, and numbers are equal if their values are. -/
def same (a b : Field) : Bool :=
  match a, b with
  | .empty, .empty => true
  | .text s, .text t => s == t
  | .real x, .real y => x.same y
  | .real x, b => b.asInt?.any x.sameInt
  | a, .real y => a.asInt?.any y.sameInt
  | a, b => match a.asInt?, b.asInt? with
    | some m, some n => m == n
    | _, _ => false

/-- Holds something: no zero, empty text or false. -/
def isGiven : Field → Bool
  | .empty => false
  | .flag value => value
  | .int value => value != 0
  | .real value => !value.isZero
  | .text value => value != ""

/-- The integer that a scalar equals, if it equals one. -/
def integer? (field : Field) : Option Int :=
  match field with
  | .real value => value.truncate.toOption.filter value.sameInt
  | other => other.asInt?

/-- The name of the kind of a scalar. -/
def kind : Field → String
  | .empty => "NoneType"
  | .flag _ => "bool"
  | .int _ => "int"
  | .real _ => "float"
  | .text _ => "str"

/-- A scalar as it appears inside of a rendered record. -/
def shown : Field → List Char
  | .empty => "None".toList
  | .flag value => (if value then "True" else "False").toList
  | .int value => (toString value).toList
  | .real value => value.text.toList
  | .text value => Text.quotedChars value.toList

/-- A scalar as text of its own. -/
def display : Field → String
  | .text value => value
  | other => String.ofList other.shown

end Field

end TradeWire
