import TradeWire.Wire.Number

/-!
# Data

A datum is a value of any kind: a scalar, bytes, a collection, a record with named attributes, or a
member of an enumeration. The members of some enumerations are numbered, and count as their numbers.
Records of every type have a view as a datum, which is what can be rendered, compared and handed on
without knowing the type.
-/

namespace TradeWire

/-- A value of any kind. -/
inductive Datum where
  | scalar (field : Field)
  | bytes (value : Bytes)
  | list (items : List Datum)
  | set (items : List Datum)
  | table (entries : List (Int × Datum))
  | record (kind : String) (attributes : List (String × Datum))
  | member (kind name : String) (value : Field)
  | numbered (kind name : String) (number : Int)
  deriving Inhabited

namespace Datum

/-- The name of the kind of a value. -/
def kindName : Datum → String
  | .scalar field => field.kind
  | .bytes _ => "bytes"
  | .list _ => "list"
  | .set _ => "set"
  | .table _ => "dict"
  | .record kind _ => kind
  | .member kind _ _ => kind
  | .numbered kind _ _ => kind

/-- The scalar that a value is or counts as. -/
def scalar? : Datum → Option Field
  | .scalar field => some field
  | .numbered _ _ number => some (.int number)
  | _ => none

/-- The integer that a value equals, if it equals one. -/
def integer? (datum : Datum) : Option Int := datum.scalar?.bind Field.integer?

/-- Holds something: a scalar that does, or a collection that is not empty. -/
def isGiven : Datum → Bool
  | .scalar field => field.isGiven
  | .bytes value => !value.isEmpty
  | .list items => !items.isEmpty
  | .set items => !items.isEmpty
  | .table entries => !entries.isEmpty
  | .numbered _ _ number => number != 0
  | .record _ _ => true
  | .member _ _ _ => true

/-- The parts of a value, one by one: items, characters or bytes. -/
def parts? : Datum → Option (List Datum)
  | .scalar (.text value) => some (value.toList.map fun c => .scalar (.text (String.singleton c)))
  | .bytes value => some (value.map fun b => .scalar (.int b.toNat))
  | .list items => some items
  | .set items => some items
  | .table entries => some (entries.map fun (key, _) => .scalar (.int key))
  | _ => none

/-- The field text of a value; only scalars and what counts as one have it. -/
def wire (datum : Datum) : Except EncodeError String :=
  match datum.scalar? with
  | some field => field.wire
  | none => .error (.foreign datum.kindName)

/-- The bytes of a message of values. -/
def encodeAll : List Datum → Except EncodeError Bytes
  | [] => .ok []
  | item :: rest => do
    let first ← item.wire
    let others ← encodeAll rest
    return Field.terminated first ++ others

/-! ## Rendering -/

/-- Puts commas between the parts of a list. -/
def separated (parts : List (List Char)) : List Char := [',', ' '].intercalate parts

/-- A member of an enumeration with what it stands for. -/
def shownMember (kind name : String) (value : Field) : List Char :=
  '<' :: kind.toList ++ '.' :: name.toList ++ ':' :: ' ' :: value.shown ++ ['>']

mutual

/-- A value on one line. -/
def shown : Datum → List Char
  | .scalar field => field.shown
  | .bytes value => Text.quotedBytes value
  | .list items => '[' :: separated (shownItems items) ++ [']']
  | .set items => '{' :: separated (shownItems items) ++ ['}']
  | .table entries => '{' :: separated (shownEntries entries) ++ ['}']
  | .record kind attributes =>
    kind.toList ++ '(' :: separated (shownAttributes attributes) ++ [')']
  | .member kind name value => shownMember kind name value
  | .numbered kind name number => shownMember kind name (.int number)

def shownItems : List Datum → List (List Char)
  | [] => []
  | item :: rest => item.shown :: shownItems rest

def shownEntries : List (Int × Datum) → List (List Char)
  | [] => []
  | (key, value) :: rest =>
    ((toString key).toList ++ ':' :: ' ' :: value.shown) :: shownEntries rest

def shownAttributes : List (String × Datum) → List (List Char)
  | [] => []
  | (name, value) :: rest => (name.toList ++ '=' :: value.shown) :: shownAttributes rest

end

/-- A value as text of its own, where a record has no other text than the line that shows it. -/
def display (datum : Datum) : String :=
  match datum with
  | .member kind name _ => kind ++ "." ++ name
  | other =>
    match other.scalar? with
    | some field => field.display
    | none => String.ofList other.shown

/-! ## Equality -/

mutual

/-- Equality of values: scalars by value, records of one kind attribute by attribute. -/
def same : Datum → Datum → Bool
  | .scalar a, .scalar b => a.same b
  | .scalar a, .numbered _ _ n => a.same (.int n)
  | .numbered _ _ m, .scalar b => Field.same (.int m) b
  | .numbered _ _ m, .numbered _ _ n => m == n
  | .bytes a, .bytes b => a == b
  | .list a, .list b => sameItems a b
  | .set a, .set b => sameItems a b
  | .table a, .table b => sameEntries a b
  | .record kind a, .record other b => kind == other && sameAttributes a b
  | .member kind name _, .member kind' name' _ => kind == kind' && name == name'
  | _, _ => false

def sameItems : List Datum → List Datum → Bool
  | [], [] => true
  | a :: restA, b :: restB => a.same b && sameItems restA restB
  | _, _ => false

def sameEntries : List (Int × Datum) → List (Int × Datum) → Bool
  | [], [] => true
  | (key, a) :: restA, (key', b) :: restB => key == key' && a.same b && sameEntries restA restB
  | _, _ => false

def sameAttributes : List (String × Datum) → List (String × Datum) → Bool
  | [], [] => true
  | (name, a) :: restA, (name', b) :: restB =>
    name == name' && a.same b && sameAttributes restA restB
  | _, _ => false

end

end Datum

/-! ## Views -/

/-- Types whose values have a view as data, and can be found in data. -/
class Described (α : Type) where
  describe : α → Datum
  recognise : Datum → Option α

export Described (describe recognise)

instance : Described Field where
  describe := .scalar
  recognise := Datum.scalar?

instance : Described Bool where
  describe value := .scalar (.flag value)
  recognise
    | .scalar (.flag value) => some value
    | _ => none

instance : Described Int where
  describe value := .scalar (.int value)
  recognise datum :=
    match datum.scalar? with
    | some (.int value) => some value
    | _ => none

instance : Described String where
  describe value := .scalar (.text value)
  recognise
    | .scalar (.text value) => some value
    | _ => none

instance : Described Double where
  describe value := .scalar (.real value)
  recognise
    | .scalar (.real value) => some value
    | _ => none

instance : Described Number where
  describe value := .scalar value.field
  recognise datum :=
    match datum.scalar? with
    | some (.int value) => some (.int value)
    | some (.real value) => some (.real value)
    | _ => none

instance {α : Type} [Described α] : Described (Option α) where
  describe
    | none => .scalar .empty
    | some value => describe value
  recognise
    | .scalar .empty => some none
    | other => (recognise other).map some

instance {α : Type} [Described α] : Described (List α) where
  describe items := .list (items.map describe)
  recognise
    | .list items => items.mapM recognise
    | _ => none

end TradeWire
