import TradeWire.Wire.Field

/-!
# Reading fields in order

A cursor stands before the fields of a message that are still to be read. Each reading takes fields
off its front, and where one fails the cursor stays behind what was taken. A number that cannot be
read has been taken; a missing field has not.
-/

namespace TradeWire

/-- The fields still to be read, and how many came before them. -/
structure Cursor where
  position : Nat
  rest : List String

namespace Cursor

def ofFields (fields : List String) : Cursor := ⟨0, fields⟩

def ofPayload (payload : Bytes) : Cursor := ofFields (splitFields payload)

def remaining (c : Cursor) : Nat := c.rest.length

/-- The number of fields of the whole message. -/
def size (c : Cursor) : Nat := c.position + c.remaining

end Cursor

/-- What was wrong with a field. -/
inductive DecodeError.Reason where
  | unparsable
  | truncated
  | expectedInt
  | expectedFloat
  | expectedBoolean
  | other (text : String)
  deriving DecidableEq

def DecodeError.Reason.text : DecodeError.Reason → String
  | .unparsable => "parse failure"
  | .truncated => "message truncated"
  | .expectedInt => "expected int"
  | .expectedFloat => "expected float"
  | .expectedBoolean => "expected boolean"
  | .other text => text

/-- A field is missing, or its token cannot be read as what its place asks for. -/
structure DecodeError where
  token : Option String
  position : Int
  reason : DecodeError.Reason := .unparsable
  deriving DecidableEq

def DecodeError.message (e : DecodeError) : String :=
  let place := e.reason.text ++ " at field " ++ toString e.position
  match e.token with
  | none => place
  | some token => place ++ ": " ++ Text.quoted token

/-- Why a message cannot be read. -/
inductive Fault where
  | field (error : DecodeError)
  | unknownCondition (kind : Int)
  | conversion (error : Double.ConversionError)
  deriving DecidableEq

/-- A reading of some fields: it has its value, or has met a field it cannot read, or takes the next
field, at some position, and reads on. -/
inductive Reading (α : Type) where
  | done (value : α)
  | unreadable (error : DecodeError)
  | unknownCondition (kind : Int)
  | take (next : (position : Nat) → (token : String) → Reading α)

namespace Reading

/-- Reads on with the value of a reading. -/
def bind {α β : Type} : Reading α → (α → Reading β) → Reading β
  | .done value, more => more value
  | .unreadable error, _ => .unreadable error
  | .unknownCondition kind, _ => .unknownCondition kind
  | .take next, more => .take fun position token => (next position token).bind more

instance : Monad Reading where
  pure := done
  bind := bind

/-- The outcome of a reading, and where it leaves the cursor. -/
def start {α : Type} : Reading α → Cursor → Except Fault α × Cursor
  | .done value, c => (.ok value, c)
  | .unreadable error, c => (.error (.field error), c)
  | .unknownCondition kind, c => (.error (.unknownCondition kind), c)
  | .take next, c =>
    match c.rest with
    | [] => (.error (.field ⟨none, c.position, .truncated⟩), c)
    | token :: rest => (next c.position token).start ⟨c.position + 1, rest⟩

/-- The next field. -/
def next : Reading String := take fun _ token => done token

/-- The next field as what `convert` makes of it. -/
def converted {α : Type} (reason : DecodeError.Reason) (convert : String → Option α) :
    Reading α :=
  take fun position token =>
    match convert token with
    | some value => done value
    | none => unreadable ⟨some token, position, reason⟩

/-- Repeats a reading `count` times. -/
def times {α : Type} (count : Nat) (r : Reading α) : Reading (List α) :=
  match count with
  | 0 => pure []
  | count + 1 => do
    let first ← r
    let others ← times count r
    pure (first :: others)

/-- Repeats a reading as often as a count says, not at all if it is negative. -/
def counted {α : Type} (count : Int) (r : Reading α) : Reading (List α) := r.times count.toNat

def skip (count : Int := 1) : Reading Unit := do
  let _ ← counted count next

/-- Reads on if a condition holds, and gives the default otherwise. -/
def onlyIf {α : Type} (condition : Bool) (default : α) (r : Reading α) : Reading α :=
  if condition then r else pure default

/-- Applies the changes that some readings ask for, one after another. The value as far as it got
comes with the fault that stopped it. -/
def gradually {α : Type} (steps : List (Reading (α → α))) (value : α) (c : Cursor) :
    (α × Option Fault) × Cursor :=
  match steps with
  | [] => ((value, none), c)
  | step :: rest =>
    match step.start c with
    | (.ok change, c) => gradually rest (change value) c
    | (.error fault, c) => ((value, some fault), c)

/-- The value that some readings make of another one. -/
def changed {α : Type} (steps : List (Reading (α → α))) (value : α) : Reading α :=
  steps.foldlM (fun value step => do return (← step) value) value

/-! ## Typed fields -/

/-- An integer, or `unset` for an empty field. -/
def intOr (unset : Int) : Reading Int :=
  converted .expectedInt fun token =>
    if token = "" then some unset else (Text.readInt token).toOption

def int : Reading Int := intOr unsetInt

def long : Reading Int := intOr unsetLong

/-- A double, the unset one for an empty field. -/
def double : Reading Double :=
  converted .expectedFloat fun token =>
    if token = "" then some unsetDouble else Text.readDouble? token

/-- A flag: an integer other than zero is true, and an empty field is false. -/
def flag : Reading Bool :=
  converted .expectedBoolean fun token =>
    if token = "" then some false else (Text.readInt token).toOption.map (· != 0)

/-- A text attribute. -/
def text : Reading (Option String) := do return some (← next)

end Reading

/-- A reading of fields with quantities, which may be too large for a double. -/
structure Measuring (α : Type) where
  run : Reading (Except Double.ConversionError α)

namespace Measuring

/-- Reads on with the value of a reading, if its quantities were not too large. -/
def bind {α β : Type} (m : Measuring α) (more : α → Measuring β) : Measuring β :=
  ⟨m.run.bind fun
    | .ok value => (more value).run
    | .error error => .done (.error error)⟩

instance : Monad Measuring where
  pure value := ⟨.done (.ok value)⟩
  bind := bind

instance : MonadLift Reading Measuring where
  monadLift r := ⟨do return .ok (← r)⟩

/-- The outcome of a reading with quantities, and where it leaves the cursor. -/
def start {α : Type} (m : Measuring α) (c : Cursor) : Except Fault α × Cursor :=
  match m.run.start c with
  | (.ok (.ok value), c) => (.ok value, c)
  | (.ok (.error error), c) => (.error (.conversion error), c)
  | (.error fault, c) => (.error fault, c)

/-- A double that older servers send as an integer. -/
def doubleFromInt : Measuring Double := ⟨do return Double.ofInt (← Reading.int)⟩

end Measuring

end TradeWire
