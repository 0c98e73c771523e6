import TradeWire.Event.Basic
import TradeWire.Request.Plan

/-!
# Outcomes

What comes of something that a client does: the effects that can be seen from outside, in order, and
then a value or a failure. Outcomes follow one another; a failure ends the sequence and keeps the
effects before it.
-/

namespace TradeWire

/-- An effect that can be seen from outside. -/
inductive Effect where
  | told (event : Event)
  | sent (data : Bytes)
  | sendFailed
  | opened (host : String) (port : Int) (timeout : Option Double)
  | unlimited
  | shutdown
  | closed

namespace Effect

def event? : Effect → Option Event
  | .told event => some event
  | _ => none

def data? : Effect → Option Bytes
  | .sent data => some data
  | _ => none

/-- Whether something was sent or was to be sent. -/
def isSending : Effect → Bool
  | .sent _ | .sendFailed => true
  | _ => false

end Effect

/-- Effects, and the value or failure that they lead to. -/
structure Outcome (α : Type) where
  effects : List Effect
  result : Except Failure α

namespace Outcome

variable {α β : Type}

/-- The effect and nothing else. -/
def effect (e : Effect) : Outcome Unit := ⟨[e], .ok ()⟩

def fail (failure : Failure) : Outcome α := ⟨[], .error failure⟩

/-- One thing after another. -/
def andThen (first : Outcome α) (next : α → Outcome β) : Outcome β :=
  match first.result with
  | .ok value => ⟨first.effects ++ (next value).effects, (next value).result⟩
  | .error failure => ⟨first.effects, .error failure⟩

instance : Monad Outcome where
  pure value := ⟨[], .ok value⟩
  bind := andThen

/-- The application is told of an event, unless its callback is one of those that raise. -/
def tell (raising : List String) (event : Event) : Outcome Unit :=
  if raising.contains event.name then fail (.callback event.name) else effect (.told event)

/-- Reports a problem under a fixed code. -/
def report (raising : List String) (id : Int) (notice : Notice) (detail : String := "") :
    Outcome Unit :=
  tell raising (.error id notice.code (notice.text detail))

/-- The events of which the application was told. -/
def events (outcome : Outcome α) : List Event := outcome.effects.filterMap Effect.event?

/-- The data that was sent. -/
def data (outcome : Outcome α) : List Bytes := outcome.effects.filterMap Effect.data?

end Outcome

end TradeWire
