import TradeWire.Delivery.Basic
import TradeWire.Message.Interpret

/-!
# Consumers

A consumer takes deliveries until the mark that nothing follows, and tells the application what
they mean. Then the connection has ended: its owner learns so, and at last the application.
Callbacks that raise are passed over: what they raise are ordinary exceptions, none of those that
are meant to end the whole program. A delivery that is malformed, or a number that cannot be
converted, stops the consumer early.
-/

namespace TradeWire

/-- Something that a consumer does. -/
inductive Occurrence where
  | told (event : Event)
  /-- The owner of the connection learns that it has ended. -/
  | ended

/-- What a consumer has done when it stops. -/
structure Consumption where
  occurrences : List Occurrence
  unread : List (List Bytes)
  failure? : Option Failure := none

namespace Consumption

/-- A consumption that starts with some events. -/
def prepend (events : List Event) (c : Consumption) : Consumption :=
  { c with occurrences := events.map .told ++ c.occurrences }

/-- The events of which the application was told. -/
def events (c : Consumption) : List Event :=
  c.occurrences.filterMap fun
    | .told event => some event
    | .ended => none

/-- Whether the owner learned that the connection has ended. -/
def hasEnded (c : Consumption) : Bool :=
  c.occurrences.any fun
    | .ended => true
    | .told _ => false

end Consumption

/-- The events whose callbacks do not raise. -/
def audible (raising : List String) (events : List Event) : List Event :=
  events.filter fun event => !raising.contains event.name

/-- Consumes deliveries in parts, where some callbacks raise an ordinary exception. -/
def consume (version : Int) (raising : List String) : List (List Bytes) → Consumption
  | [] => ⟨[], [], none⟩
  | parts :: rest =>
    match Delivery.ofParts parts with
    | .error failure => ⟨[], rest, some failure⟩
    | .ok none => consume version raising rest
    | .ok (some (.payload bytes)) =>
      let meaning := interpret version bytes
      let heard := audible raising meaning.events
      match meaning.failure? with
      | some error => ⟨heard.map .told, rest, some (.conversion error)⟩
      | none => (consume version raising rest).prepend heard
    | .ok (some (.problem code text)) =>
      (consume version raising rest).prepend (audible raising [.error noId code text])
    | .ok (some .finished) =>
      ⟨.ended :: (audible raising [.connectionClosed]).map .told, rest, none⟩

/-- Consumes what is waiting in a channel. However the consumer stops, it closes the channel. -/
def Channel.consume (version : Int) (raising : List String) (channel : Channel) :
    Consumption × Channel :=
  let consumption := TradeWire.consume version raising channel.waiting
  (consumption, channel.closed consumption.unread)

end TradeWire
