import TradeWire.Client.Outcome
import TradeWire.Delivery.Consumer
import TradeWire.Session.Handshake

/-!
# Connections

A connection is a socket, of which we know what is going to arrive, how often something was sent on
it, from when on sending fails, and whether it is closed. After a handshake it is served by a
receiver and a consumer. They wait until they are run, and then run to their end.
-/

namespace TradeWire

/-- A receiver and a consumer that wait to be run. -/
structure Service where
  /-- What has been received but not been cut into frames. -/
  buffer : Bytes
  size : Nat
  version : Int
  /-- Whether the connection is meant to end. -/
  isEnding : Bool := false

namespace Service

/-- What the receiver does. -/
def reception (service : Service) (arrivals : List Arrival) : Reception :=
  receiveAll service.size service.isEnding service.buffer arrivals

/-- What the consumer makes of a reception. -/
def consumption (service : Service) (reception : Reception) : Consumption :=
  consume service.version [] (reception.deliveries.map Delivery.parts)

end Service

/-- A connection. -/
structure Connection where
  arrivals : List Arrival
  /-- The number of the sending from which on sending fails, and the text of the failure. -/
  failsFrom : Option (Nat × String) := none
  sendings : Nat := 0
  isClosed : Bool := false
  service : Option Service := none

namespace Connection

/-- The error of the next sending, if it fails. -/
def sendError (connection : Connection) : Option String :=
  match connection.failsFrom with
  | some (first, text) => if first ≤ connection.sendings + 1 then some text else none
  | none => none

/-- The connection after what was done on it. -/
def after (effects : List Effect) (connection : Connection) : Connection :=
  { connection with sendings := connection.sendings + effects.countP Effect.isSending }

/-- More is going to arrive. -/
def expecting (more : List Arrival) (connection : Connection) : Connection :=
  { connection with arrivals := connection.arrivals ++ more }

def closed (connection : Connection) : Connection := { connection with isClosed := true }

/-- The connection in service after a handshake. -/
def serving (size : Nat) (agreement : Agreement) (connection : Connection) : Connection :=
  { connection with
    arrivals := agreement.left
    service := some ⟨agreement.buffer, size, agreement.version, false⟩ }

/-- The connection after its owner has shut it down and closed it. What has not arrived yet is
discarded, unless the service is held up; then it does not see the end so soon. -/
def shut (held : Bool) (connection : Connection) : Connection :=
  { connection with
    arrivals := if held then connection.arrivals else []
    isClosed := true
    service := connection.service.map fun service => { service with isEnding := true } }

/-- Runs the service to its end. -/
def finish (connection : Connection) : Option (Connection × Consumption) :=
  connection.service.map fun service =>
    let reception := service.reception connection.arrivals
    let consumption := service.consumption reception
    ({ connection with
        arrivals := reception.left
        isClosed := connection.isClosed || consumption.hasEnded
        service := none }, consumption)

end Connection

end TradeWire
