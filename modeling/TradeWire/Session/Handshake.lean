import TradeWire.Delivery.Receiver
import TradeWire.Text.Numeral
import TradeWire.Wire.Field

/-!
# Handshake

After the greeting, the server answers with a frame of two fields: its version and the time of the
connection. Frames with another number of fields that arrive earlier are passed over. What has been
received after the answer belongs to the connection that follows.
-/

namespace TradeWire

/-- What a handshake settles. -/
structure Agreement where
  version : Int
  time : String
  /-- The bytes that have been received after the answer. -/
  buffer : Bytes
  left : List Arrival

namespace Handshake

/-- The text of the failure when the answer does not come. -/
def closedEarly : String := "connection closed during handshake"

/-- What the two fields of an answer say. -/
def readAnswer (version time : String) (buffer : Bytes) (left : List Arrival) :
    Except String Agreement :=
  match Text.readInt version with
  | .ok number => .ok ⟨number, time, buffer, left⟩
  | .error error => .error (error.message version)

/-- Waits for the answer. The text of a failure says why it does not come or cannot be read. -/
def await (size : Nat) (buffer : Bytes) (arrivals : List Arrival) : Except String Agreement :=
  match _found : Frame.tryRead buffer with
  | .error bad => .error bad.message
  | .ok (some (payload, rest)) =>
    match splitFields payload with
    | [version, time] => readAnswer version time rest arrivals
    | _ => await size rest arrivals
  | .ok none =>
    match _received : receive size arrivals with
    | (.failed text, _) => .error text
    | (.ended, _) => .error closedEarly
    | (.chunk bytes, left) => await size (buffer ++ bytes) left
termination_by 2 * Arrival.total arrivals + buffer.length
decreasing_by
  · have := Frame.length_lt_of_tryRead _found
    omega
  · have := total_of_receive _received
    simp only [List.length_append]
    omega

end Handshake

end TradeWire
