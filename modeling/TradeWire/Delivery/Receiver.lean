import TradeWire.Delivery.Basic
import TradeWire.Wire.Frame

/-!
# Receivers

A receiver takes what arrives on a socket, cuts it into frames, and hands on their payloads. It
stops at the end of what arrives, at a failure of the socket, and at a frame that declares too great
a length; the last thing it hands on is the mark that nothing follows.
-/

namespace TradeWire

/-! ## What arrives -/

/-- Something that arrives on a socket. No bytes at all are the end. -/
inductive Arrival where
  | data (bytes : Bytes)
  | failure (text : String)

namespace Arrival

/-- How much there is to an arrival. -/
def weight : Arrival → Nat
  | .data bytes => bytes.length + 1
  | .failure _ => 1

/-- How much there is to arrive. -/
def total : List Arrival → Nat
  | [] => 0
  | arrival :: rest => arrival.weight + total rest

end Arrival

/-- What one attempt to receive gives. -/
inductive Received where
  | chunk (bytes : Bytes)
  | ended
  | failed (text : String)

/-- Receives at most `size` bytes, and what is left to arrive. More bytes than that arrive in
pieces. -/
def receive (size : Nat) : List Arrival → Received × List Arrival
  | [] => (.ended, [])
  | .failure text :: rest => (.failed text, rest)
  | .data bytes :: rest =>
    if bytes.isEmpty then (.ended, rest)
    else if size = 0 then (.ended, .data bytes :: rest)
    else if bytes.length ≤ size then (.chunk bytes, rest)
    else (.chunk (bytes.take size), .data (bytes.drop size) :: rest)

/-- A chunk has some bytes, and they were among those that were going to arrive. -/
theorem total_of_receive {size : Nat} {arrivals left : List Arrival} {bytes : Bytes}
    (h : receive size arrivals = (.chunk bytes, left)) :
    0 < bytes.length ∧ Arrival.total left + bytes.length ≤ Arrival.total arrivals := by
  unfold receive at h
  split at h
  · cases h
  · cases h
  · split at h
    · cases h
    · rename_i data rest given
      have some_given : 0 < data.length := by
        cases data with
        | nil => exact absurd rfl given
        | cons _ _ => exact Nat.succ_pos _
      split at h
      · cases h
      · split at h
        · cases h
          simp only [Arrival.total, Arrival.weight]
          omega
        · cases h
          simp only [Arrival.total, Arrival.weight, List.length_take, List.length_drop]
          omega

/-! ## Receiving -/

/-- What a receiver has done when it stops. -/
structure Reception where
  deliveries : List Delivery
  /-- Whether the receiver asked the socket to shut down. That discards what has not arrived yet. -/
  isShutDown : Bool
  left : List Arrival
  /-- What each attempt to receive has given, in order. -/
  attempts : List Received := []
  /-- The failure of the shutdown, which is passed over: the socket may have been closed by then. -/
  passedOver? : Option String := none

namespace Reception

/-- A reception that starts with some payloads. -/
def prepend (payloads : List Bytes) (r : Reception) : Reception :=
  { r with deliveries := payloads.map .payload ++ r.deliveries }

/-- A reception that starts with an attempt to receive. -/
def after (result : Received) (r : Reception) : Reception :=
  { r with attempts := result :: r.attempts }

/-- The end of a reception by shutting the socket down, which may fail. -/
def shutDown (failure? : Option String) (problems : List Delivery) : Reception where
  deliveries := problems ++ [.finished]
  isShutDown := true
  left := []
  passedOver? := failure?

/-- The end of a reception by a failure of the socket, which is no problem if the connection was to
end. -/
def failed (isEnding : Bool) (text : String) (left : List Arrival) : Reception where
  deliveries := (if isEnding then [] else [Delivery.ofNotice .socketFailed text]) ++ [.finished]
  isShutDown := false
  left := left

end Reception

/-- Receives until it stops, starting with the bytes in a buffer. The socket may answer with a
failure if it is asked to shut down. -/
def receiveUntilStop (failure? : Option String) (size : Nat) (isEnding : Bool) (buffer : Bytes)
    (arrivals : List Arrival) : Reception :=
  match Frame.readAll buffer with
  | .error bad => .shutDown failure? [Delivery.ofNotice .badLength (": " ++ bad.message)]
  | .ok (payloads, rest) =>
    Reception.prepend payloads <|
      match _found : receive size arrivals with
      | (.failed text, left) => .after (.failed text) (.failed isEnding text left)
      | (.ended, _) => .after .ended (.shutDown failure? [])
      | (.chunk bytes, left) =>
        .after (.chunk bytes) (receiveUntilStop failure? size isEnding (rest ++ bytes) left)
termination_by Arrival.total arrivals
decreasing_by
  have := total_of_receive _found
  omega

/-- Receives until it stops, from a socket that can be shut down. -/
def receiveAll (size : Nat) (isEnding : Bool) (buffer : Bytes) (arrivals : List Arrival) :
    Reception :=
  receiveUntilStop none size isEnding buffer arrivals

end TradeWire
