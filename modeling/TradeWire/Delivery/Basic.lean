import TradeWire.Request.Plan

/-!
# Deliveries

What one who receives from a socket hands to one who interprets: payloads, at most one problem of
the connection, and a mark that nothing follows. A delivery travels as a list of parts, the first of
which says what it is; other lists of parts may be met, and some are malformed.
-/

namespace TradeWire

/-- Something that is handed over. -/
inductive Delivery where
  | payload (bytes : Bytes)
  | problem (code : Int) (text : String)
  | finished
  deriving DecidableEq

namespace Delivery

def payloadMark : Bytes := Text.encode "MSG"

def problemMark : Bytes := Text.encode "ERR"

def finishedMark : Bytes := Text.encode "END"

/-- The parts as which a delivery travels. -/
def parts : Delivery → List Bytes
  | .payload bytes => [payloadMark, bytes]
  | .problem code text => [problemMark, Text.encode (toString code), Text.encode text]
  | .finished => [finishedMark]

/-- A problem with a fixed code. -/
def ofNotice (notice : Notice) (detail : String) : Delivery :=
  .problem notice.code (notice.text detail)

/-- The problem that two parts say. -/
def problemOf : List Bytes → Except Failure Delivery
  | [] => .error .missingPart
  | code :: rest =>
    match Text.readIntBytes code with
    | .error error => .error (.badCode (error.bytesMessage code))
    | .ok number =>
      match rest with
      | [] => .error .missingPart
      | text :: _ => .ok (.problem number (Text.decode text))

/-- The delivery that parts make up, if they are of a known kind. -/
def ofParts : List Bytes → Except Failure (Option Delivery)
  | [] => .error .missingPart
  | mark :: rest =>
    if mark = payloadMark then
      match rest with
      | [] => .error .missingPart
      | bytes :: _ => .ok (some (.payload bytes))
    else if mark = problemMark then (problemOf rest).map some
    else if mark = finishedMark then .ok (some .finished)
    else .ok none

end Delivery

/-- A queue of deliveries in parts, until the one who takes them closes it. -/
structure Channel where
  waiting : List (List Bytes) := []
  isClosed : Bool := false

namespace Channel

def put (channel : Channel) (delivery : Delivery) : Channel :=
  { channel with waiting := channel.waiting ++ [delivery.parts] }

/-- The parts that have waited longest, if anything is waiting. -/
def get? (channel : Channel) : Option (List Bytes) × Channel :=
  match channel.waiting with
  | [] => (none, channel)
  | parts :: rest => (some parts, { channel with waiting := rest })

/-- The channel after it has been closed, with what was not taken from it. -/
def closed (unread : List (List Bytes)) (channel : Channel) : Channel :=
  { channel with waiting := unread, isClosed := true }

end Channel

end TradeWire
