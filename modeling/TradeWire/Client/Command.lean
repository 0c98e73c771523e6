import TradeWire.Client.Basic
import TradeWire.Request.Call

/-!
# Commands

What can be asked of a client that has a connection of its own or none: the requests, and questions
about the client itself. Commands are called by name like requests.
-/

namespace TradeWire

/-- Something that is asked of a client. -/
inductive Command where
  | request (request : Request)
  | startSession
  | send (payload : Bytes)
  | isConnected
  | serverVersion
  | connectionTime
  | connectionState
  | checkConnected (id : Int)
  | supports (version : Int)
  | require (version id : Int) (detail : String) (used : Bool)

namespace Command

/-- A payload among the arguments of a call. -/
def payload (name : String) : Call Bytes := do
  match ← Call.next? name with
  | some (.bytes value) => return value
  | _ => failure

/-- The calls that are no requests. -/
def calls : List (String × Call Command) := [
  ("start_api", pure startSession),
  ("send_msg", send <$> payload "payload"),
  ("is_connected", pure isConnected),
  ("server_version", pure serverVersion),
  ("tws_connection_time", pure connectionTime),
  ("connection_state", pure connectionState),
  ("check_connected", checkConnected <$> Call.reqId),
  ("supports", supports <$> Call.int "minimum"),
  ("require", require <$> Call.int "minimum" <*> Call.reqId <*> Call.need "detail" <*>
    Call.holds "when" true)]

/-- The command that a call makes. -/
def ofCall? (name : String) (arguments : Arguments) : Option Command :=
  match calls.lookup name with
  | some call => call.result? arguments
  | none => (Request.ofCall? name arguments).map request

end Command

namespace Client

/-- Carries out a command. Its value is what the caller is given, if it is given anything. -/
def execute (client : Client) (around : Surroundings) : Command → Outcome (Option Datum)
  | .request request => do
    client.request around request
    return none
  | .startSession => do
    client.startSession around
    return none
  | .send payload => do
    send around payload
    return none
  | .isConnected => return some (describe client.isConnected)
  | .serverVersion => return some (describe client.serverVersion)
  | .connectionTime => return some (describe client.connectionTime)
  | .connectionState => return some client.state.member
  | .checkConnected id => return some (describe (← client.checkConnected around id))
  | .supports version => return some (describe (client.supports version))
  | .require version id detail used => do
    client.require version id detail used
    return none

end Client

end TradeWire
