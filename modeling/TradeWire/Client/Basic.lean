import TradeWire.Client.Outcome
import TradeWire.Request.Basic
import TradeWire.Wire.Frame

/-!
# Clients

A client knows whether it is connected, and to which version of the server. Every request first
checks the connection, then plans its message, and sends it as one frame. Problems along the way are
reported to the application and nothing is sent.
-/

namespace TradeWire

/-- The state of a connection. -/
inductive ConnectionState where
  | disconnected
  | connecting
  | connected
  | redirect
  deriving DecidableEq

namespace ConnectionState

def all : List ConnectionState := [.disconnected, .connecting, .connected, .redirect]

def name : ConnectionState → String
  | .disconnected => "DISCONNECTED"
  | .connecting => "CONNECTING"
  | .connected => "CONNECTED"
  | .redirect => "REDIRECT"

def number : ConnectionState → Int
  | .disconnected => 0
  | .connecting => 1
  | .connected => 2
  | .redirect => 3

/-- The state as a member of the enumeration of all states. -/
def member (state : ConnectionState) : Datum :=
  .member "ConnectionState" state.name (.int state.number)

end ConnectionState

/-- How things outside of a client behave: the error of the next sending, if it fails, and the
callbacks of the application that raise. -/
structure Surroundings where
  sendError : Option String := none
  raising : List String := []

/-- A client. -/
structure Client where
  state : ConnectionState := .disconnected
  serverVersion : Int := 0
  connectionTime : String := ""
  clientId : Int := 0
  capabilities : Label := Label.blank
  /-- Whether an intent to authenticate is announced. -/
  announced : Bool := false

namespace Client

def isConnected (client : Client) : Bool := client.state = .connected

def supports (client : Client) (version : Int) : Bool := version ≤ client.serverVersion

/-- Whether the client is connected; a problem is reported otherwise. -/
def checkConnected (client : Client) (around : Surroundings) (id : Int) : Outcome Bool :=
  if client.isConnected then pure true
  else do
    Outcome.report around.raising id .notConnected
    return false

/-- Sends a payload in a frame, if there is a header for its length, with what is done when the
socket fails. -/
def sendOr (around : Surroundings) (payload : Bytes) (failed : String → Outcome Unit) :
    Outcome Unit :=
  if Frame.largestLength < payload.length then .fail .unframable
  else match around.sendError with
    | none => .effect (.sent (Frame.write payload))
    | some text => do
      Outcome.effect .sendFailed
      failed text

/-- Sends a payload in a frame. -/
def send (around : Surroundings) (payload : Bytes) : Outcome Unit :=
  sendOr around payload fun text => .fail (.socket text)

/-- Sends what a plan says, or reports why it is not sent. -/
def carryOut (client : Client) (around : Surroundings) (plan : Plan) : Outcome Unit :=
  match plan.payloadAt client.serverVersion with
  | .error (.refused refusal) =>
    Outcome.report around.raising refusal.id refusal.notice refusal.detail
  | .error (.failed failure) => .fail failure
  | .ok payload =>
    sendOr around payload fun text => .report around.raising plan.subject .socketFailed text

/-- Makes a request. -/
def request (client : Client) (around : Surroundings) (request : Request) : Outcome Unit := do
  let plan := request.plan client.announced
  if ← client.checkConnected around plan.subject then client.carryOut around plan

/-- Starts the session; unlike a request, it fails when the message cannot be sent. -/
def startSession (client : Client) (around : Surroundings) : Outcome Unit := do
  if ← client.checkConnected around noId then
    match (Plan.start client.clientId client.capabilities).payloadAt client.serverVersion with
    | .error (.refused refusal) => .fail (.refused refusal)
    | .error (.failed failure) => .fail failure
    | .ok payload => send around payload

/-- Fails if something is used that needs a newer server. -/
def require (client : Client) (version id : Int) (detail : String) (used : Bool) :
    Outcome Unit :=
  if used && !client.supports version then .fail (.refused ⟨id, .serverTooOld, detail⟩)
  else pure ()

/-- The client after it has disconnected. -/
def disconnected (client : Client) : Client :=
  { client with state := .disconnected, serverVersion := 0 }

/-- The client after its connection has ended without its doing. -/
def dropped (client : Client) : Client := { client with state := .disconnected }

/-- The client while it connects. -/
def connecting (client : Client) (clientId : Int) : Client :=
  { client with state := .connecting, clientId }

/-- The client after a handshake. -/
def connected (client : Client) (version : Int) (time : String) : Client :=
  { client with state := .connected, serverVersion := version, connectionTime := time }

end Client

end TradeWire
