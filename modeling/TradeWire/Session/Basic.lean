import TradeWire.Client.Command
import TradeWire.Session.Connection
import TradeWire.Session.Settings

/-!
# Sessions

A session is a client with its settings and all connections that it has made, of which at most one
is current: the last whose handshake succeeded. Commands are sent on the current connection. A
connection whose service ends late still closes, but only the end of the current one disconnects the
client.

The service of a connection starts after the handshake, just before the first message is sent, and
it is not run between the two. From then on it runs when an action says so.
-/

namespace TradeWire

/-- What an action in a session leads to: the effects of the caller, and, if a service was to be run
to its end, the events of which its consumer told the application. -/
structure Report where
  effects : List Effect := []
  served : Option (List Event) := none
  result : Except Failure (Option Datum) := .ok none

namespace Report

/-- The report with effects before it. -/
def precededBy (effects : List Effect) (report : Report) : Report :=
  { report with effects := effects ++ report.effects }

/-- The events of which the caller told the application. -/
def events (report : Report) : List Event := report.effects.filterMap Effect.event?

end Report

/-- A problem of which the application is told. -/
def Effect.problem (notice : Notice) (detail : String := "") : Effect :=
  .told (.error noId notice.code (notice.text detail))

/-- How an attempt to open a connection ends. -/
inductive Opening where
  | refused
  | accepted (connection : Connection)

/-- Something that is done in a session. Where the host, port or client id is not given, the setting
counts. -/
inductive Action where
  /-- With `held`, the service of a new connection on which the first message cannot be sent is held
  up until it is run by another action. -/
  | connect (host : Option String) (port clientId : Option Int) (opening : Opening) (held : Bool)
  /-- More arrives on a connection, the newest one unless its number is given, and its service runs
  to its end. -/
  | serve (connection : Option Nat) (more : List Arrival)
  /-- With `held`, the service is held up until it is run by another action. -/
  | disconnect (held : Bool)
  | command (command : Command)

/-- A session. -/
structure Session where
  settings : Settings
  client : Client
  /-- The host and port of the last attempt to connect. -/
  peer : Option (String × Int) := none
  connections : List Connection := []
  current : Option Nat := none

namespace Session

/-- A session without connections. -/
def start (settings : Settings) : Session :=
  { settings, client := { capabilities := some settings.capabilities } }

/-- Announces an intent to authenticate, or no more. -/
def announce (session : Session) (announced : Bool) : Session :=
  { session with client := { session.client with announced } }

def currentConnection? (session : Session) : Option Connection :=
  session.current.bind (session.connections[·]?)

/-- Changes one connection. -/
def change (session : Session) (index : Nat) (f : Connection → Connection) : Session :=
  { session with connections := session.connections.modify index f }

/-- Changes the current connection. -/
def changeCurrent (session : Session) (f : Connection → Connection) : Session :=
  match session.current with
  | some index => session.change index f
  | none => session

/-! ## Commands -/

/-- How the current connection behaves. -/
def around (session : Session) : Surroundings :=
  ⟨session.currentConnection?.bind Connection.sendError, []⟩

/-- What the client does for a command. Without a connection, nothing can be sent as it is. -/
def outcome (session : Session) (command : Command) : Outcome (Option Datum) :=
  match command, session.current with
  | .send _, none => .fail .noSocket
  | command, _ => session.client.execute session.around command

/-- Carries out a command. -/
def execute (session : Session) (command : Command) : Session × Report :=
  let outcome := session.outcome command
  (session.changeCurrent (·.after outcome.effects), ⟨outcome.effects, none, outcome.result⟩)

/-! ## Ends -/

/-- The session after the service of a connection has ended. -/
def ended (session : Session) (index : Nat) : Session :=
  if session.current = some index then { session with client := session.client.dropped }
  else session

/-- Runs the service of a connection to its end, and gives what its consumer told. -/
def finish (session : Session) (index : Nat) : Session × List Event :=
  match session.connections[index]?.bind Connection.finish with
  | none => (session, [])
  | some (connection, consumption) =>
    let session := session.change index fun _ => connection
    (if consumption.hasEnded then session.ended index else session, consumption.events)

/-- Runs the service of the current connection to its end. -/
def finishCurrent (session : Session) : Session × List Event :=
  match session.current with
  | some index => session.finish index
  | none => (session, [])

/-- More arrives on a connection, and its service runs to its end. -/
def serve (session : Session) (connection : Option Nat) (more : List Arrival) : Session × Report :=
  let index := connection.getD (session.connections.length - 1)
  let (session, events) := (session.change index (·.expecting more)).finish index
  (session, { served := some events })

/-- The session after the client has shut the current connection down. -/
def shut (session : Session) (held : Bool) : Session :=
  { session with client := session.client.disconnected }.changeCurrent (·.shut held)

/-- Disconnects, if the client is connected. -/
def disconnect (session : Session) (held : Bool) : Session × Report :=
  if session.client.isConnected then
    let session := session.shut held
    if held then (session, { effects := [.shutdown, .closed] })
    else
      let (session, events) := session.finishCurrent
      (session, { effects := [.shutdown, .closed], served := some events })
  else (session, {})

/-! ## Connecting -/

/-- The session after an attempt to connect has failed. -/
def notConnected (session : Session) (connections : List Connection) : Session :=
  { session with client := session.client.dropped, connections }

/-- The session on a new connection after its handshake. -/
def established (session : Session) (connection : Connection) (agreement : Agreement) : Session :=
  { session with
    client := session.client.connected agreement.version agreement.time
    connections := session.connections ++
      [connection.serving session.settings.chunkSize.toNat agreement]
    current := some session.connections.length }

/-- Starts the session on a new connection after its handshake. If that cannot be sent, the
connection is given up. -/
def begin (session : Session) (connection : Connection) (agreement : Agreement) (held : Bool) :
    Session × Report :=
  let (session, started) := (session.established connection agreement).execute .startSession
  match started.result with
  | .error (.socket text) =>
    let (session, left) := session.disconnect held
    (session, left.precededBy (started.effects ++ [.problem .socketFailed text]))
  | _ => (session, started)

/-- Greets the server on a new connection and waits for its answer. -/
def greet (session : Session) (connection : Connection) (held : Bool) : Session × Report :=
  let greeting := Frame.handshake leastVersion mostVersion
  let giveUp (effect : Effect) (text : String) : Session × Report :=
    (session.notConnected (session.connections ++ [(connection.after [effect]).closed]),
      { effects := [effect, .closed, .problem .socketFailed text] })
  match connection.sendError with
  | some text => giveUp .sendFailed text
  | none =>
    let greeted := Effect.sent greeting
    match Handshake.await session.settings.chunkSize.toNat [] connection.arrivals with
    | .error text => giveUp greeted text
    | .ok agreement =>
      let (session, report) := session.begin (connection.after [greeted]) agreement held
      (session, report.precededBy [greeted, .unlimited])

/-- The session while it connects to a peer. -/
def connecting (session : Session) (host : String) (port clientId : Int) : Session :=
  { session with client := session.client.connecting clientId, peer := some (host, port) }

/-- Connects, unless the client is connected already. -/
def connect (session : Session) (host : Option String) (port clientId : Option Int)
    (opening : Opening) (held : Bool) : Session × Report :=
  if session.client.isConnected then (session, { effects := [.problem .alreadyConnected] })
  else
    let settings := session.settings
    let host := host.getD settings.host
    let port := port.getD settings.port
    let session := session.connecting host port (clientId.getD settings.clientId)
    let opened := Effect.opened host port settings.timeout?
    match opening with
    | .refused =>
      (session.notConnected session.connections, { effects := [opened, .problem .connectFailed] })
    | .accepted connection =>
      let (session, report) := session.greet connection held
      (session, report.precededBy [opened])

/-! ## Actions -/

/-- Does something in a session. -/
def act (session : Session) : Action → Session × Report
  | .connect host port clientId opening held => session.connect host port clientId opening held
  | .serve connection more => session.serve connection more
  | .disconnect held => session.disconnect held
  | .command command => session.execute command

end Session

end TradeWire
