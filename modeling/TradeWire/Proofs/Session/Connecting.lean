import TradeWire.Proofs.Request.FirstMessage
import TradeWire.Proofs.Session.Answer
import TradeWire.Proofs.Session.Reachable

/-!
# Ways to connect

Every attempt to connect comes out in exactly one of three ways (`connect_comes_out`): it is
needless, since the client is connected; it succeeds; or it fails, with one problem reported. What
the server does decides which it is: an attempt of a client that is not connected succeeds just if
the connection takes the greeting and the first message and the stream of the server has an answer
(`Opening.Answers`).

This is so for a first message that can be sent (`IsStartable`). With any other an exception leaves
an attempt whose greeting is answered, and the client stays connected (`connect_raises`).
-/

namespace TradeWire

/-! ## Sessions with a new connection -/

namespace Session

/-- The session of a client with a new connection that is the current one. -/
def joined (session : Session) (client : Client) (connection : Connection) : Session :=
  { session with
    client
    connections := session.connections ++ [connection]
    current := some session.connections.length }

section

variable (session : Session) (client : Client) (connection : Connection)

theorem established_eq (agreement : Agreement) :
    session.established connection agreement =
      session.joined (session.client.connected agreement.version agreement.time)
        (connection.serving session.settings.chunkSize.toNat agreement) := rfl

theorem change_joined (f : Connection → Connection) :
    (session.joined client connection).change session.connections.length f =
      session.joined client (f connection) := by
  have modified : (session.connections ++ [connection]).modify session.connections.length f =
      session.connections ++ [f connection] := by
    rw [List.modify_eq_set_getElem?]
    simp
  simp only [change, joined, modified]

theorem changeCurrent_joined (f : Connection → Connection) :
    (session.joined client connection).changeCurrent f = session.joined client (f connection) :=
  change_joined session client connection f

theorem currentConnection?_joined :
    (session.joined client connection).currentConnection? = some connection :=
  List.getElem?_concat_length

theorem ended_joined :
    (session.joined client connection).ended session.connections.length =
      session.joined client.dropped connection := if_pos rfl

theorem finishCurrent_joined :
    (session.joined client connection).finishCurrent = match connection.finish with
      | none => (session.joined client connection, [])
      | some (connection', consumption) =>
        (session.joined (if consumption.hasEnded then client.dropped else client) connection',
          consumption.events) := by
  have newest : (session.joined client connection).connections[session.connections.length]? =
      some connection := List.getElem?_concat_length
  show (session.joined client connection).finish session.connections.length = _
  rw [finish, newest]
  simp only [Option.bind_some, change_joined]
  cases connection.finish with
  | none => rfl
  | some result =>
    obtain ⟨connection', consumption⟩ := result
    simp only
    cases consumption.hasEnded with
    | false => rfl
    | true => simp only [if_true, ended_joined]

theorem outcome_startSession_joined :
    (session.joined client connection).outcome .startSession =
      (do client.startSession ⟨connection.sendError, []⟩; return none) := by
  show (do client.startSession (session.joined client connection).around; return none) = _
  rw [around, currentConnection?_joined]
  rfl

theorem execute_startSession_joined (connected : client.isConnected = true)
    (startable : IsStartable client.clientId client.capabilities) :
    (session.joined client connection).execute .startSession = match connection.sendError with
      | none =>
        let sent := Effect.sent (Frame.write
          (startMessage client.clientId client.capabilities client.serverVersion))
        (session.joined client (connection.after [sent]), { effects := [sent] })
      | some text =>
        (session.joined client (connection.after [.sendFailed]),
          { effects := [.sendFailed], result := .error (.socket text) }) := by
  have outcome := outcome_startSession_joined session client connection
  rw [startable.startSession_eq connected] at outcome
  rw [execute, outcome, changeCurrent_joined]
  cases connection.sendError <;> rfl

/-- A client that leaves a new connection at once leaves it closed. Its service has ended, or it is
held up and meant to end. -/
theorem exists_disconnect_joined (connected : client.isConnected = true) (held : Bool) :
    ∃ client' connection' served,
      (session.joined client connection).disconnect held =
        (session.joined client' connection', { effects := [.shutdown, .closed], served }) ∧
      client'.state = .disconnected ∧ connection'.isClosed = true ∧
      ∀ service, connection'.service = some service → held = true ∧ service.isEnding = true := by
  have connected' : (session.joined client connection).client.isConnected = true := connected
  have shut : (session.joined client connection).shut held =
      session.joined client.disconnected (connection.shut held) :=
    changeCurrent_joined session client.disconnected connection _
  have finished := finishCurrent_joined session client.disconnected (connection.shut held)
  simp only [disconnect, if_pos connected', shut]
  cases held with
  | true =>
    refine ⟨_, _, _, rfl, rfl, rfl, fun service waiting => ⟨rfl, ?_⟩⟩
    obtain ⟨earlier, -, rfl⟩ := Option.map_eq_some_iff.mp waiting
    rfl
  | false =>
    simp only [Bool.false_eq_true, if_false]
    cases ran : (connection.shut false).finish with
    | none =>
      rw [ran] at finished
      have unserved : (connection.shut false).service = none := Option.map_eq_none_iff.mp ran
      rw [finished]
      refine ⟨_, _, _, rfl, rfl, rfl, fun service waiting => ?_⟩
      rw [unserved] at waiting
      cases waiting
    | some result =>
      obtain ⟨connection', consumption⟩ := result
      rw [ran] at finished
      obtain ⟨service, -, same⟩ := Option.map_eq_some_iff.mp ran
      cases same
      rw [finished]
      refine ⟨_, _, _, rfl, ?_, rfl, nofun⟩
      split_ifs <;> rfl

end

/-! ## After the answer -/

theorem exists_begin_of_not_startable (session : Session) {agreement : Agreement}
    (known : Feature.optionalCapabilities ≤ agreement.version)
    (hopeless : ¬ IsStartable session.client.clientId session.client.capabilities)
    (connection : Connection) (held : Bool) :
    ∃ connection' failure,
      session.begin connection agreement held =
        (session.joined (session.client.connected agreement.version agreement.time) connection',
          { result := .error failure }) := by
  let client := session.client.connected agreement.version agreement.time
  let connection' := connection.serving session.settings.chunkSize.toNat agreement
  have connected : client.isConnected = true := rfl
  obtain ⟨failure, fails, other⟩ :=
    exists_startSession_fail connected known hopeless ⟨connection'.sendError, []⟩
  have outcome := outcome_startSession_joined session client connection'
  rw [fails] at outcome
  refine ⟨connection'.after [], failure, ?_⟩
  rw [begin, established_eq, execute, outcome, changeCurrent_joined]
  cases failure
  case socket text => exact absurd rfl (other text)
  all_goals rfl

section

variable (session : Session) {connection : Connection}
  (startable : IsStartable session.client.clientId session.client.capabilities)
  (agreement : Agreement) (held : Bool)
include startable

theorem begin_of_sent (takes : connection.sendError = none) :
    session.begin connection agreement held =
      let sent := Effect.sent (Frame.write (startMessage session.client.clientId
        session.client.capabilities agreement.version))
      (session.joined (session.client.connected agreement.version agreement.time)
        ((connection.serving session.settings.chunkSize.toNat agreement).after [sent]),
        { effects := [sent] }) := by
  have sending := execute_startSession_joined session
    (session.client.connected agreement.version agreement.time)
    (connection.serving session.settings.chunkSize.toNat agreement) rfl startable
  have takes : (connection.serving session.settings.chunkSize.toNat agreement).sendError = none :=
    takes
  rw [takes] at sending
  rw [begin, established_eq, sending]
  rfl

/-- If the first message cannot be sent, the new connection is given up with one report, and its
service has ended unless it is held up. -/
theorem exists_begin_of_failed {text : String} (fails : connection.sendError = some text) :
    ∃ client' connection' served,
      session.begin connection agreement held =
        (session.joined client' connection',
          { effects := [.sendFailed, .problem .socketFailed text, .shutdown, .closed], served }) ∧
      client'.state = .disconnected ∧ connection'.isClosed = true ∧
      ∀ service, connection'.service = some service → held = true ∧ service.isEnding = true := by
  have sending := execute_startSession_joined session
    (session.client.connected agreement.version agreement.time)
    (connection.serving session.settings.chunkSize.toNat agreement) rfl startable
  have fails : (connection.serving session.settings.chunkSize.toNat agreement).sendError =
      some text := fails
  rw [fails] at sending
  obtain ⟨client', connection', served, left, idle, closed, ending⟩ :=
    exists_disconnect_joined session
      (session.client.connected agreement.version agreement.time)
      ((connection.serving session.settings.chunkSize.toNat agreement).after [.sendFailed]) rfl held
  refine ⟨client', connection', served, ?_, idle, closed, ending⟩
  rw [begin, established_eq, sending]
  simp only [left]
  rfl

end

end Session

/-! ## What the server does -/

namespace Connection

/-- The first sendings on a connection succeed. -/
def Takes (count : Nat) (connection : Connection) : Prop :=
  ∀ first text, connection.failsFrom = some (first, text) → count < first

/-- All that is received on a connection before the end or a failure. -/
def stream (size : Nat) (connection : Connection) : Bytes :=
  (received size connection.arrivals).1.flatten

theorem sendError_eq_none_iff {connection : Connection} :
    connection.sendError = none ↔ connection.Takes (connection.sendings + 1) := by
  unfold sendError Takes
  cases connection.failsFrom with
  | none => exact iff_of_true rfl nofun
  | some failure =>
    obtain ⟨first, text⟩ := failure
    simp only [Option.some.injEq, Prod.mk.injEq]
    split_ifs with reached
    · exact iff_of_false nofun fun takes => Nat.not_lt.mpr reached (takes first text ⟨rfl, rfl⟩)
    · refine iff_of_true rfl ?_
      rintro _ _ ⟨rfl, rfl⟩
      exact Nat.not_le.mp reached

variable {connection : Connection} (new : connection.IsNew)
include new

theorem IsNew.takes_one_iff : connection.sendError = none ↔ connection.Takes 1 := by
  rw [sendError_eq_none_iff, new.unused]

theorem IsNew.takes_two_iff (data : Bytes) :
    (connection.after [.sent data]).sendError = none ↔ connection.Takes 2 := by
  have sendings : (connection.after [.sent data]).sendings = 1 := by
    show connection.sendings + 1 = 1
    rw [new.unused]
  rw [sendError_eq_none_iff, sendings]
  rfl

end Connection

namespace Opening

/-- The server is reached, takes so many sendings, and answers the greeting. -/
def Answers (size count : Nat) : Opening → Prop
  | .refused => False
  | .accepted connection =>
    connection.Takes count ∧ ∃ number time, Handshake.Answers (connection.stream size) number time

theorem Answers.mono {size count count' : Nat} {opening : Opening}
    (h : opening.Answers size count') (less : count ≤ count') : opening.Answers size count := by
  cases opening with
  | refused => exact h
  | accepted connection =>
    exact ⟨fun first text fails => less.trans_lt (h.1 first text fails), h.2⟩

def failureCode : Opening → Int
  | .refused => 502
  | .accepted _ => 509

end Opening

/-! ## Ways to come out -/

def Report.data (report : Report) : List Bytes := report.effects.filterMap Effect.data?

/-- The ways in which an attempt to connect comes out. -/
inductive Attempt where
  | needless
  | succeeded
  | failed

namespace Attempt

section

variable (before : Session) (clientId : Int) (opening : Opening) (held : Bool) (after : Session)
  (report : Report)

/-- The client is connected already: this is reported, and nothing else happens. -/
structure Needless : Prop where
  connected : before.client.state = .connected
  unchanged : after = before
  told : report.effects = [.told (.error (-1) 501 "Already connected.")]

/-- The client is connected as the server's answer says, two messages have been sent, and the new
connection is the current one and in service. -/
structure Succeeded : Prop where
  idle : before.client.state ≠ .connected
  works : opening.Answers before.settings.chunkSize.toNat 2
  connected : after.client.state = .connected
  silent : report.events = []
  answered : ∃ connection, opening = .accepted connection ∧
    Handshake.Answers (connection.stream before.settings.chunkSize.toNat)
      after.client.serverVersion after.client.connectionTime
  sent : report.data = [Frame.handshake leastVersion mostVersion,
    Frame.write (startMessage clientId before.client.capabilities after.client.serverVersion)]
  serving : ∃ connection, after.connections = before.connections ++ [connection] ∧
    after.current = some before.connections.length ∧ connection.isClosed = false ∧
    connection.service.isSome = true

/-- The client is disconnected, one problem is reported, and no more than the greeting has been
sent. A new connection is closed and in nobody's service, and never was if the greeting was not
answered. If it was answered, the service may be held up, and is then meant to end. -/
structure Failed : Prop where
  idle : before.client.state ≠ .connected
  cause : ¬ opening.Answers before.settings.chunkSize.toNat 2
  disconnected : after.client.state = .disconnected
  told : ∃ text, report.events = [.error (-1) opening.failureCode text]
  sent : report.data <+: [Frame.handshake leastVersion mostVersion]
  closed : ∃ more, after.connections = before.connections ++ more ∧
    ∀ connection ∈ more, connection.isClosed = true ∧
      ∀ service, connection.service = some service → held = true ∧ service.isEnding = true ∧
        opening.Answers before.settings.chunkSize.toNat 1
  unserved : ¬ opening.Answers before.settings.chunkSize.toNat 1 →
    report.served = none ∧ after.current = before.current

/-- An exception leaves the attempt behind the greeting: nothing is reported, and the client stays
connected. -/
structure Raised : Prop where
  connected : after.client.state = .connected
  silent : report.events = []
  sent : report.data = [Frame.handshake leastVersion mostVersion]
  raised : ∃ failure, report.result = .error failure

/-- What is seen of an attempt that comes out in some way. -/
def Shows : Attempt → Prop
  | .needless => Needless before after report
  | .succeeded => Succeeded before clientId opening after report
  | .failed => Failed before opening held after report

end

variable {before : Session} {clientId : Int} {opening : Opening} {held : Bool} {after : Session}
  {report : Report}

/-- Whether the client was connected before, and what the server does, tell the ways apart. -/
theorem Shows.unique {one other : Attempt}
    (h : one.Shows before clientId opening held after report)
    (h' : other.Shows before clientId opening held after report) : one = other := by
  cases one <;> cases other
  case needless.needless | succeeded.succeeded | failed.failed => rfl
  case needless.succeeded | needless.failed => exact absurd h.connected h'.idle
  case succeeded.needless | failed.needless => exact absurd h'.connected h.idle
  case succeeded.failed => exact absurd h.works h'.cause
  case failed.succeeded => exact absurd h'.works h.cause

theorem Shows.state_ne_connecting {attempt : Attempt}
    (h : attempt.Shows before clientId opening held after report) :
    after.client.state ≠ .connecting := by
  cases attempt with
  | needless =>
    rw [h.unchanged, h.connected]
    exact nofun
  | succeeded =>
    rw [h.connected]
    exact nofun
  | failed =>
    rw [h.disconnected]
    exact nofun

end Attempt

namespace Session

variable {session : Session}

theorem connect_of_connected (connected : session.client.state = .connected)
    (host : Option String) (port clientId : Option Int) (opening : Opening) (held : Bool) :
    session.connect host port clientId opening held =
      (session, { effects := [.told (.error (-1) 501 "Already connected.")] }) := by
  have connected : session.client.isConnected = true := decide_eq_true connected
  rw [connect, if_pos connected]
  rfl

def attempt (session : Session) (host : String) (port clientId : Int) (connection : Connection)
    (held : Bool) : Session × Report :=
  let greeted := (session.connecting host port clientId).greet connection held
  (greeted.1, greeted.2.precededBy [.opened host port session.settings.timeout?])

theorem connect_of_idle (idle : session.client.state ≠ .connected) (host : Option String)
    (port clientId : Option Int) (opening : Opening) (held : Bool) :
    session.connect host port clientId opening held =
      let host := host.getD session.settings.host
      let port := port.getD session.settings.port
      let clientId := clientId.getD session.settings.clientId
      match opening with
      | .refused =>
        ((session.connecting host port clientId).notConnected session.connections,
          { effects := [.opened host port session.settings.timeout?, .problem .connectFailed] })
      | .accepted connection => session.attempt host port clientId connection held := by
  have idle : ¬ session.client.isConnected = true := by
    rw [Client.isConnected, decide_eq_true_eq]
    exact idle
  rw [connect, if_neg idle]
  cases opening <;> rfl

section

variable (session : Session) {connection : Connection} (new : connection.IsNew) (held : Bool)
include new

/-- A greeting that is not answered is given up: at most the greeting is sent, and the new
connection is closed. -/
theorem exists_greet_of_unanswered
    (unanswered : ¬ (Opening.accepted connection).Answers session.settings.chunkSize.toNat 1) :
    ∃ effect text,
      session.greet connection held =
        (session.notConnected (session.connections ++ [(connection.after [effect]).closed]),
          { effects := [effect, .closed, .problem .socketFailed text] }) ∧
      (effect = .sendFailed ∨ effect = .sent (Frame.handshake leastVersion mostVersion)) := by
  unfold greet
  cases takes : connection.sendError with
  | some text => exact ⟨_, text, rfl, .inl rfl⟩
  | none =>
    cases answer : Handshake.await session.settings.chunkSize.toNat [] connection.arrivals with
    | error text => exact ⟨_, text, rfl, .inr rfl⟩
    | ok agreement =>
      obtain ⟨number, time, rest, left⟩ := agreement
      have answers := (Handshake.await_eq_ok_iff _ _ _ number time).mp ⟨rest, left, answer⟩
      exact absurd ⟨new.takes_one_iff.mp takes, number, time, answers⟩ unanswered

theorem exists_greet_of_answered
    (answered : (Opening.accepted connection).Answers session.settings.chunkSize.toNat 1) :
    ∃ agreement,
      let greeting := Effect.sent (Frame.handshake leastVersion mostVersion)
      let started := session.begin (connection.after [greeting]) agreement held
      session.greet connection held = (started.1, started.2.precededBy [greeting, .unlimited]) ∧
      Handshake.Answers (connection.stream session.settings.chunkSize.toNat) agreement.version
        agreement.time := by
  obtain ⟨takes, number, time, answers⟩ := answered
  obtain ⟨rest, left, answer⟩ := (Handshake.await_eq_ok_iff _ [] _ number time).mpr answers
  refine ⟨⟨number, time, rest, left⟩, ?_, answers⟩
  simp only [greet, new.takes_one_iff.mpr takes, answer]

end

/-! ## Attempts on a new connection -/

section

variable {connection : Connection} (new : connection.IsNew)
  (idle : session.client.state ≠ .connected) (host : String) (port clientId : Int) (held : Bool)
include new idle

theorem failed_of_unanswered
    (unanswered : ¬ (Opening.accepted connection).Answers session.settings.chunkSize.toNat 1) :
    let tried := session.attempt host port clientId connection held
    tried.2.result = .ok none ∧
      Attempt.Failed session (.accepted connection) held tried.1 tried.2 := by
  obtain ⟨effect, text, greeted, kind⟩ :=
    exists_greet_of_unanswered (session.connecting host port clientId) new held unanswered
  unfold attempt
  rw [greeted]
  refine ⟨rfl, idle, fun h => unanswered (h.mono (by decide)), rfl,
    ⟨Notice.socketFailed.text text, ?_⟩, ?_, ⟨_, rfl, fun other h => ?_⟩, fun _ => ⟨rfl, rfl⟩⟩
  · rcases kind with rfl | rfl <;> rfl
  · rcases kind with rfl | rfl
    · exact List.nil_prefix
    · exact List.prefix_rfl
  · obtain rfl := List.mem_singleton.mp h
    refine ⟨rfl, fun service waiting => ?_⟩
    have unserved : (connection.after [effect]).closed.service = none := new.unserved
    rw [unserved] at waiting
    cases waiting

variable (startable : IsStartable clientId session.client.capabilities)
include startable

theorem failed_of_unsent
    (answered : (Opening.accepted connection).Answers session.settings.chunkSize.toNat 1)
    (cause : ¬ (Opening.accepted connection).Answers session.settings.chunkSize.toNat 2) :
    let tried := session.attempt host port clientId connection held
    tried.2.result = .ok none ∧
      Attempt.Failed session (.accepted connection) held tried.1 tried.2 := by
  obtain ⟨agreement, greeted, answers⟩ :=
    exists_greet_of_answered (session.connecting host port clientId) new held answered
  have taken := new.takes_two_iff (Frame.handshake leastVersion mostVersion)
  cases second :
    (connection.after [.sent (Frame.handshake leastVersion mostVersion)]).sendError with
  | none => exact absurd ⟨taken.mp second, _, _, answers⟩ cause
  | some text =>
    obtain ⟨client', connection', served, begun, disconnected, closed, ending⟩ :=
      exists_begin_of_failed (session.connecting host port clientId) startable agreement held second
    unfold attempt
    simp only [greeted, begun]
    refine ⟨rfl, idle, cause, disconnected, ⟨_, rfl⟩, List.prefix_rfl,
      ⟨_, rfl, fun other h => ?_⟩, fun unanswered => absurd answered unanswered⟩
    obtain rfl := List.mem_singleton.mp h
    refine ⟨closed, fun service waiting => ?_⟩
    obtain ⟨isHeld, isEnding⟩ := ending service waiting
    exact ⟨isHeld, isEnding, answered⟩

theorem succeeded_of_answers
    (works : (Opening.accepted connection).Answers session.settings.chunkSize.toNat 2) :
    let tried := session.attempt host port clientId connection held
    tried.2.result = .ok none ∧
      Attempt.Succeeded session clientId (.accepted connection) tried.1 tried.2 := by
  obtain ⟨agreement, greeted, answers⟩ := exists_greet_of_answered
    (session.connecting host port clientId) new held (works.mono (by decide))
  have taken := (new.takes_two_iff (Frame.handshake leastVersion mostVersion)).mpr works.1
  have begun :=
    begin_of_sent (session.connecting host port clientId) startable agreement held taken
  unfold attempt
  simp only [greeted, begun]
  exact ⟨rfl, idle, works, rfl, rfl, ⟨_, rfl, answers⟩, rfl, _, rfl, rfl, new.usable, rfl⟩

end

/-! ## All attempts -/

/-- A first message that cannot be sent makes an exception leave the attempt once the greeting
is answered by a server that is told the capabilities. -/
theorem connect_raises {connection : Connection} (new : connection.IsNew)
    (idle : session.client.state ≠ .connected) (host : Option String) (port clientId : Option Int)
    (held : Bool)
    (answered : (Opening.accepted connection).Answers session.settings.chunkSize.toNat 1)
    (known : ∀ number time,
      Handshake.Answers (connection.stream session.settings.chunkSize.toNat) number time →
        Feature.optionalCapabilities ≤ number)
    (hopeless : ¬ IsStartable (clientId.getD session.settings.clientId)
      session.client.capabilities) :
    let (after, report) := session.connect host port clientId (.accepted connection) held
    Attempt.Raised after report := by
  obtain ⟨agreement, greeted, answers⟩ := exists_greet_of_answered (session.connecting
    (host.getD session.settings.host) (port.getD session.settings.port)
    (clientId.getD session.settings.clientId)) new held answered
  obtain ⟨connection', failure, begun⟩ := exists_begin_of_not_startable (session.connecting
    (host.getD session.settings.host) (port.getD session.settings.port)
    (clientId.getD session.settings.clientId)) (known _ _ answers) hopeless
    (connection.after [.sent (Frame.handshake leastVersion mostVersion)]) held
  rw [connect_of_idle idle]
  simp only [attempt, greeted, begun]
  exact ⟨rfl, rfl, rfl, failure, rfl⟩

section

variable (session : Session) (host : Option String) (port clientId : Option Int) {opening : Opening}
  (held : Bool) (possible : opening.IsNew)
  (startable : IsStartable (clientId.getD session.settings.clientId) session.client.capabilities)
include possible startable

theorem exists_shows_connect :
    let connected := session.connect host port clientId opening held
    connected.2.result = .ok none ∧ ∃ attempt : Attempt, attempt.Shows session
      (clientId.getD session.settings.clientId) opening held connected.1 connected.2 := by
  by_cases connected : session.client.state = .connected
  · rw [connect_of_connected connected]
    exact ⟨rfl, .needless, connected, rfl, rfl⟩
  rw [connect_of_idle connected]
  cases opening with
  | refused =>
    refine ⟨rfl, .failed, connected, not_false, rfl, ⟨_, rfl⟩, List.nil_prefix, ⟨[], ?_, nofun⟩,
      fun _ => ⟨rfl, rfl⟩⟩
    exact (List.append_nil _).symm
  | accepted connection =>
    by_cases works : (Opening.accepted connection).Answers session.settings.chunkSize.toNat 2
    · obtain ⟨returns, succeeded⟩ := succeeded_of_answers possible connected _ _ _ held startable works
      exact ⟨returns, .succeeded, succeeded⟩
    by_cases answered : (Opening.accepted connection).Answers session.settings.chunkSize.toNat 1
    · obtain ⟨returns, failed⟩ :=
        failed_of_unsent possible connected _ _ _ held startable answered works
      exact ⟨returns, .failed, failed⟩
    · obtain ⟨returns, failed⟩ := failed_of_unanswered possible connected _ _ _ held answered
      exact ⟨returns, .failed, failed⟩

/-- **Every attempt to connect comes out in exactly one way.** It is needless, and only that is
reported; or it succeeds, with the version and the time of the server's answer, and the greeting and
the first message are all that is sent; or it fails, with one problem reported, nothing behind the
greeting sent and the new connection closed. No exception leaves it, and the client does not stay
half way. -/
theorem connect_comes_out :
    let (after, report) := session.connect host port clientId opening held
    report.result = .ok none ∧ after.client.state ≠ .connecting ∧
      ∃! attempt : Attempt, attempt.Shows session (clientId.getD session.settings.clientId) opening
        held after report := by
  obtain ⟨returns, attempt, shows⟩ :=
    exists_shows_connect session host port clientId held possible startable
  exact ⟨returns, shows.state_ne_connecting, attempt, shows, fun other h => h.unique shows⟩

end

/-- What becomes of a new session when a server answers and is told these capabilities and this
client id. -/
def firstAttempt (capabilities : String) (clientId : Int) : Session × Report :=
  (start { capabilities }).connect none none (some clientId) (.accepted .answering) false

theorem connect_comes_out_answering :
    Opening.IsNew (.accepted .answering) ∧ IsStartable 7 (some "") ∧
      let (after, report) := firstAttempt "" 7
      after.client.state = .connected ∧ after.client.serverVersion = 151 ∧
        after.client.connectionTime = "now" ∧
        report.data = [Frame.handshake 100 151,
          Frame.write (["71", "2", "7", ""].flatMap Field.terminated)] ∧
        ∃! attempt : Attempt,
          attempt.Shows (start {}) 7 (.accepted .answering) false after report := by
  have new : Opening.IsNew (.accepted .answering) := Connection.isNew_answering
  have startable : IsStartable 7 (some "") := ⟨by decide, by decide +kernel⟩
  obtain ⟨-, -, exactly_one⟩ :=
    connect_comes_out (start {}) none none (some 7) false new startable
  exact ⟨new, startable, by decide +kernel, by decide +kernel,
    by decide +kernel, by decide +kernel, exactly_one⟩

theorem answers_answering_iff (number : Int) (time : String) :
    Handshake.Answers (Frame.write (["151", "now"].flatMap Field.terminated)) number time ↔
      number = 151 ∧ time = "now" := by
  have fields : Handshake.answerIn (Frame.write (["151", "now"].flatMap Field.terminated)) =
      some ["151", "now"] := by decide +kernel
  have numeral : Text.readInt "151" = .ok 151 := by decide +kernel
  rw [Handshake.Answers, fields]
  constructor
  · rintro ⟨_, ⟨⟩, read⟩
    exact ⟨(Except.ok.inj (numeral.symm.trans read)).symm, rfl⟩
  · rintro ⟨rfl, rfl⟩
    exact ⟨"151", rfl, numeral⟩

theorem raised_firstAttempt {capabilities : String} {clientId : Int}
    (hopeless : ¬ IsStartable clientId (some capabilities)) :
    Attempt.Raised (firstAttempt capabilities clientId).1
      (firstAttempt capabilities clientId).2 := by
  have idle : (start { capabilities }).client.state ≠ .connected := nofun
  have stream : Connection.answering.stream 4096 =
      Frame.write (["151", "now"].flatMap Field.terminated) := by
    rw [Connection.stream, Connection.answering, received_of_chunk rfl, received_of_ended rfl]
    rfl
  refine connect_raises Connection.isNew_answering idle none none (some clientId) false
    ⟨nofun, 151, "now", ?_⟩ (fun number time answers => ?_) hopeless
  · show Handshake.Answers (Connection.answering.stream 4096) 151 "now"
    rw [stream, answers_answering_iff]
    exact ⟨rfl, rfl⟩
  · have answers : Handshake.Answers (Connection.answering.stream 4096) number time := answers
    rw [stream, answers_answering_iff] at answers
    rw [answers.1]
    decide

/-- A client id that stands for "not set" is not in the first message, whose third field is empty.
An id of more than 4300 digits cannot be written, and capabilities of 4 GiB do not fit into a frame:
an exception leaves the attempt, nothing is reported, and the client stays connected. -/
theorem connect_without_id :
    (firstAttempt "" 2147483647).1.client.state = .connected ∧
      (firstAttempt "" 2147483647).2.events = [] ∧
      (firstAttempt "" 2147483647).2.data = [Frame.handshake 100 151,
        Frame.write (["71", "2", "", ""].flatMap Field.terminated)] ∧
      toString (2147483647 : Int) ∉
        splitFields (["71", "2", "", ""].flatMap Field.terminated) ∧
      Attempt.Raised (firstAttempt "" (10 ^ 4300)).1 (firstAttempt "" (10 ^ 4300)).2 ∧
      let capabilities := String.ofList (List.replicate (2 ^ 32) 'x')
      Attempt.Raised (firstAttempt capabilities 7).1 (firstAttempt capabilities 7).2 := by
  have long : ¬ IsStartable (10 ^ 4300) (some "") := fun startable =>
    absurd startable.written (by decide +kernel)
  have large : ¬ IsStartable 7 (some (String.ofList (List.replicate (2 ^ 32) 'x'))) := by
    refine not_isStartable_of_large ?_
    rw [String.toList_ofList, List.length_replicate]
    decide
  refine ⟨?_, ?_, ?_, ?_, raised_firstAttempt long, raised_firstAttempt large⟩
  all_goals decide +kernel

end Session

end TradeWire
