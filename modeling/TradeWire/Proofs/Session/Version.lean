import TradeWire.Proofs.Session.Connecting

/-!
# The version of the server

The version that a client goes by is the one in the server's answer to the greeting, whatever number
that is, and only the client itself gives it up. What an action makes of state and version is said
once (`Turn`, `turn_act`), and two facts about all reachable sessions follow.

* A connected client stays within the range of versions that it announces just if all servers answer
  within that range (`keeps_to_range_iff`).
* A client that is not connected shows no version just if no server ends a connection; a version is
  then left behind (`shows_no_version_iff`).
-/

namespace TradeWire

namespace Session

/-! ## Allowed actions -/

/-- The sessions that come of a new one by actions, each of them allowed in the session at hand. -/
inductive ReachableBy (allowed : Session → Action → Prop) (settings : Settings) : Session → Prop
  | start : ReachableBy allowed settings (start settings)
  | announce {session : Session} (announced : Bool) :
    ReachableBy allowed settings session →
      ReachableBy allowed settings (session.announce announced)
  | act {session : Session} {action : Action} :
    allowed session action → ReachableBy allowed settings session →
      ReachableBy allowed settings (session.act action).1

theorem Evolves.settings {earlier session : Session} (h : Evolves earlier session) :
    session.settings = earlier.settings := by
  induction h with
  | refl => rfl
  | change _ _ _ ih | settle _ _ _ ih | add _ _ ih | join _ _ ih => exact ih

theorem settings_of_reachableBy {allowed : Session → Action → Prop} {settings : Settings}
    {session : Session} (h : ReachableBy allowed settings session) :
    session.settings = settings := by
  induction h with
  | start => rfl
  | announce announced _ ih => exact ih
  | act _ _ ih => exact (evolves_act _ _).settings.trans ih

/-! ## What parts of actions make of the client -/

section

variable (session : Session)

theorem client_changeCurrent (f : Connection → Connection) :
    (session.changeCurrent f).client = session.client := by
  obtain ⟨index, g, same⟩ := session.exists_change_of_changeCurrent f
  rw [same, client_change]

theorem client_finish_cases (index : Nat) :
    (session.finish index).1.client = session.client ∨
      (session.finish index).1.client = session.client.dropped := by
  rcases session.finish_cases index with ⟨g, same⟩ | ⟨g, -, same⟩
  · exact .inl (by rw [same, client_change])
  · exact .inr (by rw [same])

theorem client_disconnect (connected : session.client.state = .connected) (held : Bool) :
    (session.disconnect held).1.client.state = .disconnected ∧
      (session.disconnect held).1.client.serverVersion = 0 := by
  have connected : session.client.isConnected = true := decide_eq_true connected
  have shut : (session.shut held).client = session.client.disconnected :=
    client_changeCurrent _ _
  rw [disconnect, if_pos connected]
  cases held with
  | true => rw [if_pos rfl, shut]; exact ⟨rfl, rfl⟩
  | false =>
    rw [if_neg Bool.false_ne_true]
    unfold finishCurrent
    cases (session.shut false).current with
    | none => simp only [shut]; exact ⟨rfl, rfl⟩
    | some index =>
      rcases (session.shut false).client_finish_cases index with same | same <;>
        simp only [same, shut] <;> exact ⟨rfl, rfl⟩

theorem client_begin_cases (connection : Connection) (agreement : Agreement) (held : Bool) :
    let after := (session.begin connection agreement held).1.client
    (after.state = .connected ∧ after.serverVersion = agreement.version) ∨
      (after.state = .disconnected ∧ after.serverVersion = 0) := by
  have joined : ((session.established connection agreement).execute .startSession).1.client =
      session.client.connected agreement.version agreement.time := client_changeCurrent _ _
  unfold begin
  simp only
  split
  · exact .inr (client_disconnect _ (by rw [joined]; rfl) held)
  · exact .inl (by rw [joined]; exact ⟨rfl, rfl⟩)

theorem client_greet_cases (connection : Connection) (held : Bool) :
    let after := (session.greet connection held).1.client
    after = session.client.dropped ∨ (after.state = .disconnected ∧ after.serverVersion = 0) ∨
      (after.state = .connected ∧ ∃ time, Handshake.Answers
        (connection.stream session.settings.chunkSize.toNat) after.serverVersion time) := by
  unfold greet
  simp only
  split
  · exact .inl rfl
  · split
    · exact .inl rfl
    · rename_i agreement answer
      have answers := (Handshake.await_eq_ok_iff _ _ _ agreement.version agreement.time).mp
        ⟨agreement.buffer, agreement.left, answer⟩
      rcases session.client_begin_cases
        (connection.after [.sent (Frame.handshake leastVersion mostVersion)]) agreement held with
        ⟨connected, version⟩ | idle
      · refine .inr (.inr ⟨connected, agreement.time, ?_⟩)
        rw [version]
        exact answers
      · exact .inr (.inl idle)

end

/-! ## What an action makes of the client -/

/-- What an action makes of the state and the version of a client. -/
inductive Turn (size : Nat) (before : Client) : Action → Client → Prop
  | stayed {action : Action} {after : Client} : after.state = before.state →
    after.serverVersion = before.serverVersion → Turn size before action after
  /-- The server has ended the connection. -/
  | lost {index : Option Nat} {more : List Arrival} {after : Client} :
    after.state = .disconnected → after.serverVersion = before.serverVersion →
      Turn size before (.serve index more) after
  | left {held : Bool} {after : Client} : after.state = .disconnected →
    after.serverVersion = 0 → Turn size before (.disconnect held) after
  /-- There is no new connection, or it has been given up. -/
  | missed {host : Option String} {port clientId : Option Int} {opening : Opening} {held : Bool}
    {after : Client} : before.state ≠ .connected → after.state = .disconnected →
      (after.serverVersion = before.serverVersion ∨ after.serverVersion = 0) →
        Turn size before (.connect host port clientId opening held) after
  /-- The server of a new connection has answered. -/
  | joined {host : Option String} {port clientId : Option Int} {connection : Connection}
    {held : Bool} {after : Client} {time : String} : before.state ≠ .connected → after.state = .connected →
      Handshake.Answers (connection.stream size) after.serverVersion time →
        Turn size before (.connect host port clientId (.accepted connection) held) after

theorem turn_connect (session : Session) (host : Option String) (port clientId : Option Int)
    (opening : Opening) (held : Bool) :
    Turn session.settings.chunkSize.toNat session.client (.connect host port clientId opening held)
      (session.connect host port clientId opening held).1.client := by
  by_cases connected : session.client.state = .connected
  · rw [connect_of_connected connected]
    exact .stayed rfl rfl
  rw [connect_of_idle connected]
  cases opening with
  | refused => exact .missed connected rfl (.inl rfl)
  | accepted connection =>
    rcases client_greet_cases (session.connecting (host.getD session.settings.host)
      (port.getD session.settings.port) (clientId.getD session.settings.clientId)) connection held
      with failed | ⟨idle, version⟩ | ⟨joined, time, answers⟩
    · simp only [attempt, failed]
      exact .missed connected rfl (.inl rfl)
    · exact .missed connected idle (.inr version)
    · exact .joined connected joined answers

/-- What an action makes of the client, whatever the server does. -/
theorem turn_act (session : Session) (action : Action) :
    Turn session.settings.chunkSize.toNat session.client action (session.act action).1.client := by
  cases action with
  | connect host port clientId opening held =>
    exact turn_connect session host port clientId opening held
  | serve connection more =>
    let index := connection.getD (session.connections.length - 1)
    show Turn _ _ _ ((session.change index (·.expecting more)).finish index).1.client
    rcases (session.change index (·.expecting more)).client_finish_cases index with same | same
    · rw [same]
      exact .stayed rfl rfl
    · rw [same]
      exact .lost rfl rfl
  | disconnect held =>
    by_cases connected : session.client.state = .connected
    · exact .left (session.client_disconnect connected held).1
        (session.client_disconnect connected held).2
    · have idle : ¬ session.client.isConnected = true := fun h => connected (of_decide_eq_true h)
      show Turn _ _ _ (session.disconnect held).1.client
      rw [disconnect, if_neg idle]
      exact .stayed rfl rfl
  | command command =>
    have same : (session.execute command).1.client = session.client := client_changeCurrent _ _
    show Turn _ _ _ (session.execute command).1.client
    rw [same]
    exact .stayed rfl rfl

/-! ## No version without a connection -/

/-- **A client that is not connected shows no version just if no server ends a connection.** When
the server ends it, the version that was agreed on stays to be seen; all other ways to be without a
connection leave zero. -/
theorem shows_no_version_iff (settings : Settings) (allowed : Session → Action → Prop) :
    (∀ session, ReachableBy allowed settings session → session.client.state ≠ .connected →
      session.client.serverVersion = 0) ↔
    ∀ session index more, ReachableBy allowed settings session →
      allowed session (.serve index more) →
      session.client.state = .connected →
      (session.act (.serve index more)).1.client.state ≠ .connected →
        session.client.serverVersion = 0 := by
  constructor
  · intro clear session index more reachable allows connected ended
    have version := clear _ (.act allows reachable) ended
    cases session.turn_act (.serve index more) with
    | stayed _ same => rwa [same] at version
    | lost _ same => rwa [same] at version
  · intro spares session reachable
    induction reachable with
    | start => exact fun _ => rfl
    | announce announced _ ih => exact ih
    | @act session action allows reachable ih =>
      intro idle
      cases session.turn_act action with
      | stayed state same => rw [same, ih (state ▸ idle)]
      | @lost index more _ state same =>
        rw [same]
        by_cases connected : session.client.state = .connected
        · exact spares session index more reachable allows connected idle
        · exact ih connected
      | left _ zero => exact zero
      | missed before _ version => exact version.elim (fun same => same.trans (ih before)) id
      | joined _ connected _ => exact absurd connected idle

/-- The server ends the first connection of a session, and its version is still to be seen. -/
theorem version_left_behind :
    let connected := ((start {}).act (.connect none none none (.accepted .answering) false)).1
    let session := (connected.act (.serve none [])).1
    Reachable {} session ∧ session.client.state = .disconnected ∧
      session.client.serverVersion = 151 := by
  intro connected session
  have reachable : Reachable {} connected := .act Connection.isNew_answering .start
  exact ⟨.act trivial reachable, by decide +kernel, by decide +kernel⟩

/-! ## Services -/

end Session

/-- The service of a connection, if there is one, reads messages as one of these versions has
them. -/
def Connection.ServedIn (versions : Int → Prop) (connection : Connection) : Prop :=
  ∀ service, connection.service = some service → versions service.version

theorem Connection.servedIn_shut {versions : Int → Prop} {connection : Connection}
    (served : connection.ServedIn versions) (held : Bool) :
    (connection.shut held).ServedIn versions := by
  intro service found
  obtain ⟨earlier, waiting, rfl⟩ := Option.map_eq_some_iff.mp found
  exact served earlier waiting

namespace Session

/-- All services that wait in a session read messages as one of these versions has them. -/
def ServesIn (versions : Int → Prop) (session : Session) : Prop :=
  ∀ connection ∈ session.connections, connection.ServedIn versions

section

variable {versions : Int → Prop} {session : Session} (serves : session.ServesIn versions)
include serves

theorem servesIn_change {f : Connection → Connection} (index : Nat)
    (kept : ∀ connection, connection.ServedIn versions → (f connection).ServedIn versions) :
    (session.change index f).ServesIn versions := by
  intro connection member
  obtain ⟨place, inside, rfl⟩ := List.mem_iff_getElem.mp member
  have inside' : place < session.connections.length := by
    rwa [length_change] at inside
  have old := serves _ (List.getElem_mem inside')
  simp only [change, List.getElem_modify]
  split_ifs
  · exact kept _ old
  · exact old

theorem servesIn_changeCurrent {f : Connection → Connection}
    (kept : ∀ connection, connection.ServedIn versions → (f connection).ServedIn versions) :
    (session.changeCurrent f).ServesIn versions := by
  unfold changeCurrent
  cases session.current with
  | some index => exact servesIn_change serves index kept
  | none => exact serves

theorem servesIn_finish (index : Nat) : (session.finish index).1.ServesIn versions := by
  unfold finish
  cases ran : session.connections[index]?.bind Connection.finish with
  | none => exact serves
  | some result =>
    obtain ⟨connection, consumption⟩ := result
    obtain ⟨before, -, finished⟩ := Option.bind_eq_some_iff.mp ran
    obtain ⟨service, -, same⟩ := Option.map_eq_some_iff.mp finished
    have unserved : connection.ServedIn versions := by
      cases same
      exact nofun
    have changed : (session.change index fun _ => connection).ServesIn versions :=
      servesIn_change serves index fun _ _ => unserved
    simp only [ended]
    split_ifs <;> exact changed

theorem servesIn_finishCurrent : session.finishCurrent.1.ServesIn versions := by
  unfold finishCurrent
  cases session.current with
  | some index => exact servesIn_finish serves index
  | none => exact serves

theorem servesIn_disconnect (held : Bool) : (session.disconnect held).1.ServesIn versions := by
  have gone : { session with client := session.client.disconnected }.ServesIn versions := serves
  have shut : (session.shut held).ServesIn versions :=
    servesIn_changeCurrent gone fun _ served => Connection.servedIn_shut served held
  unfold disconnect
  split_ifs with connected isHeld
  · exact shut
  · exact servesIn_finishCurrent shut
  · exact serves

theorem servesIn_append {more : Connection} (served : more.ServedIn versions) :
    ∀ connection ∈ session.connections ++ [more], connection.ServedIn versions := by
  intro connection member
  rcases List.mem_append.mp member with old | new
  · exact serves connection old
  · rwa [List.mem_singleton.mp new]

theorem servesIn_begin {connection : Connection} {agreement : Agreement}
    (answered : versions agreement.version) (held : Bool) :
    (session.begin connection agreement held).1.ServesIn versions := by
  have established : (session.established connection agreement).ServesIn versions := by
    refine servesIn_append serves fun service found => ?_
    cases found
    exact answered
  have started : ((session.established connection agreement).execute .startSession).1.ServesIn
      versions := servesIn_changeCurrent established fun _ served => served
  unfold begin
  simp only
  split
  · exact servesIn_disconnect started held
  · exact started

theorem servesIn_greet {connection : Connection} (new : connection.IsNew)
    (answered : ∀ number time, Handshake.Answers
      (connection.stream session.settings.chunkSize.toNat) number time → versions number)
    (held : Bool) : (session.greet connection held).1.ServesIn versions := by
  have unserved : connection.ServedIn versions := fun service found => by
    rw [new.unserved] at found
    cases found
  unfold greet
  simp only
  split
  · exact servesIn_append serves unserved
  · split
    · exact servesIn_append serves unserved
    · rename_i agreement answer
      refine servesIn_begin serves (answered _ agreement.time ?_) held
      exact (Handshake.await_eq_ok_iff _ _ _ _ _).mp ⟨agreement.buffer, agreement.left, answer⟩

end

end Session

/-! ## Servers that answer with some versions -/

/-- If the server answers the greeting, then with one of these versions. -/
def Opening.AnswersIn (versions : Int → Prop) (size : Nat) : Opening → Prop
  | .refused => True
  | .accepted connection =>
    ∀ number time, Handshake.Answers (connection.stream size) number time → versions number

def Action.AnswersIn (versions : Int → Prop) (size : Nat) : Action → Prop
  | .connect _ _ _ opening _ => opening.AnswersIn versions size
  | _ => True

def CanAnswer (size : Nat) (number : Int) : Prop :=
  ∃ (connection : Connection) (time : String),
    connection.IsNew ∧ Handshake.Answers (connection.stream size) number time

theorem Handshake.Answers.unique {stream : Bytes} {number number' : Int} {time time' : String}
    (h : Answers stream number time) (h' : Answers stream number' time') : number = number' := by
  obtain ⟨version, found, read⟩ := h
  obtain ⟨version', found', read'⟩ := h'
  rw [found] at found'
  cases found'
  rw [read] at read'
  exact Except.ok.inj read'

/-! ## First messages on a working connection -/

theorem Outcome.result_of_andThen_pure {α β : Type} {first : Outcome α} {value : β}
    {failure : Failure} (failed : (first.andThen fun _ => pure value).result = .error failure) :
    first.result = .error failure := by
  unfold andThen at failed
  cases result : first.result with
  | error other =>
    rw [result] at failed
    exact congrArg Except.error (Except.error.inj failed)
  | ok _ =>
    rw [result] at failed
    cases failed

theorem result_startSession_ne {client : Client} (connected : client.isConnected = true)
    {around : Surroundings} (works : around.sendError = none) (text : String) :
    (client.startSession around).result ≠ .error (.socket text) := by
  rw [startSession_of_connected connected]
  by_cases written : (Nat.toDigits 10 client.clientId.natAbs).length ≤ Text.maxDigits
  · rw [payloadAt_start _ written]
    simp only [Client.send, sendOr_of_works works]
    split_ifs <;> (intro failed; cases failed)
  · rw [payloadAt_start_of_long _ (Nat.lt_of_not_le written)]
    intro failed
    cases failed

/-! ## The announced range -/

def IsAnnounced (version : Int) : Prop := leastVersion ≤ version ∧ version ≤ mostVersion

def Span.isBeyond (version : Int) : Span → Bool
  | .since first | .between first _ => version < first
  | _ => false

def Plan.upTo (version : Int) (plan : Plan) : Plan :=
  { plan with steps := plan.steps.filter (!·.span.isBeyond version) }

theorem Plan.payloadAt_upTo {version most : Int} (older : version ≤ most) (plan : Plan) :
    (plan.upTo most).payloadAt version = plan.payloadAt version := by
  have within (step : Step) : step.span.contains version = true →
      (!step.span.isBeyond most) = true := by
    cases step.span <;> simp [Span.contains, Span.isBeyond] <;> omega
  have same : Step.fieldsAt version (plan.upTo most).steps = Step.fieldsAt version plan.steps := by
    rw [Step.fieldsAt, upTo, List.filter_filter, Step.fieldsAt]
    congr 1
    refine List.filter_congr fun step _ => ?_
    cases written : step.span.contains version with
    | false => rfl
    | true => rw [within step written]; rfl
  rw [payloadAt, payloadAt, fieldsAt, fieldsAt, same]
  rfl

namespace Session

/-- A session keeps to the range that the client announces: a connected client goes by a version in
it, messages are read by such versions only, and requests are sent without the fields of any feature
behind the range. -/
structure KeepsToRange (session : Session) : Prop where
  version : session.client.state = .connected → IsAnnounced session.client.serverVersion
  layouts : session.ServesIn IsAnnounced
  fields : ∀ request, ∀ frame ∈ (session.outcome (.request request)).data, ∃ payload,
    frame = Frame.write payload ∧
      ((request.plan session.client.announced).upTo mostVersion).payloadAt
        session.client.serverVersion = .ok payload

/-- The sessions that come of a new one when all servers answer with some of these versions. -/
def ReachableWithin (versions : Int → Prop) (settings : Settings) : Session → Prop :=
  ReachableBy (fun session action =>
    action.IsPossible ∧ action.AnswersIn versions session.settings.chunkSize.toNat) settings

structure GoesBy (versions : Int → Prop) (session : Session) : Prop where
  version : session.client.state = .connected → versions session.client.serverVersion
  serves : session.ServesIn versions

theorem servesIn_act {versions : Int → Prop} {session : Session}
    (serves : session.ServesIn versions) {action : Action} (possible : action.IsPossible)
    (answered : action.AnswersIn versions session.settings.chunkSize.toNat) :
    (session.act action).1.ServesIn versions := by
  cases action with
  | connect host port clientId opening held =>
    show (session.connect host port clientId opening held).1.ServesIn versions
    by_cases connected : session.client.state = .connected
    · rw [connect_of_connected connected]
      exact serves
    rw [connect_of_idle connected]
    cases opening with
    | refused => exact serves
    | accepted connection =>
      have connecting : (session.connecting (host.getD session.settings.host)
          (port.getD session.settings.port)
          (clientId.getD session.settings.clientId)).ServesIn versions := serves
      exact servesIn_greet connecting possible answered held
  | serve connection more =>
    exact servesIn_finish (servesIn_change serves (connection.getD (session.connections.length - 1))
      (f := (·.expecting more)) fun _ served => served) _
  | disconnect held => exact servesIn_disconnect serves held
  | command command => exact servesIn_changeCurrent serves fun _ served => served

theorem ReachableBy.mono {allowed allowed' : Session → Action → Prop} {settings : Settings}
    {session : Session} (reachable : ReachableBy allowed settings session)
    (weaker : ∀ earlier action, earlier.settings = settings → allowed earlier action →
      allowed' earlier action) :
    ReachableBy allowed' settings session := by
  induction reachable with
  | start => exact .start
  | announce announced _ ih => exact ih.announce announced
  | @act earlier action allows reached ih =>
    exact ih.act (weaker _ _ (settings_of_reachableBy reached) allows)

theorem reachableWithin_canAnswer {versions : Int → Prop} {settings : Settings} {session : Session}
    (reachable : ReachableWithin versions settings session) :
    ReachableWithin (fun number => versions number ∧ CanAnswer settings.chunkSize.toNat number)
      settings session := by
  refine reachable.mono fun earlier action same allowed => ⟨allowed.1, ?_⟩
  rw [same] at allowed ⊢
  obtain ⟨possible, answered⟩ := allowed
  cases action with
  | connect host port clientId opening held =>
    cases opening with
    | refused => trivial
    | accepted connection =>
      exact fun number time answers =>
        ⟨answered number time answers, connection, time, possible, answers⟩
  | serve | disconnect | command => trivial

theorem goesBy_of_reachableWithin {versions : Int → Prop} {settings : Settings} {session : Session}
    (reachable : ReachableWithin versions settings session) : session.GoesBy versions := by
  induction reachable with
  | start => exact ⟨nofun, nofun⟩
  | announce announced _ ih => exact ⟨ih.version, ih.serves⟩
  | @act session action allowed _ ih =>
    refine ⟨fun connected => ?_, servesIn_act ih.serves allowed.1 allowed.2⟩
    cases session.turn_act action with
    | stayed state same => rw [same]; exact ih.version (state ▸ connected)
    | lost idle _ | left idle _ | missed _ idle _ => rw [idle] at connected; cases connected
    | joined _ _ answers => exact allowed.2 _ _ answers

theorem data_outcome_request (session : Session) (request : Request) :
    (session.outcome (.request request)).data =
      (session.client.request session.around request).data := by
  show (Outcome.andThen (session.client.request session.around request) fun _ => pure none).data = _
  unfold Outcome.andThen Outcome.data
  cases (session.client.request session.around request).result with
  | error failure => rfl
  | ok value => simp only [pure, List.append_nil]

theorem GoesBy.keepsToRange {session : Session} (within : session.GoesBy IsAnnounced) :
    session.KeepsToRange where
  version := within.version
  layouts := within.serves
  fields request frame sent := by
    rw [data_outcome_request] at sent
    obtain ⟨payload, planned, -, rfl⟩ := exists_payloadAt_of_mem_data sent
    refine ⟨payload, rfl, ?_⟩
    by_cases connected : session.client.state = .connected
    · rw [Plan.payloadAt_upTo (within.version connected).2, planned]
    · have idle : ¬ session.client.isConnected = true := fun h => connected (of_decide_eq_true h)
      rw [data_request_of_not_connected idle] at sent
      cases sent

/-! ## Servers that answer with any version -/

theorem client_begin_of_works (session : Session) {connection : Connection}
    (works : connection.sendError = none) (agreement : Agreement) (held : Bool) :
    (session.begin connection agreement held).1.client =
      session.client.connected agreement.version agreement.time := by
  have joined : ((session.established connection agreement).execute .startSession).1.client =
      session.client.connected agreement.version agreement.time := client_changeCurrent _ _
  unfold begin
  simp only
  split
  · rename_i text failed
    have outcome := outcome_startSession_joined session
      (session.client.connected agreement.version agreement.time)
      (connection.serving session.settings.chunkSize.toNat agreement)
    rw [established_eq, execute, outcome] at failed
    exact absurd (Outcome.result_of_andThen_pure failed) (result_startSession_ne rfl works text)
  · exact joined

/-- A new session connects to a server that answers, and goes by its version. -/
theorem exists_reachable_of_canAnswer {settings : Settings} {number : Int}
    (can : CanAnswer settings.chunkSize.toNat number) {versions : Int → Prop}
    (given : versions number) :
    ∃ session, ReachableWithin versions settings session ∧ session.client.state = .connected ∧
      session.client.serverVersion = number := by
  obtain ⟨connection, time, new, answers⟩ := can
  let working : Connection := { connection with failsFrom := none }
  have new : working.IsNew := ⟨new.unused, new.usable, new.unserved⟩
  obtain ⟨agreement, greeted, answers'⟩ := exists_greet_of_answered
    ((start settings).connecting settings.host settings.port settings.clientId) new false
    ⟨nofun, number, time, answers⟩
  have allowed : (Action.connect none none none (.accepted working) false).IsPossible ∧
      (Action.connect none none none (.accepted working) false).AnswersIn versions
        settings.chunkSize.toNat :=
    ⟨new, fun number' time' other => by rwa [other.unique answers]⟩
  refine ⟨_, .act allowed .start, ?_⟩
  have idle : (start settings).client.state ≠ .connected := nofun
  have works :
      (working.after [.sent (Frame.handshake leastVersion mostVersion)]).sendError = none := rfl
  have joined := client_begin_of_works
    ((start settings).connecting settings.host settings.port settings.clientId) works agreement
    false
  have client : ((start settings).connect none none none (.accepted working) false).1.client =
      ((start settings).connecting settings.host settings.port settings.clientId).client.connected
        agreement.version agreement.time := by
    rw [connect_of_idle idle]
    exact (congrArg (·.1.client) greeted).trans joined
  rw [act, client]
  exact ⟨rfl, answers'.unique answers⟩

/-- **Connected clients stay within the announced range just if all servers answer within it.** -/
theorem keeps_to_range_iff (settings : Settings) (versions : Int → Prop) :
    (∀ session, ReachableWithin versions settings session → session.KeepsToRange) ↔
      ∀ number, versions number → CanAnswer settings.chunkSize.toNat number →
        IsAnnounced number := by
  constructor
  · intro keeps number given can
    obtain ⟨session, reachable, connected, rfl⟩ := exists_reachable_of_canAnswer can given
    exact (keeps session reachable).version connected
  · intro within session reachable
    have goes := goesBy_of_reachableWithin (reachableWithin_canAnswer reachable)
    have announced (number : Int) :
        versions number ∧ CanAnswer settings.chunkSize.toNat number → IsAnnounced number :=
      fun h => within number h.1 h.2
    refine GoesBy.keepsToRange ⟨fun connected => announced _ (goes.version connected), ?_⟩
    exact fun connection member service found =>
      announced _ (goes.serves connection member service found)

/-- A server answers with version 200. The client goes by it, and a request that replaces the data
of an advisor is sent with its id, a field that no announced version has. -/
theorem version_out_of_range :
    let connection : Connection :=
      { arrivals := [.data (Frame.write (["200", "now"].flatMap Field.terminated))] }
    let session := ((start {}).act (.connect none none none (.accepted connection) false)).1
    Reachable {} session ∧ session.client.state = .connected ∧
      session.client.serverVersion = 200 ∧ ¬ IsAnnounced 200 ∧
      (session.outcome (.request (.replaceAdvisorData 7 1 (some "x")))).data =
        [Frame.write (["19", "1", "1", "x", "7"].flatMap Field.terminated)] ∧
      ((Plan.replaceAdvisorData 7 1 (some "x")).upTo mostVersion).fieldsAt 200 =
        [.int 19, .int 1, .int 1, .text "x"] := by
  intro connection session
  have new : connection.IsNew := ⟨rfl, rfl, rfl⟩
  refine ⟨.act new .start, by decide +kernel, by decide +kernel, ?_, by decide +kernel, rfl⟩
  exact fun within => absurd within.2 (by decide)

end Session

end TradeWire
