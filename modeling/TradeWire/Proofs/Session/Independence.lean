import TradeWire.Proofs.Session.Reachable

/-!
# Connections that do not disturb each other

Running the service of another connection changes that connection alone (`exists_change_of_serve`).
Main statement: in every reachable session, the client and its current connection stay as they are
when another connection comes to its end, and whatever is done later without that connection has the
same reports as if it had not (`serve_spares_current`).

For the second half two sessions are compared that differ in one connection. Every action that is
not about this connection commutes with changing it and has the same report (`act_change`), and so
does a run of such actions (`reports_change`).
-/

namespace TradeWire

namespace Session

/-! ## Runs -/

def reports (session : Session) : List Action → List Report
  | [] => []
  | action :: rest => (session.act action).2 :: (session.act action).1.reports rest

/-- The number of the connection that is served: the newest one unless a number is given. -/
def served (session : Session) (connection : Option Nat) : Nat :=
  connection.getD (session.connections.length - 1)

/-- An action does not serve a connection. -/
def Spares (other : Nat) (session : Session) : Action → Prop
  | .serve connection _ => session.served connection ≠ other
  | _ => True

def SparesAll (other : Nat) : Session → List Action → Prop
  | _, [] => True
  | session, action :: rest =>
    session.Spares other action ∧ (session.act action).1.SparesAll other rest

/-! ## Changing another connection -/

section

variable (session : Session) {other : Nat} (f : Connection → Connection)

theorem change_change {index : Nat} (apart : index ≠ other) (g : Connection → Connection) :
    (session.change other f).change index g = (session.change index g).change other f := by
  simp only [change, List.modify_modify_ne _ _ _ apart.symm]

theorem change_same (g : Connection → Connection) :
    (session.change other f).change other g = session.change other (g ∘ f) := by
  simp only [change, List.modify_modify_eq]

theorem getElem?_change {index : Nat} (apart : index ≠ other) :
    (session.change other f).connections[index]? = session.connections[index]? :=
  List.getElem?_modify_ne f _ apart.symm

theorem change_of_length_le (unmade : session.connections.length ≤ other) :
    session.change other f = session := by
  simp only [change, List.modify_eq_self unmade]

theorem ended_change (index : Nat) :
    (session.change other f).ended index = (session.ended index).change other f := by
  unfold ended
  rw [current_change]
  by_cases current : session.current = some index
  · rw [if_pos current, if_pos current]
    rfl
  · rw [if_neg current, if_neg current]

theorem finish_change {index : Nat} (apart : index ≠ other) :
    (session.change other f).finish index =
      ((session.finish index).1.change other f, (session.finish index).2) := by
  unfold finish
  rw [getElem?_change session f apart]
  cases session.connections[index]?.bind Connection.finish with
  | none => rfl
  | some result =>
    obtain ⟨connection, consumption⟩ := result
    simp only [change_change session f apart]
    cases consumption.hasEnded with
    | false => rfl
    | true => simp only [if_true, ended_change]

theorem serve_eq (connection : Option Nat) (more : List Arrival) :
    session.serve connection more =
      let (after, events) := (session.change (session.served connection)
        (·.expecting more)).finish (session.served connection)
      (after, { served := some events }) := rfl

theorem serve_change {connection : Option Nat} (apart : session.served connection ≠ other)
    (more : List Arrival) :
    (session.change other f).serve connection more =
      ((session.serve connection more).1.change other f, (session.serve connection more).2) := by
  have same : (session.change other f).served connection = session.served connection := by
    rw [served, served, length_change]
  simp only [serve_eq, same, change_change session f apart, finish_change _ f apart]

section

variable (apart : session.current ≠ some other)
include apart

theorem currentConnection?_change :
    (session.change other f).currentConnection? = session.currentConnection? := by
  unfold currentConnection?
  rw [current_change]
  cases current : session.current with
  | none => rfl
  | some index =>
    refine getElem?_change session f ?_
    rintro rfl
    exact apart current

theorem changeCurrent_change (g : Connection → Connection) :
    (session.change other f).changeCurrent g = (session.changeCurrent g).change other f := by
  unfold changeCurrent
  rw [current_change]
  cases current : session.current with
  | none => rfl
  | some index =>
    refine change_change session f ?_ g
    rintro rfl
    exact apart current

theorem execute_change (command : Command) :
    (session.change other f).execute command =
      ((session.execute command).1.change other f, (session.execute command).2) := by
  have same : (session.change other f).outcome command = session.outcome command := by
    unfold outcome around
    rw [currentConnection?_change session f apart]
    rfl
  unfold execute
  simp only [same, changeCurrent_change session f apart]

theorem finishCurrent_change :
    (session.change other f).finishCurrent =
      (session.finishCurrent.1.change other f, session.finishCurrent.2) := by
  unfold finishCurrent
  rw [current_change]
  cases current : session.current with
  | none => rfl
  | some index =>
    refine finish_change session f ?_
    rintro rfl
    exact apart current

theorem shut_change (held : Bool) :
    (session.change other f).shut held = (session.shut held).change other f :=
  changeCurrent_change { session with client := session.client.disconnected } f apart _

theorem disconnect_change (held : Bool) :
    (session.change other f).disconnect held =
      ((session.disconnect held).1.change other f, (session.disconnect held).2) := by
  unfold disconnect
  rw [client_change, shut_change session f apart]
  by_cases connected : session.client.isConnected = true
  · rw [if_pos connected, if_pos connected]
    cases held with
    | true => rfl
    | false =>
      have apart' : (session.shut false).current ≠ some other := by
        rw [shut, current_changeCurrent]
        exact apart
      simp only [Bool.false_eq_true, if_false, finishCurrent_change _ f apart']
  · rw [if_neg connected, if_neg connected]

end

section

variable (made : other < session.connections.length)
include made

theorem modify_append (more : List Connection) :
    (session.connections ++ more).modify other f = session.connections.modify other f ++ more := by
  refine List.ext_getElem? fun index => ?_
  rw [List.getElem?_modify, List.getElem?_append, List.getElem?_append, List.length_modify,
    List.getElem?_modify]
  by_cases early : index < session.connections.length
  · rw [if_pos early, if_pos early]
  · have late : other ≠ index := by omega
    simp only [if_neg early, if_neg late, id_map']

theorem established_change (connection : Connection) (agreement : Agreement) :
    (session.change other f).established connection agreement =
      (session.established connection agreement).change other f := by
  simp only [established, change, modify_append session f made, List.length_modify]

theorem begin_change (connection : Connection) (agreement : Agreement) (held : Bool) :
    (session.change other f).begin connection agreement held =
      ((session.begin connection agreement held).1.change other f,
        (session.begin connection agreement held).2) := by
  have apart : (session.established connection agreement).current ≠ some other := by
    intro same
    exact made.ne' (Option.some.inj same)
  unfold begin
  rw [established_change session f made, execute_change _ f apart]
  have apart' : ((session.established connection agreement).execute .startSession).1.current ≠
      some other := by
    rw [execute, current_changeCurrent]
    exact apart
  simp only [disconnect_change _ f apart']
  split <;> rfl

theorem notConnected_change (more : List Connection) :
    (session.change other f).notConnected ((session.change other f).connections ++ more) =
      (session.notConnected (session.connections ++ more)).change other f := by
  simp only [notConnected, change, modify_append session f made]

theorem greet_change (connection : Connection) (held : Bool) :
    (session.change other f).greet connection held =
      ((session.greet connection held).1.change other f, (session.greet connection held).2) := by
  unfold greet
  simp only [notConnected_change session f made, begin_change session f made, settings_change]
  cases connection.sendError with
  | some text => rfl
  | none =>
    simp only
    cases Handshake.await session.settings.chunkSize.toNat [] connection.arrivals with
    | error text => rfl
    | ok agreement => rfl

theorem connect_change (host : Option String) (port clientId : Option Int) (opening : Opening)
    (held : Bool) :
    (session.change other f).connect host port clientId opening held =
      ((session.connect host port clientId opening held).1.change other f,
        (session.connect host port clientId opening held).2) := by
  unfold connect
  rw [client_change]
  by_cases connected : session.client.isConnected = true
  · rw [if_pos connected, if_pos connected]
  · rw [if_neg connected, if_neg connected]
    cases opening with
    | refused => rfl
    | accepted connection =>
      have greeted (host : String) (port clientId : Int) :=
        greet_change (session.connecting host port clientId) f made connection held
      have same (host : String) (port clientId : Int) :
          (session.change other f).connecting host port clientId =
            (session.connecting host port clientId).change other f := rfl
      simp only [settings_change, same, greeted]

/-- An action that does not serve a connection, while that is not the current one, commutes with any
change of it and has the same report. -/
theorem act_change (apart : session.current ≠ some other) {action : Action}
    (spares : session.Spares other action) :
    (session.change other f).act action =
      ((session.act action).1.change other f, (session.act action).2) := by
  cases action with
  | connect host port clientId opening held =>
    exact connect_change session f made host port clientId opening held
  | serve connection more => exact serve_change session f spares more
  | disconnect held => exact disconnect_change session f apart held
  | command command => exact execute_change session f apart command

end

end

/-! ## Runs without a connection -/

section

variable {earlier later : Session} (h : Evolves earlier later)
include h

theorem Evolves.length_le : earlier.connections.length ≤ later.connections.length := by
  induction h with
  | refl => exact le_rfl
  | change index f _ ih => rwa [length_change]
  | settle peer settled _ ih => exact ih
  | add more _ ih => exact ih.trans (List.length_append ▸ Nat.le_add_right ..)
  | join connection _ ih => exact ih.trans (List.length_append ▸ Nat.le_add_right ..)

/-- A connection that is not current does not become current again. -/
theorem Evolves.apart {other : Nat} (made : other < earlier.connections.length)
    (apart : earlier.current ≠ some other) : later.current ≠ some other := by
  induction h with
  | refl => exact apart
  | change index f _ ih => exact ih
  | settle peer settled _ ih => exact ih
  | add more _ ih => exact ih
  | join connection since _ =>
    intro same
    have late := since.length_le
    have newest := Option.some.inj same
    omega

end

theorem reports_change (f : Connection → Connection) {other : Nat} (actions : List Action)
    {session : Session} (made : other < session.connections.length)
    (apart : session.current ≠ some other) (spares : session.SparesAll other actions) :
    (session.change other f).reports actions = session.reports actions := by
  induction actions generalizing session with
  | nil => rfl
  | cons action rest ih =>
    have step := act_change session f made apart spares.1
    have since := session.evolves_act action
    have later := ih (made.trans_le since.length_le) (since.apart made apart) spares.2
    simp only [reports, step, later]

/-! ## The service of another connection -/

/-- A connection that is not the current one is all that changes when its service runs to its
end. -/
theorem exists_change_of_serve {session : Session} {connection : Option Nat}
    (apart : session.current ≠ some (session.served connection)) (more : List Arrival) :
    ∃ f events, session.serve connection more =
      (session.change (session.served connection) f, { served := some events }) := by
  rw [serve_eq]
  rcases (session.change (session.served connection) (·.expecting more)).finish_cases
    (session.served connection) with ⟨g, same⟩ | ⟨g, current, -⟩
  · exact ⟨_, _, Prod.ext (same.trans (change_same ..)) rfl⟩
  · exact absurd current apart

/-- **An earlier connection does not disturb the current one.** In a reachable session with a
current connection, the service of any other connection runs to its end, whatever still arrives
there and whether or not its socket fails. Then nothing is sent, the client has the same state,
version and time, the current connection is the same one, with the same bytes received and to
arrive, as often used and not closed by this; and whatever is done from now on but to serve the
other connection has the same reports as if its service had not run. -/
theorem serve_spares_current {settings : Settings} {session : Session} {index : Nat}
    {which : Option Nat} (reachable : Reachable settings session)
    (current : session.current = some index) (apart : session.served which ≠ index)
    (more : List Arrival) :
    let (after, report) := session.serve which more
    report.effects = [] ∧ after.client = session.client ∧ after.current = some index ∧
      (∃ connection, session.connections[index]? = some connection ∧
        after.connections[index]? = some connection) ∧
      ∀ actions, session.SparesAll (session.served which) actions →
        after.reports actions = session.reports actions := by
  have apart' : session.current ≠ some (session.served which) := by
    rw [current]
    intro same
    exact apart (Option.some.inj same).symm
  obtain ⟨f, events, served⟩ := exists_change_of_serve apart' more
  have made := (sound_of_reachable reachable).hasCurrent index current
  have kept := (session.getElem?_change f apart.symm).trans (List.getElem?_eq_getElem made)
  rw [served]
  refine ⟨rfl, rfl, current, ⟨_, List.getElem?_eq_getElem made, kept⟩, fun actions spares => ?_⟩
  by_cases other_made : session.served which < session.connections.length
  · exact reports_change f actions other_made apart' spares
  · rw [change_of_length_le session f (by omega)]

/-- The session on a second connection while the service of the first one is held up. -/
def reconnected : Session :=
  let first := ((start {}).act (.connect none none none (.accepted .answering) false)).1
  ((first.act (.disconnect true)).1.act (.connect none none none (.accepted .answering) false)).1

theorem reachable_reconnected : Reachable {} reconnected := by
  have possible : Action.IsPossible (.connect none none none (.accepted .answering) false) :=
    Connection.isNew_answering
  have first : Reachable {} ((start {}).act (.connect none none none (.accepted .answering) false)).1 :=
    .act possible .start
  have left : Action.IsPossible (.disconnect true) := trivial
  exact .act possible (.act left first)

theorem serve_spares_current_reconnected :
    Reachable {} reconnected ∧ reconnected.current = some 1 ∧ reconnected.served (some 0) ≠ 1 ∧
      let (after, report) := reconnected.serve (some 0) [.failure "reset"]
      report.served.map (·.map Event.name) = some ["connection_closed"] ∧
        after.client = reconnected.client ∧ after.client.state = .connected ∧
        after.reports [.serve (some 1) []] = reconnected.reports [.serve (some 1) []] := by
  have current : reconnected.current = some 1 := by decide +kernel
  have apart : reconnected.served (some 0) ≠ 1 := by decide
  obtain ⟨-, client, -, -, later⟩ :=
    serve_spares_current reachable_reconnected current apart [.failure "reset"]
  have spares : reconnected.SparesAll 0 [.serve (some 1) []] :=
    ⟨(by decide : reconnected.served (some 1) ≠ 0), trivial⟩
  exact ⟨reachable_reconnected, current, apart, by decide +kernel, client, by decide +kernel,
    later _ spares⟩

end Session

end TradeWire
