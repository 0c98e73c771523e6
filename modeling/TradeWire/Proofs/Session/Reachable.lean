import Mathlib.Tactic
import TradeWire.Session.Basic

/-!
# Reachable sessions

The sessions that come of a new one by actions, in any order and with any server (`Reachable`). Two
things hold in all of them (`sound_of_reachable`): the client is connected or disconnected, never
half way, and the current connection is one that has been made.

What an action can do to a session is said once (`Evolves`, `evolves_act`): connections change one
by one or are added, the client comes to be connected or disconnected, and a connection that is
added may become the current one. Facts about all actions follow from this by its cases.
-/

namespace TradeWire

/-! ## Possible actions -/

/-- A connection that has just been opened: nothing has been sent on it, and nobody serves it. -/
structure Connection.IsNew (connection : Connection) : Prop where
  unused : connection.sendings = 0
  usable : connection.isClosed = false
  unserved : connection.service = none

/-- A new connection on which the server answers the greeting at once, with version 151. -/
def Connection.answering : Connection where
  arrivals := [.data (Frame.write (["151", "now"].flatMap Field.terminated))]

theorem Connection.isNew_answering : answering.IsNew := ⟨rfl, rfl, rfl⟩

/-- An attempt to open a connection gives a new one, if it gives one. -/
def Opening.IsNew : Opening → Prop
  | .refused => True
  | .accepted connection => connection.IsNew

def Action.IsPossible : Action → Prop
  | .connect _ _ _ opening _ => opening.IsNew
  | _ => True

/-- A client that is not half way between two connections. -/
def Client.IsSettled (client : Client) : Prop :=
  client.state = .connected ∨ client.state = .disconnected

namespace Session

/-- The sessions that come of a new one by actions. -/
inductive Reachable (settings : Settings) : Session → Prop
  | start : Reachable settings (start settings)
  | announce {session : Session} (announced : Bool) :
    Reachable settings session → Reachable settings (session.announce announced)
  | act {session : Session} {action : Action} :
    action.IsPossible → Reachable settings session → Reachable settings (session.act action).1

/-! ## Parts of actions -/

section

variable (session : Session) (index : Nat) (f : Connection → Connection)

@[simp]
theorem settings_change : (session.change index f).settings = session.settings := rfl

@[simp]
theorem client_change : (session.change index f).client = session.client := rfl

@[simp]
theorem current_change : (session.change index f).current = session.current := rfl

@[simp]
theorem length_change :
    (session.change index f).connections.length = session.connections.length :=
  List.length_modify ..

theorem exists_change_of_changeCurrent :
    ∃ index g, session.changeCurrent f = session.change index g := by
  unfold changeCurrent
  cases session.current with
  | some index => exact ⟨index, f, rfl⟩
  | none =>
    refine ⟨0, id, ?_⟩
    rw [change, List.modify_id]

@[simp]
theorem current_changeCurrent : (session.changeCurrent f).current = session.current := by
  obtain ⟨index, g, same⟩ := session.exists_change_of_changeCurrent f
  rw [same, current_change]

/-- A service that ends changes its connection, and it disconnects the client if that is the
current one. -/
theorem finish_cases :
    (∃ g, (session.finish index).1 = session.change index g) ∨
      ∃ g, session.current = some index ∧
        (session.finish index).1 =
          { session.change index g with client := session.client.dropped } := by
  unfold finish
  cases session.connections[index]?.bind Connection.finish with
  | none =>
    refine .inl ⟨id, ?_⟩
    rw [change, List.modify_id]
  | some result =>
    obtain ⟨connection, consumption⟩ := result
    simp only
    by_cases ends : consumption.hasEnded = true ∧ session.current = some index
    · refine .inr ⟨fun _ => connection, ends.2, ?_⟩
      rw [if_pos ends.1, ended, current_change, if_pos ends.2]
      rfl
    · refine .inl ⟨fun _ => connection, ?_⟩
      split_ifs with last
      · rw [ended, current_change, if_neg fun same => ends ⟨last, same⟩]
      · rfl

end

/-! ## What an action does -/

/-- A session that comes of an earlier one: connections change and are added, a settled client takes
the place of the last one, and an added connection may become the current one. -/
inductive Evolves (earlier : Session) : Session → Prop
  | refl : Evolves earlier earlier
  | change {session : Session} (index : Nat) (f : Connection → Connection) :
    Evolves earlier session → Evolves earlier (session.change index f)
  | settle {session : Session} {client : Client} (peer : Option (String × Int)) :
    client.IsSettled → Evolves earlier session → Evolves earlier { session with client, peer }
  | add {session : Session} (more : List Connection) :
    Evolves earlier session →
      Evolves earlier { session with connections := session.connections ++ more }
  | join {session : Session} (connection : Connection) :
    Evolves earlier session → Evolves earlier { session with
      connections := session.connections ++ [connection]
      current := some session.connections.length }

section

variable {earlier session : Session}

theorem Evolves.changeCurrent (h : Evolves earlier session) (f : Connection → Connection) :
    Evolves earlier (session.changeCurrent f) := by
  obtain ⟨index, g, same⟩ := session.exists_change_of_changeCurrent f
  rw [same]
  exact h.change index g

theorem Evolves.finish (h : Evolves earlier session) (index : Nat) :
    Evolves earlier (session.finish index).1 := by
  rcases session.finish_cases index with ⟨g, same⟩ | ⟨g, -, same⟩
  · rw [same]
    exact h.change index g
  · rw [same]
    exact (h.change index g).settle session.peer (.inr rfl)

theorem Evolves.finishCurrent (h : Evolves earlier session) :
    Evolves earlier session.finishCurrent.1 := by
  unfold Session.finishCurrent
  cases session.current with
  | some index => exact h.finish index
  | none => exact h

theorem Evolves.shut (h : Evolves earlier session) (held : Bool) :
    Evolves earlier (session.shut held) := by
  have idle : Evolves earlier { session with client := session.client.disconnected } :=
    h.settle session.peer (.inr rfl)
  exact idle.changeCurrent _

theorem Evolves.disconnect (h : Evolves earlier session) (held : Bool) :
    Evolves earlier (session.disconnect held).1 := by
  unfold Session.disconnect
  by_cases connected : session.client.isConnected = true
  · rw [if_pos connected]
    cases held with
    | true => exact h.shut true
    | false => exact (h.shut false).finishCurrent
  · rw [if_neg connected]
    exact h

theorem Evolves.begin {connection : Connection} {agreement : Agreement}
    (h : Evolves earlier (session.established connection agreement)) (held : Bool) :
    Evolves earlier (session.begin connection agreement held).1 := by
  have started : Evolves earlier
      ((session.established connection agreement).execute .startSession).1 := h.changeCurrent _
  unfold Session.begin
  simp only
  split
  · exact started.disconnect held
  · exact started

end

section

variable (session : Session) (host : String) (port clientId : Int)

theorem evolves_notConnected (more : List Connection) :
    Evolves session ((session.connecting host port clientId).notConnected
      (session.connections ++ more)) := by
  have settled : (session.connecting host port clientId).client.dropped.IsSettled := .inr rfl
  exact (Evolves.refl.settle (some (host, port)) settled).add more

theorem evolves_established (connection : Connection) (agreement : Agreement) :
    Evolves session ((session.connecting host port clientId).established connection agreement) := by
  have settled : ((session.connecting host port clientId).client.connected agreement.version
    agreement.time).IsSettled := .inl rfl
  exact (Evolves.refl.settle (some (host, port)) settled).join _

theorem evolves_greet (connection : Connection) (held : Bool) :
    Evolves session ((session.connecting host port clientId).greet connection held).1 := by
  unfold greet
  simp only
  split
  · exact evolves_notConnected session host port clientId _
  · split
    · exact evolves_notConnected session host port clientId _
    · exact (evolves_established session host port clientId _ _).begin held

end

theorem evolves_connect (session : Session) (host : Option String) (port clientId : Option Int)
    (opening : Opening) (held : Bool) :
    Evolves session (session.connect host port clientId opening held).1 := by
  unfold connect
  by_cases connected : session.client.isConnected = true
  · rw [if_pos connected]
    exact .refl
  · rw [if_neg connected]
    cases opening with
    | refused =>
      have failed := evolves_notConnected session (host.getD session.settings.host)
        (port.getD session.settings.port) (clientId.getD session.settings.clientId) []
      rw [List.append_nil] at failed
      exact failed
    | accepted connection => exact evolves_greet session _ _ _ connection held

theorem evolves_act (session : Session) (action : Action) :
    Evolves session (session.act action).1 := by
  cases action with
  | connect host port clientId opening held =>
    exact evolves_connect session host port clientId opening held
  | serve connection more => exact (Evolves.refl.change _ _).finish _
  | disconnect held => exact Evolves.refl.disconnect held
  | command command => exact Evolves.refl.changeCurrent _

/-! ## What holds in every reachable session -/

/-- The client is connected or disconnected, and the current connection has been made. -/
structure Sound (session : Session) : Prop where
  settled : session.client.IsSettled
  hasCurrent : ∀ index, session.current = some index → index < session.connections.length

theorem Sound.evolves {session later : Session} (sound : session.Sound)
    (h : Evolves session later) : later.Sound := by
  induction h with
  | refl => exact sound
  | change index f _ ih =>
    refine ⟨ih.settled, fun current same => ?_⟩
    rw [length_change]
    exact ih.hasCurrent current same
  | settle peer settled _ ih => exact ⟨settled, ih.hasCurrent⟩
  | add more _ ih =>
    refine ⟨ih.settled, fun current same => (ih.hasCurrent current same).trans_le ?_⟩
    rw [List.length_append]
    exact Nat.le_add_right ..
  | join connection _ ih =>
    refine ⟨ih.settled, fun current same => ?_⟩
    obtain rfl := Option.some.inj same
    rw [List.length_append]
    exact Nat.lt_succ_self _

/-- **In every reachable session the client is connected or disconnected**, and its current
connection is one that has been made. -/
theorem sound_of_reachable {settings : Settings} {session : Session}
    (reachable : Reachable settings session) : session.Sound := by
  induction reachable with
  | start => exact ⟨.inr rfl, nofun⟩
  | announce announced _ ih => exact ⟨ih.settled, ih.hasCurrent⟩
  | act _ _ ih => exact ih.evolves (evolves_act _ _)

end Session

end TradeWire
