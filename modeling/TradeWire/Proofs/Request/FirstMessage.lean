import TradeWire.Proofs.Request.Plan
import TradeWire.Proofs.Wire.Texts

/-!
# The message that starts a session

`startMessage` says what the first message is, apart from the plan that writes it. It can be sent
just if it can be written and fits into a frame (`IsStartable`): then a connected client sends it or
fails with the error of the socket (`IsStartable.startSession_eq`), and otherwise an exception
leaves the client before anything is sent (`exists_startSession_fail`).
-/

namespace TradeWire

/-! ## What it is -/

/-- The text of a client id. The two numbers that stand for "not set" have none. -/
def idText (clientId : Int) : String :=
  if clientId = unsetInt ∨ clientId = unsetLong then "" else toString clientId

/-- The message that starts a session: its kind, its own version, the client id, and, if the server
knows them, the capabilities. -/
def startMessage (clientId : Int) (capabilities : Label) (version : Int) : Bytes :=
  (["71", "2", idText clientId] ++
    if Feature.optionalCapabilities ≤ version then [capabilities.getD ""] else []).flatMap
      Field.terminated

/-- The message that starts a session can be written and fits into a frame. -/
structure IsStartable (clientId : Int) (capabilities : Label) : Prop where
  written : (Nat.toDigits 10 clientId.natAbs).length ≤ Text.maxDigits
  fits : (startMessage clientId capabilities Feature.optionalCapabilities).length ≤
    Frame.largestLength

theorem not_isStartable_of_large {clientId : Int} {capabilities : String}
    (large : Frame.largestLength ≤ capabilities.toList.length) :
    ¬ IsStartable clientId (some capabilities) := by
  rintro ⟨-, fits⟩
  have bytes := Text.length_le_length_encode capabilities
  rw [startMessage, if_pos le_rfl, List.flatMap_append, List.length_append, List.flatMap_singleton,
    Field.terminated, List.length_append] at fits
  simp only [Option.getD_some, List.length_singleton] at fits
  omega

/-! ## How it is written -/

theorem wire_field_label (label : Label) : label.field.wire = .ok (label.getD "") := by
  cases label <;> rfl

theorem wire_kind : (Field.int Outgoing.startApi.number).wire = .ok "71" := by decide

theorem wire_ownVersion : (Field.int 2).wire = .ok "2" := by decide

theorem wire_id {clientId : Int}
    (written : (Nat.toDigits 10 clientId.natAbs).length ≤ Text.maxDigits) :
    (Field.int clientId).wire = .ok (idText clientId) := by
  simp only [Field.wire, idText]
  by_cases unset : clientId = unsetInt ∨ clientId = unsetLong
  · rw [if_pos unset, if_pos unset]
  · obtain ⟨text, found⟩ := Text.exists_writtenInt?_iff.mpr written
    rw [if_neg unset, if_neg unset, found, Text.eq_toString_of_writtenInt? found]

theorem wire_id_of_long {clientId : Int}
    (long : Text.maxDigits < (Nat.toDigits 10 clientId.natAbs).length) :
    (Field.int clientId).wire = .error .tooManyDigits := by
  have given : ¬ (clientId = unsetInt ∨ clientId = unsetLong) := by
    rintro (rfl | rfl) <;> exact absurd long (by decide)
  have unwritten : Text.writtenInt? clientId = none := by
    rw [Text.writtenInt?, if_pos long]
  simp only [Field.wire]
  rw [if_neg given, unwritten]

theorem fieldsAt_start (clientId : Int) (capabilities : Label) (version : Int) :
    (Plan.start clientId capabilities).fieldsAt version =
      .int Outgoing.startApi.number :: .int 2 :: .int clientId ::
        if Feature.optionalCapabilities ≤ version then [capabilities.field] else [] := by
  rw [Plan.fieldsAt, Plan.start, Step.fieldsAt_cons, Step.fieldsAt_cons]
  by_cases known : Feature.optionalCapabilities ≤ version <;>
    simp [Step.always, Step.since, Span.contains, Step.fieldsAt, known]

section

variable {clientId : Int} {capabilities : Label} (version : Int)

theorem payloadAt_start (written : (Nat.toDigits 10 clientId.natAbs).length ≤ Text.maxDigits) :
    (Plan.start clientId capabilities).payloadAt version =
      .ok (startMessage clientId capabilities version) := by
  refine Plan.payloadAt_eq_ok_iff.mpr ⟨rfl, Field.encodeAll_eq_ok_iff.mpr ⟨_, ?_, rfl⟩⟩
  rw [fieldsAt_start, Field.SentAs]
  split_ifs <;> simp [wire_kind, wire_ownVersion, wire_id written, wire_field_label]

theorem payloadAt_start_of_long
    (long : Text.maxDigits < (Nat.toDigits 10 clientId.natAbs).length) :
    (Plan.start clientId capabilities).payloadAt version =
      .error (.failed (.encode .tooManyDigits)) := by
  have unchecked : (Plan.start clientId capabilities).problem? version = none := rfl
  rw [Plan.payloadAt, unchecked, fieldsAt_start]
  simp only [Field.encodeAll, Field.encode, wire_kind, wire_ownVersion, wire_id_of_long long]
  rfl

end

/-! ## How it is sent -/

theorem startSession_of_connected {client : Client} (connected : client.isConnected = true)
    (around : Surroundings) :
    client.startSession around =
      match (Plan.start client.clientId client.capabilities).payloadAt client.serverVersion with
      | .error (.refused refusal) => .fail (.refused refusal)
      | .error (.failed failure) => .fail failure
      | .ok payload => Client.send around payload := by
  unfold Client.startSession Client.checkConnected
  rw [connected]
  rfl

theorem send_eq {payload : Bytes} (fits : payload.length ≤ Frame.largestLength)
    (around : Surroundings) :
    Client.send around payload = match around.sendError with
      | none => .effect (.sent (Frame.write payload))
      | some text => ⟨[.sendFailed], .error (.socket text)⟩ := by
  rw [Client.send, Client.sendOr, if_neg (Nat.not_lt.mpr fits)]
  cases around.sendError <;> rfl

theorem IsStartable.length_startMessage_le {clientId : Int} {capabilities : Label}
    (startable : IsStartable clientId capabilities) (version : Int) :
    (startMessage clientId capabilities version).length ≤ Frame.largestLength := by
  refine le_trans ?_ startable.fits
  unfold startMessage
  rw [if_pos le_rfl, List.flatMap_append, List.flatMap_append, List.length_append,
    List.length_append]
  refine Nat.add_le_add_left ?_ _
  split_ifs
  · exact le_rfl
  · exact Nat.zero_le _

section

variable {client : Client} (connected : client.isConnected = true)
include connected

theorem IsStartable.startSession_eq
    (startable : IsStartable client.clientId client.capabilities) (around : Surroundings) :
    client.startSession around = match around.sendError with
      | none => .effect (.sent (Frame.write
          (startMessage client.clientId client.capabilities client.serverVersion)))
      | some text => ⟨[.sendFailed], .error (.socket text)⟩ := by
  rw [startSession_of_connected connected, payloadAt_start _ startable.written]
  exact send_eq (startable.length_startMessage_le _) around

theorem exists_startSession_fail (known : Feature.optionalCapabilities ≤ client.serverVersion)
    (hopeless : ¬ IsStartable client.clientId client.capabilities) (around : Surroundings) :
    ∃ failure, client.startSession around = .fail failure ∧ ∀ text, failure ≠ .socket text := by
  rw [startSession_of_connected connected]
  by_cases written : (Nat.toDigits 10 client.clientId.natAbs).length ≤ Text.maxDigits
  · have newest : startMessage client.clientId client.capabilities client.serverVersion =
        startMessage client.clientId client.capabilities Feature.optionalCapabilities := by
      rw [startMessage, startMessage, if_pos known, if_pos le_rfl]
    have long : Frame.largestLength <
        (startMessage client.clientId client.capabilities client.serverVersion).length := by
      rw [newest]
      exact Nat.not_le.mp fun fits => hopeless ⟨written, fits⟩
    rw [payloadAt_start _ written]
    exact ⟨.unframable, if_pos long, nofun⟩
  · rw [payloadAt_start_of_long _ (Nat.not_le.mp written)]
    exact ⟨_, rfl, nofun⟩

end

end TradeWire
