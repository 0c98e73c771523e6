import TradeWire.Proofs.Delivery.Consumption
import TradeWire.Proofs.Message.Telling

/-!
# From a socket to the application

A receiver runs until it stops, and then a consumer takes what was handed on. Main statement: from a
server with fractional positions on, the application is told the events of each payload, then the
problem if there was one, and at last, after the owner of the connection, that the connection is
closed (`delivered_receiveAll`). That holds whatever arrives, however it is cut, and wherever the
socket fails.
-/

namespace TradeWire

/-- What the application is told of payloads and a problem: the events that each payload has by
itself, and then a report of the problem. -/
def tellings (version : Int) (payloads : List Bytes) (problem? : Option (Int × String)) :
    List Event :=
  (payloads.flatMap fun payload => (interpret version payload).events) ++
    problem?.toList.map fun problem => .error noId problem.1 problem.2

/-- A consumer was handed some payloads and perhaps one problem, and has told all of it. -/
structure Delivered (version : Int) (payloads : List Bytes) (problem? : Option (Int × String))
    (deliveries : List Delivery) (consumption : Consumption) : Prop where
  handed : deliveries = handedOn payloads
    (problem?.toList.map fun problem => .problem problem.1 problem.2)
  /-- The owner and then the application learn of the end, nothing is left, and nothing failed. -/
  told : consumption = {
    occurrences := (tellings version payloads problem?).map .told ++
      [.ended, .told .connectionClosed]
    unread := []
    failure? := none }
  /-- Nothing before the last event says that the connection is closed. -/
  once : Open (tellings version payloads problem?)

theorem open_tellings (version : Int) (payloads : List Bytes) (problem? : Option (Int × String)) :
    Open (tellings version payloads problem?) := by
  refine List.forall_mem_append.mpr ⟨fun event member => ?_, fun event member => ?_⟩
  · obtain ⟨payload, -, member⟩ := List.mem_flatMap.mp member
    exact open_interpret version payload event member
  · obtain ⟨problem, -, rfl⟩ := List.mem_map.mp member
    exact nofun

theorem obstacle_eq (isEnding : Bool) (failure? : Option String) (stream : Bytes) :
    ∃ problem? : Option (Int × String), obstacle isEnding failure? stream =
      problem?.toList.map fun problem => .problem problem.1 problem.2 := by
  unfold obstacle
  split
  · exact ⟨some (_, _), rfl⟩
  · split
    · split_ifs
      · exact ⟨none, rfl⟩
      · exact ⟨some (_, _), rfl⟩
    · exact ⟨none, rfl⟩

theorem report?_problem (problem? : Option (Int × String)) :
    (problem?.toList.map fun problem => Delivery.problem problem.1 problem.2).filterMap
        Delivery.report? =
      problem?.toList.map fun problem => .error noId problem.1 problem.2 := by
  cases problem? <;> rfl

theorem audible_nil (events : List Event) : audible [] events = events := List.filter_true events

/-- **All that is received is told in order, then the problem that stopped the receiver, and at last
that the connection is closed.** -/
theorem delivered_receiveAll {version : Int} (new : Feature.fractionalPositions ≤ version)
    (size : Nat) (isEnding : Bool) (buffer : Bytes) (arrivals : List Arrival) :
    let reception := receiveAll size isEnding buffer arrivals
    let consumption := consume version [] (reception.deliveries.map Delivery.parts)
    ∃ payloads problem?,
      Delivered version payloads problem? reception.deliveries consumption := by
  intro reception consumption
  obtain ⟨problem?, problem⟩ := obstacle_eq isEnding (received size arrivals).2
    (buffer ++ (received size arrivals).1.flatten)
  have sound : ∀ payload ∈ forwarded size buffer arrivals, overflows version payload = false :=
    fun payload _ => overflows_of_fractional new payload
  have told : consumption = completed [] [] (audible [] (toldOfReception version size isEnding
      buffer arrivals)) := by
    rw [← consumeReception_eq version [] size isEnding buffer arrivals [] sound, consumeReception,
      List.append_nil]
  rw [audible_nil, toldOfReception, hindrance, problem, report?_problem] at told
  refine ⟨forwarded size buffer arrivals, problem?, ?_, told, open_tellings version _ problem?⟩
  rw [← problem]
  exact deliveries_receiveAll size isEnding buffer arrivals

theorem eq_of_handedOn {payloads payloads' : List Bytes} {problem? problem?' : Option (Int × String)}
    (same : handedOn payloads (problem?.toList.map fun problem => .problem problem.1 problem.2) =
      handedOn payloads' (problem?'.toList.map fun problem => .problem problem.1 problem.2)) :
    payloads = payloads' ∧ problem? = problem?' := by
  induction payloads generalizing payloads' with
  | nil =>
    cases payloads' with
    | nil =>
      refine ⟨rfl, ?_⟩
      rcases problem? with _ | ⟨code, text⟩ <;> rcases problem?' with _ | ⟨code', text'⟩ <;>
        cases same <;> rfl
    | cons payload' payloads' => cases problem? <;> cases same
  | cons payload payloads ih =>
    cases payloads' with
    | nil => cases problem?' <;> cases same
    | cons payload' payloads' =>
      obtain ⟨first, rest⟩ := List.cons.inj same
      cases first
      obtain ⟨rfl, rfl⟩ := ih rest
      exact ⟨rfl, rfl⟩

/-- A frame whose bytes come in the buffer and in two chunks, and a socket that fails after it: the
message is told, the failure, and the end. -/
theorem delivered_receiveAll_reset :
    let reception := receiveAll 4 false [0, 0, 0, 6, 57]
      [.data [0, 49, 0], .data [53, 0], .failure "reset"]
    let consumption := consume 101 [] (reception.deliveries.map Delivery.parts)
    let problem := (509, "Exception caught while reading socket - reset")
    Feature.fractionalPositions ≤ 101 ∧
      Delivered 101 [[57, 0, 49, 0, 53, 0]] (some problem) reception.deliveries consumption ∧
      tellings 101 [[57, 0, 49, 0, 53, 0]] (some problem) =
        [.nextValidId 5, .error (-1) 509 "Exception caught while reading socket - reset"] := by
  intro reception consumption problem
  obtain ⟨payloads, problem?, delivered⟩ := delivered_receiveAll
    (by decide : Feature.fractionalPositions ≤ 101) 4 false [0, 0, 0, 6, 57]
    [.data [0, 49, 0], .data [53, 0], .failure "reset"]
  have handed : reception.deliveries = handedOn [[57, 0, 49, 0, 53, 0]]
      [.problem 509 "Exception caught while reading socket - reset"] := by decide +kernel
  obtain ⟨rfl, rfl⟩ : payloads = [[57, 0, 49, 0, 53, 0]] ∧ problem? = some problem :=
    eq_of_handedOn (delivered.handed.symm.trans handed)
  exact ⟨by decide, delivered, rfl⟩

end TradeWire
