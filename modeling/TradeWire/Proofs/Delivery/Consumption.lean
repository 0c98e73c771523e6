import TradeWire.Delivery.Consumer
import TradeWire.Proofs.Delivery.Reception
import TradeWire.Proofs.Message.Interpretation
import TradeWire.Proofs.Text.Utf8

/-!
# What a consumer makes of a reception

A consumer that takes what a receiver hands on tells the events of each payload and of the problem,
and comes to the mark that nothing follows, unless a quantity in a payload overflows
(`consumer_ends_iff`). Only then do its owner and the application never learn that the
connection has ended.
-/

open TradeWire.Frame

namespace TradeWire

/-! ## One delivery -/

theorem ofParts_payload (bytes : Bytes) :
    Delivery.ofParts (Delivery.payload bytes).parts = .ok (some (.payload bytes)) := by
  rw [Delivery.parts, Delivery.ofParts, if_pos rfl]

theorem ofParts_finished : Delivery.ofParts Delivery.finished.parts = .ok (some .finished) := by
  rw [Delivery.parts, Delivery.ofParts, if_neg (by decide), if_neg (by decide), if_pos rfl]

theorem ofParts_problem {code : Int} {text : String}
    (legible : Text.readIntBytes (Text.encode (toString code)) = .ok code) :
    Delivery.ofParts (Delivery.problem code text).parts = .ok (some (.problem code text)) := by
  rw [Delivery.parts, Delivery.ofParts, if_neg (by decide), if_pos rfl, Delivery.problemOf,
    legible]
  simp only [Text.decode_encode]
  rfl

section

variable (version : Int) (raising : List String) (rest : List (List Bytes))

theorem consume_payload (bytes : Bytes) :
    consume version raising ((Delivery.payload bytes).parts :: rest) =
      if overflows version bytes then
        ⟨(audible raising (interpret version bytes).events).map .told, rest,
          some (.conversion .integerTooLarge)⟩
      else (consume version raising rest).prepend
        (audible raising (interpret version bytes).events) := by
  rw [consume, ofParts_payload]
  simp only [failure?_interpret]
  split_ifs <;> rfl

theorem consume_finished :
    consume version raising (Delivery.finished.parts :: rest) =
      ⟨.ended :: (audible raising [.connectionClosed]).map .told, rest, none⟩ := by
  rw [consume, ofParts_finished]

theorem consume_problem {code : Int} (text : String)
    (legible : Text.readIntBytes (Text.encode (toString code)) = .ok code) :
    consume version raising ((Delivery.problem code text).parts :: rest) =
      (consume version raising rest).prepend (audible raising [.error noId code text]) := by
  rw [consume, ofParts_problem legible]

end

/-! ## Many deliveries -/

section

variable (version : Int) (raising : List String)

theorem prepend_prepend (first second : List Event) (c : Consumption) :
    (c.prepend second).prepend first = c.prepend (first ++ second) := by
  simp only [Consumption.prepend, List.map_append, List.append_assoc]

theorem audible_append (first second : List Event) :
    audible raising (first ++ second) = audible raising first ++ audible raising second :=
  List.filter_append ..

theorem hasEnded_prepend (events : List Event) (c : Consumption) :
    (c.prepend events).hasEnded = c.hasEnded := by
  simp [Consumption.hasEnded, Consumption.prepend]

theorem consume_payloads {payloads : List Bytes}
    (sound : ∀ payload ∈ payloads, overflows version payload = false) (rest : List (List Bytes)) :
    consume version raising ((payloads.map Delivery.payload).map Delivery.parts ++ rest) =
      (consume version raising rest).prepend
        (audible raising (payloads.flatMap fun payload => (interpret version payload).events)) := by
  induction payloads with
  | nil => rfl
  | cons payload payloads ih =>
    have first := sound payload (List.mem_cons_self ..)
    have others := fun p hp => sound p (List.mem_cons_of_mem payload hp)
    rw [List.map_cons, List.map_cons, List.cons_append, consume_payload, if_neg (by simp [first]),
      ih others, prepend_prepend, List.flatMap_cons, audible_append]

theorem consume_payloads_of_overflow {payloads : List Bytes} {payload : Bytes}
    (member : payload ∈ payloads) (large : overflows version payload = true)
    (rest : List (List Bytes)) :
    let c := consume version raising ((payloads.map Delivery.payload).map Delivery.parts ++ rest)
    c.failure? = some (.conversion .integerTooLarge) ∧ c.hasEnded = false := by
  induction payloads with
  | nil => cases member
  | cons first payloads ih =>
    simp only [List.map_cons, List.cons_append, consume_payload]
    split_ifs with early
    · simp [Consumption.hasEnded]
    · rcases List.mem_cons.mp member with rfl | later
      · exact absurd large early
      · rw [hasEnded_prepend]
        exact ih later

def Delivery.report? : Delivery → Option Event
  | .problem code text => some (.error noId code text)
  | _ => none

theorem consume_obstacle (isEnding : Bool) (failure? : Option String) (stream : Bytes)
    (rest : List (List Bytes)) :
    consume version raising ((obstacle isEnding failure? stream).map Delivery.parts ++ rest) =
      (consume version raising rest).prepend
        (audible raising ((obstacle isEnding failure? stream).filterMap Delivery.report?)) := by
  unfold obstacle
  split
  · exact consume_problem version raising rest _ (by decide +kernel)
  · split
    · split_ifs
      · rfl
      · exact consume_problem version raising rest _ (by decide +kernel)
    · rfl

end

/-! ## A whole reception -/

section

variable (version : Int) (raising : List String) (size : Nat) (isEnding : Bool) (buffer : Bytes)
  (arrivals : List Arrival) (later : List (List Bytes))

def forwarded : List Bytes := frames (timely [] (buffer :: (received size arrivals).1))

/-- A consumption that comes to the mark that nothing follows. After the events its owner learns
that the connection has ended, and last the application, if it hears of it. -/
def completed (events : List Event) : Consumption :=
  ⟨events.map .told ++ .ended :: (audible raising [.connectionClosed]).map .told, later, none⟩

def consumeReception : Consumption :=
  consume version raising
    ((receiveAll size isEnding buffer arrivals).deliveries.map Delivery.parts ++ later)

/-- What a receiver is stopped by. -/
def hindrance : List Delivery :=
  obstacle isEnding (received size arrivals).2 (buffer ++ (received size arrivals).1.flatten)

def toldOfReception : List Event :=
  ((forwarded size buffer arrivals).flatMap fun payload => (interpret version payload).events) ++
    (hindrance size isEnding buffer arrivals).filterMap Delivery.report?

theorem consumeReception_eq
    (sound : ∀ payload ∈ forwarded size buffer arrivals, overflows version payload = false) :
    consumeReception version raising size isEnding buffer arrivals later =
      completed raising later
        (audible raising (toldOfReception version size isEnding buffer arrivals)) := by
  rw [consumeReception, deliveries_receiveAll, ← forwarded, ← hindrance, List.map_append,
    List.append_assoc, consume_payloads version raising sound, List.map_append, List.append_assoc,
    List.map_singleton, List.singleton_append, hindrance, consume_obstacle, ← hindrance,
    consume_finished, prepend_prepend, ← audible_append, ← toldOfReception]
  rfl

theorem consumeReception_of_sound
    (sound : ∀ payload ∈ forwarded size buffer arrivals, overflows version payload = false) :
    ∃ events, consumeReception version raising size isEnding buffer arrivals later =
      completed raising later events :=
  ⟨_, consumeReception_eq version raising size isEnding buffer arrivals later sound⟩

theorem consumeReception_of_overflow {payload : Bytes}
    (member : payload ∈ forwarded size buffer arrivals)
    (large : overflows version payload = true) :
    let c := consumeReception version raising size isEnding buffer arrivals later
    c.failure? = some (.conversion .integerTooLarge) ∧ c.hasEnded = false := by
  rw [consumeReception, deliveries_receiveAll, List.map_append, List.append_assoc]
  exact consume_payloads_of_overflow version raising member large _

end

/-- **A payload can stop a consumer only by a quantity that overflows**, which no payload of a newer
server has. Every other payload is ignored or told, with at most one report at its end; and a
consumer comes to the end of a reception just if no payload that it is handed overflows. -/
theorem consumer_ends_iff (version : Int) :
    (∀ payload,
      (interpret version payload).failure? =
        (if overflows version payload then some .integerTooLarge else none) ∧
      (interpret version payload).events =
        (heard version payload).1 ++ report (heard version payload).2 ∧
      (Feature.fractionalPositions ≤ version → overflows version payload = false)) ∧
    ∀ raising size isEnding buffer arrivals later,
      let c := consumeReception version raising size isEnding buffer arrivals later
      let sound := ∀ payload ∈ forwarded size buffer arrivals, overflows version payload = false
      (sound ↔ ∃ events, c = completed raising later events) ∧
        (¬ sound ↔ c.failure? = some (.conversion .integerTooLarge) ∧ c.hasEnded = false) := by
  refine ⟨fun payload => ⟨failure?_interpret version payload, (interpret_eq version payload).2,
    fun new => overflows_of_fractional new payload⟩, ?_⟩
  intro raising size isEnding buffer arrivals later c sound
  have ends : sound → ∃ events, c = completed raising later events :=
    consumeReception_of_sound version raising size isEnding buffer arrivals later
  have stops : ¬ sound → c.failure? = some (.conversion .integerTooLarge) ∧ c.hasEnded = false := by
    intro unsound
    obtain ⟨payload, member, large⟩ : ∃ payload ∈ forwarded size buffer arrivals,
        overflows version payload = true := by simpa [sound] using unsound
    exact consumeReception_of_overflow version raising size isEnding buffer arrivals later member
      large
  have apart : (∃ events, c = completed raising later events) →
      c.failure? ≠ some (.conversion .integerTooLarge) := by
    rintro ⟨events, h⟩
    rw [h]
    exact nofun
  refine ⟨⟨ends, fun ended => ?_⟩, ⟨stops, fun stopped unsound => ?_⟩⟩
  · by_contra unsound
    exact apart ended (stops unsound).1
  · exact apart (ends unsound) stopped.1

/-- The state of an order of which `10 ^ 309` are filled. -/
def hugeStatus : Bytes := [51, 0, 49, 0, 53, 0, 0] ++ 49 :: List.replicate 309 48 ++ [0]

theorem consume_hugeStatus :
    let c := consume 100 [] [(Delivery.payload hugeStatus).parts, Delivery.finished.parts]
    c.failure? = some (.conversion .integerTooLarge) ∧ c.hasEnded = false :=
  consume_payloads_of_overflow 100 [] (List.mem_singleton_self hugeStatus) (by decide +kernel) _

end TradeWire
