import TradeWire.Proofs.Delivery.Reception
import TradeWire.Proofs.Frame.Exactness

/-!
# How a receiver stops

A receiver tries to receive until something stops it: the end of what arrives, a failure of the
socket, or a header that declares too great a length (`Stop`). Main statement: it always stops, and
what it hands on is then some payloads, at most one problem, and one mark that nothing follows; the
stop alone decides on the problem and on the shutdown of the socket, which may fail, and nothing is
received after it (`stopsOnce_receiveUntilStop`). One round of a receiver puts some payloads and an
attempt in front of what the remaining rounds come to, so that the stop is found by induction on
what arrives (`exists_stoppedBy`).
-/

open TradeWire.Frame

namespace TradeWire

/-! ## Attempts to receive -/

def Received.bytes : Received → Bytes
  | .chunk bytes => bytes
  | .ended => []
  | .failed _ => []

def receivedBytes (attempts : List Received) : Bytes := attempts.flatMap Received.bytes

/-- Some attempts are made one after another, each at what the one before it left to arrive. -/
inductive Attempted (size : Nat) : List Arrival → List Received → List Arrival → Prop where
  | none (arrivals : List Arrival) : Attempted size arrivals [] arrivals
  | one {arrivals next left : List Arrival} {result : Received} {results : List Received}
      (found : receive size arrivals = (result, next)) (others : Attempted size next results left) :
      Attempted size arrivals (result :: results) left

theorem receivedBytes_append (first second : List Received) :
    receivedBytes (first ++ second) = receivedBytes first ++ receivedBytes second :=
  List.flatMap_append

theorem receivedBytes_chunks (chunks : List Bytes) :
    receivedBytes (chunks.map .chunk) = chunks.flatten := by
  rw [receivedBytes, List.flatMap_map]
  exact List.flatMap_id

/-! ## What stops a receiver -/

/-- Something that stops a receiver. -/
inductive Stop where
  | ended
  | failed (text : String)
  | overlong (bad : BadLength)

namespace Stop

/-- The attempt that meets the stop. A header is met among the bytes that came before. -/
def attempts : Stop → List Received
  | .ended => [.ended]
  | .failed text => [.failed text]
  | .overlong _ => []

/-- The problem to be handed on. A socket may fail if the connection was to end. -/
def problem? (isEnding : Bool) : Stop → Option (Int × String)
  | .ended => none
  | .failed text =>
    if isEnding then none else some (509, "Exception caught while reading socket - " ++ text)
  | .overlong bad => some (507, "Bad message length: " ++ bad.message)

def shutsDown : Stop → Bool
  | .ended => true
  | .failed _ => false
  | .overlong _ => true

theorem receivedBytes_attempts (stop : Stop) : receivedBytes stop.attempts = [] := by
  cases stop <;> rfl

/-- Behind a stop there is no attempt, so only chunks were received before any other one. -/
theorem prefix_of_attempts {stop : Stop} {chunks : List Bytes} {before after : List Received}
    {result : Received} (split : chunks.map .chunk ++ stop.attempts = before ++ result :: after) :
    before <+: chunks.map .chunk := by
  have short : stop.attempts.length ≤ 1 := by cases stop <;> simp [attempts]
  have length := congrArg List.length split
  simp only [List.length_append, List.length_cons] at length
  refine List.prefix_of_prefix_length_le ⟨result :: after, split.symm⟩ ⟨stop.attempts, rfl⟩ ?_
  omega

end Stop

def handedOnWith (payloads : List Bytes) (problem? : Option (Int × String)) : List Delivery :=
  handedOn payloads (problem?.toList.map fun problem => .problem problem.1 problem.2)

/-- A receiver received some chunks, and then this stopped it. -/
structure StoppedBy (stop : Stop) (chunks : List Bytes) (failure? : Option String) (size : Nat)
    (isEnding : Bool) (buffer : Bytes) (arrivals : List Arrival) (reception : Reception) :
    Prop where
  attempts : reception.attempts = chunks.map .chunk ++ stop.attempts
  handed : ∃ payloads, reception.deliveries = handedOnWith payloads (stop.problem? isEnding)
  shutDown : reception.isShutDown = stop.shutsDown
  passedOver : reception.passedOver? = if stop.shutsDown then failure? else none
  left : ∃ left, Attempted size arrivals reception.attempts left ∧
    reception.left = if stop.shutsDown then [] else left
  /-- A header is refused just if that is the stop. -/
  header : ∀ bad, refused? (buffer ++ chunks.flatten) = some bad ↔ stop = .overlong bad
  /-- None was refused when another attempt was made. -/
  sound : ∀ before result after, reception.attempts = before ++ result :: after →
    refused? (buffer ++ receivedBytes before) = none

section

variable {failure? : Option String} {size : Nat} {isEnding : Bool} {buffer bytes : Bytes}
  {arrivals left : List Arrival}

theorem stoppedBy_of_refused {bad : BadLength} (h : refused? buffer = some bad) :
    StoppedBy (.overlong bad) [] failure? size isEnding buffer arrivals
      (receiveUntilStop failure? size isEnding buffer arrivals) := by
  rw [receiveUntilStop_of_refused failure? size isEnding h]
  refine ⟨rfl, ⟨[], ?_⟩, rfl, rfl, ⟨arrivals, .none arrivals, rfl⟩, fun other => ?_, ?_⟩
  · show [Delivery.problem 507 _, .finished] = [.problem 507 _, .finished]
    rw [Notice.text, ← String.append_assoc]
    rfl
  · rw [List.flatten_nil, List.append_nil, h, Option.some.injEq, Stop.overlong.injEq]
  · intro before result after split
    exact absurd split.symm (List.append_ne_nil_of_right_ne_nil before (List.cons_ne_nil _ _))

theorem stoppedBy_of_ended (h : refused? buffer = none)
    (found : receive size arrivals = (.ended, left)) :
    StoppedBy .ended [] failure? size isEnding buffer arrivals
      (receiveUntilStop failure? size isEnding buffer arrivals) := by
  rw [receiveUntilStop_of_ended failure? size isEnding h found]
  refine ⟨rfl, ⟨frames buffer, rfl⟩, rfl, rfl,
    ⟨left, .one found (.none left), rfl⟩, fun bad => ?_, ?_⟩
  · rw [List.flatten_nil, List.append_nil, h]
    exact iff_of_false nofun nofun
  · intro before result after split
    have first := List.prefix_nil.mp (@Stop.prefix_of_attempts .ended [] _ _ _ split)
    rw [first, receivedBytes, List.flatMap_nil, List.append_nil, h]

theorem stoppedBy_of_failed (h : refused? buffer = none) {text : String}
    (found : receive size arrivals = (.failed text, left)) :
    StoppedBy (.failed text) [] failure? size isEnding buffer arrivals
      (receiveUntilStop failure? size isEnding buffer arrivals) := by
  rw [receiveUntilStop_of_failed failure? size isEnding h found]
  refine ⟨rfl, ⟨frames buffer, ?_⟩, rfl, rfl,
    ⟨left, .one found (.none left), rfl⟩, fun bad => ?_, ?_⟩
  · cases isEnding <;> rfl
  · rw [List.flatten_nil, List.append_nil, h]
    exact iff_of_false nofun nofun
  · intro before result after split
    have first := List.prefix_nil.mp (@Stop.prefix_of_attempts (.failed text) [] _ _ _ split)
    rw [first, receivedBytes, List.flatMap_nil, List.append_nil, h]

theorem StoppedBy.chunk (h : refused? buffer = none)
    (found : receive size arrivals = (.chunk bytes, left)) {stop : Stop} {chunks : List Bytes}
    (later : StoppedBy stop chunks failure? size isEnding (remnant buffer ++ bytes) left
      (receiveUntilStop failure? size isEnding (remnant buffer ++ bytes) left)) :
    StoppedBy stop (bytes :: chunks) failure? size isEnding buffer arrivals
      (receiveUntilStop failure? size isEnding buffer arrivals) := by
  rw [receiveUntilStop_of_chunk failure? size isEnding h found]
  obtain ⟨attempts, ⟨payloads, handed⟩, shutDown, passedOver, ⟨rest, attempted, left⟩, header,
    sound⟩ := later
  refine ⟨congrArg (_ :: ·) attempts, ⟨frames buffer ++ payloads, ?_⟩, shutDown,
    passedOver, ⟨rest, .one found attempted, left⟩, fun bad => ?_, ?_⟩
  · simp only [Reception.prepend, Reception.after, handed, handedOnWith, handedOn, List.map_append,
      List.append_assoc]
  · rw [← header, List.flatten_cons, refused?_append, List.append_assoc]
  · intro before result after split
    cases before with
    | nil => rw [receivedBytes, List.flatMap_nil, List.append_nil, h]
    | cons first before =>
      obtain ⟨rfl, others⟩ := List.cons.inj split
      rw [receivedBytes, List.flatMap_cons, refused?_append, ← List.append_assoc]
      exact sound before result after others

end

theorem exists_stoppedBy (failure? : Option String) (size : Nat) (isEnding : Bool)
    (buffer : Bytes) (arrivals : List Arrival) :
    ∃ stop chunks, StoppedBy stop chunks failure? size isEnding buffer arrivals
      (receiveUntilStop failure? size isEnding buffer arrivals) := by
  induction arrivals using received.induct size generalizing buffer with
  | case1 arrivals text left found =>
    cases h : refused? buffer with
    | some bad => exact ⟨_, _, stoppedBy_of_refused h⟩
    | none => exact ⟨_, _, stoppedBy_of_failed h found⟩
  | case2 arrivals left found =>
    cases h : refused? buffer with
    | some bad => exact ⟨_, _, stoppedBy_of_refused h⟩
    | none => exact ⟨_, _, stoppedBy_of_ended h found⟩
  | case3 arrivals bytes left found ih =>
    cases h : refused? buffer with
    | some bad => exact ⟨_, _, stoppedBy_of_refused h⟩
    | none =>
      obtain ⟨stop, chunks, later⟩ := ih (remnant buffer ++ bytes)
      exact ⟨stop, bytes :: chunks, later.chunk h found⟩

/-! ## All that can be seen -/

/-- Behind complete frames of legal length there is a header that declares too great a length. -/
def Meets (stream : Bytes) (bad : BadLength) : Prop :=
  ∃ payloads rest, Begins stream payloads rest ∧ Overlong rest bad

theorem refused?_eq_some_iff_meets {stream : Bytes} {bad : BadLength} :
    refused? stream = some bad ↔ Meets stream bad := by
  rw [Meets, ← readAll_eq_error_iff, readAll_eq]
  cases refused? stream with
  | none => exact iff_of_false nofun nofun
  | some other => rw [Option.some.injEq, Except.error.injEq]

/-- How a receiver comes to an end, as far as it can be seen from outside. -/
structure StopsOnce (failure? : Option String) (size : Nat) (isEnding : Bool) (buffer : Bytes)
    (arrivals : List Arrival) (reception : Reception) : Prop where
  /-- Payloads, at most one problem, and the mark. The problem is that of a failure of the socket
  while the connection was not to end, or that of a header with too great a length. -/
  handed : ∃ payloads problem?, reception.deliveries = handedOnWith payloads problem? ∧
    ∀ code text, problem? = some (code, text) ↔
      (code = 509 ∧ isEnding = false ∧ ∃ error, .failed error ∈ reception.attempts ∧
        text = "Exception caught while reading socket - " ++ error) ∨
      (code = 507 ∧ ∃ bad, Meets (buffer ++ receivedBytes reception.attempts) bad ∧
        text = "Bad message length: " ++ bad.message)
  shutDown : reception.isShutDown = true ↔
    .ended ∈ reception.attempts ∨ ∃ bad, Meets (buffer ++ receivedBytes reception.attempts) bad
  /-- A failure of the shutdown changes nothing else. -/
  passedOver : reception.passedOver? = if reception.isShutDown then failure? else none
  /-- There is a stop. -/
  stopped : .ended ∈ reception.attempts ∨ (∃ error, .failed error ∈ reception.attempts) ∨
    ∃ bad, Meets (buffer ++ receivedBytes reception.attempts) bad
  /-- No attempt follows a stop: before each one only chunks were received, and no such header. -/
  last : ∀ before result after, reception.attempts = before ++ result :: after →
    (∀ earlier ∈ before, ∃ bytes, earlier = .chunk bytes) ∧
      ∀ bad, ¬ Meets (buffer ++ receivedBytes before) bad
  /-- What was not asked for is still to arrive, unless it is discarded by the shutdown. -/
  left : ∃ left, Attempted size arrivals reception.attempts left ∧
    reception.left = if reception.isShutDown then [] else left

theorem mem_attempts_iff {chunks : List Bytes} {stop : Stop} {result : Received}
    (other : ∀ bytes, result ≠ .chunk bytes) :
    result ∈ chunks.map .chunk ++ stop.attempts ↔ result ∈ stop.attempts := by
  rw [List.mem_append, or_iff_right]
  intro member
  obtain ⟨bytes, -, rfl⟩ := List.mem_map.mp member
  exact other bytes rfl

/-- **A receiver stops, and hands on payloads, at most one problem, and one mark.** Only a failure
of the socket that was not asked for, under code 509, and a header that declares too great a length,
under code 507, are problems. The socket is shut down just if the end of what arrives or such a
header stopped the receiver, whether it can be shut down or not, and no attempt to receive is made
after the stop. -/
theorem stopsOnce_receiveUntilStop (failure? : Option String) (size : Nat) (isEnding : Bool)
    (buffer : Bytes) (arrivals : List Arrival) :
    StopsOnce failure? size isEnding buffer arrivals
      (receiveUntilStop failure? size isEnding buffer arrivals) := by
  obtain ⟨stop, chunks, attempts, ⟨payloads, handed⟩, shutDown, passedOver,
    ⟨left, attempted, remains⟩, header, sound⟩ :=
    exists_stoppedBy failure? size isEnding buffer arrivals
  generalize receiveUntilStop failure? size isEnding buffer arrivals = reception at *
  have seen : receivedBytes reception.attempts =
      chunks.flatten := by
    rw [attempts, receivedBytes_append, receivedBytes_chunks, stop.receivedBytes_attempts,
      List.append_nil]
  have ended : .ended ∈ reception.attempts ↔ stop = .ended := by
    rw [attempts, @mem_attempts_iff _ _ .ended nofun]
    cases stop <;> simp [Stop.attempts]
  have failed (error : String) :
      .failed error ∈ reception.attempts ↔
        stop = .failed error := by
    rw [attempts, @mem_attempts_iff _ _ (.failed error) nofun]
    cases stop <;> simp [Stop.attempts, eq_comm]
  have met (bad : BadLength) :
      Meets (buffer ++ receivedBytes reception.attempts) bad ↔
        stop = .overlong bad := by
    rw [seen, ← refused?_eq_some_iff_meets, header]
  refine ⟨⟨payloads, stop.problem? isEnding, handed, fun code text => ?_⟩, ?_, ?_, ?_, ?_,
    ⟨left, attempted, ?_⟩⟩
  · simp only [failed, met]
    cases stop <;> cases isEnding <;> simp [Stop.problem?, eq_comm]
  · simp only [shutDown, ended, met]
    cases stop <;> simp [Stop.shutsDown]
  · rw [passedOver, shutDown]
  · simp only [ended, failed, met]
    cases stop <;> simp
  · intro before result after split
    refine ⟨fun earlier member => ?_, fun bad meets => ?_⟩
    · have front := Stop.prefix_of_attempts (attempts.symm.trans split)
      obtain ⟨bytes, -, rfl⟩ := List.mem_map.mp (front.subset member)
      exact ⟨bytes, rfl⟩
    · rw [← refused?_eq_some_iff_meets, sound before result after split] at meets
      cases meets
  · rw [remains, shutDown]

end TradeWire
