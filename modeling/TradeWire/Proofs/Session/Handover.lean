import TradeWire.Proofs.Delivery.Reception
import TradeWire.Session.Handshake

/-!
# From the handshake to the receiver

The handshake takes frames one at a time off what arrives, and the receiver that follows takes all
the rest. Main statement: they meet at the first byte behind the server's answer
(`await_hands_over`). What has been received by then, followed by what is still to arrive, is the
stream behind the answer, so the receiver hands on the payloads of that stream and no other.

One frame is taken wherever the stream is cut (`await_frame`); the frames before the answer are
taken one after another (`await_answer`).
-/

open TradeWire.Frame

namespace TradeWire

namespace Handshake

/-! ## One round -/

section

variable (size : Nat) {buffer payload rest bytes : Bytes} {arrivals left : List Arrival}

/-- What is made of a frame. -/
def afterFrame (payload rest : Bytes) (arrivals : List Arrival) : Except String Agreement :=
  match splitFields payload with
  | [version, time] => readAnswer version time rest arrivals
  | _ => await size rest arrivals

theorem afterFrame_of_stray (other : (splitFields payload).length ≠ 2) :
    afterFrame size payload rest arrivals = await size rest arrivals := by
  unfold afterFrame
  split
  · rename_i two
    rw [two] at other
    exact absurd rfl other
  · rfl

theorem await_of_frame (found : tryRead buffer = .ok (some (payload, rest))) :
    await size buffer arrivals = afterFrame size payload rest arrivals := by
  rw [await]
  split <;> rename_i found' <;> rw [found] at found' <;> cases found'
  rfl

theorem await_of_chunk (waiting : tryRead buffer = .ok none)
    (more : receive size arrivals = (.chunk bytes, left)) :
    await size buffer arrivals = await size (buffer ++ bytes) left := by
  rw [await]
  split <;> rename_i found <;> rw [waiting] at found <;> cases found
  split <;> rename_i more' <;> rw [more] at more' <;> cases more'
  rfl

end

/-! ## Frames in pieces -/

theorem ne_nil_of_waiting {buffer payload rest : Bytes} {chunks : List Bytes}
    (waiting : tryRead buffer = .ok none) (legal : payload.length ≤ maxLength)
    (stream : buffer ++ chunks.flatten = write payload ++ rest) : chunks ≠ [] := by
  rintro rfl
  rw [List.flatten_nil, List.append_nil] at stream
  rw [stream, tryRead_write legal] at waiting
  cases waiting

/-- One frame is taken off a stream wherever the stream is cut, and nothing behind it. -/
theorem await_frame {size : Nat} (positive : 0 < size) {payload : Bytes}
    (legal : payload.length ≤ maxLength) {rest buffer : Bytes} {chunks : List Bytes}
    (given : ∀ chunk ∈ chunks, chunk ≠ [])
    (stream : buffer ++ chunks.flatten = write payload ++ rest) :
    ∃ (kept : Bytes) (left : List Bytes),
      await size buffer (chunks.map .data) = afterFrame size payload kept (left.map .data) ∧
      kept ++ left.flatten = rest ∧ ∀ chunk ∈ left, chunk ≠ [] := by
  induction length : chunks.flatten.length using Nat.strongRecOn generalizing buffer chunks with
  | _ n ih =>
    have whole := tryRead_write legal rest
    cases found : tryRead buffer with
    | error bad =>
      have late := tryRead_append_of_error found chunks.flatten
      rw [stream, whole] at late
      cases late
    | ok frame? =>
      cases frame? with
      | some frame =>
        obtain ⟨first, kept⟩ := frame
        obtain ⟨rfl, small⟩ := eq_write_of_tryRead found
        rw [List.append_assoc] at stream
        have same := tryRead_write small (kept ++ chunks.flatten)
        rw [stream, whole] at same
        cases same
        exact ⟨kept, chunks, await_of_frame size found, rfl, given⟩
      | none =>
        have more := ne_nil_of_waiting found legal stream
        obtain ⟨bytes, left, some_more, split, some_bytes, others⟩ :=
          receive_data positive more given
        have progress := List.length_pos_iff.mpr some_bytes
        rw [← split, List.length_append] at length
        rw [← split, ← List.append_assoc] at stream
        rw [await_of_chunk size found some_more]
        exact ih left.flatten.length (by omega) others stream rfl

theorem await_answer {size : Nat} (positive : 0 < size) {strays : List Bytes} {answer : Bytes}
    {version time : String}
    (stray : ∀ payload ∈ strays, payload.length ≤ maxLength ∧ (splitFields payload).length ≠ 2)
    (legal : answer.length ≤ maxLength) (fields : splitFields answer = [version, time])
    {rest buffer : Bytes} {chunks : List Bytes} (given : ∀ chunk ∈ chunks, chunk ≠ [])
    (stream : buffer ++ chunks.flatten = (strays.map write).flatten ++ write answer ++ rest) :
    ∃ (kept : Bytes) (left : List Bytes),
      await size buffer (chunks.map .data) = readAnswer version time kept (left.map .data) ∧
      kept ++ left.flatten = rest ∧ ∀ chunk ∈ left, chunk ≠ [] := by
  induction strays generalizing buffer chunks with
  | nil =>
    obtain ⟨kept, left, taken, split, others⟩ := await_frame positive legal given stream
    rw [afterFrame, fields] at taken
    exact ⟨kept, left, taken, split, others⟩
  | cons payload strays ih =>
    obtain ⟨⟨small, other⟩, strays_small⟩ := List.forall_mem_cons.mp stray
    rw [List.map_cons, List.flatten_cons, List.append_assoc, List.append_assoc,
      ← List.append_assoc (strays.map write).flatten] at stream
    obtain ⟨kept, left, taken, split, others⟩ := await_frame positive small given stream
    rw [afterFrame_of_stray size other] at taken
    rw [taken]
    exact ih strays_small others split

end Handshake

/-! ## What is left for the receiver -/

/-- A receiver hands on just the payloads of a stream of frames of legal length, and keeps what is
not complete. -/
theorem deliveries_of_stream {size : Nat} (positive : 0 < size) (isEnding : Bool)
    {payloads : List Bytes} (legal : ∀ payload ∈ payloads, payload.length ≤ maxLength)
    {tail buffer : Bytes} (incomplete : tryRead tail = .ok none) {chunks : List Bytes}
    (given : ∀ chunk ∈ chunks, chunk ≠ [])
    (stream : buffer ++ chunks.flatten = (payloads.map write).flatten ++ tail) :
    (receiveAll size isEnding buffer (chunks.map .data)).deliveries = handedOn payloads [] := by
  obtain ⟨flat, unfailed⟩ := received_data positive chunks given
  have cut : Cut (buffer ++ chunks.flatten) payloads tail :=
    ⟨stream, legal, stuck_iff.mp (stuck_of_none incomplete)⟩
  obtain ⟨all, left⟩ := cut_iff.mp cut
  have sound : refused? (buffer ++ chunks.flatten) = none := by
    rw [refused?, left, incomplete]
  have whole : timely [] (buffer :: (received size (chunks.map .data)).1) =
      buffer ++ chunks.flatten := by
    have timely := @timely_of_sound [] (buffer :: (received size (chunks.map .data)).1)
    rw [List.nil_append, List.flatten_cons, flat] at timely
    exact timely sound
  have unhindered : obstacle isEnding none (buffer ++ chunks.flatten) = [] := by
    rw [obstacle, sound]
  rw [deliveries_receiveAll, whole, all, flat, unfailed, unhindered]
  rfl

/-- **The receiver takes over at the first byte behind the answer.** Whatever comes before the
answer and however the stream is cut, the bytes that have been received by then, followed by those
still to come, are the stream behind the answer; and a receiver that starts with them hands on the
payloads of that stream in order. -/
theorem await_hands_over {size : Nat} (positive : 0 < size) {strays later : List Bytes}
    {answer tail : Bytes} {version time : String} {number : Int} {chunks : List Bytes}
    (stray : ∀ payload ∈ strays, payload.length ≤ maxLength ∧ (splitFields payload).length ≠ 2)
    (legal : answer.length ≤ maxLength) (fields : splitFields answer = [version, time])
    (numeral : Text.readInt version = .ok number)
    (legal_later : ∀ payload ∈ later, payload.length ≤ maxLength)
    (incomplete : tryRead tail = .ok none) (given : ∀ chunk ∈ chunks, chunk ≠ [])
    (stream : chunks.flatten =
      (strays.map write).flatten ++ write answer ++ ((later.map write).flatten ++ tail)) :
    ∃ (buffer : Bytes) (left : List Bytes),
      Handshake.await size [] (chunks.map .data) = .ok ⟨number, time, buffer, left.map .data⟩ ∧
      buffer ++ left.flatten = (later.map write).flatten ++ tail ∧
      ∀ size' isEnding, 0 < size' →
        (receiveAll size' isEnding buffer (left.map .data)).deliveries = handedOn later [] := by
  rw [← List.nil_append chunks.flatten] at stream
  obtain ⟨buffer, left, answered, split, others⟩ :=
    Handshake.await_answer positive stray legal fields given stream
  rw [Handshake.readAnswer, numeral] at answered
  exact ⟨buffer, left, answered, split, fun _ isEnding positive =>
    deliveries_of_stream positive isEnding legal_later incomplete others split⟩

/-- A stray frame, the answer, a message, and the start of another one. The answer begins in one
chunk and ends in the next, which also holds the message. -/
def answeredStream : List Bytes :=
  [[0, 0], [0, 2, 57, 0, 0, 0, 0, 6, 49], [53, 49, 0, 116, 0, 0, 0, 0, 2, 53, 0, 0], [0, 0, 9, 1]]

theorem await_hands_over_answeredStream :
    ∃ (buffer : Bytes) (left : List Bytes),
      Handshake.await 4096 [] (answeredStream.map .data) =
        .ok ⟨151, "t", buffer, left.map .data⟩ ∧
      buffer ++ left.flatten = ([[53, 0]].map write).flatten ++ [0, 0, 0, 9, 1] ∧
      ∀ size' isEnding, 0 < size' →
        (receiveAll size' isEnding buffer (left.map .data)).deliveries =
          handedOn [[53, 0]] [] := by
  have stray : ∀ payload ∈ ([[57, 0]] : List Bytes),
      payload.length ≤ maxLength ∧ (splitFields payload).length ≠ 2 := by decide +kernel
  have fields : splitFields [49, 53, 49, 0, 116, 0] = ["151", "t"] := by decide +kernel
  have numeral : Text.readInt "151" = .ok 151 := by decide +kernel
  have incomplete : tryRead [0, 0, 0, 9, 1] = .ok none := by decide
  exact await_hands_over (by decide) stray (by decide) fields numeral (by decide) incomplete
    (by decide) (by decide)

end TradeWire
