import TradeWire.Delivery.Receiver
import TradeWire.Proofs.Frame.Stream

/-!
# What a receiver hands on

The pieces of a stream are the buffer that a receiver starts with and the chunks that it receives
(`received`). Main statement: the deliveries are the payloads of the frames that are timely, then
the problem that stopped the receiver, if there was one, and then the mark that nothing follows
(`deliveries_receiveUntilStop`). While no header is refused every frame is timely, and the cut of
the stream makes no difference. Once one is refused, the frames are those of the pieces before the
one that completes the header: a frame which that very piece completes is lost.
-/

open TradeWire.Frame

namespace TradeWire

/-! ## What a receiver sees -/

/-- The chunks that are received one after another, and the failure at their end if they do not
just end. -/
def received (size : Nat) (arrivals : List Arrival) : List Bytes × Option String :=
  match _found : receive size arrivals with
  | (.failed text, _) => ([], some text)
  | (.ended, _) => ([], none)
  | (.chunk bytes, left) => (bytes :: (received size left).1, (received size left).2)
termination_by Arrival.total arrivals
decreasing_by
  all_goals
    have := total_of_receive _found
    omega

/-- What had come of a stream in pieces before the piece with which a refused header was complete,
and the whole stream if there is no such header. -/
def timely (seen : Bytes) : List Bytes → Bytes
  | [] => seen
  | piece :: pieces =>
    if (refused? (seen ++ piece)).isSome then seen else timely (seen ++ piece) pieces

/-- The problem that stops a receiver, if it is stopped by one: a refused header comes before any
failure of the socket, and such a failure is no problem if the connection was to end. -/
def obstacle (isEnding : Bool) (failure? : Option String) (stream : Bytes) : List Delivery :=
  match refused? stream with
  | some bad => [.ofNotice .badLength (": " ++ bad.message)]
  | none =>
    match failure? with
    | some text => if isEnding then [] else [.ofNotice .socketFailed text]
    | none => []

theorem frames_timely (seen : Bytes) (pieces : List Bytes) :
    frames (timely seen pieces) = frames seen ++ frames (timely (remnant seen) pieces) := by
  induction pieces generalizing seen with
  | nil => rw [timely, timely, frames_of_stuck (stuck_remnant seen), List.append_nil]
  | cons piece pieces ih =>
    rw [timely, timely, refused?_append seen]
    split_ifs with late
    · rw [frames_of_stuck (stuck_remnant seen), List.append_nil]
    · rw [ih, ih (remnant seen ++ piece), frames_append seen, remnant_append seen,
        List.append_assoc]

theorem timely_of_sound {seen : Bytes} {pieces : List Bytes}
    (sound : refused? (seen ++ pieces.flatten) = none) :
    timely seen pieces = seen ++ pieces.flatten := by
  induction pieces generalizing seen with
  | nil => rw [timely, List.flatten_nil, List.append_nil]
  | cons piece pieces ih =>
    rw [List.flatten_cons, ← List.append_assoc] at sound ⊢
    have early : refused? (seen ++ piece) = none := by
      cases h : refused? (seen ++ piece) with
      | none => rfl
      | some bad => rw [(append_of_refused h _).1] at sound; cases sound
    rw [timely, early, if_neg (by simp), ih sound]

theorem timely_of_refused {piece : Bytes} {bad : BadLength} (h : refused? piece = some bad)
    (pieces : List Bytes) : timely [] (piece :: pieces) = [] := by
  rw [timely, List.nil_append, h]
  rfl

/-! ## One round of a receiver -/

section

variable (failure? : Option String) (size : Nat) (isEnding : Bool) {buffer bytes : Bytes}
  {arrivals left : List Arrival} {text : String}

theorem receiveUntilStop_of_refused {bad : BadLength} (h : refused? buffer = some bad) :
    receiveUntilStop failure? size isEnding buffer arrivals =
      .shutDown failure? [.ofNotice .badLength (": " ++ bad.message)] := by
  rw [receiveUntilStop, readAll_eq, h]

theorem receiveUntilStop_of_chunk (h : refused? buffer = none)
    (found : receive size arrivals = (.chunk bytes, left)) :
    receiveUntilStop failure? size isEnding buffer arrivals =
      ((receiveUntilStop failure? size isEnding (remnant buffer ++ bytes) left).after
        (.chunk bytes)).prepend (frames buffer) := by
  rw [receiveUntilStop, readAll_eq, h]
  simp only
  split <;> rename_i found' <;> rw [found] at found' <;> cases found'
  rfl

theorem receiveUntilStop_of_ended (h : refused? buffer = none)
    (found : receive size arrivals = (.ended, left)) :
    receiveUntilStop failure? size isEnding buffer arrivals =
      ((Reception.shutDown failure? []).after .ended).prepend (frames buffer) := by
  rw [receiveUntilStop, readAll_eq, h]
  simp only
  split <;> rename_i found' <;> rw [found] at found' <;> cases found'

theorem receiveUntilStop_of_failed (h : refused? buffer = none)
    (found : receive size arrivals = (.failed text, left)) :
    receiveUntilStop failure? size isEnding buffer arrivals =
      ((Reception.failed isEnding text left).after (.failed text)).prepend (frames buffer) := by
  rw [receiveUntilStop, readAll_eq, h]
  simp only
  split <;> rename_i found' <;> rw [found] at found' <;> cases found'
  rfl

end

/-! ## A whole reception -/

theorem received_of_chunk {size : Nat} {arrivals left : List Arrival} {bytes : Bytes}
    (found : receive size arrivals = (.chunk bytes, left)) :
    received size arrivals = (bytes :: (received size left).1, (received size left).2) := by
  rw [received]
  split <;> rename_i found' <;> rw [found] at found' <;> cases found'
  rfl

theorem received_of_ended {size : Nat} {arrivals left : List Arrival}
    (found : receive size arrivals = (.ended, left)) : received size arrivals = ([], none) := by
  rw [received]
  split <;> rename_i found' <;> rw [found] at found' <;> cases found'

theorem received_of_failed {size : Nat} {arrivals left : List Arrival} {text : String}
    (found : receive size arrivals = (.failed text, left)) :
    received size arrivals = ([], some text) := by
  rw [received]
  split <;> rename_i found' <;> rw [found] at found' <;> cases found'
  rfl

theorem frames_timely_cons {piece : Bytes} (h : refused? piece = none) (pieces : List Bytes) :
    frames (timely [] (piece :: pieces)) =
      frames piece ++ frames (timely (remnant piece) pieces) := by
  rw [timely, List.nil_append, h, if_neg (by simp), frames_timely]

theorem frames_timely_kept {kept : Bytes} (stuck : Stuck kept) (piece : Bytes)
    (pieces : List Bytes) :
    frames (timely kept (piece :: pieces)) = frames (timely [] ((kept ++ piece) :: pieces)) := by
  rw [timely, timely, List.nil_append]
  split_ifs
  · rw [frames_of_stuck stuck, frames_of_stuck (stuck_of_none rfl)]
  · rfl

theorem obstacle_append (isEnding : Bool) (failure? : Option String) (stream more : Bytes) :
    obstacle isEnding failure? (stream ++ more) =
      obstacle isEnding failure? (remnant stream ++ more) := by
  unfold obstacle
  rw [refused?_append]

/-- The deliveries are the payloads of the timely frames, the problem that stopped the receiver,
and the mark that nothing follows. It makes no difference whether a shutdown fails. -/
theorem deliveries_receiveUntilStop (failure? : Option String) (size : Nat) (isEnding : Bool)
    (buffer : Bytes) (arrivals : List Arrival) :
    (receiveUntilStop failure? size isEnding buffer arrivals).deliveries =
      (frames (timely [] (buffer :: (received size arrivals).1))).map .payload ++
        (obstacle isEnding (received size arrivals).2
          (buffer ++ (received size arrivals).1.flatten) ++ [.finished]) := by
  induction arrivals using received.induct size generalizing buffer with
  | case1 arrivals text left found => _
  | case2 arrivals left found => _
  | case3 arrivals bytes left found ih => _
  all_goals
    cases h : refused? buffer with
    | some bad =>
      have late := (append_of_refused h (received size arrivals).1.flatten).1
      unfold obstacle
      rw [receiveUntilStop_of_refused failure? size isEnding h, timely_of_refused h, late,
        frames_of_stuck (stuck_of_none rfl)]
      rfl
    | none => _
  · rw [receiveUntilStop_of_failed failure? size isEnding h found, received_of_failed found,
      frames_timely_cons h, timely, frames_of_stuck (stuck_remnant buffer), List.flatten_nil,
      List.append_nil, List.append_nil]
    unfold obstacle
    rw [h]
    rfl
  · rw [receiveUntilStop_of_ended failure? size isEnding h found, received_of_ended found,
      frames_timely_cons h, timely, frames_of_stuck (stuck_remnant buffer), List.flatten_nil,
      List.append_nil, List.append_nil]
    unfold obstacle
    rw [h]
    rfl
  · rw [receiveUntilStop_of_chunk failure? size isEnding h found, received_of_chunk found,
      frames_timely_cons h, List.flatten_cons, obstacle_append, ← List.append_assoc,
      frames_timely_kept (stuck_remnant buffer), List.map_append]
    simp only [Reception.prepend, Reception.after]
    rw [ih]
    simp only [List.append_assoc]

theorem deliveries_receiveAll (size : Nat) (isEnding : Bool) (buffer : Bytes)
    (arrivals : List Arrival) :
    (receiveAll size isEnding buffer arrivals).deliveries =
      (frames (timely [] (buffer :: (received size arrivals).1))).map .payload ++
        (obstacle isEnding (received size arrivals).2
          (buffer ++ (received size arrivals).1.flatten) ++ [.finished]) :=
  deliveries_receiveUntilStop none size isEnding buffer arrivals

/-- Some piece completes a frame and, behind it, the first refused header. -/
def LosesFrames (seen : Bytes) (pieces : List Bytes) : Prop :=
  ∃ before piece after, pieces = before ++ piece :: after ∧
    refused? (seen ++ before.flatten) = none ∧
    (refused? (seen ++ before.flatten ++ piece)).isSome = true ∧
    frames (seen ++ before.flatten ++ piece) ≠ frames (seen ++ before.flatten)

theorem not_losesFrames_nil (seen : Bytes) : ¬ LosesFrames seen [] := by
  rintro ⟨before, piece, after, split, -⟩
  exact List.append_ne_nil_of_right_ne_nil before (List.cons_ne_nil piece after) split.symm

theorem losesFrames_cons_of_refused {seen piece : Bytes} {bad : BadLength}
    (sound : refused? seen = none) (late : refused? (seen ++ piece) = some bad)
    (pieces : List Bytes) :
    LosesFrames seen (piece :: pieces) ↔ frames (seen ++ piece) ≠ frames seen := by
  constructor
  · rintro ⟨before, other, after, split, waiting, -, lost⟩
    cases before with
    | nil =>
      cases split
      rwa [List.flatten_nil, List.append_nil] at lost
    | cons first before =>
      cases split
      rw [List.flatten_cons, ← List.append_assoc, (append_of_refused late _).1] at waiting
      cases waiting
  · intro lost
    refine ⟨[], piece, pieces, rfl, ?_⟩
    rw [List.flatten_nil, List.append_nil, late]
    exact ⟨sound, rfl, lost⟩

theorem losesFrames_cons_of_sound {seen piece : Bytes} (sound : refused? (seen ++ piece) = none)
    (pieces : List Bytes) :
    LosesFrames seen (piece :: pieces) ↔ LosesFrames (seen ++ piece) pieces := by
  constructor
  · rintro ⟨before, other, after, split, waiting, late, lost⟩
    cases before with
    | nil =>
      cases split
      rw [List.flatten_nil, List.append_nil, sound] at late
      cases late
    | cons first before =>
      cases split
      rw [List.flatten_cons, ← List.append_assoc] at waiting late lost
      exact ⟨before, other, after, rfl, waiting, late, lost⟩
  · rintro ⟨before, other, after, rfl, waiting, late, lost⟩
    refine ⟨piece :: before, other, after, rfl, ?_⟩
    rw [List.flatten_cons, ← List.append_assoc]
    exact ⟨waiting, late, lost⟩

/-- All frames before the first refused header are timely unless the piece that completes it
completes a frame as well. -/
theorem frames_timely_ne_iff {seen : Bytes} (sound : refused? seen = none) (pieces : List Bytes) :
    frames (timely seen pieces) ≠ frames (seen ++ pieces.flatten) ↔ LosesFrames seen pieces := by
  induction pieces generalizing seen with
  | nil =>
    rw [timely, List.flatten_nil, List.append_nil]
    exact iff_of_false (fun differ => differ rfl) (not_losesFrames_nil seen)
  | cons piece pieces ih =>
    rw [timely, List.flatten_cons, ← List.append_assoc]
    cases h : refused? (seen ++ piece) with
    | some bad =>
      rw [if_pos Option.isSome_some, (append_of_refused h _).2, ne_comm,
        losesFrames_cons_of_refused sound h]
    | none => rw [if_neg (by simp), ih h, losesFrames_cons_of_sound h]

def handedOn (payloads : List Bytes) (problems : List Delivery) : List Delivery :=
  payloads.map .payload ++ (problems ++ [.finished])

theorem handedOn_inj {payloads payloads' : List Bytes} {problems : List Delivery} :
    handedOn payloads problems = handedOn payloads' problems ↔ payloads = payloads' := by
  constructor
  · intro same
    refine List.map_injective_iff.mpr ?_ (List.append_cancel_right same)
    intro a b same
    cases same
    rfl
  · rintro rfl
    rfl

/-- **A receiver hands on every frame before the first refused header just if no piece completes a
frame together with that header.** In any case it hands on the timely frames, then the problem if
there is one, and then the mark. -/
theorem deliveries_receiveAll_iff (size : Nat) (isEnding : Bool) (buffer : Bytes)
    (arrivals : List Arrival) :
    let pieces := buffer :: (received size arrivals).1
    let problems := obstacle isEnding (received size arrivals).2 pieces.flatten
    let reception := receiveAll size isEnding buffer arrivals
    reception.deliveries = handedOn (frames (timely [] pieces)) problems ∧
      (reception.deliveries = handedOn (frames pieces.flatten) problems ↔
        ¬ LosesFrames [] pieces) ∧
      (refused? pieces.flatten = none →
        reception.deliveries = handedOn (frames pieces.flatten) problems) := by
  intro pieces problems reception
  have deliveries : reception.deliveries = handedOn (frames (timely [] pieces)) problems :=
    deliveries_receiveAll size isEnding buffer arrivals
  refine ⟨deliveries, ?_, ?_⟩
  · have lossy := frames_timely_ne_iff (refused?_of_none rfl : refused? [] = none) pieces
    rw [List.nil_append] at lossy
    rw [deliveries, handedOn_inj, ← lossy, not_not]
  · intro sound
    have whole : timely [] pieces = pieces.flatten := timely_of_sound sound
    rw [deliveries, whole]

theorem receive_data {size : Nat} (positive : 0 < size) {chunks : List Bytes} (more : chunks ≠ [])
    (given : ∀ chunk ∈ chunks, chunk ≠ []) :
    ∃ (bytes : Bytes) (left : List Bytes),
      receive size (chunks.map .data) = (.chunk bytes, left.map .data) ∧
      bytes ++ left.flatten = chunks.flatten ∧ bytes ≠ [] ∧ ∀ chunk ∈ left, chunk ≠ [] := by
  obtain ⟨chunk, chunks, rfl⟩ := List.exists_cons_of_ne_nil more
  obtain ⟨first, others⟩ := List.forall_mem_cons.mp given
  have nonempty : chunk.isEmpty = false := by simpa using first
  by_cases small : chunk.length ≤ size
  · refine ⟨chunk, chunks, ?_, List.flatten_cons.symm, first, others⟩
    simp only [List.map_cons, receive, nonempty, if_neg positive.ne', if_pos small]
    rfl
  · have cut : chunk.take size ≠ [] := by
      rw [← List.length_pos_iff, List.length_take]
      omega
    have rest : chunk.drop size ≠ [] := by
      rw [← List.length_pos_iff, List.length_drop]
      omega
    refine ⟨chunk.take size, chunk.drop size :: chunks, ?_, ?_, cut,
      List.forall_mem_cons.mpr ⟨rest, others⟩⟩
    · simp only [List.map_cons, receive, nonempty, if_neg positive.ne', if_neg small]
      rfl
    · rw [List.flatten_cons, List.flatten_cons, ← List.append_assoc, List.take_append_drop]

theorem received_data {size : Nat} (positive : 0 < size) (chunks : List Bytes)
    (some_given : ∀ chunk ∈ chunks, chunk ≠ []) :
    (received size (chunks.map .data)).1.flatten = chunks.flatten ∧
      (received size (chunks.map .data)).2 = none := by
  induction length : chunks.flatten.length using Nat.strongRecOn generalizing chunks with
  | _ n ih =>
    by_cases more : chunks = []
    · rw [more, List.map_nil, received_of_ended rfl]
      exact ⟨rfl, rfl⟩
    · obtain ⟨bytes, left, found, split, some_bytes, others⟩ :=
        receive_data positive more some_given
      have positive := List.length_pos_iff.mpr some_bytes
      rw [← split, List.length_append] at length
      obtain ⟨flat, sound⟩ := ih left.flatten.length (by omega) left others rfl
      rw [received_of_chunk found, List.flatten_cons, flat, split]
      exact ⟨rfl, sound⟩

theorem frames_timely_of_two_cuts {payload head : Bytes} {bad : BadLength}
    (legal : payload.length ≤ maxLength) (error : tryRead head = .error bad) :
    frames (timely [] [[], write payload ++ head]) = [] ∧
      frames (timely [] [[], write payload, head]) = [payload] := by
  have empty : refused? [] = none := refused?_of_none rfl
  have frame : refused? (write payload) = none := by
    rw [← List.append_nil (write payload), refused?_write legal, empty]
  have late : refused? (write payload ++ head) = some bad := by
    rw [refused?_write legal, refused?_of_error error]
  have waiting : Stuck [] := stuck_of_none rfl
  constructor
  · rw [frames_timely_cons empty, frames_of_stuck waiting, List.nil_append,
      remnant_of_stuck waiting, timely_of_refused late, frames_of_stuck waiting]
  · rw [frames_timely_cons empty, frames_of_stuck waiting, List.nil_append,
      remnant_of_stuck waiting, timely, List.nil_append, frame, if_neg (by simp), timely, late,
      if_pos Option.isSome_some, ← List.append_nil (write payload), frames_write legal,
      frames_of_stuck waiting]

theorem deliveries_of_two_cuts :
    (receiveAll 4096 false [] [.data [0, 0, 0, 1, 57, 1, 0, 0, 0]]).deliveries =
        handedOn [] [.ofNotice .badLength (": " ++ (BadLength.mk 0x1000000).message)] ∧
      (receiveAll 4096 false [] [.data [0, 0, 0, 1, 57], .data [1, 0, 0, 0]]).deliveries =
        handedOn [[57]] [.ofNotice .badLength (": " ++ (BadLength.mk 0x1000000).message)] := by
  have error : tryRead [1, 0, 0, 0] = .error ⟨0x1000000⟩ := by decide
  have legal : ([57] : Bytes).length ≤ maxLength := by decide
  obtain ⟨lost, kept⟩ := frames_timely_of_two_cuts legal error
  have one : received 4096 [.data [0, 0, 0, 1, 57, 1, 0, 0, 0]] =
      ([[0, 0, 0, 1, 57, 1, 0, 0, 0]], none) := by
    rw [received_of_chunk rfl, received_of_ended rfl]
  have two : received 4096 [.data [0, 0, 0, 1, 57], .data [1, 0, 0, 0]] =
      ([[0, 0, 0, 1, 57], [1, 0, 0, 0]], none) := by
    rw [received_of_chunk rfl, received_of_chunk rfl, received_of_ended rfl]
  have late : refused? (write [57] ++ [1, 0, 0, 0]) = some ⟨0x1000000⟩ := by
    rw [refused?_write legal, refused?_of_error error]
  constructor
  · rw [deliveries_receiveAll, one]
    show handedOn (frames (timely [] [[], write [57] ++ [1, 0, 0, 0]]))
      (obstacle false none (write [57] ++ [1, 0, 0, 0])) = _
    unfold obstacle
    rw [lost, late]
  · rw [deliveries_receiveAll, two]
    show handedOn (frames (timely [] [[], write [57], [1, 0, 0, 0]]))
      (obstacle false none (write [57] ++ [1, 0, 0, 0])) = _
    unfold obstacle
    rw [kept, late]

end TradeWire
