import TradeWire.Proofs.Session.Handover

/-!
# The answer to the greeting

What arrives on a connection decides how its handshake ends. The answer is the first frame of the
stream with just two fields (`answerIn`), wherever the stream is cut and however it ends. Main
statement: a handshake settles a version and a time just if the stream has an answer that says so
(`await_eq_ok_iff`).
-/

open TradeWire.Frame

namespace TradeWire

namespace Handshake

/-- The first fields in a stream that are just two. -/
def answerIn (stream : Bytes) : Option (List String) :=
  ((frames stream).map splitFields).find? (·.length = 2)

/-- The server answers in a stream with a version and a time. -/
def Answers (stream : Bytes) (number : Int) (time : String) : Prop :=
  ∃ version, answerIn stream = some [version, time] ∧ Text.readInt version = .ok number

theorem answerIn_of_stuck {stream : Bytes} (stuck : Stuck stream) : answerIn stream = none := by
  rw [answerIn, frames_of_stuck stuck]
  rfl

theorem answerIn_write {payload : Bytes} (legal : payload.length ≤ maxLength) (rest : Bytes) :
    answerIn (write payload ++ rest) =
      if (splitFields payload).length = 2 then some (splitFields payload) else answerIn rest := by
  rw [answerIn, frames_write legal, List.map_cons, List.find?_cons]
  by_cases two : (splitFields payload).length = 2
  · rw [decide_eq_true two, if_pos two]
  · rw [decide_eq_false two, if_neg two]
    rfl

theorem not_answers {stream : Bytes} (stuck : Stuck stream) (number : Int) (time : String) :
    ¬ Answers stream number time := by
  rintro ⟨version, found, -⟩
  rw [answerIn_of_stuck stuck] at found
  cases found

section

variable (size : Nat) {buffer : Bytes} {arrivals left : List Arrival}

theorem await_of_error {bad : BadLength} (found : tryRead buffer = .error bad) :
    await size buffer arrivals = .error bad.message := by
  rw [await]
  split <;> rename_i found' <;> rw [found] at found' <;> cases found'
  rfl

theorem await_of_failed (waiting : tryRead buffer = .ok none) {text : String}
    (more : receive size arrivals = (.failed text, left)) :
    await size buffer arrivals = .error text := by
  rw [await]
  split <;> rename_i found <;> rw [waiting] at found <;> cases found
  split <;> rename_i more' <;> rw [more] at more' <;> cases more'
  rfl

theorem await_of_ended (waiting : tryRead buffer = .ok none)
    (more : receive size arrivals = (.ended, left)) :
    await size buffer arrivals = .error closedEarly := by
  rw [await]
  split <;> rename_i found <;> rw [waiting] at found <;> cases found
  split <;> rename_i more' <;> rw [more] at more' <;> cases more'

end

theorem readAnswer_eq_ok_iff {version time : String} {buffer : Bytes} {left : List Arrival}
    {agreement : Agreement} :
    readAnswer version time buffer left = .ok agreement ↔
      ∃ number, Text.readInt version = .ok number ∧ agreement = ⟨number, time, buffer, left⟩ := by
  unfold readAnswer
  cases Text.readInt version with
  | error error => exact ⟨nofun, nofun⟩
  | ok number =>
    constructor
    · rintro ⟨⟩
      exact ⟨number, rfl, rfl⟩
    · rintro ⟨_, ⟨⟩, rfl⟩
      rfl

theorem answers_write_iff {payload : Bytes} (legal : payload.length ≤ maxLength) (rest : Bytes)
    {version time : String} (fields : splitFields payload = [version, time]) {number : Int}
    {time' : String} :
    Answers (write payload ++ rest) number time' ↔
      Text.readInt version = .ok number ∧ time = time' := by
  have two : [version, time].length = 2 := rfl
  rw [Answers, answerIn_write legal, fields, if_pos two]
  constructor
  · rintro ⟨_, ⟨⟩, numeral⟩
    exact ⟨numeral, rfl⟩
  · rintro ⟨numeral, rfl⟩
    exact ⟨version, rfl, numeral⟩

theorem not_settled_of_error {result : Except String Agreement} {text : String}
    (failed : result = .error text) (number : Int) (time : String) :
    ¬ ∃ rest left, result = .ok ⟨number, time, rest, left⟩ := by
  rintro ⟨rest, left, settled⟩
  rw [failed] at settled
  cases settled

/-- **A handshake settles what the first frame with just two fields says**, if there is one among
all that arrives and its first field is a number; otherwise it fails. -/
theorem await_eq_ok_iff (size : Nat) (buffer : Bytes) (arrivals : List Arrival) (number : Int)
    (time : String) :
    (∃ rest left, await size buffer arrivals = .ok ⟨number, time, rest, left⟩) ↔
      Answers (buffer ++ (received size arrivals).1.flatten) number time := by
  induction buffer, arrivals using await.induct size with
  | case1 buffer arrivals bad found =>
    have stuck := stuck_of_error (tryRead_append_of_error found (received size arrivals).1.flatten)
    exact iff_of_false (not_settled_of_error (await_of_error size found) number time)
      (not_answers stuck number time)
  | case2 buffer arrivals payload rest found version time' fields =>
    obtain ⟨rfl, legal⟩ := eq_write_of_tryRead found
    rw [await_of_frame size found, afterFrame, fields, List.append_assoc,
      answers_write_iff legal _ fields]
    simp only [readAnswer_eq_ok_iff]
    constructor
    · rintro ⟨_, _, _, numeral, ⟨⟩⟩
      exact ⟨numeral, rfl⟩
    · rintro ⟨numeral, rfl⟩
      exact ⟨rest, arrivals, number, numeral, rfl⟩
  | case3 buffer arrivals payload rest found other ih =>
    obtain ⟨rfl, legal⟩ := eq_write_of_tryRead found
    have stray : (splitFields payload).length ≠ 2 := by
      intro two
      obtain ⟨version, time, fields⟩ := List.length_eq_two.mp two
      exact other version time fields
    rw [await_of_frame size found, afterFrame_of_stray size stray, ih, List.append_assoc, Answers,
      Answers, answerIn_write legal, if_neg stray]
  | case4 buffer arrivals waiting text left more =>
    rw [received_of_failed more, List.flatten_nil, List.append_nil]
    exact iff_of_false (not_settled_of_error (await_of_failed size waiting more) number time)
      (not_answers (stuck_of_none waiting) number time)
  | case5 buffer arrivals waiting left more =>
    rw [received_of_ended more, List.flatten_nil, List.append_nil]
    exact iff_of_false (not_settled_of_error (await_of_ended size waiting more) number time)
      (not_answers (stuck_of_none waiting) number time)
  | case6 buffer arrivals waiting bytes left more ih =>
    rw [await_of_chunk size waiting more, received_of_chunk more, List.flatten_cons,
      ← List.append_assoc, ih]

end Handshake

end TradeWire
