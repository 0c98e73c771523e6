import TradeWire.Proofs.Wire.Reading
import TradeWire.Wire.Move

/-!
# Moves of a cursor go forward

Whatever is read, a cursor passes over some of the fields in front of it and never comes back to
them (`exists_past`), also where the reading fails. So after any moves it stands at a place of the
message with all fields behind this place still to be read (`StandsIn`), and what the moves have
taken are the fields in front of it, in order and each once. Main statement:
`fields_taken_in_order`, which also says what a single move comes to at that place.
-/

namespace TradeWire

namespace Cursor

/-! ## Places in a message -/

def past (c : Cursor) (count : Nat) : Cursor := ⟨c.position + count, c.rest.drop count⟩

theorem past_past (c : Cursor) (first second : Nat) :
    (c.past first).past second = c.past (first + second) := by
  simp only [past, List.drop_drop, Nat.add_assoc]

theorem remaining_past (c : Cursor) (count : Nat) :
    (c.past count).remaining = c.remaining - count := List.length_drop

theorem size_past {c : Cursor} {count : Nat} (few : count ≤ c.remaining) :
    (c.past count).size = c.size := by
  rw [size, size, remaining_past, past, Nat.add_assoc, Nat.add_sub_of_le few]

theorem remaining_pos {c : Cursor} {token : String} {rest : List String}
    (next : c.rest = token :: rest) : 1 ≤ c.remaining := by
  rw [remaining, next]
  exact Nat.succ_pos _

theorem past_one {c : Cursor} {token : String} {rest : List String}
    (next : c.rest = token :: rest) : c.past 1 = ⟨c.position + 1, rest⟩ := by
  rw [past, next, List.drop_one, List.tail_cons]

/-- Stands at a place of a message, and the fields behind it are still to be read. -/
structure StandsIn (c : Cursor) (fields : List String) : Prop where
  inside : c.position ≤ fields.length
  rest : c.rest = fields.drop c.position

variable {c : Cursor} {fields : List String}

theorem standsIn_ofFields (fields : List String) : (ofFields fields).StandsIn fields :=
  ⟨Nat.zero_le _, rfl⟩

theorem StandsIn.size (stands : c.StandsIn fields) : c.size = fields.length := by
  rw [Cursor.size, remaining, stands.rest, List.length_drop]
  exact Nat.add_sub_of_le stands.inside

theorem StandsIn.past (stands : c.StandsIn fields) {count : Nat} (few : count ≤ c.remaining) :
    (c.past count).StandsIn fields := by
  have size := stands.size
  refine ⟨?_, ?_⟩
  · rw [Cursor.past, ← size]
    exact Nat.add_le_add_left few _
  · rw [Cursor.past, stands.rest, List.drop_drop]

theorem StandsIn.rest_eq_nil_iff (stands : c.StandsIn fields) :
    c.rest = [] ↔ c.position = fields.length := by
  rw [← List.length_eq_zero_iff, ← stands.size, Cursor.size, remaining]
  omega

theorem StandsIn.rest_eq_cons (stands : c.StandsIn fields) {token : String}
    (found : fields[c.position]? = some token) :
    c.rest = token :: fields.drop (c.position + 1) := by
  obtain ⟨within, rfl⟩ := List.getElem?_eq_some_iff.mp found
  rw [stands.rest]
  exact List.drop_eq_getElem_cons within

end Cursor

/-! ## Readings -/

namespace Reading

variable {α β : Type}

/-- A reading leaves the cursor some fields further on, whether it comes to a value or not. -/
theorem exists_past (r : Reading α) (c : Cursor) :
    ∃ count ≤ c.remaining, (r.start c).2 = c.past count := by
  induction r generalizing c with
  | done value => exact ⟨0, Nat.zero_le _, rfl⟩
  | unreadable error => exact ⟨0, Nat.zero_le _, rfl⟩
  | unknownCondition kind => exact ⟨0, Nat.zero_le _, rfl⟩
  | take next ih =>
    rw [start]
    cases fields : c.rest with
    | nil => exact ⟨0, Nat.zero_le _, rfl⟩
    | cons token rest =>
      -- one field is taken here, and `count` more by what follows
      have one := Cursor.remaining_pos fields
      obtain ⟨count, few, left⟩ := ih c.position token (c.past 1)
      rw [Cursor.remaining_past] at few
      rw [Cursor.past_past, Cursor.past_one fields] at left
      exact ⟨1 + count, by omega, left⟩

/-- What a field is converted to, or else the error that names it and its place. -/
def conversion (reason : DecodeError.Reason) (convert : String → Option α) (position : Nat)
    (token : String) : Except Fault α :=
  match convert token with
  | some value => .ok value
  | none => .error (.field ⟨some token, position, reason⟩)

theorem converted_map (reason : DecodeError.Reason) (convert : String → Option α) (f : α → β) :
    (converted reason convert >>= fun value => pure (f value)) =
      converted reason fun token => (convert token).map f := by
  rw [bind_eq, converted, bind]
  congr 1
  funext position token
  dsimp only
  cases convert token <;> rfl

theorem next_eq_converted : next = converted .unparsable some := rfl

theorem start_converted_of_nil {reason : DecodeError.Reason} {convert : String → Option α}
    {c : Cursor} (nothing : c.rest = []) :
    (converted reason convert).start c = (.error (.field ⟨none, c.position, .truncated⟩), c) := by
  rw [converted, start, nothing]

theorem start_converted_of_cons {reason : DecodeError.Reason} {convert : String → Option α}
    {c : Cursor} {token : String} {rest : List String} (next : c.rest = token :: rest) :
    (converted reason convert).start c =
      (conversion reason convert c.position token, c.past 1) := by
  rw [converted, start, conversion, Cursor.past_one next, next]
  simp only
  cases convert token <;> rfl

theorem start_times_next (count : Nat) (c : Cursor) :
    (next.times count).start c =
      if count ≤ c.remaining then (.ok (c.rest.take count), c.past count)
      else (.error (.field ⟨none, c.size, .truncated⟩), c.past c.remaining) := by
  induction count generalizing c with
  | zero => rfl
  | succ count ih =>
    rw [times, start_bind]
    cases fields : c.rest with
    | nil =>
      have none_left : c.remaining = 0 := by rw [Cursor.remaining, fields, List.length_nil]
      rw [next_eq_converted, start_converted_of_nil fields, if_neg (by omega), Cursor.size,
        none_left]
      rfl
    | cons token rest =>
      have one := Cursor.remaining_pos fields
      have first : next.start c = (.ok token, c.past 1) := by
        rw [next, start, fields, Cursor.past_one fields]
        rfl
      rw [first]
      simp only [start_bind, ih, Cursor.remaining_past, Cursor.past_past, Cursor.size_past one]
      by_cases few : count + 1 ≤ c.remaining
      · have behind : (c.past 1).rest = rest := by rw [Cursor.past_one fields]
        rw [if_pos few, if_pos (by omega), behind, Nat.add_comm 1]
        rfl
      · rw [if_neg few, if_neg (by omega), Nat.add_sub_of_le one]

end Reading

/-! ## Single fields -/

namespace FieldType

def reason : FieldType → DecodeError.Reason
  | .raw | .text => .unparsable
  | .int | .long | .doubleOrInt false => .expectedInt
  | .double | .doubleOrInt true => .expectedFloat
  | .flag => .expectedBoolean

def value? : FieldType → String → Option Field
  | .raw, token | .text, token => some (.text token)
  | .int, token | .doubleOrInt false, token => (intOf? token).map .int
  | .long, token =>
    (if token = "" then some unsetLong else (Text.readInt token).toOption).map .int
  | .double, token | .doubleOrInt true, token =>
    (if token = "" then some unsetDouble else Text.readDouble? token).map .real
  | .flag, token =>
    (if token = "" then some false else (Text.readInt token).toOption.map (· != 0)).map .flag

/-- Whatever a field is read as, it is taken first and converted then. -/
theorem reading_eq (type : FieldType) :
    type.reading = Reading.converted type.reason type.value? := by
  cases type with
  | raw => rfl
  | text => rfl
  | int => exact Reading.converted_map _ _ Field.int
  | long => exact Reading.converted_map _ _ Field.int
  | double => exact Reading.converted_map _ _ Field.real
  | flag => exact Reading.converted_map _ _ Field.flag
  | doubleOrInt fractional =>
    cases fractional
    · exact (Reading.bind_assoc _ _ _).trans (Reading.converted_map _ _ Field.int)
    · exact (Reading.bind_assoc _ _ _).trans (Reading.converted_map _ _ Field.real)

section

variable (type : FieldType) {fields : List String} {c : Cursor} (stands : c.StandsIn fields)
include stands

theorem start_at_end (ended : c.position = fields.length) :
    type.reading.start c = (.error (.field ⟨none, c.position, .truncated⟩), c) := by
  rw [reading_eq, Reading.start_converted_of_nil (stands.rest_eq_nil_iff.mpr ended)]

theorem start_at_field {token : String} (found : fields[c.position]? = some token) :
    type.reading.start c =
      (Reading.conversion type.reason type.value? c.position token, c.past 1) := by
  rw [reading_eq, Reading.start_converted_of_cons (stands.rest_eq_cons found)]

end

/-- A single field is read at the place of a cursor: it is taken, whether it can be read or not, and
the error names it and its place; at the end of the message nothing is taken. -/
structure ReadsAt (type : FieldType) (fields : List String) (c : Cursor) : Prop where
  field : ∀ token, fields[c.position]? = some token →
    (c.moved (.read type)).position = c.position + 1 ∧
      (type.reading.start c).1 = Reading.conversion type.reason type.value? c.position token
  truncated_iff :
    (type.reading.start c).1 = .error (.field ⟨none, c.position, .truncated⟩) ↔
      c.position = fields.length
  stays : c.position = fields.length → c.moved (.read type) = c

theorem readsAt (type : FieldType) {fields : List String} {c : Cursor}
    (stands : c.StandsIn fields) : type.ReadsAt fields c := by
  refine ⟨fun token found => ?_, ⟨fun truncated => ?_, fun ended => ?_⟩, fun ended => ?_⟩
  · have read := type.start_at_field stands found
    exact ⟨congrArg (·.2.position) read, congrArg Prod.fst read⟩
  · -- in front of the end there is a field, and every error about a field names its token
    by_contra before
    have inside : c.position < fields.length := lt_of_le_of_ne stands.inside before
    rw [type.start_at_field stands (List.getElem?_eq_getElem inside)] at truncated
    revert truncated
    unfold Reading.conversion
    cases type.value? fields[c.position] <;> simp
  · rw [type.start_at_end stands ended]
  · exact congrArg Prod.snd (type.start_at_end stands ended)

end FieldType

namespace Cursor

/-- Fields are skipped at the place of a cursor: as many as are asked for, or else all that are
left, and then the message is truncated at its end. -/
def SkipsAt (count : Int) (fields : List String) (c : Cursor) : Prop :=
  let (result, left) := (Move.skip count).reading.start c
  if c.position + max count 0 ≤ (fields.length : Int) then
    result = .ok .empty ∧ (left.position : Int) = c.position + max count 0
  else
    result = .error (.field ⟨none, fields.length, .truncated⟩) ∧ left.position = fields.length

theorem start_skip (count : Int) (c : Cursor) :
    (Move.skip count).reading.start c =
      if count.toNat ≤ c.remaining then (.ok .empty, c.past count.toNat)
      else (.error (.field ⟨none, c.size, .truncated⟩), c.past c.remaining) := by
  rw [Move.reading, Reading.start_bind, Reading.skip, Reading.start_bind, Reading.counted,
    Reading.start_times_next]
  split_ifs <;> rfl

theorem skipsAt (count : Int) {fields : List String} {c : Cursor} (stands : c.StandsIn fields) :
    c.SkipsAt count fields := by
  have size : c.position + c.remaining = fields.length := stands.size
  unfold SkipsAt
  rw [start_skip, stands.size]
  by_cases enough : count.toNat ≤ c.remaining
  · rw [if_pos enough]
    dsimp only
    rw [if_pos (by omega)]
    refine ⟨rfl, ?_⟩
    rw [past, Nat.cast_add]
    omega
  · rw [if_neg enough]
    dsimp only
    rw [if_neg (by omega)]
    exact ⟨rfl, size⟩

/-! ## Moves one after another -/

variable {c : Cursor} {fields : List String}

theorem StandsIn.moved (stands : c.StandsIn fields) (move : Move) :
    (c.moved move).StandsIn fields := by
  obtain ⟨count, few, left⟩ := move.reading.exists_past c
  rw [Cursor.moved, left]
  exact stands.past few

theorem StandsIn.go (stands : c.StandsIn fields) (moves : List Move) :
    (c.go moves).StandsIn fields := by
  induction moves generalizing c with
  | nil => exact stands
  | cons move moves ih => exact ih (stands.moved move)

theorem position_le_moved (c : Cursor) (move : Move) : c.position ≤ (c.moved move).position := by
  obtain ⟨count, -, left⟩ := move.reading.exists_past c
  rw [moved, left]
  exact Nat.le_add_right _ _

theorem position_le_go (c : Cursor) (moves : List Move) : c.position ≤ (c.go moves).position := by
  induction moves generalizing c with
  | nil => exact le_rfl
  | cons move moves ih => exact (c.position_le_moved move).trans (ih (c.moved move))

/-- The fields that each of some moves takes. -/
def taken (c : Cursor) : List Move → List (List String)
  | [] => []
  | move :: moves =>
    c.rest.take ((c.moved move).position - c.position) :: (c.moved move).taken moves

theorem flatten_taken (c : Cursor) (moves : List Move) :
    (c.taken moves).flatten ++ (c.go moves).rest = c.rest := by
  induction moves generalizing c with
  | nil => rfl
  | cons move moves ih =>
    obtain ⟨count, -, left⟩ := move.reading.exists_past c
    have here : c.moved move = c.past count := left
    have one : (c.moved move).position - c.position = count := by
      rw [here]
      exact Nat.add_sub_cancel_left ..
    rw [taken, List.flatten_cons, List.append_assoc, one]
    refine (congrArg _ (ih (c.moved move))).trans ?_
    rw [here]
    exact List.take_append_drop count c.rest

end Cursor

/-- **Fields are taken in order, each at most once.** After any moves, whether they had a value or
failed, the cursor stands at a place of the message, from which it never goes back; the fields in
front of this place are those that the moves have taken, and the number of fields that are left is
what the place leaves of the message. There, a single field is read or the message has ended
(`ReadsAt`), and fields are skipped as far as there are any (`SkipsAt`). -/
theorem fields_taken_in_order (fields : List String) (moves : List Move) :
    let c := (Cursor.ofFields fields).go moves
    c.StandsIn fields ∧ c.size = fields.length ∧
      (c.remaining : Int) = fields.length - c.position ∧
      ((Cursor.ofFields fields).taken moves).flatten = fields.take c.position ∧
      (∀ more, c.position ≤ (c.go more).position) ∧
      (∀ type : FieldType, type.ReadsAt fields c) ∧ ∀ count, c.SkipsAt count fields := by
  intro c
  have stands : c.StandsIn fields := (Cursor.standsIn_ofFields fields).go moves
  have size : c.position + c.remaining = fields.length := stands.size
  refine ⟨stands, size, by omega, ?_, c.position_le_go, fun type => type.readsAt stands,
    fun count => Cursor.skipsAt count stands⟩
  have whole := Cursor.flatten_taken (Cursor.ofFields fields) moves
  rw [stands.rest] at whole
  exact List.append_cancel_right (whole.trans (List.take_append_drop c.position fields).symm)

/-- A token that is no number has been taken, and nothing is left to be skipped. -/
example : (Cursor.ofFields ["1", "high"]).taken [.read .int, .read .double, .skip 2] =
    [["1"], ["high"], []] := by decide

end TradeWire
