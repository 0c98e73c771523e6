import TradeWire.Proofs.Message.Interpretation

/-!
# Interpretation is local

What a message tells depends only on the fields that are read (`interpretFields_local`). Fields
behind them change nothing, and a message that is cut off before them tells a part of it, from the
front, and is then reported as truncated at the cut. A reading takes one field after another, so
both follow by induction on it (`exists_reads`); rows are one such reading each
(`exists_tells_tell`).
-/

namespace TradeWire

/-- The fault of a message that ends where another field is to be read. -/
def missing (position : Nat) : Fault := .field ⟨none, position, .truncated⟩

/-! ## Readings -/

namespace Reading

variable {α : Type}

/-- Reads some fields from a position on and comes to a value, whatever follows them; if they are
cut off, it misses the first field behind the cut. -/
structure Reads (r : Reading α) (position : Nat) (fields : List String) (value : α) : Prop where
  whole : ∀ rest, r.start ⟨position, fields ++ rest⟩ = (.ok value, ⟨position + fields.length, rest⟩)
  cut : ∀ n < fields.length,
    r.start ⟨position, fields.take n⟩ = (.error (missing (position + n)), ⟨position + n, []⟩)

theorem exists_reads {r : Reading α} {position : Nat} {fields : List String} {value : α}
    (ended : (r.start ⟨position, fields⟩).1 = .ok value) :
    ∃ taken rest, fields = taken ++ rest ∧ r.Reads position taken value := by
  induction r generalizing position fields with
  | done result =>
    cases ended
    exact ⟨[], fields, rfl, fun _ => rfl, nofun⟩
  | unreadable error => cases ended
  | unknownCondition kind => cases ended
  | take next ih =>
    cases fields with
    | nil => cases ended
    | cons token fields =>
      obtain ⟨taken, rest, rfl, whole, cut⟩ := ih position token ended
      refine ⟨token :: taken, rest, rfl, fun rest => ?_, fun n short => ?_⟩
      · rw [List.length_cons, Nat.add_comm taken.length, ← Nat.add_assoc]
        exact whole rest
      · cases n with
        | zero => rfl
        | succ n =>
          rw [Nat.add_comm n, ← Nat.add_assoc, Nat.add_comm 1 n]
          exact cut n (Nat.lt_of_succ_lt_succ short)

end Reading

/-! ## Handlers -/

/-- What is told of the fields from a cursor on, with the fault that ends it. -/
abbrev Telling := Cursor → (List Event × Option Fault) × Cursor

namespace Telling

/-- Reads some fields from a position on and tells some events, whatever follows the fields; if they
are cut off, it tells the first few of these events and misses the first field behind the cut. -/
structure Reads (run : Telling) (position : Nat) (fields : List String) (events : List Event) :
    Prop where
  whole : ∀ rest,
    run ⟨position, fields ++ rest⟩ = ((events, none), ⟨position + fields.length, rest⟩)
  cut : ∀ n < fields.length, ∃ told, told <+: events ∧
    run ⟨position, fields.take n⟩ = ((told, some (missing (position + n))), ⟨position + n, []⟩)

variable {α : Type} {r : Reading α} {run later : Telling} {position : Nat} {value : α}

/-- A reading comes first, which tells nothing if it fails. -/
def StartsWith (run : Telling) (r : Reading α) : Prop :=
  ∀ c fault left, r.start c = (.error fault, left) → run c = (([], some fault), left)

theorem reads_of_reads {fields : List String} {events : List Event} (starts : run.StartsWith r)
    (ends : ∀ c left, r.start c = (.ok value, left) → run c = ((events, none), left))
    (reads : r.Reads position fields value) : run.Reads position fields events :=
  ⟨fun rest => ends _ _ (reads.whole rest),
    fun n short => ⟨[], List.nil_prefix, starts _ _ _ (reads.cut n short)⟩⟩

/-- After the first reading some events are told, and then what is told later. -/
theorem reads_append (told : List Event) {first second : List String} {events : List Event}
    (starts : run.StartsWith r)
    (goes : ∀ c left, r.start c = (.ok value, left) →
      run c = ((told ++ (later left).1.1, (later left).1.2), (later left).2))
    (reads : r.Reads position first value)
    (tells : later.Reads (position + first.length) second events) :
    run.Reads position (first ++ second) (told ++ events) := by
  constructor
  · intro rest
    rw [List.append_assoc, goes _ _ (reads.whole _), tells.whole, List.length_append,
      Nat.add_assoc]
  · intro n short
    by_cases early : n < first.length
    · refine ⟨[], List.nil_prefix, ?_⟩
      rw [List.take_append_of_le_length early.le]
      exact starts _ _ _ (reads.cut n early)
    · -- the cut is behind what is read first
      obtain ⟨k, rfl⟩ := Nat.exists_eq_add_of_le (Nat.not_lt.mp early)
      rw [List.length_append] at short
      obtain ⟨heard, front, missed⟩ := tells.cut k (Nat.lt_of_add_lt_add_left short)
      refine ⟨told ++ heard, (List.prefix_append_right_inj told).mpr front, ?_⟩
      rw [List.take_length_add_append, goes _ _ (reads.whole _), missed, Nat.add_assoc]

end Telling

theorem exists_tells_tell {rows : Rows} {count position : Nat} {fields : List String}
    {events : List Event} (ended : (rows.tell count ⟨position, fields⟩).1 = (events, none)) :
    ∃ taken rest, fields = taken ++ rest ∧
      Telling.Reads (rows.tell count) position taken events := by
  induction count generalizing position fields events with
  | zero =>
    cases ended
    exact ⟨[], fields, rfl, fun _ => rfl, nofun⟩
  | succ count ih =>
    rw [Rows.tell] at ended
    rcases first : rows.row.start ⟨position, fields⟩ with ⟨fault | event, left⟩
    · rw [first] at ended
      cases ended
    · obtain ⟨row, rest, rfl, reads⟩ := Reading.exists_reads (congrArg Prod.fst first)
      rw [reads.whole] at ended
      obtain ⟨rfl, none⟩ := Prod.ext_iff.mp ended
      obtain ⟨taken, rest, rfl, tells⟩ := ih (Prod.ext rfl none)
      refine ⟨row ++ taken, rest, (List.append_assoc ..).symm, ?_⟩
      refine Telling.reads_append [event] ?_ ?_ reads tells
      · intro c fault left failed
        rw [Rows.tell, failed]
      · intro c left ended
        rw [Rows.tell, ended]
        rfl

namespace Handler

/-- A message without a fault is read field by field, and its fields decide what is told. -/
theorem exists_reads_run {handler : Handler} {position : Nat} {fields : List String}
    {events : List Event} (ended : (handler.run ⟨position, fields⟩).1 = (events, none)) :
    ∃ taken rest, fields = taken ++ rest ∧ Telling.Reads handler.run position taken events := by
  cases handler with
  | whole read =>
    rw [run] at ended
    rcases first : read.start ⟨position, fields⟩ with ⟨fault | told, left⟩
    · rw [first] at ended
      cases ended
    · rw [first] at ended
      cases ended
      obtain ⟨taken, rest, rfl, reads⟩ := Reading.exists_reads (congrArg Prod.fst first)
      refine ⟨taken, rest, rfl, Telling.reads_of_reads ?_ ?_ reads⟩
      · intro c fault left failed
        rw [run, failed]
      · intro c left ended
        rw [run, ended]
  | measured read =>
    rw [run] at ended
    rcases first : read.run.start ⟨position, fields⟩ with ⟨fault | ⟨error | told⟩, left⟩
    · rw [Measuring.start, first] at ended
      cases ended
    · rw [Measuring.start, first] at ended
      cases ended
    · rw [Measuring.start, first] at ended
      cases ended
      obtain ⟨taken, rest, rfl, reads⟩ := Reading.exists_reads (congrArg Prod.fst first)
      refine ⟨taken, rest, rfl, Telling.reads_of_reads ?_ ?_ reads⟩
      · intro c fault left failed
        rw [run, Measuring.start, failed]
      · intro c left ended
        rw [run, Measuring.start, ended]
  | rows header =>
    rw [run] at ended
    rcases first : header.start ⟨position, fields⟩ with ⟨fault | found, left⟩
    · rw [first] at ended
      cases ended
    · obtain ⟨lead, rest, rfl, reads⟩ := Reading.exists_reads (congrArg Prod.fst first)
      rw [reads.whole] at ended
      obtain ⟨taken, rest, rfl, tells⟩ := exists_tells_tell ended
      refine ⟨lead ++ taken, rest, (List.append_assoc ..).symm, ?_⟩
      refine Telling.reads_append [] ?_ ?_ reads tells
      · intro c fault left failed
        rw [run, failed]
      · intro c left ended
        rw [run, ended]
        rfl

end Handler

/-! ## Messages -/

theorem message_missing (position : Nat) :
    Interpretation.problem (missing position).message =
      .error (-1) 508 ("Bad message. message truncated at field " ++ toString position) := by
  unfold Interpretation.problem missing Fault.message DecodeError.message Notice.text
  simp only [DecodeError.Reason.text, Notice.badMessage, noId, String.append_assoc]
  rfl

theorem interpretFields_unknown {version number : Int} {token : String}
    (found : intOf? token = some number) (unknown : Incoming.ofNumber? number = none)
    (fields : List String) :
    interpretFields version (.ofFields (token :: fields)) = { fieldsRead := 1 } := by
  rw [interpretFields, Reading.start_int rfl, found]
  simp only [unknown]
  rfl

section

variable {version number : Int} {kind : Incoming} {token : String}
  (found : intOf? token = some number) (known : Incoming.ofNumber? number = some kind)
include found known

theorem interpretFields_cons (fields : List String) :
    interpretFields version (.ofFields (token :: fields)) =
      .ofRun ((kind.handler version).run ⟨1, fields⟩) := by
  rw [interpretFields, Reading.start_int rfl, found]
  simp only [known]
  rfl

variable {taken : List String} {events : List Event}
  (reads : Telling.Reads (kind.handler version).run 1 taken events)
include reads

theorem interpretFields_whole (rest : List String) :
    interpretFields version (.ofFields (token :: (taken ++ rest))) =
      ⟨events, none, 1 + taken.length⟩ := by
  rw [interpretFields_cons found known, reads.whole]
  rfl

theorem interpretFields_cut {n : Nat} (short : n < taken.length) (rest : List String) :
    ∃ told, told <+: events ∧
      interpretFields version (.ofFields (token :: (taken ++ rest).take n)) =
        ⟨told ++ [.error (-1) 508
          ("Bad message. message truncated at field " ++ toString (n + 1))], none, n + 1⟩ := by
  obtain ⟨told, front, missed⟩ := reads.cut n short
  refine ⟨told, front, ?_⟩
  rw [List.take_append_of_le_length short.le, interpretFields_cons found known, missed,
    Nat.add_comm 1, ← message_missing]
  rfl

end

/-- **Only the fields that are read matter.** Where a message is read without a fault, more fields
behind it make no difference. Cut off before the last field that is read, it tells the first few of
the same events, and then that it is truncated at the cut. -/
theorem interpretFields_local (version : Int) {fields : List String} (given : fields ≠ [])
    (readable : (heardFields version fields).2 = none) :
    let told := interpretFields version (.ofFields fields)
    (∀ more, interpretFields version (.ofFields (fields ++ more)) = told) ∧
      ∀ n, 1 ≤ n → n < told.fieldsRead → ∃ events, events <+: told.events ∧
        interpretFields version (.ofFields (fields.take n)) =
          ⟨events ++ [.error (-1) 508 ("Bad message. message truncated at field " ++ toString n)],
            none, n⟩ := by
  intro told
  obtain ⟨token, fields, rfl⟩ := List.exists_cons_of_ne_nil given
  rw [heardFields] at readable
  cases found : intOf? token with
  | none =>
    rw [found] at readable
    cases readable
  | some number =>
    simp only [found] at readable
    cases known : Incoming.ofNumber? number with
    | none =>
      have ignored := @interpretFields_unknown version number token found known
      refine ⟨fun more => ?_, fun n least most => ?_⟩
      · exact (ignored _).trans (ignored _).symm
      · -- only the number of the message is read
        rw [show told.fieldsRead = 1 from congrArg _ (ignored fields)] at most
        omega
    | some kind =>
      obtain ⟨heard, ended⟩ :
          ∃ events, ((kind.handler version).run ⟨1, fields⟩).1 = (events, none) := by
        simp only [known] at readable
        exact ⟨_, Prod.ext rfl readable⟩
      obtain ⟨taken, rest, rfl, reads⟩ := Handler.exists_reads_run ended
      have told_eq : told = ⟨heard, none, 1 + taken.length⟩ :=
        interpretFields_whole found known reads rest
      rw [told_eq]
      refine ⟨fun more => ?_, fun n least most => ?_⟩
      · rw [List.cons_append, List.append_assoc]
        exact interpretFields_whole found known reads (rest ++ more)
      · obtain ⟨n, rfl⟩ := Nat.exists_eq_add_of_le' least
        have most : n + 1 < 1 + taken.length := most
        exact interpretFields_cut found known reads (by omega) rest

/-- Two historical bars, as a server sends them whose messages have no version of their own. -/
def twoBars : List String := [
  "17", "4", "20240102", "20240103", "2",
  "20240102", "1.5", "2", "1.25", "1.75", "100", "1.6", "7",
  "20240103", "1.75", "2.5", "1.5", "", "250", "1.9", "11"]

def firstBar : Event := .historicalBar 4 {
  date := some "20240102"
  opening := .real (.ofDecimal false 15 (-1))
  high := .real (.ofDecimal false 2 0)
  low := .real (.ofDecimal false 125 (-2))
  closing := .real (.ofDecimal false 175 (-2))
  volume := 100
  barCount := 7
  average := .real (.ofDecimal false 16 (-1)) }

/-- What the second of the two bars is told as; it has no price at its close. -/
def secondBar : Event := .historicalBar 4 {
  date := some "20240103"
  opening := .real (.ofDecimal false 175 (-2))
  high := .real (.ofDecimal false 25 (-1))
  low := .real (.ofDecimal false 15 (-1))
  closing := .real unsetDouble
  volume := 250
  barCount := 11
  average := .real (.ofDecimal false 19 (-1)) }

/-- Cut in its second bar, the message tells the first one and is truncated there. -/
theorem interpretFields_local_twoBars :
    let told : List Event :=
      [firstBar, secondBar, .historicalBarsEnd 4 "20240102" "20240103"]
    twoBars ≠ [] ∧ (heardFields 151 twoBars).2 = none ∧
      interpretFields 151 (.ofFields twoBars) = ⟨told, none, 21⟩ ∧
      interpretFields 151 (.ofFields (twoBars ++ ["more"])) = ⟨told, none, 21⟩ ∧
      [firstBar] <+: told ∧
      interpretFields 151 (.ofFields (twoBars.take 15)) =
        ⟨[firstBar, .error (-1) 508 "Bad message. message truncated at field 15"], none, 15⟩ := by
  intro told
  have given : twoBars ≠ [] := List.cons_ne_nil _ _
  have readable : (heardFields 151 twoBars).2 = none := by decide +kernel
  have whole : interpretFields 151 (.ofFields twoBars) = ⟨told, none, 21⟩ := rfl
  obtain ⟨longer, shorter⟩ := interpretFields_local 151 given readable
  obtain ⟨events, front, cut⟩ := shorter 15 (by decide) (by rw [whole]; decide)
  have first : events = [firstBar] := by
    have same := congrArg Interpretation.events cut
    exact (List.append_inj_left' same rfl).symm
  rw [whole, first] at front
  rw [first] at cut
  exact ⟨given, readable, whole, (longer _).trans whole, front, cut⟩

end TradeWire
