import TradeWire.Proofs.Message.Telling

/-!
# Malformed messages

A message that cannot be read is reported once, and nothing else is told of it (`malformed_told`).
Only the two kinds of message that come in rows are told row by row: the rows in front of the one
that cannot be read have been told by then, and their end is not. A row is told as soon as it has
been read, so what was told is what reading as many rows comes to (`breaksOff_of_tell`).
-/

namespace TradeWire

/-! ## Rows -/

namespace Reading

variable {α : Type}

theorem yields_times {sort : α → Prop} {r : Reading α} (h : r.Yields sort) (count : Nat) :
    (r.times count).Yields fun values => ∀ value ∈ values, sort value := by
  induction count with
  | zero => exact yields_pure (List.forall_mem_nil _)
  | succ count ih =>
    intro c values left ended
    rw [times, start_bind] at ended
    rcases first : r.start c with ⟨fault | value, here⟩
    · rw [first] at ended
      cases ended
    · simp only [first, start_bind] at ended
      rcases others : (r.times count).start here with ⟨fault | rest, there⟩
      · rw [others] at ended
        cases ended
      · rw [others] at ended
        cases ended
        exact List.forall_mem_cons.mpr ⟨h c value here first, ih here rest _ others⟩

end Reading

namespace Rows

/-- As many rows as were told can be read one after another from a cursor on, and the next row
cannot be read, although it is announced. -/
structure BreaksOff (rows : Rows) (count : Nat) (c : Cursor) (told : List Event) (fault : Fault) :
    Prop where
  early : told.length < count
  read : ∃ here, (rows.row.times told.length).start c = (.ok told, here) ∧
    (rows.row.start here).1 = .error fault

theorem breaksOff_of_tell {rows : Rows} {count : Nat} {c : Cursor} {told : List Event}
    {fault : Fault} (ended : (rows.tell count c).1 = (told, some fault)) :
    rows.BreaksOff count c told fault := by
  induction count generalizing c told with
  | zero => cases ended
  | succ count ih =>
    rw [tell] at ended
    rcases first : rows.row.start c with ⟨stopped | event, left⟩
    · rw [first] at ended
      cases ended
      exact ⟨Nat.succ_pos count, c, rfl, congrArg Prod.fst first⟩
    · rw [first] at ended
      obtain ⟨rfl, stopped⟩ := Prod.ext_iff.mp ended
      obtain ⟨early, here, read, failed⟩ := ih (Prod.ext rfl stopped)
      refine ⟨Nat.succ_lt_succ early, here, ?_, failed⟩
      rw [List.length_cons, Reading.times, Reading.start_bind, first]
      simp only [Reading.start_bind, read]
      rfl

end Rows

/-! ## Handlers -/

namespace Handler

/-- A message in rows tells nothing if its header cannot be read. Behind the header, it breaks off
at a row that cannot be read. -/
def BreaksOff (header : Reading Rows) (c : Cursor) (told : List Event) (fault : Fault) : Prop :=
  match header.start c with
  | (.error stopped, _) => told = [] ∧ stopped = fault
  | (.ok found, here) => found.BreaksOff found.count.toNat here told fault

variable {c : Cursor} {told : List Event} {fault : Fault}

theorem breaksOff_of_run {header : Reading Rows}
    (ended : ((rows header).run c).1 = (told, some fault)) : BreaksOff header c told fault := by
  rw [run] at ended
  unfold BreaksOff
  rcases first : header.start c with ⟨stopped | found, here⟩
  · rw [first] at ended
    cases ended
    exact ⟨rfl, rfl⟩
  · rw [first] at ended
    exact Rows.breaksOff_of_tell ended

theorem nil_of_run_whole {read : Reading (List Event)}
    (ended : ((whole read).run c).1 = (told, some fault)) : told = [] := by
  rw [run] at ended
  rcases first : read.start c with ⟨stopped | events, left⟩
  · rw [first] at ended
    cases ended
    rfl
  · rw [first] at ended
    cases ended

theorem nil_of_run_measured {read : Measuring (List Event)}
    (ended : ((measured read).run c).1 = (told, some fault)) : told = [] := by
  rw [run] at ended
  rcases first : read.start c with ⟨stopped | events, left⟩
  · rw [first] at ended
    cases ended
    rfl
  · rw [first] at ended
    cases ended

theorem forall_mem_of_breaksOff {header : Reading Rows} {sort : Event → Prop}
    (h : header.Yields fun rows => rows.row.Yields sort)
    (broken : BreaksOff header c told fault) : ∀ event ∈ told, sort event := by
  unfold BreaksOff at broken
  rcases first : header.start c with ⟨stopped | found, here⟩
  · rw [first] at broken
    obtain ⟨rfl, -⟩ := broken
    exact List.forall_mem_nil _
  · rw [first] at broken
    obtain ⟨-, there, read, -⟩ := broken
    exact Reading.yields_times (h c found here first) told.length here told there read

end Handler

/-! ## Kinds of messages -/

namespace Message

open Reading (yields_pure yields_bind)

theorem name_historicalBars (version : Int) :
    (historicalBars version).Yields fun rows =>
      rows.row.Yields fun event => event.name = "historical_data" := by
  unfold historicalBars
  iterate 5 refine yields_bind fun _ => ?_
  exact yields_pure (yields_bind fun _ => yields_pure rfl)

theorem name_scannerRows :
    scannerRows.Yields fun rows => rows.row.Yields fun event => event.name = "scanner_data" := by
  unfold scannerRows
  iterate 3 refine yields_bind fun _ => ?_
  exact yields_pure (yields_bind fun _ => yields_pure rfl)

end Message

/-- Only two kinds of message can have been told in part when they turn out to be malformed. -/
theorem told_of_handler {version : Int} {kind : Incoming} {c : Cursor} {told : List Event}
    {fault : Fault} (ended : ((kind.handler version).run c).1 = (told, some fault)) :
    match kind with
    | .historicalData => Handler.BreaksOff (Message.historicalBars version) c told fault
    | .scannerData => Handler.BreaksOff Message.scannerRows c told fault
    | _ => told = [] := by
  cases kind with
  | historicalData => exact Handler.breaksOff_of_run ended
  | scannerData => exact Handler.breaksOff_of_run ended
  | portfolioValue | positionData | orderStatus | executionData | openOrder | completedOrder =>
    exact Handler.nil_of_run_measured ended
  | _ => exact Handler.nil_of_run_whole ended

/-! ## Payloads -/

/-- The number with which a payload says of what kind it is. -/
def messageNumber? (payload : Bytes) : Option Int := (splitFields payload).head?.bind intOf?

/-- What has been told of a message when it turns out to be malformed. Its number is 17 or 20 if it
comes in rows, and then these begin behind the number. -/
structure ToldBefore (version : Int) (payload : Bytes) (fault : Fault) (told : List Event) :
    Prop where
  bars : messageNumber? payload = some 17 →
    Handler.BreaksOff (Message.historicalBars version) ⟨1, (splitFields payload).tail⟩ told fault ∧
      ∀ event ∈ told, event.name = "historical_data"
  scans : messageNumber? payload = some 20 →
    Handler.BreaksOff Message.scannerRows ⟨1, (splitFields payload).tail⟩ told fault ∧
      ∀ event ∈ told, event.name = "scanner_data"
  others : messageNumber? payload ≠ some 17 → messageNumber? payload ≠ some 20 → told = []

theorem number_of_ofNumber? {number : Int} {kind : Incoming}
    (h : Incoming.ofNumber? number = some kind) : kind.number = number := by
  unfold Incoming.ofNumber? at h
  simpa using List.find?_some h

theorem toldBefore_of_handler {version number : Int} {payload : Bytes} {token : String}
    {fields : List String} {kind : Incoming} {told : List Event} {fault : Fault}
    (split : splitFields payload = token :: fields) (found : intOf? token = some number)
    (known : Incoming.ofNumber? number = some kind)
    (ended : ((kind.handler version).run ⟨1, fields⟩).1 = (told, some fault)) :
    ToldBefore version payload fault told := by
  have numbered : messageNumber? payload = some number := by
    rw [messageNumber?, split]
    exact found
  have behind : (splitFields payload).tail = fields := by rw [split, List.tail_cons]
  have told_of := told_of_handler ended
  constructor
  · intro bars
    obtain rfl := Option.some.inj (numbered.symm.trans bars)
    obtain rfl : Incoming.historicalData = kind := Option.some.inj (Eq.trans rfl known)
    rw [behind]
    exact ⟨told_of, Handler.forall_mem_of_breaksOff (Message.name_historicalBars version) told_of⟩
  · intro scans
    obtain rfl := Option.some.inj (numbered.symm.trans scans)
    obtain rfl : Incoming.scannerData = kind := Option.some.inj (Eq.trans rfl known)
    rw [behind]
    exact ⟨told_of, Handler.forall_mem_of_breaksOff Message.name_scannerRows told_of⟩
  · intro no_bars no_scans
    rw [numbered, ← number_of_ofNumber? known] at no_bars no_scans
    split at told_of
    · exact absurd rfl no_bars
    · exact absurd rfl no_scans
    · exact told_of

theorem toldBefore_of_unnumbered {version : Int} {payload : Bytes}
    (unnumbered : messageNumber? payload = none) (fault : Fault) :
    ToldBefore version payload fault [] := by
  refine ⟨fun bars => ?_, fun scans => ?_, fun _ _ => rfl⟩
  · rw [unnumbered] at bars
    cases bars
  · rw [unnumbered] at scans
    cases scans

theorem toldBefore_of_heard {version : Int} {payload : Bytes} {fault : Fault}
    (unreadable : (heard version payload).2 = some fault) :
    ToldBefore version payload fault (heard version payload).1 := by
  unfold heard at unreadable ⊢
  cases split : splitFields payload with
  | nil =>
    rw [split] at unreadable
    cases unreadable
  | cons token fields =>
    rw [split, heardFields] at unreadable
    rw [heardFields]
    cases found : intOf? token with
    | none =>
      refine toldBefore_of_unnumbered ?_ fault
      rw [messageNumber?, split]
      exact found
    | some number =>
      cases known : Incoming.ofNumber? number with
      | none =>
        simp only [found, known] at unreadable
        cases unreadable
      | some kind =>
        simp only [found, known] at unreadable ⊢
        exact toldBefore_of_handler split found known (Prod.ext rfl unreadable)

theorem report_of_unreadable {fault : Fault} (unconverted : ∀ error, fault ≠ .conversion error) :
    report (some fault) = [.error (-1) 508 ("Bad message. " ++ fault.message)] := by
  have text : Interpretation.problem fault.message =
      .error (-1) 508 ("Bad message. " ++ fault.message) := by
    unfold Interpretation.problem Notice.text
    rw [← String.append_assoc]
    rfl
  cases fault with
  | field error => exact congrArg (fun event => [event]) text
  | unknownCondition kind => exact congrArg (fun event => [event]) text
  | conversion error => exact absurd rfl (unconverted error)

theorem ToldBefore.name_ne {version : Int} {payload : Bytes} {fault : Fault} {told : List Event}
    (h : ToldBefore version payload fault told) {event : Event} (member : event ∈ told) :
    event.name ≠ "historical_data_end" ∧ event.name ≠ "scanner_data_end" := by
  by_cases bars : messageNumber? payload = some 17
  · rw [(h.bars bars).2 event member]
    decide
  · by_cases scans : messageNumber? payload = some 20
    · rw [(h.scans scans).2 event member]
      decide
    · rw [h.others bars scans] at member
      cases member

/-- **A malformed message is told of as a whole or not at all.** Its one report, under code 508, is
all that is told, unless it comes in rows; then the rows in front of the fault come first, in order,
and the end of the rows is never told. -/
theorem malformed_told (version : Int) (payload : Bytes) {fault : Fault}
    (unreadable : (heard version payload).2 = some fault)
    (unconverted : ∀ error, fault ≠ .conversion error) :
    (interpret version payload).failure? = none ∧
      ∃ told, ToldBefore version payload fault told ∧
        (interpret version payload).events =
          told ++ [.error (-1) 508 ("Bad message. " ++ fault.message)] ∧
        ∀ event ∈ (interpret version payload).events,
          event.name ≠ "historical_data_end" ∧ event.name ≠ "scanner_data_end" := by
  obtain ⟨failure, events⟩ := interpret_eq version payload
  rw [unreadable] at failure events
  rw [report_of_unreadable unconverted] at events
  have before := toldBefore_of_heard unreadable
  refine ⟨?_, (heard version payload).1, before, events, fun event member => ?_⟩
  · cases fault with
    | field error => exact failure
    | unknownCondition kind => exact failure
    | conversion error => exact absurd rfl (unconverted error)
  · rw [events] at member
    rcases List.mem_append.mp member with told | reported
    · exact before.name_ne told
    · obtain rfl := List.mem_singleton.mp reported
      simp [Event.name]

/-- Two bars of three are read, and a price of the third is no number. -/
def brokenBars : Bytes := [
  "17", "4", "20240102", "20240104", "3",
  "20240102", "1.5", "2", "1.25", "1.75", "100", "1.6", "7",
  "20240103", "1.75", "2.5", "1.5", "", "250", "1.9", "11",
  "20240104", "1.75", "high"].flatMap Field.terminated

theorem malformed_told_brokenBars :
    (heard 151 brokenBars).2 = some (.field ⟨some "high", 23, .expectedFloat⟩) ∧
      (interpret 151 brokenBars).failure? = none ∧
      ∃ told, ToldBefore 151 brokenBars (.field ⟨some "high", 23, .expectedFloat⟩) told ∧
        (interpret 151 brokenBars).events = told ++
          [.error (-1) 508 "Bad message. expected float at field 23: 'high'"] ∧
        told.length = 2 := by
  have unreadable : (heard 151 brokenBars).2 = some (.field ⟨some "high", 23, .expectedFloat⟩) := by
    decide +kernel
  obtain ⟨failure, told, before, events, -⟩ := malformed_told 151 brokenBars unreadable nofun
  have text : "Bad message. " ++ (Fault.field ⟨some "high", 23, .expectedFloat⟩).message =
      "Bad message. expected float at field 23: 'high'" := by decide +kernel
  refine ⟨unreadable, failure, told, before, ?_, ?_⟩
  · rw [events, text]
  · have count : (interpret 151 brokenBars).events.length = 3 := by decide +kernel
    rw [events, List.length_append] at count
    exact Nat.succ.inj count

end TradeWire
