import TradeWire.Proofs.Message.Overflow

/-!
# Interpretations of payloads

What a handler tells, and the fault that ends it, become the events of a payload (`heard`,
`interpret_eq`). The only thing that makes an interpretation fail is a quantity that overflows
(`failure?_interpret`), and only servers before fractional positions can send one.
-/

namespace TradeWire

/-! ## Handlers -/

namespace Handler

/-- Fails to convert a number just for some fields. -/
def Overflows (overflow : List String → Bool) (handler : Handler) : Prop :=
  ∀ c error, (handler.run c).1.2 = some (.conversion error) ↔
    error = .integerTooLarge ∧ overflow c.rest = true

theorem overflows_whole (read : Reading (List Event)) :
    (whole read).Overflows fun _ => false := by
  intro c error
  have other := read.start_ne_conversion c error
  rw [run]
  generalize read.start c = result at other ⊢
  rcases result with ⟨fault | events, left⟩
  · exact iff_of_false (by simpa using other) (by simp)
  · exact iff_of_false nofun (by simp)

theorem tell_ne_conversion (rows : Rows) (count : Nat) (c : Cursor)
    (error : Double.ConversionError) : (rows.tell count c).1.2 ≠ some (.conversion error) := by
  induction count generalizing c with
  | zero => exact nofun
  | succ count ih =>
    have other := rows.row.start_ne_conversion c error
    rw [Rows.tell]
    generalize rows.row.start c = result at other ⊢
    rcases result with ⟨fault | event, left⟩
    · simpa using other
    · exact ih left

theorem overflows_rows (header : Reading Rows) : (rows header).Overflows fun _ => false := by
  intro c error
  have other := header.start_ne_conversion c error
  rw [run]
  generalize header.start c = result at other ⊢
  rcases result with ⟨fault | found, left⟩
  · exact iff_of_false (by simpa using other) (by simp)
  · exact iff_of_false (tell_ne_conversion found _ left error) (by simp)

theorem overflows_measured {overflow : List String → Bool} {read : Measuring (List Event)}
    (h : read.Overflows overflow) : (measured read).Overflows overflow := by
  intro c error
  rw [← h c error, run]
  rcases read.start c with ⟨fault | events, left⟩
  · simp
  · simp

end Handler

theorem overflows_handler (version : Int) (kind : Incoming) :
    (kind.handler version).Overflows (kind.overflows version) := by
  cases kind with
  | portfolioValue => exact Handler.overflows_measured (Message.overflows_portfolioValue version)
  | positionData => exact Handler.overflows_measured (Message.overflows_positionHeld version)
  | orderStatus => exact Handler.overflows_measured (Message.overflows_orderStatus version)
  | executionData => exact Handler.overflows_measured (Message.overflows_executionDetails version)
  | openOrder => exact Handler.overflows_measured (Message.overflows_openOrder version)
  | completedOrder => exact Handler.overflows_measured (Message.overflows_completedOrder version)
  | historicalData => exact Handler.overflows_rows _
  | scannerData => exact Handler.overflows_rows _
  | _ => exact Handler.overflows_whole _

/-! ## Payloads -/

/-- What the fields of a message make its handler tell, and the fault that ends it. -/
def heardFields (version : Int) : List String → List Event × Option Fault
  | [] => ([], none)
  | token :: fields =>
    match intOf? token with
    | none => ([], some (.field ⟨some token, 0, .expectedInt⟩))
    | some number =>
      match Incoming.ofNumber? number with
      | none => ([], none)
      | some kind => ((kind.handler version).run ⟨1, fields⟩).1

def heard (version : Int) (payload : Bytes) : List Event × Option Fault :=
  heardFields version (splitFields payload)

/-- Whether some quantity in a payload is reached and too large. -/
def overflows (version : Int) (payload : Bytes) : Bool :=
  match splitFields payload with
  | [] => false
  | token :: fields =>
    ((intOf? token).bind Incoming.ofNumber?).any fun kind => kind.overflows version fields

def conversion? : Option Fault → Option Double.ConversionError
  | some (.conversion error) => some error
  | _ => none

def report : Option Fault → List Event
  | none => []
  | some (.conversion _) => []
  | some fault => [Interpretation.problem fault.message]

theorem interpret_eq (version : Int) (payload : Bytes) :
    (interpret version payload).failure? = conversion? (heard version payload).2 ∧
      (interpret version payload).events =
        (heard version payload).1 ++ report (heard version payload).2 := by
  have ofRun (result : (List Event × Option Fault) × Cursor) :
      (Interpretation.ofRun result).failure? = conversion? result.1.2 ∧
        (Interpretation.ofRun result).events = result.1.1 ++ report result.1.2 := by
    rcases result with ⟨⟨events, _ | fault⟩, c⟩
    · exact ⟨rfl, (List.append_nil events).symm⟩
    · cases fault with
      | conversion error => exact ⟨rfl, (List.append_nil events).symm⟩
      | field error => exact ⟨rfl, rfl⟩
      | unknownCondition kind => exact ⟨rfl, rfl⟩
  unfold interpret interpretFields heard Cursor.ofPayload Cursor.ofFields
  cases splitFields payload with
  | nil => exact ⟨rfl, rfl⟩
  | cons token fields =>
    rw [Reading.start_int rfl, heardFields]
    cases intOf? token with
    | none => exact ⟨rfl, rfl⟩
    | some number =>
      simp only [List.isEmpty_cons, Bool.false_eq_true, if_false]
      cases Incoming.ofNumber? number with
      | none => exact ⟨rfl, rfl⟩
      | some kind => exact ofRun _

theorem conversion?_eq_some_iff {fault? : Option Fault} {error : Double.ConversionError} :
    conversion? fault? = some error ↔ fault? = some (.conversion error) := by
  rcases fault? with _ | ⟨_⟩ | ⟨_⟩ | ⟨_⟩ <;> simp [conversion?]

theorem heard_eq_conversion_iff (version : Int) (payload : Bytes)
    (error : Double.ConversionError) :
    (heard version payload).2 = some (.conversion error) ↔
      error = .integerTooLarge ∧ overflows version payload = true := by
  unfold heard overflows
  cases splitFields payload with
  | nil => exact iff_of_false (by simp [heardFields]) (by simp)
  | cons token fields =>
    rw [heardFields]
    cases found : intOf? token with
    | none => exact iff_of_false nofun (by simp [found])
    | some number =>
      cases known : Incoming.ofNumber? number with
      | none => exact iff_of_false (by simp [known]) (by simp [found, known])
      | some kind =>
        simp only [found, known, Option.bind_some, Option.any_some]
        exact overflows_handler version kind ⟨1, fields⟩ error

/-- **An interpretation fails exactly when a quantity overflows.** -/
theorem failure?_interpret (version : Int) (payload : Bytes) :
    (interpret version payload).failure? =
      if overflows version payload then some .integerTooLarge else none := by
  refine Option.ext fun error => ?_
  rw [(interpret_eq version payload).1, conversion?_eq_some_iff, heard_eq_conversion_iff]
  split_ifs with large <;> simp [large, eq_comm]

theorem overflows_of_fractional {version : Int} (new : Feature.fractionalPositions ≤ version)
    (payload : Bytes) : overflows version payload = false := by
  unfold overflows
  cases splitFields payload with
  | nil => rfl
  | cons token fields =>
    simp only [overflows_of_new new, any_never]

end TradeWire
