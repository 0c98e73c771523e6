import TradeWire.Proofs.Message.Interpretation

/-!
# What no message tells

The end of a connection is told by the consumer alone: whatever a payload holds, its interpretation
does not say that the connection is closed (`open_interpret`). A handler tells a list of events
that its reading ends in, so it is enough to look at the ends of the readings (`Yields`).
-/

namespace TradeWire

/-! ## Ends of readings -/

namespace Reading

variable {α β : Type}

/-- Every value that a reading comes to is of some sort. -/
def Yields (sort : α → Prop) (r : Reading α) : Prop :=
  ∀ c value left, r.start c = (.ok value, left) → sort value

theorem yields_pure {sort : α → Prop} {value : α} (h : sort value) :
    (pure value : Reading α).Yields sort := by
  intro c other left ended
  cases ended
  exact h

theorem yields_bind {sort : β → Prop} {r : Reading α} {more : α → Reading β}
    (h : ∀ value, (more value).Yields sort) : (r >>= more).Yields sort := by
  intro c value left ended
  rw [start_bind] at ended
  split at ended
  · exact h _ _ value left ended
  · cases ended

end Reading

namespace Measuring

variable {α β : Type}

/-- Every value that a reading with quantities comes to is of some sort. -/
def Yields (sort : α → Prop) (m : Measuring α) : Prop :=
  ∀ c value left, m.start c = (.ok value, left) → sort value

theorem yields_pure {sort : α → Prop} {value : α} (h : sort value) :
    (pure value : Measuring α).Yields sort := by
  intro c other left ended
  cases ended
  exact h

theorem yields_bind {sort : β → Prop} {m : Measuring α} {more : α → Measuring β}
    (h : ∀ value, (more value).Yields sort) : (m >>= more).Yields sort := by
  intro c value left ended
  rw [start_bind] at ended
  split at ended
  · exact h _ _ value left ended
  · cases ended

end Measuring

/-! ## Handlers -/

/-- Events that leave the connection open. -/
def Open (events : List Event) : Prop := ∀ event ∈ events, event ≠ .connectionClosed

namespace Handler

/-- Tells only events that leave the connection open. -/
def StaysOpen (handler : Handler) : Prop := ∀ c, Open (handler.run c).1.1

theorem staysOpen_whole {read : Reading (List Event)} (h : read.Yields Open) :
    (whole read).StaysOpen := by
  intro c
  rw [run]
  cases ended : read.start c with
  | mk result left =>
    cases result with
    | ok events => exact h c events left ended
    | error fault => exact List.forall_mem_nil _

theorem staysOpen_measured {read : Measuring (List Event)} (h : read.Yields Open) :
    (measured read).StaysOpen := by
  intro c
  rw [run]
  cases ended : read.start c with
  | mk result left =>
    cases result with
    | ok events => exact h c events left ended
    | error fault => exact List.forall_mem_nil _

/-- Rows of which neither one nor what is told after them closes the connection. -/
structure OpenRows (rows : Rows) : Prop where
  row : rows.row.Yields (· ≠ .connectionClosed)
  last : rows.last ≠ .connectionClosed

theorem open_tell {rows : Rows} (h : OpenRows rows) (count : Nat) (c : Cursor) :
    Open (rows.tell count c).1.1 := by
  induction count generalizing c with
  | zero => exact List.forall_mem_singleton.mpr h.last
  | succ count ih =>
    rw [Rows.tell]
    cases ended : rows.row.start c with
    | mk result left =>
      cases result with
      | ok event => exact List.forall_mem_cons.mpr ⟨h.row c event left ended, ih left⟩
      | error fault => exact List.forall_mem_nil _

theorem staysOpen_rows {header : Reading Rows} (h : header.Yields OpenRows) :
    (rows header).StaysOpen := by
  intro c
  rw [run]
  cases ended : header.start c with
  | mk result left =>
    cases result with
    | ok found => exact open_tell (h c found left ended) _ left
    | error fault => exact List.forall_mem_nil _

end Handler

namespace Message

open Reading (yields_pure yields_bind)

theorem openRows_historicalBars (version : Int) :
    (historicalBars version).Yields Handler.OpenRows := by
  unfold historicalBars
  iterate 5 refine yields_bind fun _ => ?_
  exact yields_pure ⟨yields_bind fun _ => yields_pure nofun, nofun⟩

theorem openRows_scannerRows : scannerRows.Yields Handler.OpenRows := by
  unfold scannerRows
  iterate 3 refine yields_bind fun _ => ?_
  exact yields_pure ⟨yields_bind fun _ => yields_pure nofun, nofun⟩

theorem open_tickByTick : tickByTick.Yields Open := by
  unfold tickByTick
  iterate 3 refine yields_bind fun _ => ?_
  split
  all_goals
    repeat refine yields_bind fun _ => ?_
    exact yields_pure (by simp [Open])

end Message

theorem staysOpen_handler (version : Int) (kind : Incoming) :
    (kind.handler version).StaysOpen := by
  cases kind with
  | historicalData => exact Handler.staysOpen_rows (Message.openRows_historicalBars version)
  | scannerData => exact Handler.staysOpen_rows Message.openRows_scannerRows
  | tickByTick => exact Handler.staysOpen_whole Message.open_tickByTick
  | portfolioValue | positionData | orderStatus | executionData | openOrder | completedOrder =>
    refine Handler.staysOpen_measured ?_
    repeat refine Measuring.yields_bind fun _ => ?_
    exact Measuring.yields_pure (by simp [Open])
  | _ =>
    refine Handler.staysOpen_whole ?_
    repeat refine Reading.yields_bind fun _ => ?_
    exact Reading.yields_pure (by simp [Open])

/-! ## Payloads -/

theorem open_heard (version : Int) (payload : Bytes) : Open (heard version payload).1 := by
  unfold heard
  cases splitFields payload with
  | nil => exact List.forall_mem_nil _
  | cons token fields =>
    rw [heardFields]
    split
    · exact List.forall_mem_nil _
    · split
      · exact List.forall_mem_nil _
      · exact staysOpen_handler version _ ⟨1, fields⟩

theorem open_report (fault? : Option Fault) : Open (report fault?) := by
  unfold report
  split
  · exact List.forall_mem_nil _
  · exact List.forall_mem_nil _
  · exact List.forall_mem_singleton.mpr nofun

/-- **No payload makes an interpretation tell that the connection is closed.** -/
theorem open_interpret (version : Int) (payload : Bytes) :
    Open (interpret version payload).events := by
  rw [(interpret_eq version payload).2]
  exact List.forall_mem_append.mpr ⟨open_heard version payload, open_report _⟩

end TradeWire
