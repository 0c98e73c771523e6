import TradeWire.Message.Basic
import TradeWire.Proofs.Message.Telling

/-!
# Counted records

A list behind its length is read record by record (`InOrder`): all records that are announced, or
as many as can be read before one that cannot (`start_counted`). Since each record takes some fields
(`Spends`), no message holds more of them than it has fields, whatever its count says. `HasList`
says that a reading holds such a list behind some lead, and it is put together from the parts of the
reading like the reading itself.
-/

namespace TradeWire

namespace Reading

variable {α β : Type}

/-! ## Records in order -/

/-- Values that are read one after another, from one cursor to another. -/
inductive InOrder (r : Reading α) : Cursor → List α → Cursor → Prop
  | nil (c : Cursor) : InOrder r c [] c
  | cons {c here there : Cursor} {value : α} {values : List α} :
    r.start c = (.ok value, here) → InOrder r here values there →
      InOrder r c (value :: values) there

/-- A reading that is repeated comes to an end, or to values before one that cannot be read. -/
theorem start_times (r : Reading α) (count : Nat) (c : Cursor) :
    match (r.times count).start c with
    | (.ok values, there) => r.InOrder c values there ∧ values.length = count
    | (.error fault, left) => ∃ values there, r.InOrder c values there ∧ values.length < count ∧
        r.start there = (.error fault, left) := by
  induction count generalizing c with
  | zero => exact ⟨.nil c, rfl⟩
  | succ count ih =>
    rw [times, start_bind]
    rcases first : r.start c with ⟨fault | value, here⟩
    · exact ⟨[], c, .nil c, Nat.succ_pos count, first⟩
    · simp only [start_bind]
      have others := ih here
      generalize (r.times count).start here = result at others ⊢
      rcases result with ⟨fault | values, there⟩
      · obtain ⟨values, there, read, few, stopped⟩ := others
        exact ⟨value :: values, there, .cons first read, Nat.succ_lt_succ few, stopped⟩
      · exact ⟨.cons first others.1, congrArg Nat.succ others.2⟩

theorem yields_of_yields {sort : α → Prop} {sort' : β → Prop} {r : Reading α}
    {more : α → Reading β} (h : r.Yields sort)
    (hm : ∀ value, sort value → (more value).Yields sort') :
    (r >>= more).Yields sort' := by
  intro c value left ended
  rw [start_bind] at ended
  rcases first : r.start c with ⟨fault | found, here⟩ <;> rw [first] at ended
  · cases ended
  · exact hm found (h c found here first) here value left ended

/-! ## Repeated readings -/

theorem times_add (r : Reading α) (first second : Nat) :
    r.times (first + second) = do
      let before ← r.times first
      let behind ← r.times second
      return before ++ behind := by
  induction first with
  | zero =>
    rw [Nat.zero_add]
    exact (bind_done (r.times second)).symm
  | succ first ih =>
    rw [Nat.succ_add, times, ih, times]
    simp only [LawfulMonad.bind_assoc, LawfulMonad.pure_bind, List.cons_append]

theorem times_map (r : Reading α) (f : α → β) (count : Nat) :
    (r >>= fun value => pure (f value)).times count =
      r.times count >>= fun values => pure (values.map f) := by
  induction count with
  | zero => rfl
  | succ count ih =>
    rw [times, ih, times]
    simp only [LawfulMonad.bind_assoc, LawfulMonad.pure_bind, List.map_cons]

/-! ## Fields of a record -/

/-- Takes at least so many fields where it comes to a value. -/
def Spends (width : Nat) (r : Reading α) : Prop :=
  ∀ c value left, r.start c = (.ok value, left) → left.remaining + width ≤ c.remaining

theorem spends_zero (r : Reading α) : Spends 0 r := by
  induction r with
  | done result =>
    rintro c value left ⟨⟩
    exact le_rfl
  | unreadable error => exact nofun
  | unknownCondition kind => exact nofun
  | take next ih =>
    intro c value left ended
    rw [start] at ended
    cases fields : c.rest with
    | nil =>
      rw [fields] at ended
      cases ended
    | cons token rest =>
      rw [fields] at ended
      have behind := ih _ _ _ _ _ ended
      rw [Cursor.remaining, Cursor.remaining, fields]
      exact Nat.le_succ_of_le behind

theorem spends_take (next : Nat → String → Reading α) : Spends 1 (take next) := by
  intro c value left ended
  rw [start] at ended
  cases fields : c.rest with
  | nil =>
    rw [fields] at ended
    cases ended
  | cons token rest =>
    rw [fields] at ended
    have behind := spends_zero _ _ _ _ ended
    rw [Cursor.remaining, Cursor.remaining, fields]
    exact Nat.succ_le_succ behind

theorem spends_bind {width more : Nat} {r : Reading α} {next : α → Reading β}
    (h : Spends width r) (hn : ∀ value, Spends more (next value)) :
    Spends (more + width) (r >>= next) := by
  intro c value left ended
  rw [start_bind] at ended
  rcases first : r.start c with ⟨fault | found, here⟩
  · rw [first] at ended
    cases ended
  · rw [first] at ended
    have before := h c found here first
    have behind := hn found here value left ended
    omega

theorem spends_of_next {width : Nat} (r : Reading α) {next : α → Reading β}
    (hn : ∀ value, Spends width (next value)) : Spends width (r >>= next) :=
  spends_bind (spends_zero r) hn

theorem spends_cons {width : Nat} {r : Reading α} {next : α → Reading β} (h : Spends 1 r)
    (hn : ∀ value, Spends width (next value)) : Spends (width + 1) (r >>= next) := spends_bind h hn

theorem spends_int : Spends 1 int := spends_take _

theorem spends_long : Spends 1 long := spends_take _

theorem spends_double : Spends 1 double := spends_take _

theorem spends_flag : Spends 1 flag := spends_take _

theorem spends_next : Spends 1 next := spends_take _

theorem spends_map {width : Nat} {r : Reading α} (h : Spends width r) (f : α → β) :
    Spends width (r >>= fun value => pure (f value)) := by
  rw [← Nat.zero_add width]
  exact spends_bind h fun value => spends_zero (pure (f value))

theorem spends_text : Spends 1 text := spends_map spends_next some

theorem spends_number : Spends 1 number := spends_map spends_double _

theorem InOrder.spends {width : Nat} {r : Reading α} (h : Spends width r) {c there : Cursor}
    {values : List α} (read : r.InOrder c values there) :
    there.remaining + values.length * width ≤ c.remaining := by
  induction read with
  | nil c => simp
  | cons first _ ih =>
    have one := h _ _ _ first
    rw [List.length_cons, Nat.succ_mul]
    omega

end Reading

/-! ## Lists behind their length -/

/-- The outcome of reading from a cursor on, and where it leaves the cursor. -/
abbrev Run (α : Type) := Cursor → Except Fault α × Cursor

variable {α β γ δ : Type}

def Run.andThen (run : Run α) (more : α → Run β) : Run β := fun c =>
  match run c with
  | (.ok value, c) => more value c
  | (.error fault, c) => (.error fault, c)

/-- A list of records that stands behind its length. What is read in front of the length also says
how a record is read, or that there is no such list. -/
structure HasList (run : Run β) (lead : Run (Option (Reading α))) (carries : β → List α → Prop) :
    Prop where
  /-- Nothing is read where the front is not. -/
  unreadable : ∀ {c fault left}, lead c = (.error fault, left) →
    ∃ fault left, run c = (.error fault, left)
  /-- Nothing is read where the records are not. -/
  broken : ∀ {c item here fault left}, lead c = (.ok (some item), here) →
    (Reading.listOf item).start here = (.error fault, left) → ∃ left, run c = (.error fault, left)
  /-- What is read carries the records. -/
  carried : ∀ {c item here records there value left}, lead c = (.ok (some item), here) →
    (Reading.listOf item).start here = (.ok records, there) → run c = (.ok value, left) →
    carries value records

namespace HasList

variable {carries : β → List α → Prop}

/-- Where the front ends with the first part of a run, the list is that of the second part. -/
theorem after {front : Run γ} {first : Run δ} {lead : γ → Run (Option (Reading α))}
    {more : δ → Run β}
    (ok : ∀ {c taken here}, front c = (.ok taken, here) → ∃ value,
      first c = (.ok value, here) ∧ HasList (more value) (lead taken) carries)
    (error : ∀ {c fault here}, front c = (.error fault, here) →
      ∃ fault left, first c = (.error fault, left)) :
    HasList (first.andThen more) (front.andThen lead) carries := by
  constructor
  · intro c fault left before
    rw [Run.andThen] at before ⊢
    rcases taking : front c with ⟨other | taken, here⟩ <;> rw [taking] at before
    · obtain ⟨fault, left, stopped⟩ := error taking
      rw [stopped]
      exact ⟨_, _, rfl⟩
    · obtain ⟨value, read, list⟩ := ok taking
      rw [read]
      exact list.unreadable before
  · intro c item here fault left before stopped
    rw [Run.andThen] at before ⊢
    rcases taking : front c with ⟨other | taken, there⟩ <;> rw [taking] at before
    · cases before
    · obtain ⟨value, read, list⟩ := ok taking
      rw [read]
      exact list.broken before stopped
  · intro c item here records there value left before found ended
    rw [Run.andThen] at before ended
    rcases taking : front c with ⟨other | taken, there⟩ <;> rw [taking] at before
    · cases before
    · obtain ⟨value, read, list⟩ := ok taking
      rw [read] at ended
      exact list.carried before found ended

theorem andThen {run : Run γ} {known : γ → Prop}
    (first : ∀ c value left, run c = (.ok value, left) → known value) {more : γ → Run β}
    {lead : γ → Run (Option (Reading α))}
    (h : ∀ value, known value → HasList (more value) (lead value) carries) :
    HasList (run.andThen more) (run.andThen lead) carries :=
  after (fun read => ⟨_, read, h _ (first _ _ _ read)⟩) fun stopped => ⟨_, _, stopped⟩

theorem bind {run : Run β} {lead : Run (Option (Reading α))} {more : β → Run γ}
    {carries' : γ → List α → Prop} (h : HasList run lead carries)
    (hm : ∀ value records, carries value records → ∀ c result left,
      more value c = (.ok result, left) → carries' result records) :
    HasList (run.andThen more) lead carries' := by
  constructor
  · intro c fault left front
    obtain ⟨other, here, stopped⟩ := h.unreadable front
    rw [Run.andThen, stopped]
    exact ⟨other, here, rfl⟩
  · intro c item here fault left front stopped
    obtain ⟨there, stopped⟩ := h.broken front stopped
    rw [Run.andThen, stopped]
    exact ⟨there, rfl⟩
  · intro c item here records there value left front read ended
    rw [Run.andThen] at ended
    rcases first : run c with ⟨other | found, behind⟩ <;> rw [first] at ended
    · cases ended
    · exact hm found records (h.carried front read first) behind value left ended

end HasList

namespace Reading

variable {item : Reading α} {carries : β → List α → Prop}

theorem start_bind_eq (r : Reading γ) (more : γ → Reading β) :
    (r >>= more).start = Run.andThen r.start fun value => (more value).start :=
  funext (start_bind r more)

theorem hasList_counted {rest : Int → List α → Reading β}
    (h : ∀ n records, records.length = n.toNat → (rest n records).Yields (carries · records)) :
    HasList (int >>= fun n => counted n item >>= rest n).start
      (pure (some item) : Reading (Option (Reading α))).start carries := by
  have front {c here : Cursor} {other : Reading α}
      (lead : (pure (some item) : Reading (Option (Reading α))).start c =
        (.ok (some other), here)) :
      item = other ∧ c = here := by
    cases lead
    exact ⟨rfl, rfl⟩
  refine ⟨nofun, fun lead stopped => ?_, fun lead read ended => ?_⟩
  · obtain ⟨rfl, rfl⟩ := front lead
    rw [listOf, start_bind] at stopped
    rw [start_bind]
    rcases number : int.start _ with ⟨other | n, here⟩ <;> rw [number] at stopped
    · cases stopped
      exact ⟨_, rfl⟩
    · simp only at stopped ⊢
      rw [start_bind, stopped]
      exact ⟨_, rfl⟩
  · obtain ⟨rfl, rfl⟩ := front lead
    rw [listOf, start_bind] at read
    rw [start_bind] at ended
    rcases number : int.start _ with ⟨other | n, here⟩ <;> rw [number] at read ended
    · cases read
    · simp only at read ended
      have many := start_times item n.toNat here
      rw [counted] at read
      rw [start_bind, counted, read] at ended
      rw [read] at many
      exact h n _ many.2 _ _ _ ended

theorem hasList_listOf {rest : List α → Reading β}
    (h : ∀ records, (rest records).Yields (carries · records)) :
    HasList (listOf item >>= rest).start (pure (some item) : Reading (Option (Reading α))).start
      carries := by
  have split : listOf item >>= rest = int >>= fun n => counted n item >>= rest := bind_assoc _ _ _
  rw [split]
  exact hasList_counted fun _ records _ => h records

theorem hasList_none (run : Run β) :
    HasList run (pure none : Reading (Option (Reading α))).start carries :=
  ⟨nofun, fun lead => (by cases lead), fun lead => (by cases lead)⟩

theorem hasList_bind_of_yields {r : Reading γ} {known : γ → Prop} (first : r.Yields known)
    {more : γ → Reading β} {lead : γ → Reading (Option (Reading α))}
    (h : ∀ value, known value → HasList (more value).start (lead value).start carries) :
    HasList (r >>= more).start (r >>= lead).start carries := by
  rw [start_bind_eq, start_bind_eq]
  exact .andThen first h

theorem hasList_bind (r : Reading γ) {more : γ → Reading β}
    {lead : γ → Reading (Option (Reading α))}
    (h : ∀ value, HasList (more value).start (lead value).start carries) :
    HasList (r >>= more).start (r >>= lead).start carries :=
  hasList_bind_of_yields (fun _ _ _ _ => trivial) fun value _ => h value

theorem hasList_then {r : Reading β} {lead : Run (Option (Reading α))} {more : β → Reading γ}
    {carries' : γ → List α → Prop} (h : HasList r.start lead carries)
    (hm : ∀ value records, carries value records → (more value).Yields (carries' · records)) :
    HasList (r >>= more).start lead carries' := by
  rw [start_bind_eq]
  exact h.bind hm

end Reading

namespace Measuring

variable {carries : β → List α → Prop}

theorem start_bind_eq (m : Measuring γ) (more : γ → Measuring β) :
    (m >>= more).start = Run.andThen m.start fun value => (more value).start :=
  funext (start_bind m more)

theorem start_lift_eq (r : Reading α) : (liftM r : Measuring α).start = r.start :=
  funext (start_lift r)

theorem hasList_bind_of_yields {m : Measuring γ} {known : γ → Prop} (first : m.Yields known)
    {more : γ → Measuring β} {lead : γ → Measuring (Option (Reading α))}
    (h : ∀ value, known value → HasList (more value).start (lead value).start carries) :
    HasList (m >>= more).start (m >>= lead).start carries := by
  rw [start_bind_eq, start_bind_eq]
  exact .andThen first h

theorem hasList_bind (m : Measuring γ) {more : γ → Measuring β}
    {lead : γ → Measuring (Option (Reading α))}
    (h : ∀ value, HasList (more value).start (lead value).start carries) :
    HasList (m >>= more).start (m >>= lead).start carries :=
  hasList_bind_of_yields (fun _ _ _ _ => trivial) fun value _ => h value

theorem hasList_then {m : Measuring β} {lead : Run (Option (Reading α))} {more : β → Measuring γ}
    {carries' : γ → List α → Prop} (h : HasList m.start lead carries)
    (hm : ∀ value records, carries value records → (more value).Yields (carries' · records)) :
    HasList (m >>= more).start lead carries' := by
  rw [start_bind_eq]
  exact h.bind hm

end Measuring

end TradeWire
