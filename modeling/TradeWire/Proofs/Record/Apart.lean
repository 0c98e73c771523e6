import TradeWire.Proofs.Wire.Change
import TradeWire.Record.TagValue

/-!
# Data that differ in one text

Two values are apart in one text (`Datum.Apart`) if they have the same shape and the same parts but
for one text, wherever it stands. How far two values are apart is counted part by part
(`Datum.change`); attributes that decide which fields are sent count as far apart unless they are
equal. Values that are apart in one text are at most one apart (`change_le_one_of_apart`).
-/

namespace TradeWire

open Classical in
/-- How far two values are apart that can only be equal or far apart. -/
noncomputable def jump {α : Type} (one other : α) : ℕ := if one = other then 0 else 2

@[simp]
theorem jump_self {α : Type} (value : α) : jump value value = 0 := if_pos rfl

theorem jump_of_ne {α : Type} {one other : α} (differ : one ≠ other) : jump one other = 2 :=
  if_neg differ

theorem jump_eq_or {α : Type} (one other : α) : jump one other = 0 ∨ jump one other = 2 := by
  by_cases same : one = other
  · exact .inl (if_pos same)
  · exact .inr (if_neg same)

theorem jump_map {α β : Type} {f : α → β} (injective : Function.Injective f) (one other : α) :
    jump (f one) (f other) = jump one other := by
  by_cases same : one = other
  · rw [same, jump_self, jump_self]
  · rw [jump_of_ne same, jump_of_ne fun h => same (injective h)]

namespace Field

variable {s t : String}

theorem change_of_text?_eq_none {field : Field} (other : Field) (none : field.text? = none) :
    field.change s t other = jump field other := by
  by_cases same : field = other
  · rw [same, change_self, jump_self]
  · rw [jump_of_ne same]
    unfold change
    rw [none]
    exact if_neg same

@[simp]
theorem change_int (n m : Int) : (Field.int n).change s t (.int m) = jump n m := by
  rw [change_of_text?_eq_none _ rfl, jump_map fun _ _ => Field.int.inj]

@[simp]
theorem change_flag (a b : Bool) : (Field.flag a).change s t (.flag b) = jump a b := by
  rw [change_of_text?_eq_none _ rfl, jump_map fun _ _ => Field.flag.inj]

@[simp]
theorem change_number (a b : Number) : a.field.change s t b.field = jump a b := by
  have none : a.field.text? = none := by cases a <;> rfl
  have injective : Function.Injective Number.field := by
    rintro (m | x) (n | y) h <;> cases h <;> rfl
  rw [change_of_text?_eq_none _ none, jump_map injective]

theorem change_le_jump {α : Type} (f : α → Field) (one other : α) :
    (f one).change s t (f other) ≤ jump one other := by
  by_cases same : one = other
  · rw [same, change_self]
    exact Nat.zero_le _
  · rw [jump_of_ne same]
    exact change_le_two _ _

theorem distance_le_jump {α : Type} (f : α → List Field) (one other : α) :
    distance s t (f one) (f other) ≤ jump one other := by
  by_cases same : one = other
  · rw [same, distance_self]
    exact Nat.zero_le _
  · rw [jump_of_ne same]
    exact distance_le_two _ _

/-- Fields that a value decides about need only be compared where it is the same. -/
theorem distance_le_jump_add {α : Type} {one other : α} {fields others : List Field} {n : ℕ}
    (near : one = other → distance s t fields others ≤ n) :
    distance s t fields others ≤ jump one other + n := by
  by_cases same : one = other
  · exact (near same).trans (Nat.le_add_left _ _)
  · rw [jump_of_ne same]
    exact (distance_le_two _ _).trans (Nat.le_add_right _ _)

end Field

namespace Datum

/-! ## One text -/

/-- The texts that decide which fields are sent: the kind of a security, its exchanges, and the
kinds of an order, of its hedges and of its strategy. -/
def selecting : List (String × String) := [
  ("Contract", "sec_type"), ("Contract", "exchange"), ("Contract", "primary_exchange"),
  ("Order", "order_type"), ("Order", "hedge_type"), ("Order", "algo_strategy"),
  ("Order", "delta_neutral_order_type")]

/-- The values are the same but for one text, which is `s` in the one and `t` in the other and does
not decide which fields are sent. -/
inductive Apart (s t : Label) : Datum → Datum → Prop
  | text : Apart s t (.scalar s.field) (.scalar t.field)
  | item {one other : Datum} (before after : List Datum) : Apart s t one other →
    Apart s t (.list (before ++ one :: after)) (.list (before ++ other :: after))
  | part {one other : Datum} (kind name : String) (before after : List (String × Datum)) :
    (kind, name) ∉ selecting → Apart s t one other →
      Apart s t (.record kind (before ++ (name, one) :: after))
        (.record kind (before ++ (name, other) :: after))

/-! ## How far values are apart -/

mutual

/-- How far two values are apart: the sum over their parts, where those of another shape are far
apart. -/
noncomputable def change (s t : String) : Datum → Datum → ℕ
  | .scalar field, .scalar other => field.change s t other
  | .list items, .list others => changeItems s t items others
  | .record kind attributes, .record kind' others =>
    if kind = kind' then changeAttributes s t kind attributes others else 2
  | one, other => jump one other

@[simp]
noncomputable def changeItems (s t : String) : List Datum → List Datum → ℕ
  | [], [] => 0
  | one :: items, other :: others => one.change s t other + changeItems s t items others
  | _, _ => 2

noncomputable def changeAttributes (s t kind : String) :
    List (String × Datum) → List (String × Datum) → ℕ
  | [], [] => 0
  | (name, one) :: attributes, (name', other) :: others =>
    (if name = name' then
      if (kind, name) ∈ selecting then jump one other else one.change s t other
    else 2) + changeAttributes s t kind attributes others
  | _, _ => 2

end

section

variable {s t : String}

mutual

theorem change_self (datum : Datum) : datum.change s t datum = 0 := by
  cases datum with
  | scalar field => rw [change, Field.change_self]
  | list items => rw [change, changeItems_self]
  | record kind attributes => rw [change, if_pos rfl, changeAttributes_self]
  | _ => exact jump_self _

theorem changeItems_self (items : List Datum) : changeItems s t items items = 0 := by
  cases items with
  | nil => rfl
  | cons item items => rw [changeItems, item.change_self, changeItems_self items]

theorem changeAttributes_self (kind : String) (attributes : List (String × Datum)) :
    changeAttributes s t kind attributes attributes = 0 := by
  cases attributes with
  | nil => rfl
  | cons first attributes =>
    obtain ⟨name, value⟩ := first
    rw [changeAttributes, if_pos rfl, value.change_self, changeAttributes_self kind attributes,
      jump_self, ite_self]

end

theorem changeItems_append (before items others : List Datum) :
    changeItems s t (before ++ items) (before ++ others) = changeItems s t items others := by
  induction before with
  | nil => rfl
  | cons item before ih =>
    rw [List.cons_append, List.cons_append, changeItems, change_self, ih, zero_add]

theorem changeAttributes_append (kind : String) (before attributes others : List (String × Datum)) :
    changeAttributes s t kind (before ++ attributes) (before ++ others) =
      changeAttributes s t kind attributes others := by
  induction before with
  | nil => rfl
  | cons first before ih =>
    obtain ⟨name, value⟩ := first
    rw [List.cons_append, List.cons_append, changeAttributes, change_self, ih, if_pos rfl,
      jump_self, ite_self, zero_add]

end

/-- **Values that are apart in one text are at most one apart.** -/
theorem change_le_one_of_apart {s t : Label} {one other : Datum} (apart : Apart s t one other) :
    one.change (s.getD "") (t.getD "") other ≤ 1 := by
  induction apart with
  | text =>
    have texts (label : Label) : label.field.text? = some (label.getD "") := by
      cases label <;> rfl
    rw [change]
    unfold Field.change
    simp only [texts]
    refine Text.change_le_one_iff.mpr (.inr ⟨"", "", ?_, ?_⟩) <;> simp
  | item before after _ ih =>
    rw [change, changeItems_append, changeItems, changeItems_self, add_zero]
    exact ih
  | part kind name before after free _ ih =>
    rw [change, if_pos rfl, changeAttributes_append, changeAttributes, if_pos rfl, if_neg free,
      changeAttributes_self, add_zero]
    exact ih

/-! ## How far described values are apart -/

section

variable {s t : String}

@[simp]
theorem change_int (n m : Int) : (describe n).change s t (describe m) = jump n m :=
  Field.change_int (s := s) (t := t) n m

@[simp]
theorem change_flag (a b : Bool) : (describe a).change s t (describe b) = jump a b :=
  Field.change_flag (s := s) (t := t) a b

@[simp]
theorem change_number (a b : Number) : (describe a).change s t (describe b) = jump a b :=
  Field.change_number a b

theorem describe_label (label : Label) : describe label = .scalar label.field := by
  cases label <;> rfl

@[simp]
theorem change_label (one other : Label) :
    (describe one).change s t (describe other) = one.field.change s t other.field := by
  rw [describe_label, describe_label, change]

@[simp]
theorem jump_label (one other : Label) : jump (describe one) (describe other) = jump one other := by
  refine jump_map ?_ one other
  rintro (_ | _) (_ | _) h <;> cases h <;> rfl

@[simp]
theorem change_scalar (field other : Field) :
    (describe field).change s t (describe other) = field.change s t other := rfl

theorem two_le_changeItems {items others : List Datum} (lengths : items.length ≠ others.length) :
    2 ≤ changeItems s t items others := by
  induction items generalizing others with
  | nil =>
    cases others with
    | nil => exact absurd rfl lengths
    | cons other others => exact le_rfl
  | cons item items ih =>
    cases others with
    | nil => exact le_rfl
    | cons other others =>
      have rest := ih fun same => lengths (congrArg (· + 1) same)
      rw [changeItems]
      omega

variable {α : Type} [Described α]

theorem distance_flatMap_le {f : α → List Field}
    (near : ∀ one other, Field.distance s t (f one) (f other) ≤
      (describe one).change s t (describe other)) (items others : List α) :
    Field.distance s t (items.flatMap f) (others.flatMap f) ≤
      changeItems s t (items.map describe) (others.map describe) := by
  induction items generalizing others with
  | nil =>
    cases others with
    | nil => exact Nat.zero_le _
    | cons other others => exact Field.distance_le_two _ _
  | cons item items ih =>
    cases others with
    | nil => exact Field.distance_le_two _ _
    | cons other others =>
      rw [List.flatMap_cons, List.flatMap_cons, List.map_cons, List.map_cons, changeItems]
      exact (Field.distance_append_le _ _ _ _).trans (Nat.add_le_add (near _ _) (ih others))

theorem distance_optional_le (f : List α → List Field)
    (near : ∀ items others : List α, Field.distance s t (f items) (f others) ≤
      changeItems s t (items.map describe) (others.map describe)) (one other : Option (List α)) :
    Field.distance s t (f (one.getD [])) (f (other.getD [])) ≤
      (describe one).change s t (describe other) := by
  cases one with
  | none =>
    cases other with
    | none => exact (Field.distance_self _).trans_le (Nat.zero_le _)
    | some others =>
      have far : jump (Datum.scalar .empty) (.list (others.map describe)) = 2 := jump_of_ne nofun
      exact (Field.distance_le_two _ _).trans far.ge
  | some items =>
    cases other with
    | none =>
      have far : jump (Datum.list (items.map describe)) (.scalar .empty) = 2 := jump_of_ne nofun
      exact (Field.distance_le_two _ _).trans far.ge
    | some others => exact near items others

end

end Datum

/-! ## How far records are apart -/

namespace Holder

variable {α : Type} [Inhabited α] [Holder α] {s t : String}

/-- How far two records are apart in an attribute. -/
noncomputable def changeIn (s t : String) (one other : α) (a : Attribute α) : ℕ :=
  if (kind α, a.name) ∈ Datum.selecting then jump (a.get one) (a.get other)
  else (a.get one).change s t (a.get other)

/-- Two records are as far apart as their attributes are in all. -/
theorem change_eq_sum (one other : α) : (describe one).change s t (describe other) =
    (attributes.map (changeIn s t one other)).sum := by
  have all (attributes : List (Attribute α)) :
      Datum.changeAttributes s t (kind α) (attributes.map fun a => (a.name, a.get one))
        (attributes.map fun a => (a.name, a.get other)) =
          (attributes.map (changeIn s t one other)).sum := by
    induction attributes with
    | nil => rfl
    | cons a attributes ih =>
      rw [List.map_cons, List.map_cons, Datum.changeAttributes, ih, if_pos rfl, List.map_cons,
        List.sum_cons]
      rfl
  exact (if_pos rfl).trans (all attributes)

end Holder

end TradeWire
