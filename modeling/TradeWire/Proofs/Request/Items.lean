import Mathlib.Tactic
import TradeWire.Proofs.Wire.Recovery
import TradeWire.Proofs.Wire.Texts
import TradeWire.Request.PlaceOrder
import TradeWire.Wire.Frame

/-!
# Requests that are read in one way only

The fields of a request stand one behind the other, and nothing but their order says what each of
them tells. Here each field is an item: a place that says what it tells, and the field. Two lists of
items are alike if the same texts, with whatever behind them, tell the same in both (`Alike`). Lists
of the same places are alike (`alike_of_places`). What comes later may depend on what was told
before: `alike_append` proves that the second parts are alike from what the first parts agree on, so
a length that was told decides on a list (`alike_counted`).
-/

namespace TradeWire

/-! ## Items -/

/-- What a field of the request tells. -/
inductive Place where
  | kind
  | version
  | orderId
  /-- An attribute of a kind of record. -/
  | attribute (record name : String)
  /-- The length of a list. -/
  | count (list : String)
  /-- One side of a pair in a list. -/
  | tag (list : String)
  | value (list : String)
  | conditionKind
  /-- What is no longer in use. -/
  | unused
  deriving DecidableEq

abbrev Item := Place × Field

/-! ## Lists of items -/

/-- What is told of each item, and the text that it is told by. -/
def told (items : List Item) : List (Place × Except EncodeError String) :=
  items.map fun item => (item.1, item.2.wire)

theorem told_append (a b : List Item) : told (a ++ b) = told a ++ told b := List.map_append ..

theorem told_eq_zip (items : List Item) :
    told items = (items.map Prod.fst).zip ((items.map Prod.snd).map Field.wire) := by
  rw [List.map_map, List.zip_map']
  rfl

/-- Two lists of items are sent, and tell the same. -/
structure Agree (a b : List Item) : Prop where
  told : told a = told b
  sent : ∃ texts, Field.SentAs (a.map Prod.snd) texts

theorem Agree.of_append {a b a' b' : List Item} (agree : Agree (a ++ a') (b ++ b'))
    (count : a.length = b.length) : Agree a b ∧ Agree a' b' := by
  obtain ⟨same, texts, sent⟩ := agree
  rw [List.map_append] at sent
  obtain ⟨one, other, rfl, sent, sent'⟩ := Field.sentAs_append_iff.mp sent
  rw [told_append, told_append] at same
  obtain ⟨first, second⟩ := List.append_inj same <| by
    rwa [TradeWire.told, TradeWire.told, List.length_map, List.length_map]
  exact ⟨⟨first, one, sent⟩, second, other, sent'⟩

theorem Agree.head {f g : Item} {a b : List Item} (agree : Agree (f :: a) (g :: b)) :
    ∃ text, f.2.wire = .ok text ∧ g.2.wire = .ok text := by
  obtain ⟨same, texts, sent⟩ := agree
  obtain ⟨text, -, -, one, -⟩ := Field.sentAs_cons_iff.mp sent
  obtain ⟨first, -⟩ := List.cons.inj same
  exact ⟨text, one, (Prod.mk.inj first).2 ▸ one⟩

theorem Agree.tail {f g : Item} {a b : List Item} (agree : Agree (f :: a) (g :: b)) : Agree a b :=
  (@Agree.of_append [f] [g] a b agree rfl).2

/-- Whoever reads the same texts, with any others behind them, is told the same. -/
def Alike (a b : List Item) : Prop :=
  ∀ left right rest rest', Field.SentAs (a.map Prod.snd) left →
    Field.SentAs (b.map Prod.snd) right → left.length ≤ Frame.largestLength →
    right.length ≤ Frame.largestLength → left ++ rest = right ++ rest' →
    told a = told b ∧ rest = rest'

theorem alike_of_places {a b : List Item} (same : a.map Prod.fst = b.map Prod.fst) :
    Alike a b := by
  intro left right rest rest' sent sent' _ _ eq
  have count : left.length = right.length := by
    have places := congrArg List.length same
    rw [List.length_map, List.length_map] at places
    rw [sent.length_eq, sent'.length_eq, List.length_map, List.length_map, places]
  obtain ⟨rfl, rfl⟩ := List.append_inj eq count
  refine ⟨?_, rfl⟩
  rw [told_eq_zip, told_eq_zip, same, sent, sent']

/-- The parts of alike lists; what the first parts told may decide on the second ones. -/
theorem alike_append {a b a' b' : List Item} (first : Alike a b)
    (second : Agree a b → Alike a' b') : Alike (a ++ a') (b ++ b') := by
  intro left right rest rest' sent sent' short short' eq
  rw [List.map_append] at sent sent'
  obtain ⟨one, other, rfl, sent₁, sent₂⟩ := Field.sentAs_append_iff.mp sent
  obtain ⟨one', other', rfl, sent₁', sent₂'⟩ := Field.sentAs_append_iff.mp sent'
  rw [List.length_append] at short short'
  rw [List.append_assoc, List.append_assoc] at eq
  obtain ⟨same, more⟩ := first _ _ _ _ sent₁ sent₁' (by omega) (by omega) eq
  obtain ⟨same', rest⟩ := second ⟨same, _, sent₁⟩ _ _ _ _ sent₂ sent₂' (by omega) (by omega) more
  exact ⟨by rw [told_append, told_append, same, same'], rest⟩

theorem alike_cons {f g : Item} {a b : List Item} (place : f.1 = g.1)
    (others : ∀ text, f.2.wire = .ok text → g.2.wire = .ok text → Alike a b) :
    Alike (f :: a) (g :: b) := by
  refine @alike_append [f] [g] a b (alike_of_places (congrArg (fun p => [p]) place)) fun agree => ?_
  obtain ⟨text, one, other⟩ := agree.head
  exact others text one other

theorem alike_flatMap {α : Type} {items : α → List Item} {xs ys : List α}
    (each : ∀ x ∈ xs, ∀ y ∈ ys, Alike (items x) (items y)) (count : xs.length = ys.length) :
    Alike (xs.flatMap items) (ys.flatMap items) := by
  induction xs generalizing ys with
  | nil =>
    obtain rfl := List.length_eq_zero_iff.mp count.symm
    exact alike_of_places rfl
  | cons x xs ih =>
    cases ys with
    | nil => cases count
    | cons y ys =>
      refine alike_append (each x List.mem_cons_self y List.mem_cons_self) fun _ => ih ?_ ?_
      · exact fun x hx y hy => each x (List.mem_cons_of_mem _ hx) y (List.mem_cons_of_mem _ hy)
      · exact Nat.succ.inj count

theorem length_le_length_flatMap {α β : Type} {items : α → List β} (given : ∀ x, items x ≠ [])
    (xs : List α) : xs.length ≤ (xs.flatMap items).length := by
  induction xs with
  | nil => exact Nat.zero_le _
  | cons x xs ih =>
    have one := List.length_pos_iff.mpr (given x)
    rw [List.flatMap_cons, List.length_append, List.length_cons]
    omega

theorem length_eq_of_wire {α : Type} {xs ys : List α} {text : String}
    (sent : (countField xs).wire = .ok text) (sent' : (countField ys).wire = .ok text)
    (short : xs.length ≤ Frame.largestLength) (short' : ys.length ≤ Frame.largestLength) :
    xs.length = ys.length := by
  have faithful {n : Nat} (short : n ≤ Frame.largestLength) : (n : Int) ≠ unsetLong := by
    rw [Frame.largestLength] at short
    rw [unsetLong]
    omega
  have value := Reading.intOf?_of_wire (faithful short) sent
  rw [Reading.intOf?_of_wire (faithful short') sent'] at value
  exact Int.natCast_inj.mp (Option.some.inj value).symm

theorem alike_counted {α : Type} {items : α → List Item} (given : ∀ x, items x ≠ [])
    {xs ys : List α} (each : ∀ x ∈ xs, ∀ y ∈ ys, Alike (items x) (items y)) {text : String}
    (sent : (countField xs).wire = .ok text) (sent' : (countField ys).wire = .ok text) :
    Alike (xs.flatMap items) (ys.flatMap items) := by
  intro left right rest rest' sent₁ sent₂ short short' eq
  have count : xs.length = ys.length := by
    refine length_eq_of_wire sent sent' ?_ ?_
    · refine (length_le_length_flatMap given xs).trans ?_
      rwa [← List.length_map Prod.snd, ← sent₁.length_eq]
    · refine (length_le_length_flatMap given ys).trans ?_
      rwa [← List.length_map Prod.snd, ← sent₂.length_eq]
  exact alike_flatMap each count _ _ _ _ sent₁ sent₂ short short' eq

theorem isEmpty_eq_of_told {α : Type} {items : α → List Item} (given : ∀ x, items x ≠ [])
    {xs ys : List α} (same : told (xs.flatMap items) = told (ys.flatMap items)) :
    xs.isEmpty = ys.isEmpty := by
  have empty (xs : List α) : xs.isEmpty = (told (xs.flatMap items)).isEmpty := by
    cases xs with
    | nil => rfl
    | cons x xs =>
      obtain ⟨item, others, first⟩ := List.exists_cons_of_ne_nil (given x)
      rw [List.flatMap_cons, first]
      rfl
  rw [empty, empty, same]

/-! ## Steps -/

/-- Items that are written at some versions. -/
structure ItemStep where
  span : Span
  items : List Item

namespace ItemStep

def always (items : List Item) : ItemStep := ⟨.always, items⟩

def since (version : Int) (items : List Item) : ItemStep := ⟨.since version, items⟩

def before (version : Int) (items : List Item) : ItemStep := ⟨.before version, items⟩

def between (first next : Int) (items : List Item) : ItemStep := ⟨.between first next, items⟩

def toStep (step : ItemStep) : Step := ⟨step.span, step.items.map Prod.snd⟩

def itemsAt (version : Int) (steps : List ItemStep) : List Item :=
  (steps.filter (·.span.contains version)).flatMap (·.items)

theorem itemsAt_append (version : Int) (steps more : List ItemStep) :
    itemsAt version (steps ++ more) = itemsAt version steps ++ itemsAt version more := by
  rw [itemsAt, List.filter_append, List.flatMap_append]
  rfl

theorem itemsAt_cons (version : Int) (step : ItemStep) (steps : List ItemStep) :
    itemsAt version (step :: steps) =
      (if step.span.contains version then step.items else []) ++ itemsAt version steps := by
  unfold itemsAt
  rw [List.filter_cons]
  split_ifs <;> simp

theorem map_itemsAt (version : Int) (steps : List ItemStep) :
    (itemsAt version steps).map Prod.snd = Step.fieldsAt version (steps.map toStep) := by
  rw [itemsAt, Step.fieldsAt, List.map_flatMap, List.filter_map, List.flatMap_map]
  rfl

/-- The versions of a step and what its items tell. -/
def layout (step : ItemStep) : Span × List Place := (step.span, step.items.map Prod.fst)

variable {version : Int} {first second first' second' : List ItemStep}

theorem map_fst_itemsAt (version : Int) (steps : List ItemStep) :
    (itemsAt version steps).map Prod.fst =
      ((steps.map layout).filter (·.1.contains version)).flatMap Prod.snd := by
  rw [itemsAt, List.map_flatMap, List.filter_map, List.flatMap_map]
  rfl

/-- The items of two lists of steps are alike at a version. -/
def AlikeAt (version : Int) (first second : List ItemStep) : Prop :=
  Alike (itemsAt version first) (itemsAt version second)

/-- The items of two lists of steps agree at a version. -/
def AgreeAt (version : Int) (first second : List ItemStep) : Prop :=
  Agree (itemsAt version first) (itemsAt version second)

theorem alikeAt_of_layout (same : first.map layout = second.map layout) :
    AlikeAt version first second := by
  refine alike_of_places ?_
  rw [map_fst_itemsAt, map_fst_itemsAt, same]

theorem alikeAt_append (one : AlikeAt version first first')
    (other : AgreeAt version first first' → AlikeAt version second second') :
    AlikeAt version (first ++ second) (first' ++ second') := by
  rw [AlikeAt, itemsAt_append, itemsAt_append]
  exact alike_append one other

theorem alikeAt_cons {span : Span} {a b : List Item} (one : Alike a b)
    (others : (span.contains version = true → Agree a b) → AlikeAt version first second) :
    AlikeAt version (⟨span, a⟩ :: first) (⟨span, b⟩ :: second) := by
  rw [AlikeAt, itemsAt_cons, itemsAt_cons]
  dsimp only
  split_ifs with holds
  · exact alike_append one fun agree => others fun _ => agree
  · exact others fun holds' => absurd holds' holds

theorem AgreeAt.head {a b : List Item}
    (agree : AgreeAt version (always a :: first) (always b :: second))
    (count : a.length = b.length := by rfl) : Agree a b := by
  rw [AgreeAt, itemsAt_cons, itemsAt_cons] at agree
  exact (agree.of_append count).1

theorem AgreeAt.tail {span : Span} {a b : List Item}
    (agree : AgreeAt version (⟨span, a⟩ :: first) (⟨span, b⟩ :: second))
    (count : a.length = b.length := by rfl) : AgreeAt version first second := by
  rw [AgreeAt, itemsAt_cons, itemsAt_cons] at agree
  dsimp only at agree
  split_ifs at agree
  · exact (agree.of_append count).2
  · exact agree

end ItemStep

/-! ## Lists of pairs -/

/-- A list of pairs: how many there are, and two fields for each. -/
def pairItems (list : String) (pairs : Option (List TagValue)) : List Item :=
  (.count list, countField (pairs.getD [])) ::
    (pairs.getD []).flatMap fun pair =>
      [(.tag list, .text pair.tag), (.value list, .text pair.value)]

theorem map_pairItems (list : String) (pairs : Option (List TagValue)) :
    (pairItems list pairs).map Prod.snd = countedPairs pairs := by
  rw [pairItems, List.map_cons, List.map_flatMap]
  rfl

theorem alike_pairItems (list : String) (pairs others : Option (List TagValue)) :
    Alike (pairItems list pairs) (pairItems list others) := by
  refine alike_cons rfl fun text sent sent' => ?_
  exact alike_counted (fun _ => List.cons_ne_nil _ _) (fun _ _ _ _ => alike_of_places rfl)
    sent sent'

end TradeWire
