import Mathlib.Tactic
import TradeWire.Message.Basic
import TradeWire.Proofs.Record.Nominal
import TradeWire.Proofs.Wire.Field
import TradeWire.Proofs.Wire.Reading
import TradeWire.Proofs.Wire.Texts
import TradeWire.Request.PlaceOrder

/-!
# Fields, read back

A reading recovers a value from some fields if their message, split again, is read as that value,
whatever follows and without touching it (`Reading.Recovers`). Recovery is put together like the
readings are: in sequence, for each item of a list, for one change of a value after another.
-/

namespace TradeWire

def doubleOf? (token : String) : Option Double :=
  if token = "" then some unsetDouble else Text.readDouble? token

namespace Field

/-- A scalar that its text does not lose: a text without the zero character, an integer other than
the unset one of 64 bits, a double that its text is read as. -/
def IsFaithful : Field → Prop
  | .empty | .flag _ => True
  | .int value => value ≠ unsetLong
  | .real value => (Field.real value).wire.toOption.bind doubleOf? = some value
  | .text value => '\x00' ∉ value.toList

instance : DecidablePred IsFaithful
  | .empty | .flag _ => inferInstanceAs (Decidable True)
  | .int value => inferInstanceAs (Decidable (value ≠ unsetLong))
  | .real value =>
    inferInstanceAs (Decidable ((Field.real value).wire.toOption.bind doubleOf? = some value))
  | .text value => inferInstanceAs (Decidable ('\x00' ∉ value.toList))

theorem IsFaithful.isPlain {field : Field} (faithful : field.IsFaithful) : field.IsPlain := by
  cases field with
  | text value => exact faithful
  | _ => trivial

end Field

namespace Reading

variable {α β : Type}

/-- Encoded, split and read, some fields give a value, and what follows them is left. -/
def Recovers (fields : List Field) (r : Reading α) (value : α) : Prop :=
  (∀ field ∈ fields, field.IsFaithful) →
    ∀ payload, Field.encodeAll fields = .ok payload → ∀ position rest,
      r.start ⟨position, splitFields payload ++ rest⟩ =
        (.ok value, ⟨position + fields.length, rest⟩)

/-- A value is recovered from the texts of the fields. -/
theorem recovers_iff {fields : List Field} {r : Reading α} {value : α} :
    Recovers fields r value ↔
      ((∀ field ∈ fields, field.IsFaithful) → ∀ texts, Field.SentAs fields texts →
        ∀ position rest, r.start ⟨position, texts ++ rest⟩ =
          (.ok value, ⟨position + fields.length, rest⟩)) := by
  constructor
  · intro recovers faithful texts sent
    have encoded : Field.encodeAll fields = .ok (texts.flatMap Field.terminated) :=
      Field.encodeAll_eq_ok_iff.mpr ⟨texts, sent, rfl⟩
    have split := sentAs_splitFields (fun field h => (faithful field h).isPlain) encoded
    rw [sent.unique split]
    exact recovers faithful _ encoded
  · intro recovers faithful payload encoded
    exact recovers faithful _
      (sentAs_splitFields (fun field h => (faithful field h).isPlain) encoded)

/-! ## Readings in sequence -/

theorem recovers_pure (value : α) : Recovers [] (pure value) value := by
  rw [recovers_iff]
  intro _ texts sent position rest
  rw [Field.sentAs_nil_iff.mp sent]
  rfl

theorem recovers_bind {first second : List Field} {r : Reading α} {a : α} {more : α → Reading β}
    {b : β} (one : Recovers first r a) (other : Recovers second (more a) b) :
    Recovers (first ++ second) (r >>= more) b := by
  rw [recovers_iff] at one other ⊢
  intro faithful texts sent position rest
  obtain ⟨faithful₁, faithful₂⟩ := List.forall_mem_append.mp faithful
  obtain ⟨left, right, rfl, sent₁, sent₂⟩ := Field.sentAs_append_iff.mp sent
  rw [start_bind, List.append_assoc, one faithful₁ left sent₁, List.length_append, ← Nat.add_assoc]
  exact other faithful₂ right sent₂ _ rest

theorem recovers_cons {field : Field} {fields : List Field} {r : Reading α} {a : α}
    {more : α → Reading β} {b : β} (one : Recovers [field] r a)
    (other : Recovers fields (more a) b) : Recovers (field :: fields) (r >>= more) b :=
  recovers_bind one other

theorem recovers_map {fields : List Field} {r : Reading α} {a : α} (h : Recovers fields r a)
    (f : α → β) : Recovers fields (r >>= fun value => pure (f value)) (f a) := by
  rw [← List.append_nil fields]
  exact recovers_bind h (recovers_pure (f a))

theorem recovers_onlyIf {field : Field} {fields : List Field} {condition : Bool}
    (holds : condition = true) {default a : α} {r : Reading α} {more : α → Reading β} {b : β}
    (one : Recovers [field] r a) (other : Recovers fields (more a) b) :
    Recovers (field :: fields) (onlyIf condition default r >>= more) b := by
  rw [onlyIf, if_pos holds]
  exact recovers_cons one other

theorem recovers_unless {fields : List Field} {condition : Bool} (fails : condition = false)
    {default : α} {r : Reading α} {more : α → Reading β} {b : β}
    (other : Recovers fields (more default) b) :
    Recovers fields (onlyIf condition default r >>= more) b := by
  rw [onlyIf, if_neg (ne_true_of_eq_false fails)]
  exact other

theorem recovers_times {ι : Type} {items : List ι} {fields : ι → List Field} {r : Reading α}
    {value : ι → α} (h : ∀ item ∈ items, Recovers (fields item) r (value item)) :
    Recovers (items.flatMap fields) (times items.length r) (items.map value) := by
  induction items with
  | nil => exact recovers_pure []
  | cons item items ih =>
    obtain ⟨first, others⟩ := List.forall_mem_cons.mp h
    exact recovers_bind first (recovers_map (ih others) (value item :: ·))

/-! ## Single fields -/

theorem recovers_converted {field : Field} {reason : DecodeError.Reason}
    {convert : String → Option α} {value : α}
    (h : field.IsFaithful → ∀ text, field.wire = .ok text → convert text = some value) :
    Recovers [field] (converted reason convert) value := by
  rw [recovers_iff]
  intro faithful texts sent position rest
  obtain ⟨text, others, rfl, one, none⟩ := Field.sentAs_cons_iff.mp sent
  obtain rfl := Field.sentAs_nil_iff.mp none
  rw [converted, start]
  simp only [List.cons_append, List.nil_append, h (faithful field (.head _)) text one]
  rfl

theorem intOf?_of_wire {n : Int} (faithful : n ≠ unsetLong) {text : String}
    (sent : (Field.int n).wire = .ok text) : intOf? text = some n := by
  rw [Field.wire] at sent
  split_ifs at sent with unset
  · cases sent
    rw [unset.resolve_right faithful]
    rfl
  · cases written : Text.writtenInt? n with
    | none => rw [written] at sent; cases sent
    | some digits =>
      rw [written] at sent
      cases sent
      have given : text ≠ "" := fun empty => Text.writtenInt?_ne_empty n (empty ▸ written)
      rw [intOf?, if_neg given, Text.readInt_of_writtenInt? written]
      rfl

theorem recovers_int (n : Int) : Recovers [.int n] int n :=
  recovers_converted fun faithful _ sent => intOf?_of_wire faithful sent

theorem recovers_flag (value : Bool) : Recovers [.flag value] flag value :=
  recovers_converted fun _ text sent => by
    cases sent
    cases value <;> decide

theorem recovers_double (x : Double) : Recovers [.real x] double x :=
  recovers_converted fun faithful text sent => by
    rw [Field.IsFaithful, sent] at faithful
    exact faithful

theorem recovers_number {n : Number} (real : n.isReal = true) : Recovers [n.field] number n := by
  cases n with
  | int value => cases real
  | real x => exact recovers_map (recovers_double x) Number.real

theorem recovers_next (value : String) : Recovers [.text value] next value := by
  rw [recovers_iff]
  intro _ texts sent position rest
  obtain ⟨text, others, rfl, ⟨⟩, none⟩ := Field.sentAs_cons_iff.mp sent
  obtain rfl := Field.sentAs_nil_iff.mp none
  rfl

theorem recovers_text {label : Label} (given : label.isSome = true) :
    Recovers [label.field] text label := by
  obtain ⟨value, rfl⟩ := Option.isSome_iff_exists.mp given
  exact recovers_map (recovers_next value) some

/-! ## Lists -/

theorem recovers_listOf {ι : Type} {items : List ι} {fields : ι → List Field} {r : Reading α}
    {value : ι → α} (h : ∀ item ∈ items, Recovers (fields item) r (value item)) :
    Recovers (countField items :: items.flatMap fields) (listOf r) (items.map value) :=
  recovers_cons (recovers_int items.length) (recovers_times h)

theorem recovers_pairs (pairs : List TagValue) :
    Recovers (countedPairs (some pairs)) Reading.pairs pairs := by
  have one (pair : TagValue) : Recovers pair.pairFields Reading.pair pair :=
    recovers_cons (recovers_next pair.tag) (recovers_map (recovers_next pair.value) _)
  have all : Recovers (countedPairs (some pairs)) Reading.pairs (pairs.map fun pair => pair) :=
    recovers_listOf fun pair _ => one pair
  rwa [List.map_id'] at all

/-! ## Changes of a value -/

end Reading

end TradeWire
