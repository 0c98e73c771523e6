import TradeWire.Proofs.Record.Apart
import TradeWire.Proofs.Request.Plan
import TradeWire.Request.PlaceOrder

/-!
# Steps of requests that differ in one text

The fields of two lists of steps are no further apart, at a version, than the steps are in all
(`Step.distance_le_changes`). What many requests write is no further apart than what it is written
from: contracts with their legs and hedges, and lists of pairs.
-/

namespace TradeWire

/-! ## Steps -/

namespace Step

/-- How far the fields of two lists of steps are apart at a version. -/
noncomputable def distance (s t : String) (version : Int) (steps others : List Step) : ℕ :=
  Field.distance s t (fieldsAt version steps) (fieldsAt version others)

/-- How far two lists of steps are apart in all. -/
@[simp]
noncomputable def changes (s t : String) : List Step → List Step → ℕ
  | [], [] => 0
  | step :: steps, other :: others =>
    (if step.span = other.span then Field.changes s t step.fields other.fields else 2) +
      changes s t steps others
  | _, _ => 2

variable {s t : String} {version : Int}

@[simp]
theorem span_always (fields : List Field) : (always fields).span = .always := rfl

@[simp]
theorem fields_always (fields : List Field) : (always fields).fields = fields := rfl

@[simp]
theorem span_since (first : Int) (fields : List Field) :
    (since first fields).span = .since first := rfl

@[simp]
theorem fields_since (first : Int) (fields : List Field) :
    (since first fields).fields = fields := rfl

@[simp]
theorem span_before (next : Int) (fields : List Field) :
    (before next fields).span = .before next := rfl

@[simp]
theorem fields_before (next : Int) (fields : List Field) :
    (before next fields).fields = fields := rfl

theorem distance_le_two (steps others : List Step) : distance s t version steps others ≤ 2 :=
  Field.distance_le_two _ _

theorem distance_append_le (steps others steps' others' : List Step) :
    distance s t version (steps ++ steps') (others ++ others') ≤
      distance s t version steps others + distance s t version steps' others' := by
  rw [distance, fieldsAt_append, fieldsAt_append]
  exact Field.distance_append_le _ _ _ _

theorem distance_cons_le (span : Span) (fields fields' : List Field) (steps others : List Step) :
    distance s t version (⟨span, fields⟩ :: steps) (⟨span, fields'⟩ :: others) ≤
      Field.distance s t fields fields' + distance s t version steps others := by
  rw [distance, fieldsAt_cons, fieldsAt_cons]
  refine (Field.distance_append_le _ _ _ _).trans (Nat.add_le_add_right ?_ _)
  dsimp only
  split_ifs
  · exact le_rfl
  · exact Nat.zero_le _

theorem distance_le_changes (steps others : List Step) :
    distance s t version steps others ≤ changes s t steps others := by
  induction steps generalizing others with
  | nil =>
    cases others with
    | nil => exact Nat.zero_le _
    | cons other others => exact distance_le_two _ _
  | cons step steps ih =>
    cases others with
    | nil => exact distance_le_two _ _
    | cons other others =>
      obtain ⟨span, fields⟩ := step
      obtain ⟨span', fields'⟩ := other
      rw [changes]
      by_cases same : span = span'
      · obtain rfl := same
        rw [if_pos rfl]
        exact (distance_cons_le _ _ _ _ _).trans
          (Nat.add_le_add (Field.distance_le_changes _ _) (ih others))
      · rw [if_neg same]
        exact (distance_le_two _ _).trans (Nat.le_add_right _ _)

/-- Of two steps, for the versions since and before the same one, one is written. -/
theorem distance_since_before_le {first : Int} {newer newer' older older' : List Field} {n : ℕ}
    (new : Field.distance s t newer newer' ≤ n) (old : Field.distance s t older older' ≤ n)
    (steps others : List Step) :
    distance s t version (since first newer :: before first older :: steps)
        (since first newer' :: before first older' :: others) ≤
      n + distance s t version steps others := by
  by_cases known : first ≤ version
  · have since : (Span.since first).contains version = true := decide_eq_true known
    have before : (Span.before first).contains version = false :=
      decide_eq_false (Int.not_lt.mpr known)
    simp only [distance, fieldsAt_cons, span_since, span_before, fields_since, fields_before, since,
      before, if_true, Bool.false_eq_true, if_false, List.nil_append]
    exact (Field.distance_append_le _ _ _ _).trans (Nat.add_le_add_right new _)
  · have since : (Span.since first).contains version = false := decide_eq_false known
    have before : (Span.before first).contains version = true :=
      decide_eq_true (Int.not_le.mp known)
    simp only [distance, fieldsAt_cons, span_since, span_before, fields_since, fields_before, since,
      before, if_true, Bool.false_eq_true, if_false, List.nil_append]
    exact (Field.distance_append_le _ _ _ _).trans (Nat.add_le_add_right old _)

theorem distance_flatten_le {groups others : List (List Step)}
    (lengths : groups.length = others.length) :
    distance s t version groups.flatten others.flatten ≤
      (List.zipWith (distance s t version) groups others).sum := by
  induction groups generalizing others with
  | nil =>
    cases others with
    | nil => exact (Field.distance_self _).trans_le (Nat.zero_le _)
    | cons other others => cases lengths
  | cons group groups ih =>
    cases others with
    | nil => cases lengths
    | cons other others =>
      rw [List.flatten_cons, List.flatten_cons, List.zipWith_cons_cons, List.sum_cons]
      exact (distance_append_le _ _ _ _).trans (Nat.add_le_add_left (ih (Nat.succ.inj lengths)) _)

theorem distance_le_jump {α : Type} (f : α → List Step) (one other : α) :
    distance s t version (f one) (f other) ≤ jump one other :=
  Field.distance_le_jump (fun value => fieldsAt version (f value)) one other

end Step

/-! ## Lists -/

section

variable {s t : String}

/-- The number of items in front does not add to the distance; it decides how many there are. -/
theorem distance_counted_le {α : Type} [Described α] (f : List α → List Field)
    (near : ∀ items others : List α, items.length = others.length →
      Field.distance s t (f items) (f others) ≤
        Datum.changeItems s t (items.map describe) (others.map describe))
    (one other : Option (List α)) :
    Field.distance s t (countField (one.getD []) :: f (one.getD []))
        (countField (other.getD []) :: f (other.getD [])) ≤
      (describe one).change s t (describe other) := by
  refine Datum.distance_optional_le (fun items => countField items :: f items)
    (fun items others => ?_) one other
  by_cases lengths : items.length = others.length
  · have first := Field.distance_cons_le (s := s) (t := t) (countField items) (countField others)
      (f items) (f others)
    rw [countField, countField, lengths, Field.change_self, zero_add] at first
    rw [countField, countField, lengths]
    exact first.trans (near items others lengths)
  · refine (Field.distance_le_two _ _).trans (Datum.two_le_changeItems ?_)
    rwa [List.length_map, List.length_map]

/-! ### Pairs -/

theorem change_tagValue (pair other : TagValue) :
    (describe pair).change s t (describe other) =
      Text.change s t pair.tag other.tag + Text.change s t pair.value other.value := by
  show (Datum.record _ _).change s t (.record _ _) = _
  rw [Datum.change, if_pos rfl]
  simp [Datum.changeAttributes, Datum.selecting, Datum.change, Field.change, Field.text?]

theorem change_text_le (pair other : TagValue) :
    Text.change s t pair.text other.text ≤ (describe pair).change s t (describe other) := by
  have ends := Text.change_append_le (s := s) (t := t) (pair.tag ++ "=" ++ pair.value)
    (other.tag ++ "=" ++ other.value) ";" ";"
  have value := Text.change_append_le (s := s) (t := t) (pair.tag ++ "=") (other.tag ++ "=")
    pair.value other.value
  have tag := Text.change_append_le (s := s) (t := t) pair.tag other.tag "=" "="
  rw [Text.change_self] at ends tag
  rw [TagValue.text, TagValue.text, change_tagValue]
  omega

theorem change_join_le (pairs others : List TagValue) :
    Text.change s t (String.join (pairs.map TagValue.text))
        (String.join (others.map TagValue.text)) ≤
      Datum.changeItems s t (pairs.map describe) (others.map describe) := by
  induction pairs generalizing others with
  | nil =>
    cases others with
    | nil => exact (Text.change_self _).trans_le (Nat.zero_le _)
    | cons other others => exact Text.change_le_two _ _
  | cons pair pairs ih =>
    cases others with
    | nil => exact Text.change_le_two _ _
    | cons other others =>
      rw [List.map_cons, List.map_cons, String.join_cons, String.join_cons, List.map_cons,
        List.map_cons, Datum.changeItems]
      exact (Text.change_append_le _ _ _ _).trans
        (Nat.add_le_add (change_text_le pair other) (ih others))

theorem change_joinedField_le (pairs others : Option (List TagValue)) :
    (joinedField pairs).change s t (joinedField others) ≤
      (describe pairs).change s t (describe others) := by
  have near : Field.distance s t [joinedField pairs] [joinedField others] ≤
      (describe pairs).change s t (describe others) :=
    Datum.distance_optional_le (fun pairs => [.text (String.join (pairs.map TagValue.text))])
      (fun _ _ => (Field.distance_le_changes _ _).trans (change_join_le _ _)) pairs others
  have cap := @Field.change_le_two s t (joinedField pairs) (joinedField others)
  rw [Field.distance, Field.changes, Field.changes] at near
  omega

theorem distance_countedJoined_le (pairs others : Option (List TagValue)) :
    Field.distance s t [countField (pairs.getD []), joinedField pairs]
        [countField (others.getD []), joinedField others] ≤
      (describe pairs).change s t (describe others) :=
  distance_counted_le (fun pairs => [.text (String.join (pairs.map TagValue.text))])
    (fun _ _ _ => (Field.distance_le_changes _ _).trans (change_join_le _ _)) pairs others

theorem distance_concat_joined_le {version : Int} (first : Int) (steps steps' : List Step)
    (pairs others : Option (List TagValue)) :
    Step.distance s t version
        (steps ++ [.since first [countField (pairs.getD []), joinedField pairs]])
        (steps' ++ [.since first [countField (others.getD []), joinedField others]]) ≤
      Step.distance s t version steps steps' + (describe pairs).change s t (describe others) := by
  refine (Step.distance_append_le _ _ _ _).trans (Nat.add_le_add_left ?_ _)
  refine (Step.distance_cons_le _ _ _ _ _).trans ?_
  exact distance_countedJoined_le pairs others

theorem distance_countedPairs_le (pairs others : Option (List TagValue)) :
    Field.distance s t (countedPairs pairs) (countedPairs others) ≤
      (describe pairs).change s t (describe others) := by
  refine distance_counted_le (·.flatMap TagValue.pairFields)
    (fun pairs others _ => Datum.distance_flatMap_le (fun pair other => ?_) pairs others)
    pairs others
  rw [change_tagValue]
  exact Field.distance_le_changes _ _

end

/-! ## Contracts -/

namespace Contract

variable {s t : String} {version : Int}

theorem change_comboLeg (leg other : ComboLeg) :
    (describe leg).change s t (describe other) =
      jump leg.contractId other.contractId + jump leg.ratio other.ratio +
        leg.action.field.change s t other.action.field +
        leg.exchange.field.change s t other.exchange.field + jump leg.openClose other.openClose +
        jump leg.shortSaleSlot other.shortSaleSlot +
        leg.designatedLocation.field.change s t other.designatedLocation.field +
        jump leg.exemptCode other.exemptCode := by
  rw [Holder.change_eq_sum]
  simp [Holder.attributes, Holder.kind, Holder.changeIn, Attribute.of, Datum.selecting, add_assoc]

/-- The attributes of a contract, where those that decide which fields are sent are equal or far
apart. -/
theorem change_contract (c other : Contract) :
    (describe c).change s t (describe other) =
      jump c.contractId other.contractId + c.symbol.field.change s t other.symbol.field +
        jump c.secType other.secType + c.lastTradeDate.field.change s t other.lastTradeDate.field +
        jump c.strike other.strike + c.right.field.change s t other.right.field +
        c.multiplier.field.change s t other.multiplier.field + jump c.exchange other.exchange +
        jump c.primaryExchange other.primaryExchange +
        c.currency.field.change s t other.currency.field +
        c.localSymbol.field.change s t other.localSymbol.field +
        c.tradingClass.field.change s t other.tradingClass.field +
        jump c.includeExpired other.includeExpired +
        c.secIdType.field.change s t other.secIdType.field +
        c.secId.field.change s t other.secId.field +
        c.comboDescription.field.change s t other.comboDescription.field +
        (describe c.comboLegs).change s t (describe other.comboLegs) +
        (describe c.deltaNeutral).change s t (describe other.deltaNeutral) := by
  rw [Holder.change_eq_sum]
  simp [Holder.attributes, Holder.kind, Holder.changeIn, Attribute.of, Datum.selecting, add_assoc]

theorem jump_secType_le_change (c other : Contract) :
    jump c.secType other.secType ≤ (describe c).change s t (describe other) := by
  rw [change_contract]
  omega

theorem sum_le_change (c other : Contract) :
    jump c.contractId other.contractId + c.symbol.field.change s t other.symbol.field +
        c.secType.field.change s t other.secType.field +
        c.lastTradeDate.field.change s t other.lastTradeDate.field +
        jump c.strike other.strike + c.right.field.change s t other.right.field +
        c.multiplier.field.change s t other.multiplier.field +
        c.exchange.field.change s t other.exchange.field +
        c.primaryExchange.field.change s t other.primaryExchange.field +
        c.currency.field.change s t other.currency.field +
        c.localSymbol.field.change s t other.localSymbol.field +
        c.tradingClass.field.change s t other.tradingClass.field +
        jump c.includeExpired other.includeExpired +
        c.secIdType.field.change s t other.secIdType.field +
        c.secId.field.change s t other.secId.field +
        (describe c.comboLegs).change s t (describe other.comboLegs) +
        (describe c.deltaNeutral).change s t (describe other.deltaNeutral) ≤
      (describe c).change s t (describe other) := by
  have secType := @Field.change_le_jump s t _ Label.field c.secType other.secType
  have exchange := @Field.change_le_jump s t _ Label.field c.exchange other.exchange
  have primary := @Field.change_le_jump s t _ Label.field c.primaryExchange other.primaryExchange
  rw [change_contract]
  omega

theorem distance_among_le {c other : Contract} {contractId primaryExchange tradingClass : Span}
    {lead lead' : List Field} {tail tail' : List Step} {n : ℕ}
    (rest : Field.changes s t lead lead' + (describe c).change s t (describe other) +
      Step.changes s t tail tail' ≤ n + jump c.includeExpired other.includeExpired) :
    Step.distance s t version
        (.always lead :: c.steps contractId primaryExchange tradingClass ++ tail)
        (.always lead' :: other.steps contractId primaryExchange tradingClass ++ tail') ≤ n := by
  have parts := @sum_le_change s t c other
  refine (Step.distance_le_changes _ _).trans ?_
  simp only [steps, List.cons_append, List.nil_append, Step.changes, Step.span_always,
    Step.fields_always, if_true, Field.changes, Field.change_int, Field.change_number]
  omega

theorem distance_legSteps_le (c other : Contract) :
    Step.distance s t version c.legSteps other.legSteps ≤ jump c.secType other.secType +
      (describe c.comboLegs).change s t (describe other.comboLegs) := by
  refine Field.distance_le_jump_add fun same => ?_
  have combo : other.isCombo = c.isCombo := by rw [isCombo, isCombo, same]
  rw [legSteps, legSteps, combo]
  split_ifs
  · refine (Step.distance_cons_le _ _ _ _ _).trans ?_
    refine distance_counted_le (·.flatMap legFields) (fun legs others _ =>
      Datum.distance_flatMap_le (fun leg other => ?_) legs others) c.comboLegs other.comboLegs
    refine (Field.distance_le_changes _ _).trans ?_
    rw [change_comboLeg]
    simp only [legFields, Field.changes, Field.change_int]
    omega
  · exact (Field.distance_self _).trans_le (Nat.zero_le _)

theorem distance_amongLegs_le {c other : Contract} {front front' tail tail' : List Step} {n : ℕ}
    (rest : Step.distance s t version front front' +
      (describe c.comboLegs).change s t (describe other.comboLegs) +
      Step.distance s t version tail tail' ≤ n)
    (whole : (describe c).change s t (describe other) ≤ n) :
    Step.distance s t version (front ++ c.legSteps ++ tail) (front' ++ other.legSteps ++ tail') ≤
      n := by
  have legs := @distance_legSteps_le s t version c other
  have first := @Step.distance_append_le s t version front front' c.legSteps other.legSteps
  have all := @Step.distance_append_le s t version (front ++ c.legSteps) (front' ++ other.legSteps)
    tail tail'
  have cap := @Step.distance_le_two s t version (front ++ c.legSteps ++ tail)
    (front' ++ other.legSteps ++ tail')
  have kind := @jump_secType_le_change s t c other
  rcases jump_eq_or c.secType other.secType with same | far <;> omega

theorem distance_neutralFields_le (c other : Contract) :
    Field.distance s t c.neutralFields other.neutralFields ≤
      (describe c.deltaNeutral).change s t (describe other.deltaNeutral) := by
  unfold neutralFields
  cases c.deltaNeutral with
  | none =>
    cases other.deltaNeutral with
    | none => exact (Field.distance_self _).trans_le (Nat.zero_le _)
    | some neutral =>
      have far : jump (Datum.scalar .empty) (describe neutral) = 2 := jump_of_ne nofun
      exact (Field.distance_le_two _ _).trans far.ge
  | some neutral =>
    cases other.deltaNeutral with
    | none =>
      have far : jump (describe neutral) (Datum.scalar .empty) = 2 := jump_of_ne nofun
      exact (Field.distance_le_two _ _).trans far.ge
    | some neutral' =>
      have parts : (describe neutral).change s t (describe neutral') =
          jump neutral.contractId neutral'.contractId + jump neutral.delta neutral'.delta +
            jump neutral.price neutral'.price := by
        rw [Holder.change_eq_sum]
        simp [Holder.attributes, Holder.kind, Holder.changeIn, Attribute.of, Datum.selecting,
          add_assoc]
      refine (Field.distance_le_changes _ _).trans ?_
      show _ ≤ (describe neutral).change s t (describe neutral')
      rw [parts]
      simp only [Field.changes, Field.change_flag, jump_self, Field.change_int,
        Field.change_number]
      omega

end Contract

end TradeWire
