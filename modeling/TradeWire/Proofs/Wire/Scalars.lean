import TradeWire.Proofs.Text.Numeral
import TradeWire.Proofs.Wire.Field
import TradeWire.Proofs.Wire.Reading
import TradeWire.Proofs.Wire.Texts

/-!
# Integers and flags, read back

A field of an integer is its digits, or empty for the two integers that stand for "not set" in
places of 32 and of 64 bits. An empty field is read as the one of the two that belongs to the place,
and as false in the place of a flag. So an integer comes back just where it is not the other of the
two, and its truth just where it is neither (`integers_and_flags_come_back`).
-/

namespace TradeWire

/-! ## Single fields -/

/-- A reading takes one token, whatever stands around it, and gives a value. -/
def Reading.GivesOne {α : Type} (r : Reading α) (token : String) (value : α) : Prop :=
  ∀ position rest, r.start ⟨position, token :: rest⟩ = (.ok value, ⟨position + 1, rest⟩)

theorem Reading.givesOne_converted {α : Type} {reason : DecodeError.Reason}
    {convert : String → Option α} {token : String} {value : α} (h : convert token = some value) :
    (converted reason convert).GivesOne token value := by
  intro position rest
  simp only [converted, start, h]

namespace Field

/-- A scalar is sent as bytes that are split into one token. -/
structure SentAsOne (field : Field) (payload : Bytes) (token : String) : Prop where
  encoded : field.encode = .ok payload
  split : splitFields payload = [token]

theorem encode_eq_ok_iff {field : Field} {payload : Bytes} :
    field.encode = .ok payload ↔ ∃ token, field.wire = .ok token ∧ terminated token = payload := by
  rw [encode]
  cases field.wire <;> simp [Except.map]

theorem sentAsOne_of_wire {field : Field} (plain : field.IsPlain) {token : String}
    (sent : field.wire = .ok token) : field.SentAsOne (terminated token) token := by
  refine ⟨encode_eq_ok_iff.mpr ⟨token, sent, rfl⟩, ?_⟩
  have split := splitFields_terminated (zero_notMem_wire plain sent) []
  rwa [List.append_nil] at split

theorem terminated_injective {first second : String} (plain : '\x00' ∉ first.toList)
    (plain' : '\x00' ∉ second.toList) (same : terminated first = terminated second) :
    first = second := by
  have split := congrArg splitFields same
  rw [← List.append_nil (terminated first), ← List.append_nil (terminated second),
    splitFields_terminated plain, splitFields_terminated plain'] at split
  exact List.head_eq_of_cons_eq split

/-! ## Integers -/

theorem exists_wire_int {n : Int} (few : (Nat.toDigits 10 n.natAbs).length ≤ Text.maxDigits) :
    ∃ token, (Field.int n).wire = .ok token := by
  obtain ⟨digits, written⟩ := Text.exists_writtenInt?_iff.mpr few
  rw [wire, written]
  split_ifs
  · exact ⟨"", rfl⟩
  · exact ⟨digits, rfl⟩

theorem readInt_of_wire {n : Int} {token : String} (sent : (Field.int n).wire = .ok token)
    (given : token ≠ "") : Text.readInt token = .ok n := by
  rw [wire] at sent
  split_ifs at sent
  · cases sent
    exact absurd rfl given
  · cases written : Text.writtenInt? n with
    | none => rw [written] at sent; cases sent
    | some digits =>
      rw [written] at sent
      cases sent
      exact Text.readInt_of_writtenInt? written

theorem eq_or_unset_of_encode {a b : Int} {payload : Bytes}
    (sent : (Field.int a).encode = .ok payload) (sent' : (Field.int b).encode = .ok payload) :
    a = b ∨ (a = unsetInt ∨ a = unsetLong) ∧ (b = unsetInt ∨ b = unsetLong) := by
  obtain ⟨token, one, rfl⟩ := encode_eq_ok_iff.mp sent
  obtain ⟨token', other, same⟩ := encode_eq_ok_iff.mp sent'
  obtain rfl : token' = token :=
    terminated_injective (@zero_notMem_wire (.int b) trivial _ other)
      (@zero_notMem_wire (.int a) trivial _ one) same
  by_cases empty : token' = ""
  · subst empty
    exact .inr ⟨(wire_int_eq_empty_iff a).mp one, (wire_int_eq_empty_iff b).mp other⟩
  · exact .inl (Except.ok.inj ((readInt_of_wire one empty).symm.trans
      (readInt_of_wire other empty)))

end Field

namespace Reading

theorem givesOne_intOr_empty (unset : Int) : (intOr unset).GivesOne "" unset :=
  givesOne_converted (if_pos rfl)

theorem givesOne_intOr {token : String} {n : Int} (given : token ≠ "")
    (read : Text.readInt token = .ok n) (unset : Int) : (intOr unset).GivesOne token n := by
  apply givesOne_converted
  rw [if_neg given, read]
  rfl

theorem givesOne_flag_empty : flag.GivesOne "" false := givesOne_converted (if_pos rfl)

theorem givesOne_flag {token : String} {n : Int} (given : token ≠ "")
    (read : Text.readInt token = .ok n) : flag.GivesOne token (n != 0) := by
  apply givesOne_converted
  rw [if_neg given, read]
  rfl

end Reading

/-- What the three readings of integers make of a field that an integer is sent as. -/
structure IntegerComesBack (n : Int) (token : String) : Prop where
  int : ∃ value, Reading.int.GivesOne token value ∧ (value = n ↔ n ≠ 2 ^ 63 - 1)
  long : ∃ value, Reading.long.GivesOne token value ∧ (value = n ↔ n ≠ 2 ^ 31 - 1)
  flag : ∃ value, Reading.flag.GivesOne token value ∧
    ((value = true ↔ n ≠ 0) ↔ n ≠ 2 ^ 31 - 1 ∧ n ≠ 2 ^ 63 - 1)

theorem integerComesBack_of_wire {n : Int} {token : String}
    (sent : (Field.int n).wire = .ok token) : IntegerComesBack n token := by
  have narrow : unsetInt = 2 ^ 31 - 1 := by norm_num [unsetInt]
  have wide : unsetLong = 2 ^ 63 - 1 := by norm_num [unsetLong]
  by_cases empty : token = ""
  · subst empty
    have unset := (wire_int_eq_empty_iff n).mp sent
    rw [narrow, wide] at unset
    refine ⟨⟨_, Reading.givesOne_intOr_empty unsetInt, ?_⟩,
      ⟨_, Reading.givesOne_intOr_empty unsetLong, ?_⟩, ⟨_, Reading.givesOne_flag_empty, ?_⟩⟩
    · rw [narrow]
      omega
    · rw [wide]
      omega
    · rw [iff_false_left Bool.false_ne_true]
      omega
  · have read := Field.readInt_of_wire sent empty
    have given : ¬ (n = unsetInt ∨ n = unsetLong) := fun unset =>
      empty (Except.ok.inj (sent.symm.trans ((wire_int_eq_empty_iff n).mpr unset)))
    rw [narrow, wide, not_or] at given
    exact ⟨⟨n, Reading.givesOne_intOr empty read _, iff_of_true rfl given.2⟩,
      ⟨n, Reading.givesOne_intOr empty read _, iff_of_true rfl given.1⟩,
      ⟨n != 0, Reading.givesOne_flag empty read, iff_of_true bne_iff_ne given⟩⟩

/-- **Integers and flags come back except at the sentinels.** An integer of at most 4300 digits is
sent as one field, and each of the three readings takes just this field: in a place of 32 bits the
integer is read unless it is the sentinel of 64 bits, in a place of 64 bits unless it is the one of
32 bits, and whether it is zero unless it is one of both. Flags are read back. Two integers that are
sent alike are the same or the two sentinels. -/
theorem integers_and_flags_come_back :
    (∀ n : Int, (Nat.toDigits 10 n.natAbs).length ≤ 4300 →
      ∃ payload token, (Field.int n).SentAsOne payload token ∧ IntegerComesBack n token) ∧
    (∀ value : Bool, ∃ payload token, (Field.flag value).SentAsOne payload token ∧
      Reading.flag.GivesOne token value) ∧
    ∀ (a b : Int) (payload : Bytes), (Field.int a).encode = .ok payload →
      (Field.int b).encode = .ok payload →
      a = b ∨ (a = 2 ^ 31 - 1 ∨ a = 2 ^ 63 - 1) ∧ (b = 2 ^ 31 - 1 ∨ b = 2 ^ 63 - 1) := by
  refine ⟨fun n few => ?_, fun value => ?_, fun a b payload sent sent' => ?_⟩
  · obtain ⟨token, sent⟩ := Field.exists_wire_int few
    exact ⟨_, token, @Field.sentAsOne_of_wire (.int n) trivial _ sent,
      integerComesBack_of_wire sent⟩
  · refine ⟨_, _, @Field.sentAsOne_of_wire (.flag value) trivial _ rfl, ?_⟩
    apply Reading.givesOne_converted
    cases value <;> decide
  · exact Field.eq_or_unset_of_encode sent sent'

/-- The two sentinels, which are sent alike. -/
theorem integers_and_flags_come_back_wide :
    (Nat.toDigits 10 (2 ^ 63 - 1 : Int).natAbs).length ≤ 4300 ∧
      (∃ payload token, (Field.int (2 ^ 63 - 1)).SentAsOne payload token ∧
        IntegerComesBack (2 ^ 63 - 1) token) ∧
      (Field.int (2 ^ 31 - 1)).encode = .ok [0] ∧ (Field.int (2 ^ 63 - 1)).encode = .ok [0] ∧
      ((2 ^ 31 - 1 : Int) = 2 ^ 63 - 1 ∨
        ((2 ^ 31 - 1 : Int) = 2 ^ 31 - 1 ∨ (2 ^ 31 - 1 : Int) = 2 ^ 63 - 1) ∧
          ((2 ^ 63 - 1 : Int) = 2 ^ 31 - 1 ∨ (2 ^ 63 - 1 : Int) = 2 ^ 63 - 1)) := by
  have few : (Nat.toDigits 10 (2 ^ 63 - 1 : Int).natAbs).length ≤ 4300 := by decide
  have narrow : (Field.int (2 ^ 31 - 1)).encode = .ok [0] := by decide
  have wide : (Field.int (2 ^ 63 - 1)).encode = .ok [0] := by decide
  obtain ⟨integers, -, apart⟩ := integers_and_flags_come_back
  exact ⟨few, integers _ few, narrow, wide, apart _ _ _ narrow wide⟩

end TradeWire
