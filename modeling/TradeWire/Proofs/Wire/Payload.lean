import Mathlib.Tactic
import TradeWire.Proofs.Text.Utf8
import TradeWire.Wire.Field

/-!
# Payloads

A message of some fields is sent as their texts, each followed by one zero byte. So it ends in a
zero byte (`getLast?_encodeAll`), its first field is read back as long as it holds no zero character
(`splitFields_terminated`), and it is at least as long as the list of its fields
(`length_splitFields_le`).
-/

namespace TradeWire

theorem encodeAll_cons_eq_ok {field : Field} {fields : List Field} {payload : Bytes} :
    Field.encodeAll (field :: fields) = .ok payload ↔
      ∃ text others, field.wire = .ok text ∧ Field.encodeAll fields = .ok others ∧
        payload = Field.terminated text ++ others := by
  rw [Field.encodeAll, Field.encode]
  cases field.wire with
  | error error => exact ⟨nofun, fun ⟨_, _, h, _⟩ => nomatch h⟩
  | ok text =>
    cases Field.encodeAll fields with
    | error error => exact ⟨nofun, fun ⟨_, _, _, h, _⟩ => nomatch h⟩
    | ok others =>
      constructor
      · rintro ⟨⟩
        exact ⟨text, others, rfl, rfl, rfl⟩
      · rintro ⟨_, _, ⟨⟩, ⟨⟩, rfl⟩
        rfl

theorem getLast?_encodeAll {field : Field} {fields : List Field} {payload : Bytes}
    (encoded : Field.encodeAll (field :: fields) = .ok payload) : payload.getLast? = some 0 := by
  induction fields generalizing field payload with
  | nil =>
    obtain ⟨text, others, -, ⟨⟩, rfl⟩ := encodeAll_cons_eq_ok.mp encoded
    rw [List.append_nil, Field.terminated, List.getLast?_concat]
  | cons next fields ih =>
    obtain ⟨text, others, -, rest, rfl⟩ := encodeAll_cons_eq_ok.mp encoded
    rw [List.getLast?_append, ih rest]
    rfl

theorem piecesFrom_append_zero (piece : Bytes) {bytes : Bytes} (h : 0 ∉ bytes) (rest : Bytes) :
    piecesFrom piece (bytes ++ 0 :: rest) = (piece.reverse ++ bytes) :: piecesFrom [] rest := by
  induction bytes generalizing piece with
  | nil => rw [List.nil_append, piecesFrom, if_pos rfl, List.append_nil]
  | cons b bytes ih =>
    obtain ⟨nonzero, others⟩ := List.ne_and_not_mem_of_not_mem_cons h
    rw [List.cons_append, piecesFrom, if_neg (Ne.symm nonzero), ih (b :: piece) others,
      List.reverse_cons, List.append_assoc, List.singleton_append]

theorem splitFields_terminated {text : String} (h : '\x00' ∉ text.toList) (rest : Bytes) :
    splitFields (Field.terminated text ++ rest) = text :: splitFields rest := by
  rw [splitFields, Field.terminated, List.append_assoc, List.singleton_append,
    piecesFrom_append_zero [] (Text.zero_notMem_encode h), List.map_cons, List.reverse_nil,
    List.nil_append, Text.decode_encode]
  rfl

theorem length_piecesFrom_le (piece rest : Bytes) :
    (piecesFrom piece rest).length ≤ piece.length + rest.length := by
  induction rest generalizing piece with
  | nil => cases piece <;> simp [piecesFrom]
  | cons b rest ih =>
    rw [piecesFrom]
    split_ifs
    · have others := ih []
      simp only [List.length_cons, List.length_nil] at others ⊢
      omega
    · have whole := ih (b :: piece)
      simp only [List.length_cons] at whole ⊢
      omega

theorem length_splitFields_le (payload : Bytes) :
    (splitFields payload).length ≤ payload.length := by
  rw [splitFields, List.length_map]
  simpa using length_piecesFrom_le [] payload

end TradeWire
