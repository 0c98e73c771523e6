import TradeWire.Proofs.Wire.Texts
import TradeWire.Record.Datum

/-!
# Messages, split and put together again

Nothing keeps the zero character out of a text, and it is sent as the zero byte that ends a field.
So a message splits into the parts of its texts between their zero characters (`Text.pieces`,
`splitFields_flatMap_pieces`), and these are the texts themselves just if none of them holds one.
The other way round, the fields of a payload are put together to that payload again, with a zero
byte at its end if it has none there (`flatMap_terminated_splitFields`). Main statement:
`encode_split_inverse`.
-/

namespace TradeWire

/-! ## Texts with zero characters -/

namespace Text

/-- The parts of a text between its zero characters. -/
def pieces (text : String) : List String := (text.toList.splitOn '\x00').map String.ofList

/-- Every text is plain, or a plain text and another one with a zero character in between. -/
theorem zero_induction {motive : String → Prop}
    (plain : ∀ text, '\x00' ∉ text.toList → motive text)
    (cut : ∀ cs ds, '\x00' ∉ cs → motive (String.ofList ds) →
      motive (String.ofList (cs ++ '\x00' :: ds))) (text : String) : motive text := by
  suffices all : ∀ length, ∀ cs : List Char, cs.length = length → motive (String.ofList cs) by
    rw [← text.ofList_toList]
    exact all _ _ rfl
  intro length
  induction length using Nat.strong_induction_on with
  | _ length shorter =>
    intro cs sized
    by_cases zero : '\x00' ∈ cs
    · obtain ⟨left, right, rfl, first⟩ := List.eq_append_cons_of_mem zero
      rw [List.length_append, List.length_cons] at sized
      exact cut left right first (shorter right.length (by omega) right rfl)
    · exact plain _ (by rwa [String.toList_ofList])

theorem pieces_of_plain {text : String} (plain : '\x00' ∉ text.toList) : pieces text = [text] := by
  rw [pieces, List.splitOn_eq_singleton plain, List.map_singleton, String.ofList_toList]

theorem pieces_cut {cs : List Char} (plain : '\x00' ∉ cs) (ds : List Char) :
    pieces (String.ofList (cs ++ '\x00' :: ds)) =
      String.ofList cs :: pieces (String.ofList ds) := by
  rw [pieces, pieces, String.toList_ofList, String.toList_ofList,
    List.splitOn_append_cons_self_of_not_mem plain, List.map_cons]

theorem length_pieces (text : String) :
    (pieces text).length = text.toList.count '\x00' + 1 := by
  induction text using zero_induction with
  | plain text plain => rw [pieces_of_plain plain, List.count_eq_zero_of_not_mem plain]; rfl
  | cut cs ds plain ih =>
    rw [pieces_cut plain, List.length_cons, ih, String.toList_ofList, String.toList_ofList,
      List.count_append, List.count_cons_self, List.count_eq_zero_of_not_mem plain, Nat.zero_add]

end Text

theorem terminated_cut (cs ds : List Char) :
    Field.terminated (String.ofList (cs ++ '\x00' :: ds)) =
      Field.terminated (String.ofList cs) ++ Field.terminated (String.ofList ds) := by
  have zero : String.utf8EncodeChar '\x00' = [0] := by decide
  simp only [Field.terminated, Text.encode, Text.encodeChars, String.toList_ofList,
    List.flatMap_append, List.flatMap_cons, zero, List.append_assoc]

/-! ## Splitting -/

theorem splitFields_terminated_append (text : String) (rest : Bytes) :
    splitFields (Field.terminated text ++ rest) = Text.pieces text ++ splitFields rest := by
  induction text using Text.zero_induction generalizing rest with
  | plain text plain =>
    rw [Text.pieces_of_plain plain, splitFields_terminated plain, List.singleton_append]
  | cut cs ds plain ih =>
    have first : '\x00' ∉ (String.ofList cs).toList := by rwa [String.toList_ofList]
    rw [terminated_cut, List.append_assoc, splitFields_terminated first, ih, Text.pieces_cut plain,
      List.cons_append]

/-- **A message splits into the pieces of its texts.** -/
theorem splitFields_flatMap_pieces (texts : List String) :
    splitFields (texts.flatMap Field.terminated) = texts.flatMap Text.pieces := by
  induction texts with
  | nil => rfl
  | cons text texts ih =>
    rw [List.flatMap_cons, splitFields_terminated_append, ih, List.flatMap_cons]

theorem length_splitFields_flatMap (texts : List String) :
    (splitFields (texts.flatMap Field.terminated)).length =
      texts.length + (texts.map fun text => text.toList.count '\x00').sum := by
  rw [splitFields_flatMap_pieces, List.length_flatMap]
  induction texts with
  | nil => rfl
  | cons text texts ih =>
    rw [List.map_cons, List.sum_cons, ih, Text.length_pieces, List.length_cons, List.map_cons,
      List.sum_cons]
    omega

theorem splitFields_flatMap_eq_iff (texts : List String) :
    splitFields (texts.flatMap Field.terminated) = texts ↔
      ∀ text ∈ texts, '\x00' ∉ text.toList := by
  refine ⟨fun same text member zero => ?_, splitFields_flatMap⟩
  have length := length_splitFields_flatMap texts
  rw [same, Nat.left_eq_add, List.sum_eq_zero_iff] at length
  have none_here := length _ (List.mem_map_of_mem member)
  exact List.count_eq_zero.mp none_here zero

/-! ## Putting together -/

theorem flatMap_terminated_pieces (text : String) :
    (Text.pieces text).flatMap Field.terminated = Field.terminated text := by
  induction text using Text.zero_induction with
  | plain text plain => rw [Text.pieces_of_plain plain, List.flatMap_singleton]
  | cut cs ds plain ih => rw [Text.pieces_cut plain, List.flatMap_cons, ih, terminated_cut]

theorem piecesFrom_concat_zero {piece bytes : Bytes} (given : piece ≠ [] ∨ bytes ≠ [])
    (unended : bytes.getLast? ≠ some 0) :
    piecesFrom piece (bytes ++ [0]) = piecesFrom piece bytes := by
  induction bytes generalizing piece with
  | nil =>
    cases piece with
    | nil => simp at given
    | cons b piece => rfl
  | cons b bytes ih =>
    rw [List.cons_append, piecesFrom, piecesFrom]
    cases bytes with
    | nil =>
      have nonzero : b ≠ 0 := fun zero => unended (congrArg some zero)
      rw [if_neg nonzero, if_neg nonzero, ih (by simp) (by simp)]
    | cons c bytes =>
      have unended : (c :: bytes).getLast? ≠ some 0 := unended
      rw [ih (by simp) unended, ih (by simp) unended]

theorem splitFields_concat_zero {payload : Bytes} (given : payload ≠ [])
    (unended : payload.getLast? ≠ some 0) :
    splitFields (payload ++ [0]) = splitFields payload := by
  rw [splitFields, piecesFrom_concat_zero (.inr given) unended]
  rfl

theorem exists_terminated_of_getLast? {text : String}
    (zero : (Text.encode text).getLast? = some 0) :
    ∃ shorter, Text.encode text = Field.terminated shorter := by
  rcases List.eq_nil_or_concat' text.toList with empty | ⟨cs, c, last⟩
  · rw [Text.encode, empty] at zero
    cases zero
  · have bytes : Text.encode text = Text.encodeChars cs ++ String.utf8EncodeChar c := by
      rw [Text.encode, last, Text.encodeChars, List.flatMap_append, List.flatMap_singleton]
      rfl
    have found : 0 ∈ String.utf8EncodeChar c := by
      rw [bytes, List.getLast?_append_of_ne_nil _ (String.utf8EncodeChar_ne_nil)] at zero
      exact List.mem_of_getLast? zero
    refine ⟨String.ofList cs, ?_⟩
    rw [bytes, Text.eq_zero_of_mem_encodeChar found, Field.terminated, Text.encode,
      String.toList_ofList]
    rfl

theorem exists_encode_of_isValid {payload : Bytes} (valid : payload.toByteArray.IsValidUTF8) :
    ∃ text, payload = Text.encode text := by
  obtain ⟨cs, same⟩ := valid
  refine ⟨String.ofList cs, ?_⟩
  rw [Text.encode, String.toList_ofList]
  exact List.toByteArray_inj.mp same

/-- **The fields of a payload are put together to that payload**, with its end. -/
theorem flatMap_terminated_splitFields {payload : Bytes}
    (valid : payload.toByteArray.IsValidUTF8) :
    (splitFields payload).flatMap Field.terminated =
      if payload = [] ∨ payload.getLast? = some 0 then payload else payload ++ [0] := by
  obtain ⟨text, rfl⟩ := exists_encode_of_isValid valid
  have whole (text : String) : (splitFields (Field.terminated text)).flatMap Field.terminated =
      Field.terminated text := by
    have split := splitFields_terminated_append text []
    rw [List.append_nil] at split
    rw [split, splitFields, piecesFrom, List.map_nil, List.append_nil, flatMap_terminated_pieces]
  split_ifs with done
  · rcases done with empty | zero
    · rw [empty]
      rfl
    · obtain ⟨shorter, bytes⟩ := exists_terminated_of_getLast? zero
      rw [bytes]
      exact whole shorter
  · obtain ⟨given, unended⟩ := not_or.mp done
    rw [← splitFields_concat_zero given unended]
    exact whole text

/-! ## Messages of values -/

theorem encodeAll_of_texts {values : List Datum} {texts : List String}
    (sent : values.map Datum.wire = texts.map .ok) :
    Datum.encodeAll values = .ok (texts.flatMap Field.terminated) := by
  induction values generalizing texts with
  | nil =>
    rw [List.map_nil, eq_comm, List.map_eq_nil_iff] at sent
    rw [sent]
    rfl
  | cons value values ih =>
    rw [List.map_cons, eq_comm, List.map_eq_cons_iff] at sent
    obtain ⟨text, others, rfl, first, rest⟩ := sent
    rw [Datum.encodeAll, ← first, ih rest.symm]
    rfl

/-- **Writing a message and splitting it are inverse to each other.** A message of values splits
into as many fields as there are values and zero characters in their texts, and into just the texts
if none of them holds a zero character. The fields of a payload in UTF-8, written as a message,
are that payload, with a zero byte behind it if it is not empty and does not end in one. -/
theorem encode_split_inverse {values : List Datum} {texts : List String}
    (sent : values.map Datum.wire = texts.map .ok) {payload : Bytes}
    (valid : payload.toByteArray.IsValidUTF8) :
    (∃ message, Datum.encodeAll values = .ok message ∧
      (splitFields message).length =
        values.length + (texts.map fun text => text.toList.count '\x00').sum ∧
      (splitFields message = texts ↔ ∀ text ∈ texts, '\x00' ∉ text.toList)) ∧
    Datum.encodeAll ((splitFields payload).map describe) =
      .ok (if payload = [] ∨ payload.getLast? = some 0 then payload else payload ++ [0]) := by
  refine ⟨⟨_, encodeAll_of_texts sent, ?_, splitFields_flatMap_eq_iff texts⟩, ?_⟩
  · have count := congrArg List.length sent
    rw [List.length_map, List.length_map] at count
    rw [length_splitFields_flatMap, count]
  · rw [← flatMap_terminated_splitFields valid]
    refine encodeAll_of_texts ?_
    rw [List.map_map]
    rfl

/-- A text with a zero character, a numbered member and nothing; and a payload without its end. -/
theorem encode_split_inverse_openEnd :
    let values : List Datum :=
      [describe "a\x00b", .numbered "TickType" "BID" 1, .scalar .empty]
    let payload := Text.encode "x\x00\x00é"
    values.map Datum.wire = ["a\x00b", "1", ""].map .ok ∧ payload.toByteArray.IsValidUTF8 ∧
      (∃ message, Datum.encodeAll values = .ok message ∧
        splitFields message = ["a", "b", "1", ""] ∧ (splitFields message).length = 3 + 1) ∧
      splitFields payload = ["x", "", "é"] ∧
      Datum.encodeAll ((splitFields payload).map describe) = .ok (payload ++ [0]) := by
  intro values payload
  have sent : values.map Datum.wire = ["a\x00b", "1", ""].map .ok := by decide +kernel
  have valid : payload.toByteArray.IsValidUTF8 := ⟨_, rfl⟩
  obtain ⟨⟨message, encoded, length, -⟩, again⟩ := encode_split_inverse sent valid
  have bytes := encodeAll_of_texts sent
  rw [encoded] at bytes
  cases bytes
  refine ⟨sent, valid, ⟨_, encoded, by decide +kernel, length⟩, by decide +kernel, again⟩

end TradeWire
