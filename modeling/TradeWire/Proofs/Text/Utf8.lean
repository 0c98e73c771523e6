import Mathlib.Tactic
import TradeWire.Text.Utf8

/-!
# Bytes of a text, read back

The bytes of a text are read as that text (`decode_encode`): each character is recognised by the
bytes that it was sent as, whatever follows them. None of these bytes is zero unless the text holds
the zero character (`zero_notMem_encode`).
-/

namespace TradeWire.Text

theorem leadingChar?_encode (c : Char) (rest : Bytes) :
    leadingChar? (String.utf8EncodeChar c ++ rest) = some c := by
  have short : (String.utf8EncodeChar c).length ≤ 4 := by
    rw [String.length_utf8EncodeChar]
    exact c.utf8Size_le_four
  rw [leadingChar?, List.take_append, List.take_of_length_le short, List.toByteArray_append]
  exact ByteArray.utf8DecodeChar?_utf8EncodeChar_append

theorem decodeFrom_skip (skip : Nat) (bytes : Bytes) :
    decodeFrom skip bytes = decodeFrom 0 (bytes.drop skip) := by
  induction skip generalizing bytes with
  | zero => rfl
  | succ skip ih =>
    cases bytes with
    | nil => rfl
    | cons b rest => exact ih rest

theorem decodeFrom_encodeChar (c : Char) (rest : Bytes) :
    decodeFrom 0 (String.utf8EncodeChar c ++ rest) = c :: decodeFrom 0 rest := by
  have leading := leadingChar?_encode c rest
  have length := String.length_utf8EncodeChar c
  have positive := c.utf8Size_pos
  generalize String.utf8EncodeChar c = bytes at leading length
  cases bytes with
  | nil => exact absurd length positive.ne
  | cons b bytes =>
    have size : c.utf8Size - 1 = bytes.length := by
      rw [← length]
      rfl
    rw [List.cons_append] at leading ⊢
    rw [decodeFrom, leading]
    simp only
    rw [size, decodeFrom_skip, List.drop_left]

theorem decodeFrom_encodeChars (cs : List Char) (rest : Bytes) :
    decodeFrom 0 (encodeChars cs ++ rest) = cs ++ decodeFrom 0 rest := by
  induction cs with
  | nil => rfl
  | cons c cs ih =>
    rw [encodeChars, List.flatMap_cons, List.append_assoc, decodeFrom_encodeChar, ← encodeChars, ih]
    rfl

/-- **A text is read back from its bytes.** -/
theorem decode_encode (s : String) : decode (encode s) = s := by
  have chars : decodeFrom 0 (encode s) = s.toList := by
    have whole := decodeFrom_encodeChars s.toList []
    rwa [List.append_nil, decodeFrom, List.append_nil] at whole
  rw [decode, chars, String.ofList_toList]

theorem eq_zero_of_mem_encodeChar {c : Char} (h : 0 ∈ String.utf8EncodeChar c) :
    c = '\x00' := by
  have byte (n : Nat) : 0 = UInt8.ofNat n ↔ n % 256 = 0 := by
    rw [← UInt8.toNat_inj, UInt8.toNat_ofNat', eq_comm]
    rfl
  unfold String.utf8EncodeChar at h
  simp only at h
  split_ifs at h <;>
    simp only [List.mem_cons, List.not_mem_nil, or_false, byte] at h
  · have value : c.val.toNat = 0 := by omega
    exact Char.ext (UInt32.toNat_inj.mp value)
  -- the first byte of a longer character is at least 192, and every other one at least 128
  all_goals omega

theorem zero_notMem_encode {s : String} (h : '\x00' ∉ s.toList) : 0 ∉ encode s := by
  rw [encode, encodeChars, List.mem_flatMap]
  rintro ⟨c, hc, zero⟩
  rw [eq_zero_of_mem_encodeChar zero] at hc
  exact h hc

theorem length_le_length_encode (s : String) : s.toList.length ≤ (encode s).length := by
  rw [encode, encodeChars]
  induction s.toList with
  | nil => exact Nat.zero_le _
  | cons c cs ih =>
    have some_byte := Char.utf8Size_pos c
    rw [List.flatMap_cons, List.length_append, String.length_utf8EncodeChar, List.length_cons]
    omega

theorem length_encode_replicate (n : Nat) (c : Char) :
    (encode (String.ofList (List.replicate n c))).length = n * c.utf8Size := by
  rw [encode, encodeChars, String.toList_ofList, List.length_flatMap, List.map_replicate,
    List.sum_replicate, String.length_utf8EncodeChar, smul_eq_mul]

end TradeWire.Text
