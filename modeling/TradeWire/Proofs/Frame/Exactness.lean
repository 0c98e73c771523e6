import TradeWire.Proofs.Frame.Stream

/-!
# Reading is exact

What `readAll` makes of a buffer is said here without reading: a buffer is the frames of some
payloads of legal length and then less than one frame (`Incomplete`), or these frames and then a
header that declares too great a length. Every buffer is just one of the two, in one way, and
`readAll` tells which (`readAll_exact`). A frame that is written is read back just if its payload is
of legal length.
-/

namespace TradeWire.Frame

/-! ## The end of a buffer -/

/-- Less than one frame: less than a header, or a header of a legal length and fewer bytes than it
declares. -/
inductive Incomplete : Bytes → Prop where
  | header {rest : Bytes} (short : rest.length < headerSize) : Incomplete rest
  | payload {a b c d : UInt8} {rest : Bytes} (legal : declared a b c d ≤ maxLength)
      (short : rest.length < declared a b c d) : Incomplete (a :: b :: c :: d :: rest)

/-- A header that declares a length beyond the limit, and whatever follows it. -/
inductive Overlong : Bytes → BadLength → Prop where
  | header {a b c d : UInt8} (long : maxLength < declared a b c d) (rest : Bytes) :
      Overlong (a :: b :: c :: d :: rest) ⟨declared a b c d⟩

theorem tryRead_of_short {rest : Bytes} (short : rest.length < headerSize) :
    tryRead rest = .ok none := by
  unfold tryRead
  split
  · simp only [List.length_cons, headerSize] at short
    omega
  · rfl

theorem tryRead_eq_none_iff {rest : Bytes} : tryRead rest = .ok none ↔ Incomplete rest := by
  constructor
  · intro waiting
    unfold tryRead at waiting
    split at waiting
    · split_ifs at waiting with long short
      · exact .payload (Nat.not_lt.mp long) short
      · cases waiting
    · rename_i tooShort
      -- four bytes or more would be a header
      refine .header (Nat.not_le.mp fun enough => ?_)
      match rest, enough with
      | a :: b :: c :: d :: rest, _ => exact tooShort a b c d rest rfl
  · intro incomplete
    cases incomplete with
    | header short => exact tryRead_of_short short
    | payload legal short => rw [tryRead, if_neg (Nat.not_lt.mpr legal), if_pos short]

theorem tryRead_eq_error_iff {rest : Bytes} {bad : BadLength} :
    tryRead rest = .error bad ↔ Overlong rest bad := by
  constructor
  · intro refused
    unfold tryRead at refused
    split at refused
    · split_ifs at refused with long
      · cases refused
        exact .header long _
    · cases refused
  · rintro ⟨long, rest⟩
    rw [tryRead, if_pos long]

/-! ## All of a buffer -/

/-- A buffer is the frames of some payloads of legal length, and then some bytes. -/
structure Begins (buffer : Bytes) (payloads : List Bytes) (rest : Bytes) : Prop where
  joined : buffer = (payloads.map write).flatten ++ rest
  legal : ∀ payload ∈ payloads, payload.length ≤ maxLength

theorem cut_of_begins {buffer rest : Bytes} {payloads : List Bytes}
    (begins : Begins buffer payloads rest) (stuck : Stuck rest) : Cut buffer payloads rest :=
  ⟨begins.joined, begins.legal, stuck_iff.mp stuck⟩

theorem begins_frames (buffer : Bytes) : Begins buffer (frames buffer) (remnant buffer) :=
  have cut := cut_iff.mpr ⟨rfl, rfl⟩
  ⟨cut.joined, cut.legal⟩

theorem refused?_eq_some_iff {buffer : Bytes} {bad : BadLength} :
    refused? buffer = some bad ↔ Overlong (remnant buffer) bad := by
  rw [← tryRead_eq_error_iff, refused?]
  cases tryRead (remnant buffer) with
  | error other => simp
  | ok result => simp

theorem readAll_eq_ok_iff {buffer rest : Bytes} {payloads : List Bytes} :
    readAll buffer = .ok (payloads, rest) ↔ Begins buffer payloads rest ∧ Incomplete rest := by
  constructor
  · intro read
    rw [readAll_eq] at read
    cases refused : refused? buffer with
    | some bad => rw [refused] at read; cases read
    | none =>
      rw [refused] at read
      cases read
      exact ⟨begins_frames buffer, tryRead_eq_none_iff.mp (tryRead_remnant refused)⟩
  · rintro ⟨begins, incomplete⟩
    have waiting := tryRead_eq_none_iff.mpr incomplete
    obtain ⟨rfl, rfl⟩ := cut_iff.mp (cut_of_begins begins (stuck_of_none waiting))
    rw [readAll_eq, refused?, waiting]

theorem readAll_eq_error_iff {buffer : Bytes} {bad : BadLength} :
    readAll buffer = .error bad ↔
      ∃ payloads rest, Begins buffer payloads rest ∧ Overlong rest bad := by
  constructor
  · intro read
    rw [readAll_eq] at read
    cases refused : refused? buffer with
    | none => rw [refused] at read; cases read
    | some other =>
      rw [refused] at read
      cases read
      exact ⟨_, _, begins_frames buffer, refused?_eq_some_iff.mp refused⟩
  · rintro ⟨payloads, rest, begins, overlong⟩
    have refused := tryRead_eq_error_iff.mpr overlong
    obtain ⟨rfl, rfl⟩ := cut_iff.mp (cut_of_begins begins (stuck_of_error refused))
    rw [readAll_eq, refused?, refused]

/-! ## One written frame -/

theorem tryRead_write_of_long {payload : Bytes} (framable : payload.length ≤ largestLength)
    (long : maxLength < payload.length) (rest : Bytes) :
    tryRead (write payload ++ rest) = .error ⟨payload.length⟩ := by
  have length := declared_header framable
  simp only [write, header, List.cons_append, List.nil_append, tryRead, length]
  rw [if_pos long]

theorem tryRead_write_iff {payload : Bytes} (framable : payload.length ≤ largestLength)
    (rest : Bytes) :
    tryRead (write payload ++ rest) = .ok (some (payload, rest)) ↔
      payload.length ≤ maxLength := by
  refine ⟨fun found => Nat.not_lt.mp fun long => ?_, fun legal => tryRead_write legal rest⟩
  rw [tryRead_write_of_long framable long] at found
  cases found

/-- **Reading is exact.** A buffer is read into payloads and a rest just if it is the frames of
these payloads, all of legal length, and then this rest, which is less than one frame; no other
payloads and no other rest are possible. It is refused with a length just if it begins with complete
frames of legal length and then with a header that declares this length, beyond the limit. One of
the two is always so. The other way round, a payload whose length four bytes can say is read back
from its frame, whatever follows, just if it is of legal length. -/
theorem readAll_exact (buffer : Bytes) :
    (∀ payloads rest, readAll buffer = .ok (payloads, rest) ↔
      Begins buffer payloads rest ∧ Incomplete rest) ∧
    (∀ payloads rest payloads' rest', Begins buffer payloads rest → Incomplete rest →
      Begins buffer payloads' rest' → Incomplete rest' → payloads = payloads' ∧ rest = rest') ∧
    (∀ bad, readAll buffer = .error bad ↔
      ∃ payloads rest, Begins buffer payloads rest ∧ Overlong rest bad) ∧
    (∃ payloads rest, Begins buffer payloads rest ∧
      (Incomplete rest ∨ ∃ bad, Overlong rest bad)) ∧
    ∀ payload rest, payload.length ≤ largestLength →
      (tryRead (write payload ++ rest) = .ok (some (payload, rest)) ↔
        payload.length ≤ maxLength) := by
  refine ⟨fun payloads rest => readAll_eq_ok_iff, ?_, fun bad => readAll_eq_error_iff,
    ⟨frames buffer, remnant buffer, begins_frames buffer, ?_⟩,
    fun payload rest framable => tryRead_write_iff framable rest⟩
  · intro payloads rest payloads' rest' begins incomplete begins' incomplete'
    have read := readAll_eq_ok_iff.mpr ⟨begins, incomplete⟩
    have read' := readAll_eq_ok_iff.mpr ⟨begins', incomplete'⟩
    cases read.symm.trans read'
    exact ⟨rfl, rfl⟩
  · cases refused : refused? buffer with
    | none => exact .inl (tryRead_eq_none_iff.mp (tryRead_remnant refused))
    | some bad => exact .inr ⟨bad, refused?_eq_some_iff.mp refused⟩

/-- An empty frame, a frame of one byte, and a header of the greatest legal length with nothing
behind it; and an empty frame before a header that declares one byte more than that. -/
theorem readAll_exact_border :
    readAll [0, 0, 0, 0, 0, 0, 0, 1, 7, 0, 255, 255, 255] = .ok ([[], [7]], [0, 255, 255, 255]) ∧
      readAll [0, 0, 0, 0, 1, 0, 0, 0] = .error ⟨0x1000000⟩ ∧
      ([7] : Bytes).length ≤ largestLength ∧
      tryRead (write [7] ++ [0, 0]) = .ok (some ([7], [0, 0])) := by
  have short : ([7] : Bytes).length ≤ largestLength := by decide
  obtain ⟨read, -, -, -, back⟩ :=
    readAll_exact [0, 0, 0, 0, 0, 0, 0, 1, 7, 0, 255, 255, 255]
  obtain ⟨-, -, refused, -⟩ := readAll_exact [0, 0, 0, 0, 1, 0, 0, 0]
  refine ⟨(read _ _).mpr ⟨⟨rfl, ?_⟩, .payload (by decide) (by decide)⟩,
    (refused _).mpr ⟨[[]], [1, 0, 0, 0], ⟨rfl, ?_⟩, .header (by decide) []⟩, short,
    (back [7] [0, 0] short).mpr (by decide)⟩
  · decide
  · decide

end TradeWire.Frame
