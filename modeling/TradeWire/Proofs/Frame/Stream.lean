import Mathlib.Tactic
import TradeWire.Wire.Frame

/-!
# Frames of a stream

`frames` are the payloads of the complete frames at the front of a stream, as far as the first
header that declares too great a length, and `remnant` is what is left from there on. The two are
pinned to `write` by `Cut`: a stream is the frames of some payloads of legal length and then bytes
that begin with no such frame, in exactly one way (`cut_iff`). `readAll` gives both unless the
remnant begins with a refused header (`readAll_eq`).

A stream that comes in pieces has the frames of the whole stream, wherever it is cut
(`readPieces_flatten`): what is kept after each piece holds no complete frame, and a frame or a
refused header that is there stays there when more bytes follow.
-/

namespace TradeWire.Frame

/-! ## One frame -/

theorem header_declared (a b c d : UInt8) : header (declared a b c d) = [a, b, c, d] := by
  have ha := a.toNat_lt
  have hb := b.toNat_lt
  have hc := c.toNat_lt
  have hd := d.toNat_lt
  simp only [header, declared, List.cons.injEq, and_true, ← UInt8.toNat_inj, UInt8.toNat_ofNat']
  refine ⟨?_, ?_, ?_, ?_⟩ <;> omega

theorem declared_header {length : Nat} (legal : length ≤ largestLength) :
    declared (UInt8.ofNat (length / 0x1000000)) (UInt8.ofNat (length / 0x10000))
      (UInt8.ofNat (length / 0x100)) (UInt8.ofNat length) = length := by
  unfold largestLength at legal
  simp only [declared, UInt8.toNat_ofNat']
  omega

theorem tryRead_write {payload : Bytes} (legal : payload.length ≤ maxLength) (rest : Bytes) :
    tryRead (write payload ++ rest) = .ok (some (payload, rest)) := by
  have length := declared_header (legal.trans (by decide : maxLength ≤ largestLength))
  simp only [write, header, List.cons_append, List.nil_append, tryRead, length]
  rw [if_neg (by omega), if_neg (by simp), List.take_left, List.drop_left]

theorem eq_write_of_tryRead {stream payload rest : Bytes}
    (h : tryRead stream = .ok (some (payload, rest))) :
    stream = write payload ++ rest ∧ payload.length ≤ maxLength := by
  unfold tryRead at h
  split at h
  · rename_i a b c d bytes
    split_ifs at h with long short
    · cases h
    cases h
    have length : (bytes.take (declared a b c d)).length = declared a b c d := by
      rw [List.length_take]
      omega
    refine ⟨?_, by omega⟩
    rw [write, length, header_declared, List.append_assoc, List.take_append_drop]
    rfl
  · cases h

theorem tryRead_append_of_error {stream : Bytes} {bad : BadLength} (h : tryRead stream = .error bad)
    (more : Bytes) : tryRead (stream ++ more) = .error bad := by
  unfold tryRead at h
  split at h
  · split_ifs at h with long
    cases h
    simp only [List.cons_append, tryRead, if_pos long]
  · cases h

/-- No complete frame of legal length is at the front. -/
def Stuck (stream : Bytes) : Prop := ∀ payload rest, tryRead stream ≠ .ok (some (payload, rest))

theorem stuck_of_none {stream : Bytes} (h : tryRead stream = .ok none) : Stuck stream := by
  intro payload rest found
  rw [h] at found
  cases found

theorem stuck_of_error {stream : Bytes} {bad : BadLength} (h : tryRead stream = .error bad) :
    Stuck stream := by
  intro payload rest found
  rw [h] at found
  cases found

/-- Every stream is stuck, or a frame that something shorter follows. -/
theorem stream_induction {motive : Bytes → Prop} (stuck : ∀ stream, Stuck stream → motive stream)
    (frame : ∀ payload rest, payload.length ≤ maxLength → motive rest →
      motive (write payload ++ rest)) (stream : Bytes) : motive stream := by
  induction length : stream.length using Nat.strongRecOn generalizing stream with
  | _ n ih =>
    by_cases h : Stuck stream
    · exact stuck stream h
    · unfold Stuck at h
      push Not at h
      obtain ⟨payload, rest, found⟩ := h
      have shorter := length_lt_of_tryRead found
      obtain ⟨rfl, legal⟩ := eq_write_of_tryRead found
      exact frame payload rest legal (ih rest.length (length ▸ shorter) rest rfl)

/-! ## All frames -/

/-- The payloads of the complete frames at the front of a stream, as far as the first header that
is refused, and what is left from there on. -/
def survey (stream : Bytes) : List Bytes × Bytes :=
  match _found : tryRead stream with
  | .ok (some (payload, rest)) => (payload :: (survey rest).1, (survey rest).2)
  | _ => ([], stream)
termination_by stream.length
decreasing_by all_goals exact length_lt_of_tryRead _found

def frames (stream : Bytes) : List Bytes := (survey stream).1

def remnant (stream : Bytes) : Bytes := (survey stream).2

/-- The header at the front of the remnant, if it declares too great a length. -/
def refused? (stream : Bytes) : Option BadLength :=
  match tryRead (remnant stream) with
  | .error bad => some bad
  | .ok _ => none

theorem survey_write {payload : Bytes} (legal : payload.length ≤ maxLength) (rest : Bytes) :
    survey (write payload ++ rest) = (payload :: frames rest, remnant rest) := by
  have found := tryRead_write legal rest
  rw [survey]
  split
  · rename_i found'
    rw [found] at found'
    cases found'
    rfl
  · rename_i other
    exact absurd found (other _ _)

theorem survey_of_stuck {stream : Bytes} (h : Stuck stream) : survey stream = ([], stream) := by
  rw [survey]
  split
  · rename_i found
    exact absurd found (h _ _)
  · rfl

theorem frames_write {payload : Bytes} (legal : payload.length ≤ maxLength) (rest : Bytes) :
    frames (write payload ++ rest) = payload :: frames rest := by
  rw [frames, survey_write legal]

theorem remnant_write {payload : Bytes} (legal : payload.length ≤ maxLength) (rest : Bytes) :
    remnant (write payload ++ rest) = remnant rest := by
  rw [remnant, survey_write legal]

theorem frames_of_stuck {stream : Bytes} (h : Stuck stream) : frames stream = [] := by
  rw [frames, survey_of_stuck h]

theorem remnant_of_stuck {stream : Bytes} (h : Stuck stream) : remnant stream = stream := by
  rw [remnant, survey_of_stuck h]

theorem stuck_remnant (stream : Bytes) : Stuck (remnant stream) := by
  induction stream using stream_induction with
  | stuck stream h => rwa [remnant_of_stuck h]
  | frame payload rest legal ih => rwa [remnant_write legal]

/-- A stream is the frames of some payloads of legal length, and then bytes that begin with no
such frame. -/
structure Cut (stream : Bytes) (payloads : List Bytes) (left : Bytes) : Prop where
  joined : stream = (payloads.map write).flatten ++ left
  legal : ∀ payload ∈ payloads, payload.length ≤ maxLength
  stuck : ∀ payload rest, payload.length ≤ maxLength → left ≠ write payload ++ rest

theorem stuck_iff {stream : Bytes} :
    Stuck stream ↔ ∀ payload rest, payload.length ≤ maxLength → stream ≠ write payload ++ rest := by
  constructor
  · rintro h payload rest legal rfl
    exact h payload rest (tryRead_write legal rest)
  · intro h payload rest found
    obtain ⟨written, legal⟩ := eq_write_of_tryRead found
    exact h payload rest legal written

/-- **A stream is cut into frames in exactly one way**, which `frames` and `remnant` compute. -/
theorem cut_iff {stream : Bytes} {payloads : List Bytes} {left : Bytes} :
    Cut stream payloads left ↔ frames stream = payloads ∧ remnant stream = left := by
  constructor
  · rintro ⟨rfl, legal, stuck⟩
    replace stuck := stuck_iff.mpr stuck
    induction payloads with
    | nil => exact ⟨frames_of_stuck stuck, remnant_of_stuck stuck⟩
    | cons payload payloads ih =>
      have first := legal payload (List.mem_cons_self ..)
      obtain ⟨others, rest⟩ := ih fun p hp => legal p (List.mem_cons_of_mem _ hp)
      simp only [List.map_cons, List.flatten_cons, List.append_assoc]
      rw [frames_write first, remnant_write first, others, rest]
      exact ⟨rfl, rfl⟩
  · rintro ⟨rfl, rfl⟩
    refine ⟨?_, ?_, stuck_iff.mp (stuck_remnant stream)⟩
    · induction stream using stream_induction with
      | stuck stream h => rw [frames_of_stuck h, remnant_of_stuck h]; rfl
      | frame payload rest legal ih =>
        rw [frames_write legal, remnant_write legal, List.map_cons, List.flatten_cons,
          List.append_assoc, ← ih]
    · induction stream using stream_induction with
      | stuck stream h => simp [frames_of_stuck h]
      | frame payload rest legal ih =>
        rw [frames_write legal]
        intro p hp
        rcases List.mem_cons.mp hp with rfl | hp
        · exact legal
        · exact ih p hp

theorem readAll_eq (stream : Bytes) :
    readAll stream = match refused? stream with
      | some bad => .error bad
      | none => .ok (frames stream, remnant stream) := by
  induction stream using stream_induction with
  | stuck stream h =>
    rw [refused?, frames_of_stuck h, remnant_of_stuck h, readAll]
    split <;> rename_i found
    · rw [found]
    · rw [found]
    · exact absurd found (h _ _)
  | frame payload rest legal ih =>
    have found := tryRead_write legal rest
    rw [refused?, frames_write legal, remnant_write legal, readAll]
    split <;> rename_i found' <;> rw [found] at found' <;> cases found'
    rw [ih, refused?]
    split <;> rfl

theorem tryRead_remnant {stream : Bytes} (h : refused? stream = none) :
    tryRead (remnant stream) = .ok none := by
  unfold refused? at h
  cases found : tryRead (remnant stream) with
  | error bad => rw [found] at h; cases h
  | ok result =>
    cases result with
    | none => rfl
    | some frame => exact absurd found (stuck_remnant stream _ _)

/-! ## More of a stream -/

theorem frames_append (stream more : Bytes) :
    frames (stream ++ more) = frames stream ++ frames (remnant stream ++ more) := by
  induction stream using stream_induction with
  | stuck stream h => rw [frames_of_stuck h, remnant_of_stuck h, List.nil_append]
  | frame payload rest legal ih =>
    rw [List.append_assoc, frames_write legal, frames_write legal, remnant_write legal, ih]
    rfl

theorem remnant_append (stream more : Bytes) :
    remnant (stream ++ more) = remnant (remnant stream ++ more) := by
  induction stream using stream_induction with
  | stuck stream h => rw [remnant_of_stuck h]
  | frame payload rest legal ih =>
    rw [List.append_assoc, remnant_write legal, remnant_write legal, ih]

theorem refused?_append (stream more : Bytes) :
    refused? (stream ++ more) = refused? (remnant stream ++ more) := by
  rw [refused?, remnant_append, ← refused?]

theorem refused?_write {payload : Bytes} (legal : payload.length ≤ maxLength) (rest : Bytes) :
    refused? (write payload ++ rest) = refused? rest := by
  rw [refused?, remnant_write legal, ← refused?]

theorem refused?_of_none {stream : Bytes} (h : tryRead stream = .ok none) :
    refused? stream = none := by
  rw [refused?, remnant_of_stuck (stuck_of_none h), h]

theorem refused?_of_error {stream : Bytes} {bad : BadLength} (h : tryRead stream = .error bad) :
    refused? stream = some bad := by
  rw [refused?, remnant_of_stuck (stuck_of_error h), h]

/-- A header that is refused is refused however much follows, and nothing behind it is a frame. -/
theorem append_of_refused {stream : Bytes} {bad : BadLength} (h : refused? stream = some bad)
    (more : Bytes) :
    refused? (stream ++ more) = some bad ∧ frames (stream ++ more) = frames stream := by
  have error : tryRead (remnant stream) = .error bad := by
    unfold refused? at h
    split at h <;> rename_i found
    · rw [found, Option.some.inj h]
    · cases h
  have longer := tryRead_append_of_error error more
  have stuck := stuck_of_error longer
  constructor
  · rw [refused?_append, refused?, remnant_of_stuck stuck, longer]
  · rw [frames_append, frames_of_stuck stuck, List.append_nil]

/-! ## Streams in pieces -/

/-- Reads a stream piece by piece: all frames that a piece completes are taken, and what is left
is kept in front of the next piece. -/
def readPieces (kept : Bytes) : List Bytes → Except BadLength (List Bytes × Bytes)
  | [] => .ok ([], kept)
  | piece :: pieces => do
    let (payloads, left) ← readAll (kept ++ piece)
    let (more, rest) ← readPieces left pieces
    return (payloads ++ more, rest)

/-- What is kept between two pieces holds neither a frame nor a header that is refused. -/
theorem readPieces_eq_readAll {kept : Bytes} (waiting : tryRead kept = .ok none)
    (pieces : List Bytes) : readPieces kept pieces = readAll (kept ++ pieces.flatten) := by
  induction pieces generalizing kept with
  | nil =>
    have stuck := stuck_of_none waiting
    rw [List.flatten_nil, List.append_nil, readAll_eq, refused?, frames_of_stuck stuck,
      remnant_of_stuck stuck, waiting]
    rfl
  | cons piece pieces ih =>
    rw [readPieces, List.flatten_cons, ← List.append_assoc]
    generalize kept ++ piece = stream
    rw [readAll_eq stream, readAll_eq (stream ++ pieces.flatten)]
    cases h : refused? stream with
    | some bad => rw [(append_of_refused h _).1]; rfl
    | none =>
      simp only [bind, Except.bind]
      rw [ih (tryRead_remnant h), readAll_eq, refused?_append stream, frames_append stream,
        remnant_append stream]
      cases refused? (remnant stream ++ pieces.flatten) <;> rfl

/-- **A stream has the same frames and the same rest wherever it is cut**, and is refused with the
same length. -/
theorem readPieces_flatten (pieces : List Bytes) :
    readPieces [] pieces = readAll pieces.flatten :=
  readPieces_eq_readAll rfl pieces

end TradeWire.Frame
