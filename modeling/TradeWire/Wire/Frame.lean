import TradeWire.Text.Utf8

/-!
# Frames

A payload travels in a frame: its length as four bytes, the most significant first, and then its
bytes. A declared length above the limit is refused as soon as its four bytes are there.
`tryRead` takes one frame off the front of a buffer, `readAll` all complete ones.
-/

namespace TradeWire.Frame

/-- The largest length a received frame may declare. -/
def maxLength : Nat := 0xffffff

def headerSize : Nat := 4

/-- The largest length that four bytes can say. -/
def largestLength : Nat := 0xffffffff

/-- A frame declared a length beyond the limit. -/
structure BadLength where
  length : Int
  deriving DecidableEq

def BadLength.message (bad : BadLength) : String :=
  "declared frame length " ++ toString bad.length ++ " exceeds maximum"

/-- The four bytes of a length. -/
def header (length : Nat) : Bytes :=
  [UInt8.ofNat (length / 0x1000000), UInt8.ofNat (length / 0x10000), UInt8.ofNat (length / 0x100),
    UInt8.ofNat length]

/-- The length that four bytes declare. -/
def declared (a b c d : UInt8) : Nat :=
  ((a.toNat * 256 + b.toNat) * 256 + c.toNat) * 256 + d.toNat

def write (payload : Bytes) : Bytes := header payload.length ++ payload

/-- The payload of the frame at the front of a buffer and what follows it, or nothing while the
frame is incomplete. -/
def tryRead : Bytes → Except BadLength (Option (Bytes × Bytes))
  | a :: b :: c :: d :: rest =>
    if maxLength < declared a b c d then .error ⟨declared a b c d⟩
    else if rest.length < declared a b c d then .ok none
    else .ok (some (rest.take (declared a b c d), rest.drop (declared a b c d)))
  | _ => .ok none

theorem length_lt_of_tryRead {buffer payload rest : Bytes}
    (h : tryRead buffer = .ok (some (payload, rest))) : rest.length < buffer.length := by
  unfold tryRead at h
  split at h
  · split at h
    · cases h
    · split at h
      · cases h
      · cases h
        simp only [List.length_drop, List.length_cons]
        omega
  · cases h

/-- The payloads of all complete frames at the front of a buffer, and the rest of it. -/
def readAll (buffer : Bytes) : Except BadLength (List Bytes × Bytes) :=
  match _found : tryRead buffer with
  | .error bad => .error bad
  | .ok none => .ok ([], buffer)
  | .ok (some (payload, rest)) => do
    let (payloads, left) ← readAll rest
    return (payload :: payloads, left)
termination_by buffer.length
decreasing_by exact length_lt_of_tryRead _found

/-- What a client sends first: a greeting, and in a frame the range of versions it knows. -/
def handshake (least most : Int) : Bytes :=
  Text.encode "API" ++ 0 :: write (Text.encode ("v" ++ toString least ++ ".." ++ toString most))

end TradeWire.Frame
