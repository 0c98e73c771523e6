import Mathlib.Tactic
import TradeWire.Proofs.Decimal.Nearest

/-!
# What a numeral denotes

A numeral denotes a sign and a number, before anything is rounded (`Text.Denotes`). The digits of a
decimal keep its value when the zeros behind them are dropped (`Digits.value_ofDecimal`), and every
way to write them denotes this value: in positional form, with a point, and with an exponent. So a
double is written as its shortest decimal with and without an exponent
(`Double.hasMagnitude_magnitudeChars`).
-/

namespace TradeWire

/-! ## Lists of digits -/

namespace Text

def AreDigits (cs : List Char) : Prop := cs ≠ [] ∧ ∀ c ∈ cs, isDigit c = true

theorem areDigits_zero : AreDigits ['0'] :=
  ⟨List.cons_ne_nil _ _, List.forall_mem_singleton.mpr (by decide)⟩

theorem digitsValue_foldl (start : Nat) (cs : List Char) :
    cs.foldl (fun value c => value * 10 + (c.toNat - '0'.toNat)) start =
      start * 10 ^ cs.length + digitsValue cs := by
  induction cs generalizing start with
  | nil => simp [digitsValue]
  | cons c cs ih =>
    have first : digitsValue (c :: cs) =
        (0 * 10 + (c.toNat - '0'.toNat)) * 10 ^ cs.length + digitsValue cs := ih _
    rw [List.foldl_cons, ih, first, List.length_cons]
    ring

theorem digitsValue_append (first second : List Char) :
    digitsValue (first ++ second) =
      digitsValue first * 10 ^ second.length + digitsValue second := by
  rw [digitsValue, List.foldl_append, digitsValue_foldl, ← digitsValue]

theorem digitsValue_zeros (k : Nat) : digitsValue (List.replicate k '0') = 0 :=
  digitsValue_of_zeros fun _ => List.eq_of_mem_replicate

theorem digitsValue_append_zeros (cs : List Char) (k : Nat) :
    digitsValue (cs ++ List.replicate k '0') = digitsValue cs * 10 ^ k := by
  rw [digitsValue_append, digitsValue_zeros, List.length_replicate, Nat.add_zero]

theorem digitsValue_zeros_append (k : Nat) (cs : List Char) :
    digitsValue (List.replicate k '0' ++ cs) = digitsValue cs := by
  rw [digitsValue_append, digitsValue_zeros, Nat.zero_mul, Nat.zero_add]

/-! ## Numerals -/

/-- The number of an unsigned numeral, not rounded. -/
def magnitude? (cs : List Char) : Option Decimal :=
  let (whole, afterWhole) := cs.span isDigit
  let (fraction, afterFraction) := splitFraction afterWhole
  let digits := whole ++ fraction
  if digits.isEmpty then none
  else (readExponent afterFraction).map fun power =>
    ⟨digitsValue digits, power - fraction.length⟩

/-- An unsigned numeral denotes a number. -/
def HasMagnitude (cs : List Char) (value : ℚ) : Prop :=
  ∃ d : Decimal, magnitude? cs = some d ∧ d.value = value

/-- A numeral denotes a number with a sign, which zero has, too. -/
def Denotes (cs : List Char) (negative : Bool) (value : ℚ) : Prop :=
  (splitSign cs).1 = negative ∧ HasMagnitude (splitSign cs).2 value

/-- A numeral is read as the double nearest to what it denotes. -/
theorem readMagnitude_eq (negative : Bool) (cs : List Char) :
    readMagnitude negative cs =
      (magnitude? cs).map fun d => .ofDecimal negative d.coefficient d.power := by
  unfold readMagnitude magnitude?
  simp only
  split_ifs
  · rfl
  · rw [Option.map_map]
    rfl

theorem span_digits {cs tail : List Char} (digits : ∀ c ∈ cs, isDigit c = true)
    (ends : tail.head?.all (!isDigit ·) = true) : (cs ++ tail).span isDigit = (cs, tail) := by
  have none : tail.takeWhile isDigit = [] ∧ tail.dropWhile isDigit = tail := by
    cases tail with
    | nil => exact ⟨rfl, rfl⟩
    | cons c tail =>
      have other : isDigit c = false := by simpa using ends
      simp [other]
  rw [List.span_eq_takeWhile_dropWhile, List.takeWhile_append_of_pos digits,
    List.dropWhile_append_of_pos digits, none.1, none.2, List.append_nil]

variable {whole fraction tail : List Char} {power : Int}

theorem hasMagnitude_whole (digits : AreDigits whole)
    (ends : tail.head?.all (fun c => !isDigit c && c ≠ '.') = true)
    (exponent : readExponent tail = some power) :
    HasMagnitude (whole ++ tail) (digitsValue whole * (10 : ℚ) ^ power) := by
  have stops : tail.head?.all (!isDigit ·) = true := by
    cases tail with
    | nil => rfl
    | cons c tail => exact (Bool.and_eq_true_iff.mp ends).1
  have none : splitFraction tail = ([], tail) := by
    cases tail with
    | nil => rfl
    | cons c tail =>
      have other : c ≠ '.' := by simpa using (Bool.and_eq_true_iff.mp ends).2
      unfold splitFraction
      split
      · rename_i point
        exact absurd (List.cons.inj point).1 other
      · rfl
  refine ⟨⟨digitsValue whole, power⟩, ?_, rfl⟩
  unfold magnitude?
  simp only [span_digits digits.2 stops, none, List.append_nil, exponent,
    List.isEmpty_eq_false_iff.mpr digits.1, Bool.false_eq_true, if_false, List.length_nil,
    Int.natCast_zero, Int.sub_zero, Option.map_some]

theorem hasMagnitude_fraction (digits : AreDigits whole) (more : ∀ c ∈ fraction, isDigit c = true)
    (ends : tail.head?.all (!isDigit ·) = true) (exponent : readExponent tail = some power) :
    HasMagnitude (whole ++ '.' :: (fraction ++ tail))
      (digitsValue (whole ++ fraction) * (10 : ℚ) ^ (power - fraction.length)) := by
  have point : ('.' :: (fraction ++ tail)).head?.all (!isDigit ·) = true := by
    rw [List.head?_cons, Option.all_some]
    decide
  have given : (whole ++ fraction).isEmpty = false :=
    List.isEmpty_eq_false_iff.mpr (List.append_ne_nil_of_left_ne_nil digits.1 _)
  refine ⟨⟨digitsValue (whole ++ fraction), power - fraction.length⟩, ?_, rfl⟩
  unfold magnitude?
  simp only [span_digits digits.2 point, splitFraction, span_digits more ends, given, exponent,
    Bool.false_eq_true, if_false, Option.map_some]

theorem splitSign_of_hasMagnitude {cs : List Char} {value : ℚ} (h : HasMagnitude cs value) :
    splitSign cs = (false, cs) := by
  obtain ⟨d, reading, -⟩ := h
  unfold splitSign
  split
  · cases reading
  · cases reading
  · rfl

def signChars (negative : Bool) : List Char := if negative then ['-'] else []

theorem splitSign_signChars {cs : List Char} {value : ℚ} (h : HasMagnitude cs value)
    (negative : Bool) : splitSign (signChars negative ++ cs) = (negative, cs) := by
  cases negative
  · exact splitSign_of_hasMagnitude h
  · rfl

theorem denotes_signChars {cs : List Char} {value : ℚ} (h : HasMagnitude cs value)
    (negative : Bool) : Denotes (signChars negative ++ cs) negative value := by
  rw [Denotes, splitSign_signChars h]
  exact ⟨rfl, h⟩

/-! ## Plain numerals -/

/-- At least one digit, and perhaps a point with at least one digit behind it. -/
def IsPlainMagnitude (cs : List Char) : Prop :=
  ∃ whole tail, cs = whole ++ tail ∧ AreDigits whole ∧
    (tail = [] ∨ ∃ fraction, tail = '.' :: fraction ∧ AreDigits fraction)

/-- A plain magnitude, perhaps with a minus before it. -/
def IsPlainNumeral (cs : List Char) : Prop :=
  ∃ negative unsigned, cs = signChars negative ++ unsigned ∧ IsPlainMagnitude unsigned

end Text

/-! ## Digits -/

namespace Digits

variable {d : Digits}

/-- The number that some digits stand for. -/
def value (d : Digits) : ℚ :=
  Text.digitsValue d.digits * (10 : ℚ) ^ (d.point - d.digits.length)

theorem exists_append_zeros (cs : List Char) :
    ∃ k, cs = (cs.reverse.dropWhile (· = '0')).reverse ++ List.replicate k '0' := by
  have zeros : cs.reverse.takeWhile (· = '0') =
      List.replicate (cs.reverse.takeWhile (· = '0')).length '0' :=
    List.eq_replicate_of_mem fun c hc =>
      of_decide_eq_true (@List.mem_takeWhile_imp _ (· = '0') _ _ hc)
  refine ⟨(cs.reverse.takeWhile (· = '0')).length, ?_⟩
  have split := @List.takeWhile_append_dropWhile _ (· = '0') cs.reverse
  rw [zeros] at split
  have back := congrArg List.reverse split
  rw [List.reverse_append, List.reverse_replicate, List.reverse_reverse] at back
  exact back.symm

/-- **The zeros behind the digits do not matter.** -/
theorem value_ofDecimal (d : Decimal) : (ofDecimal d).value = d.value := by
  obtain ⟨k, split⟩ := exists_append_zeros (Nat.toDigits 10 d.coefficient)
  have factor := congrArg Text.digitsValue split
  rw [Text.digitsValue_toDigits, Text.digitsValue_append_zeros] at factor
  have length := congrArg List.length split
  rw [List.length_append, List.length_replicate] at length
  rw [value, Decimal.value, factor, ofDecimal]
  simp only
  generalize ((Nat.toDigits 10 d.coefficient).reverse.dropWhile (· = '0')).reverse = kept at *
  have power : (((Nat.toDigits 10 d.coefficient).length : Int) + d.power - kept.length) =
      k + d.power := by omega
  rw [power, zpow_add₀ (by norm_num), zpow_natCast, Nat.cast_mul, Nat.cast_pow, Nat.cast_ofNat,
    mul_assoc]

/-! ## Ways to write digits -/

theorem areDigits_whole (given : Text.AreDigits d.digits) : Text.AreDigits d.whole := by
  have zero : Text.isDigit '0' = true := by decide
  refine ⟨?_, fun c hc => (mem_whole hc).elim (· ▸ zero) (given.2 c)⟩
  unfold whole
  split_ifs with small
  · exact List.cons_ne_nil _ _
  · refine List.append_ne_nil_of_left_ne_nil (fun none => ?_) _
    rcases List.take_eq_nil_iff.mp none with short | empty
    · omega
    · exact given.1 empty

theorem isDigit_of_mem_fraction (given : Text.AreDigits d.digits) :
    ∀ c ∈ d.fraction, Text.isDigit c = true := fun c hc =>
  (mem_fraction hc).elim (· ▸ by decide) (given.2 c)

theorem value_eq (d : Digits) :
    d.value =
      Text.digitsValue (d.whole ++ d.fraction) * (10 : ℚ) ^ (-(d.fraction.length : Int)) := by
  unfold value whole fraction
  split_ifs with small
  · have length : ((List.replicate (-d.point).toNat '0' ++ d.digits).length : Int) =
        d.digits.length - d.point := by
      rw [List.length_append, List.length_replicate]
      omega
    have same : Text.digitsValue (['0'] ++ (List.replicate (-d.point).toNat '0' ++ d.digits)) =
        Text.digitsValue d.digits := by
      rw [← List.append_assoc]
      exact Text.digitsValue_zeros_append ((-d.point).toNat + 1) d.digits
    rw [length, same]
    congr 2
    ring
  · rcases Nat.le_total d.point.toNat d.digits.length with inside | beyond
    · rw [Nat.sub_eq_zero_of_le inside, List.replicate_zero, List.append_nil,
        List.take_append_drop, List.length_drop]
      congr 2
      omega
    · have power : d.point - d.digits.length = ((d.point.toNat - d.digits.length : Nat) : Int) := by
        omega
      rw [List.take_of_length_le beyond, List.drop_of_length_le beyond, List.append_nil,
        Text.digitsValue_append_zeros, power, zpow_natCast]
      simp

theorem hasMagnitude_positional (given : Text.AreDigits d.digits) :
    Text.HasMagnitude d.positional d.value := by
  have before := areDigits_whole given
  have behind := isDigit_of_mem_fraction given
  rw [value_eq]
  unfold positional
  split_ifs with none
  · have reading := @Text.hasMagnitude_whole _ [] 0 before rfl rfl
    rw [none, List.append_nil]
    rwa [List.append_nil] at reading
  · have reading := @Text.hasMagnitude_fraction _ _ [] 0 before behind rfl rfl
    rwa [List.append_nil, zero_sub] at reading

theorem hasMagnitude_pointed (given : Text.AreDigits d.digits) :
    Text.HasMagnitude d.pointed d.value := by
  have before := areDigits_whole given
  have behind := isDigit_of_mem_fraction given
  rw [value_eq]
  unfold pointed
  split_ifs with none
  · -- the zero behind the point makes the digits ten times as many units of a tenth
    have reading := @Text.hasMagnitude_fraction _ _ [] 0 before Text.areDigits_zero.2 rfl rfl
    have shifted : Text.digitsValue (d.whole ++ ['0']) = Text.digitsValue d.whole * 10 ^ 1 :=
      Text.digitsValue_append_zeros d.whole 1
    rw [shifted, List.append_nil] at reading
    rw [none, List.append_nil]
    simpa using reading
  · have reading := @Text.hasMagnitude_fraction _ _ [] 0 before behind rfl rfl
    rwa [List.append_nil, zero_sub] at reading

theorem isPlainMagnitude_positional (given : Text.AreDigits d.digits) :
    Text.IsPlainMagnitude d.positional := by
  unfold positional
  split_ifs with none
  · exact ⟨d.whole, [], (List.append_nil _).symm, areDigits_whole given, .inl rfl⟩
  · exact ⟨d.whole, _, rfl, areDigits_whole given,
      .inr ⟨_, rfl, none, isDigit_of_mem_fraction given⟩⟩

theorem isPlainMagnitude_pointed (given : Text.AreDigits d.digits) :
    Text.IsPlainMagnitude d.pointed := by
  refine ⟨d.whole, _, rfl, areDigits_whole given, .inr ⟨_, rfl, ?_⟩⟩
  split_ifs with none
  · exact Text.areDigits_zero
  · exact ⟨none, isDigit_of_mem_fraction given⟩

theorem readExponent_written {e : Int} {size : List Char} (given : Text.AreDigits size)
    (value : Text.digitsValue size = e.natAbs) :
    Text.readExponent ('e' :: (if e < 0 then '-' else '+') :: size) = some e := by
  have some : size.isEmpty = false := List.isEmpty_eq_false_iff.mpr given.1
  have all : size.all Text.isDigit = true := List.all_eq_true.mpr given.2
  rw [Text.readExponent]
  split_ifs with negative
  · simp only [Text.splitSign, some, all, value]
    exact congrArg Option.some (show -(e.natAbs : Int) = e by omega)
  · simp only [Text.splitSign, some, all, value]
    exact congrArg Option.some (show (e.natAbs : Int) = e by omega)

theorem readExponent_padded (e : Int) :
    let size := Nat.toDigits 10 e.natAbs
    Text.readExponent ('e' :: (if e < 0 then '-' else '+') ::
      (if size.length < 2 then '0' :: size else size)) = some e := by
  intro size
  have digits : ∀ c ∈ size, Text.isDigit c = true := fun _ => Text.isDigit_of_mem_toDigits
  have value : Text.digitsValue size = e.natAbs := Text.digitsValue_toDigits _
  refine readExponent_written ?_ ?_
  · split_ifs
    · exact ⟨List.cons_ne_nil _ _, List.forall_mem_cons.mpr ⟨by decide, digits⟩⟩
    · exact ⟨Nat.toDigits_ne_nil, digits⟩
  · split_ifs
    · exact (Text.digitsValue_zeros_append 1 size).trans value
    · exact value

theorem hasMagnitude_scientific (given : Text.AreDigits d.digits) :
    Text.HasMagnitude d.scientific d.value := by
  obtain ⟨digits, point⟩ := d
  obtain ⟨some, all⟩ := given
  unfold scientific value
  simp only
  match digits, some, all with
  | [only], _, all =>
    have reading := @Text.hasMagnitude_whole [only] _ _ ⟨List.cons_ne_nil _ _, all⟩ (by rfl)
      (readExponent_padded (exponent ⟨[only], point⟩))
    exact reading
  | first :: second :: rest, _, all =>
    obtain ⟨one, more⟩ := List.forall_mem_cons.mp all
    have reading := @Text.hasMagnitude_fraction [first] (second :: rest) _ _
      ⟨List.cons_ne_nil _ _, List.forall_mem_singleton.mpr one⟩ more (by rfl)
      (readExponent_padded (exponent ⟨first :: second :: rest, point⟩))
    have power : exponent ⟨first :: second :: rest, point⟩ - ((second :: rest).length : Int) =
        point - ((first :: second :: rest).length : Int) := by
      simp only [exponent, List.length_cons]
      omega
    rw [power] at reading
    exact reading

end Digits

/-! ## Shortest decimals -/

namespace Double

/-- The number that the shortest decimal at a rank is. -/
def shortestValue (rank : Nat) : ℚ := if rank = 0 then 0 else (Decimal.shortest rank).value

theorem ofDecimal_of_value {d : Decimal} {rank : Fin rankLimit}
    (same : d.value = shortestValue rank) (negative : Bool) :
    ofDecimal negative d.coefficient d.power = .finite negative rank := by
  have nearest : rankOfDecimal d.coefficient d.power = rank := by
    unfold shortestValue at same
    split_ifs at same with zero
    · rw [Decimal.value_eq_zero_iff.mp same, Decimal.rankOfDecimal_zero, zero]
    · rw [Decimal.rankOfDecimal_congr same]
      exact Decimal.rankOfDecimal_shortest (Nat.pos_of_ne_zero zero) rank.isLt
  rw [ofDecimal, nearest, ofRank, dif_pos rank.isLt]

theorem areDigits_shortest {rank : Nat} (some : rank ≠ 0) :
    Text.AreDigits (Digits.ofDecimal (.shortest rank)).digits := by
  obtain ⟨c, mem, -⟩ := Digits.exists_mem_ofDecimal (Decimal.coefficient_shortest_ne_zero some)
  exact ⟨List.ne_nil_of_mem mem, fun _ => Digits.isDigit_of_mem_ofDecimal⟩

/-- The characters of a magnitude, given how those that are not zero are written. -/
def magnitudeChars (magnitude : Digits → List Char) (rank : Nat) : List Char :=
  if rank = 0 then ['0', '.', '0'] else magnitude (.ofDecimal (.shortest rank))

theorem written_finite (magnitude : Digits → List Char) (negative : Bool) (rank : Fin rankLimit) :
    written magnitude (.finite negative rank) =
      Text.signChars negative ++ magnitudeChars magnitude rank := rfl

theorem hasMagnitude_magnitudeChars {magnitude : Digits → List Char}
    (keeps : ∀ d, Text.AreDigits d.digits → Text.HasMagnitude (magnitude d) d.value) (rank : Nat) :
    Text.HasMagnitude (magnitudeChars magnitude rank) (shortestValue rank) := by
  unfold magnitudeChars shortestValue
  split_ifs with zero
  · exact ⟨⟨0, -1⟩, rfl, by simp [Decimal.value]⟩
  · rw [← Digits.value_ofDecimal]
    exact keeps _ (areDigits_shortest zero)

theorem isPlainMagnitude_magnitudeChars {magnitude : Digits → List Char}
    (plain : ∀ d, Text.AreDigits d.digits → Text.IsPlainMagnitude (magnitude d)) (rank : Nat) :
    Text.IsPlainMagnitude (magnitudeChars magnitude rank) := by
  unfold magnitudeChars
  split_ifs with zero
  · exact ⟨['0'], ['.', '0'], rfl, Text.areDigits_zero, .inr ⟨_, rfl, Text.areDigits_zero⟩⟩
  · exact plain _ (areDigits_shortest zero)

end Double

end TradeWire
