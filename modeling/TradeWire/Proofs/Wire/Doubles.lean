import TradeWire.Proofs.Decimal.Denotation
import TradeWire.Proofs.Wire.Scalars

/-!
# Doubles, read back

A finite double is sent as a plain decimal, without an exponent, that denotes just what its shortest
text denotes. A plain decimal is read as the double nearest to what it denotes, so the double itself
comes back (`doubles_are_plain_decimals`). The one double that is not sent so stands for "not set".
-/

namespace TradeWire

namespace Text

variable {cs : List Char}

/-! ## Reading plain decimals -/

def IsPlainChar (c : Char) : Prop := isDigit c = true ∨ c = '-' ∨ c = '.'

theorem numeralChar_of_plain {c : Char} (h : IsPlainChar c) : numeralChar c = c := by
  rcases h with digit | rfl | rfl
  · exact numeralChar_of_numeral (.inl digit)
  · rfl
  · rfl

theorem not_isNumeralBlank_of_plain {c : Char} (h : IsPlainChar c) : isNumeralBlank c = false := by
  rcases h with digit | rfl | rfl
  · exact not_isNumeralBlank (.inl digit)
  · rfl
  · rfl

theorem ne_underscore_of_plain {c : Char} (h : IsPlainChar c) : c ≠ '_' := by
  rintro rfl
  exact absurd h (by simp [IsPlainChar, isDigit])

theorem underscoresBetweenDigits_of_none (none : ∀ c ∈ cs, c ≠ '_') (previous : Bool) :
    underscoresBetweenDigits previous cs = true := by
  induction cs generalizing previous with
  | nil => rfl
  | cons c cs ih =>
    obtain ⟨other, others⟩ := List.forall_mem_cons.mp none
    rw [underscoresBetweenDigits]
    · exact ih others _
    · exact other

theorem isPlainChar_of_mem (plain : IsPlainMagnitude cs) : ∀ c ∈ cs, IsPlainChar c := by
  obtain ⟨whole, tail, rfl, digits, behind⟩ := plain
  intro c hc
  rcases List.mem_append.mp hc with hc | hc
  · exact .inl (digits.2 c hc)
  · rcases behind with rfl | ⟨fraction, rfl, more⟩
    · cases hc
    · rcases List.mem_cons.mp hc with point | hc
      · exact .inr (.inr point)
      · exact .inl (more.2 c hc)

theorem isPlainChar_of_mem_signChars (plain : IsPlainMagnitude cs) (negative : Bool) :
    ∀ c ∈ signChars negative ++ cs, IsPlainChar c := by
  intro c hc
  rcases List.mem_append.mp hc with sign | hc
  · cases negative
    · cases sign
    · exact .inr (.inl (List.mem_singleton.mp sign))
  · exact isPlainChar_of_mem plain c hc

theorem toLower_of_digit {c : Char} (digit : isDigit c = true) : c.toLower = c := by
  have bounds := toNat_of_numeral (.inl digit)
  have small : ¬ (c.val ≥ 'A'.val ∧ c.val ≤ 'Z'.val) := by
    rintro ⟨upper, -⟩
    have above : 65 ≤ c.toNat := upper
    omega
  exact dif_neg small

theorem readName_of_plain (plain : IsPlainMagnitude cs) (negative : Bool) :
    readName negative cs = none := by
  obtain ⟨whole, tail, rfl, ⟨some, digits⟩, -⟩ := plain
  obtain ⟨c, others, rfl⟩ := List.exists_cons_of_ne_nil some
  have digit := digits c (List.mem_cons_self ..)
  have unnamed {first : Char} {name : List Char} (letter : isDigit first = false) :
      String.ofList ((c :: others ++ tail).map Char.toLower) ≠ String.ofList (first :: name) := by
    intro same
    have chars := congrArg String.toList same
    rw [String.toList_ofList, String.toList_ofList, List.cons_append, List.map_cons,
      toLower_of_digit digit] at chars
    obtain ⟨rfl, -⟩ := List.cons.inj chars
    exact ne_true_of_eq_false letter digit
  have inf := @unnamed 'i' ['n', 'f'] rfl
  have infinity := @unnamed 'i' ['n', 'f', 'i', 'n', 'i', 't', 'y'] rfl
  have nan := @unnamed 'n' ['a', 'n'] rfl
  unfold readName
  rw [if_neg, if_neg nan]
  rw [Bool.or_eq_true, decide_eq_true_eq, decide_eq_true_eq, not_or]
  exact ⟨inf, infinity⟩

theorem readDouble?_of_plain (plain : IsPlainMagnitude cs) {value : ℚ}
    (denoted : HasMagnitude cs value) (negative : Bool) :
    ∃ d : Decimal, d.value = value ∧
      readDouble? (String.ofList (signChars negative ++ cs)) =
        some (.ofDecimal negative d.coefficient d.power) := by
  have chars := isPlainChar_of_mem_signChars plain negative
  have same : (signChars negative ++ cs).map numeralChar = signChars negative ++ cs := by
    rw [List.map_congr_left fun c hc => numeralChar_of_plain (chars c hc), List.map_id']
  have trim := trimmed_eq_self fun c hc => not_isNumeralBlank_of_plain (chars c hc)
  have other : ∀ c ∈ signChars negative ++ cs, c ≠ '_' := fun c hc =>
    ne_underscore_of_plain (chars c hc)
  have kept : (signChars negative ++ cs).filter (· ≠ '_') = signChars negative ++ cs :=
    List.filter_eq_self.mpr fun c hc => decide_eq_true (other c hc)
  obtain ⟨d, reading, number⟩ := denoted
  refine ⟨d, number, ?_⟩
  unfold readDouble?
  simp only [String.toList_ofList, same, trim, underscoresBetweenDigits_of_none other false, kept,
    splitSign_signChars ⟨d, reading, number⟩, readName_of_plain plain, readMagnitude_eq, reading]
  rfl

end Text

/-! ## Fields of doubles -/

namespace Double

variable (negative : Bool) (rank : Fin rankLimit)

theorem plainText_eq : ∃ cs, (finite negative rank).plainText =
    String.ofList (Text.signChars negative ++ cs) ∧
      Text.IsPlainMagnitude cs ∧ Text.HasMagnitude cs (shortestValue rank) := by
  refine ⟨magnitudeChars (fun d => if positionalExponent d.exponent then d.pointed
    else d.positional) rank, rfl, isPlainMagnitude_magnitudeChars (fun d given => ?_) rank,
    hasMagnitude_magnitudeChars (fun d given => ?_) rank⟩
  · split_ifs
    · exact Digits.isPlainMagnitude_pointed given
    · exact Digits.isPlainMagnitude_positional given
  · split_ifs
    · exact Digits.hasMagnitude_pointed given
    · exact Digits.hasMagnitude_positional given

theorem denotes_text :
    Text.Denotes (finite negative rank).text.toList negative (shortestValue rank) := by
  rw [text, String.toList_ofList, written_finite]
  refine Text.denotes_signChars (hasMagnitude_magnitudeChars (fun d given => ?_) rank) negative
  split_ifs
  · exact Digits.hasMagnitude_pointed given
  · exact Digits.hasMagnitude_scientific given

variable {negative rank}

theorem same_unset_eq_false (given : finite negative rank ≠ unsetDouble) :
    (finite negative rank).same unsetDouble = false := by
  have unset : unsetDouble = finite false ⟨rankLimit - 1, by decide⟩ := rfl
  rw [unset] at given ⊢
  have some : 0 < rankLimit - 1 := by decide
  cases negative
  · have other : (rank : Nat) ≠ rankLimit - 1 := fun last => given (by
      rw [show rank = ⟨rankLimit - 1, by decide⟩ from Fin.ext last])
    have apart : (rank.val : Int) ≠ ((rankLimit - 1 : Nat) : Int) := by exact_mod_cast other
    exact beq_eq_false_iff_ne.mpr apart
  · have apart : -(rank.val : Int) ≠ ((rankLimit - 1 : Nat) : Int) := by omega
    exact beq_eq_false_iff_ne.mpr apart

end Double

theorem Reading.givesOne_double {token : String} {x : Double} (given : token ≠ "")
    (read : Text.readDouble? token = some x) : double.GivesOne token x := by
  apply givesOne_converted
  rw [if_neg given, read]

/-- **A finite double is sent as a plain decimal and comes back.** Its field is an optional minus,
digits, and perhaps a point with digits behind it, without any exponent; it denotes the same number
as the shortest text of the double, with the sign that zero has, too; and it is read as the double.
The unset double alone is sent as an empty field. -/
theorem doubles_are_plain_decimals (negative : Bool) (rank : Fin Double.rankLimit)
    (given : Double.finite negative rank ≠ unsetDouble) :
    ∃ payload token, (Field.real (.finite negative rank)).SentAsOne payload token ∧
      Text.IsPlainNumeral token.toList ∧ 'e' ∉ token.toList ∧ 'E' ∉ token.toList ∧
      (∃ value, Text.Denotes token.toList negative value ∧
        Text.Denotes (Double.finite negative rank).text.toList negative value) ∧
      Reading.double.GivesOne token (.finite negative rank) := by
  obtain ⟨cs, plainText, plain, denoted⟩ := Double.plainText_eq negative rank
  have wire : (Field.real (.finite negative rank)).wire =
      .ok (String.ofList (Text.signChars negative ++ cs)) := by
    rw [Field.wire, Double.same_unset_eq_false given, plainText]
    rfl
  have chars : ∀ c ∈ (String.ofList (Text.signChars negative ++ cs)).toList,
      Text.IsPlainChar c := by
    rw [String.toList_ofList]
    exact Text.isPlainChar_of_mem_signChars plain negative
  refine ⟨_, _, @Field.sentAsOne_of_wire (.real _) trivial _ wire, ?_, fun small => ?_,
    fun capital => ?_, ⟨Double.shortestValue rank, ?_, Double.denotes_text negative rank⟩, ?_⟩
  · rw [String.toList_ofList]
    exact ⟨negative, cs, rfl, plain⟩
  · exact absurd (chars _ small) (by simp [Text.IsPlainChar, Text.isDigit])
  · exact absurd (chars _ capital) (by simp [Text.IsPlainChar, Text.isDigit])
  · rw [String.toList_ofList]
    exact Text.denotes_signChars denoted negative
  · obtain ⟨d, value, read⟩ := Text.readDouble?_of_plain plain denoted negative
    rw [Double.ofDecimal_of_value value] at read
    refine Reading.givesOne_double (fun empty => ?_) read
    rw [empty] at read
    cases read

/-- The double below zero that is nearest to it. -/
theorem doubles_are_plain_decimals_smallest :
    Double.finite true ⟨1, by decide⟩ ≠ unsetDouble ∧
      ∃ payload token, (Field.real (.finite true ⟨1, by decide⟩)).SentAsOne payload token ∧
        Text.IsPlainNumeral token.toList ∧ 'e' ∉ token.toList ∧ 'E' ∉ token.toList ∧
        (∃ value, Text.Denotes token.toList true value ∧
          Text.Denotes (Double.finite true ⟨1, by decide⟩).text.toList true value) ∧
        Reading.double.GivesOne token (.finite true ⟨1, by decide⟩) := by
  have given : Double.finite true ⟨1, by decide⟩ ≠ unsetDouble := nofun
  exact ⟨given, doubles_are_plain_decimals true ⟨1, by decide⟩ given⟩

end TradeWire
