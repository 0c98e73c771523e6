import TradeWire.Proofs.Wire.Splitting

/-!
# Messages that differ in one text

How far two texts are apart is counted up to two: they are equal, one comes of the other when a part
of it is replaced, or neither. The count adds up along a list of fields, and fields that are at most
one apart are sent as the same texts but for one (`Field.texts_of_changes_le_one`). Such messages
split into as many fields, with at most one that differs, just if the replaced parts do
(`sameButOne_splitFields_iff`).
-/

namespace TradeWire

/-! ## Texts with a part replaced -/

namespace Text

/-- The other text has `t` in one place where the text has `s`. -/
def Replaces (s t text other : String) : Prop :=
  ∃ before after, text = before ++ s ++ after ∧ other = before ++ t ++ after

open Classical in
/-- How far two texts are apart: not at all, by a part that is replaced, or further. -/
noncomputable def change (s t text other : String) : ℕ :=
  if text = other then 0 else if Replaces s t text other then 1 else 2

variable {s t text other text' other' : String}

@[simp]
theorem change_self (text : String) : change s t text text = 0 := if_pos rfl

theorem change_le_two (text other : String) : change s t text other ≤ 2 := by
  unfold change
  split_ifs <;> omega

theorem change_eq_zero_iff : change s t text other = 0 ↔ text = other := by
  unfold change
  split_ifs with same <;> simp [same]

theorem change_le_one_iff : change s t text other ≤ 1 ↔ text = other ∨ Replaces s t text other := by
  unfold change
  split_ifs with same replaced <;> simp [*]

theorem change_le_change (same : text = other → text' = other')
    (replaced : Replaces s t text other → Replaces s t text' other') :
    change s t text' other' ≤ change s t text other := by
  by_cases zero : change s t text other = 0
  · rw [same (change_eq_zero_iff.mp zero), change_self]
    exact Nat.zero_le _
  by_cases one : change s t text other ≤ 1
  · have part := (change_le_one_iff.mp one).resolve_left fun h => zero (change_eq_zero_iff.mpr h)
    have near := change_le_one_iff.mpr (.inr (replaced part))
    omega
  · have far := change_le_two (s := s) (t := t) text' other'
    omega

theorem change_append_le (text other text' other' : String) :
    change s t (text ++ text') (other ++ other') ≤
      change s t text other + change s t text' other' := by
  by_cases first : change s t text other = 0
  · rw [first, Nat.zero_add, change_eq_zero_iff.mp first]
    refine change_le_change (congrArg (other ++ ·)) ?_
    rintro ⟨before, after, rfl, rfl⟩
    exact ⟨other ++ before, after, by simp only [String.append_assoc],
      by simp only [String.append_assoc]⟩
  by_cases second : change s t text' other' = 0
  · rw [second, Nat.add_zero, change_eq_zero_iff.mp second]
    refine change_le_change (congrArg (· ++ other')) ?_
    rintro ⟨before, after, rfl, rfl⟩
    exact ⟨before, after ++ other', by simp only [String.append_assoc],
      by simp only [String.append_assoc]⟩
  · have far := change_le_two (s := s) (t := t) (text ++ text') (other ++ other')
    omega

end Text

/-! ## Fields -/

namespace Field

/-- The text of a field that is one, or that is empty like a missing one. -/
def text? : Field → Option String
  | .empty => some ""
  | .text value => some value
  | _ => none

/-- How far two fields are apart; different ones are far apart unless they are texts. -/
noncomputable def change (s t : String) (field other : Field) : ℕ :=
  match field.text?, other.text? with
  | some value, some value' => Text.change s t value value'
  | _, _ => if field = other then 0 else 2

@[simp]
noncomputable def changes (s t : String) : List Field → List Field → ℕ
  | [], [] => 0
  | field :: fields, other :: others => field.change s t other + changes s t fields others
  | _, _ => 2

/-- How far two lists of fields are apart, counted up to two. -/
noncomputable def distance (s t : String) (fields others : List Field) : ℕ :=
  min 2 (changes s t fields others)

variable {s t : String}

@[simp]
theorem change_self (field : Field) : field.change s t field = 0 := by
  unfold change
  cases field <;> simp [text?]

theorem change_le_two (field other : Field) : field.change s t other ≤ 2 := by
  unfold change
  split
  · exact Text.change_le_two _ _
  · split_ifs <;> omega

theorem wire_of_text? {field : Field} {text : String} (h : field.text? = some text) :
    field.wire = .ok text := by
  cases field <;> cases h <;> rfl

theorem wire_of_change_eq_zero {field other : Field} (same : field.change s t other = 0) :
    field.wire = other.wire := by
  unfold change at same
  split at same
  · rename_i value value' one two
    rw [wire_of_text? one, wire_of_text? two, Text.change_eq_zero_iff.mp same]
  · split_ifs at same with eq
    rw [eq]

theorem wire_of_change_le_one {field other : Field} (near : field.change s t other ≤ 1) :
    field.wire = other.wire ∨ ∃ value value', field.wire = .ok value ∧ other.wire = .ok value' ∧
      Text.Replaces s t value value' := by
  by_cases same : field.change s t other = 0
  · exact .inl (wire_of_change_eq_zero same)
  unfold change at near same
  split at near
  · rename_i value value' one two
    rcases Text.change_le_one_iff.mp near with eq | replaced
    · exact .inl (by rw [wire_of_text? one, wire_of_text? two, eq])
    · exact .inr ⟨value, value', wire_of_text? one, wire_of_text? two, replaced⟩
  · split_ifs at near with eq
    · exact .inl (congrArg wire eq)
    · omega

/-! ## Lists of fields -/

@[simp]
theorem changes_self (fields : List Field) : changes s t fields fields = 0 := by
  induction fields with
  | nil => rfl
  | cons field fields ih => rw [changes, change_self, ih]

@[simp]
theorem distance_self (fields : List Field) : distance s t fields fields = 0 := by
  rw [distance, changes_self, Nat.min_zero]

theorem distance_le_two (fields others : List Field) : distance s t fields others ≤ 2 :=
  Nat.min_le_left _ _

theorem distance_le_changes (fields others : List Field) :
    distance s t fields others ≤ changes s t fields others :=
  Nat.min_le_right _ _

theorem distance_cons_le (field other : Field) (fields others : List Field) :
    distance s t (field :: fields) (other :: others) ≤
      field.change s t other + distance s t fields others := by
  simp only [distance, changes]
  omega

theorem distance_append_le (fields others fields' others' : List Field) :
    distance s t (fields ++ fields') (others ++ others') ≤
      distance s t fields others + distance s t fields' others' := by
  induction fields generalizing others with
  | nil =>
    cases others with
    | nil => simp only [List.nil_append]; omega
    | cons other others =>
      have far : distance s t [] (other :: others) = 2 := rfl
      have bound := distance_le_two (s := s) (t := t) ([] ++ fields') (other :: others ++ others')
      omega
  | cons field fields ih =>
    cases others with
    | nil =>
      have far : distance s t (field :: fields) [] = 2 := rfl
      have bound := distance_le_two (s := s) (t := t) (field :: fields ++ fields') ([] ++ others')
      omega
    | cons other others =>
      have rest := ih others
      simp only [distance, changes, List.cons_append] at rest ⊢
      omega

theorem texts_of_changes_eq_zero {fields others : List Field}
    (same : changes s t fields others = 0) {texts texts' : List String}
    (sent : SentAs fields texts) (sent' : SentAs others texts') : texts = texts' := by
  induction fields generalizing others texts texts' with
  | nil =>
    cases others with
    | nil => exact sent.unique sent'
    | cons other others => cases same
  | cons field fields ih =>
    cases others with
    | nil => cases same
    | cons other others =>
      obtain ⟨first, rest⟩ := Nat.add_eq_zero_iff.mp same
      obtain ⟨value, tail, rfl, one, sent⟩ := sentAs_cons_iff.mp sent
      obtain ⟨value', tail', rfl, two, sent'⟩ := sentAs_cons_iff.mp sent'
      rw [wire_of_change_eq_zero first, two] at one
      rw [Except.ok.inj one, ih rest sent sent']

/-- Fields that are at most one apart are sent as the same texts but for one, in which `t` replaces
`s`. -/
theorem texts_of_changes_le_one {fields others : List Field}
    (near : changes s t fields others ≤ 1) {texts texts' : List String}
    (sent : SentAs fields texts) (sent' : SentAs others texts') :
    texts = texts' ∨ ∃ left value value' right, texts = left ++ value :: right ∧
      texts' = left ++ value' :: right ∧ Text.Replaces s t value value' := by
  induction fields generalizing others texts texts' with
  | nil =>
    cases others with
    | nil => exact .inl (sent.unique sent')
    | cons other others => exact absurd near (Nat.not_le.mpr Nat.one_lt_two)
  | cons field fields ih =>
    cases others with
    | nil => exact absurd near (Nat.not_le.mpr Nat.one_lt_two)
    | cons other others =>
      rw [changes] at near
      obtain ⟨value, tail, rfl, one, rest⟩ := sentAs_cons_iff.mp sent
      obtain ⟨value', tail', rfl, two, rest'⟩ := sentAs_cons_iff.mp sent'
      by_cases first : field.change s t other = 0
      · rw [wire_of_change_eq_zero first, two] at one
        obtain rfl := Except.ok.inj one
        rcases ih (by omega) rest rest' with rfl | ⟨left, text, text', right, rfl, rfl, replaced⟩
        · exact .inl rfl
        · exact .inr ⟨value' :: left, text, text', right, rfl, rfl, replaced⟩
      · have unchanged : changes s t fields others = 0 := by omega
        have near : field.change s t other ≤ 1 := by omega
        obtain rfl := texts_of_changes_eq_zero unchanged rest rest'
        rcases wire_of_change_le_one near with same | ⟨text, text', one', two', replaced⟩
        · rw [same, two] at one
          rw [Except.ok.inj one]
          exact .inl rfl
        · rw [one] at one'
          rw [two] at two'
          obtain rfl := Except.ok.inj one'
          obtain rfl := Except.ok.inj two'
          exact .inr ⟨[], value, value', tail, rfl, rfl, replaced⟩

end Field

/-! ## Lists that are the same but for one place -/

/-- As many texts, of which at most one differs. -/
def SameButOne (texts others : List String) : Prop :=
  texts.length = others.length ∧ (texts.zip others).countP (fun (a, b) => a != b) ≤ 1

instance (texts others : List String) : Decidable (SameButOne texts others) :=
  inferInstanceAs (Decidable (_ ∧ _))

namespace SameButOne

theorem count_self (texts : List String) :
    (texts.zip texts).countP (fun (a, b) => a != b) = 0 := by
  induction texts with
  | nil => rfl
  | cons text texts ih => simp [ih]

protected theorem refl (texts : List String) : SameButOne texts texts :=
  ⟨rfl, by rw [count_self]; decide⟩

theorem append_left_iff (left : List String) {texts others : List String} :
    SameButOne (left ++ texts) (left ++ others) ↔ SameButOne texts others := by
  simp only [SameButOne, List.length_append, Nat.add_left_cancel_iff,
    List.zip_append (rfl : left.length = left.length), List.countP_append, count_self, Nat.zero_add]

theorem append_right_iff (right : List String) {texts others : List String} :
    SameButOne (texts ++ right) (others ++ right) ↔ SameButOne texts others := by
  simp only [SameButOne, List.length_append, Nat.add_right_cancel_iff]
  refine and_congr_right fun lengths => ?_
  rw [List.zip_append lengths, List.countP_append, count_self, Nat.add_zero]

theorem congr_head {text other text' other' : String} (same : text = other ↔ text' = other')
    (texts others : List String) :
    SameButOne (text :: texts) (other :: others) ↔
      SameButOne (text' :: texts) (other' :: others) := by
  have differ : (text != other) = (text' != other') := by
    rw [Bool.eq_iff_iff, bne_iff_ne, bne_iff_ne, ne_eq, ne_eq, same]
  simp only [SameButOne, List.length_cons, List.zip_cons_cons, List.countP_cons, differ]

theorem congr_last {text other text' other' : String} (same : text = other ↔ text' = other')
    (texts others : List String) :
    SameButOne (texts ++ [text]) (others ++ [other]) ↔
      SameButOne (texts ++ [text']) (others ++ [other']) := by
  have differ : (text != other) = (text' != other') := by
    rw [Bool.eq_iff_iff, bne_iff_ne, bne_iff_ne, ne_eq, ne_eq, same]
  simp only [SameButOne, List.length_append, List.length_singleton, Nat.add_right_cancel_iff]
  refine and_congr_right fun lengths => ?_
  rw [List.zip_append lengths, List.zip_append lengths, List.countP_append, List.countP_append]
  simp only [List.zip_cons_cons, List.countP_cons, differ]

end SameButOne

/-! ## Pieces of texts that are strung together -/

namespace Text

theorem pieces_ne_nil (text : String) : pieces text ≠ [] := by
  have count := length_pieces text
  intro empty
  rw [empty] at count
  cases count

theorem pieces_plain_append {text : String} (plain : '\x00' ∉ text.toList) {other q : String}
    {qs : List String} (split : pieces other = q :: qs) :
    pieces (text ++ other) = (text ++ q) :: qs := by
  induction other using zero_induction generalizing q qs with
  | plain other plain' =>
    rw [pieces_of_plain plain', List.cons.injEq] at split
    rw [← split.1, ← split.2, pieces_of_plain]
    rw [String.toList_append, List.mem_append, not_or]
    exact ⟨plain, plain'⟩
  | cut cs ds plain' ih =>
    rw [pieces_cut plain', List.cons.injEq] at split
    have whole : text ++ String.ofList (cs ++ '\x00' :: ds) =
        String.ofList ((text.toList ++ cs) ++ '\x00' :: ds) := by
      rw [List.append_assoc, @String.ofList_append text.toList, String.ofList_toList]
    have plain : '\x00' ∉ text.toList ++ cs := by
      rw [List.mem_append, not_or]
      exact ⟨plain, plain'⟩
    rw [whole, pieces_cut plain, ← split.1, ← split.2, String.ofList_append, String.ofList_toList]

theorem pieces_append {text other : String} {ps qs : List String} {p q : String}
    (first : pieces text = ps ++ [p]) (second : pieces other = q :: qs) :
    pieces (text ++ other) = ps ++ (p ++ q) :: qs := by
  induction text using zero_induction generalizing ps with
  | plain text plain =>
    rw [pieces_of_plain plain, eq_comm, List.append_eq_singleton_iff] at first
    rcases first with ⟨rfl, same⟩ | ⟨-, none⟩
    · rw [pieces_plain_append plain second, List.singleton_inj.mp same, List.nil_append]
    · cases none
  | cut cs ds plain ih =>
    rw [pieces_cut plain] at first
    have whole : String.ofList (cs ++ '\x00' :: ds) ++ other =
        String.ofList (cs ++ '\x00' :: (ds ++ other.toList)) := by
      rw [← List.cons_append, ← List.append_assoc, @String.ofList_append _ other.toList,
        String.ofList_toList]
    cases ps with
    | nil => exact absurd (List.cons.inj first).2 (pieces_ne_nil _)
    | cons p' ps =>
      obtain ⟨rfl, rest⟩ := List.cons.inj first
      rw [whole, pieces_cut plain, String.ofList_append, String.ofList_toList, ih rest]
      rfl

theorem sameButOne_append_left_iff (before : String) {text other : String} :
    SameButOne (pieces (before ++ text)) (pieces (before ++ other)) ↔
      SameButOne (pieces text) (pieces other) := by
  obtain ⟨ps, p, last⟩ := (List.eq_nil_or_concat' (pieces before)).resolve_left (pieces_ne_nil _)
  obtain ⟨q, qs, first⟩ := List.exists_cons_of_ne_nil (pieces_ne_nil text)
  obtain ⟨q', qs', first'⟩ := List.exists_cons_of_ne_nil (pieces_ne_nil other)
  rw [pieces_append last first, pieces_append last first', SameButOne.append_left_iff, first,
    first']
  exact SameButOne.congr_head (String.append_right_inj p) qs qs'

theorem sameButOne_append_right_iff (after : String) {text other : String} :
    SameButOne (pieces (text ++ after)) (pieces (other ++ after)) ↔
      SameButOne (pieces text) (pieces other) := by
  obtain ⟨ps, p, last⟩ := (List.eq_nil_or_concat' (pieces text)).resolve_left (pieces_ne_nil _)
  obtain ⟨ps', p', last'⟩ := (List.eq_nil_or_concat' (pieces other)).resolve_left (pieces_ne_nil _)
  obtain ⟨q, qs, first⟩ := List.exists_cons_of_ne_nil (pieces_ne_nil after)
  rw [pieces_append last first, pieces_append last' first, List.append_cons ps,
    List.append_cons ps', SameButOne.append_right_iff, last, last']
  exact SameButOne.congr_last (String.append_left_inj q) ps ps'

/-- Whether the pieces of two texts are the same but for one is decided by the part that is
replaced. -/
theorem sameButOne_pieces_iff {s t text other : String} (replaced : Replaces s t text other) :
    SameButOne (pieces text) (pieces other) ↔ SameButOne (pieces s) (pieces t) := by
  obtain ⟨before, after, rfl, rfl⟩ := replaced
  rw [sameButOne_append_right_iff, sameButOne_append_left_iff]

end Text

/-- **Messages whose fields are at most one apart** split into as many fields, with at most one that
differs, just if they are equal or the pieces of the two texts are the same but for one. -/
theorem sameButOne_splitFields_iff {s t : String} {fields others : List Field}
    (near : Field.distance s t fields others ≤ 1) {payload payload' : Bytes}
    (encoded : Field.encodeAll fields = .ok payload)
    (encoded' : Field.encodeAll others = .ok payload') :
    SameButOne (splitFields payload) (splitFields payload') ↔
      payload = payload' ∨ SameButOne (Text.pieces s) (Text.pieces t) := by
  have near : Field.changes s t fields others ≤ 1 := by
    rw [Field.distance] at near
    omega
  obtain ⟨texts, sent, rfl⟩ := Field.encodeAll_eq_ok_iff.mp encoded
  obtain ⟨texts', sent', rfl⟩ := Field.encodeAll_eq_ok_iff.mp encoded'
  rcases Field.texts_of_changes_le_one near sent sent' with
    rfl | ⟨left, value, value', right, rfl, rfl, replaced⟩
  · exact iff_of_true (SameButOne.refl _) (.inl rfl)
  · have alike : SameButOne (splitFields ((left ++ value :: right).flatMap Field.terminated))
        (splitFields ((left ++ value' :: right).flatMap Field.terminated)) ↔
          SameButOne (Text.pieces s) (Text.pieces t) := by
      rw [splitFields_flatMap_pieces, splitFields_flatMap_pieces]
      simp only [List.flatMap_append, List.flatMap_cons]
      rw [SameButOne.append_left_iff, SameButOne.append_right_iff,
        Text.sameButOne_pieces_iff replaced]
    refine ⟨fun h => .inr (alike.mp h), ?_⟩
    rintro (same | h)
    · rw [same]
      exact SameButOne.refl _
    · exact alike.mpr h

end TradeWire
