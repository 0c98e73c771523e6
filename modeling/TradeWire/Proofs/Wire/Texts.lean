import Mathlib.Tactic
import TradeWire.Proofs.Decimal.Written
import TradeWire.Proofs.Wire.Payload

/-!
# The texts of a message

A message is sent as the texts of its fields (`SentAs`). A number is written without the zero
character, so a payload splits into the texts that were sent as long as no text attribute holds that
character (`sentAs_splitFields`).
-/

namespace TradeWire

namespace Field

/-- The fields are sent as these texts. -/
def SentAs (fields : List Field) (texts : List String) : Prop := fields.map wire = texts.map .ok

theorem sentAs_nil_iff {texts : List String} : SentAs [] texts ↔ texts = [] := by
  rw [SentAs, List.map_nil, eq_comm, List.map_eq_nil_iff]

theorem sentAs_cons_iff {field : Field} {fields : List Field} {texts : List String} :
    SentAs (field :: fields) texts ↔
      ∃ text others, texts = text :: others ∧ field.wire = .ok text ∧ SentAs fields others := by
  rw [SentAs, List.map_cons, eq_comm, List.map_eq_cons_iff]
  constructor
  · rintro ⟨text, others, rfl, one, rest⟩
    exact ⟨text, others, rfl, one.symm, rest.symm⟩
  · rintro ⟨text, others, rfl, one, rest⟩
    exact ⟨text, others, rfl, one.symm, rest.symm⟩

theorem sentAs_append_iff {first second : List Field} {texts : List String} :
    SentAs (first ++ second) texts ↔
      ∃ left right, texts = left ++ right ∧ SentAs first left ∧ SentAs second right := by
  rw [SentAs, List.map_append, eq_comm, List.map_eq_append_iff]
  constructor
  · rintro ⟨left, right, rfl, one, other⟩
    exact ⟨left, right, rfl, one.symm, other.symm⟩
  · rintro ⟨left, right, rfl, one, other⟩
    exact ⟨left, right, rfl, one.symm, other.symm⟩

theorem SentAs.length_eq {fields : List Field} {texts : List String} (sent : SentAs fields texts) :
    texts.length = fields.length := by
  have lengths := congrArg List.length sent
  rwa [List.length_map, List.length_map, eq_comm] at lengths

theorem SentAs.unique {fields : List Field} {texts others : List String}
    (sent : SentAs fields texts) (sent' : SentAs fields others) : texts = others :=
  List.map_injective_iff.mpr (fun _ _ same => Except.ok.inj same) (sent.symm.trans sent')

theorem encodeAll_eq_ok_iff {fields : List Field} {payload : Bytes} :
    encodeAll fields = .ok payload ↔
      ∃ texts, SentAs fields texts ∧ payload = texts.flatMap terminated := by
  induction fields generalizing payload with
  | nil =>
    constructor
    · rintro ⟨⟩
      exact ⟨[], rfl, rfl⟩
    · rintro ⟨texts, sent, rfl⟩
      rw [sentAs_nil_iff.mp sent]
      rfl
  | cons field fields ih =>
    rw [encodeAll_cons_eq_ok]
    constructor
    · rintro ⟨text, bytes, one, encoded, rfl⟩
      obtain ⟨others, rest, rfl⟩ := ih.mp encoded
      exact ⟨text :: others, sentAs_cons_iff.mpr ⟨text, others, rfl, one, rest⟩, rfl⟩
    · rintro ⟨texts, sent, rfl⟩
      obtain ⟨text, others, rfl, one, rest⟩ := sentAs_cons_iff.mp sent
      exact ⟨text, _, one, ih.mpr ⟨others, rest, rfl⟩, rfl⟩

/-! ## Texts without the zero character -/

/-- A scalar that is no text with the zero character. -/
def IsPlain : Field → Prop
  | .text value => '\x00' ∉ value.toList
  | _ => True

instance : DecidablePred IsPlain
  | .text value => inferInstanceAs (Decidable ('\x00' ∉ value.toList))
  | .empty | .flag _ | .int _ | .real _ => inferInstanceAs (Decidable True)

theorem zero_notMem_wire {field : Field} (plain : field.IsPlain) {text : String}
    (sent : field.wire = .ok text) : '\x00' ∉ text.toList := by
  cases field with
  | empty =>
    cases sent
    decide
  | flag value =>
    cases sent
    cases value <;> decide
  | int n =>
    rw [wire] at sent
    split_ifs at sent
    · cases sent
      decide
    · cases written : Text.writtenInt? n with
      | none => rw [written] at sent; cases sent
      | some digits =>
        rw [written] at sent
        cases sent
        intro zero
        rcases Text.mem_writtenInt? written zero with digit | minus
        · exact absurd digit (by decide)
        · exact absurd minus (by decide)
  | real x =>
    cases sent
    split_ifs
    · decide
    · exact x.zero_notMem_plainText
  | text value =>
    cases sent
    exact plain

end Field

theorem splitFields_flatMap {texts : List String} (plain : ∀ text ∈ texts, '\x00' ∉ text.toList) :
    splitFields (texts.flatMap Field.terminated) = texts := by
  induction texts with
  | nil => rfl
  | cons text texts ih =>
    obtain ⟨first, others⟩ := List.forall_mem_cons.mp plain
    rw [List.flatMap_cons, splitFields_terminated first, ih others]

theorem sentAs_splitFields {fields : List Field} (plain : ∀ field ∈ fields, field.IsPlain)
    {payload : Bytes} (encoded : Field.encodeAll fields = .ok payload) :
    Field.SentAs fields (splitFields payload) := by
  obtain ⟨texts, sent, rfl⟩ := Field.encodeAll_eq_ok_iff.mp encoded
  rw [splitFields_flatMap]
  · exact sent
  · intro text h
    have mem : (.ok text : Except EncodeError String) ∈ fields.map Field.wire := by
      rw [sent]
      exact List.mem_map_of_mem h
    obtain ⟨field, hf, one⟩ := List.mem_map.mp mem
    exact Field.zero_notMem_wire (plain field hf) one

end TradeWire
