import Mathlib
import RowQuery.Proofs.Condition.Leaves
import RowQuery.Proofs.Description.Shape
import RowQuery.Proofs.Json.Document

/-!
# Conditions are decoded exactly

`Condition.toJson` writes a condition in the form that is documented for it. Decoding reads it back,
decodes nothing but values of the shape of a condition whose words are operators and conjunctions,
and names the first word that is not one (`Condition.decoding_exact`).
-/

namespace RowQuery

/-! ## Writing -/

/-- An operand in JSON. -/
def Operand.toJson : Operand → Json
  | .single value => value.toJson
  | .list values => .array (values.map Scalar.toJson)

namespace Condition

mutual

/-- A condition in JSON. -/
def toJson : Condition → Json
  | .raw sql values =>
    .object [("raw", .text sql), ("values", .array (values.map Scalar.toJson))]
  | .compare c => .array [.text c.column, .text c.operator.text, c.operand.toJson]
  | .group conjunction children => .array [.text conjunction.text, .array (toJsonItems children)]

/-- The members of a group in JSON. -/
def toJsonItems : List Condition → List Json
  | [] => []
  | c :: rest => toJson c :: toJsonItems rest

end

end Condition

/-- A scalar that JSON can write: no infinity and no not-a-number. -/
def Scalar.Finite : Scalar → Prop
  | .float x => x.IsFinite
  | .null | .bool _ | .int _ | .text _ => True

/-- A condition of scalars that JSON can write. -/
def Condition.Finite (c : Condition) : Prop := ∀ leaf ∈ c.leaves, ∀ v ∈ leaf.values, v.Finite

/-! ## Reading back -/

/-- A scalar in a cell is read back. -/
theorem Scalar.ofJson_toJson {v : Scalar} (h : v.Finite) : Scalar.ofJson v.toJson = .ok v := by
  cases v with
  | null | bool | text => rfl
  | int i =>
    have hrange : i.toInt < 9223372036854775808 := i.toInt_lt
    show Except.ok (if i.toInt < 9223372036854775808 then Scalar.int (.ofInt i.toInt) else _) = _
    rw [if_pos hrange, Int64.ofInt_toInt]
  | float x =>
    have hfinite : x.IsFinite := h
    rw [toJson, dif_pos hfinite]
    rfl

/-- A scalar is read back. -/
theorem Scalar.ofJson?_toJson {v : Scalar} (h : v.Finite) : Scalar.ofJson? v.toJson = some v := by
  rw [ofJson?_eq_toOption, ofJson_toJson h]
  rfl

/-- A list of scalars is read back. -/
theorem Scalar.mapM_ofJson?_toJson {values : List Scalar} (h : ∀ v ∈ values, v.Finite) :
    (values.map Scalar.toJson).mapM Scalar.ofJson? = some values :=
  mapM_map_eq_some fun v hv => Scalar.ofJson?_toJson (h v hv)

/-- An operand is read back. -/
theorem Operand.ofJson?_toJson {operand : Operand} (h : ∀ v ∈ operand.values, v.Finite) :
    Operand.ofJson? operand.toJson = some operand := by
  cases operand with
  | single value =>
    have hvalue := Scalar.ofJson?_toJson (h value (List.mem_singleton.2 rfl))
    have hparts : ∀ items, value.toJson ≠ .array items := by
      intro items hitems
      rw [hitems] at hvalue
      cases hvalue
    rw [toJson]
    unfold ofJson?
    split
    · next items hitems => exact absurd hitems (hparts items)
    · rw [hvalue]
      rfl
  | list values =>
    have hvalues : ∀ v ∈ values, v.Finite := h
    rw [toJson, ofJson?, Scalar.mapM_ofJson?_toJson hvalues]
    rfl

/-- The text of an operator is read as the operator. -/
theorem Operator.ofText_text (op : Operator) : Operator.ofText op.text = .ok op := by
  cases op <;> cbv

/-- The text of a conjunction is read as the conjunction. -/
theorem Conjunction.ofText_text (c : Conjunction) : Conjunction.ofText c.text = .ok c := by
  cases c <;> cbv

namespace Condition

/-- Members that are read back one by one are read back together. -/
theorem exists_forms {children : List Condition} {items : List Json}
    (h : List.Forall₂ (fun c v => ∃ form, Form.ofJson? v = some form ∧ form.condition = .ok c)
      children items) :
    ∃ forms, Form.ofItems? items = some forms ∧ Form.conditions forms = .ok children := by
  induction h with
  | nil => exact ⟨[], rfl, rfl⟩
  | cons hhead _ ih =>
    obtain ⟨form, hform, hc⟩ := hhead
    obtain ⟨forms, hforms, hchildren⟩ := ih
    refine ⟨form :: forms, ?_, ?_⟩
    · rw [Form.ofItems?, hform, hforms]
      rfl
    · rw [Form.conditions, hc, hchildren]
      rfl

/-- The members of a group in JSON are the members, each in JSON. -/
theorem toJsonItems_eq_map (children : List Condition) :
    toJsonItems children = children.map toJson := by
  induction children with
  | nil => rfl
  | cons c children ih => rw [toJsonItems, ih, List.map_cons]

/-- A condition in JSON has a form, which is read as the condition. -/
theorem exists_form {c : Condition} (h : c.Finite) :
    ∃ form, Form.ofJson? c.toJson = some form ∧ form.condition = .ok c := by
  induction c using recMembers with
  | raw sql values =>
    have hvalues : ∀ v ∈ values, v.Finite := h _ (List.mem_singleton.2 rfl)
    refine ⟨.raw sql values, ?_, rfl⟩
    show Option.map (Form.raw sql) ((values.map Scalar.toJson).mapM Scalar.ofJson?) = _
    rw [Scalar.mapM_ofJson?_toJson hvalues]
    rfl
  | compare c =>
    have hoperand := Operand.ofJson?_toJson (h _ (List.mem_singleton.2 rfl))
    refine ⟨.compare c.column c.operator.text c.operand, ?_, ?_⟩
    · rw [toJson, Form.ofJson?, hoperand]
      rfl
    · rw [Form.condition, Operator.ofText_text]
      rfl
  | group conjunction children ih =>
    have hmembers : List.Forall₂ (fun c v => ∃ form, Form.ofJson? v = some form ∧
        form.condition = .ok c) children (toJsonItems children) := by
      rw [toJsonItems_eq_map, List.forall₂_map_right_iff, List.forall₂_same]
      exact fun c hc => ih c hc fun leaf hleaf => h leaf (mem_leaves_group hc hleaf)
    obtain ⟨forms, hforms, hchildren⟩ := exists_forms hmembers
    refine ⟨.group conjunction.text forms, ?_, ?_⟩
    · rw [toJson, Form.ofJson?, hforms]
      rfl
    · rw [Form.condition, Conjunction.ofText_text, hchildren]
      rfl

/-! ## Decoding -/

/-- Decoding judges the shape of the whole value before its words. -/
theorem ofValue_condition (v : Json) : Decoder.ofValue Decoder.condition v =
    match Form.ofJson? v with
    | some form => form.condition.mapError .refused
    | none => .error (.noForm "ConditionRepr") := by
  have hvalue : Decoder.value (.ofJson v) = .ok v := by
    rw [Decoder.value, Document.strict_ofJson]
    rfl
  rw [Decoder.ofValue, Decoder.condition, Decoder.formOf, hvalue]
  cases h : Form.ofJson? v <;> simp only [bind, Except.bind, h] <;> rfl

/-- A value is decoded when it has a form all of whose words are valid. -/
theorem exists_ofValue_eq_ok {v : Json} :
    (∃ c, Decoder.ofValue Decoder.condition v = .ok c) ↔
      ∃ form, Form.ofJson? v = some form ∧ ∀ w ∈ form.words, w.Valid := by
  rw [ofValue_condition]
  cases hform : Form.ofJson? v with
  | none => simp
  | some form =>
    simp only [mapError_eq_ok, Option.some.injEq, exists_eq_left']
    rw [← Keyword.forM_read_eq_ok, ← Form.condition_map, map_eq_ok]
    simp

/-- Decoding conditions is exact: it reads back what is written, it succeeds for values of the shape
of a condition with valid words and for no others, and where only words are wrong it names the first
of them from left to right, the conjunction of a group before its members. -/
theorem decoding_exact :
    (∀ c : Condition, c.Finite → Decoder.ofValue Decoder.condition c.toJson = .ok c) ∧
    (∀ v : Json, (∃ c, Decoder.ofValue Decoder.condition v = .ok c) ↔
      ∃ words, Shaped v words ∧ ∀ w ∈ words, w.Valid) ∧
    ∀ (v : Json) (good rest : List Keyword) (w : Keyword), Shaped v (good ++ w :: rest) →
      (∀ w' ∈ good, w'.Valid) → ¬ w.Valid →
      ∃ e, Decoder.ofValue Decoder.condition v = .error e ∧
        e.message = (QueryError.unsupportedOperator w.text).message := by
  refine ⟨fun c h => ?_, fun v => ?_, fun v good rest w h hgood hw => ?_⟩
  · obtain ⟨form, hform, hc⟩ := exists_form h
    rw [ofValue_condition, hform]
    exact mapError_eq_ok.2 hc
  · rw [exists_ofValue_eq_ok]
    constructor
    · rintro ⟨form, hform, hwords⟩
      exact ⟨form.words, shaped_iff.2 ⟨form, hform, rfl⟩, hwords⟩
    · rintro ⟨words, hshaped, hwords⟩
      obtain ⟨form, hform, rfl⟩ := shaped_iff.1 hshaped
      exact ⟨form, hform, hwords⟩
  · obtain ⟨form, hform, hwords⟩ := shaped_iff.1 h
    have herror := form.condition_map
    rw [hwords, Keyword.forM_read_of_not_valid hgood hw] at herror
    refine ⟨.refused (.unsupportedOperator w.text), ?_, rfl⟩
    rw [ofValue_condition, hform]
    show form.condition.mapError DecodeError.refused = _
    cases hc : form.condition with
    | ok c =>
      rw [hc] at herror
      cases herror
    | error e =>
      rw [hc] at herror
      cases herror
      rfl

/-- A group is read back, and of two members with unknown operators the first is named. -/
theorem decoding_exact_of_group :
    Decoder.ofValue Decoder.condition (toJson (.group .or
        [.compare ⟨"a", .notIn, .list [.int 1, .float (.zero true)]⟩, .raw "b > ?" [.int 2]])) =
      .ok (.group .or
        [.compare ⟨"a", .notIn, .list [.int 1, .float (.zero true)]⟩, .raw "b > ?" [.int 2]]) ∧
    ∃ e, Decoder.ofValue Decoder.condition (.array [.text " and ", .array
        [.array [.text "a", .text "=~", .null], .array [.text "b", .text "~", .null]]]) =
        .error e ∧
      e.message = "Unsupported operator: =~" := by
  constructor
  · refine decoding_exact.1 _ ?_
    have hzero : (Binary64.zero true).IsFinite := by decide
    simp [Finite, leaves, memberLeaves, Leaf.values, Operand.values, Scalar.Finite, hzero]
  · have hnull : Json.IsOperand .null := .inl trivial
    have hand : Keyword.Valid (.conjunction " and ") := Conjunction.ofText?_isSome.1 (by cbv)
    have hnone : (Operator.ofText? "=~").isSome = false := by cbv
    have hbad : ¬ Keyword.Valid (.operator "=~") := fun h => by
      have hsome := Operator.ofText?_isSome.2 h
      rw [hnone] at hsome
      cases hsome
    have hmembers : ShapedMembers
        [.array [.text "a", .text "=~", .null], .array [.text "b", .text "~", .null]]
        ([.operator "=~"] ++ ([.operator "~"] ++ [])) :=
      .cons (.compare hnull) (.cons (.compare hnull) .nil)
    exact decoding_exact.2.2 _ [.conjunction " and "] [.operator "~"] (.operator "=~")
      (.group hmembers) (List.forall_mem_singleton.2 hand) hbad

end Condition

end RowQuery
