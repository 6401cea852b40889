import RowQuery.Description.Condition
import RowQuery.Proofs.Steps

/-!
# The shape of a condition in JSON

`Shaped v words` says that a value has the shape of a condition, and that `words` are the texts of
its operators and conjunctions as they are met from left to right, the conjunction of a group before
its members. It says so by the values alone; decoding finds the same values to have a form, with the
same words (`shaped_iff`). Whether the words are operators and conjunctions (`Keyword.Valid`) is a
second question, and the first that is not decides the error (`Form.condition_map`).
-/

namespace RowQuery

/-! ## Words -/

/-- A text in the place of an operator or of a conjunction. -/
inductive Keyword where
  | operator (text : String)
  | conjunction (text : String)
deriving DecidableEq, Repr

namespace Keyword

/-- The text as it is given. -/
def text : Keyword → String
  | .operator text => text
  | .conjunction text => text

/-- The text is an operator or a conjunction: for an operator, its words with one blank between them
and with raised letters are the text of one, or are `<>`; for a conjunction, it is one without the
white space at its ends and with raised letters. -/
def Valid : Keyword → Prop
  | .operator text =>
    (∃ op : Operator, Text.asciiUpper (" ".intercalate (Text.words text)) = op.text) ∨
      Text.asciiUpper (" ".intercalate (Text.words text)) = "<>"
  | .conjunction text => ∃ c : Conjunction, Text.asciiUpper (Text.trim text) = c.text

/-- Reads the text for what it has to be. -/
def read : Keyword → Except QueryError Unit
  | .operator text => (Operator.ofText text).map fun _ => ()
  | .conjunction text => (Conjunction.ofText text).map fun _ => ()

end Keyword

/-- An operator is read where its text or `<>` is written. -/
theorem Operator.ofText?_isSome {s : String} :
    (ofText? s).isSome ↔ (∃ op : Operator, normalize s = op.text) ∨ normalize s = "<>" := by
  constructor
  · intro h
    obtain ⟨op, h⟩ := Option.isSome_iff_exists.1 h
    refine Or.imp_left (fun hop => ⟨op, hop⟩) ?_
    unfold ofText? at h
    split at h <;> cases h <;> rename_i hnormal <;>
      first | exact .inl hnormal | exact .inr hnormal
  · rintro (⟨op, h⟩ | h)
    · unfold ofText?
      rw [h]
      cases op <;> rfl
    · unfold ofText?
      rw [h]
      rfl

/-- A conjunction is read where its text is written. -/
theorem Conjunction.ofText?_isSome {s : String} :
    (ofText? s).isSome ↔ ∃ c : Conjunction, Text.asciiUpper (Text.trim s) = c.text := by
  constructor
  · intro h
    obtain ⟨c, h⟩ := Option.isSome_iff_exists.1 h
    unfold ofText? at h
    split at h <;> cases h
    · next h => exact ⟨.and, h⟩
    · next h => exact ⟨.or, h⟩
  · rintro ⟨c, h⟩
    unfold ofText?
    rw [h]
    cases c <;> rfl

namespace Keyword

/-- A valid text is read. -/
theorem read_of_valid {w : Keyword} (h : w.Valid) : w.read = .ok () := by
  cases w with
  | operator text =>
    obtain ⟨op, hop⟩ := Option.isSome_iff_exists.1 (Operator.ofText?_isSome.2 h)
    rw [read, Operator.ofText, hop]
    rfl
  | conjunction text =>
    obtain ⟨c, hc⟩ := Option.isSome_iff_exists.1 (Conjunction.ofText?_isSome.2 h)
    rw [read, Conjunction.ofText, hc]
    rfl

/-- A text that is not valid is named by the error. -/
theorem read_of_not_valid {w : Keyword} (h : ¬ w.Valid) :
    w.read = .error (.unsupportedOperator w.text) := by
  cases w with
  | operator text =>
    have hnone : Operator.ofText? text = none :=
      Option.not_isSome_iff_eq_none.1 fun hop => h (Operator.ofText?_isSome.1 hop)
    rw [read, Operator.ofText, hnone]
    rfl
  | conjunction text =>
    have hnone : Conjunction.ofText? text = none :=
      Option.not_isSome_iff_eq_none.1 fun hc => h (Conjunction.ofText?_isSome.1 hc)
    rw [read, Conjunction.ofText, hnone]
    rfl

/-- Texts are read when all are valid. -/
theorem forM_read_eq_ok {words : List Keyword} :
    forM words read = .ok () ↔ ∀ w ∈ words, w.Valid := by
  induction words with
  | nil => simp [pure, Except.pure]
  | cons w words ih =>
    rw [List.forM_cons, List.forall_mem_cons, ← ih]
    by_cases h : w.Valid
    · rw [read_of_valid h]
      exact ⟨fun hwords => ⟨h, hwords⟩, And.right⟩
    · rw [read_of_not_valid h]
      exact ⟨fun hwords => (nomatch hwords), fun hwords => absurd hwords.1 h⟩

/-- The first text that is not valid is named by the error. -/
theorem forM_read_of_not_valid {good rest : List Keyword} {w : Keyword}
    (hgood : ∀ w ∈ good, w.Valid) (h : ¬ w.Valid) :
    forM (good ++ w :: rest) read = .error (.unsupportedOperator w.text) := by
  rw [List.forM_append, forM_read_eq_ok.2 hgood, List.forM_cons, read_of_not_valid h]
  rfl

end Keyword

/-! ## Shapes -/

/-- A value without parts. -/
def Json.IsScalar : Json → Prop
  | .null | .bool _ | .number _ | .text _ => True
  | .array _ | .object _ => False

/-- A value without parts, or an array of such values. -/
def Json.IsOperand (v : Json) : Prop :=
  v.IsScalar ∨ ∃ items, v = .array items ∧ ∀ item ∈ items, item.IsScalar

/-- The values that a key has in the fields of an object. -/
def Json.valuesOf (key : String) (fields : List (String × Json)) : List Json :=
  (fields.filter (·.1 = key)).map Prod.snd

mutual

/-- A value has the shape of a condition with these texts of operators and conjunctions. -/
inductive Shaped : Json → List Keyword → Prop
  /-- An object with a text under `raw` and, if anything is there, an array of values without parts
  under `values`. -/
  | raw {fields : List (String × Json)} {sql : String}
    (hraw : Json.valuesOf "raw" fields = [.text sql])
    (hvalues : Json.valuesOf "values" fields = [] ∨
      ∃ items, Json.valuesOf "values" fields = [.array items] ∧ ∀ item ∈ items, item.IsScalar) :
    Shaped (.object fields) []
  /-- An array of two texts and a value without parts or an array of such values. -/
  | compare {column operator : String} {operand : Json} (h : operand.IsOperand) :
    Shaped (.array [.text column, .text operator, operand]) [.operator operator]
  /-- An array of a text and an array of conditions. -/
  | group {conjunction : String} {members : List Json} {words : List Keyword}
    (h : ShapedMembers members words) :
    Shaped (.array [.text conjunction, .array members]) (.conjunction conjunction :: words)

/-- The members of a group have the shape of conditions with these texts. -/
inductive ShapedMembers : List Json → List Keyword → Prop
  | nil : ShapedMembers [] []
  | cons {v : Json} {rest : List Json} {words words' : List Keyword} (h : Shaped v words)
    (hrest : ShapedMembers rest words') : ShapedMembers (v :: rest) (words ++ words')

end

/-! ## Forms -/

namespace Form

mutual

/-- The texts of operators and conjunctions, from left to right. -/
def words : Form → List Keyword
  | .raw _ _ => []
  | .compare _ operator _ => [.operator operator]
  | .group conjunction children => .conjunction conjunction :: memberWords children

/-- The texts of the members of a group. -/
def memberWords : List Form → List Keyword
  | [] => []
  | form :: rest => words form ++ memberWords rest

end

mutual

/-- Reading a form reads its texts from left to right. -/
theorem condition_map : ∀ form : Form,
    form.condition.map (fun _ => ()) = forM form.words Keyword.read
  | .raw _ _ => rfl
  | .compare column operator operand => by
    rw [condition, words, List.forM_cons, Keyword.read]
    cases Operator.ofText operator <;> rfl
  | .group conjunction children => by
    have hchildren := conditions_map children
    rw [condition, words, List.forM_cons, Keyword.read, ← hchildren]
    cases Conjunction.ofText conjunction with
    | error => rfl
    | ok c => cases conditions children <;> rfl

/-- Reading the members of a group reads their texts from left to right. -/
theorem conditions_map : ∀ forms : List Form,
    (conditions forms).map (fun _ => ()) = forM (memberWords forms) Keyword.read
  | [] => rfl
  | form :: rest => by
    rw [conditions, memberWords, List.forM_append, ← condition_map form, ← conditions_map rest]
    cases form.condition with
    | error => rfl
    | ok c => cases conditions rest <;> rfl

end

end Form

/-! ## Values and forms -/

/-- Values are scalars when they have no parts. -/
theorem Scalar.ofJson?_isSome {v : Json} : (Scalar.ofJson? v).isSome ↔ v.IsScalar := by
  rw [ofJson?_eq_toOption]
  cases v <;> simp [ofJson, Json.IsScalar, Except.toOption]

/-- A step for every element has a result when it does for each. -/
theorem exists_mapM_eq_some {α β : Type} {f : α → Option β} {l : List α} :
    (∃ r, l.mapM f = some r) ↔ ∀ a ∈ l, (f a).isSome := by
  induction l with
  | nil => simp
  | cons a l ih =>
    rw [List.forall_mem_cons, ← ih, List.mapM_cons]
    cases f a with
    | none => simp
    | some b => cases l.mapM f <;> simp

/-- Arrays are lists of scalars when no item has parts. -/
theorem exists_mapM_ofJson? (items : List Json) :
    (∃ values, items.mapM Scalar.ofJson? = some values) ↔ ∀ item ∈ items, item.IsScalar :=
  exists_mapM_eq_some.trans (forall₂_congr fun _ _ => Scalar.ofJson?_isSome)

/-- Values are operands when they are scalars or arrays of scalars. -/
theorem Operand.ofJson?_isSome {v : Json} : (Operand.ofJson? v).isSome ↔ v.IsOperand := by
  unfold Json.IsOperand
  cases v with
  | array items =>
    rw [ofJson?, Option.isSome_map, Option.isSome_iff_exists, exists_mapM_ofJson?]
    simp [Json.IsScalar]
  | null | bool | number | text | object =>
    simp only [ofJson?, Option.isSome_map, Scalar.ofJson?_isSome]
    simp

/-- How often a key is given is the number of its values. -/
theorem count_keys (key : String) (fields : List (String × Json)) :
    (fields.map Prod.fst).count key = (Json.valuesOf key fields).length := by
  rw [Json.valuesOf, List.length_map, List.count, List.countP_map, List.countP_eq_length_filter]
  rfl

/-- The value of a key is the first of its values. -/
theorem field?_eq_head? (key : String) (fields : List (String × Json)) :
    Json.field? key fields = (Json.valuesOf key fields).head? := by
  induction fields with
  | nil => rfl
  | cons field rest ih =>
    unfold Json.field? Json.valuesOf
    rw [List.filter_cons]
    by_cases h : field.1 = key
    · simp [h]
    · simp [h, ih, Json.valuesOf]

/-- An object has the form of a fragment when `raw` is one text and `values`, if it is given, one
array of scalars. -/
theorem Form.raw?_isSome {fields : List (String × Json)} :
    (raw? fields).isSome ↔ (∃ sql, Json.valuesOf "raw" fields = [.text sql]) ∧
      (Json.valuesOf "values" fields = [] ∨
        ∃ items, Json.valuesOf "values" fields = [.array items] ∧ ∀ item ∈ items, item.IsScalar) := by
  unfold raw?
  rw [count_keys, count_keys, field?_eq_head?, field?_eq_head?]
  generalize Json.valuesOf "raw" fields = raws
  generalize Json.valuesOf "values" fields = values
  match raws with
  | [] => simp
  | _ :: _ :: _ => simp
  | [.null] | [.bool _] | [.number _] | [.array _] | [.object _] => simp
  | [.text sql] =>
    match values with
    | [] => simp
    | _ :: _ :: _ => simp
    | [.null] | [.bool _] | [.number _] | [.text _] | [.object _] => simp
    | [.array items] =>
      have hitems := exists_mapM_ofJson? items
      rw [← Option.isSome_iff_exists] at hitems
      simp [hitems]

namespace Form

/-- The fragment form of an object is a fragment. -/
theorem exists_of_raw?_eq_some {fields : List (String × Json)} {form : Form}
    (h : raw? fields = some form) : ∃ sql values, form = .raw sql values := by
  unfold raw? at h
  split at h
  · split at h
    · cases h
      exact ⟨_, _, rfl⟩
    · obtain ⟨values, -, rfl⟩ := Option.map_eq_some_iff.1 h
      exact ⟨_, _, rfl⟩
    · cases h
  · cases h

/-- The fragment form of an object has no words. -/
theorem words_of_raw? {fields : List (String × Json)} {form : Form} (h : raw? fields = some form) :
    form.words = [] := by
  obtain ⟨sql, values, rfl⟩ := exists_of_raw?_eq_some h
  rfl

mutual

/-- A value of the shape has a form with the words. -/
theorem of_shaped : ∀ {v : Json} {words : List Keyword}, Shaped v words →
    ∃ form, ofJson? v = some form ∧ form.words = words
  | _, _, .raw hraw hvalues => by
    obtain ⟨form, hform⟩ := Option.isSome_iff_exists.1 (raw?_isSome.2 ⟨⟨_, hraw⟩, hvalues⟩)
    exact ⟨form, hform, words_of_raw? hform⟩
  | _, _, .compare h => by
    obtain ⟨operand, hoperand⟩ := Option.isSome_iff_exists.1 (Operand.ofJson?_isSome.2 h)
    exact ⟨_, Option.map_eq_some_iff.2 ⟨operand, hoperand, rfl⟩, rfl⟩
  | _, _, .group h => by
    obtain ⟨forms, hforms, rfl⟩ := of_shapedMembers h
    exact ⟨_, Option.map_eq_some_iff.2 ⟨forms, hforms, rfl⟩, rfl⟩

/-- Values of the shape have forms with the words. -/
theorem of_shapedMembers : ∀ {members : List Json} {words : List Keyword},
    ShapedMembers members words → ∃ forms, ofItems? members = some forms ∧ memberWords forms = words
  | _, _, .nil => ⟨[], rfl, rfl⟩
  | _, _, .cons h hrest => by
    obtain ⟨form, hform, rfl⟩ := of_shaped h
    obtain ⟨forms, hforms, rfl⟩ := of_shapedMembers hrest
    refine ⟨form :: forms, ?_, rfl⟩
    rw [ofItems?, hform, hforms]
    rfl

end

/-- The values that have a form. -/
theorem ofJson?_eq_some {v : Json} {form : Form} (h : ofJson? v = some form) :
    (∃ fields, v = .object fields ∧ raw? fields = some form) ∨
    (∃ column operator operand o, v = .array [.text column, .text operator, operand] ∧
      Operand.ofJson? operand = some o ∧ form = .compare column operator o) ∨
    ∃ conjunction members forms, v = .array [.text conjunction, .array members] ∧
      ofItems? members = some forms ∧ form = .group conjunction forms := by
  unfold ofJson? at h
  split at h
  · next fields => exact .inl ⟨fields, rfl, h⟩
  · next column operator operand =>
    obtain ⟨o, ho, rfl⟩ := Option.map_eq_some_iff.1 h
    exact .inr (.inl ⟨column, operator, operand, o, rfl, ho, rfl⟩)
  · next conjunction members =>
    obtain ⟨forms, hforms, rfl⟩ := Option.map_eq_some_iff.1 h
    exact .inr (.inr ⟨conjunction, members, forms, rfl, hforms, rfl⟩)
  · cases h

/-- The lists of values that have forms. -/
theorem ofItems?_eq_some {v : Json} {rest : List Json} {forms : List Form}
    (h : ofItems? (v :: rest) = some forms) : ∃ form restForms, ofJson? v = some form ∧
      ofItems? rest = some restForms ∧ forms = form :: restForms := by
  rw [ofItems?, Option.bind_eq_bind, Option.bind_eq_some_iff] at h
  obtain ⟨form, hform, h⟩ := h
  obtain ⟨restForms, hrest, h⟩ := Option.bind_eq_some_iff.1 h
  cases h
  exact ⟨form, restForms, hform, hrest, rfl⟩

mutual

/-- A value with a form has the shape with the words of the form. -/
theorem shaped : ∀ (form : Form) {v : Json}, ofJson? v = some form → Shaped v form.words
  | form, v, h => by
    rcases ofJson?_eq_some h with ⟨fields, rfl, hraw⟩ | ⟨column, operator, operand, o, rfl, ho, rfl⟩ |
      ⟨conjunction, members, forms, rfl, hforms, rfl⟩
    · obtain ⟨⟨sql, hsql⟩, hvalues⟩ := raw?_isSome.1 (Option.isSome_of_eq_some hraw)
      rw [words_of_raw? hraw]
      exact .raw hsql hvalues
    · exact .compare (Operand.ofJson?_isSome.1 (Option.isSome_of_eq_some ho))
    · exact .group (shapedMembers forms hforms)
termination_by form => sizeOf form

/-- Values with forms have the shape with the words of the forms. -/
theorem shapedMembers : ∀ (forms : List Form) {members : List Json},
    ofItems? members = some forms → ShapedMembers members (memberWords forms)
  | forms, [], h => by
    cases h
    exact .nil
  | forms, v :: rest, h => by
    obtain ⟨form, restForms, hform, hrest, rfl⟩ := ofItems?_eq_some h
    exact .cons (shaped form hform) (shapedMembers restForms hrest)
termination_by forms => sizeOf forms

end

end Form

/-- A value has the shape with the words when it has a form with them. -/
theorem shaped_iff {v : Json} {words : List Keyword} :
    Shaped v words ↔ ∃ form, Form.ofJson? v = some form ∧ form.words = words :=
  ⟨Form.of_shaped, fun ⟨form, h, hwords⟩ => hwords ▸ Form.shaped form h⟩

end RowQuery
