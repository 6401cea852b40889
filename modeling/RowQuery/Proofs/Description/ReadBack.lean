import Mathlib
import RowQuery.Proofs.Description.Condition
import RowQuery.Proofs.Description.Record

/-!
# Descriptions are read back

`Select.Written`, `Insert.Written`, `Update.Written` and `Delete.Written` say that an object writes a
description: it carries each field under the name and in the form that are documented for it, in any
order and among any other keys, and a field that has its default may be left out. Whatever object
writes a description, the description is decoded from it (`Decoder.descriptions_read_back`).
-/

namespace RowQuery

/-! ## Forms of values -/

namespace Json

/-- The object has the key, with such a value. -/
def Carries (fields : List (String × Json)) (key : String) (writes : Json → Prop) : Prop :=
  ∃ v, (key, v) ∈ fields ∧ writes v

/-- The object has the key, with such a value, or leaves it out for the default. -/
def CarriesOr (fields : List (String × Json)) (key : String) (default : Prop)
    (writes : Json → Prop) : Prop :=
  Carries fields key writes ∨ key ∉ fields.map Prod.fst ∧ default

/-- Null writes nothing, and another value what there is. -/
inductive WritesOption {α : Type} (writes : α → Json → Prop) : Option α → Json → Prop
  | none : WritesOption writes none .null
  | some {a : α} {v : Json} (h : writes a v) : WritesOption writes (some a) v

/-- An array writes a list item by item. -/
inductive WritesList {α : Type} (writes : α → Json → Prop) : List α → Json → Prop
  | array {l : List α} {items : List Json} (h : List.Forall₂ writes l items) :
    WritesList writes l (.array items)

/-- A text writes itself. -/
def WritesText (s : String) (v : Json) : Prop := v = .text s

/-- A count in JSON. -/
def ofCount (n : UInt64) : Json :=
  .number (.int n.toNat ⟨by omega, by have h := n.toNat_lt; omega⟩)

/-- A count is written as an integer. -/
def WritesCount (n : UInt64) (v : Json) : Prop := v = ofCount n

end Json

open Json (Carries CarriesOr WritesOption WritesList WritesText WritesCount)

/-! ## Forms of descriptions -/

/-- A comparison in JSON. -/
def Comparison.toJson (c : Comparison) : Json :=
  .array [.text c.column, .text c.operator.text, c.operand.toJson]

/-- A value writes a condition: a raw fragment as an object with its values, which may be left out if
there are none, a comparison as an array of three, a group as an array of its conjunction and of its
members. -/
inductive Condition.Written : Condition → Json → Prop
  | raw {sql : String} {values : List Scalar} {fields : List (String × Json)}
    (hraw : Carries fields "raw" (WritesText sql))
    (hvalues : CarriesOr fields "values" (values = []) (· = .array (values.map Scalar.toJson))) :
    Written (.raw sql values) (.object fields)
  | compare (c : Comparison) : Written (.compare c) c.toJson
  | group (conjunction : Conjunction) {children : List Condition} {items : List Json}
    (h : List.Forall₂ Written children items) :
    Written (.group conjunction children) (.array [.text conjunction.text, .array items])

/-- A value writes a sort key: an array of the column and the direction, which may be left out if it
is ascending. -/
inductive OrderKey.Written : OrderKey → Json → Prop
  | column (column : String) : Written ⟨column, .ascending⟩ (.array [.text column])
  | direction (key : OrderKey) : Written key (.array [.text key.column, .text key.direction.text])

/-- The names of a kind of join. -/
def JoinKind.names : JoinKind → List String
  | .plain => ["plain", ""]
  | .inner => ["inner"]
  | .left => ["left"]
  | .right => ["right"]

/-- A pair of joined columns in JSON. -/
def JoinPair.toJson (pair : JoinPair) : Json :=
  .array [.text pair.left, .text pair.operator.text, .text pair.right]

/-- An object writes a join. -/
structure Join.Written (j : Join) (fields : List (String × Json)) : Prop where
  kind : CarriesOr fields "type" (j.kind = .plain) fun v => ∃ name ∈ j.kind.names, v = .text name
  table : Carries fields "table" (WritesText j.table)
  alias? : CarriesOr fields "as" (j.alias? = none) (WritesOption WritesText j.alias?)
  on : Carries fields "on" (· = .array (j.on.map JoinPair.toJson))

/-- An object writes a select. -/
structure Select.Written (s : Select) (fields : List (String × Json)) : Prop where
  table : Carries fields "table" (WritesText s.table)
  alias? : CarriesOr fields "as" (s.alias? = none) (WritesOption WritesText s.alias?)
  names : CarriesOr fields "fields" (s.fields = []) (WritesList WritesText s.fields)
  joins : CarriesOr fields "join" (s.joins = [])
    (WritesList (fun j v => ∃ entries, v = .object entries ∧ j.Written entries) s.joins)
  filter? : CarriesOr fields "where" (s.filter? = none) (WritesOption Condition.Written s.filter?)
  orderBy : CarriesOr fields "orderBy" (s.orderBy = []) (WritesList OrderKey.Written s.orderBy)
  groupBy : CarriesOr fields "groupBy" (s.groupBy = []) (WritesList WritesText s.groupBy)
  limit? : CarriesOr fields "limit" (s.limit? = none) (WritesOption WritesCount s.limit?)
  skip? : CarriesOr fields "skip" (s.skip? = none) (WritesOption WritesCount s.skip?)

/-- The name of a way to insert. -/
def InsertType.name : InsertType → String
  | .insertOrUpdate => "insertOrUpdate"
  | .insertNew => "insertNew"
  | .replace => "replace"

/-- An object writes an insert. -/
structure Insert.Written (i : Insert) (fields : List (String × Json)) : Prop where
  table : Carries fields "table" (WritesText i.table)
  rows : Carries fields "rows" (· = .array (i.rows.map Row.toJson))
  insertType : CarriesOr fields "insertType" (i.insertType = .insertOrUpdate)
    (WritesText i.insertType.name)

/-- An object writes an update. -/
structure Update.Written (u : Update) (fields : List (String × Json)) : Prop where
  table : Carries fields "table" (WritesText u.table)
  assignments : Carries fields "set" (· = u.assignments.toJson)
  filter : CarriesOr fields "where" (u.filter = []) (· = .array (u.filter.map Comparison.toJson))

/-- An object writes a delete. -/
structure Delete.Written (d : Delete) (fields : List (String × Json)) : Prop where
  table : Carries fields "table" (WritesText d.table)
  filter? : CarriesOr fields "where" (d.filter? = none) (WritesOption Condition.Written d.filter?)

/-! ## Conditions -/

/-- The value of a key that an object carries, in an object that repeats none. -/
theorem Json.Carries.field? {fields : List (String × Json)} (hkeys : (fields.map Prod.fst).Nodup)
    {key : String} {v : Json} (h : Carries fields key (· = v)) :
    Json.field? key fields = some v := by
  obtain ⟨_, hmem, rfl⟩ := h
  exact (field?_eq_some hkeys).2 hmem

namespace Condition

/-- An object that writes a raw fragment has the form of the fragment. -/
theorem raw?_of_written {sql : String} {values : List Scalar} {fields : List (String × Json)}
    (hvalues : ∀ v ∈ values, v.Finite) (hkeys : (fields.map Prod.fst).Nodup)
    (h : Carries fields "raw" (WritesText sql))
    (h' : CarriesOr fields "values" (values = []) (· = .array (values.map Scalar.toJson))) :
    Form.raw? fields = some (.raw sql values) := by
  have hcount := List.nodup_iff_count_le_one.1 hkeys
  unfold Form.raw?
  rw [if_pos ⟨hcount "raw", hcount "values"⟩, Json.Carries.field? hkeys h]
  rcases h' with h' | ⟨hnone, rfl⟩
  · rw [Json.Carries.field? hkeys h']
    dsimp only
    rw [Scalar.mapM_ofJson?_toJson hvalues]
    rfl
  · rw [field?_eq_none.2 hnone]

/-- A value that writes a condition has a form, which is read as the condition. -/
theorem Written.exists_form {c : Condition} : ∀ {v : Json}, c.Written v → c.Finite → v.DistinctKeys →
    ∃ form, Form.ofJson? v = some form ∧ form.condition = .ok c := by
  induction c using recMembers with
  | raw sql values =>
    intro v h hfinite hkeys
    cases h with
    | raw hraw hvalues =>
      have hvaluesFinite : ∀ v ∈ values, v.Finite := hfinite _ (List.mem_singleton.2 rfl)
      exact ⟨.raw sql values, raw?_of_written hvaluesFinite hkeys.1 hraw hvalues, rfl⟩
  | compare c =>
    intro v h hfinite _
    cases h
    exact Condition.exists_form (c := .compare c) hfinite
  | group conjunction children ih =>
    intro v h hfinite hkeys
    cases h with
    | @group _ _ items h =>
      have hitems := Json.itemsDistinct_iff.1 hkeys.2.1
      have hmembers := forall₂_imp_of_mem h fun c hc v hv hwritten =>
        ih c hc hwritten (fun leaf hleaf => hfinite leaf (mem_leaves_group hc hleaf)) (hitems v hv)
      obtain ⟨forms, hforms, hchildren⟩ := exists_forms hmembers
      refine ⟨.group conjunction.text forms, ?_, ?_⟩
      · rw [Form.ofJson?, hforms]
        rfl
      · rw [Form.condition, Conjunction.ofText_text, hchildren]
        rfl

end Condition

/-! ## Leaves and sequences -/

namespace Decoder

open Document (ofJson ofItems)

variable {α β γ : Type} {decode : Decoder α}

/-- A text is read back. -/
theorem ofValue_string (s : String) : ofValue string (.text s) = .ok s := by
  show (Document.StringToken.strict _).mapError _ = _
  rw [Document.strict_ofText]
  rfl

/-- A count is read back. -/
theorem ofValue_count (n : UInt64) : ofValue count (Json.ofCount n) = .ok n := by
  have hpos : ¬ (n.toNat : Int) < 0 := by omega
  have hcount : ofValue count (Json.ofCount n) = if (n.toNat : Int) < 0 then
      .error (.negative n.toNat) else .ok (.ofNat (n.toNat : Int).toNat) := rfl
  rw [hcount, if_neg hpos, Int.toNat_natCast, UInt64.ofNat_toNat]

/-- A value that has a form is decoded as it. -/
theorem ofValue_formOf {type : String} {form? : Json → Option α} {v : Json} {a : α}
    (h : form? v = some a) : ofValue (formOf type form?) v = .ok a := by
  refine bind_eq_ok.2 ⟨v, mapError_eq_ok.2 (Document.strict_ofJson v), ?_⟩
  rw [h]
  rfl

/-- What is not null is decoded as itself in the place of null or a value. -/
theorem ofValue_nullable {v : Json} {a : α} (h : ofValue decode v = .ok a) (hv : v ≠ .null) :
    ofValue (nullable decode) v = .ok (some a) := by
  have hsome : (decode (ofJson v)).map some = .ok (some a) := map_eq_ok.2 ⟨a, h, rfl⟩
  cases v with
  | null => exact absurd rfl hv
  | bool | number | text | array | object => exact hsome

/-- Null, or what is decoded and is not null, is read back in the place of null or a value. -/
theorem ofValue_nullable_of_written {writes : α → Json → Prop} {a? : Option α} {v : Json}
    (h : WritesOption writes a? v)
    (hread : ∀ a ∈ a?, writes a v → ofValue decode v = .ok a ∧ v ≠ .null) :
    ofValue (nullable decode) v = .ok a? := by
  cases h with
  | none => rfl
  | some h =>
    obtain ⟨hdecode, hv⟩ := hread _ rfl h
    exact ofValue_nullable hdecode hv

/-- An array whose items are decoded is decoded. -/
theorem ofValue_list {l : List α} {items : List Json}
    (h : List.Forall₂ (fun a v => ofValue decode v = .ok a) l items) :
    ofValue (list decode) (.array items) = .ok l := by
  have hmap : (ofItems items).mapM decode = .ok l := by
    induction h with
    | nil => rfl
    | cons hhead _ ih =>
      have hhead : decode (ofJson _) = .ok _ := hhead
      rw [ofItems, List.mapM_cons, hhead, ih]
      rfl
  exact bind_eq_ok.2 ⟨(), rfl, bind_eq_ok.2 ⟨l, hmap, rfl⟩⟩

/-- An array whose items are written and decoded one by one is read back. -/
theorem ofValue_list_of_written {writes : α → Json → Prop} {l : List α} {v : Json}
    (h : WritesList writes l v) (hkeys : v.DistinctKeys)
    (hread : ∀ a ∈ l, ∀ v, v.DistinctKeys → writes a v → ofValue decode v = .ok a) :
    ofValue (list decode) v = .ok l := by
  cases h with
  | array h =>
    have hitems := Json.itemsDistinct_iff.1 hkeys
    exact ofValue_list (forall₂_imp_of_mem h fun a ha v hv => hread a ha v (hitems v hv))

/-- A list of values that are each read back is read back. -/
theorem ofValue_list_map {write : α → Json} {l : List α}
    (h : ∀ a ∈ l, ofValue decode (write a) = .ok a) :
    ofValue (list decode) (.array (l.map write)) = .ok l :=
  ofValue_list (List.forall₂_map_right_iff.2 (List.forall₂_same.2 h))

/-- An array of three values that are each decoded is decoded. -/
theorem ofValue_triple {first : Decoder α} {second : Decoder β} {third : Decoder γ} {u v w : Json}
    {a : α} {b : β} {c : γ} (ha : ofValue first u = .ok a) (hb : ofValue second v = .ok b)
    (hc : ofValue third w = .ok c) : ofValue (triple first second third) (.array [u, v, w]) =
      .ok (a, b, c) :=
  bind_eq_ok.2 ⟨(), rfl, bind_eq_ok.2 ⟨a, ha, bind_eq_ok.2 ⟨b, hb, bind_eq_ok.2 ⟨c, hc, rfl⟩⟩⟩⟩

/-- A name is read as the member of a choice that it names. -/
theorem ofValue_variant (choice : List (String × α)) (name : String) :
    ofValue (variant choice) (.text name) = named choice name := by
  show (Document.StringToken.strict _).mapError _ >>= _ = _
  rw [Document.strict_ofText]
  rfl

/-! ## Parts of descriptions -/

/-- A condition is read back. -/
theorem ofValue_condition_of_written {c : Condition} {v : Json} (h : c.Written v) (hfinite : c.Finite)
    (hkeys : v.DistinctKeys) : ofValue condition v = .ok c := by
  obtain ⟨form, hform, hc⟩ := h.exists_form hfinite hkeys
  rw [Condition.ofValue_condition, hform]
  exact mapError_eq_ok.2 hc

/-- A comparison is read back. -/
theorem ofValue_comparison {c : Comparison} (h : ∀ v ∈ c.operand.values, v.Finite) :
    ofValue comparison c.toJson = .ok c := by
  have hoperand : ofValue operand c.operand.toJson = .ok c.operand :=
    ofValue_formOf (Operand.ofJson?_toJson h)
  have hparts := ofValue_triple (ofValue_string c.column) (ofValue_string c.operator.text) hoperand
  exact bind_eq_ok.2 ⟨_, hparts, bind_eq_ok.2
    ⟨c.operator, mapError_eq_ok.2 (Operator.ofText_text c.operator), rfl⟩⟩

/-- The text of a direction is read as the direction. -/
theorem ofText_text (d : Direction) : Direction.ofText d.text = .ok d := by
  cases d <;> cbv

/-- A sort key is read back. -/
theorem ofValue_orderKey {key : OrderKey} {v : Json} (h : key.Written v) :
    ofValue orderKey v = .ok key := by
  cases h with
  | column column =>
    have hparts : ofValue (list string) (.array [.text column]) = .ok [column] :=
      ofValue_list (.cons (ofValue_string column) .nil)
    exact bind_eq_ok.2 ⟨_, hparts, rfl⟩
  | direction =>
    have hparts : ofValue (list string) (.array [.text key.column, .text key.direction.text]) =
        .ok [key.column, key.direction.text] :=
      ofValue_list (.cons (ofValue_string _) (.cons (ofValue_string _) .nil))
    refine bind_eq_ok.2 ⟨_, hparts, mapError_eq_ok.2 ?_⟩
    exact map_eq_ok.2 ⟨_, ofText_text key.direction, rfl⟩

/-- A pair of joined columns is read back. -/
theorem ofValue_joinPair (pair : JoinPair) : ofValue joinPair pair.toJson = .ok pair := by
  have hoperator : ofValue (parsed Operator.ofText) (.text pair.operator.text) =
      .ok pair.operator :=
    bind_eq_ok.2 ⟨_, ofValue_string _, mapError_eq_ok.2 (Operator.ofText_text pair.operator)⟩
  exact bind_eq_ok.2
    ⟨_, ofValue_triple (ofValue_string pair.left) hoperator (ofValue_string pair.right), rfl⟩

/-- A row is read back. -/
theorem ofValue_row {r : Row} (h : r.toJson.DistinctKeys) : ofValue row r.toJson = .ok r := by
  have hfields : Row.ofFields (Json.collapseFields r.entries) = r := by
    rw [Json.collapseFields_of_distinct h.2]
    cases r with
    | mk entries hnodup => simp only [Row.ofFields, lastOfEach_of_nodup hnodup]
  have hstrict := Document.strictFields_ofFields r.entries
  exact bind_eq_ok.2 ⟨(), rfl, bind_eq_ok.2
    ⟨_, mapError_eq_ok.2 hstrict, bind_eq_ok.2 ⟨(), rfl, congrArg Except.ok hfields⟩⟩⟩

/-- A name of a kind of join is read as the kind. -/
theorem ofValue_joinKind {kind : JoinKind} {name : String} (h : name ∈ kind.names) :
    ofValue joinKind (.text name) = .ok kind := by
  rw [joinKind, ofValue_variant]
  cases kind <;> simp only [JoinKind.names, List.mem_cons, List.not_mem_nil, or_false] at h
  · rcases h with rfl | rfl <;> rfl
  all_goals
    subst h
    rfl

/-- The name of a way to insert is read as it. -/
theorem ofValue_insertType (t : InsertType) : ofValue insertType (.text t.name) = .ok t := by
  rw [insertType, ofValue_variant]
  cases t <;> rfl

/-! ## Fields of structures -/

variable {f : Field α} {fields : List (String × Json)} {a default : α}

/-- A field that an object carries, with a value that is read back. -/
theorem gives_of_carries {writes : Json → Prop} (hkeys : (Json.object fields).DistinctKeys)
    (h : Carries fields f.name writes)
    (hread : ∀ v, v.DistinctKeys → writes v → ofValue f.decode v = .ok a) : f.Gives fields a := by
  obtain ⟨v, hmem, hv⟩ := h
  exact ⟨v, hmem, hread v (Json.fieldsDistinct_iff.1 hkeys.2 _ hmem) hv⟩

/-- A field that an object carries, with a value that is read back, or leaves out for the default. -/
theorem givesOr_of_carriesOr {writes : Json → Prop} (hkeys : (Json.object fields).DistinctKeys)
    (h : CarriesOr fields f.name (a = default) writes)
    (hread : ∀ v, v.DistinctKeys → writes v → ofValue f.decode v = .ok a) :
    f.GivesOr default fields a :=
  h.imp (gives_of_carries hkeys · hread) fun ⟨hnone, hdefault⟩ => ⟨hnone, hdefault.symm⟩

/-- A text under a key is read back. -/
theorem ofValue_string_of_written {s : String} {v : Json} (h : WritesText s v) :
    ofValue string v = .ok s := by
  subst h
  exact ofValue_string s

/-- An optional text under a key is read back. -/
theorem ofValue_nullable_string {s? : Option String} {v : Json} (h : WritesOption WritesText s? v) :
    ofValue (nullable string) v = .ok s? :=
  ofValue_nullable_of_written h fun s _ hs => ⟨ofValue_string_of_written hs, by rintro rfl; cases hs⟩

/-- An optional count under a key is read back. -/
theorem ofValue_nullable_count {n? : Option UInt64} {v : Json} (h : WritesOption WritesCount n? v) :
    ofValue (nullable count) v = .ok n? :=
  ofValue_nullable_of_written h fun n _ hn => by
    subst hn
    exact ⟨ofValue_count n, fun h => nomatch h⟩

/-- A filter under a key is read back. -/
theorem ofValue_nullable_condition {c? : Option Condition} {v : Json} (hkeys : v.DistinctKeys)
    (hfinite : ∀ c ∈ c?, c.Finite) (h : WritesOption Condition.Written c? v) :
    ofValue (nullable condition) v = .ok c? :=
  ofValue_nullable_of_written h fun c hc hwritten =>
    ⟨ofValue_condition_of_written hwritten (hfinite c hc) hkeys, by rintro rfl; cases hwritten⟩

/-! ## Structures -/

/-- A join is read back. -/
theorem ofValue_join_of_written {j : Join} (h : j.Written fields)
    (hkeys : (Json.object fields).DistinctKeys) : ofValue join (.object fields) = .ok j := by
  refine (ofValue_join_eq_ok hkeys.1).2 ⟨?_, ?_, ?_, ?_⟩
  · refine givesOr_of_carriesOr hkeys h.kind fun v _ hv => ?_
    obtain ⟨name, hname, rfl⟩ := hv
    exact ofValue_joinKind hname
  · exact gives_of_carries hkeys h.table fun v _ => ofValue_string_of_written
  · exact givesOr_of_carriesOr hkeys h.alias? fun v _ => ofValue_nullable_string
  · refine gives_of_carries hkeys h.on fun v _ hv => ?_
    subst hv
    exact ofValue_list_map fun pair _ => ofValue_joinPair pair

/-- A select is read back. -/
theorem ofValue_select_of_written {s : Select} (hfinite : ∀ c ∈ s.filter?, c.Finite)
    (h : s.Written fields) (hkeys : (Json.object fields).DistinctKeys) :
    ofValue select (.object fields) = .ok s := by
  have hnames {names : List String} (v : Json) (hv : v.DistinctKeys)
      (h : WritesList WritesText names v) : ofValue (list string) v = .ok names :=
    ofValue_list_of_written h hv fun _ _ _ _ => ofValue_string_of_written
  refine (ofValue_select_eq_ok hkeys.1).2 {
    table := gives_of_carries hkeys h.table fun v _ => ofValue_string_of_written
    alias? := givesOr_of_carriesOr hkeys h.alias? fun v _ => ofValue_nullable_string
    names := givesOr_of_carriesOr hkeys h.names hnames
    joins := givesOr_of_carriesOr hkeys h.joins fun v hv hjoins => ?_
    filter? := givesOr_of_carriesOr hkeys h.filter? fun v hv =>
      ofValue_nullable_condition hv hfinite
    orderBy := givesOr_of_carriesOr hkeys h.orderBy fun v hv horder =>
      ofValue_list_of_written horder hv fun _ _ _ _ => ofValue_orderKey
    groupBy := givesOr_of_carriesOr hkeys h.groupBy hnames
    limit? := givesOr_of_carriesOr hkeys h.limit? fun v _ => ofValue_nullable_count
    skip? := givesOr_of_carriesOr hkeys h.skip? fun v _ => ofValue_nullable_count }
  refine ofValue_list_of_written hjoins hv fun j _ v hv hj => ?_
  obtain ⟨entries, rfl, hj⟩ := hj
  exact ofValue_join_of_written hj hv

/-- An insert is read back. -/
theorem ofValue_insert_of_written {i : Insert} (h : i.Written fields)
    (hkeys : (Json.object fields).DistinctKeys) : ofValue insert (.object fields) = .ok i := by
  refine (ofValue_insert_eq_ok hkeys.1).2 ⟨?_, ?_, ?_⟩
  · exact gives_of_carries hkeys h.table fun v _ => ofValue_string_of_written
  · refine gives_of_carries hkeys h.rows fun v hv hrows => ?_
    subst hrows
    have hitems := Json.itemsDistinct_iff.1 hv
    exact ofValue_list_map fun r hr => ofValue_row (hitems _ (List.mem_map_of_mem hr))
  · refine givesOr_of_carriesOr hkeys h.insertType fun v _ htype => ?_
    subst htype
    exact ofValue_insertType i.insertType

/-- An update is read back. -/
theorem ofValue_update_of_written {u : Update}
    (hfinite : ∀ c ∈ u.filter, ∀ v ∈ c.operand.values, v.Finite) (h : u.Written fields)
    (hkeys : (Json.object fields).DistinctKeys) : ofValue update (.object fields) = .ok u := by
  refine (ofValue_update_eq_ok hkeys.1).2 ⟨?_, ?_, ?_⟩
  · exact gives_of_carries hkeys h.table fun v _ => ofValue_string_of_written
  · refine gives_of_carries hkeys h.assignments fun v hv hset => ?_
    subst hset
    exact ofValue_row hv
  · refine givesOr_of_carriesOr hkeys h.filter fun v _ hfilter => ?_
    subst hfilter
    exact ofValue_list_map fun c hc => ofValue_comparison (hfinite c hc)

/-- A delete is read back. -/
theorem ofValue_delete_of_written {d : Delete} (hfinite : ∀ c ∈ d.filter?, c.Finite)
    (h : d.Written fields) (hkeys : (Json.object fields).DistinctKeys) :
    ofValue delete (.object fields) = .ok d := by
  refine (ofValue_delete_eq_ok hkeys.1).2 ⟨?_, ?_⟩
  · exact gives_of_carries hkeys h.table fun v _ => ofValue_string_of_written
  · exact givesOr_of_carriesOr hkeys h.filter? fun v hv => ofValue_nullable_condition hv hfinite

/-- A description with finite numbers is decoded from every object that writes it, whatever the order
of its keys, whichever other keys it has, and whether its defaults are written or left out. The order
of the keys of an object does not matter to what is decoded from it. -/
theorem descriptions_read_back :
    (∀ (s : Select) fields, (∀ c ∈ s.filter?, c.Finite) → s.Written fields →
      (Json.object fields).DistinctKeys → ofValue select (.object fields) = .ok s) ∧
    (∀ (i : Insert) fields, i.Written fields → (Json.object fields).DistinctKeys →
      ofValue insert (.object fields) = .ok i) ∧
    (∀ (u : Update) fields, (∀ c ∈ u.filter, ∀ v ∈ c.operand.values, v.Finite) →
      u.Written fields → (Json.object fields).DistinctKeys →
      ofValue update (.object fields) = .ok u) ∧
    (∀ (d : Delete) fields, (∀ c ∈ d.filter?, c.Finite) → d.Written fields →
      (Json.object fields).DistinctKeys → ofValue delete (.object fields) = .ok d) ∧
    ∀ fields fields' : List (String × Json), fields.Perm fields' → (fields.map Prod.fst).Nodup →
      (∀ s, ofValue select (.object fields) = .ok s ↔ ofValue select (.object fields') = .ok s) ∧
      (∀ i, ofValue insert (.object fields) = .ok i ↔ ofValue insert (.object fields') = .ok i) ∧
      (∀ u, ofValue update (.object fields) = .ok u ↔ ofValue update (.object fields') = .ok u) ∧
      ∀ d, ofValue delete (.object fields) = .ok d ↔ ofValue delete (.object fields') = .ok d :=
  ⟨fun _ _ => ofValue_select_of_written, fun _ _ => ofValue_insert_of_written,
    fun _ _ => ofValue_update_of_written, fun _ _ => ofValue_delete_of_written,
    fun _ _ h hkeys => ⟨ofValue_select_perm h hkeys, ofValue_insert_perm h hkeys,
      ofValue_update_perm h hkeys, ofValue_delete_perm h hkeys⟩⟩

/-- A select from an object with its keys in two orders, with one key more, with defaults that are
written and defaults that are left out, in the join and in the filter as well; and changes from
objects whose first key is the last field. -/
theorem descriptions_read_back_of_reordered :
    let s : Select := {
      table := "t"
      joins := [{ table := "u", on := [⟨"t.a", .eq, "u.a"⟩] }]
      filter? := some (.group .or [.raw "x" [], .compare ⟨"a", .isIn, .list [.float (.zero true)]⟩])
      orderBy := [⟨"a", .ascending⟩, ⟨"b", .descending⟩]
      limit? := some 5 }
    let fields : List (String × Json) := [
      ("note", .object [("table", .null)]),
      ("limit", .ofCount 5),
      ("skip", .null),
      ("orderBy", .array [.array [.text "a"], .array [.text "b", .text "DESC"]]),
      ("where", .array [.text "OR", .array [.object [("raw", .text "x")],
        Comparison.toJson ⟨"a", .isIn, .list [.float (.zero true)]⟩]]),
      ("join", .array [.object [("on", .array [.array [.text "t.a", .text "=", .text "u.a"]]),
        ("type", .text ""), ("table", .text "u")]]),
      ("table", .text "t")]
    let r : Row := ⟨[("b", .text "y"), ("a", .array [])], by decide⟩
    ofValue select (.object fields) = .ok s ∧ ofValue select (.object fields.reverse) = .ok s ∧
      ofValue insert (.object [("insertType", .text "replace"), ("rows", .array [r.toJson]),
        ("table", .text "t")]) = .ok { table := "t", rows := [r], insertType := .replace } ∧
      ofValue update (.object [("where", .array [.array [.text "a", .text "<", .text "b"]]),
        ("set", r.toJson), ("table", .text "t")]) =
        .ok { table := "t", assignments := r, filter := [⟨"a", .lt, .single (.text "b")⟩] } ∧
      ofValue delete (.object [("where", .null), ("table", .text "t")]) = .ok { table := "t" } := by
  intro s fields r
  have hzero : (Binary64.zero true).IsFinite := by decide
  have hfinite : ∀ c ∈ s.filter?, c.Finite := by
    rintro c ⟨⟩
    simp [Condition.Finite, Condition.leaves, Condition.memberLeaves, Leaf.values, Operand.values,
      Scalar.Finite, hzero]
  have hjoin : Join.Written { table := "u", on := [⟨"t.a", .eq, "u.a"⟩] }
      [("on", .array [.array [.text "t.a", .text "=", .text "u.a"]]), ("type", .text ""),
        ("table", .text "u")] := {
    kind := .inl ⟨.text "", by simp, "", by decide, rfl⟩
    table := ⟨.text "u", by simp, rfl⟩
    alias? := .inr ⟨by decide, rfl⟩
    on := ⟨.array [.array [.text "t.a", .text "=", .text "u.a"]], by simp, rfl⟩ }
  have hraw : Condition.Written (.raw "x" []) (.object [("raw", .text "x")]) :=
    .raw ⟨.text "x", by simp, rfl⟩ (.inr ⟨by decide, rfl⟩)
  have hdescending : OrderKey.Written ⟨"b", .descending⟩ (.array [.text "b", .text "DESC"]) :=
    .direction ⟨"b", .descending⟩
  have hwritten : s.Written fields := {
    table := ⟨.text "t", by simp [fields], rfl⟩
    alias? := .inr ⟨by decide, rfl⟩
    names := .inr ⟨by decide, rfl⟩
    joins := .inl ⟨_, by simp [fields], .array (.cons ⟨_, rfl, hjoin⟩ .nil)⟩
    filter? := .inl ⟨.array [.text "OR", .array [.object [("raw", .text "x")],
      Comparison.toJson ⟨"a", .isIn, .list [.float (.zero true)]⟩]], by simp [fields],
      .some (.group .or (.cons hraw (.cons (.compare _) .nil)))⟩
    orderBy := .inl ⟨.array [.array [.text "a"], .array [.text "b", .text "DESC"]], by simp [fields],
      .array (.cons (.column "a") (.cons hdescending .nil))⟩
    groupBy := .inr ⟨by decide, rfl⟩
    limit? := .inl ⟨.ofCount 5, by simp [fields], .some rfl⟩
    skip? := .inl ⟨.null, by simp [fields], .none⟩ }
  have hkeys : (Json.object fields).DistinctKeys := by
    simp [fields, Json.DistinctKeys, Json.FieldsDistinct, Json.ItemsDistinct, Json.ofCount,
      Comparison.toJson, Operand.toJson, Scalar.toJson, hzero]
  have hread := descriptions_read_back.1 s fields hfinite hwritten hkeys
  have hperm := descriptions_read_back.2.2.2.2 fields fields.reverse fields.reverse_perm.symm hkeys.1
  refine ⟨hread, (hperm.1 s).1 hread, ?_, ?_, ?_⟩
  · refine descriptions_read_back.2.1 _ _ {
      table := ⟨.text "t", by simp, rfl⟩
      rows := ⟨.array [r.toJson], by simp, rfl⟩
      insertType := .inl ⟨.text "replace", by simp, rfl⟩ } ?_
    simp [r, Row.toJson, Json.DistinctKeys, Json.FieldsDistinct, Json.ItemsDistinct]
  · refine descriptions_read_back.2.2.1 _ _ (by simp [Operand.values, Scalar.Finite]) {
      table := ⟨.text "t", by simp, rfl⟩
      assignments := ⟨r.toJson, by simp, rfl⟩
      filter := .inl ⟨.array [.array [.text "a", .text "<", .text "b"]], by simp, rfl⟩ } ?_
    simp [r, Row.toJson, Json.DistinctKeys, Json.FieldsDistinct, Json.ItemsDistinct]
  · refine descriptions_read_back.2.2.2.1 _ _ (by simp) {
      table := ⟨.text "t", by simp, rfl⟩
      filter? := .inl ⟨.null, by simp, .none⟩ } ?_
    simp [Json.DistinctKeys, Json.FieldsDistinct]

end Decoder

end RowQuery
