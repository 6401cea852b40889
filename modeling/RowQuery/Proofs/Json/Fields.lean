import Mathlib.Data.List.Induction
import RowQuery.Row

/-!
# Fields of objects

What a key has in a list of fields, and what is left of a list of which only the last field of each
key is kept. An object none of whose keys is repeated is left as it is, and so is a value none of
whose objects repeats one (`Json.collapse_of_distinctKeys`).
-/

namespace RowQuery

/-! ## Fields by key -/

/-- The value of a key is the value of one of the fields. -/
theorem mem_of_field? {α : Type} {key : String} {fields : List (String × α)} {value : α}
    (h : Json.field? key fields = some value) : (key, value) ∈ fields := by
  induction fields with
  | nil => cases h
  | cons field fields ih =>
    obtain ⟨k, v⟩ := field
    unfold Json.field? at h
    split at h
    · next hk =>
      cases h
      exact hk ▸ List.mem_cons_self
    · exact List.mem_cons_of_mem _ (ih h)

/-- A key that no field has has no value. -/
theorem field?_eq_none {α : Type} {key : String} {fields : List (String × α)} :
    Json.field? key fields = none ↔ key ∉ fields.map Prod.fst := by
  induction fields with
  | nil => simp [Json.field?]
  | cons field fields ih =>
    obtain ⟨k, v⟩ := field
    unfold Json.field?
    by_cases hk : k = key
    · simp [hk]
    · rw [if_neg hk, ih, List.map_cons, List.mem_cons, not_or]
      exact ⟨fun h => ⟨Ne.symm hk, h⟩, And.right⟩

/-- The value of a key that occurs once. -/
theorem field?_eq_some {α : Type} {fields : List (String × α)}
    (h : (fields.map Prod.fst).Nodup) {key : String} {value : α} :
    Json.field? key fields = some value ↔ (key, value) ∈ fields := by
  induction fields with
  | nil => simp [Json.field?]
  | cons field rest ih =>
    obtain ⟨k, v⟩ := field
    rw [List.map_cons, List.nodup_cons] at h
    unfold Json.field?
    by_cases hk : k = key
    · have hrest : (key, value) ∉ rest := fun hm =>
        h.1 (List.mem_map.2 ⟨(key, value), hm, hk.symm⟩)
      simp [hk, hrest, eq_comm]
    · have hne : key ≠ k := fun he => hk he.symm
      simp [hk, hne, ih h.2]

/-- A field that is given again with the value it has changes nothing. -/
theorem insertField_of_mem {α : Type} {keys : List String} {value : String → α} {key : String}
    (h : key ∈ keys) : Json.insertField key (value key) (keys.map fun k => (k, value k)) =
      keys.map fun k => (k, value k) := by
  induction keys with
  | nil => cases h
  | cons k keys ih =>
    rw [List.map_cons, Json.insertField]
    by_cases hk : k = key
    · rw [if_pos hk, hk]
    · rw [if_neg hk, ih ((List.mem_cons.1 h).resolve_left fun he => hk he.symm)]

/-- A new field comes last. -/
theorem insertField_of_not_mem {α : Type} {fields : List (String × α)} {key : String} (value : α)
    (h : key ∉ fields.map Prod.fst) :
    Json.insertField key value fields = fields ++ [(key, value)] := by
  induction fields with
  | nil => rfl
  | cons field fields ih =>
    rw [List.map_cons, List.mem_cons, not_or] at h
    rw [Json.insertField, if_neg (Ne.symm h.1), ih h.2]
    rfl

/-- A field that is given is the value of its key, and changes the value of no other. -/
theorem field?_insertField {α : Type} (k key : String) (value : α) (fields : List (String × α)) :
    Json.field? k (Json.insertField key value fields) =
      if key = k then some value else Json.field? k fields := by
  induction fields with
  | nil => rfl
  | cons field fields ih =>
    obtain ⟨name, v⟩ := field
    rw [Json.insertField]
    by_cases hname : name = key
    · rw [if_pos hname, Json.field?, Json.field?, hname]
      split <;> rfl
    · rw [if_neg hname, Json.field?, Json.field?, ih]
      by_cases hk : name = k
      · rw [if_pos hk, if_pos hk, if_neg fun hkey => hname (hk.trans hkey.symm)]
      · rw [if_neg hk, if_neg hk]

/-- A field that is given puts its key behind the others, unless it is one of them. -/
theorem keys_insertField {α : Type} (key : String) (value : α) (fields : List (String × α)) :
    (Json.insertField key value fields).map Prod.fst =
      if key ∈ fields.map Prod.fst then fields.map Prod.fst else fields.map Prod.fst ++ [key] := by
  induction fields with
  | nil => rfl
  | cons field fields ih =>
    rw [Json.insertField, List.map_cons]
    by_cases hname : field.1 = key
    · rw [if_pos hname, List.map_cons, if_pos (hname ▸ List.mem_cons_self), hname]
    · have hmem : key ∈ field.1 :: fields.map Prod.fst ↔ key ∈ fields.map Prod.fst :=
        List.mem_cons.trans (or_iff_right (Ne.symm hname))
      rw [if_neg hname, List.map_cons, ih, if_congr hmem rfl rfl]
      split <;> rfl

/-- One more field is given to those that are kept. -/
theorem lastOfEach_concat {α : Type} (fields : List (String × α)) (key : String) (value : α) :
    Json.lastOfEach (fields ++ [(key, value)]) =
      Json.insertField key value (Json.lastOfEach fields) := by
  rw [Json.lastOfEach, List.foldl_append]
  rfl

/-- The keys that are kept are those of the fields, in the order of first mention. -/
theorem keys_lastOfEach {α : Type} (fields : List (String × α)) :
    (Json.lastOfEach fields).map Prod.fst = (fields.map Prod.fst).eraseDups := by
  induction fields using List.reverseRecOn with
  | nil => rfl
  | append_singleton fields field ih =>
    rw [lastOfEach_concat, keys_insertField, ih, List.map_append, List.map_singleton,
      List.eraseDups_append, List.cons_removeAll]
    by_cases hkey : field.1 ∈ fields.map Prod.fst
    · rw [if_pos (List.mem_eraseDups.2 hkey)]
      simp [hkey]
    · rw [if_neg (mt List.mem_eraseDups.1 hkey)]
      simp [hkey, List.eraseDups_cons]

/-- A key keeps the value of its last field. -/
theorem field?_lastOfEach {α : Type} (before : List (String × α)) (key : String) (value : α)
    {after : List (String × α)} (h : key ∉ after.map Prod.fst) :
    Json.field? key (Json.lastOfEach (before ++ (key, value) :: after)) = some value := by
  induction after using List.reverseRecOn with
  | nil => rw [lastOfEach_concat, field?_insertField, if_pos rfl]
  | append_singleton after field ih =>
    rw [List.map_append, List.mem_append, not_or] at h
    have hfield : field.1 ≠ key := fun he => h.2 (List.mem_singleton.2 he.symm)
    rw [← List.cons_append, ← List.append_assoc, lastOfEach_concat, field?_insertField,
      if_neg hfield, ih h.1]

/-- Of fields whose values depend on the key only, the first of each key are kept. -/
theorem lastOfEach_map {α : Type} (keys : List String) (value : String → α) :
    Json.lastOfEach (keys.map fun k => (k, value k)) =
      keys.eraseDups.map fun k => (k, value k) := by
  induction keys using List.reverseRecOn with
  | nil => rfl
  | append_singleton keys key ih =>
    rw [List.map_append, List.map_singleton, lastOfEach_concat, ih, List.eraseDups_append,
      List.cons_removeAll]
    by_cases hkey : key ∈ keys
    · rw [insertField_of_mem (List.mem_eraseDups.2 hkey)]
      simp [hkey]
    · have hkeys : key ∉ (keys.eraseDups.map fun k => (k, value k)).map Prod.fst := by
        simpa [List.map_map, Function.comp_def] using hkey
      rw [insertField_of_not_mem _ hkeys]
      simp [hkey, List.eraseDups_cons]

/-- A field is one that is given or one that was there. -/
theorem mem_of_mem_insertField {α : Type} {key : String} {value : α} {fields : List (String × α)}
    {field : String × α} (h : field ∈ Json.insertField key value fields) :
    field = (key, value) ∨ field ∈ fields := by
  induction fields with
  | nil => exact .inl (List.mem_singleton.1 h)
  | cons first fields ih =>
    rw [Json.insertField] at h
    split at h
    · exact (List.mem_cons.1 h).imp_right (List.mem_cons_of_mem _)
    · rcases List.mem_cons.1 h with rfl | h
      · exact .inr List.mem_cons_self
      · exact (ih h).imp_right (List.mem_cons_of_mem _)

/-- The fields that are kept are fields that are given. -/
theorem mem_of_mem_lastOfEach {α : Type} {fields : List (String × α)} {field : String × α}
    (h : field ∈ Json.lastOfEach fields) : field ∈ fields := by
  induction fields using List.reverseRecOn with
  | nil => cases h
  | append_singleton fields last ih =>
    rw [lastOfEach_concat] at h
    rw [List.mem_append, List.mem_singleton]
    exact (mem_of_mem_insertField h).symm.imp_left ih

/-- Fields without a repeated key are all kept. -/
theorem lastOfEach_of_nodup {α : Type} {fields : List (String × α)}
    (h : (fields.map Prod.fst).Nodup) : Json.lastOfEach fields = fields := by
  induction fields using List.reverseRecOn with
  | nil => rfl
  | append_singleton fields field ih =>
    rw [List.map_append, List.nodup_append] at h
    have hnew : field.1 ∉ fields.map Prod.fst := fun hmem =>
      h.2.2 _ hmem _ (List.mem_singleton.2 rfl) rfl
    rw [lastOfEach_concat, ih h.1, insertField_of_not_mem _ hnew]

namespace Json

/-! ## Values without repeated keys -/

mutual

/-- No object in the value repeats a key. -/
def DistinctKeys : Json → Prop
  | .array items => ItemsDistinct items
  | .object fields => (fields.map Prod.fst).Nodup ∧ FieldsDistinct fields
  | .null | .bool _ | .number _ | .text _ => True

/-- `DistinctKeys` over the items of an array. -/
def ItemsDistinct : List Json → Prop
  | [] => True
  | v :: rest => DistinctKeys v ∧ ItemsDistinct rest

/-- `DistinctKeys` over the values of the fields of an object. -/
def FieldsDistinct : List (String × Json) → Prop
  | [] => True
  | (_, v) :: rest => DistinctKeys v ∧ FieldsDistinct rest

end

/-- Items do not repeat keys when none of them does. -/
theorem itemsDistinct_iff {items : List Json} :
    ItemsDistinct items ↔ ∀ v ∈ items, v.DistinctKeys := by
  induction items with
  | nil => simp [ItemsDistinct]
  | cons v items ih => rw [ItemsDistinct, ih, List.forall_mem_cons]

/-- The values of fields do not repeat keys when none of them does. -/
theorem fieldsDistinct_iff {fields : List (String × Json)} :
    FieldsDistinct fields ↔ ∀ field ∈ fields, field.2.DistinctKeys := by
  induction fields with
  | nil => simp [FieldsDistinct]
  | cons field fields ih => rw [FieldsDistinct, ih, List.forall_mem_cons]

mutual

/-- A value without repeated keys is left as it is. -/
theorem collapse_of_distinctKeys : ∀ {v : Json}, v.DistinctKeys → v.collapse = v
  | .null, _ | .bool _, _ | .number _, _ | .text _, _ => rfl
  | .array items, h => by
    rw [collapse, collapseItems_of_distinct h]
  | .object fields, h => by
    rw [collapse, collapseFields_of_distinct h.2, lastOfEach_of_nodup h.1]

/-- Items without repeated keys are left as they are. -/
theorem collapseItems_of_distinct : ∀ {items : List Json}, ItemsDistinct items →
    collapseItems items = items
  | [], _ => rfl
  | v :: rest, h => by
    rw [collapseItems, collapse_of_distinctKeys h.1, collapseItems_of_distinct h.2]

/-- Values of fields without repeated keys are left as they are. -/
theorem collapseFields_of_distinct : ∀ {fields : List (String × Json)}, FieldsDistinct fields →
    collapseFields fields = fields
  | [], _ => rfl
  | (key, v) :: rest, h => by
    rw [collapseFields, collapse_of_distinctKeys h.1, collapseFields_of_distinct h.2]

end

mutual

/-- No key is repeated once one field is left for each. -/
theorem distinctKeys_collapse : ∀ v : Json, v.collapse.DistinctKeys
  | .null | .bool _ | .number _ | .text _ => trivial
  | .array items => itemsDistinct_iff.2 (distinctKeys_collapseItems items)
  | .object fields => ⟨nodup_keys_lastOfEach _, fieldsDistinct_iff.2 fun _ hfield =>
    distinctKeys_collapseFields fields _ (mem_of_mem_lastOfEach hfield)⟩

/-- No item repeats a key then. -/
theorem distinctKeys_collapseItems : ∀ items : List Json,
    ∀ v ∈ collapseItems items, v.DistinctKeys
  | [] => fun _ h => nomatch h
  | v :: rest =>
    List.forall_mem_cons.2 ⟨distinctKeys_collapse v, distinctKeys_collapseItems rest⟩

/-- No value of a field repeats a key then. -/
theorem distinctKeys_collapseFields : ∀ fields : List (String × Json),
    ∀ field ∈ collapseFields fields, field.2.DistinctKeys
  | [] => fun _ h => nomatch h
  | (_, v) :: rest =>
    List.forall_mem_cons.2 ⟨distinctKeys_collapse v, distinctKeys_collapseFields rest⟩

end

end Json

end RowQuery
