import RowQuery.Json.Reader
import RowQuery.Proofs.Json.Document

/-!
# Nesting

`Json.nesting` counts how many arrays and objects of a value stand in each other. A reader of text
that may enter `room` of them marks whatever is nested deeper (`Document.Within`,
`within_readWithin`), and a document with a mark has no value, so the value of a text is nested no
deeper than its reader may go (`nesting_le_of_strict`).
-/

namespace RowQuery

/-! ## Values -/

namespace Json

mutual

/-- How many arrays and objects stand in each other. -/
def nesting : Json → Nat
  | .array items => nestingOfItems items + 1
  | .object fields => nestingOfFields fields + 1
  | .null | .bool _ | .number _ | .text _ => 0

/-- How many stand in each other in the items of an array. -/
def nestingOfItems : List Json → Nat
  | [] => 0
  | v :: rest => max (nesting v) (nestingOfItems rest)

/-- How many stand in each other in the fields of an object. -/
def nestingOfFields : List (String × Json) → Nat
  | [] => 0
  | (_, v) :: rest => max (nesting v) (nestingOfFields rest)

end

/-- A bound for the items is one for each of them. -/
theorem nestingOfItems_le {items : List Json} {n : Nat} :
    nestingOfItems items ≤ n ↔ ∀ v ∈ items, v.nesting ≤ n := by
  induction items with
  | nil => simp [nestingOfItems]
  | cons v items ih => rw [nestingOfItems, Nat.max_le, ih, List.forall_mem_cons]

/-- A bound for the fields is one for each of their values. -/
theorem nestingOfFields_le {fields : List (String × Json)} {n : Nat} :
    nestingOfFields fields ≤ n ↔ ∀ field ∈ fields, field.2.nesting ≤ n := by
  induction fields with
  | nil => simp [nestingOfFields]
  | cons field fields ih =>
    obtain ⟨key, v⟩ := field
    rw [nestingOfFields, Nat.max_le, ih, List.forall_mem_cons]

end Json

/-! ## Documents -/

namespace Document

mutual

/-- Whatever stands in more than `room` arrays and objects is marked as too deep. -/
def Within (room : Nat) : Document → Prop
  | .array tooDeep items _ => (room = 0 → tooDeep = true) ∧ ItemsWithin (room - 1) items
  | .object tooDeep fields _ => (room = 0 → tooDeep = true) ∧ FieldsWithin (room - 1) fields
  | .nothing _ | .word _ | .number _ | .string _ => True

/-- `Within` over the items of an array. -/
def ItemsWithin (room : Nat) : List Document → Prop
  | [] => True
  | d :: rest => Within room d ∧ ItemsWithin room rest

/-- `Within` over the values of the fields of an object. -/
def FieldsWithin (room : Nat) : List (Document × Document) → Prop
  | [] => True
  | (_, d) :: rest => Within room d ∧ FieldsWithin room rest

end

/-- `ItemsWithin` in the form for each item. -/
theorem itemsWithin_iff {room : Nat} {items : List Document} :
    ItemsWithin room items ↔ ∀ d ∈ items, d.Within room := by
  induction items with
  | nil => simp [ItemsWithin]
  | cons d items ih => rw [ItemsWithin, ih, List.forall_mem_cons]

/-- `FieldsWithin` in the form for each field. -/
theorem fieldsWithin_iff {room : Nat} {fields : List (Document × Document)} :
    FieldsWithin room fields ↔ ∀ field ∈ fields, field.2.Within room := by
  induction fields with
  | nil => simp [FieldsWithin]
  | cons field fields ih =>
    obtain ⟨k, d⟩ := field
    rw [FieldsWithin, ih, List.forall_mem_cons]

/-- The parts of a document have one array or object less to enter. -/
theorem Within.parts {room : Nat} {d : Document} (h : d.Within room) :
    ∀ part ∈ d.parts, part.Within (room - 1) := by
  cases d with
  | array tooDeep items stop =>
    rw [Within, itemsWithin_iff] at h
    exact h.2
  | object tooDeep fields stop =>
    rw [Within, fieldsWithin_iff] at h
    intro part hpart
    obtain ⟨field, hfield, rfl⟩ := List.mem_map.1 hpart
    exact h.2 field hfield
  | nothing | word | number | string => exact fun part hpart => nomatch hpart

/-- A document within a room has no value that is nested deeper. -/
theorem nesting_le_of_strict {d : Document} {room : Nat} {v : Json} (hroom : d.Within room)
    (h : d.strict = .ok v) : v.nesting ≤ room := by
  induction d using recParts generalizing room v with
  | step d ih =>
    have hparts := hroom.parts
    cases strict_eq_ok.1 h with
    | null | bool | number | text => exact Nat.zero_le _
    | array hitems =>
      have hpos : room ≠ 0 := fun hzero => nomatch hroom.1 hzero
      refine Nat.add_le_of_le_sub (Nat.pos_of_ne_zero hpos) (Json.nestingOfItems_le.2 fun v hv => ?_)
      obtain ⟨d, hd, hdv⟩ := exists_of_forall₂ hitems.flip hv
      exact ih d hd (hparts d hd) hdv
    | object hfields =>
      have hpos : room ≠ 0 := fun hzero => nomatch hroom.1 hzero
      refine Nat.add_le_of_le_sub (Nat.pos_of_ne_zero hpos) (Json.nestingOfFields_le.2 fun f hf => ?_)
      obtain ⟨field, hfield, hsays⟩ := exists_of_forall₂ hfields.flip hf
      have hd := List.mem_map_of_mem (f := Prod.snd) hfield
      exact ih field.2 hd (hparts field.2 hd) hsays.2

/-! ## Reading -/

/-- A word, number or string has no parts. -/
theorem within_readToken? {s : List Char} {r : Document × Rest} (h : readToken? s = some r)
    (room : Nat) : r.1.Within room := by
  unfold readToken? at h
  split at h
  · cases h; trivial
  · cases h; trivial
  · cases h; trivial
  · cases h; trivial
  · split at h
    · cases h; trivial
    · cases h
  · cases h

mutual

/-- A reader of values marks what is nested deeper than it may go. -/
theorem within_readValue : ∀ (fuel room : Nat) (s : List Char),
    (readValue fuel room s).1.Within room
  | 0, room, s => by simp [readValue, Within]
  | fuel + 1, room, s => by
    rw [readValue]
    split
    · next s' _ =>
      refine ⟨fun hroom => by simp [hroom], ?_⟩
      split
      · trivial
      · trivial
      · exact itemsWithin_readItems fuel (room - 1) _
    · next s' _ =>
      refine ⟨fun hroom => by simp [hroom], ?_⟩
      split
      · trivial
      · trivial
      · exact fieldsWithin_readFields fuel (room - 1) _
    · split
      · next h => exact within_readToken? h room
      · simp [noValue, Within]

/-- A reader of items marks what is nested deeper than it may go. -/
theorem itemsWithin_readItems : ∀ (fuel room : Nat) (s : List Char),
    ItemsWithin room (readItems fuel room s).1
  | 0, room, s => by simp [readItems, ItemsWithin]
  | fuel + 1, room, s => by
    have hvalue := within_readValue fuel room s
    rw [readItems]
    split
    · next h =>
      rw [h] at hvalue
      exact ⟨hvalue, trivial⟩
    · next h =>
      rw [h] at hvalue
      split
      · exact ⟨hvalue, itemsWithin_readItems fuel room _⟩
      · exact ⟨hvalue, trivial⟩
      · exact ⟨hvalue, trivial⟩
      · exact ⟨hvalue, trivial⟩

/-- A reader of fields marks what is nested deeper than it may go. -/
theorem fieldsWithin_readFields : ∀ (fuel room : Nat) (s : List Char),
    FieldsWithin room (readFields fuel room s).1
  | 0, room, s => by simp [readFields, FieldsWithin]
  | fuel + 1, room, s => by
    rw [readFields]
    split
    · exact ⟨trivial, trivial⟩
    · split
      · next s' _ =>
        have hvalue := within_readValue fuel room s'
        split
        · next h =>
          rw [h] at hvalue
          exact ⟨hvalue, trivial⟩
        · next h =>
          rw [h] at hvalue
          split
          · exact ⟨hvalue, fieldsWithin_readFields fuel room _⟩
          · exact ⟨hvalue, trivial⟩
          · exact ⟨hvalue, trivial⟩
          · exact ⟨hvalue, trivial⟩
      · exact ⟨trivial, trivial⟩
      · exact ⟨trivial, trivial⟩

end

/-- A text is read with marks at whatever is nested deeper than allowed. -/
theorem within_readWithin (room : Nat) (text : String) : (readWithin room text).1.Within room := by
  have hvalue := within_readValue (2 * text.length + 2) room text.toList
  unfold readWithin
  split
  · next h =>
    rw [h] at hvalue
    exact hvalue
  · next h =>
    rw [h] at hvalue
    exact hvalue

end Document

end RowQuery
