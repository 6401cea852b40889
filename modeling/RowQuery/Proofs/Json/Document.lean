import RowQuery.Json.Document
import RowQuery.Proofs.Steps

/-!
# Documents and values

A value is written without faults, so reading its document strictly gives the value back
(`Document.strict_ofJson`): a text by its characters, and arrays and objects part by part. There may
be other documents of the same value, which differ from it in how texts are spelled; what a document
of a value looks like, `Document.Says` shows to the depth of one array or object. A document that
has a value can be passed over (`Document.skip_of_strict`).
-/

namespace RowQuery.Document

/-- Characters are read as they are. -/
theorem pairUnits_map_char (cs : List Char) : pairUnits none (cs.map .char) = .ok cs := by
  induction cs with
  | nil => rfl
  | cons c cs ih =>
    rw [List.map_cons, pairUnits, ih]
    rfl

/-- A text is read as it is. -/
theorem strict_ofText (s : String) :
    StringToken.strict ⟨s.toList.map .char, none⟩ = .ok s := by
  rw [StringToken.strict, pairUnits_map_char]
  exact congrArg Except.ok String.ofList_toList

/-- The document of a key has the key. -/
theorem key_ofText (name : String) : (ofText name).key = .ok name := strict_ofText name

mutual

/-- The document of a value is read as the value. -/
theorem strict_ofJson : ∀ v : Json, (ofJson v).strict = .ok v
  | .null | .bool _ | .number _ => rfl
  | .text s => by
    rw [ofJson, ofText, strict, strict_ofText]
    rfl
  | .array items => by
    rw [ofJson, strict, strictItems_ofItems items]
    rfl
  | .object fields => by
    rw [ofJson, strict, strictFields_ofFields fields]
    rfl

/-- The documents of items are read as the items. -/
theorem strictItems_ofItems : ∀ items : List Json, strictItems (ofItems items) = .ok items
  | [] => rfl
  | v :: rest => by
    rw [ofItems, strictItems, strict_ofJson v, strictItems_ofItems rest]
    rfl

/-- The documents of fields are read as the fields. -/
theorem strictFields_ofFields :
    ∀ fields : List (String × Json), strictFields (ofFields fields) = .ok fields
  | [] => rfl
  | (name, v) :: rest => by
    rw [ofFields, strictFields, key_ofText, strict_ofJson v, strictFields_ofFields rest]
    rfl

end

/-! ## Documents of a value -/

/-- A document of a field: its key has a text, and its value a value. -/
def SaysField (field : Document × Document) (value : String × Json) : Prop :=
  field.1.key = .ok value.1 ∧ field.2.strict = .ok value.2

/-- What a document of a value looks like. -/
inductive Says : Document → Json → Prop
  | null : Says (.word (.ok none)) .null
  | bool (b : Bool) : Says (.word (.ok (some b))) (.bool b)
  | number (n : Json.Number) : Says (.number (.value n)) (.number n)
  | text {t : StringToken} {s : String} (h : t.strict = .ok s) : Says (.string t) (.text s)
  | array {items : List Document} {values : List Json}
    (h : List.Forall₂ (fun d v => d.strict = .ok v) items values) :
    Says (.array false items none) (.array values)
  | object {fields : List (Document × Document)} {values : List (String × Json)}
    (h : List.Forall₂ SaysField fields values) : Says (.object false fields none) (.object values)

/-- Items have values when each has. -/
theorem strictItems_eq_ok {items : List Document} {values : List Json} :
    strictItems items = .ok values ↔ List.Forall₂ (fun d v => d.strict = .ok v) items values := by
  have hmap : strictItems items = items.mapM strict := by
    induction items with
    | nil => rfl
    | cons d items ih => rw [strictItems, List.mapM_cons, ih]
  rw [hmap, mapM_eq_ok]

/-- Fields have values when each has. -/
theorem strictFields_eq_ok {fields : List (Document × Document)} {values : List (String × Json)} :
    strictFields fields = .ok values ↔ List.Forall₂ SaysField fields values := by
  induction fields generalizing values with
  | nil => simp [strictFields, eq_comm]
  | cons field fields ih =>
    obtain ⟨k, d⟩ := field
    rw [strictFields, bind_eq_ok, List.forall₂_cons_left_iff]
    constructor
    · rintro ⟨name, hname, h⟩
      obtain ⟨v, hv, h⟩ := bind_eq_ok.1 h
      obtain ⟨rest, hrest, h⟩ := bind_eq_ok.1 h
      cases h
      exact ⟨(name, v), rest, ⟨hname, hv⟩, ih.1 hrest, rfl⟩
    · rintro ⟨⟨name, v⟩, rest, ⟨hname, hv⟩, hrest, rfl⟩
      exact ⟨name, hname, bind_eq_ok.2 ⟨v, hv, bind_eq_ok.2 ⟨rest, ih.2 hrest, rfl⟩⟩⟩

/-- Reading that was not stopped has its result. -/
theorem finish_eq_ok {α : Type} {stop : Option Fault} {a b : α} :
    Document.finish stop a = .ok b ↔ stop = none ∧ a = b := by
  cases stop with
  | none => simp [Document.finish]
  | some fault => simp [Document.finish]

/-- A document that has a value is one of those that look like it. -/
theorem strict_eq_ok {d : Document} {v : Json} : d.strict = .ok v ↔ d.Says v := by
  constructor
  · intro h
    cases d with
    | nothing fault => cases h
    | word w =>
      obtain ⟨b?, rfl, rfl⟩ := map_eq_ok.1 h
      cases b? with
      | none => exact .null
      | some b => exact .bool b
    | number t =>
      obtain ⟨n, hn, rfl⟩ := map_eq_ok.1 h
      cases t with
      | value => cases hn; exact .number n
      | outOfRange => cases hn
      | broken => cases hn
    | string t =>
      obtain ⟨s, hs, rfl⟩ := map_eq_ok.1 h
      exact .text hs
    | array tooDeep items stop =>
      rw [strict] at h
      split at h
      · cases h
      · next hdeep =>
        obtain ⟨values, hvalues, h⟩ := bind_eq_ok.1 h
        obtain ⟨rfl, rfl⟩ := finish_eq_ok.1 h
        rw [Bool.not_eq_true] at hdeep
        subst hdeep
        exact .array (strictItems_eq_ok.1 hvalues)
    | object tooDeep fields stop =>
      rw [strict] at h
      split at h
      · cases h
      · next hdeep =>
        obtain ⟨values, hvalues, h⟩ := bind_eq_ok.1 h
        obtain ⟨rfl, rfl⟩ := finish_eq_ok.1 h
        rw [Bool.not_eq_true] at hdeep
        subst hdeep
        exact .object (strictFields_eq_ok.1 hvalues)
  · intro h
    cases h with
    | null | bool | number => rfl
    | text h => exact map_eq_ok.2 ⟨_, h, rfl⟩
    | array h =>
      rw [strict]
      exact bind_eq_ok.2 ⟨_, strictItems_eq_ok.2 h, rfl⟩
    | object h =>
      rw [strict]
      exact bind_eq_ok.2 ⟨_, strictFields_eq_ok.2 h, rfl⟩

/-! ## Parts -/

/-- The items of an array or the values of the fields of an object. -/
def parts : Document → List Document
  | .array _ items _ => items
  | .object _ fields _ => fields.map Prod.snd
  | .nothing _ | .word _ | .number _ | .string _ => []

/-- Induction on a document with the hypothesis at each of its parts. -/
@[elab_as_elim]
theorem recParts {motive : Document → Prop}
    (step : ∀ d : Document, (∀ part ∈ d.parts, motive part) → motive d) (d : Document) : motive d :=
  step d fun part _ => recParts step part
termination_by sizeOf d
decreasing_by
  rename_i hpart
  cases d with
  | array tooDeep items stop =>
    have hitem : part ∈ items := hpart
    have hlt := List.sizeOf_lt_of_mem hitem
    simp only [array.sizeOf_spec]
    omega
  | object tooDeep fields stop =>
    obtain ⟨field, hfield, rfl⟩ := List.mem_map.1 hpart
    have hlt := List.sizeOf_lt_of_mem hfield
    obtain ⟨k, d⟩ := field
    simp only [object.sizeOf_spec]
    simp only [Prod.mk.sizeOf_spec] at hlt
    omega
  | nothing | word | number | string => cases hpart

/-! ## Passing over -/

/-- A string that has a text was read to its end. -/
theorem stop_of_pairUnits {stop : Option Fault} : ∀ {units : List CodeUnit} {cs : List Char},
    pairUnits stop units = .ok cs → stop = none
  | [], _, h => (finish_eq_ok.1 h).1
  | .char c :: rest, _, h => by
    obtain ⟨cs, hcs, -⟩ := map_eq_ok.1 h
    exact stop_of_pairUnits hcs
  | .code n :: rest, _, h => by
    unfold pairUnits at h
    split at h
    · cases h
    · split at h
      · split at h
        · split at h
          · obtain ⟨cs, hcs, -⟩ := map_eq_ok.1 h
            exact stop_of_pairUnits hcs
          · cases h
        · cases h
        · cases h
      · obtain ⟨cs, hcs, -⟩ := map_eq_ok.1 h
        exact stop_of_pairUnits hcs

/-- A string that has a text can be passed over. -/
theorem finish_of_strict {t : StringToken} {s : String} (h : t.strict = .ok s) :
    Document.finish t.stop () = .ok () := by
  obtain ⟨cs, hcs, -⟩ := map_eq_ok.1 h
  rw [stop_of_pairUnits hcs]
  rfl

/-- Items that can each be passed over can be passed over. -/
theorem skipItems_eq_ok {items : List Document} (h : ∀ d ∈ items, d.skip = .ok ()) :
    skipItems items = .ok () := by
  induction items with
  | nil => rfl
  | cons d items ih =>
    rw [List.forall_mem_cons] at h
    rw [skipItems, h.1]
    exact ih h.2

/-- A key that has a text can be passed over. -/
theorem skipKey_of_key {k : Document} {name : String} (h : k.key = .ok name) :
    k.skipKey = .ok () := by
  unfold key at h
  split at h
  · exact finish_of_strict h
  · cases h
  · cases h

/-- Fields that can each be passed over can be passed over. -/
theorem skipFields_eq_ok {fields : List (Document × Document)}
    (h : ∀ field ∈ fields, field.1.skipKey = .ok () ∧ field.2.skip = .ok ()) :
    skipFields fields = .ok () := by
  induction fields with
  | nil => rfl
  | cons field fields ih =>
    rw [List.forall_mem_cons] at h
    rw [skipFields, h.1.1, h.1.2]
    exact ih h.2

/-- A document that has a value can be passed over. -/
theorem skip_of_strict {d : Document} {v : Json} (h : d.strict = .ok v) : d.skip = .ok () := by
  induction d using recParts generalizing v with
  | step d ih =>
    cases strict_eq_ok.1 h with
    | null | bool | number => rfl
    | text ht => exact finish_of_strict ht
    | array hitems =>
      rw [skip, skipItems_eq_ok fun d hd => ?_]
      · rfl
      · obtain ⟨v, -, hv⟩ := exists_of_forall₂ hitems hd
        exact ih d hd hv
    | object hfields =>
      rw [skip, skipFields_eq_ok fun field hfield => ?_]
      · rfl
      · obtain ⟨value, -, hkey, hvalue⟩ := exists_of_forall₂ hfields hfield
        exact ⟨skipKey_of_key hkey, ih _ (List.mem_map_of_mem hfield) hvalue⟩

end RowQuery.Document
