import Mathlib.Data.List.Perm.Basic
import RowQuery.Description.Change
import RowQuery.Proofs.Json.Document
import RowQuery.Proofs.Json.Fields

/-!
# Structures from objects

What a structure is decoded from an object is said field by field: a field that has to be given has
a value (`Decoder.Field.Gives`), one that may be left out has a value or is left out and has its
default (`Decoder.Field.GivesOr`), and what other keys there are does not matter. None of this
depends on the order of the keys (`Decoder.ofValue_record_eq_ok`).
-/

namespace RowQuery.Decoder

open Document (ofJson ofFields)

variable {α : Type} {fields fields' : List (String × Json)}

/-! ## Fields of a structure -/

namespace Field

/-- The object gives the field a value that is decoded. -/
def Gives (f : Field α) (fields : List (String × Json)) (a : α) : Prop :=
  ∃ v, (f.name, v) ∈ fields ∧ ofValue f.decode v = .ok a

/-- The object gives the field a value that is decoded, or leaves it out for its default. -/
def GivesOr (f : Field α) (default : α) (fields : List (String × Json)) (a : α) : Prop :=
  f.Gives fields a ∨ f.name ∉ fields.map Prod.fst ∧ default = a

variable {f : Field α} {a default : α}

/-- The order of the keys does not matter to a field. -/
theorem gives_perm (h : fields.Perm fields') : f.Gives fields a ↔ f.Gives fields' a :=
  exists_congr fun _ => and_congr_left fun _ => h.mem_iff

/-- The order of the keys does not matter to a field that may be left out. -/
theorem givesOr_perm (h : fields.Perm fields') :
    f.GivesOr default fields a ↔ f.GivesOr default fields' a :=
  or_congr (gives_perm h) (and_congr_left fun _ => not_congr (h.map Prod.fst).mem_iff)

end Field

/-! ## Visiting -/

/-- The entries of a structure that the fields of an object give. -/
def entriesOf (known : List (String × Decoder Unit)) (fields : List (String × Json)) :
    List (String × Document) :=
  (fields.filter fun field => (Json.field? field.1 known).isSome).map fun field =>
    (field.1, ofJson field.2)

variable {known : List (String × Decoder Unit)} {seen : List String} {name : String} {v : Json}
  {rest : List (Document × Document)} {entries : List (String × Document)}

/-- An unknown field is passed over. -/
theorem visit_unknown (h : Json.field? name known = none) :
    visit known seen ((Document.ofText name, ofJson v) :: rest) = visit known seen rest := by
  rw [visit, Document.key_ofText]
  refine (bind_congr_ok (g := fun _ => visit known seen rest) fun name' hname => ?_).trans rfl
  cases hname
  rw [h, Document.skip_of_strict (Document.strict_ofJson v)]
  rfl

/-- A known field that is new is looked at. -/
theorem visit_known {check : Decoder Unit} (h : Json.field? name known = some check)
    (hseen : name ∉ seen) :
    visit known seen ((Document.ofText name, ofJson v) :: rest) = .ok entries ↔
      check (ofJson v) = .ok () ∧
        ∃ others, visit known (name :: seen) rest = .ok others ∧
          (name, ofJson v) :: others = entries := by
  rw [visit, Document.key_ofText, bind_eq_ok]
  simp only [Except.mapError, Except.ok.injEq, exists_eq_left', h, List.contains_iff_mem, hseen,
    if_false]
  constructor
  · intro hvisit
    obtain ⟨⟨⟩, hlooked, hvisit⟩ := bind_eq_ok.1 hvisit
    obtain ⟨others, hothers, hvisit⟩ := bind_eq_ok.1 hvisit
    cases hvisit
    exact ⟨hlooked, others, hothers, rfl⟩
  · rintro ⟨hlooked, others, hothers, rfl⟩
    exact bind_eq_ok.2 ⟨(), hlooked, bind_eq_ok.2 ⟨others, hothers, rfl⟩⟩

/-- The fields of an object are visited when each known one is as it should be. -/
theorem visit_ofFields (hkeys : (fields.map Prod.fst).Nodup)
    (hseen : ∀ field ∈ fields, field.1 ∉ seen) :
    visit known seen (ofFields fields) = .ok entries ↔
      (∀ field ∈ fields, ∀ check, Json.field? field.1 known = some check →
        check (ofJson field.2) = .ok ()) ∧ entriesOf known fields = entries := by
  induction fields generalizing seen entries with
  | nil => simp [ofFields, visit, entriesOf]
  | cons field fields ih =>
    obtain ⟨name, v⟩ := field
    rw [List.map_cons, List.nodup_cons] at hkeys
    rw [List.forall_mem_cons] at hseen
    rw [ofFields, List.forall_mem_cons, entriesOf, List.filter_cons]
    cases hcheck : Json.field? name known with
    | none =>
      rw [visit_unknown hcheck, ih hkeys.2 hseen.2]
      simp [entriesOf]
    | some check =>
      have hnew : ∀ field ∈ fields, field.1 ∉ name :: seen := fun field hfield hmem => by
        rcases List.mem_cons.1 hmem with he | hmem
        · exact hkeys.1 (List.mem_map.2 ⟨field, hfield, he⟩)
        · exact hseen.2 field hfield hmem
      rw [visit_known hcheck hseen.1]
      simp only [ih hkeys.2 hnew]
      simp [entriesOf, and_assoc]

/-! ## Assembling -/

/-- What an object gives of a structure with known fields. -/
def recordOf (known : List (String × Decoder Unit)) (fields : List (String × Json)) : Record where
  entries := entriesOf known fields
  stop := none
  absent := .missingField

/-- A field of a structure has the document of the value that the object gives it. -/
theorem field?_entriesOf (h : (Json.field? name known).isSome) :
    Json.field? name (entriesOf known fields) = (Json.field? name fields).map ofJson := by
  induction fields with
  | nil => rfl
  | cons field fields ih =>
    obtain ⟨key, v⟩ := field
    rw [entriesOf, List.filter_cons, Json.field?]
    by_cases hkey : key = name
    · rw [hkey, if_pos h, if_pos rfl, List.map_cons, Json.field?, if_pos rfl]
      rfl
    · rw [if_neg hkey, ← ih]
      split
      · rw [List.map_cons, Json.field?, if_neg hkey]
        rfl
      · rfl

variable {f : Field α} {a default : α}

/-- A field that has to be given is decoded when the object gives it. -/
theorem required_eq_ok (hkeys : (fields.map Prod.fst).Nodup)
    (h : (Json.field? f.name known).isSome) :
    (recordOf known fields).required f = .ok a ↔ f.Gives fields a := by
  unfold Record.required recordOf Field.Gives
  rw [field?_entriesOf h]
  cases hv : Json.field? f.name fields with
  | none =>
    rw [field?_eq_none] at hv
    refine ⟨fun h => (nomatch h), fun ⟨v, hmem, _⟩ => absurd (List.mem_map_of_mem hmem) hv⟩
  | some v =>
    have hunique : ∀ v', (f.name, v') ∈ fields ↔ v = v' := fun v' => by
      rw [← field?_eq_some hkeys, hv, Option.some.injEq]
    simp [hunique, ofValue]

/-- A field that may be left out is decoded when the object gives it or leaves it out. -/
theorem optional_eq_ok (hkeys : (fields.map Prod.fst).Nodup)
    (h : (Json.field? f.name known).isSome) :
    (recordOf known fields).optional f default = .ok a ↔ f.GivesOr default fields a := by
  unfold Field.GivesOr
  rw [← required_eq_ok hkeys h, ← field?_eq_none]
  unfold Record.optional Record.required recordOf
  rw [field?_entriesOf h]
  cases hv : Json.field? f.name fields with
  | none =>
    constructor
    · exact fun h => .inr ⟨rfl, Except.ok.inj h⟩
    · rintro (h | ⟨-, rfl⟩)
      · cases h
      · rfl
  | some v => simp

/-- A structure is decoded from an object when its known fields are as they should be and it is
assembled from them. -/
theorem ofValue_record_eq_ok {name : String} {assemble : Record → Except DecodeError α}
    (hkeys : (fields.map Prod.fst).Nodup) :
    ofValue (record name known assemble) (.object fields) = .ok a ↔
      (∀ field ∈ fields, ∀ check, Json.field? field.1 known = some check →
        check (ofJson field.2) = .ok ()) ∧ assemble (recordOf known fields) = .ok a := by
  have hvisit {entries : List (String × Document)} :
      visit known [] (ofFields fields) = .ok entries ↔ _ :=
    visit_ofFields hkeys fun _ _ => List.not_mem_nil
  constructor
  · intro h
    obtain ⟨⟨⟩, -, h⟩ := bind_eq_ok.1 h
    obtain ⟨entries, hentries, h⟩ := bind_eq_ok.1 h
    obtain ⟨⟨⟩, -, h⟩ := bind_eq_ok.1 h
    obtain ⟨hlooked, rfl⟩ := hvisit.1 hentries
    exact ⟨hlooked, h⟩
  · rintro ⟨hlooked, h⟩
    exact bind_eq_ok.2 ⟨(), rfl, bind_eq_ok.2 ⟨_, hvisit.2 ⟨hlooked, rfl⟩,
      bind_eq_ok.2 ⟨(), rfl, h⟩⟩⟩

/-- The known fields are as they should be when the value under each of their keys is. -/
theorem looked_of_forall (h : ∀ check ∈ known, ∀ v, (check.1, v) ∈ fields →
      check.2 (ofJson v) = .ok ()) :
    ∀ field ∈ fields, ∀ check, Json.field? field.1 known = some check →
      check (ofJson field.2) = .ok () :=
  fun field hfield _ hcheck => h _ (mem_of_field? hcheck) field.2 hfield

namespace Field

/-- A field that an object gives is as it should be. -/
theorem Gives.check (h : f.Gives fields a) (hkeys : (fields.map Prod.fst).Nodup) :
    ∀ v, (f.check.1, v) ∈ fields → f.check.2 (ofJson v) = .ok () := by
  intro v' hmem'
  obtain ⟨v, hmem, hv⟩ := h
  have hsome := (field?_eq_some hkeys).2 hmem
  have hname : (f.name, v') ∈ fields := hmem'
  rw [(field?_eq_some hkeys).2 hname, Option.some.injEq] at hsome
  subst hsome
  exact map_eq_ok.2 ⟨a, hv, rfl⟩

/-- A field that an object gives or leaves out is as it should be. -/
theorem GivesOr.check (h : f.GivesOr default fields a) (hkeys : (fields.map Prod.fst).Nodup) :
    ∀ v, (f.check.1, v) ∈ fields → f.check.2 (ofJson v) = .ok () := by
  rcases h with h | ⟨hmem, -⟩
  · exact h.check hkeys
  · exact fun v hv => absurd (List.mem_map_of_mem hv) hmem

end Field

/-! ## Structures -/

/-- A join is decoded from an object when its fields are. -/
theorem ofValue_join_eq_ok {j : Join} (hkeys : (fields.map Prod.fst).Nodup) :
    ofValue join (.object fields) = .ok j ↔
      kindField.GivesOr .plain fields j.kind ∧ tableField.Gives fields j.table ∧
        aliasField.GivesOr none fields j.alias? ∧ onField.Gives fields j.on := by
  unfold join
  rw [ofValue_record_eq_ok hkeys]
  constructor
  · rintro ⟨-, h⟩
    obtain ⟨kind, hkind, h⟩ := bind_eq_ok.1 h
    obtain ⟨table, htable, h⟩ := bind_eq_ok.1 h
    obtain ⟨alias?, halias, h⟩ := bind_eq_ok.1 h
    obtain ⟨on, hon, h⟩ := bind_eq_ok.1 h
    cases h
    exact ⟨(optional_eq_ok hkeys rfl).1 hkind, (required_eq_ok hkeys rfl).1 htable,
      (optional_eq_ok hkeys rfl).1 halias, (required_eq_ok hkeys rfl).1 hon⟩
  · rintro ⟨hkind, htable, halias, hon⟩
    refine ⟨looked_of_forall ?_, ?_⟩
    · simp only [List.forall_mem_cons, List.not_mem_nil, false_imp_iff, implies_true, and_true]
      exact ⟨hkind.check hkeys, htable.check hkeys, halias.check hkeys, hon.check hkeys⟩
    · exact bind_eq_ok.2 ⟨_, (optional_eq_ok hkeys rfl).2 hkind, bind_eq_ok.2
        ⟨_, (required_eq_ok hkeys rfl).2 htable, bind_eq_ok.2
          ⟨_, (optional_eq_ok hkeys rfl).2 halias, bind_eq_ok.2
            ⟨_, (required_eq_ok hkeys rfl).2 hon, rfl⟩⟩⟩⟩

/-- An object gives the fields of a select. -/
structure GivesSelect (fields : List (String × Json)) (s : Select) : Prop where
  table : tableField.Gives fields s.table
  alias? : aliasField.GivesOr none fields s.alias?
  names : fieldsField.GivesOr [] fields s.fields
  joins : joinField.GivesOr [] fields s.joins
  filter? : filterField.GivesOr none fields s.filter?
  orderBy : orderByField.GivesOr [] fields s.orderBy
  groupBy : groupByField.GivesOr [] fields s.groupBy
  limit? : limitField.GivesOr none fields s.limit?
  skip? : skipField.GivesOr none fields s.skip?

/-- A select is decoded from an object when its fields are. -/
theorem ofValue_select_eq_ok {s : Select} (hkeys : (fields.map Prod.fst).Nodup) :
    ofValue select (.object fields) = .ok s ↔ GivesSelect fields s := by
  unfold select
  rw [ofValue_record_eq_ok hkeys]
  constructor
  · rintro ⟨-, h⟩
    obtain ⟨table, htable, h⟩ := bind_eq_ok.1 h
    obtain ⟨alias?, halias, h⟩ := bind_eq_ok.1 h
    obtain ⟨names, hfields, h⟩ := bind_eq_ok.1 h
    obtain ⟨joins, hjoins, h⟩ := bind_eq_ok.1 h
    obtain ⟨filter?, hfilter, h⟩ := bind_eq_ok.1 h
    obtain ⟨orderBy, horder, h⟩ := bind_eq_ok.1 h
    obtain ⟨groupBy, hgroup, h⟩ := bind_eq_ok.1 h
    obtain ⟨limit?, hlimit, h⟩ := bind_eq_ok.1 h
    obtain ⟨skip?, hskip, h⟩ := bind_eq_ok.1 h
    cases h
    exact {
      table := (required_eq_ok hkeys rfl).1 htable
      alias? := (optional_eq_ok hkeys rfl).1 halias
      names := (optional_eq_ok hkeys rfl).1 hfields
      joins := (optional_eq_ok hkeys rfl).1 hjoins
      filter? := (optional_eq_ok hkeys rfl).1 hfilter
      orderBy := (optional_eq_ok hkeys rfl).1 horder
      groupBy := (optional_eq_ok hkeys rfl).1 hgroup
      limit? := (optional_eq_ok hkeys rfl).1 hlimit
      skip? := (optional_eq_ok hkeys rfl).1 hskip }
  · intro h
    refine ⟨looked_of_forall ?_, ?_⟩
    · simp only [List.forall_mem_cons, List.not_mem_nil, false_imp_iff, implies_true, and_true]
      exact ⟨h.table.check hkeys, h.alias?.check hkeys, h.names.check hkeys, h.joins.check hkeys,
        h.filter?.check hkeys, h.orderBy.check hkeys, h.groupBy.check hkeys, h.limit?.check hkeys,
        h.skip?.check hkeys⟩
    · refine bind_eq_ok.2 ⟨_, (required_eq_ok hkeys rfl).2 h.table, ?_⟩
      refine bind_eq_ok.2 ⟨_, (optional_eq_ok hkeys rfl).2 h.alias?, ?_⟩
      refine bind_eq_ok.2 ⟨_, (optional_eq_ok hkeys rfl).2 h.names, ?_⟩
      refine bind_eq_ok.2 ⟨_, (optional_eq_ok hkeys rfl).2 h.joins, ?_⟩
      refine bind_eq_ok.2 ⟨_, (optional_eq_ok hkeys rfl).2 h.filter?, ?_⟩
      refine bind_eq_ok.2 ⟨_, (optional_eq_ok hkeys rfl).2 h.orderBy, ?_⟩
      refine bind_eq_ok.2 ⟨_, (optional_eq_ok hkeys rfl).2 h.groupBy, ?_⟩
      refine bind_eq_ok.2 ⟨_, (optional_eq_ok hkeys rfl).2 h.limit?, ?_⟩
      exact bind_eq_ok.2 ⟨_, (optional_eq_ok hkeys rfl).2 h.skip?, rfl⟩

/-- An insert is decoded from an object when its fields are. -/
theorem ofValue_insert_eq_ok {i : Insert} (hkeys : (fields.map Prod.fst).Nodup) :
    ofValue insert (.object fields) = .ok i ↔
      tableField.Gives fields i.table ∧ rowsField.Gives fields i.rows ∧
        insertTypeField.GivesOr .insertOrUpdate fields i.insertType := by
  unfold insert
  rw [ofValue_record_eq_ok hkeys]
  constructor
  · rintro ⟨-, h⟩
    obtain ⟨table, htable, h⟩ := bind_eq_ok.1 h
    obtain ⟨rows, hrows, h⟩ := bind_eq_ok.1 h
    obtain ⟨insertType, htype, h⟩ := bind_eq_ok.1 h
    cases h
    exact ⟨(required_eq_ok hkeys rfl).1 htable, (required_eq_ok hkeys rfl).1 hrows,
      (optional_eq_ok hkeys rfl).1 htype⟩
  · rintro ⟨htable, hrows, htype⟩
    refine ⟨looked_of_forall ?_, ?_⟩
    · simp only [List.forall_mem_cons, List.not_mem_nil, false_imp_iff, implies_true, and_true]
      exact ⟨htable.check hkeys, hrows.check hkeys, htype.check hkeys⟩
    · refine bind_eq_ok.2 ⟨_, (required_eq_ok hkeys rfl).2 htable, ?_⟩
      refine bind_eq_ok.2 ⟨_, (required_eq_ok hkeys rfl).2 hrows, ?_⟩
      exact bind_eq_ok.2 ⟨_, (optional_eq_ok hkeys rfl).2 htype, rfl⟩

/-- An update is decoded from an object when its fields are. -/
theorem ofValue_update_eq_ok {u : Update} (hkeys : (fields.map Prod.fst).Nodup) :
    ofValue update (.object fields) = .ok u ↔
      tableField.Gives fields u.table ∧ setField.Gives fields u.assignments ∧
        comparisonsField.GivesOr [] fields u.filter := by
  unfold update
  rw [ofValue_record_eq_ok hkeys]
  constructor
  · rintro ⟨-, h⟩
    obtain ⟨table, htable, h⟩ := bind_eq_ok.1 h
    obtain ⟨assignments, hset, h⟩ := bind_eq_ok.1 h
    obtain ⟨filter, hfilter, h⟩ := bind_eq_ok.1 h
    cases h
    exact ⟨(required_eq_ok hkeys rfl).1 htable, (required_eq_ok hkeys rfl).1 hset,
      (optional_eq_ok hkeys rfl).1 hfilter⟩
  · rintro ⟨htable, hset, hfilter⟩
    refine ⟨looked_of_forall ?_, ?_⟩
    · simp only [List.forall_mem_cons, List.not_mem_nil, false_imp_iff, implies_true, and_true]
      exact ⟨htable.check hkeys, hset.check hkeys, hfilter.check hkeys⟩
    · refine bind_eq_ok.2 ⟨_, (required_eq_ok hkeys rfl).2 htable, ?_⟩
      refine bind_eq_ok.2 ⟨_, (required_eq_ok hkeys rfl).2 hset, ?_⟩
      exact bind_eq_ok.2 ⟨_, (optional_eq_ok hkeys rfl).2 hfilter, rfl⟩

/-- A delete is decoded from an object when its fields are. -/
theorem ofValue_delete_eq_ok {d : Delete} (hkeys : (fields.map Prod.fst).Nodup) :
    ofValue delete (.object fields) = .ok d ↔
      tableField.Gives fields d.table ∧ filterField.GivesOr none fields d.filter? := by
  unfold delete
  rw [ofValue_record_eq_ok hkeys]
  constructor
  · rintro ⟨-, h⟩
    obtain ⟨table, htable, h⟩ := bind_eq_ok.1 h
    obtain ⟨filter?, hfilter, h⟩ := bind_eq_ok.1 h
    cases h
    exact ⟨(required_eq_ok hkeys rfl).1 htable, (optional_eq_ok hkeys rfl).1 hfilter⟩
  · rintro ⟨htable, hfilter⟩
    refine ⟨looked_of_forall ?_, ?_⟩
    · simp only [List.forall_mem_cons, List.not_mem_nil, false_imp_iff, implies_true, and_true]
      exact ⟨htable.check hkeys, hfilter.check hkeys⟩
    · refine bind_eq_ok.2 ⟨_, (required_eq_ok hkeys rfl).2 htable, ?_⟩
      exact bind_eq_ok.2 ⟨_, (optional_eq_ok hkeys rfl).2 hfilter, rfl⟩

/-! ## The order of keys -/

section
variable (h : fields.Perm fields')
include h

/-- The order of the keys does not matter to whether there are repeated ones. -/
theorem nodup_keys_perm : (fields.map Prod.fst).Nodup ↔ (fields'.map Prod.fst).Nodup :=
  (h.map Prod.fst).nodup_iff

/-- The order of the keys does not matter to a select. -/
theorem ofValue_select_perm (hkeys : (fields.map Prod.fst).Nodup) (s : Select) :
    ofValue select (.object fields) = .ok s ↔ ofValue select (.object fields') = .ok s := by
  rw [ofValue_select_eq_ok hkeys, ofValue_select_eq_ok ((nodup_keys_perm h).1 hkeys)]
  have hgives {fields fields'} (h : fields.Perm fields') (hs : GivesSelect fields s) :
      GivesSelect fields' s := {
    table := (Field.gives_perm h).1 hs.table
    alias? := (Field.givesOr_perm h).1 hs.alias?
    names := (Field.givesOr_perm h).1 hs.names
    joins := (Field.givesOr_perm h).1 hs.joins
    filter? := (Field.givesOr_perm h).1 hs.filter?
    orderBy := (Field.givesOr_perm h).1 hs.orderBy
    groupBy := (Field.givesOr_perm h).1 hs.groupBy
    limit? := (Field.givesOr_perm h).1 hs.limit?
    skip? := (Field.givesOr_perm h).1 hs.skip? }
  exact ⟨hgives h, hgives h.symm⟩

/-- The order of the keys does not matter to an insert. -/
theorem ofValue_insert_perm (hkeys : (fields.map Prod.fst).Nodup) (i : Insert) :
    ofValue insert (.object fields) = .ok i ↔ ofValue insert (.object fields') = .ok i := by
  rw [ofValue_insert_eq_ok hkeys, ofValue_insert_eq_ok ((nodup_keys_perm h).1 hkeys),
    Field.gives_perm h, Field.gives_perm h, Field.givesOr_perm h]

/-- The order of the keys does not matter to an update. -/
theorem ofValue_update_perm (hkeys : (fields.map Prod.fst).Nodup) (u : Update) :
    ofValue update (.object fields) = .ok u ↔ ofValue update (.object fields') = .ok u := by
  rw [ofValue_update_eq_ok hkeys, ofValue_update_eq_ok ((nodup_keys_perm h).1 hkeys),
    Field.gives_perm h, Field.gives_perm h, Field.givesOr_perm h]

/-- The order of the keys does not matter to a delete. -/
theorem ofValue_delete_perm (hkeys : (fields.map Prod.fst).Nodup) (d : Delete) :
    ofValue delete (.object fields) = .ok d ↔ ofValue delete (.object fields') = .ok d := by
  rw [ofValue_delete_eq_ok hkeys, ofValue_delete_eq_ok ((nodup_keys_perm h).1 hkeys),
    Field.gives_perm h, Field.givesOr_perm h]

end

end RowQuery.Decoder
