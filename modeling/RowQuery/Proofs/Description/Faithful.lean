import Mathlib
import RowQuery.Description.Change
import RowQuery.Proofs.Json.Exact
import RowQuery.Proofs.Json.Fields
import RowQuery.Proofs.Outcome

/-!
# Texts and values are decoded alike

A text and the value that it denotes are decoded through documents of the same value, which differ
in how strings are spelled and in nothing else (`Document.Same`). A decoder is faithful if it decodes
such documents alike, and every decoder of a query is: the decoders of leaves are, and the ways to
build decoders from others keep it (`Decoder.Faithful`). So a text without repeated keys that is not
nested too deep is decoded as its value is (`Decoder.text_decoded_as_value`).
-/

namespace RowQuery

/-! ## Documents of the same value -/

namespace Document

/-- Two documents have the same value. -/
def Same (d d' : Document) : Prop := ∃ v, d.strict = .ok v ∧ d'.strict = .ok v

/-- Two documents of fields have the same key and the same value. -/
def SameField (field field' : Document × Document) : Prop :=
  (∃ name, field.1.key = .ok name ∧ field'.1.key = .ok name) ∧ Same field.2 field'.2

/-- What two documents of the same value look like. -/
inductive Matches : Document → Document → Prop
  | word (b? : Option Bool) : Matches (.word (.ok b?)) (.word (.ok b?))
  | number (n : Json.Number) : Matches (.number (.value n)) (.number (.value n))
  | string {t t' : StringToken} {s : String} (h : t.strict = .ok s) (h' : t'.strict = .ok s) :
    Matches (.string t) (.string t')
  | array {items items' : List Document} (h : List.Forall₂ Same items items') :
    Matches (.array false items none) (.array false items' none)
  | object {fields fields' : List (Document × Document)} (h : List.Forall₂ SameField fields fields') :
    Matches (.object false fields none) (.object false fields' none)

/-- Documents of the same value look alike. -/
theorem Same.matches {d d' : Document} (h : Same d d') : Matches d d' := by
  obtain ⟨v, h, h'⟩ := h
  cases strict_eq_ok.1 h with
  | null =>
    cases strict_eq_ok.1 h'
    exact .word none
  | bool b =>
    cases strict_eq_ok.1 h'
    exact .word (some b)
  | number n =>
    cases strict_eq_ok.1 h'
    exact .number n
  | text ht =>
    cases strict_eq_ok.1 h' with
    | text ht' => exact .string ht ht'
  | array hitems =>
    cases strict_eq_ok.1 h' with
    | array hitems' =>
      exact .array (forall₂_of_common (fun _ _ v h h' => ⟨v, h, h'⟩) hitems hitems')
  | object hfields =>
    cases strict_eq_ok.1 h' with
    | object hfields' =>
      exact .object (forall₂_of_common (fun _ _ value h h' =>
        ⟨⟨value.1, h.1, h'.1⟩, value.2, h.2, h'.2⟩) hfields hfields')

end Document

namespace Decoder

open Document (Same SameField Matches)

variable {α β γ : Type}

/-- Documents of the same value are decoded alike. -/
def Faithful (decode : Decoder α) : Prop :=
  ∀ d d' : Document, Same d d' → SameOutcome Eq (decode d) (decode d')

namespace Faithful

/-! ## Leaves -/

theorem string : Faithful string := fun _ _ h => by
  cases h.matches with
  | string hs hs' =>
    rw [Decoder.string, Decoder.string, hs, hs']
    exact .ok rfl
  | word | number | array | object => exact .error _ _

theorem count : Faithful count := fun _ _ h => by
  cases h.matches with
  | number => exact .same _
  | word | string | array | object => exact .error _ _

theorem unit : Faithful unit := fun _ _ h => by
  cases h.matches with
  | word => exact .same _
  | number | string | array | object => exact .error _ _

theorem value : Faithful value := fun _ _ ⟨v, hv, hv'⟩ => by
  rw [Decoder.value, Decoder.value, hv, hv']
  exact .ok rfl

/-- A step behind a faithful decoder that depends on its result only. -/
theorem bind {decode : Decoder α} (h : Faithful decode) (next : α → Except DecodeError β) :
    Faithful fun d => decode d >>= next := fun _ _ hsame =>
  (h _ _ hsame).bind fun a a' (he : a = a') => he ▸ .same _

theorem map {decode : Decoder α} (h : Faithful decode) (f : α → β) :
    Faithful fun d => (decode d).map f := fun _ _ hsame =>
  (h _ _ hsame).map fun _ _ he => congrArg f he

theorem parsed (parse : String → Except QueryError α) : Faithful (parsed parse) :=
  string.bind fun s => (parse s).mapError .refused

theorem formOf (type : String) (form? : Json → Option α) : Faithful (formOf type form?) :=
  value.bind _

/-- Null stands for nothing, whatever else is decoded. -/
theorem nullable {decode : Decoder α} (h : Faithful decode) : Faithful (nullable decode) :=
  fun d d' hsame => by
    have hsome : SameOutcome Eq ((decode d).map some) ((decode d').map some) := h.map some d d' hsame
    cases hsame.matches with
    | word b? => exact .same _
    | number | string | array | object => exact hsome

/-! ## Sequences -/

theorem list {decode : Decoder α} (h : Faithful decode) : Faithful (list decode) := fun _ _ hsame => by
  cases hsame.matches with
  | array hitems =>
    refine (SameOutcome.same _).bind fun _ _ _ => ?_
    refine (SameOutcome.mapM (hitems.imp fun _ _ hitem => h _ _ hitem)).bind fun _ _ hvalues => ?_
    obtain rfl := List.forall₂_eq_eq_eq ▸ hvalues
    exact .same _
  | word | number | string | object => exact .error _ _

/-- An item of a sequence is decoded alike, and where it is lacking, in both. -/
theorem item {decode : Decoder α} (h : Faithful decode) {items items' : List Document}
    (hitems : List.Forall₂ Same items items') (position : Nat) (e e' : DecodeError) :
    SameOutcome Eq
      (match items[position]? with
        | some d => decode d
        | none => do ended none; throw e)
      (match items'[position]? with
        | some d => decode d
        | none => do ended none; throw e') := by
  induction hitems generalizing position with
  | nil => exact .error _ _
  | cons hhead _ ih =>
    cases position with
    | zero => exact h _ _ hhead
    | succ position => exact ih position

theorem triple {first : Decoder α} {second : Decoder β} {third : Decoder γ} (hfirst : Faithful first)
    (hsecond : Faithful second) (hthird : Faithful third) :
    Faithful (triple first second third) := fun _ _ hsame => by
  cases hsame.matches with
  | array hitems =>
    refine (SameOutcome.same _).bind fun _ _ _ => ?_
    refine (hfirst.item hitems 0 _ _).bind fun a a' ha => ?_
    refine (hsecond.item hitems 1 _ _).bind fun b b' hb => ?_
    refine (hthird.item hitems 2 _ _).bind fun c c' hc => ?_
    rw [ha, hb, hc, hitems.length_eq]
    dsimp only
    split
    · exact .error _ _
    · exact .ok rfl
  | word | number | string | object => exact .error _ _

/-! ## Choices -/

/-- A field names the same member of a choice in both documents. -/
theorem namedByField (choice : List (String × α)) {field field' : Document × Document}
    (h : SameField field field') :
    SameOutcome Eq (namedByField choice field) (namedByField choice field') := by
  obtain ⟨⟨name, hname, hname'⟩, hvalue⟩ := h
  rw [Decoder.namedByField, Decoder.namedByField, hname, hname']
  refine (SameOutcome.same (named choice name)).bind fun a a' ha => ?_
  exact (unit _ _ hvalue).bind fun _ _ _ => .ok ha

theorem variant (choice : List (String × α)) : Faithful (variant choice) := fun _ _ hsame => by
  cases hsame.matches with
  | word b? => exact .same _
  | number => exact .error _ _
  | string hs hs' =>
    rw [Decoder.variant, Decoder.variant, hs, hs']
    exact .same _
  | array => exact .error _ _
  | object hfields =>
    refine (SameOutcome.same _).bind fun _ _ _ => ?_
    cases hfields with
    | nil => exact .error _ _
    | cons hfield hrest =>
      have hnamed := namedByField choice hfield
      cases hrest with
      | nil => exact hnamed.bind fun a a' ha => .ok ha
      | cons _ _ =>
        -- whatever the first field is, an object of several fields names no member
        dsimp only
        split <;> split <;> exact .error _ _

/-! ## Structures -/

/-- The entries of a structure are there under the same names and have the same values. -/
abbrev SameEntries : List (String × Document) → List (String × Document) → Prop :=
  List.Forall₂ fun entry entry' => entry.1 = entry'.1 ∧ Same entry.2 entry'.2

/-- What two documents of the same value give of a structure. -/
structure SameRecord (r r' : Record) : Prop where
  entries : SameEntries r.entries r'.entries
  stop : r.stop = r'.stop

/-- The fields of a structure are looked at alike. -/
theorem visit {known : List (String × Decoder Unit)} (hknown : ∀ check ∈ known, Faithful check.2)
    {fields fields' : List (Document × Document)} (h : List.Forall₂ SameField fields fields') :
    ∀ seen, SameOutcome SameEntries (visit known seen fields) (visit known seen fields') := by
  induction h with
  | nil => exact fun seen => .ok .nil
  | @cons field field' fields fields' hfield _ ih =>
    intro seen
    obtain ⟨⟨name, hname, hname'⟩, v, hv, hv'⟩ := hfield
    rw [Decoder.visit, Decoder.visit, hname, hname']
    refine (SameOutcome.same (.ok name)).bind ?_
    rintro name _ rfl
    cases hcheck : Json.field? name known with
    | none =>
      -- an unknown field is passed over by looser rules, which both documents meet
      rw [Document.skip_of_strict hv, Document.skip_of_strict hv']
      exact ih seen
    | some check =>
      dsimp only
      split
      · exact .error _ _
      · have hfaithful : Faithful check := hknown _ (mem_of_field? hcheck)
        refine (hfaithful _ _ ⟨v, hv, hv'⟩).bind fun _ _ _ => ?_
        exact (ih _).bind fun _ _ hothers => .ok (.cons ⟨rfl, v, hv, hv'⟩ hothers)

/-- The items of a sequence are entries under the names of the fields. -/
theorem SameEntries.zip (names : List String) {items items' : List Document}
    (h : List.Forall₂ Same items items') : SameEntries (names.zip items) (names.zip items') := by
  induction h generalizing names with
  | nil => simp [SameEntries]
  | cons hitem _ ih =>
    cases names with
    | nil => exact .nil
    | cons name names => exact .cons ⟨rfl, hitem⟩ (ih names)

/-- A field of a structure has documents of the same value, or is not given. -/
theorem SameEntries.field? {entries entries' : List (String × Document)}
    (h : SameEntries entries entries') (name : String) :
    Option.Rel Same (Json.field? name entries) (Json.field? name entries') := by
  induction h with
  | nil => exact .none
  | @cons entry entry' _ _ hentry _ ih =>
    obtain ⟨hname, hvalue⟩ := hentry
    unfold Json.field?
    rw [hname]
    split
    · exact .some hvalue
    · exact ih

/-- A structure is assembled alike from what documents of the same value give of it. -/
def Uniform (assemble : Record → Except DecodeError α) : Prop :=
  ∀ r r', SameRecord r r' → SameOutcome Eq (assemble r) (assemble r')

/-- Nothing more is taken from the fields. -/
theorem done (x : Except DecodeError α) : Uniform fun _ => x := fun _ _ _ => .same x

/-- A field that has to be given is decoded alike, and what follows it. -/
theorem required {f : Field α} (h : Faithful f.decode) {next : α → Record → Except DecodeError β}
    (hnext : ∀ a, Uniform (next a)) : Uniform fun r => r.required f >>= fun a => next a r := by
  intro r r' hr
  refine SameOutcome.bind (r := Eq) ?_ fun a a' (he : a = a') => he ▸ hnext a r r' hr
  have hfield := SameEntries.field? hr.entries f.name
  unfold Record.required
  rw [hr.stop]
  generalize Json.field? f.name r.entries = d?, Json.field? f.name r'.entries = d'? at hfield
  cases hfield with
  | none => exact (SameOutcome.same _).bind fun _ _ _ => .error _ _
  | some hvalue => exact h _ _ hvalue

/-- A field that may be left out is decoded alike, and what follows it. -/
theorem optional {f : Field α} (h : Faithful f.decode) (default : α)
    {next : α → Record → Except DecodeError β} (hnext : ∀ a, Uniform (next a)) :
    Uniform fun r => r.optional f default >>= fun a => next a r := by
  intro r r' hr
  refine SameOutcome.bind (r := Eq) ?_ fun a a' (he : a = a') => he ▸ hnext a r r' hr
  have hfield := SameEntries.field? hr.entries f.name
  unfold Record.optional
  rw [hr.stop]
  generalize Json.field? f.name r.entries = d?, Json.field? f.name r'.entries = d'? at hfield
  cases hfield with
  | none => exact .same _
  | some hvalue => exact h _ _ hvalue

/-- A field is looked at alike. -/
theorem check {f : Field α} (h : Faithful f.decode) : Faithful f.check.2 := h.map fun _ => ()

/-- A structure whose fields are decoded alike, and which is assembled alike from fields that are. -/
theorem record (name : String) {known : List (String × Decoder Unit)}
    (hknown : ∀ check ∈ known, Faithful check.2) {assemble : Record → Except DecodeError α}
    (hassemble : Uniform assemble) :
    Faithful (record name known assemble) := fun _ _ hsame => by
  cases hsame.matches with
  | word | number | string => exact .error _ _
  | array hitems =>
    refine (SameOutcome.same _).bind fun _ _ _ => ?_
    dsimp only
    refine SameOutcome.bind (r := Eq) (hassemble _ _ ?_) fun a a' ha => ?_
    · exact ⟨SameEntries.zip _ hitems, rfl⟩
    · rw [ha, hitems.length_eq]
      split
      · exact .error _ _
      · exact .ok rfl
  | object hfields =>
    refine (SameOutcome.same _).bind fun _ _ _ => ?_
    refine (visit hknown hfields []).bind fun entries entries' hentries => ?_
    exact hassemble _ _ ⟨hentries, rfl⟩

/-! ## Descriptions -/

theorem condition : Faithful condition := (formOf _ _).bind _

theorem comparison : Faithful comparison := (triple string string (formOf _ _)).bind _

theorem orderKey : Faithful orderKey := (list string).bind _

theorem joinPair : Faithful joinPair := (triple string (parsed _) string).bind _

/-- A row is made of all fields of an object, and of nothing else. -/
theorem row : Faithful row := fun _ _ hsame => by
  obtain ⟨v, hv, hv'⟩ := hsame
  cases Document.strict_eq_ok.1 hv with
  | object hfields =>
    cases Document.strict_eq_ok.1 hv' with
    | object hfields' =>
      rw [Decoder.row, Decoder.row, Document.strictFields_eq_ok.2 hfields,
        Document.strictFields_eq_ok.2 hfields']
      exact .ok rfl
  | null | bool | number | text | array =>
    cases Document.strict_eq_ok.1 hv'
    exact .error _ _

/-! ### Fields of structures -/

theorem table : Faithful tableField.decode := string

theorem aliased : Faithful aliasField.decode := nullable string

theorem kind : Faithful kindField.decode := variant _

theorem on : Faithful onField.decode := list joinPair

theorem fields : Faithful fieldsField.decode := list string

theorem filter : Faithful filterField.decode := nullable condition

theorem orderBy : Faithful orderByField.decode := list orderKey

theorem groupBy : Faithful groupByField.decode := list string

theorem limit : Faithful limitField.decode := nullable count

theorem skip : Faithful skipField.decode := nullable count

theorem rows : Faithful rows := list row

theorem insertType : Faithful insertTypeField.decode := variant _

theorem set : Faithful setField.decode := row

theorem comparisons : Faithful comparisonsField.decode := list comparison

/-! ### Structures -/

theorem join : Faithful join :=
  record "Join" (by simp [kind.check, table.check, aliased.check, on.check])
    (kind.optional .plain fun _ => table.required fun _ => aliased.optional none fun _ =>
      on.required fun _ => done _)

theorem joins : Faithful joinField.decode := list join

theorem select : Faithful select :=
  record "QuerySpec" (by simp [table.check, aliased.check, fields.check, joins.check, filter.check,
      orderBy.check, groupBy.check, limit.check, skip.check])
    (table.required fun _ => aliased.optional none fun _ => fields.optional [] fun _ =>
      joins.optional [] fun _ => filter.optional none fun _ => orderBy.optional [] fun _ =>
      groupBy.optional [] fun _ => limit.optional none fun _ => skip.optional none fun _ => done _)

theorem insert : Faithful insert := by
  have hrows : Faithful rowsField.decode := rows
  exact record "InsertQuery" (by simp [table.check, hrows.check, insertType.check])
    (table.required fun _ => hrows.required fun _ =>
      insertType.optional .insertOrUpdate fun _ => done _)

theorem update : Faithful update :=
  record "UpdateQuery" (by simp [table.check, set.check, comparisons.check])
    (table.required fun _ => set.required fun _ => comparisons.optional [] fun _ => done _)

theorem delete : Faithful delete :=
  record "DeleteQuery" (by simp [table.check, filter.check])
    (table.required fun _ => filter.optional none fun _ => done _)

/-! ## Texts and values -/

/-- A text that denotes a value is decoded as the value is by a faithful decoder. -/
theorem ofText_eq_ok {decode : Decoder α} (h : Faithful decode) {text : String} {v : Json}
    (hdenotes : Json.Denotes text v) (hnesting : v.nesting ≤ Document.maxNesting)
    (hkeys : v.DistinctKeys) (a : α) : ofText decode text = .ok a ↔ ofValue decode v.collapse = .ok a := by
  obtain ⟨d, hread, hd⟩ := Document.read_of_denotes hdenotes hnesting
  have halike := h d (.ofJson v) ⟨v, hd, Document.strict_ofJson v⟩
  rw [Json.collapse_of_distinctKeys hkeys, ofText, ofValue, hread, ← halike.eq_ok_iff]
  constructor
  · intro ha
    obtain ⟨a', ha', he⟩ := bind_eq_ok.1 ha
    cases he
    exact ha'
  · intro ha
    exact bind_eq_ok.2 ⟨a, ha, rfl⟩

end Faithful

/-- A text without repeated keys that is not nested too deep is decoded as the value that it denotes,
as a condition, a select, an insert, an update, a delete and as rows: where one of the two gives
something, so does the other, and it is the same. -/
theorem text_decoded_as_value {text : String} {v : Json} (h : Json.Denotes text v)
    (hnesting : v.nesting ≤ Document.maxNesting) (hkeys : v.DistinctKeys) :
    (∀ c, ofText condition text = .ok c ↔ ofValue condition v.collapse = .ok c) ∧
    (∀ s, ofText select text = .ok s ↔ ofValue select v.collapse = .ok s) ∧
    (∀ i, ofText insert text = .ok i ↔ ofValue insert v.collapse = .ok i) ∧
    (∀ u, ofText update text = .ok u ↔ ofValue update v.collapse = .ok u) ∧
    (∀ d, ofText delete text = .ok d ↔ ofValue delete v.collapse = .ok d) ∧
    ∀ l, ofText rows text = .ok l ↔ ofValue rows v.collapse = .ok l :=
  ⟨Faithful.condition.ofText_eq_ok h hnesting hkeys, Faithful.select.ofText_eq_ok h hnesting hkeys,
    Faithful.insert.ofText_eq_ok h hnesting hkeys, Faithful.update.ofText_eq_ok h hnesting hkeys,
    Faithful.delete.ofText_eq_ok h hnesting hkeys, Faithful.rows.ofText_eq_ok h hnesting hkeys⟩

/-- A select with an escaped letter, with white space and with a negative zero in its filter. -/
theorem text_decoded_as_value_of_select :
    let text := "\x7b\"table\" : \"\\u0074\",\"where\":[\"a\",\"=\",-0E+1]\x7d\n"
    let v : Json := .object [("table", .text "t"),
      ("where", .array [.text "a", .text "=", .number (.float (.zero true) (by decide))])]
    let s : Select := {
      table := "t"
      filter? := some (.compare ⟨"a", .eq, .single (.float (.zero true))⟩) }
    Json.Denotes text v ∧ v.nesting ≤ Document.maxNesting ∧ v.DistinctKeys ∧
      ofText select text = .ok s := by
  intro text v s
  have hselect : ofValue select v.collapse = .ok s := by cbv
  have hnesting : v.nesting ≤ Document.maxNesting := by decide
  have hkeys : v.DistinctKeys := by
    simp [v, Json.DistinctKeys, Json.FieldsDistinct, Json.ItemsDistinct]
  have hdenotes : Json.Denotes text v := by
    have htrailing : (Document.read text).2 = none := by cbv
    have hstrict : (Document.read text).1.strict = .ok v := by cbv
    exact (Document.denotes_iff hnesting).2 ⟨_, Prod.ext rfl htrailing, hstrict⟩
  have halike := text_decoded_as_value hdenotes hnesting hkeys
  exact ⟨hdenotes, hnesting, hkeys, (halike.2.1 s).2 hselect⟩

end Decoder

end RowQuery
