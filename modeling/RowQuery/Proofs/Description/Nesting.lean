import Mathlib
import RowQuery.Description.Change
import RowQuery.Proofs.Condition.Height
import RowQuery.Proofs.Description.Condition
import RowQuery.Proofs.Json.Fields
import RowQuery.Proofs.Json.Nesting

/-!
# Conditions from text are not too deep

A group is written as an array in an array, so a condition that is read from a value is at most half
as high as the value is nested (`Form.height_le_nesting`). The value of a text is nested no deeper
than its reader may go, which is less than twice the depth that is allowed for conditions: no
condition that comes from a text, alone or as the filter of a select or a delete, is refused for its
depth, while values and constructors reach that limit (`Decoder.text_not_too_deep`).
-/

namespace RowQuery

/-! ## Height and nesting -/

namespace Form

mutual

/-- A condition is at most half as high as its value is nested. -/
theorem height_le_nesting : ∀ (form : Form) {v : Json} {c : Condition},
    ofJson? v = some form → form.condition = .ok c → 2 * c.height ≤ v.nesting
  | form, v, c, hform, hc => by
    rcases ofJson?_eq_some hform with ⟨fields, rfl, hraw⟩ |
      ⟨column, operator, operand, o, rfl, -, rfl⟩ | ⟨conjunction, members, forms, rfl, hforms, rfl⟩
    · obtain ⟨sql, values, rfl⟩ := exists_of_raw?_eq_some hraw
      cases hc
      exact Nat.zero_le _
    · obtain ⟨op, -, hc⟩ := bind_eq_ok.1 hc
      cases hc
      exact Nat.zero_le _
    · obtain ⟨conj, -, hc⟩ := bind_eq_ok.1 hc
      obtain ⟨children, hchildren, hc⟩ := bind_eq_ok.1 hc
      cases hc
      have hmembers := memberHeight_le_nesting forms hforms hchildren
      simp only [Json.nesting, Json.nestingOfItems, Condition.height]
      omega
termination_by form => sizeOf form

/-- The members of a group are at most half as high as the array of their values is nested. -/
theorem memberHeight_le_nesting : ∀ (forms : List Form) {members : List Json}
    {children : List Condition}, ofItems? members = some forms → conditions forms = .ok children →
    2 * Condition.memberHeight children ≤ Json.nestingOfItems members + 2
  | [], members, children, _, hchildren => by
    cases hchildren
    exact Nat.zero_le _
  | form :: forms, [], children, hforms, _ => by cases hforms
  | form :: forms, v :: members, children, hforms, hchildren => by
    obtain ⟨_, _, hform, hrest, he⟩ := ofItems?_eq_some hforms
    cases he
    obtain ⟨c, hc, hchildren⟩ := bind_eq_ok.1 hchildren
    obtain ⟨rest, hconditions, hchildren⟩ := bind_eq_ok.1 hchildren
    cases hchildren
    have hhead := height_le_nesting form hform hc
    have htail := memberHeight_le_nesting forms hrest hconditions
    simp only [Json.nestingOfItems, Condition.memberHeight]
    omega
termination_by forms => sizeOf forms

end

end Form

namespace Decoder

open Document (Within)

/-- A condition that is read within a room is at most half as high as the room. -/
theorem height_le_of_within {d : Document} {room : Nat} {c : Condition} (hroom : d.Within room)
    (h : condition d = .ok c) : 2 * c.height ≤ room := by
  obtain ⟨form, hform, hc⟩ := bind_eq_ok.1 h
  obtain ⟨v, hv, hform⟩ := bind_eq_ok.1 hform
  have hjson : Form.ofJson? v = some form := by
    cases hf : Form.ofJson? v with
    | none =>
      rw [hf] at hform
      cases hform
    | some form' =>
      rw [hf] at hform
      cases hform
      rfl
  have hnesting := Document.nesting_le_of_strict hroom (mapError_eq_ok.1 hv)
  exact Nat.le_trans (form.height_le_nesting hjson (mapError_eq_ok.1 hc)) hnesting

/-! ## Fields of structures -/

/-- The fields of a structure are among those that a document gives. -/
theorem mem_of_visit {known : List (String × Decoder Unit)} {seen : List String}
    {fields : List (Document × Document)} {entries : List (String × Document)}
    (h : visit known seen fields = .ok entries) :
    ∀ entry ∈ entries, entry.2 ∈ fields.map Prod.snd := by
  induction fields generalizing seen entries with
  | nil =>
    cases h
    exact fun entry hentry => absurd hentry List.not_mem_nil
  | cons field fields ih =>
    obtain ⟨k, d⟩ := field
    rw [visit] at h
    obtain ⟨name, -, h⟩ := bind_eq_ok.1 h
    cases hknown : Json.field? name known with
    | none =>
      rw [hknown] at h
      obtain ⟨-, -, h⟩ := bind_eq_ok.1 h
      exact fun entry hentry => List.mem_cons_of_mem _ (ih h entry hentry)
    | some check =>
      rw [hknown] at h
      dsimp only at h
      split at h
      · cases h
      · obtain ⟨-, -, h⟩ := bind_eq_ok.1 h
        obtain ⟨others, hothers, h⟩ := bind_eq_ok.1 h
        cases h
        intro entry hentry
        rcases List.mem_cons.1 hentry with rfl | hentry
        · exact List.mem_cons_self
        · exact List.mem_cons_of_mem _ (ih hothers entry hentry)

/-- A structure is assembled from parts of its document. -/
theorem exists_record {α : Type} {name : String} {known : List (String × Decoder Unit)}
    {assemble : Record → Except DecodeError α} {d : Document} {a : α}
    (h : record name known assemble d = .ok a) :
    ∃ r : Record, assemble r = .ok a ∧ ∀ entry ∈ r.entries, entry.2 ∈ d.parts := by
  cases d with
  | object tooDeep fields stop =>
    obtain ⟨-, -, h⟩ := bind_eq_ok.1 h
    obtain ⟨entries, hentries, h⟩ := bind_eq_ok.1 h
    obtain ⟨-, -, h⟩ := bind_eq_ok.1 h
    exact ⟨_, h, mem_of_visit hentries⟩
  | array tooDeep items stop =>
    obtain ⟨-, -, h⟩ := bind_eq_ok.1 h
    obtain ⟨a', ha, h⟩ := bind_eq_ok.1 h
    dsimp only at h
    split at h
    · cases h
    · obtain ⟨-, -, h⟩ := bind_eq_ok.1 h
      cases h
      exact ⟨_, ha, fun entry hentry => (List.of_mem_zip hentry).2⟩
  | nothing | word | number | string => cases h

/-- A filter of a structure is the condition of one of its parts. -/
theorem exists_condition_of_filterField {r : Record} {filter? : Option Condition}
    (h : r.optional filterField none = .ok filter?) {c : Condition} (hc : c ∈ filter?) :
    ∃ entry ∈ r.entries, condition entry.2 = .ok c := by
  obtain rfl : filter? = some c := hc
  unfold Record.optional at h
  split at h
  · next d hd =>
    refine ⟨_, mem_of_field? hd, ?_⟩
    change nullable condition d = _ at h
    unfold nullable at h
    split at h
    · cases h
    · obtain ⟨_, hcondition, hc⟩ := map_eq_ok.1 h
      cases hc
      exact hcondition
  · obtain ⟨-, -, h⟩ := bind_eq_ok.1 h
    cases h

/-- The filter of a select is the condition of one of the parts of its document. -/
theorem exists_condition_of_select {d : Document} {s : Select} (h : select d = .ok s)
    {c : Condition} (hc : c ∈ s.filter?) : ∃ part ∈ d.parts, condition part = .ok c := by
  obtain ⟨r, hr, hparts⟩ := exists_record h
  obtain ⟨table, -, hr⟩ := bind_eq_ok.1 hr
  obtain ⟨alias?, -, hr⟩ := bind_eq_ok.1 hr
  obtain ⟨fields, -, hr⟩ := bind_eq_ok.1 hr
  obtain ⟨joins, -, hr⟩ := bind_eq_ok.1 hr
  obtain ⟨filter?, hfilter, hr⟩ := bind_eq_ok.1 hr
  obtain ⟨orderBy, -, hr⟩ := bind_eq_ok.1 hr
  obtain ⟨groupBy, -, hr⟩ := bind_eq_ok.1 hr
  obtain ⟨limit?, -, hr⟩ := bind_eq_ok.1 hr
  obtain ⟨skip?, -, hr⟩ := bind_eq_ok.1 hr
  cases hr
  obtain ⟨entry, hentry, hcondition⟩ := exists_condition_of_filterField hfilter hc
  exact ⟨entry.2, hparts entry hentry, hcondition⟩

/-- The filter of a delete is the condition of one of the parts of its document. -/
theorem exists_condition_of_delete {d : Document} {delete : Delete}
    (h : Decoder.delete d = .ok delete) {c : Condition} (hc : c ∈ delete.filter?) :
    ∃ part ∈ d.parts, condition part = .ok c := by
  obtain ⟨r, hr, hparts⟩ := exists_record h
  obtain ⟨table, -, hr⟩ := bind_eq_ok.1 hr
  obtain ⟨filter?, hfilter, hr⟩ := bind_eq_ok.1 hr
  cases hr
  obtain ⟨entry, hentry, hcondition⟩ := exists_condition_of_filterField hfilter hc
  exact ⟨entry.2, hparts entry hentry, hcondition⟩

/-! ## Texts -/

/-- What is decoded from a text is decoded from its document. -/
theorem decode_read_of_ofText {α : Type} {decode : Decoder α} {text : String} {a : α}
    (h : ofText decode text = .ok a) : decode (Document.read text).1 = .ok a := by
  obtain ⟨a', ha, h⟩ := bind_eq_ok.1 h
  obtain ⟨-, -, h⟩ := bind_eq_ok.1 h
  cases h
  exact ha

/-- A condition that is read within the room of a text is not too high. -/
theorem height_le_maxDepth {d : Document} {room : Nat} (hroom : d.Within room)
    (hmax : room ≤ Document.maxNesting) {c : Condition} (h : condition d = .ok c) :
    c.height ≤ Condition.maxDepth := by
  have hheight := height_le_of_within hroom h
  unfold Document.maxNesting at hmax
  unfold Condition.maxDepth
  omega

/-- A condition of a part of the document of a text is not too high. -/
theorem height_le_of_part {text : String} {part : Document}
    (hpart : part ∈ (Document.read text).1.parts) {c : Condition} (h : condition part = .ok c) :
    c.height ≤ Condition.maxDepth :=
  height_le_maxDepth ((Document.within_readWithin Document.maxNesting text).parts part hpart)
    (Nat.sub_le _ 1) h

end Decoder

namespace Condition

/-- A comparison in so many groups of one member each. -/
def nested : Nat → Condition
  | 0 => isNull "a"
  | n + 1 => .group .and [nested n]

/-- JSON can write a comparison in however many groups. -/
theorem finite_nested (n : Nat) : (nested n).Finite := by
  have hleaves : (nested n).leaves = [.compare ⟨"a", .is, .single .null⟩] := by
    induction n with
    | zero => rfl
    | succ n ih => rw [nested, leaves_group, List.flatMap_singleton, ih]
  intro leaf hleaf v hv
  rw [hleaves, List.mem_singleton] at hleaf
  subst hleaf
  obtain rfl : v = .null := List.mem_singleton.1 hv
  trivial

/-- In more groups than are allowed a comparison stands too deep. -/
theorem firstFault?_nested (leafFault? : Leaf → Option QueryError) {n depth : Nat}
    (h : maxDepth < depth + n) :
    (nested n).firstFault? leafFault? depth = some (.conditionTooDeep maxDepth) := by
  induction n generalizing depth with
  | zero => exact (firstFault?_leaf (.compare _)).trans (if_pos h)
  | succ n ih =>
    rw [nested, firstFault?_group]
    split
    · rfl
    · rw [List.findSome?_singleton]
      exact ih (by omega)

end Condition

/-- No condition that comes from a text, alone or as the filter of a select or a delete, is refused
for its depth, neither as SQL nor on rows. There are values from which a condition comes that is. -/
theorem Decoder.text_not_too_deep :
    (∀ text c, ofText condition text = .ok c →
      FailsOnly QueryError.NotTooDeep (c.fragment 0) ∧
      (∀ row, FailsOnly QueryError.NotTooDeep (c.holds row)) ∧
      ∀ s : Select, s.filter? = some c → FailsOnly QueryError.NotTooDeep s.statement ∧
        ∀ rows, FailsOnly QueryError.NotTooDeep (s.answer rows)) ∧
    (∀ text s, ofText select text = .ok s → FailsOnly QueryError.NotTooDeep s.statement ∧
      ∀ rows, FailsOnly QueryError.NotTooDeep (s.answer rows)) ∧
    (∀ text d, ofText delete text = .ok d → FailsOnly QueryError.NotTooDeep d.statement ∧
      ∀ s : Select, s.filter? = d.filter? → ∀ rows, FailsOnly QueryError.NotTooDeep (s.answer rows)) ∧
    ∃ v c, ofValue condition v = .ok c ∧
      c.fragment 0 = .error (.conditionTooDeep Condition.maxDepth) ∧
      ∀ row, c.holds row = .error (.conditionTooDeep Condition.maxDepth) := by
  refine ⟨fun text c h => ?_, fun text s h => ?_, fun text d h => ?_, ?_⟩
  · have hread := decode_read_of_ofText h
    have hlow : c.height ≤ Condition.maxDepth :=
      height_le_maxDepth (Document.within_readWithin _ text) (Nat.le_refl _) hread
    refine ⟨Condition.failsOnly_fragment (by rwa [Nat.zero_add]), Condition.failsOnly_holds hlow,
      fun s hs => ?_⟩
    have hfilter : ∀ c' ∈ s.filter?, c'.height ≤ Condition.maxDepth := by
      rintro c' hc'
      rw [hs] at hc'
      cases hc'
      exact hlow
    exact ⟨Select.failsOnly_statement hfilter, Select.failsOnly_answer hfilter⟩
  · have hfilter : ∀ c ∈ s.filter?, c.height ≤ Condition.maxDepth := fun c hc => by
      obtain ⟨part, hpart, hcondition⟩ := exists_condition_of_select (decode_read_of_ofText h) hc
      exact height_le_of_part hpart hcondition
    exact ⟨Select.failsOnly_statement hfilter, Select.failsOnly_answer hfilter⟩
  · have hfilter : ∀ c ∈ d.filter?, c.height ≤ Condition.maxDepth := fun c hc => by
      obtain ⟨part, hpart, hcondition⟩ := exists_condition_of_delete (decode_read_of_ofText h) hc
      exact height_le_of_part hpart hcondition
    exact ⟨Delete.failsOnly_statement hfilter, fun s hs => Select.failsOnly_answer (hs ▸ hfilter)⟩
  · let c := Condition.nested (Condition.maxDepth + 1)
    obtain ⟨form, hform, hc⟩ := Condition.exists_form (c := c) (Condition.finite_nested _)
    have hdeep : Condition.maxDepth < 0 + (Condition.maxDepth + 1) := by omega
    refine ⟨c.toJson, c, ?_, ?_, fun row => ?_⟩
    · rw [Condition.ofValue_condition, hform]
      exact mapError_eq_ok.2 hc
    · exact (Condition.reports_fragment (fun leaf _ => .failure? _) _).2
        (Condition.firstFault?_nested _ hdeep)
    · have hevaluate : c.evaluate row 0 = .error (.conditionTooDeep Condition.maxDepth) :=
        (Condition.reports_evaluate (fun leaf _ => .failure? _) _).2
          (Condition.firstFault?_nested _ hdeep)
      rw [Condition.holds, hevaluate]
      rfl

/-- A group in a group, from a text with white space and an escape, is not too deep. -/
theorem Decoder.text_not_too_deep_of_group :
    let text := "[ \"or\", [[\"AND\", [[\"\\u0061\", \"=\", 1]]], [\"b\", \"IS\", null]] ]"
    let c : Condition := .group .or [.group .and [.equal "a" (.int 1)], .isNull "b"]
    ofText condition text = .ok c ∧ FailsOnly QueryError.NotTooDeep (c.fragment 0) := by
  intro text c
  have h : ofText condition text = .ok c := by cbv
  exact ⟨h, (text_not_too_deep.1 text c h).1⟩

end RowQuery
