import Mathlib
import RowQuery.Proofs.Select.Fields
import RowQuery.Proofs.Select.Order

/-!
# What an answer is

`Select.Reference s rows out` says what the answer of a description is by the places of the rows:
the places that lead (`Select.Leads`: their rows match, and no earlier one of their group does) in
the order in which they precede each other (`Select.Precedes`), cut to a window, and for each the
row that is shown. There is one such answer (`Select.Reference.unique`).

`Select.answer` works in phases, each on all rows that the one before leaves. Each phase on the rows
at some places leaves the rows at some of these places, and so the answer is the reference
(`Select.answer_eq_reference`).
-/

namespace RowQuery

/-! ## The reference -/

/-- Rows with the same texts in some columns. -/
def Row.SameTexts (columns : List String) (row row' : Row) : Prop :=
  ∀ c ∈ columns, (row.get? c).map Json.compact = (row'.get? c).map Json.compact

namespace Select

/-- The row at a place matches: the filter holds of it, and without a filter every row does. -/
def Matches (s : Select) (rows : List Row) (i : Fin rows.length) : Prop :=
  ∀ c ∈ s.filter?, c.holds (rows.get i) = .ok true

/-- The row at a place matches and, if rows are grouped, no row before it does that has the same
texts in the grouping columns. -/
def Leads (s : Select) (rows : List Row) (i : Fin rows.length) : Prop :=
  s.Matches rows i ∧ (s.groupBy ≠ [] → ∀ j < i, s.Matches rows j →
    ¬ Row.SameTexts s.groupBy (rows.get j) (rows.get i))

/-- A place comes before another when the first sort key that tells their rows apart says so, and
when none does, in the order of places. -/
def Precedes (s : Select) (rows : List Row) (i j : Fin rows.length) : Prop :=
  Row.order? s.orderBy (rows.get i) (rows.get j) = some .lt ∨
    Row.order? s.orderBy (rows.get i) (rows.get j) = some .eq ∧ i < j

/-- The answer by the places of the rows: those that lead, in order, without the first `skip` and at
most `limit` of them, and of each what is shown of its row. -/
def Reference (s : Select) (rows out : List Row) : Prop :=
  ∃ places : List (Fin rows.length),
    (∀ i, i ∈ places ↔ s.Leads rows i) ∧ places.Pairwise (s.Precedes rows) ∧
    List.Forall₂ (fun i shown => (rows.get i).Shows s.fields shown)
      ((places.drop (s.skip?.getD 0).toNat).take ((s.limit?.map UInt64.toNat).getD places.length))
      out

/-- Of two places at most one comes before the other. -/
theorem Precedes.asymm {s : Select} {rows : List Row} {i j : Fin rows.length}
    (h : s.Precedes rows i j) : ¬ s.Precedes rows j i := by
  rw [Precedes, Row.order?_swap s.orderBy (rows.get i) (rows.get j)]
  rcases h with h | ⟨h, hlt⟩
  · rw [h]
    simp
  · rw [h]
    simp [Fin.le_of_lt hlt]

/-- Places in order are different. -/
theorem nodup_of_precedes {s : Select} {rows : List Row} {places : List (Fin rows.length)}
    (h : places.Pairwise (s.Precedes rows)) : places.Nodup :=
  h.imp fun hij heq => (heq ▸ hij).asymm (heq ▸ hij)

/-- The same places in order are the same list. -/
theorem eq_of_precedes {s : Select} {rows : List Row} {places places' : List (Fin rows.length)}
    (h : places.Pairwise (s.Precedes rows)) (h' : places'.Pairwise (s.Precedes rows))
    (hmem : ∀ i, i ∈ places ↔ i ∈ places') : places = places' := by
  have hperm : places.Perm places' :=
    (List.perm_ext_iff_of_nodup (nodup_of_precedes h) (nodup_of_precedes h')).2 hmem
  exact hperm.eq_of_pairwise (fun _ _ _ _ hij hji => absurd hji hij.asymm) h h'

/-- There is one reference answer. -/
theorem Reference.unique {s : Select} {rows out out' : List Row} (h : s.Reference rows out)
    (h' : s.Reference rows out') : out = out' := by
  obtain ⟨places, hmem, hpairwise, hout⟩ := h
  obtain ⟨places', hmem', hpairwise', hout'⟩ := h'
  obtain rfl : places = places' :=
    eq_of_precedes hpairwise hpairwise' fun i => (hmem i).trans (hmem' i).symm
  have hright : Relator.RightUnique fun i shown => (rows.get i).Shows s.fields shown :=
    fun _ _ _ => Row.Shows.unique
  exact hright.forall₂ hout hout'

/-! ## Phases -/

variable {s : Select} {rows : List Row}

/-- A step beside every element, when the step has a known result wherever it has one. -/
theorem mapM_pair_eq_ok {ε α β : Type} {f : α → Except ε β} {g : α → β} {l : List α}
    {r : List (β × α)} (hg : ∀ a b, f a = .ok b → g a = b)
    (h : l.mapM (fun a => (f a).map (·, a)) = .ok r) :
    l.map (fun a => (g a, a)) = r ∧ ∀ a ∈ l, f a = .ok (g a) := by
  have hpair (a : α) (p : β × α) (hp : (f a).map (·, a) = .ok p) : (g a, a) = p := by
    obtain ⟨b, hb, rfl⟩ := map_eq_ok.1 hp
    rw [hg a b hb]
  obtain ⟨hr, hsteps⟩ := mapM_eq_map h hpair
  refine ⟨hr, fun a ha => ?_⟩
  obtain ⟨b, hb, -⟩ := map_eq_ok.1 (hsteps a ha)
  rw [hb, hg a b hb]

/-- A filter keeps the rows that it holds of, and without a filter every row is kept. -/
theorem keeps_eq_true {filter? : Option Condition} {row : Row} :
    Condition.keeps filter? row = .ok true ↔ ∀ c ∈ filter?, c.holds row = .ok true := by
  cases filter? <;> simp [Condition.keeps]

/-- Whether a filter keeps a row, and not merely fails on it. -/
def matched (filter? : Option Condition) (row : Row) : Bool :=
  Condition.keeps filter? row matches .ok true

/-- A row is matched when the filter holds of it. -/
theorem matched_iff {filter? : Option Condition} {row : Row} :
    matched filter? row ↔ ∀ c ∈ filter?, c.holds row = .ok true := by
  rw [← keeps_eq_true]
  unfold matched
  cases Condition.keeps filter? row with
  | error => simp
  | ok keep => cases keep <;> simp

/-- The filter leaves the rows that match. -/
theorem filtered_eq {filter? : Option Condition} {rows kept : List Row}
    (h : filtered filter? rows = .ok kept) : kept = rows.filter (matched filter?) := by
  induction rows generalizing kept with
  | nil =>
    cases h
    rfl
  | cons row rows ih =>
    rw [filtered, bind_eq_ok] at h
    obtain ⟨keep, hkeep, h⟩ := h
    obtain ⟨rest, hrest, h⟩ := bind_eq_ok.1 h
    cases h
    rw [List.filter_cons, matched, hkeep]
    cases keep
    · exact ih hrest
    · rw [if_pos rfl, if_pos rfl, ih hrest]

/-- The first of each group of images are the images of the first of each group. -/
theorem firstOfEach_map {κ α β : Type} [BEq κ] (f : α → β) (seen : List κ) (l : List (κ × α)) :
    firstOfEach seen (l.map fun a => (a.1, f a.2)) = (firstOfEach seen l).map f := by
  induction l generalizing seen with
  | nil => rfl
  | cons a l ih =>
    rw [List.map_cons, firstOfEach, firstOfEach]
    split
    · exact ih seen
    · rw [List.map_cons, ih]

/-- The first of each group are some of the elements, in their order. -/
theorem firstOfEach_sublist {κ α : Type} [BEq κ] (key : α → κ) (seen : List κ) (l : List α) :
    (firstOfEach seen (l.map fun a => (key a, a))).Sublist l := by
  induction l generalizing seen with
  | nil => exact .slnil
  | cons a l ih =>
    rw [List.map_cons, firstOfEach]
    split
    · exact (ih seen).cons a
    · exact (ih _).cons_cons a

/-- An element of an ascending list is the first of its group when its key has not been seen and is
that of no lesser element. -/
theorem mem_firstOfEach {κ α : Type} [BEq κ] [LawfulBEq κ] [LinearOrder α] {key : α → κ}
    {seen : List κ} {l : List α} (hl : l.Pairwise (· < ·)) {a : α} :
    a ∈ firstOfEach seen (l.map fun a => (key a, a)) ↔
      a ∈ l ∧ key a ∉ seen ∧ ∀ b ∈ l, b < a → key b ≠ key a := by
  induction l generalizing seen with
  | nil => simp [firstOfEach]
  | cons x l ih =>
    rw [List.pairwise_cons] at hl
    rw [List.map_cons, firstOfEach]
    by_cases hx : key x ∈ seen
    · rw [if_pos (by simpa using hx), ih hl.2]
      constructor
      · rintro ⟨ha, hseen, hfirst⟩
        exact ⟨List.mem_cons_of_mem x ha, hseen,
          List.forall_mem_cons.2 ⟨fun _ he => hseen (he ▸ hx), hfirst⟩⟩
      · rintro ⟨ha, hseen, hfirst⟩
        exact ⟨(List.mem_cons.1 ha).resolve_left fun he => hseen (he ▸ hx), hseen,
          (List.forall_mem_cons.1 hfirst).2⟩
    · rw [if_neg (by simpa using hx), List.mem_cons, ih hl.2]
      constructor
      · rintro (rfl | ⟨ha, hseen, hfirst⟩)
        · exact ⟨List.mem_cons_self, hx, List.forall_mem_cons.2
            ⟨fun hlt => absurd hlt (lt_irrefl a), fun b hb hlt => absurd hlt (hl.1 b hb).asymm⟩⟩
        · rw [List.mem_cons, not_or] at hseen
          exact ⟨List.mem_cons_of_mem x ha, hseen.2,
            List.forall_mem_cons.2 ⟨fun _ he => hseen.1 he.symm, hfirst⟩⟩
      · rintro ⟨ha, hseen, hfirst⟩
        rw [List.forall_mem_cons] at hfirst
        refine (List.mem_cons.1 ha).imp_right fun ha => ⟨ha, ?_, hfirst.2⟩
        rw [List.mem_cons, not_or]
        exact ⟨Ne.symm (hfirst.1 (hl.1 a ha)), hseen⟩

/-- The texts a row is grouped by, with none for a cell that is not there. -/
def groupTexts (columns : List String) (row : Row) : List String :=
  columns.map fun c => ((row.get? c).map Json.compact).getD ""

/-- What a row is grouped by are the texts of its cells. -/
theorem groupKey_eq_ok {columns : List String} {row : Row} {key : List String}
    (h : row.groupKey columns = .ok key) :
    groupTexts columns row = key ∧ ∀ c ∈ columns, (row.get? c).isSome := by
  obtain ⟨htexts, hcells⟩ := mapM_eq_map
      (g := fun c => ((row.get? c).map Json.compact).getD "") h fun c text hc => by
    split at hc
    · next v hv =>
      cases hc
      rw [hv]
      rfl
    · cases hc
  refine ⟨htexts, fun c hc => ?_⟩
  have hcell := hcells c hc
  split at hcell
  · next v hv => rw [hv, Option.isSome_some]
  · cases hcell

/-- Rows whose cells are there are grouped together when they have the same texts. -/
theorem groupTexts_inj {columns : List String} {row row' : Row} {key key' : List String}
    (h : row.groupKey columns = .ok key) (h' : row'.groupKey columns = .ok key') :
    groupTexts columns row = groupTexts columns row' ↔ Row.SameTexts columns row row' := by
  have hrow := (groupKey_eq_ok h).2
  have hrow' := (groupKey_eq_ok h').2
  rw [groupTexts, groupTexts, List.map_inj_left]
  refine forall₂_congr fun c hc => ?_
  obtain ⟨v, hv⟩ := Option.isSome_iff_exists.1 (hrow c hc)
  obtain ⟨v', hv'⟩ := Option.isSome_iff_exists.1 (hrow' c hc)
  rw [hv, hv']
  simp

/-- Grouping leaves the rows at the first places of the groups. -/
theorem grouped_places {columns : List String} {places : List (Fin rows.length)}
    (hplaces : places.Pairwise (· < ·)) {firsts : List Row}
    (h : grouped columns (places.map rows.get) = .ok firsts) :
    ∃ first : List (Fin rows.length), firsts = first.map rows.get ∧ first.Pairwise (· < ·) ∧
      ∀ i, i ∈ first ↔ i ∈ places ∧
        (columns ≠ [] → ∀ j ∈ places, j < i →
          ¬ Row.SameTexts columns (rows.get j) (rows.get i)) := by
  unfold grouped at h
  by_cases hcolumns : columns = []
  · rw [if_pos (List.isEmpty_iff.2 hcolumns)] at h
    cases h
    exact ⟨places, rfl, hplaces, fun i => ⟨fun hi => ⟨hi, fun hne => absurd hcolumns hne⟩, And.left⟩⟩
  rw [if_neg (by simpa using hcolumns)] at h
  obtain ⟨keyed, hkeyed, h⟩ := bind_eq_ok.1 h
  cases h
  obtain ⟨rfl, hkeys⟩ := mapM_pair_eq_ok (fun _ _ h => (groupKey_eq_ok h).1) hkeyed
  let key (i : Fin rows.length) : List String := groupTexts columns (rows.get i)
  have hkey : ∀ i ∈ places, (rows.get i).groupKey columns = .ok (key i) := fun i hi =>
    hkeys _ (List.mem_map_of_mem hi)
  refine ⟨firstOfEach [] (places.map fun i => (key i, i)), ?_,
    hplaces.sublist (firstOfEach_sublist key [] places), fun i => ?_⟩
  · rw [← firstOfEach_map, List.map_map, List.map_map]
    rfl
  · rw [mem_firstOfEach hplaces]
    constructor
    · rintro ⟨hi, -, hfirst⟩
      exact ⟨hi, fun _ j hj hlt hsame =>
        hfirst j hj hlt ((groupTexts_inj (hkey j hj) (hkey i hi)).2 hsame)⟩
    · rintro ⟨hi, hfirst⟩
      exact ⟨hi, List.not_mem_nil, fun j hj hlt hsame =>
        hfirst hcolumns j hj hlt ((groupTexts_inj (hkey j hj) (hkey i hi)).1 hsame)⟩

/-- Sorting leaves the rows at the same places, in the order in which they precede each other. -/
theorem sorted_places {places : List (Fin rows.length)} (hplaces : places.Pairwise (· < ·))
    {ordered : List Row} (h : sorted s.orderBy (places.map rows.get) = .ok ordered) :
    ∃ order : List (Fin rows.length), ordered = order.map rows.get ∧ order.Perm places ∧
      order.Pairwise (s.Precedes rows) := by
  unfold sorted at h
  by_cases hkeys : s.orderBy = []
  · rw [if_pos (List.isEmpty_iff.2 hkeys)] at h
    cases h
    exact ⟨places, rfl, .refl places, hplaces.imp fun hlt => .inr ⟨by rw [hkeys]; rfl, hlt⟩⟩
  rw [if_neg (by simpa using hkeys)] at h
  obtain ⟨keyed, hkeyed, h⟩ := bind_eq_ok.1 h
  cases h
  obtain ⟨rfl, hcells⟩ := mapM_pair_eq_ok (fun _ _ h => Row.cellsOrNull_of_orderCells h) hkeyed
  let cells (i : Fin rows.length) : List Scalar := (rows.get i).cellsOrNull s.orderBy
  let cmp (i j : Fin rows.length) : Ordering := compareCells s.orderBy (cells i) (cells j)
  have hcmp : Std.TransCmp cmp :=
    { eq_swap := (transCmp_compareCells s.orderBy).eq_swap
      isLE_trans := (transCmp_compareCells s.orderBy).isLE_trans }
  have hperm := List.mergeSort_perm places fun i j => cmp i j != .gt
  refine ⟨places.mergeSort fun i j => cmp i j != .gt, ?_, hperm, ?_⟩
  · have hmap : (places.mergeSort fun i j => cmp i j != .gt).map (fun i => (cells i, rows.get i)) =
        (places.map fun i => (cells i, rows.get i)).mergeSort
          fun a b => compareCells s.orderBy a.1 b.1 != .gt :=
      List.map_mergeSort fun _ _ _ _ => rfl
    rw [List.map_map]
    refine (congrArg (List.map Prod.snd) hmap.symm).trans ?_
    rw [List.map_map]
    rfl
  · refine (pairwise_mergeSort_of_pairwise cmp hplaces).imp_of_mem fun {i j} hi hj hij => ?_
    have hcell : ∀ i ∈ places, (rows.get i).orderCells s.orderBy = .ok (cells i) := fun i hi =>
      hcells _ (List.mem_map_of_mem hi)
    rw [Precedes, Row.order?_eq_some (hcell i (hperm.subset hi)) (hcell j (hperm.subset hj))]
    exact hij.imp (congrArg some) (And.imp_left (congrArg some))

/-- Filtering leaves the rows at the places whose rows match. -/
theorem kept_places {kept : List Row} (hkept : filtered s.filter? rows = .ok kept) :
    ∃ matching : List (Fin rows.length), kept = matching.map rows.get ∧
      matching.Pairwise (· < ·) ∧
      ∀ i, i ∈ matching ↔ s.Matches rows i := by
  have hmatching : kept = ((List.finRange rows.length).filter
      fun i => matched s.filter? (rows.get i)).map rows.get := by
    calc kept = rows.filter (matched s.filter?) := filtered_eq hkept
      _ = ((List.finRange rows.length).map rows.get).filter (matched s.filter?) := by
        rw [List.map_get_finRange]
      _ = _ := List.filter_map
  refine ⟨_, hmatching, (List.pairwise_lt_finRange rows.length).filter _, fun i => ?_⟩
  rw [List.mem_filter, matched_iff]
  exact and_iff_right (List.mem_finRange i)

/-- Filtering and grouping leave the rows at the places that lead. -/
theorem first_places {kept firsts : List Row} (hkept : filtered s.filter? rows = .ok kept)
    (hfirsts : grouped s.groupBy kept = .ok firsts) :
    ∃ leaders : List (Fin rows.length), firsts = leaders.map rows.get ∧
      leaders.Pairwise (· < ·) ∧ ∀ i, i ∈ leaders ↔ s.Leads rows i := by
  obtain ⟨matching, rfl, hascending, hmatching⟩ := kept_places hkept
  obtain ⟨leaders, rfl, hleaders, hmem⟩ := grouped_places hascending hfirsts
  refine ⟨leaders, rfl, hleaders, fun i => ?_⟩
  rw [hmem, Leads, hmatching]
  simp only [hmatching]
  exact and_congr_right fun _ => imp_congr_right fun _ => forall_congr' fun j => imp.swap

/-- The phases before the window leave the rows at the places that lead, in the order in which they
precede each other. -/
theorem ordered_places {kept firsts ordered : List Row}
    (hkept : filtered s.filter? rows = .ok kept) (hfirsts : grouped s.groupBy kept = .ok firsts)
    (hordered : sorted s.orderBy firsts = .ok ordered) :
    ∃ places : List (Fin rows.length), ordered = places.map rows.get ∧
      (∀ i, i ∈ places ↔ s.Leads rows i) ∧ places.Pairwise (s.Precedes rows) := by
  obtain ⟨leaders, rfl, hascending, hleaders⟩ := first_places hkept hfirsts
  obtain ⟨places, rfl, hperm, hprecedes⟩ := sorted_places hascending hordered
  exact ⟨places, rfl, fun i => hperm.mem_iff.trans (hleaders i), hprecedes⟩

/-- No phase before the window adds a row. -/
theorem ordered_length_le {kept firsts ordered : List Row}
    (hkept : filtered s.filter? rows = .ok kept) (hfirsts : grouped s.groupBy kept = .ok firsts)
    (hordered : sorted s.orderBy firsts = .ok ordered) : ordered.length ≤ rows.length := by
  obtain ⟨places, rfl, -, hprecedes⟩ := ordered_places hkept hfirsts hordered
  have hsubperm := List.subperm_of_subset (nodup_of_precedes hprecedes) fun i _ =>
    List.mem_finRange i
  simpa only [List.length_map, List.length_finRange] using hsubperm.length_le

/-! ## The answer -/

/-- A window cuts what stands before its offset, and what stands behind as many rows as its
limit. -/
theorem window_eq {α : Type} (skip? limit? : Option UInt64) (l : List α) :
    window skip? limit? l = (l.drop (skip?.getD 0).toNat).take
      ((limit?.map UInt64.toNat).getD l.length) := by
  unfold window
  cases limit? with
  | none =>
    have hlength : (l.drop (skip?.getD 0).toNat).length ≤ l.length := by simp
    rw [Option.map_none, Option.getD_none, List.take_of_length_le hlength]
  | some limit => rfl

/-- A window of images are the images of a window. -/
theorem window_map {α β : Type} (skip? limit? : Option UInt64) (f : α → β) (l : List α) :
    window skip? limit? (l.map f) = (window skip? limit? l).map f := by
  simp only [window_eq, List.length_map, List.map_take, List.map_drop]

/-- A window is a part of the list. -/
theorem window_sublist {α : Type} (skip? limit? : Option UInt64) (l : List α) :
    (window skip? limit? l).Sublist l := by
  rw [window_eq]
  exact (List.take_sublist _ _).trans (List.drop_sublist _ _)

/-- The phases of a select without joins. -/
theorem answer_of_joins_nil (hjoins : s.joins = []) (rows : List Row) :
    s.answer rows = (do
      let kept ← filtered s.filter? rows
      let firsts ← grouped s.groupBy kept
      let ordered ← sorted s.orderBy firsts
      (window s.skip? s.limit? ordered).mapM (Row.project s.fields)) := by
  unfold answer
  rw [hjoins]
  rfl

/-- A select is answered when it has no joins and each phase succeeds on what the one before
leaves. -/
theorem answer_eq_ok {out : List Row} : s.answer rows = .ok out ↔ s.joins = [] ∧
    ∃ kept, filtered s.filter? rows = .ok kept ∧
    ∃ firsts, grouped s.groupBy kept = .ok firsts ∧
    ∃ ordered, sorted s.orderBy firsts = .ok ordered ∧
      (window s.skip? s.limit? ordered).mapM (Row.project s.fields) = .ok out := by
  by_cases hjoins : s.joins = []
  · rw [answer_of_joins_nil hjoins]
    simp only [bind_eq_ok, hjoins, true_and]
  · have hfails : s.answer rows = .error .joinsNotSupported := by
      unfold answer
      rw [if_pos (by simpa using hjoins)]
      rfl
    simp [hfails, hjoins]

/-- An answer is the reference answer. -/
theorem reference_of_answer {out : List Row} (h : s.answer rows = .ok out) :
    s.Reference rows out := by
  obtain ⟨-, kept, hkept, firsts, hfirsts, ordered, hordered, h⟩ := answer_eq_ok.1 h
  obtain ⟨places, rfl, hleads, hprecedes⟩ := ordered_places hkept hfirsts hordered
  rw [window_map, window_eq] at h
  exact ⟨places, hleads, hprecedes,
    (List.forall₂_map_left_iff.1 (mapM_eq_ok.1 h)).imp fun _ _ => Row.project_shows⟩

/-- An answer is the reference answer, and nothing else is. -/
theorem answer_eq_reference {out : List Row} (h : s.answer rows = .ok out) (out' : List Row) :
    s.Reference rows out' ↔ out' = out := by
  have hout := reference_of_answer h
  exact ⟨fun hout' => hout'.unique hout, fun heq => heq ▸ hout⟩

/-- Of the rows that the filter holds of, the first of each of five groups is left; the greatest is
skipped, the two that tie stay in order behind the next, and the least is cut off. -/
theorem reference_of_ties :
    ({ table := "t", fields := ["n", "g", "n"], groupBy := ["g"], orderBy := [⟨"n", .descending⟩],
       filter? := some (.compare ⟨"n", .lt, .single (.int 5)⟩),
       skip? := some 1, limit? := some 3 } : Select).Reference
      [.ofScalars [("g", .text "x"), ("n", .int 1)], .ofScalars [("g", .text "y"), ("n", .int 5)],
       .ofScalars [("g", .text "y"), ("n", .int 2)], .ofScalars [("g", .text "x"), ("n", .int 3)],
       .ofScalars [("g", .text "z"), ("n", .int 2)], .ofScalars [("g", .text "w"), ("n", .int 4)],
       .ofScalars [("g", .text "v"), ("n", .int 3)]]
      [.ofScalars [("n", .int 3), ("g", .text "v")], .ofScalars [("n", .int 2), ("g", .text "y")],
       .ofScalars [("n", .int 2), ("g", .text "z")]] :=
  (answer_eq_reference (by cbv) _).2 rfl

end Select

end RowQuery
