import Mathlib
import RowQuery.Proofs.Select.Failure
import RowQuery.Proofs.Select.Grouping

/-!
# What does not change an answer

A select that is answered from its own answer, and neither chooses fields nor skips rows, has the
same answer again (`Select.answer_again`): the rows still match, each leads its group, they are in
order, and no more of them are cut. The answer is its own reference, of which there is one.

A select that does not group has the same answer from the same rows stored in another order, if its
sort keys tell all rows apart that match (`Select.answer_of_perm`): then there is one way to sort
them.
-/

namespace RowQuery

/-! ## Rows that keys do not tell apart -/

/-- Rows that are in order by a key have cells, which have equal values if the key does not tell
them apart. -/
theorem OrderKey.exists_cells {key : OrderKey} {row row' : Row}
    (h : key.order? row row' = some .eq) : ∃ a b, row.cell key.column = .ok a ∧
      row'.cell key.column = .ok b ∧ a.sortCompare b = .eq := by
  unfold order? at h
  split at h
  · next a b ha hb =>
    refine ⟨a, b, ha, hb, ?_⟩
    cases hdirection : key.direction with
    | ascending =>
      rw [hdirection] at h
      exact Option.some.inj h
    | descending =>
      rw [hdirection] at h
      exact Std.OrientedCmp.eq_symm (Option.some.inj h)
  · cases h

/-- Rows that keys do not tell apart have equal values in their columns. -/
theorem Row.sameValues_of_order? {keys : List OrderKey} {row row' : Row}
    (h : Row.order? keys row row' = some .eq) :
    SameValues (keys.map OrderKey.column) row row' := by
  induction keys with
  | nil =>
    intro c hc
    cases hc
  | cons key keys ih =>
    rw [Row.order?] at h
    cases hkey : key.order? row row' with
    | none =>
      rw [hkey] at h
      cases h
    | some o =>
      cases o with
      | lt | gt =>
        rw [hkey] at h
        cases h
      | eq =>
        rw [hkey] at h
        intro c hc
        rcases List.mem_cons.1 hc with rfl | hc
        · exact OrderKey.exists_cells hkey
        · exact ih h c hc

namespace Select

variable {s : Select} {rows rows' out : List Row}

/-! ## Answers of answers -/

section

variable {places : List (Fin rows.length)}

/-- The rows at some places, one by one. -/
theorem get_map_get (k : Fin (places.map rows.get).length) :
    (places.map rows.get).get k = rows.get (places.get (k.cast (List.length_map _))) := by
  simp

/-- Rows at different places that lead all lead among themselves. -/
theorem leads_map (hleads : ∀ i ∈ places, s.Leads rows i) (hnodup : places.Nodup)
    (k : Fin (places.map rows.get).length) : s.Leads (places.map rows.get) k := by
  refine ⟨?_, fun hgroup j hlt _ hsame => ?_⟩
  · rw [Matches, get_map_get]
    exact (hleads _ (List.get_mem _ _)).1
  · rw [get_map_get, get_map_get] at hsame
    have hsamePlace := eq_of_leads hgroup (hleads _ (List.get_mem _ _))
      (hleads _ (List.get_mem _ _)) hsame
    exact absurd (Fin.cast_injective _ (hnodup.injective_get hsamePlace)) (ne_of_lt hlt)

/-- Rows at places in order are in order among themselves. -/
theorem precedes_map (hprecedes : places.Pairwise (s.Precedes rows)) :
    (List.finRange (places.map rows.get).length).Pairwise
      (s.Precedes (places.map rows.get)) := by
  refine (List.pairwise_lt_finRange _).imp fun {j k} hlt => ?_
  have hjk := List.pairwise_iff_get.1 hprecedes (j.cast (List.length_map _))
    (k.cast (List.length_map _)) hlt
  unfold Precedes at hjk ⊢
  rw [get_map_get, get_map_get]
  exact hjk.imp_right fun h => ⟨h.1, hlt⟩

end

/-- The answer of a select that shows whole rows are the rows at some places that lead, in order and
no more than its limit. -/
theorem exists_window (hfields : s.fields = []) (h : s.answer rows = .ok out) :
    ∃ places : List (Fin rows.length), out = places.map rows.get ∧
      (∀ i ∈ places, s.Leads rows i) ∧ places.Pairwise (s.Precedes rows) ∧
      ∀ limit ∈ s.limit?, places.length ≤ limit.toNat := by
  obtain ⟨places, hleads, hprecedes, hshown⟩ := reference_of_answer h
  rw [← window_eq] at hshown
  have hsublist := window_sublist s.skip? s.limit? places
  refine ⟨window s.skip? s.limit? places, ?_, fun i hi => (hleads i).1 (hsublist.subset hi),
    hprecedes.sublist hsublist, fun limit hlimit => ?_⟩
  · have hrows : List.Forall₂ (fun i shown => rows.get i = shown)
        (window s.skip? s.limit? places) out := hshown.imp fun i shown h => by
      rw [Row.Shows, if_pos hfields] at h
      exact h.symm
    exact (List.forall₂_eq_eq_eq ▸ List.forall₂_map_left_iff.2 hrows :
      (window s.skip? s.limit? places).map rows.get = out).symm
  · unfold window
    rw [Option.mem_def.1 hlimit]
    exact List.length_take_le _ _

/-- Rows that lead, in order and no more than a limit, are their own reference answer. -/
theorem reference_self (hfields : s.fields = []) (hskip : s.skip?.getD 0 = 0)
    (hleads : ∀ i, s.Leads rows i)
    (hprecedes : (List.finRange rows.length).Pairwise (s.Precedes rows))
    (hlimit : ∀ limit ∈ s.limit?, rows.length ≤ limit.toNat) : s.Reference rows rows := by
  refine ⟨List.finRange rows.length, fun i => ⟨fun _ => hleads i, fun _ => List.mem_finRange i⟩,
    hprecedes, ?_⟩
  have hall : window s.skip? s.limit? (List.finRange rows.length) = List.finRange rows.length := by
    unfold window
    rw [hskip]
    cases hs : s.limit? with
    | none => rfl
    | some limit => exact List.take_of_length_le (by simpa using hlimit limit hs)
  rw [← window_eq, hall, ← List.forall₂_map_left_iff (f := rows.get), List.map_get_finRange]
  exact List.forall₂_same.2 fun row _ => by rw [Row.Shows, if_pos hfields]

/-- A select that shows whole rows and skips none has the same answer from its answer. -/
theorem answer_again (hfields : s.fields = []) (hskip : s.skip?.getD 0 = 0)
    (h : s.answer rows = .ok out) : s.answer out = .ok out := by
  obtain ⟨⟨⟨hjoins, hdecided⟩, hgroupable⟩, hsortable⟩ := (exists_answer_iff.1 ⟨out, h⟩).1
  obtain ⟨places, hout, hleads, hprecedes, hlimit⟩ := exists_window hfields h
  -- what is asked of a row of the answer has been asked of the same row before
  have hrow : ∀ row ∈ out, ∃ i, s.Leads rows i ∧ rows.get i = row := by
    rw [hout]
    intro row hmem
    obtain ⟨i, hi, rfl⟩ := List.mem_map.1 hmem
    exact ⟨i, hleads i hi, rfl⟩
  have hself : s.Reference out out := by
    subst hout
    refine reference_self hfields hskip (leads_map hleads (nodup_of_precedes hprecedes))
      (precedes_map hprecedes) ?_
    simpa using hlimit
  have hsucceeds : s.Sortable out := by
    refine ⟨⟨⟨hjoins, fun row hmem => ?_⟩, fun k _ => ?_⟩, fun k _ => ?_⟩
    · obtain ⟨i, -, rfl⟩ := hrow row hmem
      exact hdecided _ (List.get_mem _ _)
    · obtain ⟨i, hi, heq⟩ := hrow _ (List.get_mem out k)
      exact heq ▸ hgroupable i hi.1
    · obtain ⟨i, hi, heq⟩ := hrow _ (List.get_mem out k)
      exact heq ▸ hsortable i hi
  obtain ⟨out', hout'⟩ := exists_answer_iff.2 ⟨hsucceeds, fun _ _ i _ => by rw [hfields]; rfl⟩
  rw [hout', (reference_of_answer hout').unique hself]

/-- The first two of three groups, sorted with a tie between them, are answered again. -/
theorem answer_again_of_groups :
    let s : Select := {
      table := "t", groupBy := ["g"], orderBy := [⟨"n", .descending⟩], limit? := some 2
      filter? := some (.compareWith "n" .gt (.int 0)) }
    let row (g : String) (n : Int64) := Row.ofScalars [("g", .text g), ("n", .int n)]
    let rows := [row "x" 1, row "y" 2, row "x" 3, row "w" 0, row "z" 2]
    s.answer rows = .ok [row "y" 2, row "z" 2] ∧
      s.answer [row "y" 2, row "z" 2] = .ok [row "y" 2, row "z" 2] := by
  intro s row rows
  have h : s.answer rows = .ok [row "y" 2, row "z" 2] := by cbv
  exact ⟨h, answer_again rfl rfl h⟩

/-! ## Rows in another order -/

/-- What succeeds with every element of a list succeeds with them in another order. -/
theorem exists_ok_perm {ε α β γ : Type} {x : Except ε β} {y : Except ε γ} {fault? : α → Option ε}
    {l m : List α} (hperm : l.Perm m) (hx : Reports x (l.findSome? fault?))
    (hy : Reports y (m.findSome? fault?)) (h : ∃ a, x = .ok a) : ∃ b, y = .ok b := by
  have hnone := hx.exists_ok_iff.1 h
  refine hy.exists_ok_iff.2 ?_
  rw [List.findSome?_eq_none_iff] at hnone ⊢
  intro a ha
  exact hnone a (hperm.mem_iff.2 ha)

/-- Filtering the rows in another order leaves the same rows in another order. -/
theorem filtered_perm {filter? : Option Condition} {kept : List Row} (hperm : rows.Perm rows')
    (h : filtered filter? rows = .ok kept) :
    ∃ kept', filtered filter? rows' = .ok kept' ∧ kept.Perm kept' := by
  obtain ⟨kept', hkept'⟩ :=
    exists_ok_perm hperm (reports_filtered filter? rows) (reports_filtered filter? rows') ⟨kept, h⟩
  refine ⟨kept', hkept', ?_⟩
  rw [filtered_eq h, filtered_eq hkept']
  exact hperm.filter _

/-- Sorting leaves the same rows, of which none stands behind one that comes after it. -/
theorem sorted_arranged {kept ordered : List Row} (h : sorted s.orderBy kept = .ok ordered) :
    ordered.Perm kept ∧ ordered.Pairwise fun row row' =>
      Row.order? s.orderBy row row' = some .lt ∨ Row.order? s.orderBy row row' = some .eq := by
  rw [← List.map_get_finRange kept] at h
  obtain ⟨order, rfl, hperm, hprecedes⟩ := sorted_places (List.pairwise_lt_finRange _) h
  constructor
  · exact (hperm.map _).trans (.of_eq (List.map_get_finRange kept))
  · exact List.pairwise_map.2 (hprecedes.imp fun hij => hij.imp_right And.left)

/-- Rows that the sort keys tell apart are sorted in one way. -/
theorem sorted_unique {kept kept' ordered ordered' : List Row} (hperm : kept.Perm kept')
    (hdistinct : ∀ row ∈ kept, ∀ row' ∈ kept,
      Row.order? s.orderBy row row' = some .eq → row = row')
    (h : sorted s.orderBy kept = .ok ordered) (h' : sorted s.orderBy kept' = .ok ordered') :
    ordered = ordered' := by
  obtain ⟨hordered, harranged⟩ := sorted_arranged h
  obtain ⟨hordered', harranged'⟩ := sorted_arranged h'
  refine ((hordered.trans hperm).trans hordered'.symm).eq_of_pairwise ?_ harranged harranged'
  intro row row' hrow hrow' hle hge
  have hmem := hordered.mem_iff.1 hrow
  have hmem' := hperm.mem_iff.2 (hordered'.mem_iff.1 hrow')
  rcases hle with hlt | heq
  · rw [Row.order?_swap, hlt] at hge
    rcases hge with hge | hge <;> cases hge
  · exact hdistinct row hmem row' hmem' heq

/-- A select that does not group, and whose sort keys tell all rows apart that match, has the same
answer from the same rows in another order. -/
theorem answer_of_perm (hgroup : s.groupBy = [])
    (hdistinct : ∀ i j, i ≠ j → s.Matches rows i → s.Matches rows j →
      ¬ Row.SameValues (s.orderBy.map OrderKey.column) (rows.get i) (rows.get j))
    (hperm : rows.Perm rows') (h : s.answer rows = .ok out) : s.answer rows' = .ok out := by
  obtain ⟨hjoins, kept, hkept, firsts, hfirsts, ordered, hordered, hout⟩ := answer_eq_ok.1 h
  have hgrouped (rows : List Row) : grouped s.groupBy rows = .ok rows := by
    rw [hgroup]
    rfl
  obtain rfl : kept = firsts := Except.ok.inj ((hgrouped kept).symm.trans hfirsts)
  have hapart : ∀ row ∈ kept, ∀ row' ∈ kept,
      Row.order? s.orderBy row row' = some .eq → row = row' := by
    obtain ⟨matching, rfl, -, hmatching⟩ := kept_places hkept
    intro row hrow row' hrow' heq
    obtain ⟨i, hi, rfl⟩ := List.mem_map.1 hrow
    obtain ⟨j, hj, rfl⟩ := List.mem_map.1 hrow'
    by_contra hne
    refine hdistinct i j (fun hij => hne (hij ▸ rfl)) ((hmatching i).1 hi) ((hmatching j).1 hj) ?_
    exact Row.sameValues_of_order? heq
  obtain ⟨kept', hkept', hkeptPerm⟩ := filtered_perm hperm hkept
  obtain ⟨ordered', hordered'⟩ := exists_ok_perm hkeptPerm (reports_sorted s.orderBy kept)
    (reports_sorted s.orderBy kept') ⟨ordered, hordered⟩
  obtain rfl : ordered = ordered' := sorted_unique hkeptPerm hapart hordered hordered'
  exact answer_eq_ok.2 ⟨hjoins, kept', hkept', kept', hgrouped kept', ordered, hordered', hout⟩

/-- The second of three rows in descending order is the same when they are stored in reverse. -/
theorem answer_of_perm_of_reversed :
    let s : Select := {
      table := "t", fields := ["a"], orderBy := [⟨"a", .descending⟩], skip? := some 1
      limit? := some 1 }
    let row (a : Int64) := Row.ofScalars [("a", .int a), ("b", .null)]
    let rows := [row 1, row 3, row 2]
    s.answer rows = .ok [.ofScalars [("a", .int 2)]] ∧
      s.answer rows.reverse = .ok [.ofScalars [("a", .int 2)]] := by
  intro s row rows
  have h : s.answer rows = .ok [.ofScalars [("a", .int 2)]] := by cbv
  have hdistinct : rows.Pairwise fun row row' => ¬ Row.SameValues ["a"] row row' := by
    have happart {a b : Int64} (ha : (row a).cell "a" = .ok (.int a))
        (hb : (row b).cell "a" = .ok (.int b)) (h : (Scalar.int a).sortCompare (.int b) ≠ .eq) :
        ¬ Row.SameValues ["a"] (row a) (row b) := by
      intro hsame
      obtain ⟨v, w, hv, hw, heq⟩ := hsame "a" (List.mem_singleton.2 rfl)
      cases ha.symm.trans hv
      cases hb.symm.trans hw
      exact h heq
    have h13 := happart (a := 1) (b := 3) rfl rfl (by decide)
    have h12 := happart (a := 1) (b := 2) rfl rfl (by decide)
    have h32 := happart (a := 3) (b := 2) rfl rfl (by decide)
    simpa [rows] using ⟨⟨h13, h12⟩, h32⟩
  refine ⟨h, answer_of_perm rfl (fun i j hne _ _ hsame => ?_) rows.reverse_perm.symm h⟩
  rcases lt_or_gt_of_ne hne with hlt | hgt
  · exact List.pairwise_iff_get.1 hdistinct i j hlt hsame
  · exact List.pairwise_iff_get.1 hdistinct j i hgt hsame.symm

end Select

end RowQuery
