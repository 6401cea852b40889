import Mathlib.Data.List.Forall2

/-!
# When steps that may fail succeed

A computation in `Except` succeeds when each of its steps does. `bind_eq_ok` and `map_eq_ok` say it
of one step behind another (and `bind_eq_error` says when such steps fail), `mapM_eq_ok` and
`exists_mapM_eq_ok` of the same step for every element of a list, and `mapM_eq_map` of such steps
whose results are known wherever there are any. `mapM_map_eq_some` is the case of a list that is read
back element by element. `exists_of_forall₂` finds the result of one element among those of a list,
`exists_getElem?_of_forall₂` finds it at the same place, `exists_forall₂_iff` finds the results of all
of them, and `forall₂_of_common` matches two lists by what both of them match.

`FailsOnly P` says of a computation that every error of it satisfies `P`, which the errors of its
steps decide. `Reports x fault?` names the one error that a computation can fail with; of steps behind
each other it is that of the first step that has one (`Reports.seq`, `Reports.mapM`).
-/

namespace RowQuery

variable {ε α β : Type}

/-- Two steps succeed when the first does and the second does on its result. -/
theorem bind_eq_ok {x : Except ε α} {f : α → Except ε β} {b : β} :
    (x >>= f) = .ok b ↔ ∃ a, x = .ok a ∧ f a = .ok b := by
  cases x with
  | error e => simp [bind, Except.bind]
  | ok a => simp [bind, Except.bind]

/-- Two steps fail when the first does, or the second on its result. -/
theorem bind_eq_error {x : Except ε α} {f : α → Except ε β} {e : ε} :
    (x >>= f) = .error e ↔ x = .error e ∨ ∃ a, x = .ok a ∧ f a = .error e := by
  cases x with
  | error e' => simp [bind, Except.bind]
  | ok a => simp [bind, Except.bind]

/-- Steps that agree on the result before them agree. -/
theorem bind_congr_ok {x : Except ε α} {f g : α → Except ε β} (h : ∀ a, x = .ok a → f a = g a) :
    x >>= f = x >>= g := by
  cases x with
  | error e => rfl
  | ok a => exact h a rfl

/-- A function of a result is there when the result is. -/
theorem map_eq_ok {x : Except ε α} {f : α → β} {b : β} :
    x.map f = .ok b ↔ ∃ a, x = .ok a ∧ f a = b := by
  cases x with
  | error e => simp [Except.map]
  | ok a => simp [Except.map]

/-- A function of a result fails when there is no result. -/
theorem map_eq_error {x : Except ε α} {f : α → β} {e : ε} :
    x.map f = .error e ↔ x = .error e := by
  cases x with
  | error e => simp [Except.map]
  | ok a => simp [Except.map]

/-- What is said of an error does not matter to the result. -/
theorem mapError_eq_ok {ε' : Type} {x : Except ε α} {f : ε → ε'} {a : α} :
    x.mapError f = .ok a ↔ x = .ok a := by
  cases x with
  | error e => simp [Except.mapError]
  | ok a => simp [Except.mapError]

/-- Steps that agree on every element agree on the list. -/
theorem mapM_congr {f g : α → Except ε β} {l : List α} (h : ∀ a ∈ l, f a = g a) :
    l.mapM f = l.mapM g := by
  induction l with
  | nil => rfl
  | cons a l ih =>
    rw [List.forall_mem_cons] at h
    rw [List.mapM_cons, List.mapM_cons, h.1, ih h.2]

/-- A step for every element succeeds when it does for each. -/
theorem mapM_eq_ok {f : α → Except ε β} {l : List α} {r : List β} :
    l.mapM f = .ok r ↔ List.Forall₂ (fun a b => f a = .ok b) l r := by
  induction l generalizing r with
  | nil => simp [pure, Except.pure, eq_comm]
  | cons a l ih =>
    rw [List.mapM_cons, bind_eq_ok, List.forall₂_cons_left_iff]
    constructor
    · rintro ⟨b, hb, h⟩
      obtain ⟨bs, hbs, h⟩ := bind_eq_ok.1 h
      cases h
      exact ⟨b, bs, hb, ih.1 hbs, rfl⟩
    · rintro ⟨b, bs, hb, hbs, rfl⟩
      exact ⟨b, hb, bind_eq_ok.2 ⟨bs, ih.2 hbs, rfl⟩⟩

/-- A step that succeeds for every element, with a result that suits the element, succeeds with a
list of such results. -/
theorem exists_mapM_eq_ok {f : α → Except ε β} {R : β → α → Prop} {l : List α}
    (h : ∀ a ∈ l, ∃ b, f a = .ok b ∧ R b a) : ∃ r, l.mapM f = .ok r ∧ List.Forall₂ R r l := by
  induction l with
  | nil => exact ⟨[], rfl, .nil⟩
  | cons a l ih =>
    obtain ⟨b, hb, hR⟩ := h a List.mem_cons_self
    obtain ⟨r, hr, hrest⟩ := ih fun c hc => h c (List.mem_cons_of_mem _ hc)
    exact ⟨b :: r, mapM_eq_ok.2 (.cons hb (mapM_eq_ok.1 hr)), .cons hR hrest⟩

/-- A list that matches one list behind another is made of two that match each. -/
theorem forall₂_append_left {R : α → β → Prop} {l m : List α} {r : List β} :
    List.Forall₂ R (l ++ m) r ↔
      ∃ s, List.Forall₂ R l s ∧ ∃ t, List.Forall₂ R m t ∧ s ++ t = r := by
  induction l generalizing r with
  | nil => simp
  | cons a l ih =>
    simp only [List.cons_append, List.forall₂_cons_left_iff, ih]
    constructor
    · rintro ⟨b, r, hb, ⟨s, hs, t, ht, rfl⟩, rfl⟩
      exact ⟨b :: s, ⟨b, s, hb, hs, rfl⟩, t, ht, rfl⟩
    · rintro ⟨-, ⟨b, s, hb, hs, rfl⟩, t, ht, rfl⟩
      exact ⟨b, s ++ t, hb, ⟨s, hs, t, ht, rfl⟩, rfl⟩

/-- An element of a list has its counterpart in a list that matches it pointwise. -/
theorem exists_of_forall₂ {R : α → β → Prop} {l : List α} {r : List β} (h : List.Forall₂ R l r)
    {a : α} (ha : a ∈ l) : ∃ b ∈ r, R a b := by
  induction h with
  | nil => cases ha
  | @cons a' b l r hab _ ih =>
    rcases List.mem_cons.1 ha with rfl | ha
    · exact ⟨b, List.mem_cons_self, hab⟩
    · obtain ⟨b', hb', hR⟩ := ih ha
      exact ⟨b', List.mem_cons_of_mem _ hb', hR⟩

/-- A list is matched by another one when each of its elements is. -/
theorem exists_forall₂_iff {R : α → β → Prop} {l : List α} :
    (∃ r, List.Forall₂ R l r) ↔ ∀ a ∈ l, ∃ b, R a b := by
  constructor
  · rintro ⟨r, h⟩ a ha
    obtain ⟨b, -, hab⟩ := exists_of_forall₂ h ha
    exact ⟨b, hab⟩
  · intro h
    induction l with
    | nil => exact ⟨[], .nil⟩
    | cons a l ih =>
      obtain ⟨b, hab⟩ := h a List.mem_cons_self
      obtain ⟨r, hr⟩ := ih fun c hc => h c (List.mem_cons_of_mem _ hc)
      exact ⟨b :: r, .cons hab hr⟩

/-- An element of a list has its counterpart at the same place of a list that matches it. -/
theorem exists_getElem?_of_forall₂ {R : α → β → Prop} {l : List α} {r : List β}
    (h : List.Forall₂ R l r) {i : Nat} {a : α} (ha : l[i]? = some a) :
    ∃ b, r[i]? = some b ∧ R a b := by
  induction h generalizing i with
  | nil => cases ha
  | @cons a' b l r hab _ ih =>
    cases i with
    | zero =>
      cases ha
      exact ⟨b, rfl, hab⟩
    | succ i => exact ih ha

/-- A relation of matching elements that follows from another one. -/
theorem forall₂_imp_of_mem {R S : α → β → Prop} {l : List α} {r : List β} (h : List.Forall₂ R l r)
    (hS : ∀ a ∈ l, ∀ b ∈ r, R a b → S a b) : List.Forall₂ S l r := by
  induction h with
  | nil => exact .nil
  | @cons a b l r hab _ ih =>
    refine .cons (hS a List.mem_cons_self b List.mem_cons_self hab) (ih fun a ha b hb => ?_)
    exact hS a (List.mem_cons_of_mem _ ha) b (List.mem_cons_of_mem _ hb)

/-- Lists whose elements have the same images pointwise have the same images. -/
theorem map_eq_map_of_forall₂ {γ : Type} {f : α → γ} {g : β → γ} {l : List α} {r : List β}
    (h : List.Forall₂ (fun a b => f a = g b) l r) : l.map f = r.map g := by
  rwa [← List.forall₂_eq_eq_eq, List.forall₂_map_left_iff, List.forall₂_map_right_iff]

/-- Two lists that match one list pointwise match each other. -/
theorem forall₂_of_common {γ : Type} {R : α → γ → Prop} {S : β → γ → Prop} {T : α → β → Prop}
    (hT : ∀ a b c, R a c → S b c → T a b) {l : List α} {m : List β} {r : List γ}
    (h : List.Forall₂ R l r) (h' : List.Forall₂ S m r) : List.Forall₂ T l m := by
  induction h generalizing m with
  | nil =>
    cases h'
    exact .nil
  | cons ha _ ih =>
    cases h' with
    | cons hb h' => exact .cons (hT _ _ _ ha hb) (ih h')

/-- Steps for every element, with the results that they have wherever they have any. -/
theorem mapM_eq_map {f : α → Except ε β} {g : α → β} {l : List α} {r : List β}
    (h : l.mapM f = .ok r) (hg : ∀ a b, f a = .ok b → g a = b) :
    l.map g = r ∧ ∀ a ∈ l, f a = .ok (g a) := by
  have hsteps : List.Forall₂ (fun a b => f a = .ok (g a) ∧ g a = b) l r :=
    (mapM_eq_ok.1 h).imp fun a b hb => ⟨by rw [hg a b hb, hb], hg a b hb⟩
  refine ⟨?_, fun a ha => ?_⟩
  · rw [← List.forall₂_eq_eq_eq, List.forall₂_map_left_iff]
    exact hsteps.imp fun _ _ hstep => hstep.2
  · obtain ⟨-, -, hstep, -⟩ := exists_of_forall₂ hsteps ha
    exact hstep

/-- What every element is written as is read back as the list. -/
theorem mapM_map_eq_some {write : α → β} {read : β → Option α} {l : List α}
    (h : ∀ a ∈ l, read (write a) = some a) : (l.map write).mapM read = some l := by
  induction l with
  | nil => rfl
  | cons a l ih =>
    rw [List.map_cons, List.mapM_cons, h a List.mem_cons_self,
      ih fun b hb => h b (List.mem_cons_of_mem _ hb)]
    rfl

/-! ## Errors -/

/-- The computation fails with nothing but errors that satisfy `P`. -/
def FailsOnly (P : ε → Prop) (x : Except ε α) : Prop := ∀ e, x = .error e → P e

namespace FailsOnly

variable {P : ε → Prop} {x : Except ε α}

/-- A result is no error. -/
theorem ok (a : α) : FailsOnly P (.ok a : Except ε α) := fun _ he => nomatch he

/-- An error that satisfies `P`. -/
theorem error {e : ε} (h : P e) : FailsOnly P (.error e : Except ε α) := fun _ he => by
  cases he
  exact h

/-- A step behind another fails with an error of one of them. -/
theorem bind {f : α → Except ε β} (h : FailsOnly P x) (hf : ∀ a, x = .ok a → FailsOnly P (f a)) :
    FailsOnly P (x >>= f) := by
  cases x with
  | ok a => exact hf a rfl
  | error e => exact error (h e rfl)

/-- What becomes of a result does not matter to the error. -/
theorem map (h : FailsOnly P x) (f : α → β) : FailsOnly P (x.map f) := by
  cases x with
  | ok a => exact ok (f a)
  | error e => exact error (h e rfl)

/-- Other words for what is wrong. -/
theorem mapError {ε' : Type} {f : ε' → ε} (h : ∀ e, P (f e)) (x : Except ε' α) :
    FailsOnly P (x.mapError f) := by
  cases x with
  | ok a => exact ok a
  | error e => exact error (h e)

/-- A step for every element fails with an error of one of the steps. -/
theorem mapM {f : α → Except ε β} {l : List α} (h : ∀ a ∈ l, FailsOnly P (f a)) :
    FailsOnly P (l.mapM f) := by
  induction l with
  | nil => exact ok []
  | cons a l ih =>
    rw [List.forall_mem_cons] at h
    rw [List.mapM_cons]
    exact h.1.bind fun b _ => (ih h.2).bind fun bs _ => ok (b :: bs)

end FailsOnly

/-! ## Failing with a fault -/

/-- What is found first is found in the head or behind it. -/
theorem findSome?_cons_eq_or (f : α → Option β) (a : α) (l : List α) :
    (a :: l).findSome? f = (f a).or (l.findSome? f) := by
  rw [List.findSome?_cons]
  cases f a <;> rfl

/-- The computation fails with the fault, if there is one, and else succeeds. -/
def Reports (x : Except ε α) (fault? : Option ε) : Prop := ∀ e, x = .error e ↔ fault? = some e

/-- What a computation fails with, if it fails. -/
def failure? : Except ε α → Option ε
  | .ok _ => none
  | .error e => some e

namespace Reports

/-- A computation fails with what it fails with. -/
theorem failure? (x : Except ε α) : Reports x (RowQuery.failure? x) := by
  cases x <;> simp [Reports, RowQuery.failure?]

/-- A result is there when there is no fault. -/
theorem exists_ok_iff {x : Except ε α} {fault? : Option ε} (h : Reports x fault?) :
    (∃ a, x = .ok a) ↔ fault? = none := by
  cases x with
  | ok a =>
    have hnone : fault? = none := by
      cases fault? with
      | none => rfl
      | some e => cases (h e).2 rfl
    exact ⟨fun _ => hnone, fun _ => ⟨a, rfl⟩⟩
  | error e =>
    rw [(h e).1 rfl]
    simp

/-- A result has no fault. -/
theorem ok (a : α) : Reports (.ok a : Except ε α) none :=
  fun _ => ⟨fun h => (nomatch h), fun h => (nomatch h)⟩

/-- An error is the fault. -/
theorem error (e : ε) : Reports (.error e : Except ε α) (some e) :=
  fun _ => ⟨fun h => congrArg some (Except.error.inj h), fun h => congrArg _ (Option.some.inj h)⟩

/-- A step behind another fails with the fault of the first of them that has one. -/
theorem seq {x : Except ε α} {fault? next? : Option ε} (h : Reports x fault?) {f : α → Except ε β}
    (hf : ∀ a, x = .ok a → Reports (f a) next?) : Reports (x >>= f) (fault?.or next?) := by
  cases x with
  | ok a =>
    rw [h.exists_ok_iff.1 ⟨a, rfl⟩]
    exact hf a rfl
  | error e =>
    rw [(h e).1 rfl]
    exact error e

/-- A step that succeeds behind another adds no fault. -/
theorem bind {x : Except ε α} {fault? : Option ε} (h : Reports x fault?) {f : α → Except ε β}
    (hf : ∀ a, x = .ok a → ∃ b, f a = .ok b) : Reports (x >>= f) fault? := by
  rw [← Option.or_none (o := fault?)]
  refine h.seq fun a ha => ?_
  obtain ⟨b, hb⟩ := hf a ha
  exact hb ▸ ok b

/-- What becomes of a result does not matter to the fault. -/
theorem map {x : Except ε α} {fault? : Option ε} (h : Reports x fault?) (f : α → β) :
    Reports (x.map f) fault? := by
  have hbind : x.map f = x >>= fun a => .ok (f a) := by cases x <;> rfl
  exact hbind ▸ h.bind fun a _ => ⟨f a, rfl⟩

/-- A fault that is looked for first. -/
theorem guarded {x : Except ε α} {fault? : Option ε} (h : Reports x fault?) (p : Prop) [Decidable p]
    (e : ε) : Reports (if p then .error e else x) (if p then some e else fault?) := by
  split
  · exact error e
  · exact h

/-- A step for every element fails with the fault of the first element that has one. -/
theorem mapM {f : α → Except ε β} {fault? : α → Option ε} {l : List α}
    (h : ∀ a ∈ l, Reports (f a) (fault? a)) : Reports (l.mapM f) (l.findSome? fault?) := by
  induction l with
  | nil => exact ok []
  | cons a l ih =>
    rw [List.forall_mem_cons] at h
    rw [List.mapM_cons, findSome?_cons_eq_or]
    exact h.1.seq fun b _ => (ih h.2).bind fun bs _ => ⟨b :: bs, rfl⟩

end Reports

end RowQuery
