import RowQuery.Proofs.Steps

/-!
# Two runs of the same steps

`SameOutcome r` relates two computations in `Except` that either both fail, or both succeed with
results related by `r`. It passes through steps behind each other (`SameOutcome.bind`), through
the same step for every element of two lists (`SameOutcome.mapM`) and through another order of one
list (`SameOutcome.mapM_perm`), so what two runs of a builder produce is compared part by part.
-/

namespace RowQuery

variable {ε α β γ δ : Type}

/-- Both fail, or both succeed with related results. -/
inductive SameOutcome (r : α → β → Prop) : Except ε α → Except ε β → Prop
  | error (e e' : ε) : SameOutcome r (.error e) (.error e')
  | ok {a : α} {b : β} (h : r a b) : SameOutcome r (.ok a) (.ok b)

namespace SameOutcome

variable {r : α → β → Prop} {s : γ → δ → Prop} {x : Except ε α} {y : Except ε β}

/-- A weaker relation of the results. -/
theorem imp {r' : α → β → Prop} (h : SameOutcome r x y) (hr : ∀ a b, r a b → r' a b) :
    SameOutcome r' x y := by
  cases h with
  | error e e' => exact .error e e'
  | ok h => exact .ok (hr _ _ h)

/-- The same computation twice. -/
theorem refl {r : α → α → Prop} (hr : ∀ a, r a a) (x : Except ε α) : SameOutcome r x x := by
  cases x with
  | error e => exact .error e e
  | ok a => exact .ok (hr a)

/-- The same computation has equal results. -/
theorem same (x : Except ε α) : SameOutcome Eq x x := refl (fun _ => rfl) x

/-- Two computations with equal results have the same ones. -/
theorem eq_ok_iff {x y : Except ε α} (h : SameOutcome Eq x y) {a : α} : x = .ok a ↔ y = .ok a := by
  cases h with
  | error e e' => simp
  | ok h => rw [h]

/-- Two computations with a third between them. -/
theorem trans {t : β → γ → Prop} {z : Except ε γ} (h : SameOutcome r x y) (h' : SameOutcome t y z) :
    SameOutcome (fun a c => ∃ b, r a b ∧ t b c) x z := by
  cases h with
  | error e e' =>
    cases h' with
    | error _ e'' => exact .error e e''
  | ok hr =>
    cases h' with
    | ok ht => exact .ok ⟨_, hr, ht⟩

/-- Related steps behind two computations. -/
theorem bind {f : α → Except ε γ} {g : β → Except ε δ} (h : SameOutcome r x y)
    (hf : ∀ a b, r a b → SameOutcome s (f a) (g b)) : SameOutcome s (x >>= f) (y >>= g) := by
  cases h with
  | error e e' => exact .error e e'
  | ok h => exact hf _ _ h

/-- Related functions of two results. -/
theorem map {f : α → γ} {g : β → δ} (h : SameOutcome r x y) (hf : ∀ a b, r a b → s (f a) (g b)) :
    SameOutcome s (x.map f) (y.map g) := by
  cases h with
  | error e e' => exact .error e e'
  | ok h => exact .ok (hf _ _ h)

/-- Other words for what is wrong. -/
theorem mapError {ε' : Type} {f g : ε → ε'} (h : SameOutcome r x y) :
    SameOutcome r (x.mapError f) (y.mapError g) := by
  cases h with
  | error e e' => exact .error (f e) (g e')
  | ok h => exact .ok h

/-- Related steps for the elements of two lists. -/
theorem mapM {f : α → Except ε γ} {g : β → Except ε δ} {l : List α} {m : List β}
    (h : List.Forall₂ (fun a b => SameOutcome s (f a) (g b)) l m) :
    SameOutcome (List.Forall₂ s) (l.mapM f) (m.mapM g) := by
  induction h with
  | nil => exact .ok .nil
  | cons hab _ ih =>
    rw [List.mapM_cons, List.mapM_cons]
    exact hab.bind fun c d hcd => ih.bind fun cs ds hcds => .ok (.cons hcd hcds)

/-- A step for the elements of a list in another order has its results in that order. -/
theorem mapM_perm (f : α → Except ε γ) {l m : List α} (h : l.Perm m) :
    SameOutcome List.Perm (l.mapM f) (m.mapM f) := by
  induction h with
  | nil => exact .ok .nil
  | cons a _ ih =>
    rw [List.mapM_cons, List.mapM_cons]
    refine (same (f a)).bind fun c d hcd => ih.bind fun cs ds hcds => .ok ?_
    exact hcd ▸ hcds.cons c
  | swap a b l =>
    simp only [List.mapM_cons]
    cases f b with
    | error e => cases f a <;> exact .error _ _
    | ok d =>
      cases f a with
      | error e => exact .error e e
      | ok c =>
        cases l.mapM f with
        | error e => exact .error e e
        | ok cs => exact .ok (.swap c d cs)
  | trans _ _ ih ih' =>
    exact (ih.trans ih').imp fun _ _ ⟨_, h, h'⟩ => h.trans h'

end SameOutcome

end RowQuery
