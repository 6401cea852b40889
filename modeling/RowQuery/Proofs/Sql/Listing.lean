import RowQuery.Sql.Statement

/-!
# What a text lists

SQL is texts and lists of items between an opening and a closing text: the assignments behind
`SET`, the markers between the parentheses of `IN`. `Sql.Listing` is a text with its lists, and it
is `Filled` if no list in it is without items and no item is without text. Each line of a statement
is a listing, or empty (`Sql.ofListings`).
-/

namespace RowQuery.Sql

/-- A text with the lists in it. -/
inductive Listing where
  /-- A text that is no list. -/
  | text (s : String)
  /-- Items with a separator between them, between two texts. -/
  | list (opening separator closing : String) (items : List Listing)

namespace Listing

mutual

/-- A listing as it is written. -/
def sql : Listing → String
  | .text s => s
  | .list opening separator closing items =>
    opening ++ separator.intercalate (sqls items) ++ closing

/-- The items of a list as they are written. -/
def sqls : List Listing → List String
  | [] => []
  | item :: rest => sql item :: sqls rest

end

/-- A list is written as its items are, joined. -/
@[simp]
theorem sql_list (opening separator closing : String) (items : List Listing) :
    (list opening separator closing items).sql =
      opening ++ separator.intercalate (items.map sql) ++ closing := by
  have hitems : sqls items = items.map sql := by
    induction items with
    | nil => rfl
    | cons item items ih => rw [sqls, ih, List.map_cons]
  rw [sql, hitems]

/-- A text is written as it is. -/
@[simp]
theorem sql_text (s : String) : (text s).sql = s := by rw [sql]

/-- No list is without items, and no item without text. -/
inductive Filled : Listing → Prop
  | text {s : String} (h : s ≠ "") : Filled (.text s)
  | list {opening separator closing : String} {items : List Listing} (nonempty : items ≠ [])
      (items_filled : ∀ item ∈ items, Filled item) :
      Filled (.list opening separator closing items)

/-- A text is filled when it is not empty. -/
@[simp]
theorem filled_text_iff {s : String} : (text s).Filled ↔ s ≠ "" := by
  refine ⟨fun h => ?_, .text⟩
  cases h with
  | text h => exact h

/-- A list is filled when it has items and these are filled. -/
@[simp]
theorem filled_list_iff {opening separator closing : String} {items : List Listing} :
    (list opening separator closing items).Filled ↔
      items ≠ [] ∧ ∀ item ∈ items, item.Filled := by
  refine ⟨fun h => ?_, fun h => .list h.1 h.2⟩
  cases h with
  | list nonempty items_filled => exact ⟨nonempty, items_filled⟩

end Listing

/-! ## Lines -/

/-- A line with its listing, or an empty one. -/
def line (listing? : Option Listing) : String := (listing?.map Listing.sql).getD ""

/-- The lines with these listings, one below the other. -/
def ofListings (lines : List (Option Listing)) : String := ofLines (lines.map line)

/-- The listings of all lines are filled. -/
def AllFilled (lines : List (Option Listing)) : Prop := ∀ l, some l ∈ lines → l.Filled

/-- There is no listing in no line. -/
@[simp]
theorem allFilled_nil : AllFilled [] := by simp [AllFilled]

/-- A line before others is filled, if it has a listing, and so are they. -/
@[simp]
theorem allFilled_cons {listing? : Option Listing} {lines : List (Option Listing)} :
    AllFilled (listing? :: lines) ↔ (∀ l ∈ listing?, l.Filled) ∧ AllFilled lines := by
  simp only [AllFilled, List.mem_cons, or_imp, forall_and, Option.mem_def]
  exact and_congr_left' (forall_congr' fun l => imp_congr_left eq_comm)

/-- Lines before others are filled, and so are these. -/
@[simp]
theorem allFilled_append {lines lines' : List (Option Listing)} :
    AllFilled (lines ++ lines') ↔ AllFilled lines ∧ AllFilled lines' := by
  simp only [AllFilled, List.mem_append, or_imp, forall_and]

/-! ## Clauses -/

/-- The items between commas behind a text, if there are any. -/
def clause? (opening : String) (items : List Listing) : Option Listing :=
  if items.isEmpty then none else some (.list opening ", " "" items)

/-- The line of a clause is empty when it has no items. -/
@[simp]
theorem line_clause? (opening : String) (items : List Listing) :
    line (clause? opening items) =
      if items.isEmpty then "" else opening ++ ", ".intercalate (items.map Listing.sql) := by
  unfold line clause?
  split <;> simp

/-- Items that are filled make a clause that is filled. -/
theorem filled_of_mem_clause? {opening : String} {items : List Listing} {l : Listing}
    (h : l ∈ clause? opening items) (filled : ∀ item ∈ items, item.Filled) : l.Filled := by
  unfold clause? at h
  split at h
  · cases h
  · next hne =>
    cases h
    exact .list (by simpa using hne) filled

end RowQuery.Sql
