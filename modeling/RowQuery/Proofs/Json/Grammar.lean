import RowQuery.Proofs.Json.Nesting

/-!
# The grammar of JSON texts

`Json.Denotes text v` says that a text is JSON and which value it denotes, by the grammar of JSON
alone: white space may stand around every token, a string is spelled with characters and escapes, and
a number with a sign, a fraction and an exponent. The relations of the grammar are between a text,
what it denotes and what is left of it. What a spelling of a number or of the characters of a string
stands for is that of `Document.numberOf` and `Document.StringToken.strict`: a number beyond the
greatest finite one and half a surrogate pair denote nothing.

A text denotes a value that is not nested too deep when it is read as a document of it
(`Document.denotes_iff`).
-/

namespace RowQuery.Json

open Document (CodeUnit StringToken NumberToken)

/-! ## Tokens -/

namespace Grammar

/-- White space, of the four kinds that JSON allows, before the rest of a text. -/
inductive Blank : List Char → List Char → Prop
  | none (t : List Char) : Blank t t
  | cons {c : Char} {s t : List Char} (h : c ∈ [' ', '\t', '\n', '\r']) (rest : Blank s t) :
    Blank (c :: s) t

/-- Decimal digits, at least one. -/
def Digits (s : List Char) : Prop := s ≠ [] ∧ ∀ c ∈ s, c.isDigit = true

/-- The exponent of a number as it is spelled. -/
structure Exponent where
  mark : Char
  sign : List Char
  digits : List Char
  mark_mem : mark ∈ ['e', 'E']
  sign_mem : sign ∈ [[], ['+'], ['-']]
  digits_digits : Digits digits

namespace Exponent

/-- The text of an exponent. -/
def text (e : Exponent) : List Char := e.mark :: (e.sign ++ e.digits)

/-- The number that an exponent says. -/
def value (e : Exponent) : Int :=
  if e.sign = ['-'] then -(Text.digitsValue e.digits : Int) else Text.digitsValue e.digits

end Exponent

/-- A number as it is spelled. -/
structure Numeral where
  negative : Bool
  whole : List Char
  places? : Option (List Char)
  exponent? : Option Exponent
  whole_digits : Digits whole
  /-- A zero at the start stands alone. -/
  zero_alone : whole.head? = some '0' → whole = ['0']
  places_digits : ∀ places ∈ places?, Digits places

namespace Numeral

/-- The text of a number from its point on. -/
def fraction (n : Numeral) : List Char :=
  match n.places? with
  | some places => '.' :: places
  | none => []

/-- The text of a number. -/
def text (n : Numeral) : List Char :=
  (if n.negative then ['-'] else []) ++
    (n.whole ++ (n.fraction ++ (n.exponent?.map Exponent.text).getD []))

/-- The number that is spelled. -/
def token (n : Numeral) : NumberToken :=
  Document.numberOf n.negative n.whole n.places? (n.exponent?.map Exponent.value)

end Numeral

/-- The letters that stand for a character behind a backslash, and the characters. -/
def escapes : List (Char × Char) :=
  [('"', '"'), ('\\', '\\'), ('/', '/'), ('b', '\x08'), ('f', '\x0c'), ('n', '\n'), ('r', '\r'),
    ('t', '\t')]

/-- The spellings of a character or code unit in a string. -/
inductive Spelled : List Char → CodeUnit → Prop
  | plain {c : Char} (control : 0x20 ≤ c.toNat) (quote : c ≠ '"') (backslash : c ≠ '\\') :
    Spelled [c] (.char c)
  | escape {letter c : Char} (h : (letter, c) ∈ escapes) : Spelled ['\\', letter] (.char c)
  | code {a b c d : Char} {n : Nat} (h : Document.hexCode? a b c d = some n) :
    Spelled ['\\', 'u', a, b, c, d] (.code n)

/-- A string from behind its opening quote to behind its closing one. -/
inductive Units : List Char → List CodeUnit → List Char → Prop
  | close (t : List Char) : Units ('"' :: t) [] t
  | cons {w s t : List Char} {u : CodeUnit} {units : List CodeUnit} (h : Spelled w u)
    (rest : Units s units t) : Units (w ++ s) (u :: units) t

/-- A string with its quotes denotes a text. -/
inductive Quoted : List Char → String → List Char → Prop
  | mk {s t : List Char} {units : List CodeUnit} {text : String} (h : Units s units t)
    (denotes : StringToken.strict ⟨units, none⟩ = .ok text) : Quoted ('"' :: s) text t

/-! ## Values -/

mutual

/-- A value, from its first character to behind its last. -/
inductive Value : List Char → Json → List Char → Prop
  | null (t : List Char) : Value ('n' :: 'u' :: 'l' :: 'l' :: t) .null t
  | true (t : List Char) : Value ('t' :: 'r' :: 'u' :: 'e' :: t) (.bool Bool.true) t
  | false (t : List Char) : Value ('f' :: 'a' :: 'l' :: 's' :: 'e' :: t) (.bool Bool.false) t
  | number (n : Numeral) {v : Json.Number} (denotes : n.token = .value v) (t : List Char) :
    Value (n.text ++ t) (.number v) t
  | text {s t : List Char} {text : String} (h : Quoted s text t) : Value s (.text text) t
  | emptyArray {s t : List Char} (h : Blank s (']' :: t)) : Value ('[' :: s) (.array []) t
  | array {s s' t : List Char} {items : List Json} (blank : Blank s s') (h : Items s' items t) :
    Value ('[' :: s) (.array items) t
  | emptyObject {s t : List Char} (h : Blank s ('\x7d' :: t)) : Value ('\x7b' :: s) (.object []) t
  | object {s s' t : List Char} {fields : List (String × Json)} (blank : Blank s s')
    (h : Fields s' fields t) : Value ('\x7b' :: s) (.object fields) t

/-- The items of an array, from the first to behind the closing bracket. -/
inductive Items : List Char → List Json → List Char → Prop
  | last {s s' t : List Char} {v : Json} (h : Value s v s') (close : Blank s' (']' :: t)) :
    Items s [v] t
  | cons {s s' u u' t : List Char} {v : Json} {items : List Json} (h : Value s v s')
    (comma : Blank s' (',' :: u)) (blank : Blank u u') (rest : Items u' items t) :
    Items s (v :: items) t

/-- The fields of an object, from the first to behind the closing brace. -/
inductive Fields : List Char → List (String × Json) → List Char → Prop
  | last {s s₁ s₂ s₃ s₄ t : List Char} {key : String} {v : Json} (hkey : Quoted s key s₁)
    (colon : Blank s₁ (':' :: s₂)) (blank : Blank s₂ s₃) (h : Value s₃ v s₄)
    (close : Blank s₄ ('\x7d' :: t)) : Fields s [(key, v)] t
  | cons {s s₁ s₂ s₃ s₄ u u' t : List Char} {key : String} {v : Json}
    {fields : List (String × Json)} (hkey : Quoted s key s₁) (colon : Blank s₁ (':' :: s₂))
    (blank : Blank s₂ s₃) (h : Value s₃ v s₄) (comma : Blank s₄ (',' :: u)) (blank' : Blank u u')
    (rest : Fields u' fields t) : Fields s ((key, v) :: fields) t

end

end Grammar

/-- The text is JSON and denotes the value. -/
def Denotes (text : String) (v : Json) : Prop :=
  ∃ s t, Grammar.Blank text.toList s ∧ Grammar.Value s v t ∧ Grammar.Blank t []

/-! ## White space -/

namespace Grammar

/-- The text is at its end, or begins with white space or with a character that stands behind a
value. -/
def Follows (s : List Char) : Prop := ∀ c ∈ s.head?, c ∈ [' ', '\t', '\n', '\r', ',', ']', '\x7d']

/-- White space ends before what is none. -/
theorem Blank.skipSpaces {s t : List Char} (h : Blank s t)
    (ht : ∀ c ∈ t.head?, Document.isSpace c = Bool.false) : Document.skipSpaces s = t := by
  induction h with
  | none t =>
    cases t with
    | nil => rfl
    | cons c t => exact List.dropWhile_cons_of_neg (by simp [ht c rfl])
  | @cons c s t hc rest ih =>
    have hspace : Document.isSpace c = Bool.true := by
      simp only [List.mem_cons, List.not_mem_nil, or_false] at hc
      rcases hc with rfl | rfl | rfl | rfl <;> rfl
    exact (List.dropWhile_cons_of_pos hspace).trans (ih ht)

/-- White space behind white space. -/
theorem Blank.trans {s t u : List Char} (h : Blank s t) (h' : Blank t u) : Blank s u := by
  induction h with
  | none => exact h'
  | cons hc rest ih => exact .cons hc (ih h')

/-- White space does not make a text longer. -/
theorem Blank.length_le {s t : List Char} (h : Blank s t) : t.length ≤ s.length := by
  induction h with
  | none t => exact Nat.le_refl _
  | cons hc rest ih => exact Nat.le_succ_of_le ih

/-- White space may stand behind a value. -/
theorem Blank.follows {s t : List Char} (h : Blank s t) (ht : Follows t) : Follows s := by
  cases h with
  | none => exact ht
  | cons hc rest =>
    rintro c hc'
    cases hc'
    simp only [List.mem_cons, List.not_mem_nil, or_false] at hc ⊢
    tauto

/-! ## First characters -/

/-- The text begins with a character with which a value can begin. -/
def Starts (s : List Char) : Prop :=
  ∃ c r, s = c :: r ∧ (c ∈ ['n', 't', 'f', '"', '[', '\x7b', '-'] ∨ c.isDigit = Bool.true)

/-- A number begins with a minus or a digit. -/
theorem Numeral.exists_cons (n : Numeral) (t : List Char) :
    ∃ c r, n.text ++ t = c :: r ∧ (c = '-' ∨ c.isDigit = Bool.true) := by
  unfold text
  cases n.negative with
  | true => exact ⟨_, _, rfl, .inl rfl⟩
  | false =>
    obtain ⟨hne, hdigits⟩ := n.whole_digits
    obtain ⟨c, r, hwhole⟩ := List.exists_cons_of_ne_nil hne
    rw [hwhole] at hdigits ⊢
    exact ⟨c, _, rfl, .inr (hdigits c List.mem_cons_self)⟩

/-- A value begins with a character with which one can begin. -/
theorem Value.starts {s t : List Char} {v : Json} (h : Value s v t) : Starts s := by
  cases h with
  | number n denotes t =>
    obtain ⟨c, r, he, hc⟩ := n.exists_cons t
    exact ⟨c, r, he, hc.imp_left fun hc => by simp [hc]⟩
  | text h =>
    cases h
    exact ⟨_, _, rfl, .inl (by simp)⟩
  | null | true | false | emptyArray | array | emptyObject | object =>
    exact ⟨_, _, rfl, .inl (by simp)⟩

/-- No value begins with white space. -/
theorem Starts.not_isSpace {s : List Char} (h : Starts s) :
    ∀ c ∈ s.head?, Document.isSpace c = Bool.false := by
  obtain ⟨c, r, rfl, hc⟩ := h
  intro d hd
  cases hd
  rw [Bool.eq_false_iff]
  intro hspace
  simp only [Document.isSpace, Bool.or_eq_true, beq_iff_eq] at hspace
  rcases hspace with ((rfl | rfl) | rfl) | rfl <;> exact absurd hc (by decide)

/-- The items of an array begin with a value. -/
theorem Items.starts {s t : List Char} {items : List Json} (h : Items s items t) : Starts s := by
  cases h with
  | last h | cons h => exact h.starts

/-- The fields of an object begin with a quote. -/
theorem Fields.exists_cons {s t : List Char} {fields : List (String × Json)}
    (h : Fields s fields t) : ∃ r, s = '"' :: r := by
  cases h with
  | last hkey | cons hkey =>
    cases hkey
    exact ⟨_, rfl⟩

/-! ## Lengths -/

/-- A string leaves less than there was. -/
theorem Units.length_lt {s t : List Char} {units : List CodeUnit} (h : Units s units t) :
    t.length < s.length := by
  induction h with
  | close t => exact Nat.lt_succ_self _
  | cons hw rest ih =>
    rw [List.length_append]
    exact Nat.lt_add_left _ ih

/-- A string in quotes leaves less than there was. -/
theorem Quoted.length_lt {s t : List Char} {text : String} (h : Quoted s text t) :
    t.length < s.length := by
  cases h with
  | mk h => exact Nat.lt_succ_of_lt h.length_lt

mutual

/-- A value leaves less than there was. -/
theorem Value.length_lt {s t : List Char} {v : Json} : Value s v t → t.length < s.length
  | .null t => by simp only [List.length_cons]; omega
  | .true t => by simp only [List.length_cons]; omega
  | .false t => by simp only [List.length_cons]; omega
  | .number n _ t => by
    have hpos : 0 < n.whole.length := List.length_pos_of_ne_nil n.whole_digits.1
    simp only [Numeral.text, List.length_append]
    omega
  | .text h => h.length_lt
  | .emptyArray blank => by
    have hblank := blank.length_le
    simp only [List.length_cons] at hblank ⊢
    omega
  | .array blank h => Nat.lt_succ_of_lt (Nat.lt_of_lt_of_le h.length_lt blank.length_le)
  | .emptyObject blank => by
    have hblank := blank.length_le
    simp only [List.length_cons] at hblank ⊢
    omega
  | .object blank h => Nat.lt_succ_of_lt (Nat.lt_of_lt_of_le h.length_lt blank.length_le)

/-- The items of an array leave less than there was. -/
theorem Items.length_lt {s t : List Char} {items : List Json} : Items s items t → t.length < s.length
  | .last h close => by
    have hvalue := h.length_lt
    have hclose := close.length_le
    simp only [List.length_cons] at hclose
    omega
  | .cons h comma blank rest => by
    have hvalue := h.length_lt
    have hcomma := comma.length_le
    have hblank := blank.length_le
    have hrest := rest.length_lt
    simp only [List.length_cons] at hcomma
    omega

/-- The fields of an object leave less than there was. -/
theorem Fields.length_lt {s t : List Char} {fields : List (String × Json)} :
    Fields s fields t → t.length < s.length
  | .last hkey colon blank h close => by
    have hlength := hkey.length_lt
    have hcolon := colon.length_le
    have hblank := blank.length_le
    have hvalue := h.length_lt
    have hclose := close.length_le
    simp only [List.length_cons] at hcolon hclose
    omega
  | .cons hkey colon blank h comma blank' rest => by
    have hlength := hkey.length_lt
    have hcolon := colon.length_le
    have hblank := blank.length_le
    have hvalue := h.length_lt
    have hcomma := comma.length_le
    have hblank' := blank'.length_le
    have hrest := rest.length_lt
    simp only [List.length_cons] at hcolon hcomma
    omega

end

end Grammar

end RowQuery.Json
