import RowQuery.Proofs.Json.Grammar

/-!
# Texts of the grammar are read

Whatever the grammar derives, the reader reads as a document of the value that is denoted, up to
where the derivation ends (`readValue_of_value`, and `read_of_denotes` for a whole text). What
is left must not go on with a number, and nothing that the grammar leaves does
(`Grammar.Follows`).
-/

namespace RowQuery.Document

open Json.Grammar Text

/-! ## Numbers -/

/-- What may follow a value does not go on with digits. -/
theorem not_isDigit_of_follows {t : List Char} (h : Follows t) :
    ∀ c ∈ t.head?, c.isDigit = false := by
  intro c hc
  have hmem := h c hc
  simp only [List.mem_cons, List.not_mem_nil, or_false] at hmem
  rcases hmem with rfl | rfl | rfl | rfl | rfl | rfl | rfl <;> rfl

/-- Digits are read up to what is none. -/
theorem digitRun_append {digits rest : List Char} (h : ∀ c ∈ digits, c.isDigit = true)
    (hrest : ∀ c ∈ rest.head?, c.isDigit = false) : digitRun (digits ++ rest) = (digits, rest) := by
  have htake : rest.takeWhile Char.isDigit = [] := by
    cases rest with
    | nil => rfl
    | cons c rest => exact List.takeWhile_cons_of_neg (by simp [hrest c rfl])
  have hdrop : rest.dropWhile Char.isDigit = rest := by
    cases rest with
    | nil => rfl
    | cons c rest => exact List.dropWhile_cons_of_neg (by simp [hrest c rfl])
  rw [digitRun, List.takeWhile_append_of_pos h, List.dropWhile_append_of_pos h, htake, hdrop,
    List.append_nil]

/-- A sign is read before digits. -/
theorem optionalSign_append {sign digits : List Char} (hsign : sign ∈ [[], ['+'], ['-']])
    (hdigits : Digits digits) (rest : List Char) :
    optionalSign (sign ++ (digits ++ rest)) = (decide (sign = ['-']), digits ++ rest) := by
  simp only [List.mem_cons, List.not_mem_nil, or_false] at hsign
  rcases hsign with rfl | rfl | rfl
  · obtain ⟨hne, hdigit⟩ := hdigits
    obtain ⟨c, r, rfl⟩ := List.exists_cons_of_ne_nil hne
    have hc := hdigit c List.mem_cons_self
    show optionalSign (c :: (r ++ rest)) = _
    unfold optionalSign
    split
    · next h => cases h; cases hc
    · next h => cases h; cases hc
    · rfl
  · rfl
  · rfl

/-- The exponent of a number is read, if there is one. -/
theorem readExponent_append (negative : Bool) (whole : List Char) (places? : Option (List Char))
    (exponent? : Option Exponent) {t : List Char} (ht : Follows t) :
    readExponent negative whole places? ((exponent?.map Exponent.text).getD [] ++ t) =
      (numberOf negative whole places? (exponent?.map Exponent.value), some t) := by
  cases exponent? with
  | none =>
    cases t with
    | nil => rfl
    | cons c t =>
      have hmark : ¬ (c = 'e' ∨ c = 'E') := by
        have hc := ht c rfl
        rintro (rfl | rfl) <;> exact absurd hc (by decide)
      show readExponent negative whole places? (c :: t) = _
      rw [readExponent, if_neg hmark]
      rfl
  | some e =>
    have hmark : e.mark = 'e' ∨ e.mark = 'E' := by simpa using e.mark_mem
    have hrun : digitRun (e.digits ++ t) = (e.digits, t) :=
      digitRun_append e.digits_digits.2 (not_isDigit_of_follows ht)
    have hne : e.digits.isEmpty = false := by simpa using e.digits_digits.1
    show readExponent negative whole places? (e.mark :: ((e.sign ++ e.digits) ++ t)) = _
    rw [List.append_assoc, readExponent, if_pos hmark,
      optionalSign_append e.sign_mem e.digits_digits]
    simp only [hrun, hne, Bool.false_eq_true, if_false, decide_eq_true_eq]
    rfl

/-- What follows the whole part of a number does not go on with it. -/
theorem head_exponent (exponent? : Option Exponent) {t : List Char} (ht : Follows t) :
    ∀ c ∈ ((exponent?.map Exponent.text).getD [] ++ t).head?, c.isDigit = false ∧ c ≠ '.' := by
  intro c hc
  cases exponent? with
  | none =>
    refine ⟨not_isDigit_of_follows ht c hc, ?_⟩
    rintro rfl
    exact absurd (ht _ hc) (by decide)
  | some e =>
    obtain rfl : e.mark = c := Option.some.inj hc
    have hmark := e.mark_mem
    simp only [List.mem_cons, List.not_mem_nil, or_false] at hmark
    rcases hmark with h | h <;> rw [h] <;> decide

/-- The digits of a number are read, and what belongs to it behind them. -/
theorem readUnsigned_append (n : Numeral) {t : List Char} (ht : Follows t) :
    readUnsigned n.negative
        (n.whole ++ (n.fraction ++ ((n.exponent?.map Exponent.text).getD [] ++ t))) =
      (n.token, some t) := by
  have hhead := head_exponent n.exponent? ht
  have hexponent := readExponent_append n.negative n.whole n.places? n.exponent? ht
  unfold Numeral.fraction Numeral.token
  generalize (n.exponent?.map Exponent.text).getD [] ++ t = behind at hhead hexponent
  cases hplaces : n.places? with
  | none =>
    rw [hplaces] at hexponent
    have hrun : digitRun (n.whole ++ behind) = (n.whole, behind) :=
      digitRun_append n.whole_digits.2 fun c hc => (hhead c hc).1
    show readUnsigned n.negative (n.whole ++ behind) = _
    rw [readUnsigned, hrun]
    dsimp only
    split
    · next h => exact absurd h n.whole_digits.1
    · next h =>
      have hzero := n.zero_alone (by rw [h]; rfl)
      rw [h] at hzero
      cases hzero
    · split
      · next afterPoint => exact absurd rfl (hhead '.' rfl).2
      · exact hexponent
  | some places =>
    rw [hplaces] at hexponent
    obtain ⟨hne, hdigits⟩ := n.places_digits places hplaces
    have hrun : digitRun (n.whole ++ ('.' :: (places ++ behind))) =
        (n.whole, '.' :: (places ++ behind)) :=
      digitRun_append n.whole_digits.2 fun c hc => by
        cases hc
        rfl
    have hrun' : digitRun (places ++ behind) = (places, behind) :=
      digitRun_append hdigits fun c hc => (hhead c hc).1
    have hnonempty : places.isEmpty = false := by simpa using hne
    show readUnsigned n.negative (n.whole ++ ('.' :: (places ++ behind))) = _
    rw [readUnsigned, hrun]
    dsimp only
    split
    · next h => exact absurd h n.whole_digits.1
    · next h =>
      have hzero := n.zero_alone (by rw [h]; rfl)
      rw [h] at hzero
      cases hzero
    · simp only [hrun', hnonempty, Bool.false_eq_true, if_false]
      exact hexponent

/-- A number is read. -/
theorem readNumber_append (n : Numeral) {t : List Char} (ht : Follows t) :
    readNumber (n.text ++ t) = (n.token, some t) := by
  have hunsigned := readUnsigned_append n ht
  unfold Numeral.text
  cases hnegative : n.negative with
  | true =>
    rw [hnegative] at hunsigned
    simpa [readNumber] using hunsigned
  | false =>
    rw [hnegative] at hunsigned
    obtain ⟨hne, hdigits⟩ := n.whole_digits
    obtain ⟨c, r, hwhole⟩ := List.exists_cons_of_ne_nil hne
    have hc := hdigits c (hwhole ▸ List.mem_cons_self)
    rw [hwhole] at hunsigned ⊢
    simp only [Bool.false_eq_true, if_false, List.nil_append, List.cons_append, List.append_assoc]
      at hunsigned ⊢
    unfold readNumber
    split
    · next h =>
      cases h
      cases hc
    · exact hunsigned

/-! ## Strings -/

/-- The letter behind a backslash is read as the character that it stands for. -/
theorem unescape?_of_mem {letter c : Char} (h : (letter, c) ∈ escapes) :
    letter ≠ 'u' ∧ unescape? letter = some c := by
  simp only [escapes, List.mem_cons, Prod.mk.injEq, List.not_mem_nil, or_false] at h
  rcases h with ⟨rfl, rfl⟩ | ⟨rfl, rfl⟩ | ⟨rfl, rfl⟩ | ⟨rfl, rfl⟩ | ⟨rfl, rfl⟩ | ⟨rfl, rfl⟩ |
    ⟨rfl, rfl⟩ | ⟨rfl, rfl⟩ <;> exact ⟨by decide, rfl⟩

/-- A string is read unit by unit up to its closing quote. -/
theorem readString_of_units {s t : List Char} {units : List CodeUnit} (h : Units s units t) :
    readString s = (⟨units, none⟩, some t) := by
  induction h with
  | close t => rw [readString]
  | @cons w s t u units hw _ ih =>
    cases hw with
    | @plain c control quote backslash =>
      show readString (c :: s) = _
      unfold readString
      split
      · next h => cases h
      · next h =>
        cases h
        exact absurd rfl quote
      · next h =>
        cases h
        exact absurd rfl backslash
      · next h =>
        cases h
        exact absurd rfl backslash
      · next h =>
        cases h
        exact absurd rfl backslash
      · next h =>
        cases h
        exact absurd rfl backslash
      · next h =>
        cases h
        rw [if_neg (Nat.not_lt.2 control), ih]
        rfl
    | @escape letter c hmem =>
      obtain ⟨hu, hletter⟩ := unescape?_of_mem hmem
      show readString ('\\' :: letter :: s) = _
      rw [readString, hletter, ih]
      · rfl
      · rintro a b c d s' rfl
        exact absurd rfl hu
      · rintro rfl
        exact absurd rfl hu
    | @code a b c d n hcode =>
      show readString ('\\' :: 'u' :: a :: b :: c :: d :: s) = _
      rw [readString, hcode, ih]
      rfl

/-! ## Tokens -/

/-- A number begins a token. -/
theorem readToken?_of_number {c : Char} {s : List Char} (hc : c = '-' ∨ c.isDigit = true) :
    readToken? (c :: s) = some (.number (readNumber (c :: s)).1, (readNumber (c :: s)).2) := by
  unfold readToken?
  split
  · next h => cases h; exact absurd hc (by decide)
  · next h => cases h; exact absurd hc (by decide)
  · next h => cases h; exact absurd hc (by decide)
  · next h => cases h; exact absurd hc (by decide)
  · next h => cases h; exact if_pos hc
  · next h => cases h

/-- A key is read. -/
theorem readKey_of_quoted {s t : List Char} {name : String} (h : Quoted s name t) :
    ∃ k, readKey s = (k, some t) ∧ k.key = .ok name := by
  obtain @⟨s, _, units, _, hunits, hname⟩ := h
  refine ⟨.string ⟨units, none⟩, ?_, hname⟩
  simp only [readKey, readToken?, readString_of_units hunits]
  rfl

/-- Where a token begins, a value is read as the token. -/
theorem readValue_of_token {s₀ s : List Char} {r : Document × Rest} (hs : skipSpaces s₀ = s)
    (htoken : readToken? s = some r) (fuel room : Nat) : readValue (fuel + 1) room s₀ = r := by
  rw [readValue, hs]
  split
  · cases htoken
  · cases htoken
  · simp only [htoken]

/-! ## Values -/

/-- An array that begins with a value is read item by item. -/
theorem readValue_of_items {s₀ s s' : List Char} (hs : skipSpaces s₀ = '[' :: s)
    (hs' : skipSpaces s = s') (h : Starts s') (fuel room : Nat) :
    readValue (fuel + 1) room s₀ =
      (.array (room == 0) (readItems fuel (room - 1) s').1 (readItems fuel (room - 1) s').2.1,
        (readItems fuel (room - 1) s').2.2) := by
  obtain ⟨c, r, rfl, hc⟩ := h
  rw [readValue, hs]
  simp only [hs']
  split
  · next h => cases h; exact absurd hc (by decide)
  · next h => cases h
  · rfl

/-- An object that begins with a quote is read field by field. -/
theorem readValue_of_fields {s₀ s s' : List Char} (hs : skipSpaces s₀ = '\x7b' :: s)
    (hs' : skipSpaces s = '"' :: s') (fuel room : Nat) :
    readValue (fuel + 1) room s₀ =
      (.object (room == 0) (readFields fuel (room - 1) ('"' :: s')).1
          (readFields fuel (room - 1) ('"' :: s')).2.1,
        (readFields fuel (room - 1) ('"' :: s')).2.2) := by
  rw [readValue, hs]
  simp only [hs']
  rfl

/-- Neither a comma nor a closing bracket is white space, and both may stand behind a value. -/
theorem follows_of_blank {c : Char} {s t : List Char} (hc : c ∈ [',', ']', '\x7d'])
    (h : Blank s (c :: t)) : Follows s ∧ skipSpaces s = c :: t := by
  simp only [List.mem_cons, List.not_mem_nil, or_false] at hc
  constructor
  · refine h.follows fun d hd => ?_
    cases hd
    rcases hc with rfl | rfl | rfl <;> decide
  · refine h.skipSpaces fun d hd => ?_
    cases hd
    rcases hc with rfl | rfl | rfl <;> rfl

-- The induction is on the fuel. Two units for each character are enough, with one more for a value
-- and two more for a list: reading a list takes a unit before its first value, which is as long as
-- the list, and everything after that is shorter by at least the bracket or the comma.

mutual

/-- A value of the grammar is read, behind white space, as a document of the value. -/
theorem readValue_of_value : ∀ (fuel room : Nat) {s₀ s t : List Char} {v : Json},
    Blank s₀ s → Value s v t → Follows t → v.nesting ≤ room → 2 * s.length + 1 ≤ fuel →
      ∃ d, readValue fuel room s₀ = (d, some t) ∧ d.strict = .ok v
  | 0, _, _, _, _, _, _, _, _, _, hfuel => absurd hfuel (by omega)
  | fuel + 1, room, s₀, s, t, v, blank₀, h, ht, hroom, hfuel => by
    have hs := blank₀.skipSpaces h.starts.not_isSpace
    cases h with
    | null => exact ⟨_, readValue_of_token hs rfl fuel room, rfl⟩
    | true => exact ⟨_, readValue_of_token hs rfl fuel room, rfl⟩
    | false => exact ⟨_, readValue_of_token hs rfl fuel room, rfl⟩
    | number n denotes =>
      obtain ⟨c, r, hcons, hc⟩ := n.exists_cons t
      have htoken := readToken?_of_number (s := r) hc
      rw [← hcons, readNumber_append n ht, denotes] at htoken
      exact ⟨_, readValue_of_token hs htoken fuel room, rfl⟩
    | text h =>
      obtain @⟨s, _, units, text, hunits, htext⟩ := h
      refine ⟨.string ⟨units, none⟩, readValue_of_token hs ?_ fuel room, strict_eq_ok.2 (.text htext)⟩
      simp only [readToken?, readString_of_units hunits]
    | emptyArray blank =>
      obtain ⟨room, rfl⟩ := Nat.exists_eq_succ_of_ne_zero (Nat.pos_iff_ne_zero.1 hroom)
      have hclose := (follows_of_blank (by decide) blank).2
      refine ⟨.array false [] none, ?_, rfl⟩
      rw [readValue, hs]
      simp only [hclose]
      rfl
    | @array s s' _ items blank h =>
      obtain ⟨room, rfl⟩ := Nat.exists_eq_succ_of_ne_zero (Nat.ne_zero_of_lt hroom)
      have hlength := blank.length_le
      obtain ⟨docs, hread, hdocs⟩ := readItems_of_items fuel room (.none s') h
        (Nat.le_of_succ_le_succ hroom) (by simp only [List.length_cons] at hfuel; omega)
      have hvalue := readValue_of_items hs (blank.skipSpaces h.starts.not_isSpace) h.starts fuel
        (room + 1)
      rw [Nat.add_sub_cancel, hread] at hvalue
      exact ⟨_, hvalue, strict_eq_ok.2 (.array (strictItems_eq_ok.1 hdocs))⟩
    | emptyObject blank =>
      obtain ⟨room, rfl⟩ := Nat.exists_eq_succ_of_ne_zero (Nat.pos_iff_ne_zero.1 hroom)
      have hclose := (follows_of_blank (by decide) blank).2
      refine ⟨.object false [] none, ?_, rfl⟩
      rw [readValue, hs]
      simp only [hclose]
      rfl
    | @object s s' _ fields blank h =>
      obtain ⟨room, rfl⟩ := Nat.exists_eq_succ_of_ne_zero (Nat.ne_zero_of_lt hroom)
      have hlength := blank.length_le
      obtain ⟨docs, hread, hdocs⟩ := readFields_of_fields fuel room (.none s') h
        (Nat.le_of_succ_le_succ hroom) (by simp only [List.length_cons] at hfuel; omega)
      obtain ⟨s', rfl⟩ := h.exists_cons
      have hvalue := readValue_of_fields hs (blank.skipSpaces fun c hc => by cases hc; rfl) fuel
        (room + 1)
      rw [Nat.add_sub_cancel, hread] at hvalue
      exact ⟨_, hvalue, strict_eq_ok.2 (.object (strictFields_eq_ok.1 hdocs))⟩

/-- Items of the grammar are read as documents of them. -/
theorem readItems_of_items : ∀ (fuel room : Nat) {s₀ s t : List Char} {items : List Json},
    Blank s₀ s → Items s items t → Json.nestingOfItems items ≤ room → 2 * s.length + 2 ≤ fuel →
      ∃ docs, readItems fuel room s₀ = (docs, none, some t) ∧ strictItems docs = .ok items
  | 0, _, _, _, _, _, _, _, _, hfuel => absurd hfuel (by omega)
  | fuel + 1, room, s₀, s, t, items, blank₀, h, hroom, hfuel => by
    cases h with
    | last h close =>
      obtain ⟨hfollows, hclose⟩ := follows_of_blank (by decide) close
      obtain ⟨d, hread, hd⟩ := readValue_of_value fuel room blank₀ h hfollows
        (Json.nestingOfItems_le.1 hroom _ List.mem_cons_self) (by omega)
      refine ⟨[d], ?_, strictItems_eq_ok.2 (.cons hd .nil)⟩
      rw [readItems, hread]
      simp only [hclose]
    | cons h comma blank rest =>
      obtain ⟨hfollows, hcomma⟩ := follows_of_blank (by decide) comma
      obtain ⟨hv, hitems⟩ := Nat.max_le.1 hroom
      obtain ⟨d, hread, hd⟩ := readValue_of_value fuel room blank₀ h hfollows hv (by omega)
      have hlength : _ < _ := h.length_lt
      have hlength' := comma.length_le
      have hlength'' := blank.length_le
      obtain ⟨docs, hreads, hdocs⟩ := readItems_of_items fuel room blank rest hitems
        (by simp only [List.length_cons] at hlength'; omega)
      refine ⟨d :: docs, ?_, strictItems_eq_ok.2 (.cons hd (strictItems_eq_ok.1 hdocs))⟩
      rw [readItems, hread]
      simp only [hcomma, hreads]

/-- Fields of the grammar are read as documents of them. -/
theorem readFields_of_fields : ∀ (fuel room : Nat) {s₀ s t : List Char}
    {fields : List (String × Json)}, Blank s₀ s → Fields s fields t →
      Json.nestingOfFields fields ≤ room → 2 * s.length + 2 ≤ fuel →
      ∃ docs, readFields fuel room s₀ = (docs, none, some t) ∧ strictFields docs = .ok fields
  | 0, _, _, _, _, _, _, _, _, hfuel => absurd hfuel (by omega)
  | fuel + 1, room, s₀, s, t, fields, blank₀, h, hroom, hfuel => by
    have hs : skipSpaces s₀ = s := by
      obtain ⟨s', rfl⟩ := h.exists_cons
      exact blank₀.skipSpaces fun c hc => by cases hc; rfl
    rw [readFields, hs]
    cases h with
    | last hkey colon blank h close =>
      obtain ⟨hfollows, hclose⟩ := follows_of_blank (by decide) close
      obtain ⟨k, hreadKey, hk⟩ := readKey_of_quoted hkey
      have hkeyLength := hkey.length_lt
      have hcolonLength := colon.length_le
      have hblankLength := blank.length_le
      obtain ⟨d, hread, hd⟩ := readValue_of_value fuel room blank h hfollows
        (Json.nestingOfFields_le.1 hroom _ List.mem_cons_self)
        (by simp only [List.length_cons] at hcolonLength; omega)
      refine ⟨[(k, d)], ?_, strictFields_eq_ok.2 (.cons ⟨hk, hd⟩ .nil)⟩
      simp only [hreadKey, colon.skipSpaces fun c hc => by cases hc; rfl, hread, hclose]
    | cons hkey colon blank h comma blank' rest =>
      obtain ⟨hfollows, hcomma⟩ := follows_of_blank (by decide) comma
      obtain ⟨k, hreadKey, hk⟩ := readKey_of_quoted hkey
      obtain ⟨hv, hfields⟩ := Nat.max_le.1 hroom
      have hkeyLength := hkey.length_lt
      have hcolonLength := colon.length_le
      have hblankLength := blank.length_le
      have hlength := h.length_lt
      have hcommaLength := comma.length_le
      have hblankLength' := blank'.length_le
      simp only [List.length_cons] at hcolonLength hcommaLength
      obtain ⟨d, hread, hd⟩ := readValue_of_value fuel room blank h hfollows hv (by omega)
      obtain ⟨docs, hreads, hdocs⟩ := readFields_of_fields fuel room blank' rest hfields (by omega)
      refine ⟨(k, d) :: docs, ?_, strictFields_eq_ok.2 (.cons ⟨hk, hd⟩ (strictFields_eq_ok.1 hdocs))⟩
      simp only [hreadKey, colon.skipSpaces fun c hc => by cases hc; rfl, hread, hcomma, hreads]

end

/-- A text of the grammar that is not nested too deep is read as a document of what it denotes. -/
theorem read_of_denotes {text : String} {v : Json} (h : Json.Denotes text v)
    (hnesting : v.nesting ≤ maxNesting) : ∃ d, read text = (d, none) ∧ d.strict = .ok v := by
  obtain ⟨s, t, blank, hvalue, behind⟩ := h
  have hlength := blank.length_le
  obtain ⟨d, hread, hd⟩ := readValue_of_value (2 * text.length + 2) maxNesting blank hvalue
    (behind.follows fun _ hc => nomatch hc) hnesting
    (by rw [String.length_toList] at hlength; omega)
  refine ⟨d, ?_, hd⟩
  rw [read, readWithin, hread]
  simp only [behind.skipSpaces fun _ hc => nomatch hc]
  rfl

end RowQuery.Document
