import RowQuery.Proofs.Json.Reader

/-!
# The reader reads the grammar

Whatever the reader takes from a text as a document of a value, the grammar derives
(`value_of_readValue`), from the parts of a number upward. With the converse, a text denotes a value
that is not nested too deep when it is read as a document of it (`denotes_iff`): the grammar and the
reader have the same texts.
-/

namespace RowQuery.Document

open Json.Grammar Text

/-- White space is what is passed over before a token. -/
theorem blank_skipSpaces (s : List Char) : Blank s (skipSpaces s) := by
  induction s with
  | nil => exact .none []
  | cons c s ih =>
    unfold skipSpaces
    rw [List.dropWhile_cons]
    split
    · next h =>
      simp only [isSpace, Bool.or_eq_true, beq_iff_eq] at h
      exact .cons (by simp; tauto) ih
    · exact .none _

/-! ## Numbers -/

/-- The digits of a run and what follows them make up the text. -/
theorem digitRun_eq {s digits rest : List Char} (h : digitRun s = (digits, rest)) :
    s = digits ++ rest ∧ ∀ c ∈ digits, c.isDigit = true := by
  cases h
  exact ⟨List.takeWhile_append_dropWhile.symm, List.all_eq_true.1 List.all_takeWhile⟩

/-- A sign is one of three texts. -/
theorem optionalSign_eq {s rest : List Char} {down : Bool} (h : optionalSign s = (down, rest)) :
    ∃ sign ∈ [[], ['+'], ['-']], s = sign ++ rest ∧ down = decide (sign = ['-']) := by
  unfold optionalSign at h
  split at h <;> cases h
  · exact ⟨['-'], by decide, rfl, rfl⟩
  · exact ⟨['+'], by decide, rfl, rfl⟩
  · exact ⟨[], by decide, rfl, rfl⟩

variable {negative : Bool} {whole s : List Char} {places? : Option (List Char)}
  {v : Json.Number} {rest : Rest}

/-- What is read behind the digits of a number is an exponent or nothing. -/
theorem exponent_of_readExponent
    (h : readExponent negative whole places? s = (.value v, rest)) :
    ∃ (exponent? : Option Exponent) (t : List Char), rest = some t ∧
      s = (exponent?.map Exponent.text).getD [] ++ t ∧
      numberOf negative whole places? (exponent?.map Exponent.value) = .value v := by
  unfold readExponent at h
  split at h
  · next mark afterMark =>
    split at h
    · next hmark =>
      rcases hsign : optionalSign afterMark with ⟨down, afterSign⟩
      rcases hdigits : digitRun afterSign with ⟨digits, behind⟩
      rw [hsign] at h
      dsimp only at h
      rw [hdigits] at h
      dsimp only at h
      split at h
      · cases h
      · next hne =>
        obtain ⟨hnumber, rfl⟩ := Prod.mk.inj h
        obtain ⟨sign, hmem, rfl, rfl⟩ := optionalSign_eq hsign
        obtain ⟨rfl, hdigit⟩ := digitRun_eq hdigits
        refine ⟨some ⟨mark, sign, digits, by simpa using hmark, hmem, by simpa using hne, hdigit⟩,
          behind, rfl, ?_, ?_⟩
        · simp [Exponent.text]
        · rw [← hnumber]
          simp [Exponent.value]
    · obtain ⟨hnumber, rfl⟩ := Prod.mk.inj h
      exact ⟨none, _, rfl, rfl, hnumber⟩
  · obtain ⟨hnumber, rfl⟩ := Prod.mk.inj h
    exact ⟨none, _, rfl, rfl, hnumber⟩

/-- The digits that are read are a number with the sign before them. -/
theorem numeral_of_readUnsigned (h : readUnsigned negative s = (.value v, rest)) :
    ∃ (n : Numeral) (t : List Char), rest = some t ∧ n.negative = negative ∧ n.token = .value v ∧
      s = n.whole ++ (n.fraction ++ ((n.exponent?.map Exponent.text).getD [] ++ t)) := by
  unfold readUnsigned at h
  rcases hwhole : digitRun s with ⟨whole, afterWhole⟩
  rw [hwhole] at h
  dsimp only at h
  obtain ⟨rfl, hdigits⟩ := digitRun_eq hwhole
  split at h
  · cases h
  · cases h
  · next hne hzero =>
    have hzero_alone : whole.head? = some '0' → whole = ['0'] := by
      intro hhead
      match whole, hhead with
      | [_], rfl => rfl
      | _ :: c :: whole, rfl => exact absurd rfl (hzero c whole)
    split at h
    · next afterPoint =>
      rcases hplaces : digitRun afterPoint with ⟨places, behind⟩
      rw [hplaces] at h
      dsimp only at h
      obtain ⟨rfl, hplace⟩ := digitRun_eq hplaces
      split at h
      · cases h
      · next hsome =>
        obtain ⟨exponent?, t, rfl, rfl, hnumber⟩ := exponent_of_readExponent h
        refine ⟨⟨negative, whole, some places, exponent?, ⟨hne, hdigits⟩, hzero_alone, ?_⟩, t, rfl,
          rfl, hnumber, by simp [Numeral.fraction]⟩
        rintro _ ⟨⟩
        exact ⟨by simpa using hsome, hplace⟩
    · obtain ⟨exponent?, t, rfl, rfl, hnumber⟩ := exponent_of_readExponent h
      exact ⟨⟨negative, whole, none, exponent?, ⟨hne, hdigits⟩, hzero_alone, fun _ hp => nomatch hp⟩,
        t, rfl, rfl, hnumber, rfl⟩

/-- What is read as a number is one. -/
theorem numeral_of_readNumber (h : readNumber s = (.value v, rest)) :
    ∃ (n : Numeral) (t : List Char), rest = some t ∧ s = n.text ++ t ∧ n.token = .value v := by
  unfold readNumber at h
  split at h
  · obtain ⟨n, t, hrest, hnegative, hvalue, hs⟩ := numeral_of_readUnsigned h
    refine ⟨n, t, hrest, ?_, hvalue⟩
    rw [hs]
    simp [Numeral.text, hnegative]
  · obtain ⟨n, t, hrest, hnegative, hvalue, hs⟩ := numeral_of_readUnsigned h
    refine ⟨n, t, hrest, ?_, hvalue⟩
    rw [hs]
    simp [Numeral.text, hnegative]

/-! ## Strings -/

/-- A letter that stands for a character behind a backslash is one of those that do. -/
theorem mem_escapes {letter c : Char} (h : unescape? letter = some c) : (letter, c) ∈ escapes := by
  unfold unescape? at h
  split at h <;> cases h <;> decide

/-- What is read behind a unit is a string without it. -/
theorem of_consUnit {u : CodeUnit} {r : StringToken × Rest} {units : List CodeUnit} {rest : Rest}
    (h : consUnit u r = (⟨units, none⟩, rest)) :
    ∃ others, units = u :: others ∧ r = (⟨others, none⟩, rest) := by
  obtain ⟨⟨others, stop⟩, left⟩ := r
  cases h
  exact ⟨others, rfl, rfl⟩

/-- What is read as a string up to a closing quote is one. -/
theorem units_of_readString {s : List Char} {units : List CodeUnit} {rest : Rest} :
    readString s = (⟨units, none⟩, rest) → ∃ t, rest = some t ∧ Units s units t := by
  fun_induction readString s generalizing units with
  | case1 => exact fun h => nomatch h
  | case2 s =>
    intro h
    cases h
    exact ⟨s, rfl, .close s⟩
  | case3 a b c d s n hcode ih =>
    intro h
    obtain ⟨others, rfl, hothers⟩ := of_consUnit h
    obtain ⟨t, hrest, ht⟩ := ih hothers
    exact ⟨t, hrest, .cons (.code hcode) ht⟩
  | case4 => exact fun h => nomatch h
  | case5 => exact fun h => nomatch h
  | case6 letter s hu hu' c hletter ih =>
    intro h
    obtain ⟨others, rfl, hothers⟩ := of_consUnit h
    obtain ⟨t, hrest, ht⟩ := ih hothers
    exact ⟨t, hrest, .cons (.escape (mem_escapes hletter)) ht⟩
  | case7 => exact fun h => nomatch h
  | case8 => exact fun h => nomatch h
  | case9 => exact fun h => nomatch h
  | case10 c s quote code escape backslash single control ih =>
    intro h
    obtain ⟨others, rfl, hothers⟩ := of_consUnit h
    obtain ⟨t, hrest, ht⟩ := ih hothers
    refine ⟨t, hrest, .cons (.plain (Nat.not_lt.1 control) quote ?_) ht⟩
    rintro rfl
    cases s with
    | nil => exact single rfl rfl
    | cons c s => exact backslash c s rfl rfl

/-! ## Tokens -/

/-- A word that is read to its end is the word. -/
theorem eq_of_readWord {value b? : Option Bool} {letters s : List Char} {rest : Rest}
    (h : readWord value letters s = (.ok b?, rest)) :
    ∃ t, rest = some t ∧ b? = value ∧ s = letters ++ t := by
  induction letters generalizing s with
  | nil =>
    cases h
    exact ⟨s, rfl, rfl, rfl⟩
  | cons c letters ih =>
    cases s with
    | nil => cases h
    | cons d s =>
      unfold readWord at h
      split at h
      · next hc =>
        obtain ⟨t, hrest, hb, hs⟩ := ih h
        exact ⟨t, hrest, hb, by rw [hc, hs, List.cons_append]⟩
      · cases h

/-- The value of a word. -/
def wordValue : Option Bool → Json
  | none => .null
  | some b => .bool b

/-- What is read as a word with a value is the word. -/
theorem word_of_readWord {value : Option Bool} {letters s : List Char} {rest : Rest} {v : Json}
    (h : (word (readWord value letters s).1).strict = .ok v)
    (hrest : (readWord value letters s).2 = rest) :
    ∃ t, rest = some t ∧ s = letters ++ t ∧ v = wordValue value := by
  rcases hword : readWord value letters s with ⟨w, behind⟩
  rw [hword] at h hrest
  obtain ⟨b?, rfl, rfl⟩ := map_eq_ok.1 h
  obtain ⟨t, ht, rfl, hs⟩ := eq_of_readWord hword
  refine ⟨t, hrest.symm.trans ht, hs, ?_⟩
  cases b? <;> rfl

/-- What is read as a word, number or string with a value is the value. -/
theorem value_of_readToken? {s : List Char} {rest : Rest} {d : Document} {v : Json}
    (h : readToken? s = some (d, rest)) (hd : d.strict = .ok v) :
    ∃ t, rest = some t ∧ Value s v t := by
  unfold readToken? at h
  split at h
  · next s =>
    rcases hstring : readString s with ⟨⟨units, stop⟩, behind⟩
    rw [hstring] at h
    cases h
    cases strict_eq_ok.1 hd with
    | text htext =>
      obtain ⟨cs, hcs, -⟩ := map_eq_ok.1 htext
      obtain rfl : stop = none := stop_of_pairUnits hcs
      obtain ⟨t, hrest, hunits⟩ := units_of_readString hstring
      exact ⟨t, hrest, .text (.mk hunits htext)⟩
  · cases h
    obtain ⟨t, hrest, rfl, rfl⟩ := word_of_readWord hd rfl
    exact ⟨t, hrest, .null t⟩
  · cases h
    obtain ⟨t, hrest, rfl, rfl⟩ := word_of_readWord hd rfl
    exact ⟨t, hrest, .true t⟩
  · cases h
    obtain ⟨t, hrest, rfl, rfl⟩ := word_of_readWord hd rfl
    exact ⟨t, hrest, .false t⟩
  · next c s _ _ _ _ =>
    split at h
    · rcases hnumber : readNumber (c :: s) with ⟨n, behind⟩
      rw [hnumber] at h
      cases h
      cases strict_eq_ok.1 hd with
      | number v =>
        obtain ⟨n, t, hrest, hs, hn⟩ := numeral_of_readNumber hnumber
        rw [hs]
        exact ⟨t, hrest, .number n hn t⟩
    · cases h
  · cases h

/-- What is read as a key with a text is the text in quotes. -/
theorem quoted_of_readKey {s t : List Char} {k : Document} {name : String}
    (h : readKey s = (k, some t)) (hk : k.key = .ok name) : Quoted s name t := by
  unfold readKey at h
  split at h
  · cases h
  · cases h
  · split at h
    · next token rest htoken =>
      cases h
      have hstring : (string token).strict = .ok (.text name) := map_eq_ok.2 ⟨name, hk, rfl⟩
      obtain ⟨_, ⟨⟩, hvalue⟩ := value_of_readToken? htoken hstring
      cases hvalue with
      | text h => exact h
    · cases h
    · cases h

/-! ## Values -/

-- Here the fuel and the room need no bound: where one of them is used up, what is read holds a fault
-- or a mark, and has no value.

mutual

/-- What is read as a document of a value is the value, behind white space. -/
theorem value_of_readValue : ∀ (fuel room : Nat) {s₀ : List Char} {rest : Rest} {d : Document}
    {v : Json}, readValue fuel room s₀ = (d, rest) → d.strict = .ok v →
      ∃ t, rest = some t ∧ ∃ s, Blank s₀ s ∧ Value s v t
  | 0, _, _, _, _, _, h, hd => by
    cases h
    cases hd
  | fuel + 1, room, s₀, rest, d, v, h, hd => by
    suffices hvalue : ∃ t, rest = some t ∧ Value (skipSpaces s₀) v t by
      obtain ⟨t, hrest, hvalue⟩ := hvalue
      exact ⟨t, hrest, _, blank_skipSpaces s₀, hvalue⟩
    rw [readValue] at h
    split at h
    · next s hs =>
      rw [hs]
      generalize (room == 0) = tooDeep at h
      split at h
      next items stop behind hparts =>
      cases h
      cases strict_eq_ok.1 hd with
      | array hitems =>
        split at hparts
        · next s' hs' =>
          cases hparts
          cases hitems
          exact ⟨s', rfl, .emptyArray (hs' ▸ blank_skipSpaces s)⟩
        · cases hparts
        · obtain ⟨t, hrest, s', blank, hs'⟩ := items_of_readItems fuel (room - 1) hparts
            (strictItems_eq_ok.2 hitems)
          exact ⟨t, hrest, .array ((blank_skipSpaces s).trans blank) hs'⟩
    · next s hs =>
      rw [hs]
      generalize (room == 0) = tooDeep at h
      split at h
      next fields stop behind hparts =>
      cases h
      cases strict_eq_ok.1 hd with
      | object hfields =>
        split at hparts
        · next s' hs' =>
          cases hparts
          cases hfields
          exact ⟨s', rfl, .emptyObject (hs' ▸ blank_skipSpaces s)⟩
        · cases hparts
        · obtain ⟨t, hrest, s', blank, hs'⟩ := fields_of_readFields fuel (room - 1) hparts
            (strictFields_eq_ok.2 hfields)
          exact ⟨t, hrest, .object ((blank_skipSpaces s).trans blank) hs'⟩
    · split at h
      · next htoken =>
        rw [h] at htoken
        exact value_of_readToken? htoken hd
      · cases h
        cases hd

/-- What is read as documents of items up to a bracket are the items, behind white space. -/
theorem items_of_readItems : ∀ (fuel room : Nat) {s₀ : List Char} {rest : Rest}
    {docs : List Document} {items : List Json}, readItems fuel room s₀ = (docs, none, rest) →
      strictItems docs = .ok items → ∃ t, rest = some t ∧ ∃ s, Blank s₀ s ∧ Items s items t
  | 0, _, _, _, _, _, h, _ => nomatch h
  | fuel + 1, room, s₀, rest, docs, items, h, hdocs => by
    rw [readItems] at h
    split at h
    · cases h
    · next d s₁ hread =>
      split at h
      · next s₂ hs₂ =>
        rcases hreads : readItems fuel room s₂ with ⟨others, stop, behind⟩
        rw [hreads] at h
        cases h
        cases strictItems_eq_ok.1 hdocs with
        | cons hd hothers =>
          obtain ⟨_, ⟨⟩, s, blank, hv⟩ := value_of_readValue fuel room hread hd
          obtain ⟨t, hrest, s', blank', hitems⟩ := items_of_readItems fuel room hreads
            (strictItems_eq_ok.2 hothers)
          exact ⟨t, hrest, s, blank, .cons hv (hs₂ ▸ blank_skipSpaces s₁) blank' hitems⟩
      · next s₂ hs₂ =>
        cases h
        cases strictItems_eq_ok.1 hdocs with
        | cons hd hothers =>
          cases hothers
          obtain ⟨_, ⟨⟩, s, blank, hv⟩ := value_of_readValue fuel room hread hd
          exact ⟨s₂, rfl, s, blank, .last hv (hs₂ ▸ blank_skipSpaces s₁)⟩
      · cases h
      · cases h

/-- What is read as documents of fields up to a brace are the fields, behind white space. -/
theorem fields_of_readFields : ∀ (fuel room : Nat) {s₀ : List Char} {rest : Rest}
    {docs : List (Document × Document)} {fields : List (String × Json)},
    readFields fuel room s₀ = (docs, none, rest) → strictFields docs = .ok fields →
      ∃ t, rest = some t ∧ ∃ s, Blank s₀ s ∧ Fields s fields t
  | 0, _, _, _, _, _, h, _ => nomatch h
  | fuel + 1, room, s₀, rest, docs, fields, h, hdocs => by
    rw [readFields] at h
    split at h
    · cases h
    · next k s₁ hreadKey =>
      split at h
      · next s₂ hs₂ =>
        have colon : Blank s₁ (':' :: s₂) := hs₂ ▸ blank_skipSpaces s₁
        split at h
        · cases h
        · next d s₃ hread =>
          split at h
          · next s₄ hs₄ =>
            have comma : Blank s₃ (',' :: s₄) := hs₄ ▸ blank_skipSpaces s₃
            rcases hreads : readFields fuel room s₄ with ⟨others, stop, behind⟩
            rw [hreads] at h
            cases h
            cases strictFields_eq_ok.1 hdocs with
            | cons hfield hothers =>
              have hkey := quoted_of_readKey hreadKey hfield.1
              obtain ⟨_, ⟨⟩, s, blank, hv⟩ := value_of_readValue fuel room hread hfield.2
              obtain ⟨t, hrest, s', blank', hfields⟩ := fields_of_readFields fuel room hreads
                (strictFields_eq_ok.2 hothers)
              exact ⟨t, hrest, _, blank_skipSpaces s₀, .cons hkey colon blank hv comma blank' hfields⟩
          · next s₄ hs₄ =>
            have close : Blank s₃ ('\x7d' :: s₄) := hs₄ ▸ blank_skipSpaces s₃
            cases h
            cases strictFields_eq_ok.1 hdocs with
            | cons hfield hothers =>
              cases hothers
              have hkey := quoted_of_readKey hreadKey hfield.1
              obtain ⟨_, ⟨⟩, s, blank, hv⟩ := value_of_readValue fuel room hread hfield.2
              exact ⟨s₄, rfl, _, blank_skipSpaces s₀, .last hkey colon blank hv close⟩
          · cases h
          · cases h
      · cases h
      · cases h

end

/-- A text denotes a value that is not nested too deep when it is read as a document of the value. -/
theorem denotes_iff {text : String} {v : Json} (hnesting : v.nesting ≤ maxNesting) :
    Json.Denotes text v ↔ ∃ d, read text = (d, none) ∧ d.strict = .ok v := by
  refine ⟨fun h => read_of_denotes h hnesting, ?_⟩
  rintro ⟨d, hread, hd⟩
  rcases hvalue : readValue (2 * text.length + 2) maxNesting text.toList with ⟨d', rest⟩
  rw [read, readWithin, hvalue] at hread
  have hd' : d'.strict = .ok v := by
    cases rest with
    | none => exact (Prod.mk.inj hread).1 ▸ hd
    | some rest => exact (Prod.mk.inj hread).1 ▸ hd
  obtain ⟨t, rfl, s, blank, hs⟩ := value_of_readValue _ _ hvalue hd'
  refine ⟨s, t, blank, hs, ?_⟩
  have hbehind : (skipSpaces t).isEmpty = true := by
    by_contra hne
    simp [hne] at hread
  rw [List.isEmpty_iff] at hbehind
  exact hbehind ▸ blank_skipSpaces t

end RowQuery.Document
