import CSubset.Token

/-!
# The class of a text

White space, word characters, quotes and punctuation marks are told apart by their first character, so the order in
which `TokenClass.ofText` asks its questions does not matter: each class has a condition of its own on the text.
-/

namespace CSubset

/-! ## Characters -/

theorem Ranges.exists_of_has {ranges : Ranges} {n : Nat} (h : ranges.has n) : ∃ r ∈ ranges, r.1 ≤ n ∧ n ≤ r.2 := by
  induction ranges with
  | nil => cases h
  | cons r ranges ih =>
    unfold Ranges.has at h
    by_cases hi : n ≤ r.2
    · simp only [hi, ite_true, decide_eq_true_eq] at h
      exact ⟨r, List.mem_cons_self, h, hi⟩
    · simp only [hi, ite_false] at h
      obtain ⟨q, hq, bounds⟩ := ih h
      exact ⟨q, List.mem_cons_of_mem _ hq, bounds⟩

theorem blankRanges_not_alphanumeric :
    ∀ r ∈ blankRanges, ∀ k < r.2 + 1 - r.1, alphanumericPages.has (r.1 + k) = false := by decide

theorem isWordChar_of_isBlank {c : Char} (h : isBlank c) : isWordChar c = false := by
  obtain ⟨r, hr, lo, hi⟩ := Ranges.exists_of_has h
  have letters := blankRanges_not_alphanumeric r hr (c.toNat - r.1) (by omega)
  rw [Nat.add_sub_cancel' lo] at letters
  have underscore : c ≠ '_' := by
    intro hc
    rw [hc] at h
    exact absurd h (by decide)
  unfold isWordChar
  rw [letters, Bool.or_false]
  exact beq_false_of_ne underscore

theorem not_isBlank_of_isWordChar {c : Char} (h : isWordChar c) : ¬isBlank c := by
  intro blank
  rw [isWordChar_of_isBlank blank] at h
  cases h

theorem isWordChar_quote : isWordChar '"' = false := by decide

theorem isWordChar_punctuation (p : Punctuation) : isWordChar p.char = false := by cases p <;> decide

/-! ## Texts -/

theorem ofText?_text (k : Keyword) : Keyword.ofText? k.text = some k := by cases k <;> rfl

theorem ofText?_eq_some {text : String} {k : Keyword} : Keyword.ofText? text = some k ↔ text = k.text := by
  constructor
  · intro h
    have := List.find?_some h
    simpa using Eq.symm (of_decide_eq_true this)
  · rintro rfl
    exact ofText?_text k

theorem ofChar?_eq_some {c : Char} {p : Punctuation} : Punctuation.ofChar? c = some p ↔ c = p.char := by
  constructor
  · intro h
    have := List.find?_some h
    simpa using Eq.symm (of_decide_eq_true this)
  · rintro rfl
    cases p <;> rfl

theorem punctuationOf?_eq_some {text : String} {p : Punctuation} :
    punctuationOf? text = some p ↔ text.toList = [p.char] := by
  unfold punctuationOf?
  constructor
  · intro h
    split at h
    · next c hc => rw [hc, ofChar?_eq_some.mp h]
    · cases h
  · intro h
    rw [h]
    exact ofChar?_eq_some.mpr rfl

theorem isWordText_iff {text : String} : isWordText text ↔ text.toList ≠ [] ∧ ∀ c ∈ text.toList, isWordChar c := by
  simp [isWordText]

theorem isQuotedText_iff {text : String} : isQuotedText text ↔ ∃ body, text.toList = '"' :: body ++ ['"'] := by
  unfold isQuotedText
  simp only [Bool.and_eq_true, decide_eq_true_eq, beq_iff_eq]
  constructor
  · rintro ⟨⟨len, head⟩, last⟩
    cases h : text.toList with
    | nil => rw [h] at head; cases head
    | cons c cs =>
      rw [h] at head last len
      rcases List.eq_nil_or_concat cs with rfl | ⟨body, d, rfl⟩
      · simp at len
      · rw [List.concat_eq_append] at last ⊢
        rw [← List.cons_append, List.getLast?_concat] at last
        rw [Option.some.inj head, Option.some.inj last]
        exact ⟨body, rfl⟩
  · rintro ⟨body, h⟩
    rw [h]
    exact ⟨⟨by simp, rfl⟩, List.getLast?_concat⟩

theorem isWordText_keyword (k : Keyword) : isWordText k.text := by cases k <;> decide

theorem isWordText_of_isQuotedText {text : String} (h : isQuotedText text) : isWordText text = false := by
  obtain ⟨body, hbody⟩ := isQuotedText_iff.mp h
  refine Bool.eq_false_iff.mpr fun word => ?_
  have := (isWordText_iff.mp word).2 '"' (by rw [hbody]; simp)
  rw [isWordChar_quote] at this
  cases this

theorem isWordText_of_punctuation {text : String} {p : Punctuation} (h : text.toList = [p.char]) :
    isWordText text = false := by
  refine Bool.eq_false_iff.mpr fun word => ?_
  have := (isWordText_iff.mp word).2 p.char (by rw [h]; exact List.mem_singleton_self _)
  rw [isWordChar_punctuation] at this
  cases this

theorem isQuotedText_of_isWordText {text : String} (h : isWordText text) : isQuotedText text = false := by
  refine Bool.eq_false_iff.mpr fun quoted => ?_
  rw [isWordText_of_isQuotedText quoted] at h
  cases h

theorem ofText?_of_not_word {text : String} (h : isWordText text = false) : Keyword.ofText? text = none := by
  refine Option.eq_none_iff_forall_ne_some.mpr fun k hk => ?_
  rw [ofText?_eq_some.mp hk, isWordText_keyword] at h
  cases h

/-! ## Classes -/

namespace TokenClass

theorem ofText_keyword (k : Keyword) : ofText k.text = keyword k := by
  unfold ofText
  rw [ofText?_text]

theorem ofText_of_quoted {text : String} (h : isQuotedText text) : ofText text = stringLiteral := by
  unfold ofText
  rw [ofText?_of_not_word (isWordText_of_isQuotedText h)]
  simp [h]

theorem ofText_of_word {text : String} (h : isWordText text) (hk : Keyword.ofText? text = none) :
    ofText text = word := by
  have mark : punctuationOf? text = none := by
    refine Option.eq_none_iff_forall_ne_some.mpr fun p hp => ?_
    rw [isWordText_of_punctuation (punctuationOf?_eq_some.mp hp)] at h
    cases h
  unfold ofText
  simp [hk, mark, h, isQuotedText_of_isWordText h]

theorem ofText_of_mark {text : String} (hq : isQuotedText text = false) (hw : isWordText text = false) :
    ofText text = ((punctuationOf? text).map punctuation).getD symbol := by
  unfold ofText
  rw [ofText?_of_not_word hw]
  cases punctuationOf? text <;> simp [hq, hw]

theorem ofText_cases (text : String) :
    (∃ k : Keyword, text = k.text) ∨ (isWordText text ∧ Keyword.ofText? text = none ∧ ofText text = word) ∨
      (isWordText text = false ∧ isQuotedText text ∧ ofText text = stringLiteral) ∨
      (isWordText text = false ∧ isQuotedText text = false ∧
        (ofText text = symbol ∨ ∃ p, ofText text = punctuation p)) := by
  by_cases hw : isWordText text
  · cases hk : Keyword.ofText? text with
    | some k => exact Or.inl ⟨k, ofText?_eq_some.mp hk⟩
    | none => exact Or.inr (Or.inl ⟨hw, rfl, ofText_of_word hw hk⟩)
  · rw [Bool.not_eq_true] at hw
    by_cases hq : isQuotedText text
    · exact Or.inr (Or.inr (Or.inl ⟨hw, hq, ofText_of_quoted hq⟩))
    · rw [Bool.not_eq_true] at hq
      refine Or.inr (Or.inr (Or.inr ⟨hw, hq, ?_⟩))
      rw [ofText_of_mark hq hw]
      cases punctuationOf? text with
      | none => exact Or.inl rfl
      | some p => exact Or.inr ⟨p, rfl⟩

theorem keyword?_ofText (text : String) : (ofText text).keyword? = Keyword.ofText? text := by
  rcases ofText_cases text with ⟨k, rfl⟩ | ⟨-, hk, h⟩ | ⟨hw, -, h⟩ | ⟨hw, -, h | ⟨p, h⟩⟩
  · rw [ofText_keyword, ofText?_text]
    rfl
  · rw [h, hk]
    rfl
  all_goals
    rw [h, ofText?_of_not_word hw]
    rfl

end TokenClass

/-! ## Criteria -/

structure Criteria.Textual (c : Criteria) (t : Token) : Prop where
  isKeyword : ∀ k, c.isKeyword k t = t.hasText k.text
  isTypeName : c.isTypeName t = (DataType.ofName? t.lexeme).isSome
  isStringLiteral : c.isStringLiteral t = isQuotedText t.lexeme
  isWordlike : c.isWordlike t = isWordText t.lexeme

theorem isType_eq_isSome (k : Keyword) : k.isType = (DataType.ofKeyword? k).isSome := by cases k <;> rfl

theorem isKeyword_iff (t : Token) (k : Keyword) : t.isKeyword k ↔ t.kind.keyword? = some k := by
  unfold Token.isKeyword
  cases t.kind <;> simp [TokenClass.keyword?]

theorem textual_byClass {t : Token} (h : t.kind = .ofText t.lexeme) : Criteria.byClass.Textual t where
  isKeyword k := by
    rw [Bool.eq_iff_iff]
    refine (isKeyword_iff t k).trans ?_
    rw [h, TokenClass.keyword?_ofText, ofText?_eq_some, Token.hasText, beq_iff_eq]
  isTypeName := by
    change t.kind.keyword?.any Keyword.isType = _
    rw [h, TokenClass.keyword?_ofText]
    unfold DataType.ofName?
    cases Keyword.ofText? t.lexeme with
    | none => rfl
    | some k => exact isType_eq_isSome k
  isStringLiteral := by
    change (t.kind == .stringLiteral) = _
    rw [h]
    rcases TokenClass.ofText_cases t.lexeme with ⟨k, hk⟩ | ⟨hw, -, h⟩ | ⟨-, hq, h⟩ | ⟨-, hq, h | ⟨p, h⟩⟩
    · rw [hk, TokenClass.ofText_keyword, isQuotedText_of_isWordText (isWordText_keyword k)]
      rfl
    · rw [h, isQuotedText_of_isWordText hw]
      rfl
    all_goals
      rw [h, hq]
      rfl
  isWordlike := by
    change t.isWordlike = _
    unfold Token.isWordlike
    rw [h]
    rcases TokenClass.ofText_cases t.lexeme with ⟨k, hk⟩ | ⟨hw, -, h⟩ | ⟨hw, -, h⟩ | ⟨hw, -, h | ⟨p, h⟩⟩
    · rw [hk, TokenClass.ofText_keyword, isWordText_keyword]
    all_goals rw [h, hw]

end CSubset
