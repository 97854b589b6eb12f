import CSubset.Compile
import CSubset.Proofs.Token.Class
import CSubset.Proofs.Token.Scan

/-!
# The lexical grammar

A lexeme has one of four forms, which depend on the text around it: a string, a whole run of word characters, a single
mark, or a quote that no other quote follows. A text is made up of white space and lexemes in exactly one way, and
that is the way it is scanned (`scan_lexical`).
-/

namespace CSubset

inductive LexemeForm where
  | string | word | mark | quote
  deriving DecidableEq, Repr

namespace LexemeForm

def Fits (before text after : List Char) : LexemeForm → Prop
  | string => ∃ body, text = '"' :: body ++ ['"'] ∧ '"' ∉ body
  | word => text ≠ [] ∧ (∀ c ∈ text, isWordChar c) ∧
      (∀ c, before.getLast? = some c → ¬isWordChar c) ∧ ∀ c, after.head? = some c → ¬isWordChar c
  | mark => ∃ c, text = [c] ∧ ¬isBlank c ∧ ¬isWordChar c ∧ c ≠ '"'
  | quote => text = ['"'] ∧ '"' ∉ after

def Has (text : List Char) (kind : TokenClass) : LexemeForm → Prop
  | string => kind = .stringLiteral
  | word => (∃ k : Keyword, text = k.text.toList ∧ kind = .keyword k) ∨
      (∀ k : Keyword, text ≠ k.text.toList) ∧ kind = .word
  | mark => (∃ p : Punctuation, text = [p.char] ∧ kind = .punctuation p) ∨
      (∀ p : Punctuation, text ≠ [p.char]) ∧ kind = .symbol
  | quote => kind = .symbol

def ofText : List Char → LexemeForm
  | [] => mark
  | c :: cs => if c = '"' then (if cs = [] then quote else string) else if isWordChar c then word else mark

theorem eq_ofText {before text after : List Char} {f : LexemeForm} (h : f.Fits before text after) :
    f = ofText text := by
  cases f with
  | string =>
    obtain ⟨body, rfl, -⟩ := h
    simp [ofText]
  | word =>
    obtain ⟨nonempty, all, -⟩ := h
    cases text with
    | nil => exact absurd rfl nonempty
    | cons c cs =>
      have hc := all c List.mem_cons_self
      have hq : c ≠ '"' := by
        rintro rfl
        rw [isWordChar_quote] at hc
        cases hc
      simp [ofText, hq, hc]
  | mark =>
    obtain ⟨c, rfl, -, hw, hq⟩ := h
    simp [ofText, hw, hq]
  | quote =>
    obtain ⟨rfl, -⟩ := h
    rfl

theorem fits_unique {before text after : List Char} {f g : LexemeForm} (hf : f.Fits before text after)
    (hg : g.Fits before text after) : f = g :=
  (eq_ofText hf).trans (eq_ofText hg).symm

/-! ## The class of a lexeme -/

theorem has_word {text : List Char} (h : isWordText (String.ofList text)) :
    word.Has text (.ofText (String.ofList text)) := by
  cases hk : Keyword.ofText? (String.ofList text) with
  | some k =>
    have spelled := ofText?_eq_some.mp hk
    refine Or.inl ⟨k, ?_, ?_⟩
    · rw [← spelled, String.toList_ofList]
    · rw [spelled, TokenClass.ofText_keyword]
  | none =>
    refine Or.inr ⟨?_, TokenClass.ofText_of_word h hk⟩
    rintro k rfl
    rw [String.ofList_toList, ofText?_text] at hk
    cases hk

theorem has_mark {c : Char} (hw : ¬isWordChar c) : mark.Has [c] (.ofText (String.ofList [c])) := by
  have quoted : isQuotedText (String.ofList [c]) = false := by simp [isQuotedText]
  have word : isWordText (String.ofList [c]) = false := by simp [isWordText, hw]
  rw [TokenClass.ofText_of_mark quoted word]
  cases hp : punctuationOf? (String.ofList [c]) with
  | some p =>
    rw [punctuationOf?_eq_some, String.toList_ofList] at hp
    exact Or.inl ⟨p, hp, rfl⟩
  | none =>
    refine Or.inr ⟨?_, rfl⟩
    intro p spelled
    rw [spelled, punctuationOf?_eq_some.mpr String.toList_ofList] at hp
    cases hp

theorem has_ofText {before text after : List Char} {f : LexemeForm} (h : f.Fits before text after) :
    f.Has text (.ofText (String.ofList text)) := by
  cases f with
  | string =>
    obtain ⟨body, rfl, -⟩ := h
    exact TokenClass.ofText_of_quoted (isQuotedText_iff.mpr ⟨body, String.toList_ofList⟩)
  | word =>
    obtain ⟨nonempty, all, -⟩ := h
    exact has_word (isWordText_iff.mpr (by rw [String.toList_ofList]; exact ⟨nonempty, all⟩))
  | mark =>
    obtain ⟨c, rfl, -, hw, -⟩ := h
    exact has_mark hw
  | quote =>
    obtain ⟨rfl, -⟩ := h
    rfl

/-! ## A lexeme that is cut has a form, and what has a form is cut -/

theorem fits_cutLexeme {before : List Char} {c : Char} (cs : List Char) (hb : ¬isBlank c)
    (edge : isWordChar c → ∀ d, before.getLast? = some d → ¬isWordChar d) :
    ∃ f : LexemeForm, f.Fits before (cutLexeme c cs).1 (cutLexeme c cs).2 := by
  unfold cutLexeme
  by_cases hq : c = '"'
  · subst hq
    rw [if_pos rfl]
    have no_quote : ∀ d ∈ cs.takeWhile (· ≠ '"'), d ≠ '"' := fun d hd => by simpa using List.mem_takeWhile_imp hd
    cases h : cs.dropWhile (· ≠ '"') with
    | nil =>
      refine ⟨quote, rfl, fun hmem => ?_⟩
      simpa using List.dropWhile_eq_nil_iff.mp h '"' hmem
    | cons q rest =>
      have hq := List.head?_dropWhile_not (· ≠ '"') cs
      rw [h] at hq
      simp only [List.head?_cons, decide_not, Bool.not_eq_eq_eq_not, Bool.not_false, decide_eq_true_eq] at hq
      subst hq
      exact ⟨string, cs.takeWhile (· ≠ '"'), rfl, fun hmem => no_quote '"' hmem rfl⟩
  · rw [if_neg hq]
    by_cases hw : isWordChar c
    · rw [if_pos hw]
      refine ⟨word, List.cons_ne_nil _ _, ?_, edge hw, ?_⟩
      · intro d hd
        rcases List.mem_cons.mp hd with rfl | hd
        · exact hw
        · exact List.mem_takeWhile_imp hd
      · intro d hd
        have := List.head?_dropWhile_not isWordChar cs
        rw [hd] at this
        simpa using this
    · rw [if_neg hw]
      exact ⟨mark, c, rfl, hb, hw, hq⟩

theorem cutLexeme_of_fits {before text after : List Char} {f : LexemeForm} (h : f.Fits before text after) :
    ∃ c more, text = c :: more ∧ ¬isBlank c ∧ cutLexeme c (more ++ after) = (text, after) := by
  cases f with
  | string =>
    obtain ⟨body, rfl, no_quote⟩ := h
    refine ⟨'"', body ++ ['"'], rfl, by decide, ?_⟩
    have inside : ∀ d ∈ body, decide (d ≠ '"') = true := by
      intro d hd
      simpa using fun e : d = '"' => no_quote (e ▸ hd)
    have front : (body ++ '"' :: after).takeWhile (· ≠ '"') = body := by
      rw [List.takeWhile_append_of_pos inside]
      simp
    have back : (body ++ '"' :: after).dropWhile (· ≠ '"') = '"' :: after := by
      rw [List.dropWhile_append_of_pos inside]
      simp
    rw [List.append_assoc, List.singleton_append]
    unfold cutLexeme
    rw [if_pos rfl, back]
    dsimp only
    rw [front]
    rfl
  | word =>
    obtain ⟨nonempty, all, -, stop⟩ := h
    cases text with
    | nil => exact absurd rfl nonempty
    | cons c more =>
      have hc := all c List.mem_cons_self
      have hq : c ≠ '"' := by
        rintro rfl
        rw [isWordChar_quote] at hc
        cases hc
      have inside : ∀ d ∈ more, isWordChar d := fun d hd => all d (List.mem_cons_of_mem _ hd)
      have none_after : after.takeWhile isWordChar = [] ∧ after.dropWhile isWordChar = after := by
        cases after with
        | nil => exact ⟨rfl, rfl⟩
        | cons d after =>
          have hd := stop d rfl
          exact ⟨List.takeWhile_cons_of_neg hd, List.dropWhile_cons_of_neg hd⟩
      refine ⟨c, more, rfl, not_isBlank_of_isWordChar hc, ?_⟩
      unfold cutLexeme
      rw [if_neg hq, if_pos hc, List.takeWhile_append_of_pos inside, List.dropWhile_append_of_pos inside,
        none_after.1, none_after.2, List.append_nil]
  | mark =>
    obtain ⟨c, rfl, hb, hw, hq⟩ := h
    refine ⟨c, [], rfl, hb, ?_⟩
    unfold cutLexeme
    rw [if_neg hq, if_neg hw]
    rfl
  | quote =>
    obtain ⟨rfl, no_quote⟩ := h
    refine ⟨'"', [], rfl, by decide, ?_⟩
    have all : ∀ d ∈ after, decide (d ≠ '"') = true := by
      intro d hd
      simpa using fun e : d = '"' => no_quote (e ▸ hd)
    unfold cutLexeme
    rw [if_pos rfl, List.nil_append, List.dropWhile_eq_nil_iff.mpr all]

end LexemeForm

/-! ## Decompositions -/

/-- The text `cs`, which follows the text `before`, is made up of these pieces and white space. -/
inductive Lexed : (before cs : List Char) → List Piece → Prop
  | blank {before cs} : (∀ c ∈ cs, isBlank c) → Lexed before cs []
  | piece {before gap text after ps} {f : LexemeForm} : (∀ c ∈ gap, isBlank c) → f.Fits (before ++ gap) text after →
      Lexed (before ++ gap ++ text) after ps → Lexed before (gap ++ text ++ after) (⟨gap, text⟩ :: ps)

theorem Lexed.eq_pieces {before cs : List Char} {ps : List Piece} (h : Lexed before cs ps) : ps = pieces cs := by
  induction h with
  | blank hblank => exact (pieces_of_blank hblank).symm
  | @piece before gap text after ps f hgap hf _ ih =>
    obtain ⟨c, more, rfl, hc, hcut⟩ := LexemeForm.cutLexeme_of_fits hf
    rw [List.append_assoc, List.cons_append, pieces_split hgap hc, hcut, ← ih]

def NoRunAcross (before after : List Char) : Prop :=
  ∀ c d, before.getLast? = some c → after.head? = some d → isWordChar c → ¬isWordChar d

theorem noRunAcross_gap {before gap : List Char} {c : Char} {cs : List Char}
    (h : NoRunAcross before (gap ++ c :: cs)) (hgap : ∀ c ∈ gap, isBlank c) (hc : isWordChar c) (d : Char)
    (hd : (before ++ gap).getLast? = some d) : ¬isWordChar d := by
  intro hw
  rcases List.eq_nil_or_concat gap with rfl | ⟨front, e, rfl⟩
  · rw [List.append_nil] at hd
    exact h d c hd rfl hw hc
  · rw [List.concat_eq_append, ← List.append_assoc, List.getLast?_concat] at hd
    rw [← Option.some.inj hd, isWordChar_of_isBlank (hgap e (by simp))] at hw
    cases hw

theorem noRunAcross_of_fits {before text after : List Char} {f : LexemeForm} (h : f.Fits before text after)
    (front : List Char) : NoRunAcross (front ++ text) after := by
  intro c d hc hd hw
  cases f with
  | string =>
    obtain ⟨body, rfl, -⟩ := h
    rw [← List.append_assoc, List.getLast?_concat] at hc
    rw [← Option.some.inj hc, isWordChar_quote] at hw
    cases hw
  | word => exact h.2.2.2 d hd
  | mark =>
    obtain ⟨e, rfl, -, he, -⟩ := h
    rw [List.getLast?_concat] at hc
    exact absurd (Option.some.inj hc ▸ hw) he
  | quote =>
    obtain ⟨rfl, -⟩ := h
    rw [List.getLast?_concat] at hc
    rw [← Option.some.inj hc, isWordChar_quote] at hw
    cases hw

theorem lexed_pieces {before cs : List Char} (h : NoRunAcross before cs) : Lexed before cs (pieces cs) := by
  -- a lexeme may be of any length, so the induction is on the length of what is left
  induction len : cs.length using Nat.strong_induction_on generalizing before cs with
  | h n ih =>
    rcases blank_or_split cs with blank | ⟨gap, c, rest, rfl, hgap, hc⟩
    · rw [pieces_of_blank blank]
      exact .blank blank
    · obtain ⟨f, hf⟩ := LexemeForm.fits_cutLexeme rest hc (noRunAcross_gap h hgap)
      have shorter : (cutLexeme c rest).2.length < n := by
        have := length_cutLexeme_le c rest
        rw [← len, List.length_append, List.length_cons]
        omega
      have lexed := Lexed.piece hgap hf (ih _ shorter (noRunAcross_of_fits hf (before ++ gap)) rfl)
      rw [List.append_assoc, cutLexeme_append] at lexed
      rwa [pieces_split hgap hc]

theorem lexed_iff {cs : List Char} {ps : List Piece} : Lexed [] cs ps ↔ ps = pieces cs := by
  constructor
  · exact Lexed.eq_pieces
  · rintro rfl
    exact lexed_pieces fun c d hc => by cases hc

def LexemesOf (source : String) (words : List String) : Prop :=
  ∃ ps, Lexed [] source.toList ps ∧ words = ps.map fun p => String.ofList p.lexeme

theorem lexemesOf_iff {source : String} {words : List String} : LexemesOf source words ↔ words = lexemes source := by
  constructor
  · rintro ⟨ps, lexed, rfl⟩
    rw [lexed.eq_pieces]
    rfl
  · rintro rfl
    exact ⟨_, lexed_iff.mpr rfl, rfl⟩

theorem Lexed.fits_getElem? {before cs : List Char} {ps : List Piece} (h : Lexed before cs ps) {i : Nat} {p : Piece}
    (hp : ps[i]? = some p) :
    ∃ after, cs = pieceText (ps.take i) ++ p.gap ++ p.lexeme ++ after ∧
      ∃ f : LexemeForm, f.Fits (before ++ pieceText (ps.take i) ++ p.gap) p.lexeme after := by
  induction h generalizing i with
  | blank => cases hp
  | @piece before gap text after ps f hgap hf _ ih =>
    cases i with
    | zero =>
      cases Option.some.inj hp
      refine ⟨after, by simp, f, ?_⟩
      simpa using hf
    | succ i =>
      obtain ⟨rest, rfl, g, hg⟩ := ih hp
      refine ⟨rest, ?_, g, ?_⟩
      · simp only [List.take_succ_cons, pieceText_cons, List.append_assoc]
      · rw [List.take_succ_cons, pieceText_cons]
        simpa only [List.append_assoc] using hg

/-! ## The scan -/

def Token.HasOneForm (source : String) (t : Token) : Prop :=
  ∃ before after, source.toList = before ++ t.lexeme.toList ++ after ∧ byteLength before = t.span.start.offset ∧
    ∃! f : LexemeForm, f.Fits before t.lexeme.toList after ∧ f.Has t.lexeme.toList t.kind

theorem hasOneForm_of_mem_scanned {limit : Nat} {source : String} {t : Token}
    (h : t ∈ (scanned limit source).tokens) : t.HasOneForm source := by
  obtain ⟨i, ht⟩ := List.mem_iff_getElem?.mp h
  obtain ⟨p, hp, rfl⟩ := piece_of_scanned ht
  obtain ⟨after, whole, f, hf⟩ := (lexed_iff.mpr rfl).fits_getElem? hp
  rw [List.nil_append] at hf
  unfold Token.HasOneForm
  simp only [Piece.token, Token.ofLexeme, String.toList_ofList]
  refine ⟨_, after, whole, rfl, f, ⟨hf, LexemeForm.has_ofText hf⟩, ?_⟩
  rintro g ⟨hg, -⟩
  exact LexemeForm.fits_unique hg hf

/-- **The lexical grammar.** A text has exactly one decomposition. Every token of a scan has exactly one of the four
forms, and within the limit the scan returns the lexemes of the decomposition, in place. -/
theorem scan_lexical (limit : Nat) (source : String) :
    (∃! ps, Lexed [] source.toList ps) ∧
    (source.utf8ByteSize < 4294967295 → ∃ s, scan limit source = .ok s) ∧
    ∀ s, scan limit source = .ok s →
      (∀ t ∈ s.tokens, t.HasOneForm source) ∧
      ∀ ps, Lexed [] source.toList ps → ps.length ≤ min limit Limits.current.maxTokenCount →
        s.diagnostics limit = [] ∧
        ∀ i : Nat, (s.tokens[i]?.map fun t => (t.lexeme.toList, t.span.start.offset)) =
          ps[i]?.map fun p => (p.lexeme, byteLength (pieceText (ps.take i) ++ p.gap)) := by
  refine ⟨⟨_, lexed_iff.mpr rfl, fun ps h => h.eq_pieces⟩, ?_, ?_⟩
  · intro short
    exact ⟨_, (scan_yields limit source).eq_ok short⟩
  · intro s hs
    cases (scan_yields limit source).eq_of_ok hs
    refine ⟨fun t => hasOneForm_of_mem_scanned, ?_⟩
    intro ps lexed fits
    cases lexed.eq_pieces
    have fits : (pieces source.toList).length ≤ tokenLimit limit := fits
    refine ⟨?_, fun i => ?_⟩
    · unfold Scan.diagnostics
      rw [(scanned_excess_eq_none limit source).mpr (by simpa [lexemes] using fits)]
    · rw [scanned_tokens, List.take_of_length_le fits, placed_getElem?, List.nil_append, Option.map_map]
      simp [Function.comp_def, Piece.token, Token.ofLexeme]

theorem scan_lexical_open_quote : "é_1=\"b c\";\"x".utf8ByteSize < 4294967295 ∧
    ∃ s, scan 6 "é_1=\"b c\";\"x" = .ok s ∧ (∀ t ∈ s.tokens, t.HasOneForm "é_1=\"b c\";\"x") ∧
      s.diagnostics 6 = [] := by
  obtain ⟨⟨ps, lexed, -⟩, returns, result⟩ := scan_lexical 6 "é_1=\"b c\";\"x"
  obtain ⟨s, run⟩ := returns (by decide)
  obtain ⟨forms, whole⟩ := result s run
  have fits : ps.length ≤ min 6 Limits.current.maxTokenCount := by
    rw [lexed.eq_pieces]
    decide
  exact ⟨by decide, s, run, forms, (whole ps lexed fits).1⟩

end CSubset
