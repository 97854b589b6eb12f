import CSubset.Proofs.Parse.Acceptance
import CSubset.Proofs.Token.Lexical
import CSubset.Proofs.Token.Tiling

/-!
# What diagnostics point at

Every diagnostic of a compilation has a span, and the span is that of a text which stands in the source and neither
starts nor ends with white space (`compile_marks`): a token, the tokens from one to another, or the first character that
the token limit left out.
-/

namespace CSubset

structure Solid (text : List Char) : Prop where
  first : ∃ c more, text = c :: more ∧ ¬isBlank c
  last : ∃ front c, text = front ++ [c] ∧ ¬isBlank c

structure Span.Marks (source : String) (span : Span) (before text : List Char) : Prop where
  inside : before ++ text <+: source.toList
  solid : Solid text
  span_eq : span = ⟨.after before, .after (before ++ text)⟩

/-! ## Lexemes are solid -/

theorem Solid.singleton {c : Char} (h : ¬isBlank c) : Solid [c] := ⟨⟨c, [], rfl, h⟩, ⟨[], c, rfl, h⟩⟩

theorem LexemeForm.solid_of_fits {before text after : List Char} {f : LexemeForm} (h : f.Fits before text after) :
    Solid text := by
  have quote : ¬isBlank '"' := by decide
  cases f with
  | string =>
    obtain ⟨body, rfl, -⟩ := h
    exact ⟨⟨_, _, rfl, quote⟩, ⟨_, _, rfl, quote⟩⟩
  | word =>
    obtain ⟨nonempty, all, -⟩ := h
    have solid : ∀ c ∈ text, ¬isBlank c := fun c hc => not_isBlank_of_isWordChar (all c hc)
    constructor
    · obtain ⟨c, more, rfl⟩ := List.exists_cons_of_ne_nil nonempty
      exact ⟨c, more, rfl, solid c List.mem_cons_self⟩
    · refine ⟨text.dropLast, text.getLast nonempty, ?_, solid _ (List.getLast_mem nonempty)⟩
      exact (List.dropLast_append_getLast nonempty).symm
  | mark =>
    obtain ⟨c, rfl, hc, -⟩ := h
    exact .singleton hc
  | quote =>
    obtain ⟨rfl, -⟩ := h
    exact .singleton quote

theorem solid_of_piece {cs : List Char} {i : Nat} {p : Piece} (h : (pieces cs)[i]? = some p) : Solid p.lexeme := by
  obtain ⟨_, _, f, hf⟩ := (lexed_iff.mpr rfl).fits_getElem? h
  exact LexemeForm.solid_of_fits hf

theorem Solid.append {a b : List Char} (ha : Solid a) (hb : Solid b) (middle : List Char) : Solid (a ++ middle ++ b) := by
  obtain ⟨c, more, rfl, hc⟩ := ha.first
  obtain ⟨front, e, rfl, he⟩ := hb.last
  exact ⟨⟨c, more ++ middle ++ (front ++ [e]), by simp, hc⟩, ⟨c :: more ++ middle ++ front, e, by simp, he⟩⟩

/-! ## From one token to another -/

theorem Span.merge_after {a b x y : List Char} (starts : a <+: b) (ends : a ++ x <+: b ++ y) :
    Span.merge ⟨.after b, .after (b ++ y)⟩ ⟨.after a, .after (a ++ x)⟩ = ⟨.after a, .after (b ++ y)⟩ := by
  have shorter : ∀ {u v : List Char}, u <+: v → byteLength u ≤ byteLength v := by
    rintro u _ ⟨w, rfl⟩
    simp
  have start : ¬(Position.after b).offset < (Position.after a).offset := Nat.not_lt.mpr (shorter starts)
  unfold Span.merge
  rw [if_neg start]
  by_cases h : (Position.after (a ++ x)).offset < (Position.after (b ++ y)).offset
  · rw [if_pos h]
  · -- then nothing comes after the shorter of the two texts
    rw [if_neg h]
    obtain ⟨w, hw⟩ := ends
    have none : w = [] := by
      by_contra some
      have := byteLength_pos some
      rw [← hw, Position.after_offset, Position.after_offset, byteLength_append (a ++ x)] at h
      omega
    rw [← hw, none, List.append_nil]

theorem pieceText_take_prefix (ps : List Piece) {i j : Nat} (h : i ≤ j) :
    pieceText (ps.take i) <+: pieceText (ps.take j) := by
  obtain ⟨more, hmore⟩ := List.take_prefix_take_left h (l := ps)
  rw [← hmore, pieceText_append]
  exact List.prefix_append _ _

theorem marks_of_pieces {source : String} {i j : Nat} (h : i ≤ j) {p q : Piece}
    (hp : (pieces source.toList)[i]? = some p) (hq : (pieces source.toList)[j]? = some q) :
    ∃ before text, Span.Marks source
      ((q.token (pieceText ((pieces source.toList).take j)) j).span.merge
        (p.token (pieceText ((pieces source.toList).take i)) i).span) before text := by
  have inside := pieces_isPrefix hq
  rcases Nat.lt_or_eq_of_le h with less | rfl
  · obtain ⟨middle, hmiddle⟩ := pieceText_take_prefix (pieces source.toList) less
    rw [pieceText_take_succ hp] at hmiddle
    have starts : pieceText ((pieces source.toList).take i) ++ p.gap <+:
        pieceText ((pieces source.toList).take j) ++ q.gap := by
      rw [← hmiddle]
      simp only [List.append_assoc]
      exact ⟨p.lexeme ++ (middle ++ q.gap), by simp⟩
    have ends : pieceText ((pieces source.toList).take i) ++ p.gap ++ p.lexeme <+:
        pieceText ((pieces source.toList).take j) ++ q.gap ++ q.lexeme := by
      rw [← hmiddle]
      exact ⟨middle ++ q.gap ++ q.lexeme, by simp⟩
    refine ⟨pieceText ((pieces source.toList).take i) ++ p.gap, p.lexeme ++ (middle ++ q.gap) ++ q.lexeme, ?_,
      (solid_of_piece hp).append (solid_of_piece hq) _, ?_⟩
    · rw [← hmiddle] at inside
      simpa only [List.append_assoc] using inside
    · refine (Span.merge_after starts ends).trans ?_
      rw [← hmiddle]
      simp only [List.append_assoc]
  · cases Option.some.inj (hp.symm.trans hq)
    refine ⟨pieceText ((pieces source.toList).take i) ++ p.gap, p.lexeme, inside, solid_of_piece hp, ?_⟩
    exact Span.merge_self _

theorem marks_of_inOrder {limit : Nat} {source : String} {t u : Token}
    (h : InOrder (scanned limit source).tokens t u) :
    ∃ before text, (u.span.merge t.span).Marks source before text := by
  obtain ⟨front, back, tokens, later⟩ := h
  obtain ⟨k, hk⟩ := List.mem_iff_getElem?.mp later
  have ht : (scanned limit source).tokens[front.length]? = some t := by rw [tokens]; simp
  have hu : (scanned limit source).tokens[front.length + k]? = some u := by
    rw [tokens, List.getElem?_append_right (Nat.le_add_right _ _), Nat.add_sub_cancel_left, hk]
  obtain ⟨p, hp, htoken⟩ := piece_of_scanned ht
  obtain ⟨q, hq, hutoken⟩ := piece_of_scanned hu
  rw [htoken, hutoken]
  exact marks_of_pieces (Nat.le_add_right _ _) hp hq

/-! ## Diagnostics -/

namespace ParseState

theorem Moves.spans {s s' : ParseState} (m : Moves s s') (h : s.rest <:+ s.cursor.tokens)
    (nonempty : s.cursor.tokens ≠ []) : ∀ d ∈ s'.diagnostics, d ∈ s.diagnostics ∨
      ∃ t u, InOrder s.cursor.tokens t u ∧ d.span = some (u.span.merge t.span) := by
  induction m with
  | refl => exact fun d hd => Or.inl hd
  | log _ _ silent ih =>
    rw [diagnostics_log, silent, Option.toList_none, List.append_nil]
    exact ih
  | declare _ _ _ _ ih => exact ih
  | next _ ih =>
    rw [diagnostics_next]
    exact ih
  | @reportAt s' t u _ _ order ih =>
    intro d hd
    rw [diagnostics_report] at hd
    rcases List.mem_append.mp hd with hd | hd
    · exact ih d hd
    · rw [List.mem_singleton.mp hd]
      exact Or.inr ⟨t, u, order.of_suffix h, rfl⟩
  | @reportEnd s' m _ last ih =>
    intro d hd
    rw [diagnostics_report] at hd
    rcases List.mem_append.mp hd with hd | hd
    · exact ih d hd
    · -- nothing is left, so the report is about the last token
      have current : s'.cursor.currentSpan = some (s.cursor.tokens.getLast nonempty).span := by
        unfold Cursor.currentSpan
        rw [cursor_peek, last, m.tokens_eq, List.getLast?_eq_some_getLast nonempty]
        rfl
      rw [List.mem_singleton.mp hd, current]
      refine Or.inr ⟨_, _, InOrder.of_mem (List.getLast_mem nonempty), ?_⟩
      rw [Span.merge_self]
      rfl

end ParseState

theorem parse_spans {tokens : List Token} (textual : ∀ t ∈ tokens, Criteria.byClass.Textual t) {d : Diagnostic}
    (hd : d ∈ (parse tokens).diagnostics) :
    ∃ t u, InOrder tokens t u ∧ d.span = some (u.span.merge t.span) := by
  cases tokens with
  | nil =>
    rw [(parse_quiet (p := []) trivial textual rfl).diagnostics] at hd
    cases hd
  | cons t ts =>
    have run := ParseState.program_moves .byClass (.ofTokens (t :: ts))
    rcases run.spans (List.suffix_refl _) (List.cons_ne_nil _ _) d hd with old | new
    · cases old
    · exact new

theorem scanned_marks {limit : Nat} {source : String} {d : Diagnostic}
    (hd : d ∈ (scanned limit source).diagnostics limit) :
    ∃ span before text, d.span = some span ∧ span.Marks source before text := by
  unfold Scan.diagnostics at hd
  split at hd
  · cases hd
  · next span extra =>
    obtain ⟨p, hp, rfl⟩ := Option.map_eq_some_iff.mp extra
    obtain ⟨c, more, hlexeme, hc⟩ := (solid_of_piece hp).first
    rw [List.mem_singleton.mp hd]
    refine ⟨_, _, p.lexeme.take 1, rfl, ?_, ?_, rfl⟩
    · exact ((List.prefix_append_right_inj _).mpr (List.take_prefix 1 _)).trans (pieces_isPrefix hp)
    · rw [hlexeme]
      exact .singleton hc

theorem compile_marks {layout : Layout} {limit : Nat} {source : String} {r : Compilation}
    (run : compile layout limit source = .ok r) {d : Diagnostic} (hd : d ∈ r.diagnostics) :
    ∃ span before text, d.span = some span ∧ span.Marks source before text := by
  rw [(compile_yields layout limit source).eq_of_ok run] at hd
  rcases List.mem_append.mp hd with hd | hd
  · exact scanned_marks hd
  · obtain ⟨t, u, order, span⟩ := parse_spans (fun t ht => textual_of_mem_scanned limit source ht) hd
    obtain ⟨before, text, marks⟩ := marks_of_inOrder order
    exact ⟨_, before, text, span, marks⟩

end CSubset
