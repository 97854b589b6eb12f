import CSubset.Proofs.Parse.Acceptance
import CSubset.Proofs.Token.Lexical

/-!
# Joining lexemes and scanning again

A lexeme keeps its form in other surroundings, as long as no word runs into it and no quote comes behind one that stays
open. So the lexemes of any run of tokens can be written out with single spaces between them, and a scan of that text
gives them back (`scan_joined`).
-/

namespace CSubset

/-! ## Other surroundings -/

def EndsApart (before : List Char) : Prop := ∀ c, before.getLast? = some c → ¬isWordChar c

def StartsApart (after : List Char) : Prop := ∀ c, after.head? = some c → ¬isWordChar c

theorem endsApart_of_blank (cs : List Char) {c : Char} (h : isBlank c) : EndsApart (cs ++ [c]) := by
  intro d hd
  rw [List.getLast?_concat] at hd
  rw [← Option.some.inj hd, isWordChar_of_isBlank h]
  exact Bool.false_ne_true

theorem startsApart_of_blank {c : Char} (h : isBlank c) (cs : List Char) : StartsApart (c :: cs) := by
  intro d hd
  rw [← Option.some.inj hd, isWordChar_of_isBlank h]
  exact Bool.false_ne_true

/-- Only a word depends on the characters next to it, and only an open quote on what comes later. -/
theorem LexemeForm.Fits.moved {before text after before' after' : List Char} {f : LexemeForm}
    (h : f.Fits before text after) (front : EndsApart before → EndsApart before')
    (back : StartsApart after → StartsApart after') (quotes : text = ['"'] → '"' ∉ after → '"' ∉ after') :
    f.Fits before' text after' := by
  cases f with
  | string => exact h
  | word =>
    obtain ⟨nonempty, all, edge, stop⟩ := h
    exact ⟨nonempty, all, front edge, back stop⟩
  | mark => exact h
  | quote =>
    obtain ⟨alone, none⟩ := h
    exact ⟨alone, quotes alone none⟩

/-! ## Single spaces -/

def respaced (gap : List Char) : List Piece → List Piece
  | [] => []
  | p :: ps => ⟨gap, p.lexeme⟩ :: respaced [' '] ps

theorem map_lexeme_respaced (gap : List Char) (ps : List Piece) :
    (respaced gap ps).map Piece.lexeme = ps.map Piece.lexeme := by
  induction ps generalizing gap with
  | nil => rfl
  | cons p ps ih => rw [respaced, List.map_cons, List.map_cons, ih]

theorem mem_of_mem_respaced {ps : List Piece} {c : Char} (h : c ∈ pieceText (respaced [' '] ps)) :
    c = ' ' ∨ ∃ p ∈ ps, c ∈ p.lexeme := by
  induction ps with
  | nil => cases h
  | cons p ps ih =>
    rw [respaced, pieceText_cons, List.mem_append, List.mem_append, List.mem_singleton] at h
    rcases h with (space | inside) | later
    · exact Or.inl space
    · exact Or.inr ⟨p, List.mem_cons_self, inside⟩
    · rcases ih later with space | ⟨q, hq, inside⟩
      · exact Or.inl space
      · exact Or.inr ⟨q, List.mem_cons_of_mem _ hq, inside⟩

theorem startsApart_respaced (ps : List Piece) : StartsApart (pieceText (respaced [' '] ps)) := by
  cases ps with
  | nil =>
    intro c hc
    cases hc
  | cons p ps =>
    rw [respaced, pieceText_cons]
    exact startsApart_of_blank (by decide) _

theorem toList_intercalate_space (ps : List Piece) :
    (" ".intercalate (ps.map fun p => String.ofList p.lexeme)).toList = pieceText (respaced [] ps) := by
  -- what is joined behind a first lexeme has a space in front
  have behind : ∀ (p : Piece) (ps : List Piece),
      (" ".intercalate ((p :: ps).map fun p => String.ofList p.lexeme)).toList =
        p.lexeme ++ pieceText (respaced [' '] ps) := by
    intro p ps
    induction ps generalizing p with
    | nil => simp [respaced]
    | cons q ps ih =>
      have later := ih q
      rw [List.map_cons] at later
      rw [List.map_cons, List.map_cons, String.intercalate_cons_cons, String.toList_append, later, respaced,
        pieceText_cons]
      simp
  cases ps with
  | nil => rfl
  | cons p ps => rw [behind, respaced, pieceText_cons, List.nil_append]

/-! ## A run of lexemes -/

namespace Lexed

theorem mem_of_mem_lexeme {before cs : List Char} {ps : List Piece} (h : Lexed before cs ps) {p : Piece} (hp : p ∈ ps)
    {c : Char} (hc : c ∈ p.lexeme) : c ∈ cs := by
  induction h with
  | blank => cases hp
  | @piece before gap text after ps f _ _ _ ih =>
    rcases List.mem_cons.mp hp with rfl | hp
    · exact List.mem_append_left _ (List.mem_append_right _ hc)
    · exact List.mem_append_right _ (ih hp)

theorem behind {before cs : List Char} {ps qs : List Piece} (h : Lexed before cs (ps ++ qs)) :
    ∃ before' cs', Lexed before' cs' qs := by
  induction ps generalizing before cs with
  | nil => exact ⟨before, cs, h⟩
  | cons p ps ih =>
    cases h with
    | piece _ _ rest => exact ih rest

theorem spaced {before cs : List Char} {ps qs : List Piece} (h : Lexed before cs (ps ++ qs)) {front gap : List Char}
    (hgap : ∀ c ∈ gap, isBlank c) (apart : EndsApart (front ++ gap)) :
    Lexed front (pieceText (respaced gap ps)) (respaced gap ps) := by
  induction ps generalizing before cs front gap with
  | nil => exact .blank (by simp [respaced])
  | cons p ps ih =>
    cases h with
    | @piece _ old text after _ f _ hf rest =>
      have space : ∀ c ∈ [' '], isBlank c := List.forall_mem_singleton.mpr (by decide)
      rw [respaced, pieceText_cons]
      refine .piece hgap (hf.moved (fun _ => apart) (fun _ => startsApart_respaced ps) ?_)
        (ih rest space (endsApart_of_blank _ (by decide)))
      -- no quote was left behind an open one, so none is there now
      intro _ none mem
      rcases mem_of_mem_respaced mem with space | ⟨q, hq, inside⟩
      · cases space
      · exact none (rest.mem_of_mem_lexeme (List.mem_append_left _ hq) inside)

theorem joined {before cs : List Char} {ps qs : List Piece} (h : Lexed before cs ps) (part : qs <:+: ps) :
    Lexed [] (pieceText (respaced [] qs)) (respaced [] qs) := by
  obtain ⟨front, back, rfl⟩ := part
  rw [List.append_assoc] at h
  obtain ⟨_, _, h⟩ := h.behind
  refine h.spaced (by simp) ?_
  intro c hc
  cases hc

end Lexed

/-! ## The scan -/

theorem exists_pieces_of_infix {limit : Nat} {source : String} {ts : List Token}
    (part : ts <:+: (scanned limit source).tokens) :
    ∃ qs, qs <:+: pieces source.toList ∧ ts.map Token.lexeme = qs.map fun p => String.ofList p.lexeme := by
  obtain ⟨front, back, whole⟩ := part.map Token.lexeme
  rw [map_lexeme_scanned, lexemes, ← List.map_take, List.append_assoc] at whole
  obtain ⟨ps, rest, split, -, rest_eq⟩ := List.map_eq_append_iff.mp whole.symm
  obtain ⟨qs, rs, rfl, lexemes, -⟩ := List.map_eq_append_iff.mp rest_eq
  refine ⟨qs, ?_, lexemes.symm⟩
  have first : qs <:+: (pieces source.toList).take (tokenLimit limit) := by
    rw [split, ← List.append_assoc]
    exact List.infix_append _ _ _
  exact first.trans (List.take_prefix _ _).isInfix

theorem lexemes_joinLexemes {limit : Nat} {source : String} {ts : List Token}
    (part : ts <:+: (scanned limit source).tokens) : lexemes (Token.joinLexemes ts) = ts.map Token.lexeme := by
  obtain ⟨qs, within, same⟩ := exists_pieces_of_infix part
  have again : respaced [] qs = pieces (Token.joinLexemes ts).toList := by
    rw [Token.joinLexemes, same, toList_intercalate_space]
    exact ((lexed_iff.mpr rfl).joined within).eq_pieces
  have texts := congrArg (List.map String.ofList) (map_lexeme_respaced [] qs)
  rw [List.map_map, List.map_map] at texts
  rw [lexemes, ← again, same]
  exact texts

theorem map_kind_of_textual {ts us : List Token} (ht : ∀ t ∈ ts, t.kind = .ofText t.lexeme)
    (hu : ∀ u ∈ us, u.kind = .ofText u.lexeme) (same : ts.map Token.lexeme = us.map Token.lexeme) :
    ts.map Token.kind = us.map Token.kind := by
  have kinds := congrArg (List.map TokenClass.ofText) same
  rw [List.map_map, List.map_map] at kinds
  rw [List.map_congr_left ht, List.map_congr_left hu]
  exact kinds

/-- **Joining and scanning again.** Take any tokens of a scan that stand in a row. The text that joins their lexemes by
single spaces is scanned, under the same limit, without an error, and into the same lexemes of the same classes. -/
theorem scan_joined (limit : Nat) (source : String) (short : source.utf8ByteSize < 4294967295) :
    ∃ s, scan limit source = .ok s ∧
      ∀ ts, ts <:+: s.tokens → (Token.joinLexemes ts).utf8ByteSize < 4294967295 →
        ∃ r, scan limit (Token.joinLexemes ts) = .ok r ∧ r.diagnostics limit = [] ∧
          r.tokens.map Token.lexeme = ts.map Token.lexeme ∧ r.tokens.map Token.kind = ts.map Token.kind := by
  refine ⟨_, (scan_yields limit source).eq_ok short, ?_⟩
  intro ts part fits
  have again := lexemes_joinLexemes part
  have within : (lexemes (Token.joinLexemes ts)).length ≤ tokenLimit limit := by
    have few := part.length_le
    rw [scanned_tokens, length_placed] at few
    rw [again, List.length_map]
    exact Nat.le_trans few (List.length_take_le _ _)
  have same := (lexemes_of_within limit _ within).trans again
  refine ⟨_, (scan_yields limit _).eq_ok fits, (scanned_diagnostics_eq_nil_iff limit _).mpr within, same, ?_⟩
  refine map_kind_of_textual (fun t ht => kind_of_mem_placed ht) ?_ same
  intro t ht
  exact kind_of_mem_placed (part.subset ht)

theorem scan_joined_open_quote : "x=\"a\n b\";\"y z".utf8ByteSize < 4294967295 ∧
    ∃ s r, scan 6 "x=\"a\n b\";\"y z" = .ok s ∧ s.tokens.drop 2 <:+: s.tokens ∧
      Token.joinLexemes (s.tokens.drop 2) = "\"a\n b\" ; \" y" ∧ scan 6 "\"a\n b\" ; \" y" = .ok r ∧
      r.diagnostics 6 = [] ∧ r.tokens.map Token.lexeme = ["\"a\n b\"", ";", "\"", "y"] ∧
      r.tokens.map Token.kind = [.stringLiteral, .punctuation .semicolon, .symbol, .word] := by
  obtain ⟨s, run, joins⟩ := scan_joined 6 "x=\"a\n b\";\"y z" (by decide)
  have part : s.tokens.drop 2 <:+: s.tokens := (List.drop_suffix 2 _).isInfix
  cases (scan_yields 6 _).eq_of_ok run
  have text : Token.joinLexemes ((scanned 6 "x=\"a\n b\";\"y z").tokens.drop 2) = "\"a\n b\" ; \" y" := by
    decide +kernel
  obtain ⟨r, again, none, lexemes, kinds⟩ := joins _ part (by rw [text]; decide)
  rw [text] at again
  refine ⟨by decide, _, r, run, part, text, again, none, lexemes.trans ?_, kinds.trans ?_⟩
  · decide +kernel
  · decide +kernel

end CSubset
