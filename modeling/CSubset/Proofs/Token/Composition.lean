import CSubset.Proofs.Token.Joining
import CSubset.Proofs.Token.Truncation

/-!
# Scanning texts side by side

Where the quotes of a text come in pairs and white space follows it, its tokens do not depend on what comes then, and
what comes then is scanned as if it stood alone, only further on (`scan_beside`).
-/

namespace CSubset

/-! ## Positions seen from elsewhere -/

namespace Position

/-- The position `p` of a text that starts at `base`. On the first line of the text columns go on from those of `base`.
-/
def rebase (base p : Position) : Position where
  offset := base.offset + p.offset
  line := base.line + (p.line - 1)
  column := if p.line = 1 then base.column + (p.column - 1) else p.column

theorem rebase_advance (base : Position) {p : Position} (line : 1 ≤ p.line) (column : 1 ≤ p.column) (c : Char) :
    base.rebase (p.advance c) = (base.rebase p).advance c := by
  by_cases newline : c = '\n'
  · have later : p.line + 1 ≠ 1 := by omega
    simp only [advance, rebase, newline, ite_true, if_neg later, Nat.add_assoc, Position.mk.injEq, true_and, and_true]
    omega
  · simp only [advance, rebase, newline, ite_false, Nat.add_assoc, Position.mk.injEq, true_and]
    split <;> omega

theorem rebase_after (front cs : List Char) : (after front).rebase (after cs) = after (front ++ cs) := by
  induction cs using List.reverseRecOn with
  | nil =>
    rw [List.append_nil, after_nil]
    rfl
  | append_singleton cs c ih =>
    have line : 1 ≤ (after cs).line := Nat.le_add_right ..
    have column : 1 ≤ (after cs).column := Nat.le_add_right ..
    rw [← List.append_assoc, after_snoc, after_snoc, rebase_advance _ line column, ih]

theorem inRange_of_rebase {base p : Position} (line : 1 ≤ base.line) (column : 1 ≤ base.column)
    (h : (base.rebase p).InRange) : p.InRange := by
  unfold InRange rebase at *
  dsimp only at h
  by_cases first : p.line = 1
  · rw [if_pos first] at h
    omega
  · rw [if_neg first] at h
    omega

theorem inRange_of_append {front cs : List Char} (h : (after (front ++ cs)).InRange) : (after cs).InRange := by
  rw [← rebase_after] at h
  exact inRange_of_rebase (Nat.le_add_right ..) (Nat.le_add_right ..) h

end Position

def Token.rebase (count : Nat) (base : Position) (t : Token) : Token :=
  { t with index := count + t.index, span := ⟨base.rebase t.span.start, base.rebase t.span.stop⟩ }

theorem placed_rebase (front before : List Char) (count index : Nat) (ps : List Piece) :
    placed (front ++ before) (count + index) ps = (placed before index ps).map (Token.rebase count (.after front)) := by
  induction ps generalizing before index with
  | nil => rfl
  | cons p ps ih =>
    have first : p.token (front ++ before) (count + index) =
        (p.token before index).rebase count (.after front) := by
      simp only [Piece.token, Token.ofLexeme, Token.rebase, Position.rebase_after, List.append_assoc]
    rw [placed, placed, List.map_cons, first, ← ih]
    simp only [List.append_assoc, Nat.add_assoc]

/-! ## Texts within the range of positions -/

def GivesIff {α} (x : Except Fault α) (P : Prop) (v : α) : Prop := P ∧ x = .ok v ∨ ¬P ∧ ∃ f, x = .error f

namespace GivesIff

theorem ok {α} (v : α) : GivesIff (.ok v) True v := Or.inl ⟨trivial, rfl⟩

theorem bind {α β} {x : Except Fault α} {f : α → Except Fault β} {P Q : Prop} {v : α} {w : β} (hx : GivesIff x P v)
    (hf : GivesIff (f v) Q w) : GivesIff (x >>= f) (P ∧ Q) w := by
  rcases hx with ⟨p, rfl⟩ | ⟨np, e, rfl⟩
  · rcases hf with ⟨q, h⟩ | ⟨nq, e, h⟩
    · exact Or.inl ⟨⟨p, q⟩, h⟩
    · exact Or.inr ⟨fun both => nq both.2, e, h⟩
  · exact Or.inr ⟨fun both => np both.1, e, rfl⟩

theorem congr {α} {x : Except Fault α} {P Q : Prop} {v : α} (h : GivesIff x P v) (iff : P ↔ Q) : GivesIff x Q v := by
  rwa [← propext iff]

theorem holds {α} {x : Except Fault α} {P : Prop} {v w : α} (h : GivesIff x P v) (hw : x = .ok w) : P := by
  rcases h with ⟨p, -⟩ | ⟨-, e, h⟩
  · exact p
  · cases hw.symm.trans h

theorem eq_ok {α} {x : Except Fault α} {P : Prop} {v : α} (h : GivesIff x P v) (p : P) : x = .ok v := by
  rcases h with ⟨-, h⟩ | ⟨np, -⟩
  · exact h
  · exact absurd p np

end GivesIff

def InRangeOver : (before cs : List Char) → Prop
  | _, [] => True
  | before, c :: cs => (Position.after (before ++ [c])).InRange ∧ InRangeOver (before ++ [c]) cs

theorem inRangeOver_append (before cs ds : List Char) :
    InRangeOver before (cs ++ ds) ↔ InRangeOver before cs ∧ InRangeOver (before ++ cs) ds := by
  induction cs generalizing before with
  | nil => simp [InRangeOver]
  | cons c cs ih => simp [InRangeOver, ih, and_assoc]

theorem inRangeOver_of_behind {front before cs : List Char} (h : InRangeOver (front ++ before) cs) :
    InRangeOver before cs := by
  induction cs generalizing before with
  | nil => trivial
  | cons c cs ih =>
    obtain ⟨first, rest⟩ := h
    rw [List.append_assoc] at first rest
    exact ⟨Position.inRange_of_append first, ih rest⟩

theorem walk_gives (before cs : List Char) :
    GivesIff ((Position.after before).walk cs) (InRangeOver before cs) (.after (before ++ cs)) := by
  induction cs generalizing before with
  | nil =>
    rw [List.append_nil]
    exact .ok _
  | cons c cs ih =>
    have step : GivesIff ((Position.after before).step c) (Position.after (before ++ [c])).InRange
        (.after (before ++ [c])) := by
      unfold Position.step
      rw [← Position.after_snoc]
      split
      · next inRange => exact Or.inl ⟨inRange, rfl⟩
      · next beyond => exact Or.inr ⟨beyond, _, rfl⟩
    rw [List.append_cons, Position.walk_cons]
    exact step.bind (ih (before ++ [c]))

theorem placeFrom_gives (done : List Token) (index : Nat) (before : List Char) (ps : List Piece) :
    GivesIff (placeFrom done index (.after before) ps) (InRangeOver before (pieceText ps))
      (done.reverse ++ placed before index ps, .after (before ++ pieceText ps)) := by
  induction ps generalizing done index before with
  | nil =>
    rw [pieceText_nil, List.append_nil, placed, List.append_nil]
    exact .ok _
  | cons p ps ih =>
    have all := ih (p.token before index :: done) (index + 1) (before ++ p.gap ++ p.lexeme)
    have span : GivesIff (Span.between (.after (before ++ p.gap)) (.after (before ++ p.gap ++ p.lexeme))) True _ :=
      Or.inl ⟨trivial, (span_yields (before ++ p.gap) p.lexeme).eq_ok (by decide)⟩
    have whole : before ++ pieceText (p :: ps) = before ++ p.gap ++ p.lexeme ++ pieceText ps := by
      simp only [pieceText_cons, List.append_assoc]
    rw [List.reverse_cons, List.append_assoc done.reverse, List.singleton_append, ← whole] at all
    refine ((walk_gives before p.gap).bind ((walk_gives (before ++ p.gap) p.lexeme).bind (span.bind all))).congr ?_
    rw [pieceText_cons, inRangeOver_append, inRangeOver_append, List.append_assoc before]
    simp only [true_and, and_assoc]

theorem scan_gives {limit : Nat} {source : String} (within : (lexemes source).length ≤ tokenLimit limit) :
    GivesIff (scan limit source) (InRangeOver [] source.toList) (scanned limit source) := by
  have extra : (pieces source.toList)[tokenLimit limit]? = none :=
    List.getElem?_eq_none (by simpa [lexemes] using within)
  have first := (cut_eq_take (tokenLimit limit) source.toList).1
  have whole := pieceText_cut (tokenLimit limit) source.toList
  have next := cut_one_rest (tokenLimit limit) source.toList
  have tokens := placeFrom_gives [] 0 [] (cut (tokenLimit limit) source.toList).1
  unfold scan
  dsimp only [scanned]
  rw [extra, ← first]
  generalize cut (tokenLimit limit) source.toList = front at *
  obtain ⟨ps, rest⟩ := front
  have rest_text := pieceText_cut 1 rest
  generalize cut 1 rest = back at *
  obtain ⟨qs, tail⟩ := back
  rw [extra, Option.toList_none] at next
  subst next
  simp only [List.nil_append, List.reverse_nil, pieceText_nil] at whole tokens rest_text ⊢
  subst rest_text
  have stop := walk_gives (pieceText ps) tail
  rw [whole] at stop
  apply GivesIff.congr
  · exact tokens.bind (stop.bind (.ok _))
  · rw [and_true, ← whole, inRangeOver_append, List.nil_append]

/-! ## Pairs of quotes -/

theorem count_quote_eq_zero {cs : List Char} (h : '"' ∉ cs) : cs.count '"' = 0 := List.count_eq_zero.mpr h

def LexemeForm.quoteCount : LexemeForm → Nat
  | string => 2
  | word | mark => 0
  | quote => 1

theorem LexemeForm.Fits.count_quote {before text after : List Char} {f : LexemeForm} (h : f.Fits before text after) :
    text.count '"' = f.quoteCount := by
  cases f with
  | string =>
    obtain ⟨body, rfl, none⟩ := h
    simp [quoteCount, count_quote_eq_zero none]
  | word =>
    obtain ⟨-, all, -⟩ := h
    refine count_quote_eq_zero fun mem => ?_
    have := all '"' mem
    rw [isWordChar_quote] at this
    cases this
  | mark =>
    obtain ⟨c, rfl, -, -, other⟩ := h
    exact count_quote_eq_zero (by simpa using Ne.symm other)
  | quote =>
    obtain ⟨rfl, -⟩ := h
    rfl

/-- A lexeme takes two quotes or none, unless it is a quote that stays open; and then it is the last quote. -/
theorem LexemeForm.Fits.even_quotes {before text after : List Char} {f : LexemeForm} (h : f.Fits before text after)
    (even : (text ++ after).count '"' % 2 = 0) : after.count '"' % 2 = 0 ∧ text ≠ ['"'] := by
  have count := h.count_quote
  rw [List.count_append, count] at even
  cases f with
  | quote =>
    obtain ⟨-, none⟩ := h
    rw [count_quote_eq_zero none] at even
    cases even
  | string | word | mark =>
    dsimp only [quoteCount] at even count
    refine ⟨by omega, fun alone => ?_⟩
    rw [alone] at count
    cases count

/-! ## Two texts -/

def widened (gap : List Char) : List Piece → List Piece
  | [] => []
  | p :: ps => ⟨gap ++ p.gap, p.lexeme⟩ :: ps

theorem placed_widened (before gap : List Char) (index : Nat) (ps : List Piece) :
    placed before index (widened gap ps) = placed (before ++ gap) index ps := by
  cases ps with
  | nil => rfl
  | cons p ps => simp only [widened, placed, Piece.token, List.append_assoc]

theorem placed_append (before : List Char) (index : Nat) (ps qs : List Piece) :
    placed before index (ps ++ qs) =
      placed before index ps ++ placed (before ++ pieceText ps) (index + ps.length) qs := by
  induction ps generalizing before index with
  | nil => simp [placed]
  | cons p ps ih =>
    rw [List.cons_append, placed, placed, ih, List.cons_append, pieceText_cons, List.length_cons, Nat.add_assoc,
      Nat.add_comm 1]
    simp only [List.append_assoc]

namespace Lexed

theorem widened {before gap cs : List Char} {ps : List Piece} (h : Lexed (before ++ gap) cs ps)
    (blank : ∀ c ∈ gap, isBlank c) : Lexed before (gap ++ cs) (widened gap ps) := by
  cases h with
  | blank rest =>
    refine .blank fun c hc => ?_
    rcases List.mem_append.mp hc with hc | hc
    · exact blank c hc
    · exact rest c hc
  | @piece _ more text after ps f hmore hf rest =>
    rw [List.append_assoc before] at hf rest
    have wide : ∀ c ∈ gap ++ more, isBlank c := fun c hc => (List.mem_append.mp hc).elim (blank c) (hmore c)
    have all := Lexed.piece wide hf rest
    rwa [List.append_assoc, List.append_assoc gap, ← List.append_assoc more] at all

/-- Behind a text whose quotes come in pairs, and white space, another text starts afresh. -/
theorem beside {before a w b : List Char} {ps qs : List Piece} (ha : Lexed before a ps)
    (even : a.count '"' % 2 = 0) (blank : ∀ c ∈ w, isBlank c) (nonempty : w ≠ []) (hb : Lexed (before ++ a ++ w) b qs) :
    ∃ gap, a = pieceText ps ++ gap ∧ Lexed before (a ++ w ++ b) (ps ++ CSubset.widened (gap ++ w) qs) := by
  induction ha with
  | @blank before a hblank =>
    refine ⟨a, rfl, ?_⟩
    rw [List.append_assoc before] at hb
    exact hb.widened fun c hc => (List.mem_append.mp hc).elim (hblank c) (blank c)
  | @piece before gap text after ps f hgap hf _ ih =>
    have no_quote : '"' ∉ gap := fun mem => absurd (hgap _ mem) (by decide)
    rw [List.append_assoc gap, List.count_append, count_quote_eq_zero no_quote, Nat.zero_add] at even
    obtain ⟨even, closed⟩ := hf.even_quotes even
    have same : before ++ (gap ++ text ++ after) ++ w = before ++ gap ++ text ++ after ++ w := by
      simp only [List.append_assoc]
    obtain ⟨tail, whole, rest⟩ := ih even (same ▸ hb)
    refine ⟨tail, by rw [pieceText_cons, List.append_assoc _ (pieceText ps), ← whole], ?_⟩
    have next : f.Fits (before ++ gap) text (after ++ w ++ b) := by
      refine hf.moved id ?_ fun alone => absurd alone closed
      intro apart
      cases after with
      | nil =>
        obtain ⟨c, w, rfl⟩ := List.exists_cons_of_ne_nil nonempty
        exact startsApart_of_blank (blank c List.mem_cons_self) _
      | cons d after => exact apart
    have all := Lexed.piece hgap next rest
    rwa [← List.append_assoc, ← List.append_assoc] at all

end Lexed

theorem pieces_beside {a w b : List Char} (even : a.count '"' % 2 = 0) (blank : ∀ c ∈ w, isBlank c)
    (nonempty : w ≠ []) :
    ∃ gap, a = pieceText (pieces a) ++ gap ∧ pieces (a ++ w ++ b) = pieces a ++ widened (gap ++ w) (pieces b) := by
  have apart : NoRunAcross (a ++ w) b := by
    obtain ⟨front, c, rfl⟩ := (List.eq_nil_or_concat w).resolve_left nonempty
    intro d _ hd _ word
    rw [List.concat_eq_append, ← List.append_assoc] at hd
    exact absurd word (endsApart_of_blank _ (blank c (by simp)) d hd)
  obtain ⟨gap, whole, all⟩ := (lexed_iff.mpr rfl).beside even blank nonempty (lexed_pieces apart)
  exact ⟨gap, whole, all.eq_pieces.symm⟩

theorem allTokens_beside {a w b : String} (even : a.toList.count '"' % 2 = 0) (blank : ∀ c ∈ w.toList, isBlank c)
    (nonempty : w ≠ "") :
    allTokens (a ++ w ++ b) =
      allTokens a ++ (allTokens b).map (Token.rebase (allTokens a).length (.after (a ++ w).toList)) := by
  have nonempty : w.toList ≠ [] := fun h => nonempty (String.toList_eq_nil_iff.mp h)
  obtain ⟨gap, whole, all⟩ := pieces_beside even blank nonempty (b := b.toList)
  unfold allTokens
  rw [String.toList_append, String.toList_append, all, placed_append, placed_widened, ← placed_rebase, List.append_nil,
    Nat.add_zero, length_placed, Nat.zero_add, List.nil_append, ← List.append_assoc, ← whole]

/-! ## The scan -/

/-- **Composition.** Take a text with an even number of quotes, white space, and another text, together within the
limits. The tokens of the whole are those of the first text, followed by those of the second: their lexemes and classes
are the same, their indices go on from the first text, and their spans are seen from the position behind the white
space. -/
theorem scan_beside (limit : Nat) (a w b : String) (even : a.toList.count '"' % 2 = 0)
    (blank : ∀ c ∈ w.toList, isBlank c) (nonempty : w ≠ "") :
    ((a ++ w ++ b).utf8ByteSize < 4294967295 → ∃ s, scan limit (a ++ w ++ b) = .ok s) ∧
    ∀ s, scan limit (a ++ w ++ b) = .ok s → s.diagnostics limit = [] →
      ∃ sa sb base, scan limit a = .ok sa ∧ scan limit b = .ok sb ∧ Position.start.walk (a ++ w).toList = .ok base ∧
        sa.diagnostics limit = [] ∧ sb.diagnostics limit = [] ∧
        s.tokens = sa.tokens ++ sb.tokens.map (Token.rebase sa.tokens.length base) := by
  refine ⟨fun short => ⟨_, (scan_yields limit _).eq_ok short⟩, ?_⟩
  intro s run quiet
  cases (scan_yields limit _).eq_of_ok run
  have within := (scanned_diagnostics_eq_nil_iff limit _).mp quiet
  have all := allTokens_beside even blank nonempty (b := b)
  have count := congrArg List.length all
  rw [List.length_append, List.length_map, length_allTokens, length_allTokens, length_allTokens] at count
  have within_a : (lexemes a).length ≤ tokenLimit limit := by omega
  have within_b : (lexemes b).length ≤ tokenLimit limit := by omega
  -- the positions of both texts are no further out than those of the whole
  have range := (scan_gives within).holds run
  rw [String.toList_append, inRangeOver_append] at range
  obtain ⟨front, back⟩ := range
  have range_a := front
  rw [String.toList_append, inRangeOver_append] at range_a
  have range_b : InRangeOver [] b.toList := by
    rw [List.nil_append, ← List.append_nil (a ++ w).toList] at back
    exact inRangeOver_of_behind back
  have whole_a := scanned_tokens_eq_take limit a
  have whole_b := scanned_tokens_eq_take limit b
  rw [List.take_of_length_le (by rwa [length_allTokens])] at whole_a whole_b
  refine ⟨_, _, _, (scan_gives within_a).eq_ok range_a.1, (scan_gives within_b).eq_ok range_b,
    (walk_gives [] (a ++ w).toList).eq_ok front, (scanned_diagnostics_eq_nil_iff limit a).mpr within_a,
    (scanned_diagnostics_eq_nil_iff limit b).mpr within_b, ?_⟩
  rw [scanned_tokens_eq_take, List.take_of_length_le (by rwa [length_allTokens]), all, whole_a, whole_b, List.nil_append]

theorem scan_beside_two_lines :
    "s=\"é\n\";".toList.count '"' % 2 = 0 ∧ (∀ c ∈ " \t".toList, isBlank c) ∧ " \t" ≠ "" ∧
      ∃ s sa sb, scan 7 ("s=\"é\n\";" ++ " \t" ++ "t \"a\nb\" u") = .ok s ∧ s.diagnostics 7 = [] ∧
        scan 7 "s=\"é\n\";" = .ok sa ∧ scan 7 "t \"a\nb\" u" = .ok sb ∧
        s.tokens = sa.tokens ++ sb.tokens.map (Token.rebase 4 ⟨10, 2, 5⟩) ∧
        s.tokens.map Token.span = [⟨⟨0, 1, 1⟩, ⟨1, 1, 2⟩⟩, ⟨⟨1, 1, 2⟩, ⟨2, 1, 3⟩⟩, ⟨⟨2, 1, 3⟩, ⟨7, 2, 2⟩⟩,
          ⟨⟨7, 2, 2⟩, ⟨8, 2, 3⟩⟩, ⟨⟨10, 2, 5⟩, ⟨11, 2, 6⟩⟩, ⟨⟨12, 2, 7⟩, ⟨17, 3, 3⟩⟩, ⟨⟨18, 3, 4⟩, ⟨19, 3, 5⟩⟩] := by
  have blank : ∀ c ∈ " \t".toList, isBlank c := List.all_eq_true.mp (by decide)
  obtain ⟨returns, composed⟩ := scan_beside 7 "s=\"é\n\";" " \t" "t \"a\nb\" u" (by decide) blank (by decide)
  obtain ⟨s, run⟩ := returns (by decide)
  have result := (scan_yields 7 _).eq_of_ok run
  have quiet : s.diagnostics 7 = [] := by
    rw [result, scanned_diagnostics_eq_nil_iff]
    decide +kernel
  obtain ⟨sa, sb, base, run_a, run_b, walk, -, -, tokens⟩ := composed s run quiet
  have count : sa.tokens.length = 4 := by
    rw [(scan_yields 7 _).eq_of_ok run_a]
    decide +kernel
  have place : base = ⟨10, 2, 5⟩ := Except.ok.inj (walk.symm.trans (by decide))
  rw [count, place] at tokens
  refine ⟨by decide, blank, by decide, s, sa, sb, run, quiet, run_a, run_b, tokens, ?_⟩
  rw [result]
  decide +kernel

end CSubset
