import CSubset.Compile
import CSubset.Proofs.Token.Scan

/-!
# Tokens tile the text

The lexemes of a scan stand in the text where their spans say, one after the other and with nothing but white space
between them, and every end of a span is the position that counting newlines and characters gives (`scan_tiles`).
-/

namespace CSubset

/-! ## Places in a text -/

/-- The text between the bytes `a` and `b` of `source`. Both stand between characters. -/
def TextAt (source : String) (a b : Nat) (text : String) : Prop :=
  ∃ before after, source = before ++ text ++ after ∧ before.utf8ByteSize = a ∧ a + text.utf8ByteSize = b

theorem TextAt.unique {source text text' : String} {a b : Nat} (h : TextAt source a b text)
    (h' : TextAt source a b text') : text = text' := by
  obtain ⟨before, after, split, start, stop⟩ := h
  obtain ⟨before', after', split', start', stop'⟩ := h'
  have same := congrArg String.toList (split.symm.trans split')
  simp only [String.toList_append, List.append_assoc] at same
  simp only [utf8ByteSize_eq] at start stop start' stop'
  obtain ⟨-, behind⟩ := append_inj_of_byteLength same (start.trans start'.symm)
  obtain ⟨here, -⟩ := append_inj_of_byteLength behind (by omega)
  exact String.toList_inj.mp here

def BlankAt (source : String) (a b : Nat) : Prop := ∃ text, TextAt source a b text ∧ ∀ c ∈ text.toList, isBlank c

/-- The position has the line and the column that go with its offset: one more than the newlines before it, and one
more than the characters since the last of them. -/
def Position.At (source : String) (p : Position) : Prop :=
  ∃ before after, source = before ++ after ∧ before.utf8ByteSize = p.offset ∧
    p.line = 1 + before.toList.count '\n' ∧ p.column = 1 + (lastLine before.toList).length

def endOf (tokens : List Token) : Nat := (tokens.getLast?.map (·.span.stop.offset)).getD 0

structure Tiles (source : String) (tokens : List Token) (errors : List Diagnostic) : Prop where
  index : ∀ (i : Nat) t, tokens[i]? = some t → t.index = i
  lexeme : ∀ t ∈ tokens, t.lexeme ≠ "" ∧ TextAt source t.span.start.offset t.span.stop.offset t.lexeme
  nonempty : ∀ t ∈ tokens, t.span.start.offset < t.span.stop.offset
  ordered : tokens.Pairwise fun t u => t.span.stop.offset ≤ u.span.start.offset
  front : ∀ t, tokens.head? = some t → BlankAt source 0 t.span.start.offset
  between : ∀ (i : Nat) t u, tokens[i]? = some t → tokens[i + 1]? = some u →
    BlankAt source t.span.stop.offset u.span.start.offset
  back : errors = [] → BlankAt source (endOf tokens) source.utf8ByteSize
  positions : ∀ t ∈ tokens, t.span.start.At source ∧ t.span.stop.At source
  /-- An error is about the token limit, and stands at the first character that did not fit. -/
  excess : ∀ d ∈ errors, d.code = Code.tooManyTokens ∧ ∃ span, d.span = some span ∧
    BlankAt source (endOf tokens) span.start.offset ∧ span.start.At source ∧ span.stop.At source

theorem textAt_of_split {source : String} {before text after : List Char}
    (h : source.toList = before ++ text ++ after) :
    TextAt source (byteLength before) (byteLength (before ++ text)) (String.ofList text) := by
  refine ⟨String.ofList before, String.ofList after, ?_, utf8ByteSize_ofList before, ?_⟩
  · rw [← String.ofList_append, ← String.ofList_append, ← h, String.ofList_toList]
  · rw [utf8ByteSize_ofList, byteLength_append]

theorem blankAt_of_split {source : String} {before gap after : List Char}
    (h : source.toList = before ++ gap ++ after) (blank : ∀ c ∈ gap, isBlank c) :
    BlankAt source (byteLength before) (byteLength (before ++ gap)) := by
  refine ⟨String.ofList gap, textAt_of_split h, ?_⟩
  rw [String.toList_ofList]
  exact blank

theorem after_at {source : String} {before : List Char} (h : before <+: source.toList) :
    (Position.after before).At source := by
  obtain ⟨after, h⟩ := h
  refine ⟨String.ofList before, String.ofList after, ?_, utf8ByteSize_ofList before, ?_, ?_⟩
  · rw [← String.ofList_append, h, String.ofList_toList]
  · rw [String.toList_ofList]; rfl
  · rw [String.toList_ofList]; rfl

/-! ## Tokens of pieces -/

theorem pieceText_getElem? {ps : List Piece} {i : Nat} {p : Piece} (h : ps[i]? = some p) :
    pieceText ps = pieceText (ps.take i) ++ p.gap ++ p.lexeme ++ pieceText (ps.drop (i + 1)) := by
  obtain ⟨hi, rfl⟩ := List.getElem?_eq_some_iff.mp h
  have split : ps = ps.take i ++ ps[i] :: ps.drop (i + 1) := by
    rw [List.getElem_cons_drop, List.take_append_drop]
  conv => lhs; rw [split]
  simp only [pieceText_append, pieceText_cons, List.append_assoc]

theorem pieceText_take_succ {ps : List Piece} {i : Nat} {p : Piece} (h : ps[i]? = some p) :
    pieceText (ps.take (i + 1)) = pieceText (ps.take i) ++ p.gap ++ p.lexeme := by
  rw [List.take_add_one, h, pieceText_append]
  simp [pieceText]

theorem le_start_of_mem_placed {before : List Char} {index : Nat} {ps : List Piece} {t : Token}
    (h : t ∈ placed before index ps) : byteLength before ≤ t.span.start.offset := by
  induction ps generalizing before index with
  | nil => cases h
  | cons p ps ih =>
    rcases List.mem_cons.mp h with rfl | h
    · simp [Piece.token, Token.ofLexeme]
    · have := ih h
      simp only [byteLength_append] at this
      omega

theorem placed_ordered (before : List Char) (index : Nat) (ps : List Piece) :
    (placed before index ps).Pairwise fun t u => t.span.stop.offset ≤ u.span.start.offset := by
  induction ps generalizing before index with
  | nil => exact List.Pairwise.nil
  | cons p ps ih => exact List.Pairwise.cons (fun u hu => le_start_of_mem_placed hu) (ih _ _)

theorem endOf_placed (ps : List Piece) : endOf (placed [] 0 ps) = byteLength (pieceText ps) := by
  unfold endOf
  rw [List.getLast?_eq_getElem?, length_placed, placed_getElem?]
  cases h : ps[ps.length - 1]? with
  | none =>
    have : ps.length ≤ ps.length - 1 := List.getElem?_eq_none_iff.mp h
    have : ps = [] := List.eq_nil_of_length_eq_zero (by omega)
    rw [this]
    rfl
  | some p =>
    obtain ⟨hi, -⟩ := List.getElem?_eq_some_iff.mp h
    have last : ps.drop (ps.length - 1 + 1) = [] := List.drop_eq_nil_of_le (by omega)
    rw [pieceText_getElem? h, last, pieceText_nil, List.append_nil]
    rfl

section
variable {source : String} {ps : List Piece} {rest : List Char}
  (whole : source.toList = pieceText ps ++ rest) (wellCut : ∀ p ∈ ps, p.WellCut)

include whole in
theorem split_of_getElem? {i : Nat} {p : Piece} (h : ps[i]? = some p) :
    source.toList = pieceText (ps.take i) ++ p.gap ++ p.lexeme ++ (pieceText (ps.drop (i + 1)) ++ rest) := by
  rw [whole, pieceText_getElem? h, List.append_assoc]

include whole wellCut in
theorem gap_blankAt {i : Nat} {p : Piece} (h : ps[i]? = some p) :
    BlankAt source (byteLength (pieceText (ps.take i))) (byteLength (pieceText (ps.take i) ++ p.gap)) := by
  have split := split_of_getElem? whole h
  rw [List.append_assoc _ p.lexeme] at split
  exact blankAt_of_split split (wellCut p (List.mem_of_getElem? h)).1

include whole wellCut in
theorem placed_tiles {errors : List Diagnostic}
    (back : errors = [] → BlankAt source (byteLength (pieceText ps)) source.utf8ByteSize)
    (excess : ∀ d ∈ errors, d.code = Code.tooManyTokens ∧ ∃ span, d.span = some span ∧
      BlankAt source (byteLength (pieceText ps)) span.start.offset ∧ span.start.At source ∧ span.stop.At source) :
    Tiles source (placed [] 0 ps) errors where
  index i t ht := by
    obtain ⟨p, -, rfl⟩ := piece_of_token ht
    rfl
  lexeme t ht := by
    obtain ⟨i, ht⟩ := List.mem_iff_getElem?.mp ht
    obtain ⟨p, hp, rfl⟩ := piece_of_token ht
    obtain ⟨-, c, more, hlexeme, -⟩ := wellCut p (List.mem_of_getElem? hp)
    refine ⟨?_, textAt_of_split (split_of_getElem? whole hp)⟩
    intro empty
    rw [String.ofList_eq_empty_iff.mp empty] at hlexeme
    cases hlexeme
  nonempty t ht := by
    obtain ⟨i, ht⟩ := List.mem_iff_getElem?.mp ht
    obtain ⟨p, hp, rfl⟩ := piece_of_token ht
    obtain ⟨-, c, more, hlexeme, -⟩ := wellCut p (List.mem_of_getElem? hp)
    have pos : 0 < byteLength p.lexeme := byteLength_pos (by rw [hlexeme]; exact List.cons_ne_nil _ _)
    simp only [Piece.token, Token.ofLexeme, Position.after_offset, byteLength_append]
    omega
  ordered := placed_ordered [] 0 ps
  front t ht := by
    rw [List.head?_eq_getElem?] at ht
    obtain ⟨p, hp, rfl⟩ := piece_of_token ht
    exact gap_blankAt whole wellCut hp
  between i t u ht hu := by
    obtain ⟨p, hp, rfl⟩ := piece_of_token ht
    obtain ⟨q, hq, rfl⟩ := piece_of_token hu
    have gap := gap_blankAt whole wellCut hq
    rw [pieceText_take_succ hp] at gap ⊢
    exact gap
  back h := by
    rw [endOf_placed]
    exact back h
  positions t ht := by
    obtain ⟨i, ht⟩ := List.mem_iff_getElem?.mp ht
    obtain ⟨p, hp, rfl⟩ := piece_of_token ht
    have stop : pieceText (ps.take i) ++ p.gap ++ p.lexeme <+: source.toList := ⟨_, (split_of_getElem? whole hp).symm⟩
    exact ⟨after_at ((List.prefix_append _ _).trans stop), after_at stop⟩
  excess := by
    rw [endOf_placed]
    exact excess

end

/-! ## The scan -/

theorem scanned_back {limit : Nat} {source : String} (fits : (scanned limit source).excess = none) :
    BlankAt source (byteLength (pieceText ((pieces source.toList).take (tokenLimit limit)))) source.utf8ByteSize := by
  have whole := pieceText_cut (tokenLimit limit) source.toList
  have none_left : pieces (cut (tokenLimit limit) source.toList).2 = [] := by
    rw [(cut_eq_take _ _).2]
    exact List.drop_eq_nil_of_le (by simpa [lexemes] using (scanned_excess_eq_none limit source).mp fits)
  rw [(cut_eq_take _ _).1] at whole
  have split := whole.symm
  rw [← List.append_nil (cut _ _).2, ← List.append_assoc] at split
  have back := blankAt_of_split split (blank_of_pieces_eq_nil none_left)
  rwa [whole, ← utf8ByteSize_eq] at back

theorem pieces_isPrefix {source : String} {i : Nat} {p : Piece} (h : (pieces source.toList)[i]? = some p) :
    pieceText ((pieces source.toList).take i) ++ p.gap ++ p.lexeme <+: source.toList :=
  ⟨_, (split_of_getElem? (pieceText_cut source.toList.length source.toList).symm h).symm⟩

theorem scanned_excess {limit : Nat} {source : String} {span : Span}
    (extra : (scanned limit source).excess = some span) :
    BlankAt source (byteLength (pieceText ((pieces source.toList).take (tokenLimit limit)))) span.start.offset ∧
      span.start.At source ∧ span.stop.At source := by
  obtain ⟨p, hp, rfl⟩ := Option.map_eq_some_iff.mp extra
  have whole := (pieceText_cut source.toList.length source.toList).symm
  have stop := pieces_isPrefix hp
  refine ⟨gap_blankAt whole (cut_wellCut _ _) hp, ?_, ?_⟩
  · exact after_at ((List.prefix_append _ _).trans stop)
  · exact after_at (((List.prefix_append_right_inj _).mpr (List.take_prefix 1 _)).trans stop)

/-- **Lossless tiling.** A text of fewer than 4294967295 bytes is scanned, whatever the limit, and its tokens and the
error at the limit tile it. -/
theorem scan_tiles (limit : Nat) (source : String) (short : source.utf8ByteSize < 4294967295) :
    ∃ s, scan limit source = .ok s ∧ Tiles source s.tokens (s.diagnostics limit) := by
  refine ⟨_, (scan_yields limit source).eq_ok short, ?_⟩
  have whole := pieceText_cut (tokenLimit limit) source.toList
  have wellCut := cut_wellCut (tokenLimit limit) source.toList
  rw [(cut_eq_take _ _).1] at whole wellCut
  unfold Scan.diagnostics
  cases extra : (scanned limit source).excess with
  | none =>
    refine placed_tiles whole.symm wellCut (fun _ => scanned_back extra) ?_
    intro d hd
    cases hd
  | some span =>
    refine placed_tiles whole.symm wellCut ?_ ?_
    · intro none
      cases none
    · intro d hd
      rw [List.mem_singleton.mp hd]
      exact ⟨rfl, span, rfl, scanned_excess extra⟩

theorem scan_tiles_at_limit : "s = \"a\nb\" + é ;".utf8ByteSize < 4294967295 ∧
    ∃ s, scan 4 "s = \"a\nb\" + é ;" = .ok s ∧ Tiles "s = \"a\nb\" + é ;" s.tokens (s.diagnostics 4) :=
  ⟨by decide, scan_tiles 4 _ (by decide)⟩

end CSubset
