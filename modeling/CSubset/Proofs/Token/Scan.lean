import CSubset.Token.Scan
import CSubset.Proofs.Position
import CSubset.Proofs.Token.Pieces

/-!
# What a scan returns

The tokens of a scan are the first pieces of the text, each with its index and with the positions at its two ends,
read off the text in front of them (`scan_yields`). The scan stops early only if the text is too long for positions.
-/

namespace CSubset

/-! ## Tokens read off the pieces -/

def Piece.token (before : List Char) (index : Nat) (p : Piece) : Token :=
  .ofLexeme (String.ofList p.lexeme) index ⟨.after (before ++ p.gap), .after (before ++ p.gap ++ p.lexeme)⟩

def placed (before : List Char) (index : Nat) : List Piece → List Token
  | [] => []
  | p :: ps => p.token before index :: placed (before ++ p.gap ++ p.lexeme) (index + 1) ps

theorem placed_getElem? (before : List Char) (index : Nat) (ps : List Piece) (i : Nat) :
    (placed before index ps)[i]? = ps[i]?.map fun p => p.token (before ++ pieceText (ps.take i)) (index + i) := by
  induction ps generalizing before index i with
  | nil => simp [placed]
  | cons p ps ih =>
    cases i with
    | zero => simp [placed]
    | succ i =>
      rw [placed, List.getElem?_cons_succ, List.getElem?_cons_succ, ih, List.take_succ_cons, pieceText_cons,
        Nat.add_right_comm, Nat.add_assoc]
      simp only [List.append_assoc]

theorem piece_of_token {ps : List Piece} {i : Nat} {t : Token} (h : (placed [] 0 ps)[i]? = some t) :
    ∃ p, ps[i]? = some p ∧ t = p.token (pieceText (ps.take i)) i := by
  rw [placed_getElem?, List.nil_append, Nat.zero_add] at h
  obtain ⟨p, hp, rfl⟩ := Option.map_eq_some_iff.mp h
  exact ⟨p, hp, rfl⟩

@[simp] theorem length_placed (before : List Char) (index : Nat) (ps : List Piece) :
    (placed before index ps).length = ps.length := by
  induction ps generalizing before index with
  | nil => rfl
  | cons p ps ih => rw [placed, List.length_cons, ih, List.length_cons]

theorem map_lexeme_placed (before : List Char) (index : Nat) (ps : List Piece) :
    (placed before index ps).map Token.lexeme = ps.map fun p => String.ofList p.lexeme := by
  induction ps generalizing before index with
  | nil => rfl
  | cons p ps ih =>
    rw [placed, List.map_cons, ih, List.map_cons]
    rfl

theorem kind_of_mem_placed {before : List Char} {index : Nat} {ps : List Piece} {t : Token}
    (h : t ∈ placed before index ps) : t.kind = TokenClass.ofText t.lexeme := by
  induction ps generalizing before index with
  | nil => cases h
  | cons p ps ih =>
    rcases List.mem_cons.mp h with rfl | h
    · rfl
    · exact ih h

/-! ## The scan -/

theorem span_yields (before text : List Char) :
    Yields (Span.between (.after before) (.after (before ++ text))) 0 ⟨.after before, .after (before ++ text)⟩ := by
  unfold Span.between
  rw [if_pos (by simp)]
  exact Yields.ok _ _

theorem placeFrom_yields (done : List Token) (index : Nat) (before : List Char) (ps : List Piece) :
    Yields (placeFrom done index (.after before) ps) (byteLength (before ++ pieceText ps))
      (done.reverse ++ placed before index ps, .after (before ++ pieceText ps)) := by
  induction ps generalizing done index before with
  | nil =>
    rw [pieceText_nil, List.append_nil, placed, List.append_nil]
    exact Yields.ok _ _
  | cons p ps ih =>
    have all := ih (p.token before index :: done) (index + 1) (before ++ p.gap ++ p.lexeme)
    have whole : before ++ pieceText (p :: ps) = before ++ p.gap ++ p.lexeme ++ pieceText ps := by
      simp only [pieceText_cons, List.append_assoc]
    have gap : byteLength (before ++ p.gap) ≤ byteLength (before ++ pieceText (p :: ps)) := by
      simp only [pieceText_cons, byteLength_append]
      omega
    have lexeme : byteLength (before ++ p.gap ++ p.lexeme) ≤ byteLength (before ++ pieceText (p :: ps)) := by
      simp only [pieceText_cons, byteLength_append]
      omega
    rw [List.reverse_cons, ← whole, List.append_assoc done.reverse, List.singleton_append] at all
    rw [placed]
    refine (Position.walk_after before p.gap).bind ?_ gap (Nat.le_refl _)
    refine (Position.walk_after (before ++ p.gap) p.lexeme).bind ?_ lexeme (Nat.le_refl _)
    exact (span_yields (before ++ p.gap) p.lexeme).bind all (Nat.zero_le _) (Nat.le_refl _)

theorem excessSpan_yields (before : List Char) (p : Piece) :
    Yields (excessSpan (.after before) p) (byteLength (before ++ (p.gap ++ p.lexeme)))
      (⟨.after (before ++ p.gap), .after (before ++ p.gap ++ p.lexeme.take 1)⟩, .after (before ++ p.gap)) := by
  have first : byteLength (p.lexeme.take 1) ≤ byteLength p.lexeme := by
    have := congrArg byteLength (List.take_append_drop 1 p.lexeme)
    rw [byteLength_append] at this
    omega
  have gap : byteLength (before ++ p.gap) ≤ byteLength (before ++ (p.gap ++ p.lexeme)) := by
    simp only [byteLength_append]
    omega
  have char : byteLength (before ++ p.gap ++ p.lexeme.take 1) ≤ byteLength (before ++ (p.gap ++ p.lexeme)) := by
    simp only [byteLength_append]
    omega
  unfold excessSpan
  refine (Position.walk_after before p.gap).bind ?_ gap (Nat.le_refl _)
  refine (Position.walk_after (before ++ p.gap) (p.lexeme.take 1)).bind ?_ char (Nat.le_refl _)
  exact (span_yields (before ++ p.gap) (p.lexeme.take 1)).bind (Yields.ok _ 0) (Nat.zero_le _) (Nat.zero_le _)

def scanned (limit : Nat) (source : String) : Scan :=
  let ps := pieces source.toList
  let front := pieceText (ps.take (tokenLimit limit))
  let extra := ps[tokenLimit limit]?
  { tokens := placed [] 0 (ps.take (tokenLimit limit))
    excess := extra.map fun p => ⟨.after (front ++ p.gap), .after (front ++ p.gap ++ p.lexeme.take 1)⟩
    stop := match extra with
      | some p => .after (front ++ p.gap)
      | none => .after source.toList }

theorem scanned_tokens (limit : Nat) (source : String) :
    (scanned limit source).tokens = placed [] 0 ((pieces source.toList).take (tokenLimit limit)) := rfl

theorem cut_one_rest (m : Nat) (cs : List Char) :
    (cut 1 (cut m cs).2).1 = (pieces cs)[m]?.toList := by
  rw [(cut_eq_take 1 _).1, (cut_eq_take m cs).2, ← List.head?_drop]
  cases (pieces cs).drop m with
  | nil => rfl
  | cons p ps => rfl

theorem scan_yields (limit : Nat) (source : String) :
    Yields (scan limit source) source.utf8ByteSize (scanned limit source) := by
  have first := (cut_eq_take (tokenLimit limit) source.toList).1
  have whole := pieceText_cut (tokenLimit limit) source.toList
  have next := cut_one_rest (tokenLimit limit) source.toList
  have tokens := placeFrom_yields [] 0 [] (cut (tokenLimit limit) source.toList).1
  unfold scan
  dsimp only [scanned]
  rw [← first, utf8ByteSize_eq]
  -- from here on only the texts of the two cuts matter, not how they were made
  generalize cut (tokenLimit limit) source.toList = front at *
  obtain ⟨ps, rest⟩ := front
  have rest_text := pieceText_cut 1 rest
  generalize cut 1 rest = back at *
  obtain ⟨qs, tail⟩ := back
  simp only [List.nil_append, List.reverse_nil] at first whole next tokens rest_text ⊢
  have front_le : byteLength (pieceText ps) ≤ byteLength source.toList := by
    rw [← whole, byteLength_append]
    exact Nat.le_add_right ..
  refine tokens.bind ?_ front_le (Nat.le_refl _)
  cases extra : (pieces source.toList)[tokenLimit limit]? with
  | none =>
    rw [extra, Option.toList_none] at next
    subst next
    rw [pieceText_nil, List.nil_append] at rest_text
    have stop := Position.walk_after (pieceText ps) tail
    rw [rest_text, whole] at stop
    rw [rest_text]
    exact stop.bind (Yields.ok _ _) (Nat.le_refl _) (Nat.le_refl _)
  | some p =>
    rw [extra, Option.toList_some] at next
    subst next
    rw [← rest_text] at whole
    have fits : byteLength (pieceText ps ++ (p.gap ++ p.lexeme)) ≤ byteLength source.toList := by
      simp only [← whole, pieceText_cons, pieceText_nil, byteLength_append]
      omega
    exact (excessSpan_yields (pieceText ps) p).bind (Yields.ok _ _) fits (Nat.le_refl _)

/-! ## Lexemes -/

def lexemes (source : String) : List String := (pieces source.toList).map fun p => String.ofList p.lexeme

theorem scanned_excess_eq_none (limit : Nat) (source : String) :
    (scanned limit source).excess = none ↔ (lexemes source).length ≤ tokenLimit limit := by
  unfold scanned lexemes
  simp

theorem piece_of_scanned {limit : Nat} {source : String} {i : Nat} {t : Token}
    (h : (scanned limit source).tokens[i]? = some t) :
    ∃ p, (pieces source.toList)[i]? = some p ∧ t = p.token (pieceText ((pieces source.toList).take i)) i := by
  obtain ⟨p, hp, rfl⟩ := piece_of_token h
  rw [List.getElem?_take] at hp
  by_cases hi : i < tokenLimit limit
  · rw [if_pos hi] at hp
    rw [List.take_take, Nat.min_eq_left (Nat.le_of_lt hi)]
    exact ⟨p, hp, rfl⟩
  · rw [if_neg hi] at hp
    cases hp

theorem map_lexeme_scanned (limit : Nat) (source : String) :
    (scanned limit source).tokens.map Token.lexeme = (lexemes source).take (tokenLimit limit) := by
  unfold scanned lexemes
  rw [map_lexeme_placed, List.map_take]

end CSubset
