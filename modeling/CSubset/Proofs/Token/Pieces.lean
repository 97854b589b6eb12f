import CSubset.Token.Pieces
import Mathlib.Data.List.TakeWhile

/-!
# Cutting a text into pieces

Cutting loses nothing: the pieces and what is left of the text make up the text. It can be stopped at any piece and
taken up again (`cut_add`), so a cut with less room gives the first of the same pieces (`cut_eq_take`).
-/

namespace CSubset

/-! ## One lexeme -/

theorem cutLexeme_append (c : Char) (cs : List Char) : (cutLexeme c cs).1 ++ (cutLexeme c cs).2 = c :: cs := by
  unfold cutLexeme
  by_cases hq : c = '"'
  · rw [if_pos hq]
    have whole := List.takeWhile_append_dropWhile (p := (· ≠ '"')) (l := cs)
    cases h : cs.dropWhile (· ≠ '"') with
    | nil => rfl
    | cons q rest =>
      rw [h] at whole
      simp only [List.cons_append, List.append_assoc, List.nil_append]
      rw [whole]
  · rw [if_neg hq]
    by_cases hw : isWordChar c
    · simp [hw]
    · simp [hw]

theorem cutLexeme_head (c : Char) (cs : List Char) : ∃ more, (cutLexeme c cs).1 = c :: more := by
  unfold cutLexeme
  by_cases hq : c = '"'
  · rw [if_pos hq]
    split
    · exact ⟨[], rfl⟩
    · exact ⟨_, rfl⟩
  · rw [if_neg hq]
    split
    · exact ⟨_, rfl⟩
    · exact ⟨[], rfl⟩

theorem cutLexeme_ne_nil (c : Char) (cs : List Char) : (cutLexeme c cs).1 ≠ [] := by
  obtain ⟨more, h⟩ := cutLexeme_head c cs
  rw [h]
  exact List.cons_ne_nil _ _

theorem length_cutLexeme_le (c : Char) (cs : List Char) : (cutLexeme c cs).2.length ≤ cs.length := by
  have whole := congrArg List.length (cutLexeme_append c cs)
  have pos := List.length_pos_iff.mpr (cutLexeme_ne_nil c cs)
  rw [List.length_append, List.length_cons] at whole
  omega

/-! ## One piece after the other -/

theorem cutFrom_eq (room : Nat) (done : List Piece) (cs : List Char) :
    cutFrom room done cs = (done.reverse ++ (cut room cs).1, (cut room cs).2) := by
  unfold cut
  induction room generalizing done cs with
  | zero => simp [cutFrom]
  | succ room ih =>
    unfold cutFrom
    cases cs.dropWhile isBlank with
    | nil => simp
    | cons c rest =>
      dsimp only
      rw [ih, ih [_]]
      simp

theorem cut_zero (cs : List Char) : cut 0 cs = ([], cs) := rfl

theorem cut_of_blank {cs : List Char} (h : ∀ c ∈ cs, isBlank c) (room : Nat) : cut room cs = ([], cs) := by
  cases room with
  | zero => rfl
  | succ room =>
    unfold cut cutFrom
    rw [List.dropWhile_eq_nil_iff.mpr h]
    rfl

theorem cut_succ {gap : List Char} (hgap : ∀ c ∈ gap, isBlank c) {c : Char} (hc : ¬isBlank c) (cs : List Char)
    (room : Nat) :
    cut (room + 1) (gap ++ c :: cs) =
      (⟨gap, (cutLexeme c cs).1⟩ :: (cut room (cutLexeme c cs).2).1, (cut room (cutLexeme c cs).2).2) := by
  have front : (gap ++ c :: cs).takeWhile isBlank = gap := by
    rw [List.takeWhile_append_of_pos hgap, List.takeWhile_cons_of_neg hc, List.append_nil]
  have back : (gap ++ c :: cs).dropWhile isBlank = c :: cs := by
    rw [List.dropWhile_append_of_pos hgap, List.dropWhile_cons_of_neg hc]
  unfold cut
  rw [cutFrom, back]
  dsimp only
  rw [cutFrom_eq, front]
  rfl

theorem blank_or_split (cs : List Char) :
    (∀ c ∈ cs, isBlank c) ∨
      ∃ gap c rest, cs = gap ++ c :: rest ∧ (∀ c ∈ gap, isBlank c) ∧ ¬isBlank c := by
  cases h : cs.dropWhile isBlank with
  | nil => exact Or.inl (List.dropWhile_eq_nil_iff.mp h)
  | cons c rest =>
    refine Or.inr ⟨cs.takeWhile isBlank, c, rest, ?_, fun d hd => List.mem_takeWhile_imp hd, ?_⟩
    · rw [← h, List.takeWhile_append_dropWhile]
    · have := List.head?_dropWhile_not isBlank cs
      rw [h] at this
      simpa using this

theorem cut_add (a b : Nat) (cs : List Char) :
    cut (a + b) cs = ((cut a cs).1 ++ (cut b (cut a cs).2).1, (cut b (cut a cs).2).2) := by
  induction a generalizing cs with
  | zero => simp [cut_zero]
  | succ a ih =>
    rcases blank_or_split cs with blank | ⟨gap, c, rest, rfl, hgap, hc⟩
    · -- nothing is left to cut in either go
      simp [cut_of_blank blank]
    · rw [Nat.succ_add, cut_succ hgap hc, cut_succ hgap hc, ih]
      rfl

/-! ## What the pieces are made of -/

def pieceText (ps : List Piece) : List Char := ps.flatMap fun p => p.gap ++ p.lexeme

@[simp] theorem pieceText_nil : pieceText [] = [] := rfl

@[simp] theorem pieceText_cons (p : Piece) (ps : List Piece) :
    pieceText (p :: ps) = p.gap ++ p.lexeme ++ pieceText ps := by
  simp [pieceText]

@[simp] theorem pieceText_append (ps qs : List Piece) : pieceText (ps ++ qs) = pieceText ps ++ pieceText qs := by
  simp [pieceText]

theorem pieceText_cut (room : Nat) (cs : List Char) : pieceText (cut room cs).1 ++ (cut room cs).2 = cs := by
  induction room generalizing cs with
  | zero => simp [cut_zero]
  | succ room ih =>
    rcases blank_or_split cs with blank | ⟨gap, c, rest, rfl, hgap, hc⟩
    · simp [cut_of_blank blank]
    · rw [cut_succ hgap hc, pieceText_cons]
      simp only [List.append_assoc]
      rw [ih, cutLexeme_append]

def Piece.WellCut (p : Piece) : Prop := (∀ c ∈ p.gap, isBlank c) ∧ ∃ c more, p.lexeme = c :: more ∧ ¬isBlank c

theorem cut_wellCut (room : Nat) (cs : List Char) : ∀ p ∈ (cut room cs).1, p.WellCut := by
  induction room generalizing cs with
  | zero => simp [cut_zero]
  | succ room ih =>
    rcases blank_or_split cs with blank | ⟨gap, c, rest, rfl, hgap, hc⟩
    · simp [cut_of_blank blank]
    · intro p hp
      rw [cut_succ hgap hc] at hp
      rcases List.mem_cons.mp hp with rfl | hp
      · obtain ⟨more, hmore⟩ := cutLexeme_head c rest
        exact ⟨hgap, c, more, hmore, hc⟩
      · exact ih _ p hp

/-! ## All pieces of a text -/

/-- All pieces of a text. There is room for each, as a piece takes at least one character. -/
def pieces (cs : List Char) : List Piece := (cut cs.length cs).1

theorem cut_rest_blank {room : Nat} {cs : List Char} (h : cs.length ≤ room) : ∀ c ∈ (cut room cs).2, isBlank c := by
  induction room generalizing cs with
  | zero =>
    rw [List.eq_nil_of_length_eq_zero (Nat.le_zero.mp h)]
    simp [cut_zero]
  | succ room ih =>
    rcases blank_or_split cs with blank | ⟨gap, c, rest, rfl, hgap, hc⟩
    · rw [cut_of_blank blank]
      exact blank
    · rw [cut_succ hgap hc]
      apply ih
      have := length_cutLexeme_le c rest
      rw [List.length_append, List.length_cons] at h
      omega

theorem pieces_eq_cut {room : Nat} {cs : List Char} (h : cs.length ≤ room) : pieces cs = (cut room cs).1 := by
  obtain ⟨extra, rfl⟩ := Nat.exists_eq_add_of_le h
  rw [cut_add, cut_of_blank (cut_rest_blank (Nat.le_refl _)), List.append_nil]
  rfl

theorem pieces_of_blank {cs : List Char} (h : ∀ c ∈ cs, isBlank c) : pieces cs = [] := by
  unfold pieces
  rw [cut_of_blank h]

theorem pieces_split {gap : List Char} (hgap : ∀ c ∈ gap, isBlank c) {c : Char} (hc : ¬isBlank c) (cs : List Char) :
    pieces (gap ++ c :: cs) = ⟨gap, (cutLexeme c cs).1⟩ :: pieces (cutLexeme c cs).2 := by
  have whole : (gap ++ c :: cs).length = gap.length + cs.length + 1 := by
    rw [List.length_append, List.length_cons, Nat.add_assoc]
  have left : (cutLexeme c cs).2.length ≤ gap.length + cs.length :=
    Nat.le_trans (length_cutLexeme_le c cs) (Nat.le_add_left ..)
  rw [pieces_eq_cut left, pieces_eq_cut (Nat.le_of_eq whole), cut_succ hgap hc]

theorem blank_of_pieces_eq_nil {cs : List Char} (h : pieces cs = []) : ∀ c ∈ cs, isBlank c := by
  rcases blank_or_split cs with blank | ⟨gap, c, rest, rfl, hgap, hc⟩
  · exact blank
  · rw [pieces_split hgap hc] at h
    cases h

theorem pieces_eq_append (room : Nat) (cs : List Char) : pieces cs = (cut room cs).1 ++ pieces (cut room cs).2 := by
  have left : (cut room cs).2.length ≤ cs.length := by
    have := congrArg List.length (pieceText_cut room cs)
    rw [List.length_append] at this
    omega
  rw [pieces_eq_cut left, pieces_eq_cut (Nat.le_add_left cs.length room), cut_add]

theorem length_cut_le (room : Nat) (cs : List Char) : (cut room cs).1.length ≤ room := by
  induction room generalizing cs with
  | zero => simp [cut_zero]
  | succ room ih =>
    rcases blank_or_split cs with blank | ⟨gap, c, rest, rfl, hgap, hc⟩
    · simp [cut_of_blank blank]
    · rw [cut_succ hgap hc]
      exact Nat.succ_le_succ (ih _)

theorem cut_rest_of_lt {room : Nat} {cs : List Char} (h : (cut room cs).1.length < room) :
    ∀ c ∈ (cut room cs).2, isBlank c := by
  induction room generalizing cs with
  | zero => cases h
  | succ room ih =>
    rcases blank_or_split cs with blank | ⟨gap, c, rest, rfl, hgap, hc⟩
    · rw [cut_of_blank blank]
      exact blank
    · rw [cut_succ hgap hc] at h ⊢
      exact ih (Nat.lt_of_succ_lt_succ h)

theorem cut_eq_take (room : Nat) (cs : List Char) :
    (cut room cs).1 = (pieces cs).take room ∧ pieces (cut room cs).2 = (pieces cs).drop room := by
  rw [pieces_eq_append room cs]
  -- with room to spare no piece is left, and otherwise exactly `room` pieces were cut
  rcases Nat.lt_or_ge (cut room cs).1.length room with short | full
  · rw [pieces_of_blank (cut_rest_of_lt short), List.append_nil, List.take_of_length_le (Nat.le_of_lt short),
      List.drop_eq_nil_of_le (Nat.le_of_lt short)]
    exact ⟨rfl, rfl⟩
  · have exact_length := Nat.le_antisymm (length_cut_le room cs) full
    exact ⟨(List.take_left' exact_length).symm, (List.drop_left' exact_length).symm⟩

end CSubset
