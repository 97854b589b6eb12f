import CSubset.Proofs.Lines
import CSubset.Proofs.Token.Metrics
import CSubset.SourceFile

/-!
# Counting lines

The lines in the index of a text are the pieces between its newlines, so there is one more of them than there are
newlines. A scan that reaches the end of the text counts as many. The lines of a file are one less if nothing follows
its last newline (`lines_agree`).
-/

namespace CSubset

/-! ## Pieces between newlines -/

theorem length_splitOn_newline (cs : List Char) : (cs.splitOn '\n').length = cs.count '\n' + 1 := by
  induction cs with
  | nil => rfl
  | cons c cs ih =>
    rw [List.splitOn_cons_eq_if_modifyHead]
    by_cases hc : c = '\n'
    · simp [hc, ih]
    · simp [hc, ih]

theorem splitOn_newline_head? (cs : List Char) : (cs.splitOn '\n').head? = some (firstLine cs) := by
  induction cs with
  | nil => rfl
  | cons c cs ih =>
    rw [List.splitOn_cons_eq_if_modifyHead, firstLine_cons]
    by_cases hc : c = '\n'
    · simp [hc]
    · simp [hc, ih]

theorem splitOn_newline_getElem? {before : List Char} (start : lastLine before = []) (rest : List Char) :
    ((before ++ rest).splitOn '\n')[before.count '\n']? = some (firstLine rest) := by
  rcases lastLine_eq_nil start with rfl | ⟨front, rfl⟩
  · rw [List.nil_append, List.count_nil, ← List.head?_eq_getElem?]
    exact splitOn_newline_head? rest
  · have index : (front ++ ['\n']).count '\n' = (front.splitOn '\n').length := by
      rw [length_splitOn_newline, List.count_append, List.count_singleton_self]
    rw [List.append_assoc, List.singleton_append, List.splitOn_append_cons_self, index,
      List.getElem?_append_right (Nat.le_refl _), Nat.sub_self, ← List.head?_eq_getElem?]
    exact splitOn_newline_head? rest

theorem exists_nth_lineStart {cs : List Char} {i : Nat} (h : i ≤ cs.count '\n') :
    ∃ before rest, cs = before ++ rest ∧ before.count '\n' = i ∧ lastLine before = [] := by
  induction i with
  | zero => exact ⟨[], cs, rfl, rfl, rfl⟩
  | succ i ih =>
    obtain ⟨before, rest, rfl, count, -⟩ := ih (Nat.le_of_succ_le h)
    rw [List.count_append, count] at h
    have more : '\n' ∈ rest := List.count_pos_iff.mp (by omega)
    obtain ⟨line, after, rfl, same⟩ := List.eq_append_cons_of_mem more
    refine ⟨before ++ line ++ ['\n'], after, by simp, ?_, by rw [lastLine_snoc, if_pos rfl]⟩
    rw [List.count_append, List.count_append, count, List.count_eq_zero_of_not_mem same, List.count_singleton_self]

/-! ## The index of a text -/

theorem size_lineStarts (source : String) :
    (SourceText.ofString source).lineStarts.size = 1 + source.toList.count '\n' := by
  rw [← Array.length_toList, toList_lineStarts, lineStarts, List.length_cons, length_startsFrom, Nat.add_comm]

section
variable (source : String) (n : Nat)

theorem line?_of_le (low : 1 ≤ n) (high : n ≤ 1 + source.toList.count '\n') :
    ∃ piece start stop, (source.toList.splitOn '\n')[n - 1]? = some piece ∧
      (SourceText.ofString source).bounds? n = some (start, stop) ∧ TextAt source start stop (String.ofList piece) ∧
      (SourceText.ofString source).line? n = some (String.ofList (piece.rdropWhile (· = '\r'))) := by
  have within : n - 1 ≤ source.toList.count '\n' := by omega
  obtain ⟨before, rest, whole, count, start⟩ := exists_nth_lineStart within
  have number : n = 1 + before.count '\n' := by omega
  have bounds := lineBounds_eq whole start
  obtain ⟨others, hothers⟩ := firstLine_isPrefix rest
  have split : source.toList = before ++ firstLine rest ++ others := by rw [whole, List.append_assoc, hothers]
  have slice := textAt_of_split split
  rw [← number] at bounds
  refine ⟨firstLine rest, _, _, ?_, bounds?_of_lineBounds bounds, slice, ?_⟩
  · rw [whole, ← count]
    exact splitOn_newline_getElem? start rest
  · exact line?_of_lineAt ⟨_, _, _, bounds, slice, (trimReturns_ofList _).symm⟩

theorem line?_isSome_iff :
    ((SourceText.ofString source).line? n).isSome ↔ 1 ≤ n ∧ n ≤ 1 + source.toList.count '\n' := by
  constructor
  · intro some
    by_contra out
    have none : (SourceText.ofString source).bounds? n = none := by
      unfold SourceText.bounds?
      by_cases hn : n = 0
      · rw [if_pos hn]
      · have beyond : (SourceText.ofString source).lineStarts.size ≤ n - 1 := by
          rw [size_lineStarts]
          omega
        rw [if_neg hn, Array.getElem?_eq_none beyond]
        rfl
    unfold SourceText.line? at some
    rw [none] at some
    cases some
  · intro inside
    obtain ⟨piece, start, stop, -, -, -, line⟩ := line?_of_le source n inside.1 inside.2
    rw [line]
    rfl

end

/-! ## The lines of a file -/

theorem countLines_eq (begun : Bool) (count : Nat) (cs : List Char) : SourceFile.countLines begun count cs =
    count + cs.count '\n' + ((cs.getLast?.map (decide <| · ≠ '\n')).getD begun).toNat := by
  induction cs generalizing begun count with
  | nil => cases begun <;> rfl
  | cons c cs ih =>
    rw [SourceFile.countLines, List.getLast?_cons]
    by_cases hc : c = '\n'
    · rw [if_pos hc, ih, hc, List.count_cons_self]
      cases cs.getLast? <;> simp <;> omega
    · rw [if_neg hc, ih, List.count_cons_of_ne hc]
      cases cs.getLast? <;> simp [hc]

theorem lineCount_add (f : SourceFile) :
    f.lineCount + (if f.text = "" ∨ f.text.toList.getLast? = some '\n' then 1 else 0) =
      1 + f.text.toList.count '\n' := by
  unfold SourceFile.lineCount
  rw [countLines_eq]
  cases last : f.text.toList.getLast? with
  | none =>
    have empty : f.text = "" := String.toList_eq_nil_iff.mp (List.getLast?_eq_none_iff.mp last)
    simp [empty]
  | some c =>
    have nonempty : f.text ≠ "" := by
      intro empty
      rw [empty] at last
      cases last
    by_cases hc : c = '\n'
    · simp [hc]
      omega
    · simp [hc, nonempty]
      omega

/-- **Lines.** The index of a text has a line for each piece between newlines, cut out between characters and without the
carriage returns at its end. A scan within the limit counts as many lines as the index has, and so does a file, but for
the last line if that is empty. -/
theorem lines_agree (source : String) :
    (∀ n, ((SourceText.ofString source).line? n).isSome ↔ 1 ≤ n ∧ n ≤ 1 + source.toList.count '\n') ∧
    (∀ n line, (SourceText.ofString source).line? n = some line → ∃ piece start stop,
      (source.toList.splitOn '\n')[n - 1]? = some piece ∧ line = String.ofList (piece.rdropWhile (· = '\r')) ∧
      (SourceText.ofString source).bounds? n = some (start, stop) ∧ TextAt source start stop (String.ofList piece)) ∧
    (source.utf8ByteSize < 4294967295 → ∀ a : Analyzer, ∃ s a', a.tokenize source = .ok (s, a') ∧
      (s.diagnostics a.limit = [] → a'.metrics.lineCount = (SourceText.ofString source).lineStarts.size)) ∧
    ∀ f : SourceFile, f.text = source →
      f.lineCount + (if source = "" ∨ source.toList.getLast? = some '\n' then 1 else 0) =
        (SourceText.ofString source).lineStarts.size := by
  refine ⟨line?_isSome_iff source, ?_, ?_, ?_⟩
  · intro n line some
    obtain ⟨low, high⟩ := (line?_isSome_iff source n).mp (by rw [some]; rfl)
    obtain ⟨piece, start, stop, split, bounds, slice, here⟩ := line?_of_le source n low high
    exact ⟨piece, start, stop, split, Option.some.inj (some.symm.trans here), bounds, slice⟩
  · intro short a
    refine ⟨_, _, a.tokenize_eq short, ?_⟩
    intro fits
    obtain ⟨before, after, whole, lines, ended, -⟩ := (ofScan_measures a.limit source).lines
    rw [ended fits, String.append_empty] at whole
    rw [← whole] at lines
    rw [size_lineStarts]
    exact lines
  · rintro f rfl
    rw [size_lineStarts]
    exact lineCount_add f

theorem lines_agree_returns : "é\r\r\n\nx\r\n".utf8ByteSize < 4294967295 ∧
    (SourceText.ofString "é\r\r\n\nx\r\n").lineStarts.size = 4 ∧
    (∃ line, (SourceText.ofString "é\r\r\n\nx\r\n").line? 1 = some line ∧ line = "é") ∧
    ¬((SourceText.ofString "é\r\r\n\nx\r\n").line? 5).isSome ∧
    (∃ s a', (Analyzer.withLimit 2).tokenize "é\r\r\n\nx\r\n" = .ok (s, a') ∧ a'.metrics.lineCount = 4) ∧
    (SourceFile.mk "x.c" "é\r\r\n\nx\r\n" 9).lineCount = 3 := by
  obtain ⟨known, pieces, scanning, files⟩ := lines_agree "é\r\r\n\nx\r\n"
  have size : (SourceText.ofString "é\r\r\n\nx\r\n").lineStarts.size = 4 := by decide +kernel
  have fits : ((Analyzer.withLimit 2).tokenize "é\r\r\n\nx\r\n").toOption.map (·.1.diagnostics 2) = some [] := by
    decide +kernel
  obtain ⟨line, first⟩ := Option.isSome_iff_exists.mp ((known 1).mpr (by decide))
  obtain ⟨piece, start, stop, split, shown, -, -⟩ := pieces 1 line first
  obtain ⟨s, a', run, lines⟩ := scanning (by decide) (.withLimit 2)
  have file := files ⟨"x.c", "é\r\r\n\nx\r\n", 9⟩ rfl
  rw [run] at fits
  rw [size] at file lines
  refine ⟨by decide, size, ⟨line, first, ?_⟩, ?_, ⟨s, a', run, lines (Option.some.inj fits)⟩, ?_⟩
  · have : piece = ['é', '\r', '\r'] := Option.some.inj (split.symm.trans (by decide +kernel))
    rw [shown, this]
    decide +kernel
  · rw [known 5]
    decide
  · rw [if_pos (by decide)] at file
    omega

end CSubset
