import CSubset.Proofs.Lines
import CSubset.Proofs.Spans
import Mathlib.Data.Set.Image

/-!
# Excerpts of diagnostics

The line that a diagnostic starts on exists and shows at least the first character of the text that the diagnostic
is about, so no subtraction behind an excerpt fails, and compiling and rendering never stop on a text of at most
4294967294 bytes (`compile_never_faults`). The carets have the width of what is shown of the text, but they stand one
column to the right of it, since the underline is indented by one space more than the line (`carets_one_column_right`).
-/

namespace CSubset

/-! ## The shown part of a text -/

def shownCount (before text after : List Char) : Nat :=
  min (firstLine text).length ((shownLine before (text ++ after)).length - (lastLine before).length)

theorem trimmed_keeps (front : List Char) {c : Char} (h : ¬isBlank c) (rest : List Char) :
    front ++ [c] <+: (front ++ [c] ++ rest).rdropWhile (· = '\r') := by
  have other : ¬decide (c = '\r') = true := fun same => h (of_decide_eq_true same ▸ by decide)
  exact snoc_isPrefix_rdropWhile (p := (· = '\r')) front other rest

theorem caretCount_of_oneLine {span : Span} (line : String) (same : span.start.line = span.stop.line)
    (ordered : span.start.column ≤ span.stop.column) :
    caretCount span line = .ok (max (span.stop.column - span.start.column) 1) := by
  unfold caretCount subtract
  rw [if_pos same, if_pos ordered]
  rfl

theorem caretCount_of_newline {span : Span} {line : String} (differ : span.start.line ≠ span.stop.line)
    (inside : span.start.column ≤ line.length + 1) :
    caretCount span line = .ok (max (line.length + 1 - span.start.column) 1) := by
  unfold caretCount subtract
  rw [if_neg differ, if_pos inside]
  rfl

section
variable {text : List Char} (solid : Solid text) (before after : List Char)

include solid in
theorem firstLine_cons_of_solid : ∃ c more, firstLine text = c :: more ∧ ¬isBlank c := by
  obtain ⟨c, more, rfl, hc⟩ := solid.first
  have other : c ≠ '\n' := by
    rintro rfl
    exact hc (by decide)
  exact ⟨c, firstLine more, by rw [firstLine_cons, if_neg other], hc⟩

include solid in
theorem lt_length_shownLine : (lastLine before).length < (shownLine before (text ++ after)).length := by
  obtain ⟨c, more, hfirst, hc⟩ := firstLine_cons_of_solid solid
  have line : ∃ others, firstLine (text ++ after) = c :: others := by
    by_cases h : '\n' ∈ text
    · exact ⟨more, by rw [firstLine_append_of_mem h, hfirst]⟩
    · obtain ⟨rest, hrest⟩ := firstLine_isPrefix text
      refine ⟨more ++ rest ++ firstLine after, ?_⟩
      rw [firstLine_append h, ← hrest, hfirst]
      simp
  obtain ⟨others, line⟩ := line
  have kept := trimmed_keeps (lastLine before) hc others
  rw [List.append_assoc, List.singleton_append, ← line] at kept
  have := kept.length_le
  rw [List.length_append, List.length_singleton] at this
  exact this

include solid in
theorem shownCount_pos : 0 < shownCount before text after := by
  obtain ⟨c, more, hfirst, -⟩ := firstLine_cons_of_solid solid
  have := lt_length_shownLine solid before after
  unfold shownCount
  rw [hfirst, List.length_cons]
  omega

include solid in
theorem shownCount_of_oneLine (h : '\n' ∉ text) : shownCount before text after = text.length := by
  obtain ⟨front, c, rfl, hc⟩ := solid.last
  have all := firstLine_append h []
  have kept := trimmed_keeps (lastLine before ++ front) hc (firstLine after)
  have line : lastLine before ++ front ++ [c] ++ firstLine after =
      lastLine before ++ firstLine (front ++ [c] ++ after) := by
    rw [firstLine_append h]
    simp only [List.append_assoc]
  rw [line] at kept
  have := kept.length_le
  rw [List.append_nil, firstLine_nil, List.append_nil] at all
  unfold shownCount shownLine
  rw [all]
  simp only [List.length_append] at this ⊢
  omega

theorem shownCount_of_newline (h : '\n' ∈ text) :
    shownCount before text after = (shownLine before (text ++ after)).length - (lastLine before).length := by
  have := (shownLine_isPrefix before (text ++ after)).length_le
  rw [firstLine_append_of_mem h, List.length_append] at this
  unfold shownCount
  omega

include solid in
theorem caretCount_eq : caretCount ⟨.after before, .after (before ++ text)⟩
    (String.ofList (shownLine before (text ++ after))) = .ok (shownCount before text after) := by
  have pos := shownCount_pos solid before after
  by_cases h : '\n' ∈ text
  · have newlines := List.count_pos_iff.mpr h
    have shown := lt_length_shownLine solid before after
    rw [caretCount_of_newline]
    · have count := shownCount_of_newline before after h
      simp only [String.length_ofList, Position.after_column]
      congr 1
      omega
    · simp only [Position.after_line, List.count_append]
      omega
    · simp only [String.length_ofList, Position.after_column]
      omega
  · have newlines := List.count_eq_zero_of_not_mem h
    rw [caretCount_of_oneLine]
    · have count := shownCount_of_oneLine solid before after h
      simp only [Position.after_column, lastLine_append h, List.length_append]
      congr 1
      omega
    · simp only [Position.after_line, List.count_append]
      omega
    · simp only [Position.after_column, lastLine_append h, List.length_append]
      omega

end

/-! ## Rows -/

def rowLabel (before : List Char) : String := toString (1 + before.count '\n') ++ " | "

def underlineOf (before text after : List Char) : String :=
  " " ++ spaces (toString (1 + before.count '\n')).length ++ " |" ++ " " ++ spaces (lastLine before).length ++
    String.ofList (List.replicate (shownCount before text after) '^')

theorem newline_notMem_toString (n : Nat) : '\n' ∉ (toString n).toList := by
  intro h
  have digit := Nat.isDigit_of_mem_toDigits (by decide) (by decide) (Nat.toList_repr (n := n) ▸ h)
  exact absurd digit (by decide)

theorem newline_notMem_rowLabel (before : List Char) : '\n' ∉ (rowLabel before).toList := by
  unfold rowLabel
  rw [String.toList_append, List.mem_append, not_or]
  exact ⟨newline_notMem_toString _, by decide⟩

theorem toList_underlineOf (before text after : List Char) : ∃ front, (underlineOf before text after).toList =
      front ++ List.replicate (shownCount before text after) '^' ∧
    front.length = (rowLabel before).length + (lastLine before).length + 1 ∧ '^' ∉ front ∧ '\n' ∉ front := by
  refine ⟨(" " ++ spaces (toString (1 + before.count '\n')).length ++ " |" ++ " " ++
    spaces (lastLine before).length).toList, ?_, ?_, ?_, ?_⟩
  · unfold underlineOf
    rw [String.toList_append, String.toList_ofList]
  · have label : (rowLabel before).length = (toString (1 + before.count '\n')).length + 3 := String.length_append _ _
    simp only [spaces, String.length_toList, String.length_append, String.length_ofList, List.length_replicate]
    have bar : " |".length = 2 := rfl
    have blank : " ".length = 1 := rfl
    omega
  · simp [spaces]
  · simp [spaces]

theorem Span.Marks.excerpt {source : String} {span : Span} {before text after : List Char}
    (m : span.Marks source before text) (split : source.toList = before ++ (text ++ after)) (message : String) :
    (SourceText.ofString source).excerpt span message = .ok
      ("error: " ++ message ++ "\n  --> " ++ span.start.text ++ "\n" ++
        (" " ++ spaces (toString (1 + before.count '\n')).length ++ " |") ++ "\n" ++
        (rowLabel before ++ String.ofList (shownLine before (text ++ after))) ++ "\n" ++
        underlineOf before text after ++ "\n") := by
  have line := line?_after split
  unfold SourceText.excerpt
  rw [m.span_eq]
  dsimp only [Position.after_line]
  rw [line]
  dsimp only
  rw [caretCount_eq m.solid before after]
  dsimp only [bind, Except.bind, pure, Except.pure]
  unfold rowLabel underlineOf
  simp only [Position.after_column, Nat.add_sub_cancel_left, String.append_assoc]

/-! ## No fault -/

/-- The lexeme, and if a literal was looked for also the text behind the quote, stand between characters. -/
structure Token.Sliced (source : String) (t : Token) : Prop where
  lexeme : TextAt source t.span.start.offset t.span.stop.offset t.lexeme
  behindQuote : t.lexeme.toList.head? = some '"' →
    ∃ rest, TextAt source (t.span.start.offset + 1) source.utf8ByteSize rest

def Diagnostic.Renders (source : String) (d : Diagnostic) : Prop :=
  ∃ span line text, d.span = some span ∧ LineAt source span.start.line line ∧
    (SourceText.ofString source).line? span.start.line = some line ∧ d.render (some (.ofString source)) = .ok text

theorem sliced_of_mem_scanned {limit : Nat} {source : String} {t : Token}
    (h : t ∈ (scanned limit source).tokens) : t.Sliced source := by
  obtain ⟨i, ht⟩ := List.mem_iff_getElem?.mp h
  obtain ⟨p, hp, rfl⟩ := piece_of_scanned ht
  obtain ⟨after, split⟩ := pieces_isPrefix hp
  refine ⟨textAt_of_split split.symm, ?_⟩
  intro quoted
  obtain ⟨more, hlexeme⟩ : ∃ more, p.lexeme = '"' :: more := by
    rw [Piece.token, Token.ofLexeme, String.toList_ofList] at quoted
    exact ⟨_, List.eq_cons_of_mem_head? quoted⟩
  rw [hlexeme, List.append_assoc, List.cons_append, List.append_cons] at split
  have slice := textAt_of_split (split.symm.trans (List.append_nil _).symm)
  rw [split, ← utf8ByteSize_eq, byteLength_append] at slice
  exact ⟨_, slice⟩

theorem Span.Marks.render {source : String} {d : Diagnostic} {span : Span} {before text after : List Char}
    (m : span.Marks source before text) (hspan : d.span = some span)
    (split : source.toList = before ++ (text ++ after)) :
    ∃ head, d.render (some (.ofString source)) = .ok (head ++ "\n" ++
      (rowLabel before ++ String.ofList (shownLine before (text ++ after))) ++ "\n" ++
        underlineOf before text after ++ "\n") := by
  refine ⟨d.text ++ "\n" ++ ("error: " ++ d.description ++ "\n  --> " ++ span.start.text ++ "\n" ++
    (" " ++ spaces (toString (1 + before.count '\n')).length ++ " |")), ?_⟩
  unfold Diagnostic.render
  rw [hspan]
  dsimp only
  rw [m.excerpt split]
  dsimp only [bind, Except.bind, pure, Except.pure]
  simp only [String.append_assoc]

theorem compile_renders {layout : Layout} {limit : Nat} {source : String} {r : Compilation}
    (run : compile layout limit source = .ok r) {d : Diagnostic} (hd : d ∈ r.diagnostics) : d.Renders source := by
  obtain ⟨span, before, text, hspan, m⟩ := compile_marks run hd
  obtain ⟨after, split⟩ := m.inside
  rw [List.append_assoc] at split
  obtain ⟨head, rendered⟩ := m.render hspan split.symm
  have number : span.start.line = 1 + before.count '\n' := by rw [m.span_eq]; rfl
  refine ⟨span, String.ofList (shownLine before (text ++ after)), _, hspan, ?_, ?_, rendered⟩
  · rw [number]
    exact lineAt_after split.symm
  · rw [number]
    exact line?_after split.symm

/-- **No fault.** Whatever the layout and the limit, a text of at most 4294967294 bytes is scanned and compiled, every
slice of it stands between characters, and each of its diagnostics is rendered. -/
theorem compile_never_faults (layout : Layout) (limit : Nat) (source : String)
    (short : source.utf8ByteSize ≤ 4294967294) :
    ∃ s r, scan limit source = .ok s ∧ compile layout limit source = .ok r ∧ (∀ t ∈ s.tokens, t.Sliced source) ∧
      ∀ d ∈ r.diagnostics, d.Renders source := by
  have scans := (scan_yields limit source).eq_ok (Nat.lt_succ_of_le short)
  have run := (compile_yields layout limit source).eq_ok (Nat.lt_succ_of_le short)
  exact ⟨_, _, scans, run, fun t ht => sliced_of_mem_scanned ht, fun d hd => compile_renders run hd⟩

theorem compile_never_faults_split_argument :
    "main()\x7b\n print(\"é\r\n\" + b);\x7d \"".utf8ByteSize ≤ 4294967294 ∧
      ∃ s r, scan 12 "main()\x7b\n print(\"é\r\n\" + b);\x7d \"" = .ok s ∧
        compile ⟨4, true⟩ 12 "main()\x7b\n print(\"é\r\n\" + b);\x7d \"" = .ok r ∧
        (s.tokens.length = 12 ∧ ∀ t ∈ s.tokens, t.Sliced "main()\x7b\n print(\"é\r\n\" + b);\x7d \"") ∧
        r.diagnostics.length = 2 ∧
        ∀ d ∈ r.diagnostics, d.Renders "main()\x7b\n print(\"é\r\n\" + b);\x7d \"" := by
  obtain ⟨s, r, scans, run, sliced, renders⟩ :=
    compile_never_faults ⟨4, true⟩ 12 "main()\x7b\n print(\"é\r\n\" + b);\x7d \"" (by decide)
  have tokens : (scan 12 "main()\x7b\n print(\"é\r\n\" + b);\x7d \"").toOption.map (·.tokens.length) = some 12 := by
    decide +kernel
  have errors : (compile ⟨4, true⟩ 12 "main()\x7b\n print(\"é\r\n\" + b);\x7d \"").toOption.map
      (·.diagnostics.length) = some 2 := by
    decide +kernel
  rw [scans] at tokens
  rw [run] at errors
  exact ⟨by decide, s, r, scans, run, ⟨Option.some.inj tokens, sliced⟩, Option.some.inj errors, renders⟩

/-! ## Columns -/

def caretColumns (row : String) : Set Nat := {i | row.toList[i]? = some '^'}

instance (row : String) (i : Nat) : Decidable (i ∈ caretColumns row) :=
  inferInstanceAs (Decidable (row.toList[i]? = some '^'))

def textStart (before : List Char) : Nat := (rowLabel before).length + (lastLine before).length

def textColumns (before text : List Char) (row : String) : Set Nat :=
  {i | textStart before ≤ i ∧ i < textStart before + (firstLine text).length ∧ i < row.length}

instance (before text : List Char) (row : String) (i : Nat) : Decidable (i ∈ textColumns before text row) :=
  inferInstanceAs (Decidable (_ ∧ _ ∧ _))

/-- The diagnostic is about `text`, which follows `before` in the source, and the last two rows of what is rendered
are `row`, the line with its number, and `underline`. -/
structure Diagnostic.Shows (source : String) (d : Diagnostic) (before text : List Char) (row underline : String) :
    Prop where
  place : ∃ span, d.span = some span ∧ span.Marks source before text
  rendered : ∃ head, d.render (some (.ofString source)) = .ok (head ++ "\n" ++ row ++ "\n" ++ underline ++ "\n")
  row_line : ∃ line, LineAt source (1 + before.count '\n') line ∧ row = rowLabel before ++ line
  row_text : ∀ i ∈ textColumns before text row, row.toList[i]? = text[i - textStart before]?
  row_end : '\n' ∉ row.toList
  underline_end : '\n' ∉ underline.toList

section
variable (before text after : List Char)

theorem mem_caretColumns (i : Nat) : i ∈ caretColumns (underlineOf before text after) ↔
    textStart before + 1 ≤ i ∧ i < textStart before + 1 + shownCount before text after := by
  obtain ⟨front, underline, length, carets, -⟩ := toList_underlineOf before text after
  unfold caretColumns textStart
  rw [Set.mem_ofPred_eq, underline, ← length]
  by_cases h : i < front.length
  · rw [List.getElem?_append_left h]
    constructor
    · intro caret
      exact absurd (List.mem_of_getElem? caret) carets
    · intro range
      omega
  · rw [List.getElem?_append_right (Nat.le_of_not_lt h), List.getElem?_replicate]
    simp
    omega

theorem length_row : (rowLabel before ++ String.ofList (shownLine before (text ++ after))).length =
    (rowLabel before).length + (shownLine before (text ++ after)).length := by
  rw [String.length_append, String.length_ofList]

theorem mem_textColumns (i : Nat) :
    i ∈ textColumns before text (rowLabel before ++ String.ofList (shownLine before (text ++ after))) ↔
      textStart before ≤ i ∧ i < textStart before + shownCount before text after := by
  unfold textColumns shownCount textStart
  rw [Set.mem_ofPred_eq, length_row]
  omega

theorem row_text (i : Nat)
    (h : i ∈ textColumns before text (rowLabel before ++ String.ofList (shownLine before (text ++ after)))) :
    (rowLabel before ++ String.ofList (shownLine before (text ++ after))).toList[i]? = text[i - textStart before]? := by
  obtain ⟨start, inside, shown⟩ := h
  rw [length_row] at shown
  unfold textStart at start inside ⊢
  have labelled : (rowLabel before).toList.length ≤ i := by rw [String.length_toList]; omega
  have short := (firstLine_isPrefix text).length_le
  -- the shown line is the front of what follows the last newline of `before`
  obtain ⟨hidden, whole⟩ := (shownLine_isPrefix before (text ++ after)).trans
    ((List.prefix_append_right_inj _).mpr (firstLine_isPrefix (text ++ after)))
  rw [String.toList_append, String.toList_ofList, List.getElem?_append_right labelled, String.length_toList]
  calc (shownLine before (text ++ after))[i - (rowLabel before).length]?
      = (shownLine before (text ++ after) ++ hidden)[i - (rowLabel before).length]? :=
        (List.getElem?_append_left (by omega)).symm
    _ = (text ++ after)[i - (rowLabel before).length - (lastLine before).length]? := by
        rw [whole, List.getElem?_append_right (by omega)]
    _ = text[i - ((rowLabel before).length + (lastLine before).length)]? := by
        rw [List.getElem?_append_left (by omega), Nat.sub_sub]

theorem caretColumns_eq : caretColumns (underlineOf before text after) =
    Set.image (· + 1)
      (textColumns before text (rowLabel before ++ String.ofList (shownLine before (text ++ after)))) := by
  ext i
  rw [mem_caretColumns, Set.mem_image]
  constructor
  · rintro ⟨start, stop⟩
    exact ⟨i - 1, (mem_textColumns before text after _).mpr (by omega), by omega⟩
  · rintro ⟨j, hj, rfl⟩
    have := (mem_textColumns before text after j).mp hj
    omega

end

theorem Span.Marks.shows {source : String} {d : Diagnostic} {span : Span} {before text after : List Char}
    (m : span.Marks source before text) (hspan : d.span = some span)
    (split : source.toList = before ++ (text ++ after)) :
    d.Shows source before text (rowLabel before ++ String.ofList (shownLine before (text ++ after)))
      (underlineOf before text after) where
  place := ⟨span, hspan, m⟩
  rendered := m.render hspan split
  row_line := ⟨_, lineAt_after split, rfl⟩
  row_text := row_text before text after
  row_end := by
    rw [String.toList_append, String.toList_ofList, List.mem_append, not_or]
    exact ⟨newline_notMem_rowLabel before, newline_notMem_shownLine _ _⟩
  underline_end := by
    obtain ⟨front, underline, -, -, newlines⟩ := toList_underlineOf before text after
    rw [underline, List.mem_append, not_or]
    exact ⟨newlines, fun h => absurd (List.eq_of_mem_replicate h) (by decide)⟩

/-- **Carets stand one column to the right.** In whatever is rendered for a diagnostic, the underline has carets under the
columns that follow those of the text that the diagnostic is about, so never under exactly that text. -/
theorem carets_one_column_right (layout : Layout) (limit : Nat) (source : String) (r : Compilation)
    (run : compile layout limit source = .ok r) (d : Diagnostic) (hd : d ∈ r.diagnostics) :
    ∃ before text row underline, d.Shows source before text row underline ∧
      caretColumns underline = Set.image (· + 1) (textColumns before text row) ∧
      caretColumns underline ≠ textColumns before text row := by
  obtain ⟨span, before, text, hspan, m⟩ := compile_marks run hd
  obtain ⟨after, split⟩ := m.inside
  rw [List.append_assoc] at split
  refine ⟨before, text, _, _, m.shows hspan split.symm, caretColumns_eq before text after, ?_⟩
  intro same
  -- the first character is shown, but has no caret below it
  have first := (mem_textColumns before text after (textStart before)).mpr
    ⟨Nat.le_refl _, Nat.lt_add_of_pos_right (shownCount_pos m.solid before after)⟩
  rw [← same, mem_caretColumns] at first
  omega

theorem carets_one_column_right_line_ten : ∃ r d,
    compile ⟨4, true⟩ 99 "main()\x7b\n\n\n\n\n\n\n\n\n print(é + \"b\r\n\");\x7d" = .ok r ∧ d ∈ r.diagnostics ∧
      ∃ before text row underline,
        d.Shows "main()\x7b\n\n\n\n\n\n\n\n\n print(é + \"b\r\n\");\x7d" before text row underline ∧
        caretColumns underline = Set.image (· + 1) (textColumns before text row) ∧
        caretColumns underline ≠ textColumns before text row := by
  have errors : (compile ⟨4, true⟩ 99 "main()\x7b\n\n\n\n\n\n\n\n\n print(é + \"b\r\n\");\x7d").toOption.map
      (·.diagnostics.length) = some 1 := by
    decide +kernel
  have run := (compile_yields ⟨4, true⟩ 99 "main()\x7b\n\n\n\n\n\n\n\n\n print(é + \"b\r\n\");\x7d").eq_ok (by decide)
  rw [run] at errors
  obtain ⟨d, only⟩ := List.length_eq_one_iff.mp (Option.some.inj errors)
  have hd := only ▸ List.mem_singleton_self d
  exact ⟨_, d, run, hd, carets_one_column_right _ _ _ _ run d hd⟩

/-- The character is in column 4 of its row, and the caret is not. -/
theorem caret_right_of_x : ∃ r d, compile ⟨4, true⟩ 100 "x" = .ok r ∧ d ∈ r.diagnostics ∧
    d.Shows "x" [] ['x'] "1 | x" "   | ^" ∧ 4 ∈ textColumns [] ['x'] "1 | x" ∧ 4 ∉ caretColumns "   | ^" := by
  have errors : (compile ⟨4, true⟩ 100 "x").toOption.map (·.diagnostics) =
      some [⟨.tokenOutsideMain "x", 0, some ⟨⟨0, 1, 1⟩, ⟨1, 1, 2⟩⟩⟩] := by
    decide +kernel
  have run := (compile_yields ⟨4, true⟩ 100 "x").eq_ok (by decide)
  have marks : Span.Marks "x" ⟨⟨0, 1, 1⟩, ⟨1, 1, 2⟩⟩ [] ['x'] := ⟨by decide, .singleton (by decide), by decide⟩
  have split : "x".toList = [] ++ (['x'] ++ []) := rfl
  rw [run] at errors
  refine ⟨_, _, run, Option.some.inj errors ▸ List.mem_singleton_self _, marks.shows rfl split, ?_, ?_⟩
  · decide
  · decide

end CSubset
