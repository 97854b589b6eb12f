import CSubset.Proofs.Excerpt
import CSubset.Proofs.Parse.Translation

/-!
# What an excerpt underlines

An excerpt shows the line of the source that its span starts on. Below it stand as many spaces as there are characters
in front of the span, and as many carets as the span has characters on that line (`compile_underlines`).
-/

namespace CSubset

/-- Line `n` of the source is `piece`, from the byte `start` on: it has no newline in it, and a newline or an end of the
source on either side. -/
structure LineFrom (source : String) (n start : Nat) (piece : String) : Prop where
  place : ∃ front back, source = front ++ piece ++ back ∧ front.utf8ByteSize = start ∧
    n = 1 + front.toList.count '\n' ∧ (front = "" ∨ front.toList.getLast? = some '\n') ∧
    (back = "" ∨ back.toList.head? = some '\n')
  newline : '\n' ∉ piece.toList

/-- The span starts on this line, behind as many characters as its column says, and `carets` of the characters that
follow belong to the span. Of a span over several lines these are all to the end of the line. -/
structure Span.Underlined (source : String) (span : Span) (start : Nat) (line : String) (carets : Nat) : Prop where
  whole : ∃ piece, LineFrom source span.start.line start piece ∧
    line = String.ofList (piece.toList.rdropWhile (· = '\r'))
  column : ∃ front, TextAt source start span.start.offset front ∧ front.length = span.start.column - 1
  pos : 1 ≤ carets
  oneLine : span.start.line = span.stop.line →
    ∃ text, TextAt source span.start.offset span.stop.offset text ∧ carets = text.length
  cutOff : span.start.line ≠ span.stop.line →
    ∃ text, TextAt source span.start.offset (start + line.utf8ByteSize) text ∧ carets = text.length
  inside : span.start.column - 1 + carets ≤ line.length

def excerptRows (span : Span) (message line : String) (carets : Nat) : List String :=
  let number := toString span.start.line
  let gutter := " " ++ spaces number.length ++ " |"
  ["error: " ++ message, "  --> " ++ span.start.text, gutter, number ++ " | " ++ line,
    gutter ++ " " ++ spaces (span.start.column - 1) ++ String.ofList (List.replicate carets '^')]

/-! ## The line of a span -/

theorem head?_of_firstLine_append {cs others : List Char} (h : firstLine cs ++ others = cs) :
    others = [] ∨ others.head? = some '\n' := by
  induction cs with
  | nil => exact Or.inl (List.append_eq_nil_iff.mp h).2
  | cons c cs ih =>
    rw [firstLine_cons] at h
    by_cases hc : c = '\n'
    · rw [if_pos hc, List.nil_append] at h
      exact Or.inr (by rw [h, hc]; rfl)
    · rw [if_neg hc, List.cons_append] at h
      exact ih (List.cons.inj h).2

theorem lineFrom_after {source : String} {before rest : List Char} (split : source.toList = before ++ rest) :
    ∃ front, before = front ++ lastLine before ∧ LineFrom source (1 + before.count '\n') (byteLength front)
      (String.ofList (lastLine before ++ firstLine rest)) := by
  obtain ⟨front, hfront, start, count⟩ := exists_lineStart before
  obtain ⟨others, hothers⟩ := firstLine_isPrefix rest
  refine ⟨front, hfront, ⟨String.ofList front, String.ofList others, ?_, utf8ByteSize_ofList front, ?_, ?_, ?_⟩, ?_⟩
  · rw [← String.ofList_append, ← String.ofList_append, ← List.append_assoc, ← hfront, List.append_assoc, hothers,
      ← split, String.ofList_toList]
  · rw [String.toList_ofList, count]
  · rcases lastLine_eq_nil start with rfl | ⟨more, rfl⟩
    · exact Or.inl rfl
    · exact Or.inr (by rw [String.toList_ofList, List.getLast?_concat])
  · rcases head?_of_firstLine_append hothers with rfl | head
    · exact Or.inl rfl
    · exact Or.inr (by rw [String.toList_ofList, head])
  · rw [String.toList_ofList, List.mem_append, not_or]
    exact ⟨newline_notMem_lastLine before, newline_notMem_firstLine rest⟩

theorem exists_shownLine {text : List Char} (solid : Solid text) (before after : List Char) :
    ∃ tail, shownLine before (text ++ after) = lastLine before ++ tail ∧ tail <+: text ++ after := by
  have long := Nat.le_of_lt (lt_length_shownLine solid before after)
  have shown := shownLine_isPrefix before (text ++ after)
  obtain ⟨tail, htail⟩ := List.prefix_of_prefix_length_le (List.prefix_append _ _) shown long
  refine ⟨tail, htail.symm, ?_⟩
  rw [← htail, List.prefix_append_right_inj] at shown
  exact shown.trans (firstLine_isPrefix _)

theorem Span.Marks.underlined {source : String} {span : Span} {before text after : List Char}
    (m : span.Marks source before text) (split : source.toList = before ++ (text ++ after)) :
    ∃ start, span.Underlined source start (String.ofList (shownLine before (text ++ after)))
      (shownCount before text after) := by
  obtain ⟨front, hfront, line⟩ := lineFrom_after split
  have pos := shownCount_pos m.solid before after
  have shown := lt_length_shownLine m.solid before after
  refine ⟨byteLength front, ?_⟩
  rw [m.span_eq]
  constructor
  · exact ⟨_, line, by rw [String.toList_ofList]; rfl⟩
  · have slice : source.toList = front ++ lastLine before ++ (text ++ after) := by rw [split, ← hfront]
    refine ⟨String.ofList (lastLine before), ?_, ?_⟩
    · have := textAt_of_split slice
      rwa [← hfront] at this
    · simp
  · exact pos
  · intro same
    have oneLine : '\n' ∉ text := by
      intro newline
      have := List.count_pos_iff.mpr newline
      simp only [Position.after_line, List.count_append] at same
      omega
    rw [← List.append_assoc] at split
    refine ⟨String.ofList text, textAt_of_split split, ?_⟩
    rw [shownCount_of_oneLine m.solid before after oneLine, String.length_ofList]
  · intro differ
    have newline : '\n' ∈ text := by
      by_contra oneLine
      refine differ ?_
      simp only [Position.after_line, List.count_append, List.count_eq_zero_of_not_mem oneLine, Nat.add_zero]
    -- the line ends inside the span, so all that is shown behind `before` belongs to the span
    obtain ⟨tail, whole, more, hmore⟩ := exists_shownLine m.solid before after
    have slice : source.toList = before ++ tail ++ more := by rw [split, ← hmore, List.append_assoc]
    have bytes : byteLength before = byteLength front + byteLength (lastLine before) := by
      rw [← byteLength_append, ← hfront]
    have stop : byteLength (before ++ tail) =
        byteLength front + (String.ofList (shownLine before (text ++ after))).utf8ByteSize := by
      rw [utf8ByteSize_ofList, whole, byteLength_append, byteLength_append, bytes, Nat.add_assoc]
    refine ⟨String.ofList tail, stop ▸ textAt_of_split slice, ?_⟩
    rw [shownCount_of_newline before after newline, whole, List.length_append, Nat.add_sub_cancel_left,
      String.length_ofList]
  · have atMost : shownCount before text after ≤
        (shownLine before (text ++ after)).length - (lastLine before).length := Nat.min_le_right _ _
    rw [Position.after_column, Nat.add_sub_cancel_left, String.length_ofList]
    omega

theorem Span.Marks.excerpt_rows {source : String} {span : Span} {before text after : List Char}
    (m : span.Marks source before text) (split : source.toList = before ++ (text ++ after)) (message : String) :
    (SourceText.ofString source).excerpt span message = .ok (unlines
      (excerptRows span message (String.ofList (shownLine before (text ++ after))) (shownCount before text after))) := by
  have arrow : "\n  --> " = "\n" ++ "  --> " := by decide
  rw [m.excerpt split, m.span_eq]
  unfold excerptRows rowLabel underlineOf
  simp only [unlines_cons, unlines_nil, Position.after_line, Position.after_column, Nat.add_sub_cancel_left,
    String.append_assoc, String.append_empty]
  rw [arrow, String.append_assoc]

/-- **Underlines.** On a text of fewer than 4294967295 bytes, the excerpt of every diagnostic shows the line that the
diagnostic starts on, and underlines what the diagnostic is about as far as it stands on that line. -/
theorem compile_underlines (layout : Layout) (limit : Nat) (source : String)
    (short : source.utf8ByteSize < 4294967295) :
    ∃ r, compile layout limit source = .ok r ∧ ∀ d ∈ r.diagnostics, ∃ span start line carets, d.span = some span ∧
      span.Underlined source start line carets ∧
      ∀ message, (SourceText.ofString source).excerpt span message =
        .ok (unlines (excerptRows span message line carets)) := by
  have run := (compile_yields layout limit source).eq_ok short
  refine ⟨_, run, ?_⟩
  intro d hd
  obtain ⟨span, before, text, hspan, m⟩ := compile_marks run hd
  obtain ⟨after, split⟩ := m.inside
  rw [List.append_assoc] at split
  obtain ⟨start, underlined⟩ := m.underlined split.symm
  exact ⟨span, start, _, _, hspan, underlined, m.excerpt_rows split.symm⟩

theorem compile_underlines_argument : "main()\x7b\n print(é + \"b\r\n\");\x7d".utf8ByteSize < 4294967295 ∧
    ∃ r d span start line carets, compile ⟨4, true⟩ 99 "main()\x7b\n print(é + \"b\r\n\");\x7d" = .ok r ∧
      d ∈ r.diagnostics ∧ d.span = some span ∧
      span.Underlined "main()\x7b\n print(é + \"b\r\n\");\x7d" start line carets ∧
      (SourceText.ofString "main()\x7b\n print(é + \"b\r\n\");\x7d").excerpt span "wrong" =
        .ok (unlines (excerptRows span "wrong" line carets)) ∧
      unlines (excerptRows span "wrong" line carets) =
        "error: wrong\n  --> 2:8\n   |\n2 |  print(é + \"b\n   |        ^^^^^^\n" := by
  obtain ⟨r, run, all⟩ :=
    compile_underlines ⟨4, true⟩ 99 "main()\x7b\n print(é + \"b\r\n\");\x7d" (by decide)
  have errors : (compile ⟨4, true⟩ 99 "main()\x7b\n print(é + \"b\r\n\");\x7d").toOption.map
      (·.diagnostics.map (·.span)) = some [some ⟨⟨15, 2, 8⟩, ⟨25, 3, 2⟩⟩] := by
    decide +kernel
  have shown : (SourceText.ofString "main()\x7b\n print(é + \"b\r\n\");\x7d").excerpt ⟨⟨15, 2, 8⟩, ⟨25, 3, 2⟩⟩
      "wrong" = .ok "error: wrong\n  --> 2:8\n   |\n2 |  print(é + \"b\n   |        ^^^^^^\n" := by
    decide +kernel
  rw [run] at errors
  obtain ⟨d, only, place⟩ := List.map_eq_singleton_iff.mp (Option.some.inj errors)
  have hd := only ▸ List.mem_singleton_self d
  obtain ⟨span, start, line, carets, hspan, underlined, rows⟩ := all d hd
  obtain rfl := Option.some.inj (hspan.symm.trans place)
  have text := (rows "wrong").symm.trans shown
  exact ⟨by decide, r, d, _, start, line, carets, run, hd, hspan, underlined, rows "wrong", Except.ok.inj text⟩

end CSubset
