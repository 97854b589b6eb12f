import CSubset.Proofs.Lines
import CSubset.Proofs.Parse.Values
import CSubset.Proofs.Token.Lexical

/-!
# The lines of what is put out

The text of a program is put together from lines, but a string literal may have newlines in it, and these are copied
with the rest of it. So a line as it is read off the text is one that was put out, or begins inside a literal
(`compile_physicalLines`).
-/

namespace CSubset

/-! ## Line starts -/

/-- The place between the two texts is behind a newline that stands in `text`, and around it there is all of `text`. -/
def Continues (text front rest : List Char) : Prop :=
  ∃ x y, text = x ++ '\n' :: y ∧ x ++ ['\n'] <:+ front ∧ y <+: rest

theorem firstLine_snoc_newline (cs rest : List Char) : firstLine (cs ++ ['\n'] ++ rest) = firstLine cs := by
  by_cases h : '\n' ∈ cs
  · rw [List.append_assoc, firstLine_append_of_mem h]
  · rw [List.append_assoc, firstLine_append h, firstLine_of_notMem h]
    simp [firstLine_cons]

theorem toList_unlines (lines : List String) :
    (unlines lines).toList = (lines.map fun line => line.toList ++ ['\n']).flatten := by
  unfold unlines
  rw [String.toList_join, List.flatMap_map, List.flatMap_def]
  simp

theorem unlines_lineStart {lines : List String} {front rest : List Char} (split : (unlines lines).toList = front ++ rest)
    (start : lastLine front = []) :
    rest = [] ∨ ∃ line ∈ lines, firstLine rest = firstLine line.toList ∨ Continues line.toList front rest := by
  rw [toList_unlines] at split
  -- the place is between two lines, or in a line that begins with `b` and goes on with `c :: cs`
  rcases List.flatten_eq_append_iff.mp split with ⟨as, bs, parts, -, rfl⟩ | ⟨as, b, c, cs, ds, parts, rfl, rfl⟩
  · obtain ⟨before, behind, rfl, -, rfl⟩ := List.map_eq_append_iff.mp parts
    cases behind with
    | nil => exact .inl rfl
    | cons line behind => exact .inr ⟨line, by simp, .inl (firstLine_snoc_newline _ _)⟩
  · obtain ⟨before, behind, rfl, -, parts⟩ := List.map_eq_append_iff.mp parts
    obtain ⟨line, behind, rfl, whole, -⟩ := List.map_eq_cons_iff.mp parts
    refine .inr ⟨line, by simp, ?_⟩
    rcases List.eq_nil_or_concat b with rfl | ⟨b, e, rfl⟩
    · rw [List.nil_append] at whole
      rw [← whole]
      exact .inl (firstLine_snoc_newline _ _)
    · rw [List.concat_eq_append, ← List.append_assoc, lastLine_snoc] at start
      have newline : e = '\n' := by
        by_contra other
        rw [if_neg other] at start
        simp at start
      -- the newline at the very end is not part of the line, so there is one before it
      obtain ⟨y, last, ends⟩ := List.eq_nil_or_concat (c :: cs) |>.resolve_left (List.cons_ne_nil _ _)
      rw [List.concat_eq_append] at whole ends
      rw [ends, ← List.append_assoc] at whole
      obtain ⟨inside, -⟩ := List.append_inj' whole rfl
      refine .inr ⟨b, y, ?_, ?_, ?_⟩
      · rw [inside, newline, List.append_assoc]
        rfl
      · rw [List.concat_eq_append, newline]
        exact List.suffix_append _ _
      · rw [ends, List.append_assoc]
        exact List.prefix_append _ _

theorem Continues.of_flatten {texts : List (List Char)} {front rest : List Char}
    (h : Continues texts.flatten front rest) : ∃ text ∈ texts, Continues text front rest := by
  obtain ⟨x, y, split, before, behind⟩ := h
  rcases List.flatten_eq_append_iff.mp split with ⟨as, bs, rfl, rfl, first⟩ | ⟨as, b, c, cs, ds, rfl, rfl, first⟩
  · obtain ⟨as', y', ds, rfl, -, rfl⟩ := List.flatten_eq_cons_iff.mp first.symm
    refine ⟨'\n' :: y', by simp, [], y', rfl, ?_, ?_⟩
    · exact (List.suffix_append _ _).trans before
    · exact (List.prefix_append _ _).trans behind
  · cases first
    refine ⟨b ++ '\n' :: cs, by simp, b, cs, rfl, ?_, ?_⟩
    · rw [List.append_assoc] at before
      exact (List.suffix_append _ _).trans before
    · exact (List.prefix_append _ _).trans behind

/-! ## The newlines of a statement -/

def hasNewline (text : String) : Bool := text.toList.contains '\n'

theorem hasNewline_iff {text : String} : hasNewline text ↔ '\n' ∈ text.toList := List.contains_iff_mem

theorem count_newline_filter {p : String → Bool} {ws : List String} (h : ∀ w ∈ ws, hasNewline w → p w) :
    ((ws.filter p).flatMap String.toList).count '\n' = (ws.flatMap String.toList).count '\n' := by
  induction ws with
  | nil => rfl
  | cons w ws ih =>
    have later := ih fun v hv => h v (List.mem_cons_of_mem _ hv)
    rw [List.flatMap_cons, List.count_append, ← later]
    by_cases hw : p w
    · rw [List.filter_cons_of_pos hw, List.flatMap_cons, List.count_append]
    · have none : '\n' ∉ w.toList := by
        intro some
        exact hw (h w List.mem_cons_self (hasNewline_iff.mpr some))
      rw [List.filter_cons_of_neg hw, List.count_eq_zero_of_not_mem none, Nat.zero_add]

theorem intercalate_space_eq (w : String) (ws : List String) :
    ∃ chunks, " ".intercalate (w :: ws) = String.join chunks ∧
      chunks.filter hasNewline = (w :: ws).filter hasNewline := by
  have space : ¬hasNewline " " := by decide
  induction ws generalizing w with
  | nil => exact ⟨[w], by simp, rfl⟩
  | cons x ws ih =>
    obtain ⟨chunks, whole, kept⟩ := ih x
    refine ⟨w :: " " :: chunks, ?_, ?_⟩
    · rw [String.intercalate_cons_cons, whole, String.join_cons, String.join_cons, String.append_assoc]
    · rw [List.filter_cons, List.filter_cons_of_neg space, kept, ← List.filter_cons]

/-- A statement is put out in pieces, and those with a newline are those of its lexemes that have one. -/
theorem Stmt.line?_eq {d : Declared} {st : Stmt} {line : String} (h : st.line? d = some line) :
    ∃ chunks, line = String.join chunks ∧ chunks.filter hasNewline = st.lexemes.filter hasNewline := by
  cases st with
  | declare type name value =>
    have typed : ¬hasNewline type.name := by cases type <;> decide
    have started : ¬hasNewline (startText type) := by cases type <;> decide
    cases value with
    | none =>
      cases h
      refine ⟨[name, " = ", startText type], by simp [String.append_assoc], ?_⟩
      simp +decide [lexemes, List.filter_cons, typed, started]
    | some value =>
      cases h
      refine ⟨[name, " = ", value], by simp [String.append_assoc], ?_⟩
      simp +decide [lexemes, List.filter_cons, typed]
  | print argument =>
    cases h
    unfold shownText
    by_cases quoted : isQuotedText argument
    · refine ⟨["print(", argument, ")"], by simp [quoted, String.append_assoc], ?_⟩
      simp +decide [lexemes, List.filter_cons]
    · by_cases bool : d.lookup argument = some .bool
      · refine ⟨["print(", "\"True\" if ", argument, " else \"False\"", ")"],
          by simp [quoted, bool, String.append_assoc], ?_⟩
        simp +decide [lexemes, List.filter_cons]
      · refine ⟨["print(", "str(", argument, ")", ")"], by simp [quoted, bool, String.append_assoc], ?_⟩
        simp +decide [lexemes, List.filter_cons]
  | returnZero => cases h
  | empty => cases h
  | assign name first more =>
    cases h
    obtain ⟨chunks, whole, kept⟩ := intercalate_space_eq first more
    refine ⟨name :: " = " :: chunks, ?_, ?_⟩
    · rw [whole, String.join_cons, String.join_cons, String.append_assoc]
    · rw [lexemes, ← List.cons_append, List.filter_cons, List.filter_cons_of_neg (by decide), kept]
      simp +decide [List.filter_cons]

theorem Stmt.count_newline_line {d : Declared} {st : Stmt} {line : String} (h : st.line? d = some line) :
    line.toList.count '\n' = (st.lexemes.flatMap String.toList).count '\n' := by
  obtain ⟨chunks, rfl, kept⟩ := line?_eq h
  rw [String.toList_join, ← count_newline_filter fun _ _ some => some, kept, count_newline_filter fun _ _ some => some]

/-! ## The lines of a tree -/

def Layout.IsLine (l : Layout) (line : List Char) : Prop :=
  line ∈ [headerComment.toList, [], "def main():".toList, "if __name__ == \"__main__\":".toList] ∨
    l.indent.toList <+: line

instance (l : Layout) (line : List Char) : Decidable (l.IsLine line) := inferInstanceAs (Decidable (_ ∨ _))

def Program.Lays (p : Program) (l : Layout) (line : String) : Prop :=
  l.IsLine (firstLine line.toList) ∧ ∃ chunks, line = String.join chunks ∧ ∀ w ∈ chunks, hasNewline w → w ∈ p.lexemes

theorem newline_notMem_indent (l : Layout) : '\n' ∉ l.indent.toList := by
  unfold Layout.indent
  rw [String.toList_ofList]
  intro some
  cases List.eq_of_mem_replicate some

namespace Program
variable {l : Layout} {p : Program}

theorem mem_lexemes {b : Block} {st : Stmt} {w : String} (hb : b ∈ p) (hst : st ∈ b) (hw : w ∈ st.lexemes) :
    w ∈ p.lexemes := by
  refine List.mem_flatMap.mpr ⟨b, hb, ?_⟩
  unfold Block.lexemes
  rw [List.mem_append, List.mem_append]
  exact .inl (.inr (List.mem_flatMap.mpr ⟨st, hst, hw⟩))

theorem lays_fixed {line : String} (h : line ∈ [Layout.headerComment, "", "def main():", "if __name__ == \"__main__\":"]) :
    p.Lays l line := by
  have plain : ¬hasNewline line := by
    revert line
    decide +kernel
  refine ⟨?_, [line], by simp, ?_⟩
  · rw [firstLine_of_notMem (hasNewline_iff.not.mp plain)]
    exact .inl (List.mem_map_of_mem h)
  · intro w hw some
    cases List.mem_singleton.mp hw
    exact absurd some plain

theorem lays_indented {chunks : List String} (h : ∀ w ∈ chunks, hasNewline w → w ∈ p.lexemes) :
    p.Lays l (l.indent ++ String.join chunks) := by
  have plain := newline_notMem_indent l
  refine ⟨.inr ?_, l.indent :: chunks, by simp, ?_⟩
  · rw [String.toList_append, firstLine_append plain]
    exact List.prefix_append _ _
  · intro w hw some
    rcases List.mem_cons.mp hw with rfl | hw
    · exact absurd (hasNewline_iff.mp some) plain
    · exact h w hw some

theorem lays_statement {d : Declared} {b : Block} {st : Stmt} {line : String} (hb : b ∈ p) (hst : st ∈ b)
    (h : st.line? d = some line) : p.Lays l (l.indent ++ line) := by
  obtain ⟨chunks, rfl, kept⟩ := Stmt.line?_eq h
  apply lays_indented
  intro w hw some
  have spelled : w ∈ st.lexemes.filter hasNewline := kept ▸ List.mem_filter.mpr ⟨hw, some⟩
  exact mem_lexemes hb hst (List.mem_filter.mp spelled).1

theorem exists_of_mem_lines {d : Declared} {b : Block} {line : String} (h : line ∈ b.lines d) :
    ∃ st ∈ b, ∃ d', st.line? d' = some line := by
  induction b generalizing d with
  | nil => cases h
  | cons st b ih =>
    rcases List.mem_append.mp h with h | h
    · exact ⟨st, List.mem_cons_self, d, Option.mem_toList.mp h⟩
    · obtain ⟨st', mem, found⟩ := ih h
      exact ⟨st', List.mem_cons_of_mem _ mem, found⟩

theorem lays_word {inner : String} (h : ¬hasNewline inner) : p.Lays l (l.indent ++ inner) := by
  have laid : p.Lays l (l.indent ++ String.join [inner]) := by
    apply lays_indented
    intro w hw some
    cases List.mem_singleton.mp hw
    exact absurd some h
  simpa using laid

theorem lays_block {d : Declared} {b : Block} (hb : b ∈ p) : ∀ line ∈ b.textLines l d, p.Lays l line := by
  have inside : ∀ inner ∈ b.lines d, p.Lays l (l.indent ++ inner) := by
    intro inner h
    obtain ⟨st, hst, d', line⟩ := exists_of_mem_lines h
    exact lays_statement hb hst line
  have padded : p.Lays l (l.indent ++ "pass") := lays_word (by decide)
  have called : p.Lays l (l.indent ++ "main()") := lays_word (by decide)
  have opens : p.Lays l "def main():" := lays_fixed (by decide)
  have closes : p.Lays l "if __name__ == \"__main__\":" := lays_fixed (by decide)
  have empty : p.Lays l "" := lays_fixed (by decide)
  intro line h
  simp only [Block.textLines, List.mem_append, List.mem_cons, List.not_mem_nil, or_false, List.mem_map] at h
  rcases h with ((rfl | rfl) | ⟨inner, h, rfl⟩) | rfl | rfl | rfl
  · exact empty
  · exact opens
  · split at h
    · cases List.mem_singleton.mp h
      exact padded
    · exact inside inner h
  · exact empty
  · exact closes
  · exact called

theorem lays_textLines (d : Declared) {q : Program} (h : ∀ b ∈ q, b ∈ p) : ∀ line ∈ q.textLines l d, p.Lays l line := by
  induction q generalizing d with
  | nil => simp [textLines]
  | cons b q ih =>
    intro line hline
    rcases List.mem_append.mp hline with hline | hline
    · exact lays_block (h b List.mem_cons_self) line hline
    · exact ih _ (fun c hc => h c (List.mem_cons_of_mem _ hc)) line hline

theorem Lays.of_continues {line : String} (h : p.Lays l line) {front rest : List Char}
    (inside : Continues line.toList front rest) : ∃ w ∈ p.lexemes, Continues w.toList front rest := by
  obtain ⟨-, chunks, rfl, spelled⟩ := h
  rw [String.toList_join, List.flatMap_def] at inside
  obtain ⟨text, mem, inside⟩ := inside.of_flatten
  obtain ⟨w, hw, rfl⟩ := List.mem_map.mp mem
  refine ⟨w, spelled w hw ?_, inside⟩
  obtain ⟨x, y, split, -⟩ := inside
  simp [hasNewline_iff, split]

theorem text_lineStart {front rest : List Char} (split : (p.text l).toList = front ++ rest)
    (start : lastLine front = []) : l.IsLine (firstLine rest) ∨ ∃ w ∈ p.lexemes, Continues w.toList front rest := by
  have lays : ∀ line ∈ Layout.headerComment :: p.textLines l [], p.Lays l line :=
    List.forall_mem_cons.mpr ⟨lays_fixed List.mem_cons_self, lays_textLines [] fun _ => id⟩
  rcases unlines_lineStart split start with rfl | ⟨line, mem, first | inside⟩
  · exact .inl (.inl (by decide))
  · rw [first]
    exact .inl (lays line mem).1
  · exact .inr ((lays line mem).of_continues inside)

end Program

/-! ## Sources -/

section
variable {layout : Layout} {limit : Nat} {source : String} {r : Compilation}

theorem isQuotedText_of_newline {t : Token} (h : t ∈ (scanned limit source).tokens) (newline : '\n' ∈ t.lexeme.toList) :
    isQuotedText t.lexeme := by
  have blank : isBlank '\n' := by decide
  obtain ⟨before, after, -, -, f, ⟨fits, -⟩, -⟩ := hasOneForm_of_mem_scanned h
  cases f with
  | string =>
    obtain ⟨body, quoted, -⟩ := fits
    exact isQuotedText_iff.mpr ⟨body, quoted⟩
  | word =>
    have word := fits.2.1 _ newline
    rw [isWordChar_of_isBlank blank] at word
    cases word
  | mark =>
    obtain ⟨c, single, visible, -⟩ := fits
    rw [single] at newline
    cases List.mem_singleton.mp newline
    exact absurd blank visible
  | quote =>
    rw [fits.1] at newline
    cases List.mem_singleton.mp newline

theorem isQuotedText_of_lexeme {w : String} (h : w ∈ (scanned limit source).tokens.map Token.lexeme)
    (newline : hasNewline w) : isQuotedText w := by
  obtain ⟨t, ht, rfl⟩ := List.mem_map.mp h
  exact isQuotedText_of_newline ht (hasNewline_iff.mp newline)

/-- **Lines of the output.** A line of what is put out, read from behind a newline to the next, is one of the lines that
the layout has, or begins behind a newline in a string literal, which is there as a whole. A statement starts on a line
of its own, and has as many newlines as its string literals have. -/
theorem compile_physicalLines (run : compile layout limit source = .ok r) (accepted : r.diagnostics = []) :
    ∃ s out, scan limit source = .ok s ∧ IsProgram (s.tokens.map Token.lexeme) ∧ r.output = some out ∧
      (∀ front rest, out.toList = front ++ rest → lastLine front = [] →
        layout.IsLine (firstLine rest) ∨ ∃ t ∈ s.tokens, t.isStringLiteral ∧ Continues t.lexeme.toList front rest) ∧
      ∀ (blocks : Program) (front : Block) (st : Stmt) (back : Block) (later : Program) (line : String),
        Program.Allowed [] (blocks ++ (front ++ st :: back) :: later) →
        s.tokens.map Token.lexeme = Program.lexemes (blocks ++ (front ++ st :: back) :: later) →
        st.line? (front.declares (blocks.declares [])) = some line →
        ∃ rest, out = unlines (blocks.linesBefore layout front ++ [layout.indent ++ line]) ++ rest ∧
          (layout.indent ++ line).toList.count '\n' =
            ((st.lexemes.filter isQuotedText).flatMap String.toList).count '\n' := by
  obtain ⟨s, p, scans, allowed, flat, -⟩ := exists_program_of_compile run accepted
  cases (scan_yields limit source).eq_of_ok scans
  have output := output_eq_text run accepted allowed flat
  refine ⟨_, _, scans, ⟨p, allowed, flat.symm⟩, output, ?_, ?_⟩
  · intro front rest split start
    refine (Program.text_lineStart split start).imp_right ?_
    rintro ⟨w, hw, inside⟩
    obtain ⟨t, ht, rfl⟩ := List.mem_map.mp (flat ▸ hw)
    refine ⟨t, ht, ?_, inside⟩
    obtain ⟨x, y, split, -⟩ := inside
    have quoted := isQuotedText_of_newline ht (by simp [split])
    rwa [← (textual_of_mem_scanned limit source ht).isStringLiteral] at quoted
  · intro blocks front st back later line allowed' flat' here
    obtain ⟨rest, page⟩ := Program.text_at layout blocks front here back later
    have same := output.symm.trans (output_eq_text run accepted allowed' flat')
    refine ⟨rest, (Option.some.inj same).trans page, ?_⟩
    have quoted : ∀ w ∈ st.lexemes, hasNewline w → isQuotedText w := by
      intro w hw some
      have mem : w ∈ (scanned limit source).tokens.map Token.lexeme := by
        rw [flat']
        exact Program.mem_lexemes (b := front ++ st :: back) (by simp) (by simp) hw
      exact isQuotedText_of_lexeme mem some
    rw [String.toList_append, List.count_append, List.count_eq_zero_of_not_mem (newline_notMem_indent layout),
      Nat.zero_add, Stmt.count_newline_line here, count_newline_filter quoted]

theorem compile_physicalLines_two_lines :
    ∃ r s out rest, compile ⟨4, true⟩ 99 "main()\x7bprint(\"a\nb\");\x7d" = .ok r ∧ r.diagnostics = [] ∧
      scan 99 "main()\x7bprint(\"a\nb\");\x7d" = .ok s ∧ r.output = some out ∧
      out = unlines [Layout.headerComment, "", "def main():", "    print(\"a\nb\")"] ++ rest ∧
      "    print(\"a\nb\")".toList.count '\n' = "\"a\nb\"".toList.count '\n' ∧
      ∃ t ∈ s.tokens, t.isStringLiteral ∧
        Continues t.lexeme.toList (unlines [Layout.headerComment, "", "def main():", "    print(\"a"]).toList
          ("b\")\n" ++ rest).toList := by
  have run := (compile_yields ⟨4, true⟩ 99 "main()\x7bprint(\"a\nb\");\x7d").eq_ok (by decide)
  have accepted : (Compilation.ofScan ⟨4, true⟩ 99
      (scanned 99 "main()\x7bprint(\"a\nb\");\x7d")).diagnostics = [] := by
    decide +kernel
  obtain ⟨s, out, scans, -, output, starts, statements⟩ := compile_physicalLines run accepted
  obtain ⟨rest, page, count⟩ := statements [] [] (.print "\"a\nb\"") [] [] "print(\"a\nb\")" (by decide)
    (by rw [(scan_yields _ _).eq_of_ok scans]; decide +kernel) (by decide)
  refine ⟨_, s, out, rest, run, accepted, scans, output, page, count, ?_⟩
  have broken : unlines [Layout.headerComment, "", "def main():", "    print(\"a\nb\")"] =
      unlines [Layout.headerComment, "", "def main():", "    print(\"a"] ++ "b\")\n" := by
    decide +kernel
  have split : out = unlines [Layout.headerComment, "", "def main():", "    print(\"a"] ++ ("b\")\n" ++ rest) := by
    rw [← String.append_assoc, ← broken]
    exact page
  refine (starts _ _ (split ▸ String.toList_append) (by decide +kernel)).resolve_left ?_
  rw [String.toList_append, firstLine_append_of_mem (by decide)]
  decide +kernel

theorem newline_in_literal_breaks_line :
    ∃ r, compile ⟨4, true⟩ 99 "main()\x7bprint(\"a\nb\");\x7d" = .ok r ∧ r.diagnostics = [] ∧
      ∃ front rest, r.output = some (front ++ "b\")\n" ++ rest) ∧ lastLine front.toList = [] ∧
        ¬Layout.IsLine ⟨4, true⟩ "b\")".toList := by
  have run := (compile_yields ⟨4, true⟩ 99 "main()\x7bprint(\"a\nb\");\x7d").eq_ok (by decide)
  refine ⟨_, run, by decide +kernel, "# Generated by minic: C subset translated to Python\n\ndef main():\n    print(\"a\n",
    "\nif __name__ == \"__main__\":\n    main()\n", by decide +kernel, by decide +kernel, by decide +kernel⟩

end

end CSubset
