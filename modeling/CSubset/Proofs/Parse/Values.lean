import CSubset.Proofs.Parse.Places
import CSubset.Proofs.Parse.Translation
import CSubset.Proofs.Token.Composition
import CSubset.Proofs.Token.Tiling

/-!
# Assigned values

A value is put out as its lexemes with single spaces between them, whatever stood between them in the source. Where
nothing did, the source text is the lexemes run together, and it comes out as it was only if there is one of them
(`compile_values`).
-/

namespace CSubset

/-! ## Where a statement is put out -/

theorem Block.lines_append (d : Declared) (a b : Block) : lines d (a ++ b) = lines d a ++ lines (declares d a) b := by
  induction a generalizing d with
  | nil => rfl
  | cons st a ih =>
    rw [List.cons_append, lines, ih, lines, List.append_assoc]
    rfl

theorem Program.textLines_append (l : Layout) (d : Declared) (p q : Program) :
    textLines l d (p ++ q) = textLines l d p ++ textLines l (declares d p) q := by
  induction p generalizing d with
  | nil => rfl
  | cons b p ih => rw [List.cons_append, textLines, ih, textLines, declares_cons, List.append_assoc]

def Program.linesBefore (l : Layout) (blocks : Program) (front : Block) : List String :=
  Layout.headerComment :: blocks.textLines l [] ++ ["", "def main():"] ++
    (front.lines (blocks.declares [])).map (l.indent ++ ·)

theorem Program.text_at (l : Layout) (blocks : Program) (front : Block) {st : Stmt} {line : String}
    (h : st.line? (front.declares (blocks.declares [])) = some line) (back : Block) (later : Program) :
    ∃ rest, Program.text l (blocks ++ (front ++ st :: back) :: later) =
      unlines (linesBefore l blocks front ++ [l.indent ++ line]) ++ rest := by
  let d := blocks.declares []
  let block := front ++ st :: back
  let behind := Block.lines (st.declares (front.declares d)) back
  have inside : block.lines d = front.lines d ++ line :: behind := by
    rw [Block.lines_append, Block.lines, h]
    rfl
  have opening : unlines ["", "def main():"] = "\ndef main():\n" := by decide +kernel
  refine ⟨unlines (behind.map (l.indent ++ ·)) ++ l.fragmentText (block.lines d).length .closeMain ++
    unlines (Program.textLines l (block.declares d) later), ?_⟩
  unfold Program.text linesBefore
  rw [textLines_append, textLines, ← List.append_assoc, ← List.cons_append, ← List.cons_append, unlines_append,
    unlines_append, Layout.unlines_textLines, inside]
  simp only [unlines_append, unlines_cons, unlines_nil, List.map_append, List.map_cons, opening, String.append_assoc]
  rfl

/-! ## The source text of some tokens -/

/-- From the start of the first of these tokens, which is at byte `start`, to the end of the last, the source has this
text. -/
def SourceOf (source : String) (ts : List Token) (start : Nat) (text : String) : Prop :=
  ∃ first last, ts.head? = some first ∧ ts.getLast? = some last ∧ first.span.start.offset = start ∧
    TextAt source start last.span.stop.offset text

theorem SourceOf.unique {source text text' : String} {ts : List Token} {start start' : Nat}
    (h : SourceOf source ts start text) (h' : SourceOf source ts start' text') : start = start' ∧ text = text' := by
  obtain ⟨first, last, head, final, rfl, here⟩ := h
  obtain ⟨first', last', head', final', rfl, here'⟩ := h'
  cases head.symm.trans head'
  cases final.symm.trans final'
  exact ⟨rfl, here.unique here'⟩

theorem stop_getLast?_placed (before : List Char) (index : Nat) (p : Piece) (ps : List Piece) :
    ∃ last, (placed before index (p :: ps)).getLast? = some last ∧
      last.span.stop.offset = byteLength (before ++ pieceText (p :: ps)) := by
  induction ps generalizing before index p with
  | nil => exact ⟨p.token before index, rfl, by simp [Piece.token, Token.ofLexeme]⟩
  | cons q ps ih =>
    obtain ⟨last, final, stop⟩ := ih (before ++ p.gap ++ p.lexeme) (index + 1) q
    refine ⟨last, ?_, ?_⟩
    · rw [placed, placed, List.getLast?_cons_cons, ← placed]
      exact final
    · rw [stop, pieceText_cons p]
      simp only [List.append_assoc]

theorem sourceOf_placed {source : String} {before rest : List Char} {p : Piece} {ps : List Piece}
    (split : source.toList = before ++ pieceText (p :: ps) ++ rest) (index : Nat) :
    SourceOf source (placed before index (p :: ps)) (byteLength (before ++ p.gap))
      (String.ofList (p.lexeme ++ pieceText ps)) := by
  obtain ⟨last, final, stop⟩ := stop_getLast?_placed before index p ps
  have place : source.toList = before ++ p.gap ++ (p.lexeme ++ pieceText ps) ++ rest := by
    rw [split, pieceText_cons]
    simp only [List.append_assoc]
  have whole : before ++ pieceText (p :: ps) = before ++ p.gap ++ (p.lexeme ++ pieceText ps) := by
    rw [pieceText_cons]
    simp only [List.append_assoc]
  refine ⟨p.token before index, last, rfl, final, rfl, ?_⟩
  rw [stop, whole]
  exact textAt_of_split place

/-! ## White space in literals and outside -/

def blankOffsets (offset : Nat) : List Char → List Nat
  | [] => []
  | c :: cs =>
    if isBlank c then offset :: blankOffsets (offset + c.utf8Size) cs else blankOffsets (offset + c.utf8Size) cs

def InLiteral (ts : List Token) (offset : Nat) : Prop :=
  ∃ t ∈ ts, t.isStringLiteral ∧ t.span.start.offset ≤ offset ∧ offset < t.span.stop.offset

instance (ts : List Token) (offset : Nat) : Decidable (InLiteral ts offset) := inferInstanceAs (Decidable (∃ t ∈ ts, _))

theorem blankOffsets_append (offset : Nat) (cs ds : List Char) :
    blankOffsets offset (cs ++ ds) = blankOffsets offset cs ++ blankOffsets (offset + byteLength cs) ds := by
  induction cs generalizing offset with
  | nil => rfl
  | cons c cs ih =>
    rw [List.cons_append, blankOffsets, blankOffsets, byteLength_cons, ih, ← Nat.add_assoc]
    split
    · rfl
    · rfl

theorem le_of_mem_blankOffsets {offset o : Nat} {cs : List Char} (h : o ∈ blankOffsets offset cs) : offset ≤ o := by
  induction cs generalizing offset with
  | nil => cases h
  | cons c cs ih =>
    unfold blankOffsets at h
    split at h
    · rcases List.mem_cons.mp h with rfl | h
      · exact Nat.le_refl _
      · exact Nat.le_trans (Nat.le_add_right _ _) (ih h)
    · exact Nat.le_trans (Nat.le_add_right _ _) (ih h)

theorem InLiteral.tail {t : Token} {ts : List Token} {o : Nat} (h : InLiteral (t :: ts) o)
    (behind : t.span.stop.offset ≤ o) : InLiteral ts o := by
  obtain ⟨u, mem, literal, start, stop⟩ := h
  rcases List.mem_cons.mp mem with rfl | mem
  · omega
  · exact ⟨u, mem, literal, start, stop⟩

theorem gaps_eq_nil {before : List Char} {index : Nat} {p : Piece} {ps : List Piece}
    (wellCut : ∀ q ∈ ps, q.WellCut)
    (quoted : ∀ o ∈ blankOffsets (byteLength (before ++ p.gap)) (p.lexeme ++ pieceText ps),
      InLiteral (placed before index (p :: ps)) o) : ∀ q ∈ ps, q.gap = [] := by
  induction ps generalizing before index p with
  | nil => simp
  | cons q ps ih =>
    let front := before ++ p.gap ++ p.lexeme
    have stop : (p.token before index).span.stop.offset = byteLength front := rfl
    have behind : byteLength (before ++ p.gap) + byteLength p.lexeme = byteLength front := (byteLength_append _ _).symm
    rw [blankOffsets_append, behind, pieceText_cons, List.append_assoc, blankOffsets_append,
      ← byteLength_append front] at quoted
    -- a blank in front of `q` would be in a literal that neither ends before it nor starts behind it
    have first : q.gap = [] := by
      by_contra some
      obtain ⟨c, gap, split⟩ := List.exists_cons_of_ne_nil some
      have blank := (wellCut q List.mem_cons_self).1 c (split ▸ List.mem_cons_self)
      have here : byteLength front ∈ blankOffsets (byteLength front) q.gap := by
        rw [split, blankOffsets, if_pos blank]
        exact List.mem_cons_self
      obtain ⟨t, mem, -, start, -⟩ :=
        (quoted _ (List.mem_append_right _ (List.mem_append_left _ here))).tail (Nat.le_of_eq stop)
      have wide := byteLength_pos some
      rcases List.mem_cons.mp mem with rfl | mem
      · change byteLength (front ++ q.gap) ≤ byteLength front at start
        rw [byteLength_append] at start
        omega
      · have later : byteLength (front ++ q.gap ++ q.lexeme) ≤ t.span.start.offset := le_start_of_mem_placed mem
        rw [byteLength_append, byteLength_append] at later
        omega
    have later : ∀ o ∈ blankOffsets (byteLength (front ++ q.gap)) (q.lexeme ++ pieceText ps),
        InLiteral (placed front (index + 1) (q :: ps)) o := by
      intro o ho
      refine (quoted o (List.mem_append_right _ (List.mem_append_right _ ho))).tail ?_
      rw [stop]
      exact Nat.le_trans (by simp) (le_of_mem_blankOffsets ho)
    exact List.forall_mem_cons.mpr ⟨first, ih (fun r hr => wellCut r (List.mem_cons_of_mem _ hr)) later⟩

theorem pieceText_of_gaps {ps : List Piece} (h : ∀ p ∈ ps, p.gap = []) :
    String.ofList (pieceText ps) = String.join (ps.map fun p => String.ofList p.lexeme) := by
  induction ps with
  | nil => rfl
  | cons p ps ih =>
    rw [pieceText_cons, h p List.mem_cons_self, List.nil_append, String.ofList_append,
      ih fun q hq => h q (List.mem_cons_of_mem _ hq), List.map_cons, String.join_cons]

/-! ## Single spaces -/

theorem length_intercalate_space (w : String) (ws : List String) :
    (" ".intercalate (w :: ws)).length = (String.join (w :: ws)).length + ws.length := by
  induction ws generalizing w with
  | nil => simp
  | cons x ws ih =>
    have space : " ".length = 1 := rfl
    have whole := String.join_cons (s := w) (l := x :: ws)
    rw [String.intercalate_cons_cons, String.length_append, String.length_append, ih, whole, String.length_append,
      List.length_cons]
    omega

theorem intercalate_space_eq_join {w : String} {ws : List String} :
    " ".intercalate (w :: ws) = String.join (w :: ws) ↔ ws = [] := by
  constructor
  · intro same
    have longer := length_intercalate_space w ws
    rw [same] at longer
    exact List.eq_nil_of_length_eq_zero (by omega)
  · rintro rfl
    simp

/-! ## Sources -/

theorem placed_between (a v b : List Piece) :
    ((placed [] 0 (a ++ v ++ b)).drop a.length).take v.length = placed (pieceText a) a.length v := by
  rw [List.append_assoc, placed_append, List.drop_left' (length_placed _ _ _), placed_append,
    List.take_left' (length_placed _ _ _), List.nil_append, Nat.zero_add]

theorem exists_sourceOf {limit : Nat} {source : String} {before after : List String} {w : String} {ws : List String}
    (flat : (scanned limit source).tokens.map Token.lexeme = before ++ (w :: ws) ++ after) :
    ∃ ts start text, ts = ((scanned limit source).tokens.drop before.length).take (ws.length + 1) ∧
      ts.map Token.lexeme = w :: ws ∧ SourceOf source ts start text ∧
      ((∀ o ∈ blankOffsets start text.toList, InLiteral ts o) → text = String.join (w :: ws)) := by
  rw [scanned_tokens, map_lexeme_placed] at flat
  obtain ⟨ab, b, all, left, -⟩ := List.map_eq_append_iff.mp flat
  obtain ⟨a, v, rfl, rfl, middle⟩ := List.map_eq_append_iff.mp left
  obtain ⟨p, ps, rfl, rfl, rfl⟩ := List.map_eq_cons_iff.mp middle
  have whole := pieceText_cut (tokenLimit limit) source.toList
  have wellCut := cut_wellCut (tokenLimit limit) source.toList
  rw [(cut_eq_take _ _).1, all] at whole wellCut
  rw [pieceText_append, pieceText_append, List.append_assoc] at whole
  refine ⟨placed (pieceText a) a.length (p :: ps), _, _, ?_, ?_, sourceOf_placed whole.symm a.length, ?_⟩
  · rw [scanned_tokens, all, List.length_map, List.length_map]
    exact (placed_between a (p :: ps) b).symm
  · rw [map_lexeme_placed]
    rfl
  · rw [String.toList_ofList]
    intro quoted
    have together := gaps_eq_nil (fun q hq => wellCut q (by simp [hq])) quoted
    rw [String.ofList_append, pieceText_of_gaps together, String.join_cons]

/-- How many lexemes stand before the value of an assignment that comes after these blocks and, in its own block, after
these statements. -/
def Program.valueIndex (blocks : Program) (front : Block) : Nat :=
  (blocks.lexemes ++ opening ++ front.flatMap Stmt.lexemes).length + 2

theorem Program.lexemes_assign (blocks : Program) (front : Block) (name first : String) (more : List String)
    (back : Block) (later : Program) :
    ∃ before after, Program.lexemes (blocks ++ (front ++ .assign name first more :: back) :: later) =
      before ++ (first :: more) ++ after ∧ before.length = blocks.valueIndex front := by
  refine ⟨blocks.lexemes ++ opening ++ front.flatMap Stmt.lexemes ++ [name, "="],
    ";" :: (back.flatMap Stmt.lexemes ++ "\x7d" :: Program.lexemes later), ?_, ?_⟩
  · simp [Program.lexemes, Block.lexemes, Stmt.lexemes, opening]
  · unfold valueIndex
    rw [List.length_append]
    rfl

section
variable {layout : Layout} {limit : Nat} {source : String} {r : Compilation}

theorem output_eq_text (run : compile layout limit source = .ok r) (accepted : r.diagnostics = []) {p : Program}
    (allowed : p.Allowed []) (flat : (scanned limit source).tokens.map Token.lexeme = p.lexemes) :
    r.output = some (p.text layout) := by
  obtain ⟨s, -, scans, -, -, output, -⟩ := exists_program_of_compile run accepted
  cases (scan_yields limit source).eq_of_ok scans
  have fragments : (parse (scanned limit source).tokens).fragments = .header :: p.output [] :=
    (parse_quiet allowed (fun t ht => textual_of_mem_scanned limit source ht) flat).fragments
  rw [output, fragments, Layout.render_program layout allowed]

/-- **Assigned values.** Wherever an assignment stands in an accepted source, it is put out as the name, an equals sign
and the lexemes of the value with single spaces between them. If all white space of the value is in string literals, the
source text of the value is its lexemes run together, and so it is put out as it was exactly if it is one lexeme. -/
theorem compile_values (run : compile layout limit source = .ok r) (accepted : r.diagnostics = []) :
    ∃ s, scan limit source = .ok s ∧ IsProgram (s.tokens.map Token.lexeme) ∧
      ∀ (blocks : Program) (front : Block) (name first : String) (more : List String) (back : Block) (later : Program),
        Program.Allowed [] (blocks ++ (front ++ .assign name first more :: back) :: later) →
        s.tokens.map Token.lexeme = Program.lexemes (blocks ++ (front ++ .assign name first more :: back) :: later) →
        ∃ values rest, values = (s.tokens.drop (blocks.valueIndex front)).take (more.length + 1) ∧
          values.map Token.lexeme = first :: more ∧
          r.output = some (unlines (blocks.linesBefore layout front ++
            [layout.indent ++ (name ++ " = " ++ " ".intercalate (first :: more))]) ++ rest) ∧
          (∃ start text, SourceOf source values start text) ∧
          ∀ start text, SourceOf source values start text → (∀ o ∈ blankOffsets start text.toList, InLiteral values o) →
            text = String.join (first :: more) ∧ (" ".intercalate (first :: more) = text ↔ more = []) := by
  obtain ⟨s, p, scans, allowed, flat, -⟩ := exists_program_of_compile run accepted
  cases (scan_yields limit source).eq_of_ok scans
  refine ⟨_, scans, ⟨p, allowed, flat.symm⟩, ?_⟩
  intro blocks front name first more back later allowed flat
  obtain ⟨before, after, split, count⟩ := Program.lexemes_assign blocks front name first more back later
  obtain ⟨values, start, text, here, lexemes, place, together⟩ := exists_sourceOf (flat.trans split)
  obtain ⟨rest, page⟩ := Program.text_at layout blocks front
    (show Stmt.line? _ (.assign name first more) = some _ from rfl) back later
  refine ⟨values, rest, count ▸ here, lexemes, ?_, ⟨start, text, place⟩, ?_⟩
  · rw [output_eq_text run accepted allowed flat, page]
  · intro start' text' place' quoted
    obtain ⟨rfl, rfl⟩ := place.unique place'
    have joined := together quoted
    refine ⟨joined, ?_⟩
    rw [joined]
    exact intercalate_space_eq_join

theorem compile_values_quoted_space :
    ∃ r s values rest, compile ⟨4, true⟩ 99 "main()\x7bstring s; s=s+\"c d\";\x7d" = .ok r ∧ r.diagnostics = [] ∧
      scan 99 "main()\x7bstring s; s=s+\"c d\";\x7d" = .ok s ∧ values = (s.tokens.drop 9).take 3 ∧
      SourceOf "main()\x7bstring s; s=s+\"c d\";\x7d" values 19 "s+\"c d\"" ∧
      r.output = some (unlines [Layout.headerComment, "", "def main():", "    s = \"\"", "    s = s + \"c d\""] ++ rest) ∧
      "s+\"c d\"" = String.join ["s", "+", "\"c d\""] := by
  have run := (compile_yields ⟨4, true⟩ 99 "main()\x7bstring s; s=s+\"c d\";\x7d").eq_ok (by decide)
  have accepted : (Compilation.ofScan ⟨4, true⟩ 99
      (scanned 99 "main()\x7bstring s; s=s+\"c d\";\x7d")).diagnostics = [] := by
    decide +kernel
  obtain ⟨s, scans, -, values⟩ := compile_values run accepted
  obtain ⟨values, rest, here, lexemes, output, -, together⟩ :=
    values [] [.declare .string "s" none] "s" "s" ["+", "\"c d\""] [] [] (by decide)
      (by rw [(scan_yields _ _).eq_of_ok scans]; decide +kernel)
  have place : SourceOf "main()\x7bstring s; s=s+\"c d\";\x7d" values 19 "s+\"c d\"" := by
    subst here
    rw [(scan_yields _ _).eq_of_ok scans]
    exact ⟨_, _, rfl, rfl, by decide +kernel, "main()\x7bstring s; s=", ";\x7d", by decide, by decide, by decide +kernel⟩
  have quoted : ∀ o ∈ blankOffsets 19 "s+\"c d\"".toList, InLiteral values o := by
    subst here
    rw [(scan_yields _ _).eq_of_ok scans]
    decide +kernel
  have lines : unlines (Program.linesBefore ⟨4, true⟩ [] [.declare .string "s" none] ++
      [Layout.indent ⟨4, true⟩ ++ ("s" ++ " = " ++ " ".intercalate ["s", "+", "\"c d\""])]) =
      unlines [Layout.headerComment, "", "def main():", "    s = \"\"", "    s = s + \"c d\""] := by
    decide +kernel
  exact ⟨_, s, values, rest, run, accepted, scans, here, place, lines ▸ output, (together _ _ place quoted).1⟩

/-- Nothing stands between the lexemes of a sum, and it comes out with spaces. -/
theorem sum_spaced_out :
    ∃ r s, compile ⟨4, true⟩ 99 "main()\x7bint x; x=1+2;\x7d" = .ok r ∧ r.diagnostics = [] ∧
      scan 99 "main()\x7bint x; x=1+2;\x7d" = .ok s ∧
      SourceOf "main()\x7bint x; x=1+2;\x7d" ((s.tokens.drop 9).take 3) 16 "1+2" ∧
      blankOffsets 16 "1+2".toList = [] ∧ "x = 1 + 2" ≠ "x = " ++ "1+2" ∧
      r.output = some ("# Generated by minic: C subset translated to Python\n" ++
        "\ndef main():\n    x = 0\n    x = 1 + 2\n\nif __name__ == \"__main__\":\n    main()\n") := by
  have run := (compile_yields ⟨4, true⟩ 99 "main()\x7bint x; x=1+2;\x7d").eq_ok (by decide)
  have scans := (scan_yields 99 "main()\x7bint x; x=1+2;\x7d").eq_ok (by decide)
  refine ⟨_, _, run, by decide +kernel, scans, ?_, by decide, by decide, by decide +kernel⟩
  exact ⟨_, _, rfl, rfl, by decide +kernel, "main()\x7bint x; x=", ";\x7d", by decide, by decide, by decide +kernel⟩

end

end CSubset
