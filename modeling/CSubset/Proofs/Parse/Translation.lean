import CSubset.Proofs.Parse.Acceptance

/-!
# The text of a program

A program tree is translated line by line: a heading, and for every block its lines between the opening and the call
of the entry function. The compiler, which writes while it reads, puts out that text.
-/

namespace CSubset

/-! ## The lines of a tree -/

def startText : DataType → String
  | .int => "0"
  | .float => "0.0"
  | .bool => "False"
  | .string => "\"\""

def shownText (d : Declared) (argument : String) : String :=
  if isQuotedText argument then argument
  else if d.lookup argument = some .bool then "\"True\" if " ++ argument ++ " else \"False\""
  else "str(" ++ argument ++ ")"

def Stmt.line? (d : Declared) : Stmt → Option String
  | declare type name none => some (name ++ " = " ++ startText type)
  | declare _ name (some value) => some (name ++ " = " ++ value)
  | print argument => some ("print(" ++ shownText d argument ++ ")")
  | returnZero | empty => none
  | assign name first more => some (name ++ " = " ++ " ".intercalate (first :: more))

def Block.lines (d : Declared) : Block → List String
  | [] => []
  | st :: b => (st.line? d).toList ++ lines (st.declares d) b

def Block.textLines (l : Layout) (d : Declared) (b : Block) : List String :=
  let inner := if b.lines d = [] ∧ l.padEmptyBody then ["pass"] else b.lines d
  ["", "def main():"] ++ inner.map (String.ofList (List.replicate l.indentWidth ' ') ++ ·) ++
    ["", "if __name__ == \"__main__\":", String.ofList (List.replicate l.indentWidth ' ') ++ "main()"]

def Program.textLines (l : Layout) (d : Declared) : Program → List String
  | [] => []
  | b :: p => b.textLines l d ++ textLines l (b.declares d) p

def unlines (lines : List String) : String := String.join (lines.map (· ++ "\n"))

def Program.text (l : Layout) (p : Program) : String := unlines (Layout.headerComment :: p.textLines l [])

@[simp] theorem unlines_nil : unlines [] = "" := rfl

@[simp] theorem unlines_cons (line : String) (lines : List String) :
    unlines (line :: lines) = line ++ "\n" ++ unlines lines := by
  simp [unlines]

@[simp] theorem unlines_append (a b : List String) : unlines (a ++ b) = unlines a ++ unlines b := by
  simp [unlines]

/-! ## What is put out for a tree has these lines -/

theorem text_printedAs {d : Declared} {argument : String} (allowed : (Stmt.print argument).Allowed d) :
    (printedAs d argument).text = shownText d argument := by
  unfold printedAs shownText
  by_cases quoted : isQuotedText argument
  · simp [quoted, Printed.text]
  · obtain ⟨type, htype⟩ := Option.isSome_iff_exists.mp (allowed.resolve_left quoted)
    rw [htype]
    cases type <;> simp [quoted, Printed.text]

theorem Stmt.output_eq {d : Declared} {st : Stmt} (allowed : st.Allowed d) :
    ∃ xs : List Statement, st.output d = xs.map .statement ∧ xs.map Statement.text = (st.line? d).toList := by
  cases st with
  | declare type name value =>
    cases value with
    | none =>
      refine ⟨[.declare name (.default type)], rfl, ?_⟩
      cases type <;> rfl
    | some value => exact ⟨[.declare name (.given value)], rfl, rfl⟩
  | print argument =>
    refine ⟨[.print (printedAs d argument)], rfl, ?_⟩
    rw [List.map_singleton, Statement.text, text_printedAs allowed]
    rfl
  | returnZero => exact ⟨[], rfl, rfl⟩
  | empty => exact ⟨[], rfl, rfl⟩
  | assign name first more => exact ⟨[.assign name (" ".intercalate (first :: more))], rfl, rfl⟩

theorem Block.output_eq {d : Declared} {b : Block} (allowed : b.Allowed d) :
    ∃ xs : List Statement, b.output d = xs.map .statement ∧ xs.map Statement.text = b.lines d := by
  induction b generalizing d with
  | nil => exact ⟨[], rfl, rfl⟩
  | cons st b ih =>
    obtain ⟨xs, hxs, tx⟩ := Stmt.output_eq allowed.1
    obtain ⟨ys, hys, ty⟩ := ih allowed.2
    refine ⟨xs ++ ys, ?_, ?_⟩
    · rw [Block.output, hxs, hys, List.map_append]
    · rw [List.map_append, tx, ty, Block.lines]

/-! ## Rendering -/

namespace Layout
variable (l : Layout)

theorem renderOnto_cons (out : String) (count : Nat) (f : Fragment) (fs : List Fragment) :
    l.renderOnto out count (f :: fs) = l.renderOnto (out ++ l.fragmentText count f) (countAfter count f) fs := rfl

theorem renderOnto_statements (out : String) (count : Nat) (xs : List Statement) (fs : List Fragment) :
    l.renderOnto out count (xs.map .statement ++ fs) =
      l.renderOnto (out ++ unlines ((xs.map Statement.text).map (l.indent ++ ·))) (count + xs.length) fs := by
  induction xs generalizing out count with
  | nil => simp
  | cons x xs ih =>
    have counted : countAfter count (.statement x) + xs.length = count + (x :: xs).length := by
      simp only [countAfter, List.length_cons]
      omega
    rw [List.map_cons, List.cons_append, renderOnto_cons, ih, counted]
    simp [fragmentText, indented, String.append_assoc]

theorem unlines_textLines (d : Declared) (b : Block) :
    unlines (b.textLines l d) =
      "\ndef main():\n" ++ unlines ((b.lines d).map (l.indent ++ ·)) ++
        l.fragmentText (b.lines d).length .closeMain := by
  unfold Block.textLines fragmentText
  by_cases bare : b.lines d = [] ∧ l.padEmptyBody
  · simp [bare.1, bare.2, indented, indent, ← String.append_assoc]
  · have full : ¬((b.lines d).length = 0 ∧ l.padEmptyBody) := by simpa using bare
    dsimp only
    rw [if_neg bare, if_neg full]
    simp [indented, indent, ← String.append_assoc]

theorem renderOnto_block {d : Declared} {b : Block} (allowed : b.Allowed d) (out : String) (count : Nat)
    (fs : List Fragment) :
    l.renderOnto out count (.openMain :: (b.output d ++ .closeMain :: fs)) =
      l.renderOnto (out ++ unlines (b.textLines l d)) (b.lines d).length fs := by
  obtain ⟨xs, hxs, tx⟩ := Block.output_eq allowed
  have counted : countAfter count .openMain + xs.length = (b.lines d).length := by
    rw [← tx, List.length_map]
    exact Nat.zero_add _
  rw [renderOnto_cons, hxs, renderOnto_statements, renderOnto_cons, tx, counted, unlines_textLines]
  simp only [String.append_assoc]
  rfl

theorem renderOnto_program {d : Declared} {p : Program} (allowed : p.Allowed d) (out : String) (count : Nat) :
    l.renderOnto out count (p.output d) = out ++ unlines (p.textLines l d) := by
  induction p generalizing d out count with
  | nil => simp [Program.output, Program.textLines, renderOnto]
  | cons b p ih =>
    obtain ⟨mine, others⟩ := (Program.allowed_cons d b p).mp allowed
    rw [Program.output, renderOnto_block l mine, ih others, Program.textLines, unlines_append, String.append_assoc]

theorem render_program {p : Program} (allowed : p.Allowed []) : l.render (.header :: p.output []) = p.text l := by
  unfold render
  rw [renderOnto_cons, renderOnto_program l allowed]
  simp [Program.text, fragmentText]

end Layout

/-! ## Sources -/

/-- **The translation.** A source written with the lexemes of a tree is compiled to the text of the tree, and the table
has the latest type of every name that the tree declares. -/
theorem compile_program (layout : Layout) (limit : Nat) (source : String) {p : Program} (allowed : p.Allowed [])
    (flat : LexemesOf source p.lexemes) (within : p.lexemes.length ≤ min limit Limits.current.maxTokenCount) :
    (source.utf8ByteSize < 4294967295 → ∃ r, compile layout limit source = .ok r) ∧
      ∀ r, compile layout limit source = .ok r →
        r.diagnostics = [] ∧ r.output = some (p.text layout) ∧
          ∀ name, r.symbols.lookup name = (p.declares []).lookup name := by
  have yields := compile_yields layout limit source
  refine ⟨fun short => ⟨_, yields.eq_ok short⟩, fun r hr => ?_⟩
  rw [yields.eq_of_ok hr]
  have flat : lexemes source = p.lexemes := (lexemesOf_iff.mp flat).symm
  rw [← flat] at within
  have q := parse_quiet allowed (fun t ht => textual_of_mem_scanned limit source ht)
    ((lexemes_of_within limit source within).trans flat)
  have none : (Compilation.ofScan layout limit (scanned limit source)).diagnostics = [] := by
    change (scanned limit source).diagnostics limit ++ (parse (scanned limit source).tokens).diagnostics = []
    rw [(scanned_diagnostics_eq_nil_iff limit source).mpr within, q.diagnostics]
    rfl
  have fragments : (parse (scanned limit source).tokens).fragments = .header :: p.output [] := q.fragments
  refine ⟨none, ?_, q.declared⟩
  change (if (Compilation.ofScan layout limit (scanned limit source)).diagnostics.isEmpty then
    some (layout.render (parse (scanned limit source).tokens).fragments) else _) = _
  rw [none, fragments, Layout.render_program layout allowed]
  rfl

theorem compile_redeclared : ∃ r,
    compile ⟨2, true⟩ 99 "main()\x7bint b; print(b); bool b = x;\x7d main()\x7bprint(b);\x7d main()\x7b;\x7d" = .ok r ∧
      r.symbols.lookup "b" = some .bool ∧
      r.output = some ("# Generated by minic: C subset translated to Python\n" ++
        "\ndef main():\n  b = 0\n  print(str(b))\n  b = x\n\nif __name__ == \"__main__\":\n  main()\n" ++
        "\ndef main():\n  print(\"True\" if b else \"False\")\n\nif __name__ == \"__main__\":\n  main()\n" ++
        "\ndef main():\n  pass\n\nif __name__ == \"__main__\":\n  main()\n") := by
  obtain ⟨returns, result⟩ := compile_program ⟨2, true⟩ 99
    "main()\x7bint b; print(b); bool b = x;\x7d main()\x7bprint(b);\x7d main()\x7b;\x7d"
    (p := [[.declare .int "b" none, .print "b", .declare .bool "b" (some "x")], [.print "b"], [.empty]])
    (by decide) (lexemesOf_iff.mpr (by decide)) (by decide)
  obtain ⟨r, run⟩ := returns (by decide)
  obtain ⟨-, output, declared⟩ := result r run
  refine ⟨r, run, (declared "b").trans (by decide), output.trans ?_⟩
  decide +kernel

end CSubset
