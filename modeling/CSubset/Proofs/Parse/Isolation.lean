import CSubset.Proofs.Parse.Acceptance

/-!
# One broken statement, one report

A program of the language is cut between two statements of a block, and a statement that is broken, but ends with its
semicolon, is put in there. The parser finds its way back at that semicolon: it reports the one statement, with the
text it stumbled over, and reads everything behind it as if nothing had happened.
-/

namespace CSubset

/-! ## Broken statements -/

/-- Lexemes of a statement that is not of the language, where `d` is declared, with the code and the message it
gets. -/
inductive Broken (d : Declared) : List String → String → String → Prop
  | printMany (first : String) (more : List String) (many : more ≠ []) (inside : ∀ w ∈ more, w ≠ ")" ∧ w ≠ ";") :
      Broken d ("print" :: "(" :: first :: (more ++ [")", ";"])) "E055"
        ("invalid print argument '" ++ " ".intercalate (first :: more) ++ "'")
  | printUnknown (argument : String) (literal : ¬isQuotedText argument) (unknown : d.lookup argument = none) :
      Broken d ["print", "(", argument, ")", ";"] "E055" ("invalid print argument '" ++ argument ++ "'")
  | assignUnknown (name first : String) (more : List String) (word : isWordText name)
      (other : name ∉ ["int", "float", "bool", "string", "print"]) (unknown : d.lookup name = none)
      (inside : ";" ∉ first :: more) :
      Broken d (name :: "=" :: first :: (more ++ [";"])) "E052" ("assignment to undeclared variable '" ++ name ++ "'")
  | unrecognized (first : String) (more : List String) (inside : ";" ∉ first :: more)
      (other : first ∉ ["\x7d", "int", "float", "bool", "string", "print"])
      (notReturn : ¬["return", "0"] <+: first :: more)
      (notAssign : ¬∃ value rest, more = "=" :: value :: rest ∧ isWordText first) :
      Broken d (first :: (more ++ [";"])) "E054"
        ("unrecognized statement '" ++ " ".intercalate (first :: more) ++ "'")

theorem Broken.lexemes_eq_cons {d : Declared} {bad : List String} {code message : String}
    (h : Broken d bad code message) : ∃ w ws, bad = w :: ws ∧ w ≠ "\x7d" := by
  cases h with
  | printMany => exact ⟨_, _, rfl, by decide⟩
  | printUnknown => exact ⟨_, _, rfl, by decide⟩
  | assignUnknown name _ _ word =>
    refine ⟨_, _, rfl, ?_⟩
    rintro rfl
    exact absurd word (by decide)
  | unrecognized first _ _ other =>
    refine ⟨_, _, rfl, ?_⟩
    rintro rfl
    exact other (by decide)

/-- The lexemes of a program, cut in front of a statement or of the closing brace of a block, and what is declared
there. -/
inductive Boundary : List String → List String → Declared → Prop
  | inside (front : Program) (b b' : Block) (back : Program) (allowed : (front ++ (b ++ b') :: back).Allowed []) :
      Boundary (front.lexemes ++ (["main", "(", ")", "\x7b"] ++ b.flatMap Stmt.lexemes))
        (b'.flatMap Stmt.lexemes ++ ["\x7d"] ++ back.lexemes) (Block.declares (front.declares []) b)

namespace ParseState

/-! ## A report on the way -/

/-- On its way from `s` to `s'` the parser passed everything before `after` with one report. -/
structure Reported (s s' : ParseState) (after : List Token) (code message : String) (d : Declared) : Prop where
  rest : s'.rest = after
  reported : ∃ x, s'.diagnostics = s.diagnostics ++ [x] ∧ x.code = code ∧ x.message = message
  declared : s'.symbols.Agrees d

theorem Quiet.report {s s' : ParseState} {after : List Token} {out : List Fragment} {d : Declared}
    (q : Quiet s s' after out d) (cause : Cause) (span : Option Span) :
    Reported s (s'.report cause span) after cause.code cause.message d := by
  refine ⟨q.rest, ?_, q.declared⟩
  rw [diagnostics_report, q.diagnostics]
  exact ⟨_, rfl, rfl, rfl⟩

section
variable {s s' s'' : ParseState} {after after' : List Token} {out : List Fragment} {code message : String}
  {d d' : Declared}

theorem Quiet.thenReported (q : Quiet s s' after out d) (r : Reported s' s'' after' code message d') :
    Reported s s'' after' code message d' := by
  obtain ⟨x, hx, named⟩ := r.reported
  exact ⟨r.rest, ⟨x, by rw [hx, q.diagnostics], named⟩, r.declared⟩

theorem Reported.thenQuiet (r : Reported s s' after code message d) (q : Quiet s' s'' after' out d') :
    Reported s s'' after' code message d' := by
  obtain ⟨x, hx, named⟩ := r.reported
  exact ⟨q.rest, ⟨x, by rw [q.diagnostics, hx], named⟩, q.declared⟩

end

section
variable {c : Criteria} {s : ParseState} {d : Declared} (hd : s.symbols.Agrees d) {after : List Token}
include hd

theorem printStatement_reported {pr op first : Token} {more : List Token} {cl semi : Token}
    (h : s.rest = pr :: op :: first :: (more ++ cl :: semi :: after)) (hop : op.lexeme = "(")
    (inside : ∀ t ∈ more, t.lexeme ≠ ")" ∧ t.lexeme ≠ ";") (hcl : cl.lexeme = ")") (hsemi : semi.lexeme = ";")
    (none : printed? c s.symbols first more = none) :
    Reported s (s.printStatement c) after "E055"
      ("invalid print argument '" ++ Token.joinLexemes (first :: more) ++ "'") d := by
  have opened : Quiet s (s.next.expect "(") (first :: (more ++ cl :: semi :: after)) [] d :=
    (Quiet.refl hd h).next.expect hop
  have upTo : (s.next.expect "(").next.upTo endsArgument = more := by
    refine upTo_of_rest opened.next.rest (fun t ht => ?_) (by simp [endsArgument, Token.hasText, hcl])
    simp [endsArgument, Token.hasText, inside t ht]
  have taken := Quiet.takeUpTo upTo opened.next
  unfold printStatement
  simp only [cursor_peek, opened.rest, List.head?_cons, upTo, symbols_takeUpTo, symbols_next, symbols_expect, none,
    Option.isSome_none, Bool.false_eq_true, ite_false]
  have reported := taken.report (.invalidPrintArgument (Token.joinLexemes (first :: more)))
    (((first :: more).getLast?.getD first).span.merge first.span)
  exact reported.thenQuiet (((((Quiet.refl reported.declared reported.rest).expect hcl).expect hsemi).note _).emit _)

theorem assign_reported {nm eq v : Token} {more : List Token} {semi : Token}
    (h : s.rest = nm :: eq :: v :: (more ++ semi :: after)) (hnm : c.Textual nm) (word : isWordText nm.lexeme)
    (heq : eq.lexeme = "=") (inside : ∀ t ∈ v :: more, t.lexeme ≠ ";") (hsemi : semi.lexeme = ";")
    (unknown : d.lookup nm.lexeme = none) :
    Reported s (s.otherStatement c) after "E052" ("assignment to undeclared variable '" ++ nm.lexeme ++ "'") d := by
  have parts : ∀ t ∈ nm :: eq :: v :: more, t.lexeme ≠ ";" := by
    intro t ht
    rcases List.mem_cons.mp ht with rfl | ht
    · intro semicolon
      rw [semicolon] at word
      exact absurd word (by decide)
    · rcases List.mem_cons.mp ht with rfl | ht
      · rw [heq]
        decide
      · exact inside t ht
  obtain ⟨s', run, q⟩ := otherStatement_quiet hd c (nm :: eq :: v :: more) h parts hsemi
  have missing : s'.symbols.contains nm.lexeme = false := by
    rw [SymbolTable.contains_eq_isSome_lookup, q.declared, unknown]
    rfl
  have assignment : isAssignment c (nm :: eq :: v :: more) = true := by
    simp [isAssignment, hnm.isWordlike, word, Token.hasText, heq]
  rw [run]
  unfold judge
  simp only [assignment, missing, ite_true, Bool.false_eq_true, ite_false]
  exact q.report _ _

theorem unrecognized_reported {first : Token} {more : List Token} {semi : Token}
    (h : s.rest = first :: (more ++ semi :: after)) (hfirst : c.Textual first)
    (inside : ∀ t ∈ first :: more, t.lexeme ≠ ";") (hsemi : semi.lexeme = ";")
    (notAssign : ¬∃ value rest, more.map Token.lexeme = "=" :: value :: rest ∧ isWordText first.lexeme) :
    Reported s (s.otherStatement c) after "E054"
      ("unrecognized statement '" ++ Token.joinLexemes (first :: more) ++ "'") d := by
  obtain ⟨s', run, q⟩ := otherStatement_quiet hd c (first :: more) h inside hsemi
  have other : isAssignment c (first :: more) = false := by
    match more with
    | [] | [_] => rfl
    | eq :: v :: rest =>
      refine Bool.eq_false_iff.mpr fun assignment => notAssign ⟨v.lexeme, rest.map Token.lexeme, ?_⟩
      simp only [isAssignment, Bool.and_eq_true, hfirst.isWordlike, Token.hasText, beq_iff_eq] at assignment
      simp [assignment]
  rw [run]
  unfold judge
  simp only [other, Bool.false_eq_true, ite_false]
  exact q.report _ _

theorem statement_reported {bad : List String} {code message : String} (broken : Broken d bad code message)
    {first : Token} {toks : List Token} (h : s.rest = first :: toks ++ after)
    (textual : ∀ t ∈ first :: toks, c.Textual t) (hl : (first :: toks).map Token.lexeme = bad) :
    Reported s (s.statement c first) after code message d := by
  have hfirst := textual first List.mem_cons_self
  rw [statement_eq hfirst]
  cases broken with
  | printMany argument more many inside =>
    simp only [List.map_cons, List.cons.injEq, List.map_eq_cons_iff, List.map_eq_append_iff, List.map_eq_nil_iff] at hl
    obtain ⟨hpr, op, _, rfl, hop, a, _, rfl, rfl, more, _, rfl, rfl, cl, _, rfl, hcl, semi, _, rfl, hsemi, rfl⟩ := hl
    have rest : s.rest = first :: op :: a :: (more ++ cl :: semi :: after) := by simp [h]
    have noType : DataType.ofName? "print" = none := rfl
    have none : printed? c s.symbols a more = none := by
      have : more ≠ [] := by simpa using many
      simp [printed?, this]
    simp only [hpr, noType, Token.hasText, Option.isSome_none, Bool.false_eq_true, ite_false, beq_self_eq_true, ite_true]
    exact printStatement_reported hd rest hop (fun t ht => inside _ (List.mem_map_of_mem ht)) hcl hsemi none
  | printUnknown argument literal unknown =>
    simp only [List.map_cons, List.cons.injEq, List.map_eq_cons_iff, List.map_eq_nil_iff] at hl
    obtain ⟨hpr, op, _, rfl, hop, a, _, rfl, rfl, cl, _, rfl, hcl, semi, _, rfl, hsemi, rfl⟩ := hl
    have noType : DataType.ofName? "print" = none := rfl
    have none : printed? c s.symbols a [] = none := by
      have ha := textual a (by simp)
      simp [printed?, ha.isStringLiteral, literal, hd a.lexeme, unknown]
    have rest : s.rest = first :: op :: a :: ([] ++ cl :: semi :: after) := h
    have reported := printStatement_reported hd rest hop (by simp) hcl hsemi none
    simp only [hpr, noType, Token.hasText, Option.isSome_none, Bool.false_eq_true, ite_false, beq_self_eq_true, ite_true]
    exact reported
  | assignUnknown name v more word other unknown inside =>
    simp only [List.map_cons, List.cons.injEq, List.map_eq_cons_iff, List.map_eq_append_iff, List.map_eq_nil_iff] at hl
    obtain ⟨rfl, eq, _, rfl, heq, v, _, rfl, rfl, more, _, rfl, rfl, semi, _, rfl, hsemi, rfl⟩ := hl
    have rest : s.rest = first :: eq :: v :: (more ++ semi :: after) := by simp [h]
    have noSemi : ∀ t ∈ v :: more, t.lexeme ≠ ";" := by
      intro t ht semicolon
      rw [← List.map_cons] at inside
      exact inside (semicolon ▸ List.mem_map_of_mem ht)
    obtain ⟨noType, noPrint⟩ := starts_other_iff.mp other
    have notPrint : first.hasText "print" = false := beq_false_of_ne noPrint
    have second : s.rest[1]?.any (·.hasText "0") = false := by simp [rest, Token.hasText, heq]
    simp only [noType, notPrint, second, Option.isSome_none, Bool.false_eq_true, ite_false]
    split
    · exact (Quiet.refl hd rfl).peekSecond.thenReported
        (assign_reported (s := s.peekSecond) hd rest hfirst word heq noSemi hsemi unknown)
    · exact assign_reported hd rest hfirst word heq noSemi hsemi unknown
  | unrecognized w more inside other notReturn notAssign =>
    simp only [List.map_cons, List.cons.injEq, List.map_eq_cons_iff, List.map_eq_append_iff, List.map_eq_nil_iff] at hl
    obtain ⟨rfl, more, _, rfl, rfl, semi, _, rfl, hsemi, rfl⟩ := hl
    have rest : s.rest = first :: (more ++ semi :: after) := by simp [h]
    have noSemi : ∀ t ∈ first :: more, t.lexeme ≠ ";" := by
      intro t ht semicolon
      rw [← List.map_cons] at inside
      exact inside (semicolon ▸ List.mem_map_of_mem ht)
    obtain ⟨noType, noPrint⟩ := starts_other_iff.mp fun mem => other (List.mem_cons_of_mem _ mem)
    have notPrint : first.hasText "print" = false := beq_false_of_ne noPrint
    simp only [noType, notPrint, Option.isSome_none, Bool.false_eq_true, ite_false]
    split
    · next hreturn =>
      -- a `return` with anything but `0` behind it is a statement like any other
      have second : s.rest[1]?.any (·.hasText "0") = false := by
        rw [rest]
        cases more with
        | nil => simp [Token.hasText, hsemi]
        | cons u more =>
          have hfirst : first.lexeme = "return" := by simpa [Token.hasText] using hreturn
          simp only [List.map_cons, hfirst, List.cons_prefix_cons, true_and, List.nil_prefix, and_true] at notReturn
          simp [Token.hasText, Ne.symm notReturn]
      simp only [second, Bool.false_eq_true, ite_false]
      exact (Quiet.refl hd rfl).peekSecond.thenReported
        (unrecognized_reported (s := s.peekSecond) hd rest hfirst noSemi hsemi notAssign)
    · exact unrecognized_reported hd rest hfirst noSemi hsemi notAssign

end

/-! ## Blocks and programs -/

theorem mainFunction_reported {c : Criteria} {d : Declared} {b b' : Block} {bad : List String} {code message : String}
    (allowed : Block.Allowed d (b ++ b')) (broken : Broken (b.declares d) bad code message) {s : ParseState}
    (hd : s.symbols.Agrees d) {toks after : List Token} (h : s.rest = toks ++ after)
    (textual : ∀ t ∈ toks, c.Textual t)
    (hl : toks.map Token.lexeme =
      ["main", "(", ")", "\x7b"] ++ b.flatMap Stmt.lexemes ++ bad ++ (b'.flatMap Stmt.lexemes ++ ["\x7d"])) :
    Reported s (s.mainFunction c) after code message (Block.declares d (b ++ b')) := by
  obtain ⟨front, back⟩ := (Block.allowed_append d b b').mp allowed
  obtain ⟨w, ws, hw, inside⟩ := broken.lexemes_eq_cons
  simp only [List.append_assoc, List.cons_append, List.nil_append, List.map_eq_cons_iff, List.map_eq_append_iff,
    List.map_eq_nil_iff] at hl
  obtain ⟨m, _, rfl, hm, op, _, rfl, hop, cl, _, rfl, hcl, ob, _, rfl, hob, toks, _, rfl, hb, mid, _, rfl, hmid,
    toks', _, rfl, hb', close, _, rfl, hclose, rfl⟩ := hl
  obtain ⟨first, mid, rfl, hfirst, -⟩ := List.map_eq_cons_iff.mp (hmid.trans hw)
  have rest : s.rest = m :: op :: cl :: ob :: (toks ++ ((first :: mid) ++ (toks' ++ close :: after))) := by simp [h]
  have opened := ((((((Quiet.refl hd rest).expect hm).expect hop).expect hcl).expect hob).note
    "Entering main function").emit .openMain
  obtain ⟨s₁, run₁, q₁⟩ := body_front (c := c) front opened.declared opened.rest (fun t ht => textual t (by simp [ht])) hb
  -- the statement that is reported, and then the rest of the block from where it left off
  have one : Reported s₁ (s₁.peek.statement c first) (toks' ++ close :: after) code message (b.declares d) :=
    (Quiet.refl q₁.declared rfl).peek.thenReported (statement_reported (s := s₁.peek) q₁.declared broken q₁.rest
      (fun t ht => textual t (by rcases List.mem_cons.mp ht with rfl | ht <;> simp [*])) hmid)
  have closed := body_quiet (c := c) back one.declared one.rest (fun t ht => textual t (by simp [ht])) hb' hclose
  have run : s.opened.body c = (s₁.peek.statement c first).body c := by
    rw [← body_of_statement q₁.rest (hfirst ▸ inside), ← run₁]
    rfl
  rw [mainFunction_eq, run, Block.declares, List.foldl_append]
  exact (opened.trans q₁).thenReported (one.thenQuiet (((closed.expect hclose).emit .closeMain).note _))

theorem functions_reported {c : Criteria} {d : Declared} {front back : Program} {b b' : Block} {bad : List String}
    {code message : String} (allowed : Program.Allowed d (front ++ (b ++ b') :: back))
    (broken : Broken (b.declares (front.declares d)) bad code message) {s : ParseState} (hd : s.symbols.Agrees d)
    (textual : ∀ t ∈ s.rest, c.Textual t)
    (hl : s.rest.map Token.lexeme =
      front.lexemes ++ (["main", "(", ")", "\x7b"] ++ b.flatMap Stmt.lexemes) ++ bad ++
        (b'.flatMap Stmt.lexemes ++ ["\x7d"] ++ back.lexemes)) :
    Reported s (s.functions c) [] code message (Program.declares d (front ++ (b ++ b') :: back)) := by
  rw [Program.allowed_append, Program.allowed_cons] at allowed
  obtain ⟨earlier, this, later⟩ := allowed
  -- the tokens of the earlier blocks, of the block with the broken statement, and of the later blocks
  have split : s.rest.map Token.lexeme = front.lexemes ++
      ((["main", "(", ")", "\x7b"] ++ b.flatMap Stmt.lexemes ++ bad ++ (b'.flatMap Stmt.lexemes ++ ["\x7d"])) ++
        back.lexemes) := by
    rw [hl]
    simp only [List.append_assoc]
  obtain ⟨toks₁, _, rest, hfront, hl⟩ := List.map_eq_append_iff.mp split
  obtain ⟨toks₂, toks₃, rfl, hblock, hback⟩ := List.map_eq_append_iff.mp hl
  rw [rest] at textual
  obtain ⟨s₁, run₁, q₁⟩ := functions_front (c := c) earlier hd rest (fun t ht => textual t (by simp [ht])) hfront
  obtain ⟨m, toks₂, rfl, hm, -⟩ := List.map_eq_cons_iff.mp hblock
  have inside : ∀ t ∈ m :: toks₂, c.Textual t :=
    fun t ht => textual t (List.mem_append_right _ (List.mem_append_left _ ht))
  have one : Reported s₁ (s₁.peek.mainFunction c) toks₃ code message (Block.declares (front.declares d) (b ++ b')) :=
    (Quiet.refl q₁.declared rfl).peek.thenReported
      (mainFunction_reported (s := s₁.peek) this broken q₁.declared q₁.rest inside hblock)
  have last := functions_quiet (c := c) later one.declared
    (fun t ht => textual t (by rw [one.rest] at ht; simp [ht])) (by rw [one.rest]; exact hback)
  rw [run₁, functions_of_cons q₁.rest (inside m List.mem_cons_self), if_pos hm, Program.declares_append,
    Program.declares_cons]
  exact q₁.thenReported (one.thenQuiet last)

end ParseState

theorem parse_reported {front back : Program} {b b' : Block} {bad : List String} {code message : String}
    (allowed : Program.Allowed [] (front ++ (b ++ b') :: back))
    (broken : Broken (b.declares (front.declares [])) bad code message) {tokens : List Token}
    (textual : ∀ t ∈ tokens, Criteria.byClass.Textual t)
    (hl : tokens.map Token.lexeme =
      front.lexemes ++ (["main", "(", ")", "\x7b"] ++ b.flatMap Stmt.lexemes) ++ bad ++
        (b'.flatMap Stmt.lexemes ++ ["\x7d"] ++ back.lexemes)) :
    ParseState.Reported (.ofTokens tokens) (parse tokens) [] code message
      (Program.declares [] (front ++ (b ++ b') :: back)) := by
  have start := (ParseState.Quiet.refl (s := .ofTokens tokens) SymbolTable.agrees_empty rfl).emit .header
  have run := start.thenReported (ParseState.functions_reported allowed broken start.declared textual hl)
  exact run.thenQuiet ((ParseState.Quiet.refl run.declared run.rest).note _)

/-! ## Sources -/

/-- **Isolation.** A source that is accepted, with a broken statement put in at a boundary, gets one report, which names
what is wrong with that statement. The names declared in the end, and their types, are those of the source without
it. -/
theorem compile_isolates {layout₀ : Layout} {limit₀ : Nat} {original : String} {r₀ : Compilation}
    (run₀ : compile layout₀ limit₀ original = .ok r₀) (accepted : r₀.diagnostics = [])
    {before after : List String} {d : Declared} (boundary : Boundary before after d)
    (cut : LexemesOf original (before ++ after)) {bad : List String} {code message : String}
    (broken : Broken d bad code message) (layout : Layout) (limit : Nat) (source : String)
    (inserted : LexemesOf source (before ++ bad ++ after))
    (within : (before ++ bad ++ after).length ≤ min limit Limits.current.maxTokenCount) :
    (source.utf8ByteSize < 4294967295 → ∃ r, compile layout limit source = .ok r) ∧
      ∀ r, compile layout limit source = .ok r →
        (∃ x, r.diagnostics = [x] ∧ x.code = code ∧ x.message = message) ∧
          r.symbols.names = r₀.symbols.names ∧ ∀ name, r.symbols.lookup name = r₀.symbols.lookup name := by
  have yields := compile_yields layout limit source
  have inserted : lexemes source = before ++ bad ++ after := (lexemesOf_iff.mp inserted).symm
  rw [← inserted] at within
  refine ⟨fun short => ⟨_, yields.eq_ok short⟩, fun r hr => ?_⟩
  rw [yields.eq_of_ok hr]
  rw [(compile_yields layout₀ limit₀ original).eq_of_ok run₀] at accepted ⊢
  obtain ⟨fits₀, -⟩ := List.append_eq_nil_iff.mp accepted
  have within₀ := (scanned_diagnostics_eq_nil_iff limit₀ original).mp fits₀
  have fits := (scanned_diagnostics_eq_nil_iff limit source).mpr within
  cases boundary with
  | inside front b b' back allowed =>
    have whole : (front ++ (b ++ b') :: back).lexemes = lexemes original := by
      rw [← lexemesOf_iff.mp cut]
      simp [Program.lexemes, Block.lexemes]
    have q := parse_quiet allowed (fun t ht => textual_of_mem_scanned limit₀ original ht)
      ((lexemes_of_within limit₀ original within₀).trans whole.symm)
    have reported := parse_reported allowed broken (fun t ht => textual_of_mem_scanned limit source ht)
      ((lexemes_of_within limit source within).trans inserted)
    have lookup : ∀ name, (parse (scanned limit source).tokens).symbols.lookup name =
        (parse (scanned limit₀ original).tokens).symbols.lookup name :=
      fun name => (reported.declared name).trans (q.declared name).symm
    refine ⟨?_, SymbolTable.names_eq_of_lookup lookup, lookup⟩
    obtain ⟨x, hx, named⟩ := reported.reported
    refine ⟨x, ?_, named⟩
    change (scanned limit source).diagnostics limit ++ (parse (scanned limit source).tokens).diagnostics = [x]
    rw [fits, hx]
    rfl

theorem compile_isolates_stray_braces : ∃ r,
    compile ⟨4, true⟩ 100 "main()\x7bint x;\x7d main()\x7breturn \x7d main()\x7b; print(x);\x7d" = .ok r ∧
      (∃ x, r.diagnostics = [x] ∧ x.code = "E054" ∧
        x.message = "unrecognized statement 'return \x7d main ( ) \x7b'") ∧
      r.symbols.lookup "x" = some .int := by
  have tree : Program.Allowed [] [[.declare .int "x" none], [.print "x"]] := by decide
  have flat : lexemes "main()\x7bint x;\x7d main()\x7bprint(x);\x7d" =
      Program.lexemes [[.declare .int "x" none], [.print "x"]] := by decide
  have q := parse_quiet tree (fun t ht => textual_of_mem_scanned 100 _ ht)
    ((lexemes_of_within 100 _ (by decide)).trans flat)
  have accepted : (Compilation.ofScan ⟨4, true⟩ 100
      (scanned 100 "main()\x7bint x;\x7d main()\x7bprint(x);\x7d")).diagnostics = [] :=
    List.append_eq_nil_iff.mpr ⟨(scanned_diagnostics_eq_nil_iff 100 _).mpr (by decide), q.diagnostics⟩
  obtain ⟨returns, result⟩ := compile_isolates ((compile_yields ⟨4, true⟩ 100 _).eq_ok (by decide)) accepted
    (.inside [[.declare .int "x" none]] [] [.print "x"] [] tree) (lexemesOf_iff.mpr flat.symm)
    (.unrecognized "return" ["\x7d", "main", "(", ")", "\x7b"] (by decide) (by decide) (by decide) (by simp))
    ⟨4, true⟩ 100 "main()\x7bint x;\x7d main()\x7breturn \x7d main()\x7b; print(x);\x7d"
    (lexemesOf_iff.mpr (by decide)) (by decide)
  obtain ⟨r, run⟩ := returns (by decide)
  obtain ⟨reported, -, declared⟩ := result r run
  exact ⟨r, run, reported, (declared "x").trans ((q.declared "x").trans (by decide))⟩

end CSubset
