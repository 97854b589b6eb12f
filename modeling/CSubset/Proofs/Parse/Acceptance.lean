import CSubset.Compile
import CSubset.Proofs.Parse.Moves
import CSubset.Proofs.Parse.Simulation
import CSubset.Proofs.Token.Lexical

/-!
# What the parser accepts

The parser goes on after an error, and what it makes of the tokens then need not be a statement. If the count of
reports is the same before and after, though, every token that was wanted was there, and the tokens that were taken are
the lexemes of a tree.
-/

namespace CSubset

namespace ParseState

/-! ## What a quiet step took -/

theorem exists_of_head?_any {ts : List Token} {want : String} (h : ts.head?.any (·.hasText want)) :
    ∃ t after, ts = t :: after ∧ t.lexeme = want := by
  cases ts with
  | nil => cases h
  | cons t after => exact ⟨t, after, rfl, by simpa [Token.hasText] using h⟩

theorem rest_of_takeUpTo {s : ParseState} {stop : Token → Bool} {t : Token} {after : List Token}
    (h : (s.takeUpTo stop).rest = t :: after) : s.rest = s.upTo stop ++ t :: after ∧ stop t := by
  have split : s.rest = s.upTo stop ++ s.rest.dropWhile (!stop ·) := (List.takeWhile_append_dropWhile ..).symm
  have left : s.rest.dropWhile (!stop ·) = t :: after := by
    rw [← h, rest_takeUpTo]
    nth_rewrite 2 [split]
    rw [List.drop_left]
  refine ⟨left ▸ split, ?_⟩
  have := List.head?_dropWhile_not (!stop ·) s.rest
  rw [left] at this
  simpa using this

def Reads (s s' : ParseState) (lexemes : List String) (d : Declared) : Prop :=
  (∃ toks, s.rest = toks ++ s'.rest ∧ toks.map Token.lexeme = lexemes) ∧ s'.symbols.Agrees d

theorem Reads.trans {s s' s'' : ParseState} {l l' : List String} {d d' : Declared} (h : Reads s s' l d)
    (h' : Reads s' s'' l' d') : Reads s s'' (l ++ l') d' := by
  obtain ⟨⟨toks, hrest, rfl⟩, -⟩ := h
  obtain ⟨⟨toks', hrest', rfl⟩, hd'⟩ := h'
  exact ⟨⟨toks ++ toks', by rw [hrest, hrest', List.append_assoc], List.map_append⟩, hd'⟩

theorem Reads.mem {s s' : ParseState} {l : List String} {d : Declared} (h : Reads s s' l d) {t : Token}
    (ht : t ∈ s'.rest) : t ∈ s.rest := by
  obtain ⟨⟨toks, hrest, -⟩, -⟩ := h
  rw [hrest]
  exact List.mem_append_right _ ht

theorem allowed_of_printed? {symbols : SymbolTable} {d : Declared} (hd : symbols.Agrees d) {c : Criteria} {a : Token}
    {more : List Token} (ha : c.Textual a) (h : (printed? c symbols a more).isSome) :
    more = [] ∧ (Stmt.print a.lexeme).Allowed d := by
  unfold printed? at h
  rw [ha.isStringLiteral, hd a.lexeme] at h
  by_cases alone : more = []
  · refine ⟨alone, ?_⟩
    by_cases quoted : isQuotedText a.lexeme
    · exact Or.inl quoted
    · exact Or.inr (by simpa [alone, quoted] using h)
  · simp [alone] at h

theorem exists_of_judge {c : Criteria} {s : ParseState} {parts : List Token}
    (quiet : (s.judge c parts).errors = s.errors) :
    parts = [] ∨ ∃ nm eq v more, parts = nm :: eq :: v :: more ∧ c.isWordlike nm ∧ eq.lexeme = "=" ∧
      s.symbols.contains nm.lexeme := by
  match parts with
  | [] => exact Or.inl rfl
  | [_] | [_, _] => simp [judge, isAssignment] at quiet
  | nm :: eq :: v :: more =>
    refine Or.inr ⟨nm, eq, v, more, rfl, ?_⟩
    unfold judge at quiet
    split at quiet
    · next h => cases h
    · next first rest h =>
      obtain ⟨rfl, rfl⟩ := List.cons.inj h
      split at quiet
      · next assignment =>
        split at quiet
        · next known =>
          simp only [isAssignment, Bool.and_eq_true] at assignment
          exact ⟨assignment.1, by simpa [Token.hasText] using assignment.2, known⟩
        · simp at quiet
      · simp at quiet

def Begins (d : Declared) (ts : List Token) : Prop :=
  ∃ (st : Stmt) (toks after : List Token), ts = toks ++ after ∧ toks.map Token.lexeme = st.lexemes ∧ st.Allowed d

section
variable {c : Criteria} {s : ParseState} {d : Declared} (hd : s.symbols.Agrees d)
include hd

theorem expect_reads (want : String)
    (quiet : (s.expect want).errors = s.errors) : Reads s (s.expect want) [want] d := by
  have present : s.rest.head?.any (·.hasText want) := by simpa using quiet
  obtain ⟨t, ts, h, ht⟩ := exists_of_head?_any present
  refine ⟨⟨[t], ?_, by rw [List.map_singleton, ht]⟩, by rwa [symbols_expect]⟩
  rw [rest_expect, h]
  rfl

theorem foldl_expect_reads (wants : List String)
    (quiet : (wants.foldl expect s).errors = s.errors) : Reads s (wants.foldl expect s) wants d := by
  induction wants generalizing s with
  | nil => exact ⟨⟨[], rfl, rfl⟩, hd⟩
  | cons want wants ih =>
    have first := (Moves.refl.expect (s := s) want).errors_le
    have others := (Moves.refl.foldl_expect (s := s.expect want) wants).errors_le
    rw [List.foldl_cons] at quiet
    have one := expect_reads hd want (by omega)
    exact one.trans (ih one.2 (by omega))

omit hd in
theorem begins_of_declaration (d : Declared) {ty : Token} {ts : List Token} (h : s.rest = ty :: ts)
    {type : DataType} (hty : ty.lexeme = type.name) (quiet : s.declaration.errors = s.errors) : Begins d s.rest := by
  cases ts with
  | nil => simp [declaration, h] at quiet
  | cons nm ts =>
    have hname := ofName?_eq_some.mpr hty
    by_cases given : ts.head?.any (·.hasText "=")
    · obtain ⟨eq, ts, rfl, heq⟩ := exists_of_head?_any given
      cases ts with
      | nil => simp [declaration, declarationEnd, h, hname, Token.hasText, heq] at quiet
      | cons v ts =>
        have : ts.head?.any (·.hasText ";") := by
          simpa [declaration, declarationEnd, h, hname, Token.hasText, heq] using quiet
        obtain ⟨semi, after, rfl, hsemi⟩ := exists_of_head?_any this
        exact ⟨.declare type nm.lexeme (some v.lexeme), [ty, nm, eq, v, semi], after, h,
          by simp [Stmt.lexemes, hty, heq, hsemi], trivial⟩
    · have : ts.head?.any (·.hasText ";") := by
        simpa [declaration, declarationEnd, h, hname, given] using quiet
      obtain ⟨semi, after, rfl, hsemi⟩ := exists_of_head?_any this
      exact ⟨.declare type nm.lexeme none, [ty, nm, semi], after, h, by simp [Stmt.lexemes, hty, hsemi], trivial⟩

theorem begins_of_printStatement {pr : Token} {ts : List Token} (h : s.rest = pr :: ts)
    (textual : ∀ t ∈ ts, c.Textual t) (hpr : pr.lexeme = "print")
    (quiet : (s.printStatement c).errors = s.errors) : Begins d s.rest := by
  cases ts with
  | nil => simp [printStatement, h, Nat.add_assoc] at quiet
  | cons op ts =>
    cases ts with
    | nil => simp [printStatement, h, Nat.add_assoc] at quiet
    | cons a ts =>
      have rest : (s.next.expect "(").rest = a :: ts := by simp [h]
      simp only [printStatement, cursor_peek, rest, List.head?_cons, symbols_takeUpTo, symbols_next, symbols_expect]
        at quiet
      by_cases found : (printed? c s.symbols a ((s.next.expect "(").next.upTo endsArgument)).isSome
      · -- the argument is alone, so the next two tokens are those that end the statement
        obtain ⟨more, allowed⟩ := allowed_of_printed? hd (textual a (by simp)) found
        rw [if_pos found] at quiet
        have wanted : op.lexeme = "(" ∧ ts.head?.any (·.hasText ")") ∧ ts.tail.head?.any (·.hasText ";") := by
          simpa [h, more, Nat.add_assoc, Token.hasText] using quiet
        obtain ⟨hop, closed, ended⟩ := wanted
        obtain ⟨cl, ts, rfl, hcl⟩ := exists_of_head?_any closed
        obtain ⟨semi, after, rfl, hsemi⟩ := exists_of_head?_any ended
        exact ⟨.print a.lexeme, [pr, op, a, cl, semi], after, h, by simp [Stmt.lexemes, hpr, hop, hcl, hsemi], allowed⟩
      · rw [if_neg found] at quiet
        simp [Nat.add_assoc] at quiet

theorem begins_of_returnZero (quiet : s.returnZero.errors = s.errors) : Begins d s.rest := by
  rw [returnZero, errors_note] at quiet
  obtain ⟨⟨toks, rest, lexemes⟩, -⟩ := foldl_expect_reads hd ["return", "0", ";"] quiet
  exact ⟨.returnZero, toks, _, rest, lexemes, trivial⟩

theorem begins_of_otherStatement {first : Token} {ts : List Token} (h : s.rest = first :: ts) (hc : c.Textual first)
    (other : first.lexeme ∉ ["int", "float", "bool", "string", "print"])
    (quiet : (s.otherStatement c).errors = s.errors) : Begins d s.rest := by
  have judged : s.errors ≤ ((s.takeUpTo isTerminator).judge c (s.upTo isTerminator)).errors :=
    (judge_moves c (Moves.refl.takeUpTo isTerminator) (List.takeWhile_subset _)).errors_le
  unfold otherStatement at quiet
  cases rest : (s.takeUpTo isTerminator).rest with
  | nil =>
    -- the input ended before a semicolon came, which is reported
    simp [rest] at quiet judged
    omega
  | cons semi after =>
    obtain ⟨split, stops⟩ := rest_of_takeUpTo rest
    have hsemi : semi.lexeme = ";" := by simpa [isTerminator, Token.hasText] using stops
    have inside : ∀ t ∈ s.upTo isTerminator, t.lexeme ≠ ";" := by
      intro t ht
      simpa [isTerminator, Token.hasText] using List.mem_takeWhile_imp ht
    have accepted : ((s.takeUpTo isTerminator).next.judge c (s.upTo isTerminator)).errors =
        (s.takeUpTo isTerminator).next.errors := by
      simpa [-rest_takeUpTo, rest] using quiet
    rcases exists_of_judge accepted with none | ⟨nm, eq, v, more, parts, word, heq, known⟩
    · rw [none] at split
      exact ⟨.empty, [semi], after, split, by simp [Stmt.lexemes, hsemi], trivial⟩
    · rw [parts] at split inside
      obtain ⟨rfl, -⟩ := List.cons.inj (h.symm.trans split)
      rw [hc.isWordlike] at word
      rw [SymbolTable.contains_eq_isSome_lookup, symbols_next, symbols_takeUpTo, hd] at known
      refine ⟨.assign first.lexeme v.lexeme (more.map Token.lexeme), first :: eq :: v :: (more ++ [semi]), after,
        by rw [split]; simp, by simp [Stmt.lexemes, heq, hsemi], word, known, other, ?_⟩
      rw [← List.map_cons]
      intro mem
      obtain ⟨t, ht, hsemi⟩ := List.mem_map.mp mem
      exact inside t (List.mem_cons_of_mem _ (List.mem_cons_of_mem _ ht)) hsemi

theorem begins_of_statement {first : Token} {ts : List Token} (h : s.rest = first :: ts)
    (textual : ∀ t ∈ s.rest, c.Textual t) (quiet : (s.statement c first).errors = s.errors) : Begins d s.rest := by
  rw [h] at textual
  have hc := textual first List.mem_cons_self
  rw [statement_eq hc] at quiet
  by_cases typed : (DataType.ofName? first.lexeme).isSome
  · rw [if_pos typed] at quiet
    obtain ⟨type, htype⟩ := Option.isSome_iff_exists.mp typed
    exact begins_of_declaration d h (ofName?_eq_some.mp htype) quiet
  rw [if_neg typed] at quiet
  by_cases printed : first.hasText "print"
  · rw [if_pos printed] at quiet
    exact begins_of_printStatement hd h (fun t ht => textual t (List.mem_cons_of_mem _ ht))
      (by simpa [Token.hasText] using printed) quiet
  rw [if_neg printed] at quiet
  have other : first.lexeme ∉ ["int", "float", "bool", "string", "print"] :=
    starts_other_iff.mpr ⟨by simpa using typed, by simpa [Token.hasText] using printed⟩
  split at quiet
  · split at quiet
    · exact begins_of_returnZero (s := s.peekSecond) hd (by simpa using quiet)
    · exact begins_of_otherStatement (s := s.peekSecond) hd h hc other (by simpa using quiet)
  · exact begins_of_otherStatement hd h hc other quiet

theorem statement_reads {first : Token} {ts : List Token} (h : s.rest = first :: ts)
    (textual : ∀ t ∈ s.rest, c.Textual t) (quiet : (s.statement c first).errors = s.errors) :
    ∃ st : Stmt, st.Allowed d ∧ Reads s (s.statement c first) st.lexemes (st.declares d) := by
  obtain ⟨st, toks, after, split, lexemes, allowed⟩ := begins_of_statement hd h textual quiet
  obtain ⟨w, ws, hw, -⟩ := Stmt.lexemes_eq_cons allowed
  obtain ⟨t, toks, rfl, -, -⟩ := List.map_eq_cons_iff.mp (lexemes.trans hw)
  obtain ⟨rfl, -⟩ := List.cons.inj (h.symm.trans split)
  rw [split] at textual
  have q := statement_quiet (c := c) hd allowed split (fun t ht => textual t (List.mem_append_left _ ht)) lexemes
  exact ⟨st, allowed, ⟨first :: toks, by rw [q.rest, split], lexemes⟩, q.declared⟩

theorem body_reads (textual : ∀ t ∈ s.rest, c.Textual t)
    (quiet : (s.body c).errors = s.errors) :
    ∃ b : Block, b.Allowed d ∧ Reads s (s.body c) (b.flatMap Stmt.lexemes) (b.declares d) := by
  fun_induction body c s generalizing d with
  | case1 s h => exact ⟨[], trivial, ⟨[], rfl, rfl⟩, hd⟩
  | case2 s t ts h _ => exact ⟨[], trivial, ⟨[], rfl, rfl⟩, hd⟩
  | case3 s t ts h _ ih =>
    have first := (statement_moves c t s.peek).errors_le
    have others := (body_moves c (s.peek.statement c t)).errors_le
    rw [errors_peek] at first
    -- the count does not go down, so neither the statement nor what follows it can have raised it
    obtain ⟨st, allowed, one⟩ := statement_reads (s := s.peek) (c := c) hd h textual (by rw [errors_peek]; omega)
    obtain ⟨b, allowed', more⟩ := ih one.2 (fun t ht => textual t (one.mem ht)) (by omega)
    exact ⟨st :: b, ⟨allowed, allowed'⟩, one.trans more⟩

theorem mainFunction_reads (textual : ∀ t ∈ s.rest, c.Textual t)
    (quiet : (s.mainFunction c).errors = s.errors) :
    ∃ b : Block, b.Allowed d ∧ Reads s (s.mainFunction c) b.lexemes (b.declares d) := by
  have opening := (opened_moves s).errors_le
  have inside := (body_moves c s.opened).errors_le
  have closing := (Moves.refl.expect (s := s.opened.body c) "\x7d").errors_le
  rw [mainFunction_eq, errors_note, errors_emit] at quiet
  have start : Reads s s.opened ["main", "(", ")", "\x7b"] d := by
    have : s.opened.errors = s.errors := by omega
    unfold opened at this
    rw [errors_emit, errors_note] at this
    exact foldl_expect_reads hd _ this
  obtain ⟨b, allowed, middle⟩ := body_reads (c := c) start.2 (fun t ht => textual t (start.mem ht)) (by omega)
  have stop := expect_reads middle.2 "\x7d" (by omega)
  exact ⟨b, allowed, (start.trans middle).trans stop⟩

theorem functions_reads (textual : ∀ t ∈ s.rest, c.Textual t)
    (quiet : (s.functions c).errors = s.errors) :
    ∃ p : Program, p.Allowed d ∧ s.rest.map Token.lexeme = p.lexemes := by
  fun_induction functions c s generalizing d with
  | case1 s h => exact ⟨[], trivial, by rw [h]; rfl⟩
  | case2 s t ts h _ ih =>
    have first := (mainFunction_moves c s.peek).errors_le
    have others := (functions_moves c (s.peek.mainFunction c)).errors_le
    rw [errors_peek] at first
    obtain ⟨b, allowed, one⟩ := mainFunction_reads (s := s.peek) (c := c) hd textual (by rw [errors_peek]; omega)
    obtain ⟨p, allowed', more⟩ := ih one.2 (fun t ht => textual t (one.mem ht)) (by omega)
    obtain ⟨⟨toks, rest, lexemes⟩, -⟩ := one
    refine ⟨b :: p, (Program.allowed_cons d b p).mpr ⟨allowed, allowed'⟩, ?_⟩
    rw [rest_peek] at rest
    rw [rest, List.map_append, lexemes, more]
    rfl
  | case3 s t ts h _ ih =>
    have := (functions_moves c (s.peek.report (.tokenOutsideMain t.lexeme) t.span).next).errors_le
    rw [quiet, errors_next, errors_report, errors_peek] at this
    omega

end

end ParseState

open ParseState in
theorem parse_diagnostics_eq_nil_iff {tokens : List Token} (textual : ∀ t ∈ tokens, Criteria.byClass.Textual t) :
    (parse tokens).diagnostics = [] ↔ IsProgram (tokens.map Token.lexeme) := by
  constructor
  · intro h
    have quiet : (functions .byClass ((ofTokens tokens).emit .header)).errors =
        ((ofTokens tokens).emit .header).errors := by
      have none : (functions .byClass ((ofTokens tokens).emit .header)).diagnostics = [] := by
        simpa only [parse, program, diagnostics_note] using h
      unfold errors
      rw [none, diagnostics_emit]
      rfl
    obtain ⟨p, allowed, lexemes⟩ :=
      functions_reads (s := (ofTokens tokens).emit .header) SymbolTable.agrees_empty textual quiet
    exact ⟨p, allowed, lexemes.symm⟩
  · rintro ⟨p, allowed, lexemes⟩
    rw [(parse_quiet allowed textual lexemes.symm).diagnostics]
    rfl

/-! ## Sources -/

theorem scanned_diagnostics_code {limit : Nat} {source : String} {d : Diagnostic}
    (hd : d ∈ (scanned limit source).diagnostics limit) : d.code = Code.tooManyTokens := by
  unfold Scan.diagnostics at hd
  split at hd
  · cases hd
  · rw [List.mem_singleton.mp hd]
    rfl

section
variable (layout : Layout) (limit : Nat) (source : String)

theorem compile_yields :
    Yields (compile layout limit source) source.utf8ByteSize (.ofScan layout limit (scanned limit source)) :=
  (scan_yields limit source).bind (Yields.ok _ source.utf8ByteSize) (Nat.le_refl _) (Nat.le_refl _)

variable {layout limit source} in
theorem scan_of_compile {r : Compilation} (run : compile layout limit source = .ok r) :
    scan limit source = .ok (scanned limit source) := by
  rcases scan_yields limit source with h | ⟨-, f, h⟩
  · exact h
  · unfold compile at run
    rw [h] at run
    cases run

theorem textual_of_mem_scanned {t : Token} (h : t ∈ (scanned limit source).tokens) : Criteria.byClass.Textual t :=
  textual_byClass (kind_of_mem_placed h)

theorem scanned_diagnostics_eq_nil_iff :
    (scanned limit source).diagnostics limit = [] ↔ (lexemes source).length ≤ tokenLimit limit := by
  rw [← scanned_excess_eq_none]
  unfold Scan.diagnostics
  split
  · next h => simp [h]
  · next h => simp [h]

theorem lexemes_of_within (within : (lexemes source).length ≤ tokenLimit limit) :
    (scanned limit source).tokens.map Token.lexeme = lexemes source := by
  rw [map_lexeme_scanned, List.take_of_length_le within]

/-- **The language.** Nothing is reported about the programs within the token limit, and something about every other
text. -/
theorem compile_accepts_iff (short : source.utf8ByteSize < 4294967295) :
    ∃ r words, compile layout limit source = .ok r ∧ LexemesOf source words ∧
      (r.diagnostics = [] ↔ words.length ≤ min limit Limits.current.maxTokenCount ∧ IsProgram words) := by
  refine ⟨_, _, (compile_yields layout limit source).eq_ok short, lexemesOf_iff.mpr rfl, ?_⟩
  have parsed := parse_diagnostics_eq_nil_iff fun t ht => textual_of_mem_scanned limit source ht
  change (scanned limit source).diagnostics limit ++ (parse (scanned limit source).tokens).diagnostics = [] ↔ _
  rw [List.append_eq_nil_iff, scanned_diagnostics_eq_nil_iff, parsed]
  refine and_congr_right fun within => ?_
  rw [lexemes_of_within limit source within]

end

theorem compile_accepts_keyword_name :
    "main()\x7bint return; return = \x7d; print(return); return 0;\x7d".utf8ByteSize < 4294967295 ∧
      ∃ r, compile ⟨4, true⟩ 100 "main()\x7bint return; return = \x7d; print(return); return 0;\x7d" = .ok r ∧
        r.diagnostics = [] := by
  have tree : IsProgram (lexemes "main()\x7bint return; return = \x7d; print(return); return 0;\x7d") :=
    ⟨[[.declare .int "return" none, .assign "return" "\x7d" [], .print "return", .returnZero]], by decide, by decide⟩
  obtain ⟨r, words, run, read, accepted⟩ :=
    compile_accepts_iff ⟨4, true⟩ 100 "main()\x7bint return; return = \x7d; print(return); return 0;\x7d" (by decide)
  cases lexemesOf_iff.mp read
  exact ⟨by decide, r, run, accepted.mpr ⟨by decide, tree⟩⟩

end CSubset
