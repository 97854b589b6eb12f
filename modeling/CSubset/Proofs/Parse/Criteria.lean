import CSubset.Proofs.Parse.Acceptance

/-!
# Classes and texts

The parser asks for the class of a token. If it compared texts in place of that, it would do the same, step by step, on
every list of tokens whose classes follow from their texts. So a token that starts a declaration always names a type,
and the branch for unknown types is never taken (`compile_by_text`).
-/

namespace CSubset

/-! ## Comparing texts -/

structure Criteria.ComparesText (c : Criteria) : Prop where
  isKeyword : ∀ k t, c.isKeyword k t ↔ t.lexeme = k.text
  isTypeName : ∀ t, c.isTypeName t ↔ ∃ type : DataType, t.lexeme = type.name
  isStringLiteral : ∀ t, c.isStringLiteral t ↔
    2 ≤ t.lexeme.utf8ByteSize ∧ t.lexeme.toList.head? = some '"' ∧ t.lexeme.toList.getLast? = some '"'
  isWordlike : ∀ t, c.isWordlike t ↔ t.lexeme ≠ "" ∧ ∀ x ∈ t.lexeme.toList, isWordChar x

theorem isQuotedText_iff_bytes {text : String} :
    isQuotedText text ↔
      2 ≤ text.utf8ByteSize ∧ text.toList.head? = some '"' ∧ text.toList.getLast? = some '"' := by
  unfold isQuotedText
  simp only [Bool.and_eq_true, decide_eq_true_eq, beq_iff_eq, and_assoc, utf8ByteSize_eq]
  constructor
  · rintro ⟨two, ends⟩
    exact ⟨Nat.le_trans two (length_le_byteLength _), ends⟩
  · rintro ⟨two, first, last⟩
    refine ⟨?_, first, last⟩
    obtain ⟨cs, text⟩ := List.head?_eq_some_iff.mp first
    rw [text] at two ⊢
    cases cs with
    | nil => exact absurd two (by decide)
    | cons c cs => simp

theorem Criteria.ComparesText.textual {c : Criteria} (h : c.ComparesText) (t : Token) : c.Textual t where
  isKeyword k := by rw [Bool.eq_iff_iff, h.isKeyword, Token.hasText, beq_iff_eq]
  isTypeName := by
    rw [Bool.eq_iff_iff, h.isTypeName, Option.isSome_iff_exists]
    exact exists_congr fun _ => ofName?_eq_some.symm
  isStringLiteral := by rw [Bool.eq_iff_iff, h.isStringLiteral, isQuotedText_iff_bytes]
  isWordlike := by
    rw [Bool.eq_iff_iff, h.isWordlike, isWordText_iff]
    simp

theorem comparesText_byText : Criteria.byText.ComparesText where
  isKeyword k t := by simp [Criteria.byText, Token.hasText]
  isTypeName t := Option.isSome_iff_exists.trans (exists_congr fun _ => ofName?_eq_some)
  isStringLiteral t := isQuotedText_iff_bytes
  isWordlike t := by
    change isWordText t.lexeme ↔ _
    rw [isWordText_iff]
    simp

namespace ParseState

/-! ## The same answers, the same run -/

section
variable {c c' : Criteria}

theorem isAssignment_congr {parts : List Token} (h : ∀ t ∈ parts, c.Textual t) (h' : ∀ t ∈ parts, c'.Textual t) :
    isAssignment c parts = isAssignment c' parts := by
  match parts with
  | [] | [_] | [_, _] => rfl
  | name :: eq :: value :: more =>
    change (c.isWordlike name && _) = (c'.isWordlike name && _)
    rw [(h name List.mem_cons_self).isWordlike, (h' name List.mem_cons_self).isWordlike]

theorem judge_congr (s : ParseState) {parts : List Token} (h : ∀ t ∈ parts, c.Textual t)
    (h' : ∀ t ∈ parts, c'.Textual t) : s.judge c parts = s.judge c' parts := by
  unfold judge
  rw [isAssignment_congr h h']

variable {s : ParseState} (h : ∀ t ∈ s.rest, c.Textual t) (h' : ∀ t ∈ s.rest, c'.Textual t)
include h h'

theorem otherStatement_congr : s.otherStatement c = s.otherStatement c' := by
  have parts : s.upTo isTerminator ⊆ s.rest := List.takeWhile_subset _
  have same := fun s' : ParseState => judge_congr s' (fun t ht => h t (parts ht)) fun t ht => h' t (parts ht)
  unfold otherStatement
  simp only [same]

theorem printStatement_congr : s.printStatement c = s.printStatement c' := by
  unfold printStatement
  dsimp only
  rw [cursor_peek]
  cases head : (s.next.expect "(").rest.head? with
  | none => rfl
  | some first =>
    have mem : first ∈ s.rest := by
      apply (List.tail_suffix s.rest).subset
      apply (List.tail_suffix s.rest.tail).subset
      have := List.mem_of_head? head
      rwa [rest_expect, rest_next] at this
    have same : ∀ symbols more, printed? c symbols first more = printed? c' symbols first more := by
      intro symbols more
      unfold printed?
      rw [(h first mem).isStringLiteral, (h' first mem).isStringLiteral]
    simp only [same]

theorem statement_congr {first : Token} (mem : first ∈ s.rest) : s.statement c first = s.statement c' first := by
  rw [statement_eq (h first mem), statement_eq (h' first mem), printStatement_congr h h', otherStatement_congr h h',
    otherStatement_congr (s := s.peekSecond) h h']

theorem body_congr : s.body c = s.body c' := by
  induction s using ParseState.body.induct c with
  | case1 s rest => rw [body_of_nil rest, body_of_nil rest]
  | case2 s t ts rest close =>
    have brace : t.lexeme = "\x7d" := by simpa [Token.hasText] using close
    rw [body_of_close rest brace, body_of_close rest brace]
  | case3 s t ts rest inside ih =>
    have other : t.lexeme ≠ "\x7d" := by simpa [Token.hasText] using inside
    have first : t ∈ s.peek.rest := by
      rw [rest_peek, rest]
      exact List.mem_cons_self
    have left := ((statement_rest c t s.peek).trans (List.tail_suffix _)).subset
    have same := ih (fun u hu => h u (left hu)) fun u hu => h' u (left hu)
    rw [body_of_statement rest other, body_of_statement rest other, same, statement_congr (s := s.peek) h h' first]

theorem mainFunction_congr : s.mainFunction c = s.mainFunction c' := by
  have left := (opened_moves s).rest_suffix.subset
  rw [mainFunction_eq, mainFunction_eq, body_congr (fun t ht => h t (left ht)) fun t ht => h' t (left ht)]

theorem functions_congr : s.functions c = s.functions c' := by
  induction s using ParseState.functions.induct c with
  | case1 s rest => rw [functions_of_nil rest, functions_of_nil rest]
  | case2 s t ts rest starts ih =>
    have first : t ∈ s.rest := by
      rw [rest]
      exact List.mem_cons_self
    have main : t.lexeme = "main" := by
      rw [(h t first).isKeyword, Token.hasText, beq_iff_eq] at starts
      exact starts
    have left := ((mainFunction_rest c s.peek).trans (List.tail_suffix _)).subset
    have same := ih (fun u hu => h u (left hu)) fun u hu => h' u (left hu)
    rw [functions_of_cons rest (h t first), functions_of_cons rest (h' t first), if_pos main, if_pos main, same,
      mainFunction_congr (s := s.peek) h h']
  | case3 s t ts rest other ih =>
    have first : t ∈ s.rest := by
      rw [rest]
      exact List.mem_cons_self
    have outside : t.lexeme ≠ "main" := by
      rw [(h t first).isKeyword, Token.hasText, beq_iff_eq] at other
      exact other
    have left : (s.peek.report (.tokenOutsideMain t.lexeme) t.span).next.rest ⊆ s.rest := by
      rw [rest_next]
      exact (List.tail_suffix s.rest).subset
    have same := ih (fun u hu => h u (left hu)) fun u hu => h' u (left hu)
    rw [functions_of_cons rest (h t first), functions_of_cons rest (h' t first), if_neg outside, if_neg outside, same]

theorem program_congr : s.program c = s.program c' := by
  unfold program
  rw [functions_congr (s := s.emit .header) h h']

end

end ParseState

/-! ## No type is unknown -/

def Step.TypeKnown : Step → Prop
  | .report d => ∀ name, d.cause ≠ .unknownType name
  | .emit f => ∀ name, f ≠ .statement (.declare name .unknown)
  | _ => True

namespace ParseState

def TypesKnown (s : ParseState) : Prop := ∀ step ∈ s.journal, step.TypeKnown

theorem mismatch_ne (want : String) (found : Option Token) (name : String) : mismatch want found ≠ .unknownType name := by
  unfold mismatch
  split
  · intro h
    cases h
  · split
    · intro h
      cases h
    · intro h
      cases h

namespace TypesKnown

section
variable {s : ParseState} (k : s.TypesKnown)
include k

theorem log {step : Step} (h : step.TypeKnown) : (s.log step).TypesKnown := by
  intro x hx
  rcases List.mem_cons.mp hx with rfl | hx
  · exact h
  · exact k x hx

theorem next : s.next.TypesKnown := by
  have logged : (s.log (.next s.cursor.peek)).TypesKnown := k.log trivial
  exact logged

theorem peek : s.peek.TypesKnown := k.log trivial

theorem note (text : String) : (s.note text).TypesKnown := k.log trivial

theorem report {cause : Cause} (h : ∀ name, cause ≠ .unknownType name) (span : Option Span) :
    (s.report cause span).TypesKnown := k.log h

theorem emit {f : Fragment} (h : ∀ name, f ≠ .statement (.declare name .unknown)) : (s.emit f).TypesKnown := k.log h

theorem declare (name : String) (type : DataType) (span : Span) : (s.declare name type span).TypesKnown := k

theorem expect (want : String) : (s.expect want).TypesKnown := by
  unfold ParseState.expect
  split
  · exact k.next
  · exact k.next.report (mismatch_ne want _) _

theorem takeUpTo (stop : Token → Bool) : (s.takeUpTo stop).TypesKnown := by
  unfold ParseState.takeUpTo
  apply peek
  generalize s.upTo stop = ts
  induction ts generalizing s with
  | nil => exact k
  | cons t ts ih => exact ih k.peek.next

/-- The only place where the parser may find a type unknown. -/
theorem declarationEnd {type : Token} (known : (DataType.ofName? type.lexeme).isSome) (name : Token) :
    (s.declarationEnd type name).TypesKnown := by
  unfold ParseState.declarationEnd
  dsimp only
  split
  · split
    · exact k.peek.next.next.report (by simp) none
    · exact ((k.peek.next.next.expect ";").note _).emit (by simp)
  · split
    · exact ((k.peek.expect ";").note _).emit (by simp)
    · next none =>
      rw [none] at known
      cases known

theorem declaration {type : Token} (first : s.rest.head? = some type) (known : (DataType.ofName? type.lexeme).isSome) :
    s.declaration.TypesKnown := by
  unfold ParseState.declaration
  rw [cursor_peek, first]
  dsimp only
  split
  · exact k.next.next.report (by simp) none
  · split
    · exact (k.next.next.declare _ _ _).declarationEnd known _
    · exact k.next.next.declarationEnd known _

theorem printStatement (c : Criteria) : (s.printStatement c).TypesKnown := by
  have opened := k.next.expect "("
  unfold ParseState.printStatement
  dsimp only
  split
  · exact opened.next.report (by simp) none
  · have taken := opened.next.takeUpTo endsArgument
    split
    · exact (((taken.expect ")").expect ";").note _).emit (by simp)
    · exact ((((taken.report (by simp) _).expect ")").expect ";").note _).emit (by simp)

theorem judge (c : Criteria) (parts : List Token) : (s.judge c parts).TypesKnown := by
  unfold ParseState.judge
  split
  · exact k
  · split
    · split
      · exact (k.note _).emit (by simp)
      · exact k.report (by simp) _
    · exact k.report (by simp) _

theorem otherStatement (c : Criteria) : (s.otherStatement c).TypesKnown := by
  have taken := k.takeUpTo isTerminator
  unfold ParseState.otherStatement
  dsimp only
  split
  · exact (taken.judge c _).report (by simp) none
  · exact taken.next.judge c _

theorem statement {c : Criteria} {first : Token} (hc : c.Textual first) (head : s.rest.head? = some first) :
    (s.statement c first).TypesKnown := by
  have looked : s.peekSecond.TypesKnown := k.log trivial
  rw [statement_eq hc]
  split
  · next known => exact k.declaration head known
  · split
    · exact k.printStatement c
    · split
      · split
        · exact (((looked.expect "return").expect "0").expect ";").note _
        · exact looked.otherStatement c
      · exact k.otherStatement c

end

theorem body {c : Criteria} {s : ParseState} (k : s.TypesKnown) (h : ∀ t ∈ s.rest, c.Textual t) :
    (s.body c).TypesKnown := by
  fun_induction ParseState.body c s with
  | case1 s rest => exact k.peek
  | case2 s t ts rest _ => exact k.peek
  | case3 s t ts rest _ ih =>
    have left := ((statement_rest c t s.peek).trans (List.tail_suffix _)).subset
    apply ih
    · apply k.peek.statement (h t (by rw [rest]; exact List.mem_cons_self))
      rw [rest_peek, rest]
      rfl
    · intro u hu
      exact h u (left hu)

theorem mainFunction {c : Criteria} {s : ParseState} (k : s.TypesKnown) (h : ∀ t ∈ s.rest, c.Textual t) :
    (s.mainFunction c).TypesKnown := by
  have left := (opened_moves s).rest_suffix.subset
  have opened : s.opened.TypesKnown := (((((k.expect _).expect _).expect _).expect _).note _).emit (by simp)
  rw [mainFunction_eq]
  exact (((opened.body fun t ht => h t (left ht)).expect _).emit (by simp)).note _

theorem functions {c : Criteria} {s : ParseState} (k : s.TypesKnown) (h : ∀ t ∈ s.rest, c.Textual t) :
    (s.functions c).TypesKnown := by
  fun_induction ParseState.functions c s with
  | case1 s rest => exact k.peek
  | case2 s t ts rest _ ih =>
    have left := ((mainFunction_rest c s.peek).trans (List.tail_suffix _)).subset
    exact ih (k.peek.mainFunction h) fun u hu => h u (left hu)
  | case3 s t ts rest _ ih =>
    apply ih
    · exact (k.peek.report (by simp) _).next
    · intro u hu
      rw [rest_next] at hu
      exact h u ((List.tail_suffix _).subset hu)

end TypesKnown

end ParseState

theorem parse_typesKnown {tokens : List Token} (h : ∀ t ∈ tokens, Criteria.byClass.Textual t) :
    (parse tokens).TypesKnown := by
  have start : (ParseState.ofTokens tokens).TypesKnown := by
    intro step hstep
    cases hstep
  exact ((start.emit (by simp)).functions h).note _

theorem Diagnostic.exists_of_code {d : Diagnostic} (h : d.code = "E053") : ∃ name, d.cause = .unknownType name := by
  obtain ⟨cause, position, span⟩ := d
  cases cause with
  | unknownType name => exact ⟨name, rfl⟩
  | _ => exact absurd h (of_decide_eq_false rfl)

theorem code_ne_of_typesKnown {s : ParseState} (k : s.TypesKnown) {d : Diagnostic} (hd : d ∈ s.diagnostics) :
    d.code ≠ "E053" := by
  intro unknown
  obtain ⟨name, cause⟩ := Diagnostic.exists_of_code unknown
  obtain ⟨step, mem, reported⟩ := List.mem_filterMap.mp hd
  cases step with
  | report e =>
    cases Option.some.inj reported
    exact k _ (List.mem_reverse.mp mem) name cause
  | _ => cases reported

theorem unknown_notMem_of_typesKnown {s : ParseState} (k : s.TypesKnown) (name : String) :
    Fragment.statement (.declare name .unknown) ∉ s.fragments := by
  intro hf
  obtain ⟨step, mem, put⟩ := List.mem_filterMap.mp hf
  cases step with
  | emit f => exact k _ (List.mem_reverse.mp mem) name (Option.some.inj put)
  | _ => cases put

/-- **Classes and texts.** On the tokens of any source a parser that compares texts goes through the same states as the
one that looks at classes, so output, diagnostics, trace and symbols are the same. No type is ever reported as unknown,
and no declaration has an unknown value. -/
theorem compile_by_text (limit : Nat) (source : String) :
    (source.utf8ByteSize < 4294967295 → ∃ s, scan limit source = .ok s) ∧
    ∀ s, scan limit source = .ok s →
      (∀ c : Criteria, c.ComparesText → (ParseState.ofTokens s.tokens).program c = parse s.tokens) ∧
      (∀ name, Fragment.statement (.declare name .unknown) ∉ (parse s.tokens).fragments) ∧
      ∀ layout, ∃ r, compile layout limit source = .ok r ∧ ∀ d ∈ r.diagnostics, d.code ≠ "E053" := by
  refine ⟨fun short => ⟨_, (scan_yields limit source).eq_ok short⟩, ?_⟩
  intro s run
  cases (scan_yields limit source).eq_of_ok run
  have byClass : ∀ t ∈ (scanned limit source).tokens, Criteria.byClass.Textual t :=
    fun t ht => textual_of_mem_scanned limit source ht
  have known := parse_typesKnown byClass
  refine ⟨?_, unknown_notMem_of_typesKnown known, ?_⟩
  · intro c compares
    exact ParseState.program_congr (s := .ofTokens _) (fun t _ => compares.textual t) byClass
  · intro layout
    refine ⟨.ofScan layout limit (scanned limit source), ?_, ?_⟩
    · unfold compile
      rw [run]
      rfl
    · intro d hd
      rcases List.mem_append.mp hd with excess | parsed
      · rw [scanned_diagnostics_code excess]
        decide
      · exact code_ne_of_typesKnown known parsed

theorem compile_by_text_keyword_name : Criteria.byText.ComparesText ∧
    ∃ s r, scan 40 "main()\x7bint return=\"int\"; print(return); \"=0" = .ok s ∧
      (ParseState.ofTokens s.tokens).program .byText = parse s.tokens ∧
      compile ⟨4, true⟩ 40 "main()\x7bint return=\"int\"; print(return); \"=0" = .ok r ∧
      ∀ d ∈ r.diagnostics, d.code ≠ "E053" := by
  obtain ⟨returns, result⟩ := compile_by_text 40 "main()\x7bint return=\"int\"; print(return); \"=0"
  obtain ⟨s, run⟩ := returns (by decide)
  obtain ⟨same, -, compiled⟩ := result s run
  obtain ⟨r, compilation, known⟩ := compiled ⟨4, true⟩
  exact ⟨comparesText_byText, s, r, run, same _ comparesText_byText, compilation, known⟩

end CSubset
