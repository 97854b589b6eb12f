import CSubset.Proofs.Parse.Journal
import CSubset.Proofs.Symbol
import CSubset.Proofs.Token.Class

/-!
# The parser follows the tree of a program

On the lexemes of a tree the parser takes the tokens of one statement after the other, reports nothing, puts out what
the tree says, and declares what the tree declares.
-/

namespace CSubset

/-! ## What a tree puts out -/

def printedAs (d : Declared) (argument : String) : Printed :=
  if isQuotedText argument then .literal argument
  else match d.lookup argument with
    | some type => .named argument type
    | none => .raw argument

def Stmt.output (d : Declared) : Stmt → List Fragment
  | declare type name none => [.statement (.declare name (.default type))]
  | declare _ name (some value) => [.statement (.declare name (.given value))]
  | print argument => [.statement (.print (printedAs d argument))]
  | returnZero | empty => []
  | assign name first more => [.statement (.assign name (" ".intercalate (first :: more)))]

def Block.output (d : Declared) : Block → List Fragment
  | [] => []
  | st :: b => st.output d ++ output (st.declares d) b

def Program.output (d : Declared) : Program → List Fragment
  | [] => []
  | b :: p => .openMain :: (Block.output d b ++ .closeMain :: output (b.declares d) p)

/-! ## Type names -/

theorem ofName?_name (type : DataType) : DataType.ofName? type.name = some type := by cases type <;> rfl

theorem ofName?_eq_some {name : String} {type : DataType} : DataType.ofName? name = some type ↔ name = type.name := by
  constructor
  · intro h
    obtain ⟨k, hk, h⟩ := Option.bind_eq_some_iff.mp h
    rw [ofText?_eq_some.mp hk]
    cases k <;> cases h <;> rfl
  · rintro rfl
    exact ofName?_name type

theorem starts_other_iff {name : String} :
    name ∉ ["int", "float", "bool", "string", "print"] ↔ DataType.ofName? name = none ∧ name ≠ "print" := by
  constructor
  · intro h
    constructor
    · refine Option.eq_none_iff_forall_ne_some.mpr fun type ht => h ?_
      rw [ofName?_eq_some.mp ht]
      cases type <;> decide
    · rintro rfl
      exact h (by decide)
  · rintro ⟨noType, noPrint⟩ mem
    simp only [List.mem_cons, List.not_mem_nil, or_false] at mem
    rcases mem with rfl | rfl | rfl | rfl | rfl
    · exact absurd noType (by decide)
    · exact absurd noType (by decide)
    · exact absurd noType (by decide)
    · exact absurd noType (by decide)
    · exact noPrint rfl

namespace ParseState

/-- On its way from `s` to `s'` the parser passed everything before `after` without a report. -/
structure Quiet (s s' : ParseState) (after : List Token) (out : List Fragment) (d : Declared) : Prop where
  rest : s'.rest = after
  diagnostics : s'.diagnostics = s.diagnostics
  fragments : s'.fragments = s.fragments ++ out
  declared : s'.symbols.Agrees d

namespace Quiet

section
variable {s s' : ParseState} {t : Token} {after : List Token} {out : List Fragment} {d : Declared}

theorem refl (hd : s.symbols.Agrees d) (h : s.rest = after) : Quiet s s after [] d := ⟨h, rfl, by simp, hd⟩

theorem peek (q : Quiet s s' after out d) : Quiet s s'.peek after out d :=
  ⟨q.rest, by rw [diagnostics_peek, q.diagnostics], by rw [fragments_peek, q.fragments], q.declared⟩

theorem peekSecond (q : Quiet s s' after out d) : Quiet s s'.peekSecond after out d :=
  ⟨q.rest, by rw [diagnostics_peekSecond, q.diagnostics], by rw [fragments_peekSecond, q.fragments], q.declared⟩

theorem note (q : Quiet s s' after out d) (text : String) : Quiet s (s'.note text) after out d :=
  ⟨q.rest, by rw [diagnostics_note, q.diagnostics], by rw [fragments_note, q.fragments], q.declared⟩

theorem emit (q : Quiet s s' after out d) (f : Fragment) : Quiet s (s'.emit f) after (out ++ [f]) d :=
  ⟨q.rest, by rw [diagnostics_emit, q.diagnostics], by rw [fragments_emit, q.fragments, List.append_assoc], q.declared⟩

theorem next (q : Quiet s s' (t :: after) out d) : Quiet s s'.next after out d :=
  ⟨by rw [rest_next, q.rest]; rfl, by rw [diagnostics_next, q.diagnostics], by rw [fragments_next, q.fragments],
    q.declared⟩

theorem expect (q : Quiet s s' (t :: after) out d) {want : String} (ht : t.lexeme = want) :
    Quiet s (s'.expect want) after out d := by
  rw [expect_of_hasText q.rest ht]
  exact q.next

theorem declare (q : Quiet s s' after out d) (name : String) (type : DataType) (span : Span) :
    Quiet s (s'.declare name type span) after out ((name, type) :: d) :=
  ⟨q.rest, q.diagnostics, q.fragments, q.declared.declare name type span⟩

end

theorem trans {s s' s'' : ParseState} {after after' : List Token} {out out' : List Fragment} {d d' : Declared}
    (q : Quiet s s' after out d) (q' : Quiet s' s'' after' out' d') : Quiet s s'' after' (out ++ out') d' :=
  ⟨q'.rest, q'.diagnostics.trans q.diagnostics, by rw [q'.fragments, q.fragments, List.append_assoc], q'.declared⟩

end Quiet

theorem upTo_of_rest {s : ParseState} {stop : Token → Bool} {ts : List Token} {t : Token} {after : List Token}
    (h : s.rest = ts ++ t :: after) (hts : ∀ x ∈ ts, stop x = false) (ht : stop t) : s.upTo stop = ts := by
  unfold upTo
  rw [h, List.takeWhile_append_of_pos fun x hx => by rw [hts x hx]; rfl, List.takeWhile_cons_of_neg (by simp [ht]),
    List.append_nil]

theorem Quiet.takeUpTo {s s' : ParseState} {ts after : List Token} {out : List Fragment} {d : Declared}
    {stop : Token → Bool} (h : s'.upTo stop = ts) (q : Quiet s s' (ts ++ after) out d) :
    Quiet s (s'.takeUpTo stop) after out d :=
  ⟨by rw [rest_takeUpTo, h, q.rest, List.drop_left], by rw [diagnostics_takeUpTo, q.diagnostics],
    by rw [fragments_takeUpTo, q.fragments], by rw [symbols_takeUpTo]; exact q.declared⟩

section
variable {s : ParseState} {d : Declared} (hd : s.symbols.Agrees d) {after : List Token}
include hd

theorem declaration_quiet {type : DataType} {ty nm semi : Token} (h : s.rest = ty :: nm :: semi :: after)
    (hty : ty.lexeme = type.name) (hsemi : semi.lexeme = ";") :
    Quiet s s.declaration after ((Stmt.declare type nm.lexeme none).output d) ((nm.lexeme, type) :: d) := by
  have noEq : semi.hasText "=" = false := by simp [Token.hasText, hsemi]
  have run : s.declaration =
      (((s.next.next.declare nm.lexeme type nm.span).peek.expect ";").note
        ("Recognized declaration: " ++ ty.lexeme ++ " " ++ nm.lexeme)).emit
        (.statement (.declare nm.lexeme (.default type))) := by
    simp only [declaration, declarationEnd, cursor_peek, rest_next, rest_declare, rest_peek, h,
      ofName?_eq_some.mpr hty, List.head?_cons, List.tail_cons, Option.any_some, noEq, Bool.false_eq_true, ite_false]
  rw [run]
  exact (((((Quiet.refl hd h).next.next.declare _ _ _).peek).expect hsemi).note _).emit _

theorem declaration_value_quiet {type : DataType} {ty nm eq v semi : Token}
    (h : s.rest = ty :: nm :: eq :: v :: semi :: after) (hty : ty.lexeme = type.name) (heq : eq.lexeme = "=")
    (hsemi : semi.lexeme = ";") :
    Quiet s s.declaration after ((Stmt.declare type nm.lexeme (some v.lexeme)).output d)
      ((nm.lexeme, type) :: d) := by
  have run : s.declaration =
      (((s.next.next.declare nm.lexeme type nm.span).peek.next.next.expect ";").note
        ("Recognized declaration: " ++ ty.lexeme ++ " " ++ nm.lexeme ++ " = " ++ v.lexeme)).emit
        (.statement (.declare nm.lexeme (.given v.lexeme))) := by
    simp only [declaration, declarationEnd, cursor_peek, rest_next, rest_declare, rest_peek, h,
      ofName?_eq_some.mpr hty, List.head?_cons, List.tail_cons, Option.any_some, Token.hasText, heq, beq_self_eq_true,
      ite_true]
  rw [run]
  exact (((((Quiet.refl hd h).next.next.declare _ _ _).peek).next.next.expect hsemi).note _).emit _

omit hd in
theorem printed?_of_allowed {symbols : SymbolTable} (hd : symbols.Agrees d) {c : Criteria} {a : Token}
    (ha : c.Textual a) (allowed : (Stmt.print a.lexeme).Allowed d) :
    printed? c symbols a [] = some (printedAs d a.lexeme) := by
  unfold printed? printedAs
  rw [ha.isStringLiteral, hd a.lexeme]
  rcases allowed with quoted | declared
  · simp [quoted]
  · obtain ⟨type, htype⟩ := Option.isSome_iff_exists.mp declared
    by_cases quoted : isQuotedText a.lexeme
    · simp [quoted]
    · simp [quoted, htype]

theorem printStatement_quiet {c : Criteria} {pr op a cl semi : Token}
    (h : s.rest = pr :: op :: a :: cl :: semi :: after) (ha : c.Textual a) (hop : op.lexeme = "(")
    (hcl : cl.lexeme = ")") (hsemi : semi.lexeme = ";") (allowed : (Stmt.print a.lexeme).Allowed d) :
    Quiet s (s.printStatement c) after ((Stmt.print a.lexeme).output d) d := by
  have opened : Quiet s (s.next.expect "(") (a :: cl :: semi :: after) [] d := (Quiet.refl hd h).next.expect hop
  have more : (s.next.expect "(").next.upTo endsArgument = [] :=
    upTo_of_rest opened.next.rest (by simp) (by simp [endsArgument, Token.hasText, hcl])
  have taken := Quiet.takeUpTo more opened.next
  have run : s.printStatement c =
      ((((((s.next.expect "(").next.takeUpTo endsArgument).expect ")").expect ";").note
        ("Recognized print: " ++ Token.joinLexemes [a])).emit (.statement (.print (printedAs d a.lexeme)))) := by
    simp only [printStatement, cursor_peek, opened.rest, List.head?_cons, more,
      printed?_of_allowed taken.declared ha allowed, Option.isSome_some, ite_true, Option.getD_some]
  rw [run]
  exact (((taken.expect hcl).expect hsemi).note _).emit _

theorem returnZero_quiet {rt zero semi : Token} (h : s.rest = rt :: zero :: semi :: after)
    (hrt : rt.lexeme = "return") (hzero : zero.lexeme = "0") (hsemi : semi.lexeme = ";") :
    Quiet s s.returnZero after [] d :=
  ((((Quiet.refl hd h).expect hrt).expect hzero).expect hsemi).note _

theorem otherStatement_quiet (c : Criteria) (parts : List Token) {semi : Token} (h : s.rest = parts ++ semi :: after)
    (hparts : ∀ t ∈ parts, t.lexeme ≠ ";") (hsemi : semi.lexeme = ";") :
    ∃ s', s.otherStatement c = s'.judge c parts ∧ Quiet s s' after [] d := by
  have upTo : s.upTo isTerminator = parts :=
    upTo_of_rest h (fun t ht => beq_false_of_ne (hparts t ht)) (by simp [isTerminator, Token.hasText, hsemi])
  have taken := Quiet.takeUpTo upTo (Quiet.refl hd h)
  refine ⟨(s.takeUpTo isTerminator).next, ?_, taken.next⟩
  simp only [otherStatement, upTo, cursor_atEnd, taken.rest, List.isEmpty_cons, Bool.false_eq_true, ite_false]

theorem empty_quiet {c : Criteria} {semi : Token} (h : s.rest = semi :: after) (hsemi : semi.lexeme = ";") :
    Quiet s (s.otherStatement c) after [] d := by
  obtain ⟨s', run, q⟩ := otherStatement_quiet hd c [] h (by simp) hsemi
  rw [run]
  exact q

theorem assign_quiet {c : Criteria} {nm eq v : Token} {more : List Token} {semi : Token}
    (h : s.rest = nm :: eq :: v :: (more ++ semi :: after)) (hnm : c.Textual nm) (heq : eq.lexeme = "=")
    (hsemi : semi.lexeme = ";") (allowed : (Stmt.assign nm.lexeme v.lexeme (more.map Token.lexeme)).Allowed d) :
    Quiet s (s.otherStatement c) after ((Stmt.assign nm.lexeme v.lexeme (more.map Token.lexeme)).output d) d := by
  obtain ⟨word, declared, -, noSemi⟩ := allowed
  have hparts : ∀ t ∈ nm :: eq :: v :: more, t.lexeme ≠ ";" := by
    intro t ht hsemi
    rcases List.mem_cons.mp ht with rfl | ht
    · rw [hsemi] at word
      exact absurd word (by decide)
    · rcases List.mem_cons.mp ht with rfl | ht
      · exact absurd (heq.symm.trans hsemi) (by decide)
      · refine noSemi ?_
        rw [← hsemi, ← List.map_cons]
        exact List.mem_map_of_mem ht
  obtain ⟨s', run, q⟩ := otherStatement_quiet hd c (nm :: eq :: v :: more) h hparts hsemi
  have known : s'.symbols.contains nm.lexeme = true := by
    rw [SymbolTable.contains_eq_isSome_lookup, q.declared, declared]
  have assignment : isAssignment c (nm :: eq :: v :: more) = true := by
    simp [isAssignment, hnm.isWordlike, word, Token.hasText, heq]
  rw [run]
  unfold judge
  simp only [assignment, known, ite_true]
  exact (q.note _).emit _

end

/-! ## Statements -/

theorem statement_eq {c : Criteria} {first : Token} (hc : c.Textual first) (s : ParseState) :
    s.statement c first =
      if (DataType.ofName? first.lexeme).isSome then s.declaration
      else if first.hasText "print" then s.printStatement c
      else if first.hasText "return" then
        if s.rest[1]?.any (·.hasText "0") then s.peekSecond.returnZero else s.peekSecond.otherStatement c
      else s.otherStatement c := by
  unfold statement
  rw [hc.isTypeName, hc.isKeyword, hc.isKeyword]
  rfl

theorem statement_quiet {c : Criteria} {s : ParseState} {d : Declared} (hd : s.symbols.Agrees d) {st : Stmt}
    (allowed : st.Allowed d) {first : Token} {toks after : List Token} (h : s.rest = first :: toks ++ after)
    (textual : ∀ t ∈ first :: toks, c.Textual t) (hl : (first :: toks).map Token.lexeme = st.lexemes) :
    Quiet s (s.statement c first) after (st.output d) (st.declares d) := by
  rw [statement_eq (textual first List.mem_cons_self)]
  cases st with
  | declare type name value =>
    cases value with
    | none =>
      simp only [Stmt.lexemes, List.map_cons, List.cons.injEq, List.map_eq_cons_iff, List.map_eq_nil_iff] at hl
      obtain ⟨hty, nm, _, rfl, rfl, semi, _, rfl, hsemi, rfl⟩ := hl
      simp only [hty, ofName?_name, Option.isSome_some, ite_true]
      exact declaration_quiet hd h hty hsemi
    | some v =>
      simp only [Stmt.lexemes, List.map_cons, List.cons.injEq, List.map_eq_cons_iff, List.map_eq_nil_iff] at hl
      obtain ⟨hty, nm, _, rfl, rfl, eq, _, rfl, heq, v, _, rfl, rfl, semi, _, rfl, hsemi, rfl⟩ := hl
      simp only [hty, ofName?_name, Option.isSome_some, ite_true]
      exact declaration_value_quiet hd h hty heq hsemi
  | print argument =>
    simp only [Stmt.lexemes, List.map_cons, List.cons.injEq, List.map_eq_cons_iff, List.map_eq_nil_iff] at hl
    obtain ⟨hpr, op, _, rfl, hop, a, _, rfl, rfl, cl, _, rfl, hcl, semi, _, rfl, hsemi, rfl⟩ := hl
    have noType : DataType.ofName? "print" = none := rfl
    simp only [hpr, noType, Token.hasText, Option.isSome_none, Bool.false_eq_true, ite_false, beq_self_eq_true, ite_true]
    exact printStatement_quiet hd h (textual a (by simp)) hop hcl hsemi allowed
  | returnZero =>
    simp only [Stmt.lexemes, List.map_cons, List.cons.injEq, List.map_eq_cons_iff, List.map_eq_nil_iff] at hl
    obtain ⟨hrt, zero, _, rfl, hzero, semi, _, rfl, hsemi, rfl⟩ := hl
    have noType : DataType.ofName? "return" = none := rfl
    have second : s.rest[1]?.any (·.hasText "0") := by simp [h, Token.hasText, hzero]
    simp only [second]
    simp only [Token.hasText, hrt, noType]
    exact (Quiet.refl hd rfl).peekSecond.trans (returnZero_quiet (s := s.peekSecond) hd h hrt hzero hsemi)
  | empty =>
    simp only [Stmt.lexemes, List.map_cons, List.cons.injEq, List.map_eq_nil_iff] at hl
    obtain ⟨hsemi, rfl⟩ := hl
    have noType : DataType.ofName? ";" = none := rfl
    simp only [hsemi, noType, Token.hasText]
    exact empty_quiet hd h hsemi
  | assign name v more =>
    simp only [Stmt.lexemes, List.map_cons, List.cons.injEq, List.map_eq_cons_iff, List.map_eq_append_iff,
      List.map_eq_nil_iff] at hl
    obtain ⟨rfl, eq, _, rfl, heq, v, _, rfl, rfl, parts, _, rfl, rfl, semi, _, rfl, hsemi, rfl⟩ := hl
    have hrest : s.rest = first :: eq :: v :: (parts ++ semi :: after) := by simp [h]
    have hfirst := textual first List.mem_cons_self
    obtain ⟨noType, noPrint⟩ := starts_other_iff.mp allowed.2.2.1
    have notPrint : first.hasText "print" = false := beq_false_of_ne noPrint
    have second : s.rest[1]?.any (·.hasText "0") = false := by simp [h, Token.hasText, heq]
    simp only [noType, notPrint, second, Option.isSome_none, Bool.false_eq_true, ite_false]
    -- `return` can be a name too, as long as no `0` follows
    split
    · exact (Quiet.refl hd rfl).peekSecond.trans (assign_quiet (s := s.peekSecond) hd hrest hfirst heq hsemi allowed)
    · exact assign_quiet hd hrest hfirst heq hsemi allowed

/-! ## Blocks and programs -/

theorem body_of_nil {c : Criteria} {s : ParseState} (h : s.rest = []) : s.body c = s.peek := by
  rw [body]
  split
  · rfl
  · next h' =>
    rw [h] at h'
    cases h'

theorem body_of_close {c : Criteria} {s : ParseState} {t : Token} {ts : List Token} (h : s.rest = t :: ts)
    (ht : t.lexeme = "\x7d") : s.body c = s.peek := by
  have close : t.hasText "\x7d" := by simp [Token.hasText, ht]
  rw [body]
  split
  · rfl
  · next h' =>
    rw [h] at h'
    obtain ⟨rfl, rfl⟩ := List.cons.inj h'
    rw [if_pos close]

theorem body_of_statement {c : Criteria} {s : ParseState} {t : Token} {ts : List Token} (h : s.rest = t :: ts)
    (ht : t.lexeme ≠ "\x7d") : s.body c = (s.peek.statement c t).body c := by
  have other : ¬t.hasText "\x7d" := by simp [Token.hasText, ht]
  rw [body]
  split
  · next h' =>
    rw [h] at h'
    cases h'
  · next h' =>
    rw [h] at h'
    obtain ⟨rfl, rfl⟩ := List.cons.inj h'
    rw [if_neg other]

theorem body_front {c : Criteria} {b : Block} {d : Declared} (allowed : b.Allowed d) {s : ParseState}
    (hd : s.symbols.Agrees d) {toks after : List Token} (h : s.rest = toks ++ after)
    (textual : ∀ t ∈ toks, c.Textual t) (hl : toks.map Token.lexeme = b.flatMap Stmt.lexemes) :
    ∃ s', s.body c = s'.body c ∧ Quiet s s' after (b.output d) (b.declares d) := by
  induction b generalizing d s toks with
  | nil =>
    rw [List.flatMap_nil, List.map_eq_nil_iff] at hl
    subst hl
    exact ⟨s, rfl, Quiet.refl hd h⟩
  | cons st b ih =>
    rw [List.flatMap_cons] at hl
    obtain ⟨mine, others, rfl, hmine, hothers⟩ := List.map_eq_append_iff.mp hl
    obtain ⟨w, ws, hw, open_⟩ := Stmt.lexemes_eq_cons allowed.1
    obtain ⟨first, mine, rfl, hfirst, -⟩ := List.map_eq_cons_iff.mp (hmine.trans hw)
    rw [List.append_assoc] at h
    -- one statement, then the rest from where it left off
    have one : Quiet s (s.peek.statement c first) (others ++ after) (st.output d) (st.declares d) :=
      (Quiet.refl hd rfl).peek.trans
        (statement_quiet (s := s.peek) hd allowed.1 h (fun t ht => textual t (List.mem_append_left _ ht)) hmine)
    obtain ⟨s', run, rest⟩ :=
      ih allowed.2 one.declared one.rest (fun t ht => textual t (List.mem_append_right _ ht)) hothers
    rw [body_of_statement h (hfirst ▸ open_)]
    exact ⟨s', run, one.trans rest⟩

theorem body_quiet {c : Criteria} {b : Block} {d : Declared} (allowed : b.Allowed d) {s : ParseState}
    (hd : s.symbols.Agrees d) {toks : List Token} {close : Token} {after : List Token}
    (h : s.rest = toks ++ close :: after) (textual : ∀ t ∈ toks, c.Textual t)
    (hl : toks.map Token.lexeme = b.flatMap Stmt.lexemes) (hclose : close.lexeme = "\x7d") :
    Quiet s (s.body c) (close :: after) (b.output d) (b.declares d) := by
  obtain ⟨s', run, q⟩ := body_front allowed hd h textual hl
  rw [run, body_of_close q.rest hclose]
  exact q.peek

theorem mainFunction_quiet {c : Criteria} {b : Block} {d : Declared} (allowed : b.Allowed d) {s : ParseState}
    (hd : s.symbols.Agrees d) {toks after : List Token} (h : s.rest = toks ++ after)
    (textual : ∀ t ∈ toks, c.Textual t) (hl : toks.map Token.lexeme = b.lexemes) :
    Quiet s (s.mainFunction c) after (.openMain :: (b.output d ++ [.closeMain])) (b.declares d) := by
  simp only [Block.lexemes, List.cons_append, List.nil_append, List.map_eq_cons_iff, List.map_eq_append_iff,
    List.map_eq_nil_iff] at hl
  obtain ⟨m, _, rfl, hm, op, _, rfl, hop, cl, _, rfl, hcl, ob, _, rfl, hob, toks, _, rfl, hl, close, _, rfl, hclose,
    rfl⟩ := hl
  have hrest : s.rest = m :: op :: cl :: ob :: (toks ++ close :: after) := by simp [h]
  have opened := ((((((Quiet.refl hd hrest).expect hm).expect hop).expect hcl).expect hob).note
    "Entering main function").emit .openMain
  have inside : ∀ t ∈ toks, c.Textual t := fun t ht => textual t (by simp [ht])
  have closed := opened.trans (body_quiet (c := c) allowed opened.declared opened.rest inside hl hclose)
  exact ((closed.expect hclose).emit .closeMain).note _

theorem functions_of_nil {c : Criteria} {s : ParseState} (h : s.rest = []) : s.functions c = s.peek := by
  rw [functions]
  split
  · rfl
  · next h' =>
    rw [h] at h'
    cases h'

theorem functions_of_cons {c : Criteria} {s : ParseState} {t : Token} {ts : List Token} (h : s.rest = t :: ts)
    (hc : c.Textual t) :
    s.functions c =
      if t.lexeme = "main" then (s.peek.mainFunction c).functions c
      else (s.peek.report (.tokenOutsideMain t.lexeme) t.span).next.functions c := by
  rw [functions]
  split
  · next h' =>
    rw [h] at h'
    cases h'
  · next h' =>
    rw [h] at h'
    obtain ⟨rfl, rfl⟩ := List.cons.inj h'
    by_cases hm : t.lexeme = "main"
    · rw [if_pos hm, if_pos (by rw [hc.isKeyword, Token.hasText, hm]; rfl)]
    · rw [if_neg hm, if_neg (by rw [hc.isKeyword, Token.hasText]; simpa [Keyword.text] using hm)]

theorem functions_front {c : Criteria} {p : Program} {d : Declared} (allowed : p.Allowed d) {s : ParseState}
    (hd : s.symbols.Agrees d) {toks after : List Token} (h : s.rest = toks ++ after)
    (textual : ∀ t ∈ toks, c.Textual t) (hl : toks.map Token.lexeme = p.lexemes) :
    ∃ s', s.functions c = s'.functions c ∧ Quiet s s' after (p.output d) (p.declares d) := by
  induction p generalizing d s toks with
  | nil =>
    rw [show toks = [] from List.map_eq_nil_iff.mp hl] at h
    exact ⟨s, rfl, Quiet.refl hd h⟩
  | cons b p ih =>
    obtain ⟨mine, others⟩ := (Program.allowed_cons d b p).mp allowed
    obtain ⟨toks, more, rfl, htoks, hmore⟩ := List.map_eq_append_iff.mp hl
    rw [List.append_assoc] at h
    have inside : ∀ t ∈ toks, c.Textual t := fun t ht => textual t (List.mem_append_left _ ht)
    obtain ⟨m, toks, rfl, hm, -⟩ := List.map_eq_cons_iff.mp htoks
    have one : Quiet s (s.peek.mainFunction c) (more ++ after) (.openMain :: (b.output d ++ [.closeMain]))
        (b.declares d) :=
      (Quiet.refl hd rfl).peek.trans (mainFunction_quiet (s := s.peek) mine hd h inside htoks)
    obtain ⟨s', run, rest⟩ :=
      ih others one.declared one.rest (fun t ht => textual t (List.mem_append_right _ ht)) hmore
    refine ⟨s', ?_, ?_⟩
    · rw [functions_of_cons h (inside m List.mem_cons_self), if_pos hm, run]
    · rw [Program.declares_cons]
      simpa [Program.output] using one.trans rest

theorem functions_quiet {c : Criteria} {p : Program} {d : Declared} (allowed : p.Allowed d) {s : ParseState}
    (hd : s.symbols.Agrees d) (textual : ∀ t ∈ s.rest, c.Textual t) (hl : s.rest.map Token.lexeme = p.lexemes) :
    Quiet s (s.functions c) [] (p.output d) (p.declares d) := by
  obtain ⟨s', run, q⟩ := functions_front allowed hd (List.append_nil _).symm textual hl
  rw [run, functions_of_nil q.rest]
  exact q.peek

end ParseState

theorem parse_quiet {p : Program} (allowed : p.Allowed []) {tokens : List Token}
    (textual : ∀ t ∈ tokens, Criteria.byClass.Textual t) (hl : tokens.map Token.lexeme = p.lexemes) :
    ParseState.Quiet (.ofTokens tokens) (parse tokens) [] (.header :: p.output []) (p.declares []) := by
  have start := (ParseState.Quiet.refl (s := .ofTokens tokens) SymbolTable.agrees_empty rfl).emit .header
  exact (start.trans (ParseState.functions_quiet allowed start.declared textual hl)).note _

end CSubset
