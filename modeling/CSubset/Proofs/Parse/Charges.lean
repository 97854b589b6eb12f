import CSubset.Proofs.Parse.Later
import CSubset.Proofs.Parse.Simulation

/-!
# Every report has its token

A report is made about tokens that were there, or because the input ended. Reports of the first kind start at a token
each, one behind the other, so there are never more of them than tokens. Reports of the second kind come last, when
nothing is left to read. `Charges` says this of every part of the parser, with the causes of the reports at the end.
-/

namespace CSubset

inductive Origin where
  | limit | tokens | ending
  deriving DecidableEq, Repr

def Cause.origin : Cause → Origin
  | .tooManyTokens _ => .limit
  | .unexpectedEnd _ | .missingTerminator none => .ending
  | _ => .tokens

/-- Reports about tokens of a list, in order. Each is about the tokens from one to another, and no two start at the same
token. -/
inductive Charged : List Token → List Diagnostic → Prop
  | nil : Charged [] []
  | skip {t : Token} {ts : List Token} {ds : List Diagnostic} (h : Charged ts ds) : Charged (t :: ts) ds
  | mark {t u : Token} {ts : List Token} {d : Diagnostic} {ds : List Diagnostic} (later : u ∈ t :: ts)
      (span : d.span = some (u.span.merge t.span)) (found : d.cause.origin = .tokens) (h : Charged ts ds) :
      Charged (t :: ts) (d :: ds)

namespace Charged

theorem none (ts : List Token) : Charged ts [] := by
  induction ts with
  | nil => exact .nil
  | cons t ts ih => exact .skip ih

theorem eq_nil {ds : List Diagnostic} (h : Charged [] ds) : ds = [] := by
  cases h
  rfl

theorem append {ts us : List Token} {ds es : List Diagnostic} (h : Charged ts ds) (h' : Charged us es) :
    Charged (ts ++ us) (ds ++ es) := by
  induction h with
  | nil => exact h'
  | skip _ ih => exact .skip ih
  | mark later span found _ ih => exact .mark (List.mem_append_left us later) span found ih

theorem length_le {ts : List Token} {ds : List Diagnostic} (h : Charged ts ds) : ds.length ≤ ts.length := by
  induction h with
  | nil => exact Nat.le_refl _
  | skip _ ih => exact Nat.le_succ_of_le ih
  | mark _ _ _ _ ih => exact Nat.succ_le_succ ih

theorem origin_eq {ts : List Token} {ds : List Diagnostic} (h : Charged ts ds) :
    ∀ d ∈ ds, d.cause.origin = .tokens := by
  induction h with
  | nil => intro d hd; cases hd
  | skip _ ih => exact ih
  | mark _ _ found _ ih =>
    intro d hd
    rcases List.mem_cons.mp hd with rfl | hd
    · exact found
    · exact ih d hd

theorem exists_inOrder {ts : List Token} {ds : List Diagnostic} (h : Charged ts ds) {d : Diagnostic} (hd : d ∈ ds) :
    ∃ t u, InOrder ts t u ∧ d.span = some (u.span.merge t.span) := by
  induction h with
  | nil => cases hd
  | skip _ ih =>
    obtain ⟨t, u, order, span⟩ := ih hd
    exact ⟨t, u, order.of_suffix (List.suffix_cons _ _), span⟩
  | @mark t u ts _ _ later span _ _ ih =>
    rcases List.mem_cons.mp hd with rfl | hd
    · exact ⟨t, u, ⟨[], ts, rfl, later⟩, span⟩
    · obtain ⟨t, u, order, span⟩ := ih hd
      exact ⟨t, u, order.of_suffix (List.suffix_cons _ _), span⟩

end Charged

namespace ParseState

def endReport (s : ParseState) (cause : Cause) : Diagnostic :=
  ⟨cause, s.cursor.position + s.rest.length, s.cursor.tokens.getLast?.map (·.span)⟩

/-- From `s` to `s'` there were reports about tokens that were taken, and then, if nothing was left, for these causes. -/
structure Charges (s s' : ParseState) (ends : List Cause) : Prop where
  moves : Moves s s'
  reports : ∃ ts ds, s.rest = ts ++ s'.rest ∧ Charged ts ds ∧
    s'.diagnostics = s.diagnostics ++ ds ++ ends.map s.endReport
  ended : ends ≠ [] → s'.rest = []

theorem Moves.endReport_eq {s s' : ParseState} (m : Moves s s') : s'.endReport = s.endReport := by
  funext cause
  unfold endReport
  rw [m.position_add_rest, m.tokens_eq]

theorem diagnostics_report_end {s : ParseState} (h : s.rest = []) (cause : Cause) :
    (s.report cause none).diagnostics = s.diagnostics ++ [s.endReport cause] := by
  unfold endReport
  rw [diagnostics_report, h]
  simp [Cursor.currentSpan, h]

namespace Charges

theorem quiet {s s' : ParseState} (m : Moves s s') (same : s'.diagnostics = s.diagnostics) : Charges s s' [] := by
  obtain ⟨ts, hts⟩ := m.rest_suffix
  refine ⟨m, ⟨ts, [], hts.symm, .none ts, by simp [same]⟩, ?_⟩
  intro h
  exact absurd rfl h

theorem token {s s' : ParseState} (m : Moves s s') {t u : Token} (ts : List Token) (taken : s.rest = t :: ts ++ s'.rest)
    (later : u ∈ t :: ts) {d : Diagnostic} (span : d.span = some (u.span.merge t.span)) (found : d.cause.origin = .tokens)
    (new : s'.diagnostics = s.diagnostics ++ [d]) : Charges s s' [] := by
  refine ⟨m, ⟨t :: ts, [d], taken, .mark later span found (.none ts), by simp [new]⟩, ?_⟩
  intro h
  exact absurd rfl h

theorem report {s s' : ParseState} (m : Moves s s') (same : s'.diagnostics = s.diagnostics) {t u : Token}
    (ts : List Token) (taken : s.rest = t :: ts ++ s'.rest) (later : u ∈ t :: ts) {cause : Cause}
    (found : cause.origin = .tokens) : Charges s (s'.report cause (u.span.merge t.span)) [] := by
  have order : InOrder s.rest t u := ⟨[], ts ++ s'.rest, taken, List.mem_append_left s'.rest later⟩
  have new : (s'.report cause (u.span.merge t.span)).diagnostics =
      s.diagnostics ++ [⟨cause, s'.cursor.position, some (u.span.merge t.span)⟩] := by
    rw [diagnostics_report, same]
    rfl
  exact token (m.reportAt cause order) ts taken later rfl found new

theorem reportEnd {s : ParseState} (h : s.rest = []) (cause : Cause) : Charges s (s.report cause none) [cause] := by
  refine ⟨Moves.refl.reportEnd cause h, ⟨[], [], by simp, .nil, ?_⟩, fun _ => h⟩
  rw [diagnostics_report_end h]
  simp

theorem trans {s s' s'' : ParseState} {ends ends' : List Cause} (h : Charges s s' ends) (h' : Charges s' s'' ends') :
    Charges s s'' (ends ++ ends') := by
  obtain ⟨ts, ds, taken, charged, new⟩ := h.reports
  obtain ⟨ts', ds', taken', charged', new'⟩ := h'.reports
  rw [new, h.moves.endReport_eq] at new'
  refine ⟨h.moves.trans h'.moves, ?_, ?_⟩
  · by_cases none : ends = []
    · subst none
      refine ⟨ts ++ ts', ds ++ ds', ?_, charged.append charged', by simp [new']⟩
      rw [taken, taken', List.append_assoc]
    · -- nothing was left to take, so the later reports are for the end of the input too
      have last := h.ended none
      rw [last] at taken taken'
      obtain ⟨rfl, last'⟩ := List.append_eq_nil_iff.mp taken'.symm
      rw [charged'.eq_nil] at new'
      exact ⟨ts, ds, by rw [taken, last'], charged, by simp [new']⟩
  · intro some
    by_cases none : ends' = []
    · rw [none, List.append_nil] at some
      have suffix := h'.moves.rest_suffix
      rw [h.ended some] at suffix
      exact List.suffix_nil.mp suffix
    · exact h'.ended none

section
variable {s s' : ParseState} {ends : List Cause} (h : Charges s s' ends)
include h

theorem eq_nil_of_rest {t : Token} {ts : List Token} (left : s'.rest = t :: ts) : ends = [] := by
  by_cases none : ends = []
  · exact none
  · rw [h.ended none] at left
    cases left

theorem thenQuiet {s'' : ParseState} (m : Moves s' s'') (same : s''.diagnostics = s'.diagnostics) :
    Charges s s'' ends := by
  have := h.trans (quiet m same)
  rwa [List.append_nil] at this

theorem peek : Charges s s'.peek ends := h.thenQuiet Moves.refl.peek (diagnostics_peek s')

theorem note (text : String) : Charges s (s'.note text) ends :=
  h.thenQuiet (Moves.refl.note text) (diagnostics_note s' text)

theorem emit (f : Fragment) : Charges s (s'.emit f) ends := h.thenQuiet (Moves.refl.emit f) (diagnostics_emit s' f)

theorem next : Charges s s'.next ends := h.thenQuiet Moves.refl.next (diagnostics_next s')

theorem declare (name : String) (type : DataType) (span : Span) : Charges s (s'.declare name type span) ends :=
  h.thenQuiet (Moves.refl.declare name type span) rfl

end

theorem refl (s : ParseState) : Charges s s [] := quiet Moves.refl rfl

end Charges

/-! ## Wanted tokens -/

def missing (want : String) : Cause := mismatch want none

theorem origin_mismatch (want : String) (t : Token) : (mismatch want (some t)).origin = .tokens := by
  unfold mismatch
  split
  · rfl
  · rfl

theorem expect_charges_of_nil {s : ParseState} (h : s.rest = []) (want : String) :
    Charges s (s.expect want) [missing want] := by
  have run : s.expect want = s.next.report (missing want) none := by
    unfold expect
    rw [cursor_peek, h]
    rfl
  rw [run]
  exact (Charges.refl s).next.trans (.reportEnd (by rw [rest_next, h]; rfl) _)

theorem expect_charges_of_cons {s : ParseState} {t : Token} {ts : List Token} (h : s.rest = t :: ts) (want : String) :
    Charges s (s.expect want) [] := by
  by_cases wanted : t.hasText want
  · rw [expect_of_hasText h (by simpa [Token.hasText] using wanted)]
    exact (Charges.refl s).next
  · have run : s.expect want = s.next.report (mismatch want (some t)) (t.span.merge t.span) := by
      unfold expect
      rw [cursor_peek, h, Span.merge_self]
      simp [wanted]
    rw [run]
    refine .report Moves.refl.next (diagnostics_next s) [] ?_ List.mem_cons_self (origin_mismatch want t)
    rw [rest_next, h]
    rfl

/-- Of the tokens wanted in a row, those that are not there are the last. -/
theorem foldl_expect_charges (wants : List String) (s : ParseState) :
    Charges s (wants.foldl expect s) ((wants.drop s.rest.length).map missing) := by
  induction wants generalizing s with
  | nil =>
    rw [List.drop_nil]
    exact Charges.refl s
  | cons want wants ih =>
    have others := ih (s.expect want)
    rw [rest_expect] at others
    cases h : s.rest with
    | nil =>
      rw [h] at others
      exact (expect_charges_of_nil h want).trans others
    | cons t ts =>
      rw [h] at others
      exact (expect_charges_of_cons h want).trans others

/-! ## Statements -/

/-- At most so many tokens were missing, and at most one of them was a semicolon. -/
def Shortfall (bound : Nat) (ends : List Cause) : Prop :=
  ends.length ≤ bound ∧ ends.countP (·.code = Code.missingTerminator) ≤ 1 ∧ ∀ cause ∈ ends, cause.origin = .ending

instance (bound : Nat) (ends : List Cause) : Decidable (Shortfall bound ends) := inferInstanceAs (Decidable (_ ∧ _))

theorem Shortfall.mono {a b : Nat} (le : a ≤ b) {ends : List Cause} (h : Shortfall a ends) : Shortfall b ends :=
  ⟨Nat.le_trans h.1 le, h.2⟩

theorem Shortfall.drop {bound : Nat} (wants : List String) (h : Shortfall bound (wants.map missing)) (n : Nat) :
    Shortfall bound ((wants.drop n).map missing) := by
  rw [List.map_drop]
  have sublist := List.drop_sublist n (wants.map missing)
  exact ⟨Nat.le_trans sublist.length_le h.1, Nat.le_trans sublist.countP_le h.2.1,
    fun cause mem => h.2.2 cause (sublist.subset mem)⟩

theorem declarationEnd_charges (s : ParseState) {type : Token} (known : (DataType.ofName? type.lexeme).isSome)
    (name : Token) : ∃ ends, Charges s (s.declarationEnd type name) ends ∧ Shortfall 1 ends := by
  have semicolon := Shortfall.drop [";"] (by decide : Shortfall 1 _)
  unfold declarationEnd
  dsimp only
  split
  · split
    · next ended =>
      have last : s.peek.next.next.rest = [] := rest_next_of_none ended
      exact ⟨_, (Charges.refl s).peek.next.next.trans (.reportEnd last (.unexpectedEnd "value")), by decide⟩
    · have closed := (Charges.refl s).peek.next.next.trans (foldl_expect_charges [";"] _)
      exact ⟨_, (closed.note _).emit _, semicolon _⟩
  · have closed := (Charges.refl s).peek.trans (foldl_expect_charges [";"] _)
    split
    · exact ⟨_, (closed.note _).emit _, semicolon _⟩
    · next unknown =>
      rw [unknown] at known
      cases known

theorem declaration_charges {s : ParseState} {type : Token} {ts : List Token} (h : s.rest = type :: ts)
    (known : (DataType.ofName? type.lexeme).isSome) : ∃ ends, Charges s s.declaration ends ∧ Shortfall 1 ends := by
  obtain ⟨d, hd⟩ := Option.isSome_iff_exists.mp known
  cases ts with
  | nil =>
    have last : s.next.next.rest = [] := by simp [h]
    have run : s.declaration = s.next.next.report (.unexpectedEnd "identifier") none := by simp [declaration, h]
    rw [run]
    exact ⟨_, (Charges.refl s).next.next.trans (.reportEnd last _), by decide⟩
  | cons name ts =>
    have run : s.declaration = (s.next.next.declare name.lexeme d name.span).declarationEnd type name := by
      simp [declaration, h, hd]
    rw [run]
    obtain ⟨ends, charges, short⟩ := declarationEnd_charges (s.next.next.declare name.lexeme d name.span) known name
    exact ⟨ends, ((Charges.refl s).next.next.declare _ _ _).trans charges, short⟩

theorem upTo_append_rest (s : ParseState) (stop : Token → Bool) : s.upTo stop ++ (s.takeUpTo stop).rest = s.rest := by
  rw [rest_takeUpTo]
  exact List.prefix_iff_eq_append.mp (List.takeWhile_prefix _)

/-- The argument of a print statement is reported at most once, and pays with its first token. -/
theorem argument_charges {s : ParseState} {first : Token} {ts : List Token} (h : s.rest = first :: ts) (valid : Bool)
    (text : String) :
    Charges s
      (if valid then s.next.takeUpTo endsArgument
        else (s.next.takeUpTo endsArgument).report (.invalidPrintArgument text)
          (((first :: s.next.upTo endsArgument).getLast?.getD first).span.merge first.span)) [] := by
  have m : Moves s (s.next.takeUpTo endsArgument) := Moves.refl.next.takeUpTo endsArgument
  have same : (s.next.takeUpTo endsArgument).diagnostics = s.diagnostics := by simp
  cases valid with
  | true => exact .quiet m same
  | false =>
    refine .report m same (s.next.upTo endsArgument) ?_ ?_ rfl
    · rw [List.cons_append, upTo_append_rest, rest_next, h]
      rfl
    · rw [List.getLast?_eq_some_getLast (List.cons_ne_nil _ _)]
      exact List.getLast_mem _

theorem printStatement_charges (c : Criteria) (s : ParseState) :
    ∃ ends, Charges s (s.printStatement c) ends ∧ Shortfall 2 ends := by
  have opened : Charges s (s.next.expect "(") ((["("].drop s.next.rest.length).map missing) :=
    (Charges.refl s).next.trans (foldl_expect_charges ["("] s.next)
  unfold printStatement
  dsimp only
  split
  · next ended =>
    refine ⟨_, opened.next.trans (.reportEnd (rest_next_of_none ended) (.unexpectedEnd "print argument")), ?_⟩
    cases s.next.rest with
    | nil => decide
    | cons t ts =>
      rw [List.length_cons, List.drop_succ_cons, List.drop_nil]
      decide
  · next first hfirst =>
    obtain ⟨ts, rest⟩ : ∃ ts, (s.next.expect "(").rest = first :: ts := List.head?_eq_some_iff.mp hfirst
    rw [opened.eq_nil_of_rest rest] at opened
    have closed := fun valid text =>
      (opened.trans (argument_charges rest valid text)).trans (foldl_expect_charges [")", ";"] _)
    exact ⟨_, ((closed _ _).note _).emit _, Shortfall.drop [")", ";"] (by decide) _⟩

theorem judge_charges (c : Criteria) {s s' : ParseState} (m : Moves s s') (same : s'.diagnostics = s.diagnostics)
    {parts : List Token} (more : List Token) (taken : s.rest = parts ++ more ++ s'.rest) : Charges s (s'.judge c parts) [] := by
  unfold judge
  split
  · exact .quiet m same
  · next first others =>
    have report : ∀ {cause : Cause}, cause.origin = .tokens → Charges s (s'.report cause first.span) [] := by
      intro cause found
      have := Charges.report m same (t := first) (u := first) (others ++ more) taken List.mem_cons_self found
      rwa [Span.merge_self] at this
    split
    · split
      · exact ((Charges.quiet m same).note _).emit _
      · exact report rfl
    · exact report rfl

theorem otherStatement_charges (c : Criteria) (s : ParseState) :
    ∃ ends, Charges s (s.otherStatement c) ends ∧ Shortfall 1 ends := by
  have m : Moves s (s.takeUpTo isTerminator) := Moves.refl.takeUpTo isTerminator
  have same := diagnostics_takeUpTo s isTerminator
  have split := upTo_append_rest s isTerminator
  unfold otherStatement
  dsimp only
  split
  · next ended =>
    have last : (s.takeUpTo isTerminator).rest = [] := List.isEmpty_iff.mp ended
    have judged := judge_charges c m same [] (by rw [List.append_nil, split])
    exact ⟨_, judged.trans (.reportEnd (by rw [judge_rest, last]) _), by decide⟩
  · next open_ =>
    obtain ⟨t, ts, left⟩ := List.exists_cons_of_ne_nil (fun h => open_ (List.isEmpty_iff.mpr h))
    change (s.takeUpTo isTerminator).rest = t :: ts at left
    refine ⟨[], judge_charges c m.next (by rw [diagnostics_next, same]) [t] ?_, by decide⟩
    rw [← split, rest_next, left]
    simp

theorem statement_charges {c : Criteria} {s : ParseState} {first : Token} {ts : List Token} (h : s.rest = first :: ts)
    (hc : c.Textual first) : ∃ ends, Charges s (s.statement c first) ends ∧ Shortfall 2 ends := by
  have looked : Charges s s.peekSecond [] := .quiet (Moves.refl.log rfl rfl) (diagnostics_peekSecond s)
  have other : ∀ s' : ParseState, Charges s s' [] →
      ∃ ends, Charges s (s'.otherStatement c) ends ∧ Shortfall 2 ends := by
    intro s' before
    obtain ⟨ends, charges, short⟩ := otherStatement_charges c s'
    exact ⟨ends, before.trans charges, short.mono (by decide)⟩
  rw [statement_eq hc]
  split
  · next known =>
    obtain ⟨ends, charges, short⟩ := declaration_charges h known
    exact ⟨ends, charges, short.mono (by decide)⟩
  · split
    · exact printStatement_charges c s
    · split
      · split
        · -- the word `return` is there, so at most two tokens are missing
          have taken := foldl_expect_charges ["return", "0", ";"] s.peekSecond
          rw [rest_peekSecond, h, List.length_cons, List.drop_succ_cons] at taken
          exact ⟨_, (looked.trans taken).note _, Shortfall.drop ["0", ";"] (by decide) _⟩
        · exact other s.peekSecond looked
      · exact other s (Charges.refl s)

/-! ## Entry functions and programs -/

theorem body_charges {c : Criteria} {s : ParseState} (textual : ∀ t ∈ s.rest, c.Textual t) :
    ∃ ends, Charges s (s.body c) ends ∧ Shortfall 2 ends := by
  fun_induction body c s with
  | case1 s h => exact ⟨[], (Charges.refl s).peek, by decide⟩
  | case2 s t ts h _ => exact ⟨[], (Charges.refl s).peek, by decide⟩
  | case3 s t ts h _ ih =>
    obtain ⟨ends, charges, short⟩ := statement_charges (s := s.peek) h (textual t (by rw [h]; exact List.mem_cons_self))
    have one := (Charges.refl s).peek.trans charges
    cases left : (s.peek.statement c t).rest with
    | nil =>
      rw [body_of_nil left]
      exact ⟨ends, one.peek, short⟩
    | cons u us =>
      rw [one.eq_nil_of_rest left] at one
      obtain ⟨ends, more, short⟩ := ih fun t ht => textual t (one.moves.rest_suffix.subset ht)
      exact ⟨ends, one.trans more, short⟩

def BraceLast (ends : List Cause) : Prop :=
  ends = [] ∨ ∃ front, Shortfall 3 front ∧ ends = front ++ [missing "\x7d"]

theorem BraceLast.shortfall {ends : List Cause} (h : BraceLast ends) : Shortfall 4 ends := by
  rcases h with rfl | ⟨front, ⟨length, terminators, ending⟩, rfl⟩
  · decide
  · have brace : (missing "\x7d").code ≠ Code.missingTerminator := by decide
    refine ⟨?_, by simpa [brace] using terminators, ?_⟩
    · rw [List.length_append, List.length_singleton]
      exact Nat.succ_le_succ length
    · intro cause mem
      rcases List.mem_append.mp mem with mem | mem
      · exact ending cause mem
      · rw [List.mem_singleton.mp mem]
        rfl

theorem mainFunction_charges {c : Criteria} {s : ParseState} {t : Token} {ts : List Token} (h : s.rest = t :: ts)
    (textual : ∀ t ∈ s.rest, c.Textual t) : ∃ ends, Charges s (s.mainFunction c) ends ∧ BraceLast ends := by
  have opened : Charges s s.opened ((["main", "(", ")", "\x7b"].drop s.rest.length).map missing) :=
    ((foldl_expect_charges _ s).note _).emit _
  have inside : ∃ ends, Charges s (s.opened.body c) ends ∧ Shortfall 3 ends := by
    cases left : s.opened.rest with
    | nil =>
      rw [body_of_nil left]
      rw [h, List.length_cons, List.drop_succ_cons] at opened
      exact ⟨_, opened.peek, Shortfall.drop ["(", ")", "\x7b"] (by decide) _⟩
    | cons u us =>
      rw [opened.eq_nil_of_rest left] at opened
      obtain ⟨ends, more, short⟩ := body_charges fun t ht => textual t (opened.moves.rest_suffix.subset ht)
      exact ⟨ends, opened.trans more, short.mono (by decide)⟩
  obtain ⟨ends, charges, short⟩ := inside
  rw [mainFunction_eq]
  cases left : (s.opened.body c).rest with
  | nil =>
    have closed := charges.trans (expect_charges_of_nil left "\x7d")
    exact ⟨_, (closed.emit _).note _, Or.inr ⟨ends, short, rfl⟩⟩
  | cons u us =>
    rw [charges.eq_nil_of_rest left] at charges
    have closed := charges.trans (expect_charges_of_cons left "\x7d")
    exact ⟨_, (closed.emit _).note _, Or.inl rfl⟩

theorem outside_charges {s : ParseState} {t : Token} {ts : List Token} (h : s.rest = t :: ts) :
    Charges s (s.peek.report (.tokenOutsideMain t.lexeme) t.span).next [] := by
  have mem : t ∈ s.rest := by rw [h]; exact List.mem_cons_self
  refine .token (Moves.refl.peek.reportToken mem _).next (t := t) (u := t) []
    (d := ⟨.tokenOutsideMain t.lexeme, s.cursor.position, some t.span⟩) ?_ List.mem_cons_self ?_ rfl ?_
  · rw [rest_next, rest_report, rest_peek, h]
    rfl
  · rw [Span.merge_self]
  · rw [diagnostics_next, diagnostics_report, diagnostics_peek]
    rfl

theorem functions_charges {c : Criteria} {s : ParseState} (textual : ∀ t ∈ s.rest, c.Textual t) :
    ∃ ends, Charges s (s.functions c) ends ∧ BraceLast ends := by
  fun_induction functions c s with
  | case1 s h => exact ⟨[], (Charges.refl s).peek, Or.inl rfl⟩
  | case2 s t ts h _ ih =>
    obtain ⟨ends, charges, brace⟩ := mainFunction_charges (c := c) (s := s.peek) h textual
    have one := (Charges.refl s).peek.trans charges
    cases left : (s.peek.mainFunction c).rest with
    | nil =>
      rw [functions_of_nil left]
      exact ⟨ends, one.peek, brace⟩
    | cons u us =>
      rw [one.eq_nil_of_rest left] at one
      obtain ⟨ends, more, brace⟩ := ih fun t ht => textual t (one.moves.rest_suffix.subset ht)
      exact ⟨ends, one.trans more, brace⟩
  | case3 s t ts h _ ih =>
    have one := outside_charges h
    obtain ⟨ends, more, brace⟩ := ih fun t ht => textual t (one.moves.rest_suffix.subset ht)
    exact ⟨ends, one.trans more, brace⟩

end ParseState

open ParseState in
theorem parse_reports {tokens : List Token} (textual : ∀ t ∈ tokens, Criteria.byClass.Textual t) :
    ∃ ds ends, (parse tokens).diagnostics = ds ++ ends.map (ofTokens tokens).endReport ∧ Charged tokens ds ∧
      BraceLast ends := by
  have header := (Charges.refl (.ofTokens tokens)).emit .header
  obtain ⟨ends, charges, brace⟩ := functions_charges (s := (ofTokens tokens).emit .header) textual
  have parsed : Charges (ofTokens tokens) (parse tokens) ends := (header.trans charges).note _
  obtain ⟨ts, ds, taken, charged, new⟩ := parsed.reports
  have whole := charged.append (.none (parse tokens).rest)
  rw [← taken, List.append_nil] at whole
  exact ⟨ds, ends, new, whole, brace⟩

end CSubset
