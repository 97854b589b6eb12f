import CSubset.Proofs.Parse.Journal

/-!
# The moves of the parser

Whatever the parser makes of its tokens, it gets there by a few moves: it writes something down, declares a name, takes
the next token, or reports. A report is about a run of tokens that were still to be read when the parser set out, or it
is made at the end of the input. `Moves` says this once for all of the parser, and what every move keeps holds of
every run.
-/

namespace CSubset

theorem Span.merge_self (s : Span) : s.merge s = s := by
  unfold merge
  simp

def InOrder (ts : List Token) (t u : Token) : Prop := ∃ front back, ts = front ++ t :: back ∧ u ∈ t :: back

theorem InOrder.of_mem {ts : List Token} {t : Token} (h : t ∈ ts) : InOrder ts t t := by
  obtain ⟨front, back, rfl⟩ := List.append_of_mem h
  exact ⟨front, back, rfl, List.mem_cons_self⟩

theorem InOrder.fst_mem {ts : List Token} {t u : Token} (h : InOrder ts t u) : t ∈ ts := by
  obtain ⟨front, back, rfl, -⟩ := h
  simp

theorem InOrder.snd_mem {ts : List Token} {t u : Token} (h : InOrder ts t u) : u ∈ ts := by
  obtain ⟨front, back, rfl, later⟩ := h
  exact List.mem_append_right front later

theorem InOrder.fst_last {ts : List Token} {t u : Token} (h : InOrder ts t u) {last : Token}
    (hl : ts.getLast? = some last) : InOrder ts t last := by
  obtain ⟨front, back, rfl, -⟩ := h
  rw [List.getLast?_append, List.getLast?_eq_some_getLast (List.cons_ne_nil _ _), Option.some_or] at hl
  rw [← Option.some.inj hl]
  exact ⟨front, back, rfl, List.getLast_mem _⟩

theorem InOrder.of_suffix {ts us : List Token} {t u : Token} (h : InOrder ts t u) (suffix : ts <:+ us) :
    InOrder us t u := by
  obtain ⟨front, back, rfl, hu⟩ := h
  obtain ⟨more, rfl⟩ := suffix
  exact ⟨more ++ front, back, by rw [List.append_assoc], hu⟩

namespace ParseState

inductive Moves (s : ParseState) : ParseState → Prop
  | refl : Moves s s
  | log {s' : ParseState} {step : Step} (m : Moves s s') (taken : step.taken? = none)
      (silent : step.diagnostic? = none) : Moves s (s'.log step)
  | declare {s' : ParseState} (m : Moves s s') (name : String) (type : DataType) (span : Span) :
      Moves s (s'.declare name type span)
  | next {s' : ParseState} (m : Moves s s') : Moves s s'.next
  | reportAt {s' : ParseState} {t u : Token} (m : Moves s s') (cause : Cause) (order : InOrder s.rest t u) :
      Moves s (s'.report cause (u.span.merge t.span))
  | reportEnd {s' : ParseState} (m : Moves s s') (cause : Cause) (last : s'.rest = []) :
      Moves s (s'.report cause none)

/-! ## What every move keeps -/

def taken (s : ParseState) : List Token := s.steps.filterMap Step.taken?

theorem taken_log (s : ParseState) (step : Step) : (s.log step).taken = s.taken ++ step.taken?.toList := by
  unfold taken steps log
  cases h : step.taken? <;> simp [h]

theorem taken_next (s : ParseState) : s.next.taken = s.taken ++ s.rest.head?.toList :=
  taken_log s (.next s.cursor.peek)

theorem taken_report (s : ParseState) (cause : Cause) (span : Option Span) : (s.report cause span).taken = s.taken := by
  simp [report, taken_log, Step.taken?]

namespace Moves

section
variable {s s' : ParseState} (m : Moves s s')
include m

theorem rest_suffix : s'.rest <:+ s.rest := by
  induction m with
  | refl => exact List.suffix_refl _
  | log _ _ _ ih => exact ih
  | declare _ _ _ _ ih => exact ih
  | next _ ih =>
    rw [rest_next]
    exact (List.tail_suffix _).trans ih
  | reportAt _ _ _ ih => exact ih
  | reportEnd _ _ _ ih => exact ih

/-- No token is lost, and none is taken twice or out of turn. -/
theorem taken_append_rest : s'.taken ++ s'.rest = s.taken ++ s.rest := by
  induction m with
  | refl => rfl
  | log _ taken _ ih => rw [taken_log, taken, Option.toList_none, List.append_nil, rest_log, ih]
  | declare _ _ _ _ ih => exact ih
  | @next s' _ ih =>
    rw [taken_next, rest_next, List.append_assoc, ← ih]
    cases s'.rest <;> rfl
  | reportAt _ _ _ ih => rw [taken_report, rest_report, ih]
  | reportEnd _ _ _ ih => rw [taken_report, rest_report, ih]

theorem position_add_rest :
    s'.cursor.position + s'.rest.length = s.cursor.position + s.rest.length := by
  induction m with
  | refl => rfl
  | log _ _ _ ih => exact ih
  | declare _ _ _ _ ih => exact ih
  | @next s' _ ih =>
    rw [← ih]
    unfold ParseState.next rest Cursor.advance
    split
    · rfl
    · next h => simp only [h, List.length_cons]; omega
  | reportAt _ _ _ ih => exact ih
  | reportEnd _ _ _ ih => exact ih

theorem tokens_eq : s'.cursor.tokens = s.cursor.tokens := by
  induction m with
  | refl => rfl
  | log _ _ _ ih => exact ih
  | declare _ _ _ _ ih => exact ih
  | @next s' _ ih =>
    rw [← ih]
    unfold ParseState.next Cursor.advance
    split <;> rfl
  | reportAt _ _ _ ih => exact ih
  | reportEnd _ _ _ ih => exact ih

theorem diagnostics_prefix : s.diagnostics <+: s'.diagnostics := by
  induction m with
  | refl => exact List.prefix_refl _
  | log _ _ silent ih =>
    rw [diagnostics_log, silent, Option.toList_none, List.append_nil]
    exact ih
  | declare _ _ _ _ ih => exact ih
  | next _ ih =>
    rw [diagnostics_next]
    exact ih
  | reportAt _ _ _ ih =>
    rw [diagnostics_report]
    exact ih.trans (List.prefix_append _ _)
  | reportEnd _ _ _ ih =>
    rw [diagnostics_report]
    exact ih.trans (List.prefix_append _ _)

theorem errors_le : s.errors ≤ s'.errors := m.diagnostics_prefix.length_le

end

theorem trans {s s' s'' : ParseState} (m : Moves s s') (m' : Moves s' s'') : Moves s s'' := by
  induction m' with
  | refl => exact m
  | log _ taken silent ih => exact ih.log taken silent
  | declare _ name type span ih => exact ih.declare name type span
  | next _ ih => exact ih.next
  | reportAt _ cause order ih => exact ih.reportAt cause (order.of_suffix m.rest_suffix)
  | reportEnd _ cause last ih => exact ih.reportEnd cause last

/-! ## Moves in a row -/

section
variable {s s' : ParseState} (m : Moves s s')
include m

theorem peek : Moves s s'.peek := m.log rfl rfl

theorem note (text : String) : Moves s (s'.note text) := m.log rfl rfl

theorem emit (f : Fragment) : Moves s (s'.emit f) := m.log rfl rfl

theorem reportToken {t : Token} (h : t ∈ s.rest) (cause : Cause) : Moves s (s'.report cause t.span) := by
  have := m.reportAt cause (InOrder.of_mem h)
  rwa [Span.merge_self] at this

theorem expect (want : String) : Moves s (s'.expect want) := by
  unfold ParseState.expect
  split
  · exact m.next
  · rw [cursor_peek]
    cases h : s'.rest with
    | nil => exact m.next.reportEnd _ (by rw [rest_next, h]; rfl)
    | cons t ts =>
      refine m.next.reportToken ?_ _
      exact m.rest_suffix.subset (by rw [h]; exact List.mem_cons_self)

theorem foldl_expect (wants : List String) : Moves s (wants.foldl ParseState.expect s') := by
  induction wants generalizing s' with
  | nil => exact m
  | cons want wants ih => exact ih (m.expect want)

theorem takeUpTo (stop : Token → Bool) : Moves s (s'.takeUpTo stop) := by
  unfold ParseState.takeUpTo
  apply peek
  generalize s'.upTo stop = ts
  induction ts generalizing s' with
  | nil => exact m
  | cons t ts ih => exact ih m.peek.next

end

end Moves

/-! ## Statements -/

theorem declarationEnd_moves {s s' : ParseState} (m : Moves s s') {type : Token} (h : type ∈ s.rest) (name : Token) :
    Moves s (s'.declarationEnd type name) := by
  unfold declarationEnd
  dsimp only
  split
  · split
    · next ended =>
      refine m.peek.next.next.reportEnd _ ?_
      rw [cursor_peek, List.head?_eq_none_iff] at ended
      rw [rest_next, ended]
      rfl
    · exact ((m.peek.next.next.expect ";").note _).emit _
  · split
    · exact ((m.peek.expect ";").note _).emit _
    · exact (((m.peek.expect ";").note _).reportToken h _).emit _

theorem declaration_moves (s : ParseState) : Moves s s.declaration := by
  unfold declaration
  split
  · exact Moves.refl.next
  · next type htype =>
    have first : type ∈ s.rest := List.mem_of_mem_head? htype
    dsimp only
    split
    · next ended =>
      refine Moves.refl.next.next.reportEnd _ ?_
      rw [cursor_peek, List.head?_eq_none_iff] at ended
      rw [rest_next, ended]
      rfl
    · split
      · exact declarationEnd_moves (Moves.refl.next.next.declare _ _ _) first _
      · exact declarationEnd_moves Moves.refl.next.next first _

theorem printStatement_moves (c : Criteria) (s : ParseState) : Moves s (s.printStatement c) := by
  have opened : Moves s (s.next.expect "(") := Moves.refl.next.expect "("
  unfold printStatement
  dsimp only
  split
  · next ended =>
    refine opened.next.reportEnd _ ?_
    rw [cursor_peek, List.head?_eq_none_iff] at ended
    rw [rest_next, ended]
    rfl
  · next first hfirst =>
    -- the tokens of the argument stand in a row, from `first` to the last of them
    have order : InOrder s.rest first
        ((first :: (s.next.expect "(").next.upTo endsArgument).getLast?.getD first) := by
      obtain ⟨ts, rest⟩ : ∃ ts, (s.next.expect "(").rest = first :: ts := List.head?_eq_some_iff.mp hfirst
      refine InOrder.of_suffix ⟨[], ts, rest, ?_⟩ opened.rest_suffix
      rw [upTo, rest_next, rest, List.tail_cons, List.getLast?_eq_some_getLast (List.cons_ne_nil _ _), Option.getD_some]
      exact List.cons_subset_cons first (List.takeWhile_subset _) (List.getLast_mem _)
    have taken := opened.next.takeUpTo endsArgument
    split
    · exact (((taken.expect ")").expect ";").note _).emit _
    · exact ((((taken.reportAt _ order).expect ")").expect ";").note _).emit _

theorem returnZero_moves (s : ParseState) : Moves s s.returnZero :=
  (((Moves.refl.expect "return").expect "0").expect ";").note _

theorem judge_moves (c : Criteria) {s s' : ParseState} (m : Moves s s') {parts : List Token} (h : parts ⊆ s.rest) :
    Moves s (s'.judge c parts) := by
  unfold judge
  split
  · exact m
  · next first _ =>
    have mem : first ∈ s.rest := h List.mem_cons_self
    split
    · split
      · exact (m.note _).emit _
      · exact m.reportToken mem _
    · exact m.reportToken mem _

theorem otherStatement_moves (c : Criteria) (s : ParseState) : Moves s (s.otherStatement c) := by
  have parts : s.upTo isTerminator ⊆ s.rest := List.takeWhile_subset _
  have taken : Moves s (s.takeUpTo isTerminator) := Moves.refl.takeUpTo isTerminator
  unfold otherStatement
  dsimp only
  split
  · next ended =>
    refine (judge_moves c taken parts).reportEnd _ ?_
    rw [judge_rest]
    exact List.isEmpty_iff.mp ended
  · exact judge_moves c taken.next parts

theorem statement_moves (c : Criteria) (first : Token) (s : ParseState) : Moves s (s.statement c first) := by
  have looked : Moves s s.peekSecond := Moves.refl.log rfl rfl
  unfold statement
  dsimp only
  split
  · exact declaration_moves s
  · split
    · exact printStatement_moves c s
    · split
      · split
        · exact looked.trans (returnZero_moves _)
        · exact looked.trans (otherStatement_moves c _)
      · exact otherStatement_moves c s

/-! ## Entry functions and programs -/

theorem body_moves (c : Criteria) (s : ParseState) : Moves s (s.body c) := by
  fun_induction body c s with
  | case1 s h => exact Moves.refl.peek
  | case2 s t ts h _ => exact Moves.refl.peek
  | case3 s t ts h _ ih => exact (Moves.refl.peek.trans (statement_moves c t s.peek)).trans ih

def opened (s : ParseState) : ParseState :=
  ((["main", "(", ")", "\x7b"].foldl expect s).note "Entering main function").emit .openMain

theorem mainFunction_eq (c : Criteria) (s : ParseState) :
    s.mainFunction c = (((s.opened.body c).expect "\x7d").emit .closeMain).note "Leaving main function" := rfl

theorem opened_moves (s : ParseState) : Moves s s.opened := ((Moves.refl.foldl_expect _).note _).emit _

theorem mainFunction_moves (c : Criteria) (s : ParseState) : Moves s (s.mainFunction c) := by
  rw [mainFunction_eq]
  exact ((((opened_moves s).trans (body_moves c _)).expect "\x7d").emit _).note _

theorem functions_moves (c : Criteria) (s : ParseState) : Moves s (s.functions c) := by
  fun_induction functions c s with
  | case1 s h => exact Moves.refl.peek
  | case2 s t ts h _ ih => exact (Moves.refl.peek.trans (mainFunction_moves c s.peek)).trans ih
  | case3 s t ts h _ ih =>
    refine ((Moves.refl.peek.reportToken ?_ _).next).trans ih
    rw [h]
    exact List.mem_cons_self

theorem program_moves (c : Criteria) (s : ParseState) : Moves s (s.program c) :=
  ((Moves.refl.emit .header).trans (functions_moves c _)).note _

end ParseState

end CSubset
