import CSubset.Proofs.Parse.Moves

/-!
# Reports come in the order of their positions

The cursor never goes back, and a report is made where the cursor stands. So what is reported from some state on is not
about an earlier position (`Later`), and the reports of a run are in order.
-/

namespace CSubset

namespace ParseState

/-- Between `s` and `s'` the cursor did not go back, and nothing was reported behind it. -/
structure Later (s s' : ParseState) : Prop where
  position : s.cursor.position ≤ s'.cursor.position
  diagnostics : ∃ ds, s'.diagnostics = s.diagnostics ++ ds ∧ ∀ d ∈ ds, s.cursor.position ≤ d.position

theorem position_next_of_nil {s : ParseState} (h : s.rest = []) : s.next.cursor.position = s.cursor.position := by
  have := (Moves.refl (s := s)).next.position_add_rest
  simpa [h] using this

theorem position_next_of_cons {s : ParseState} {t : Token} {ts : List Token} (h : s.rest = t :: ts) :
    s.next.cursor.position = s.cursor.position + 1 := by
  have := (Moves.refl (s := s)).next.position_add_rest
  simp [h] at this
  omega

theorem rest_next_of_none {s : ParseState} (h : s.rest.head? = none) : s.next.rest = [] := by
  rw [rest_next, List.head?_eq_none_iff.mp h]
  rfl

namespace Later

theorem refl (s : ParseState) : Later s s := ⟨Nat.le_refl _, [], by simp, by simp⟩

theorem trans {s s' s'' : ParseState} (m : Later s s') (m' : Later s' s'') : Later s s'' := by
  obtain ⟨position, ds, new, late⟩ := m
  obtain ⟨position', es, new', late'⟩ := m'
  refine ⟨Nat.le_trans position position', ds ++ es, by rw [new', new, List.append_assoc], ?_⟩
  intro d hd
  rcases List.mem_append.mp hd with hd | hd
  · exact late d hd
  · exact Nat.le_trans position (late' d hd)

section
variable {s s' : ParseState} (m : Later s s')
include m

theorem grows : s.diagnostics <+: s'.diagnostics := by
  obtain ⟨-, ds, new, -⟩ := m
  exact ⟨ds, new.symm⟩

theorem log {step : Step} (silent : step.diagnostic? = none) : Later s (s'.log step) := by
  obtain ⟨position, ds, new, late⟩ := m
  refine ⟨position, ds, ?_, late⟩
  rw [diagnostics_log, silent, new]
  simp

theorem peek : Later s s'.peek := m.log rfl

theorem note (text : String) : Later s (s'.note text) := m.log rfl

theorem emit (f : Fragment) : Later s (s'.emit f) := m.log rfl

theorem declare (name : String) (type : DataType) (span : Span) : Later s (s'.declare name type span) :=
  ⟨m.position, m.diagnostics⟩

theorem next : Later s s'.next := by
  obtain ⟨position, ds, new, late⟩ := m
  refine ⟨?_, ds, by rw [diagnostics_next, new], late⟩
  cases h : s'.rest with
  | nil => rwa [position_next_of_nil h]
  | cons t ts => rw [position_next_of_cons h]; omega

theorem report (cause : Cause) (span : Option Span) : Later s (s'.report cause span) := by
  obtain ⟨position, ds, new, late⟩ := m
  refine ⟨position, ds ++ [⟨cause, s'.cursor.position, span.or s'.cursor.currentSpan⟩], ?_, ?_⟩
  · rw [diagnostics_report, new, List.append_assoc]
  · intro d hd
    rcases List.mem_append.mp hd with hd | hd
    · exact late d hd
    · rw [List.mem_singleton.mp hd]
      exact position

theorem expect (want : String) : Later s (s'.expect want) := by
  unfold ParseState.expect
  split
  · exact m.next
  · exact m.next.report _ _

theorem takeUpTo (stop : Token → Bool) : Later s (s'.takeUpTo stop) := by
  unfold ParseState.takeUpTo
  apply peek
  generalize s'.upTo stop = ts
  induction ts generalizing s' with
  | nil => exact m
  | cons t ts ih => exact ih m.peek.next

theorem declarationEnd (type name : Token) : Later s (s'.declarationEnd type name) := by
  unfold ParseState.declarationEnd
  dsimp only
  split
  · split
    · exact m.peek.next.next.report _ _
    · exact ((m.peek.next.next.expect ";").note _).emit _
  · split
    · exact ((m.peek.expect ";").note _).emit _
    · exact (((m.peek.expect ";").note _).report _ _).emit _

theorem judge (c : Criteria) (parts : List Token) : Later s (s'.judge c parts) := by
  unfold ParseState.judge
  split
  · exact m
  · split
    · split
      · exact (m.note _).emit _
      · exact m.report _ _
    · exact m.report _ _

end

end Later

theorem Moves.later {s s' : ParseState} (m : Moves s s') : Later s s' := by
  induction m with
  | refl => exact Later.refl s
  | log _ _ silent ih => exact ih.log silent
  | declare _ name type span ih => exact ih.declare name type span
  | next _ ih => exact ih.next
  | reportAt _ cause _ ih => exact ih.report cause _
  | reportEnd _ cause _ ih => exact ih.report cause none

/-! ## The reports of a run -/

structure Ordered (s : ParseState) : Prop where
  sorted : s.diagnostics.Pairwise (·.position ≤ ·.position)
  reached : ∀ d ∈ s.diagnostics, d.position ≤ s.cursor.position

theorem Ordered.report {s : ParseState} (h : Ordered s) (cause : Cause) (span : Option Span) :
    Ordered (s.report cause span) := by
  constructor
  · rw [diagnostics_report, List.pairwise_append]
    refine ⟨h.sorted, List.pairwise_singleton _ _, ?_⟩
    intro d hd e he
    rw [List.mem_singleton.mp he]
    exact h.reached d hd
  · intro d hd
    rw [diagnostics_report] at hd
    rcases List.mem_append.mp hd with hd | hd
    · exact h.reached d hd
    · rw [List.mem_singleton.mp hd]
      exact Nat.le_refl _

theorem Moves.ordered {s s' : ParseState} (m : Moves s s') (h : Ordered s) : Ordered s' := by
  induction m with
  | refl => exact h
  | @log s' step _ _ silent ih =>
    have same := diagnostics_log s' step
    rw [silent, Option.toList_none, List.append_nil] at same
    exact ⟨same ▸ ih.sorted, same ▸ ih.reached⟩
  | declare _ _ _ _ ih => exact ⟨ih.sorted, ih.reached⟩
  | @next s' _ ih =>
    refine ⟨by rw [diagnostics_next]; exact ih.sorted, ?_⟩
    intro d hd
    rw [diagnostics_next] at hd
    exact Nat.le_trans (ih.reached d hd) (Later.refl s').next.position
  | reportAt _ cause _ ih => exact ih.report cause _
  | reportEnd _ cause _ ih => exact ih.report cause none

/-! ## What comes after a look at the input -/

theorem declarationEnd_later {s : ParseState} (given : s.rest.head?.any (·.hasText "=")) (type name : Token) :
    Later s.peek.next (s.declarationEnd type name) := by
  simp only [declarationEnd, cursor_peek, rest_peek, given, ite_true]
  split
  · exact (Later.refl _).next.report _ _
  · exact (((Later.refl _).next.expect ";").note _).emit _

theorem declaration_later (s : ParseState) : Later s.next s.declaration := by
  unfold declaration
  split
  · exact Later.refl _
  · dsimp only
    split
    · exact (Later.refl _).next.report _ _
    · split
      · exact ((Later.refl _).next.declare _ _ _).declarationEnd _ _
      · exact (Later.refl _).next.declarationEnd _ _

theorem printStatement_later (c : Criteria) (s : ParseState) : Later (s.next.expect "(") (s.printStatement c) := by
  unfold printStatement
  dsimp only
  split
  · exact (Later.refl _).next.report _ _
  · have taken := (Later.refl (s.next.expect "(")).next.takeUpTo endsArgument
    split
    · exact (((taken.expect ")").expect ";").note _).emit _
    · exact ((((taken.report _ _).expect ")").expect ";").note _).emit _

theorem takeUpTo_of_stop {s : ParseState} (stop : Token → Bool) (h : s.rest.head?.all stop) :
    s.upTo stop = [] ∧ s.takeUpTo stop = s.peek := by
  have none : s.upTo stop = [] := by
    unfold upTo
    cases rest : s.rest with
    | nil => rfl
    | cons t ts =>
      rw [rest] at h
      exact List.takeWhile_cons_of_neg (by simpa using h)
  refine ⟨none, ?_⟩
  unfold takeUpTo
  rw [none]
  rfl

theorem takeUpTo_of_go {s : ParseState} {stop : Token → Bool} {t : Token} {ts : List Token} (h : s.rest = t :: ts)
    (go : stop t = false) :
    s.upTo stop = t :: s.peek.next.upTo stop ∧ s.takeUpTo stop = s.peek.next.takeUpTo stop := by
  have more : s.upTo stop = t :: s.peek.next.upTo stop := by
    unfold upTo
    rw [rest_next, rest_peek, h]
    exact List.takeWhile_cons_of_pos (by simp [go])
  refine ⟨more, ?_⟩
  unfold takeUpTo
  rw [more]
  rfl

theorem otherStatement_later (c : Criteria) (s : ParseState) :
    Later (s.takeUpTo isTerminator) (s.otherStatement c) := by
  unfold otherStatement
  dsimp only
  split
  · exact ((Later.refl _).judge c _).report _ _
  · exact (Later.refl _).next.judge c _

/-! ## Reports after the first token -/

theorem looked_later_next (s : ParseState) : Later s.next s.peek.next := ⟨Nat.le_refl _, [], by simp, by simp⟩

theorem otherStatement_later_next (c : Criteria) {s : ParseState} {t : Token} {ts : List Token} (h : s.rest = t :: ts) :
    Later s.next (s.otherStatement c) := by
  by_cases stop : isTerminator t
  · obtain ⟨none, taken⟩ := takeUpTo_of_stop (s := s) isTerminator (by rw [h]; exact stop)
    have run : s.otherStatement c = s.peek.next := by simp [otherStatement, none, taken, h, judge]
    rw [run]
    exact looked_later_next s
  · obtain ⟨-, taken⟩ := takeUpTo_of_go h (by simpa using stop)
    have rest := otherStatement_later c s
    rw [taken] at rest
    exact ((looked_later_next s).takeUpTo isTerminator).trans rest

/-- Whatever follows `return`, nothing is reported before that word is taken. -/
theorem return_later_next (c : Criteria) {s : ParseState} {t : Token} {ts : List Token} (h : s.rest = t :: ts) :
    Later s.next
      (if s.peekSecond.rest[1]?.any (·.hasText "0") then s.peekSecond.returnZero else s.peekSecond.otherStatement c) := by
  have second : Later s.next s.peekSecond.next := ⟨Nat.le_refl _, [], by simp, by simp⟩
  split
  · have word : Later s.next (s.peekSecond.expect "return") := by
      unfold expect
      split
      · exact second
      · exact second.report _ _
    exact ((word.expect "0").expect ";").note _
  · exact second.trans (otherStatement_later_next c h)

end ParseState

theorem parse_ordered (tokens : List Token) : (parse tokens).Ordered :=
  (ParseState.program_moves .byClass (.ofTokens tokens)).ordered ⟨.nil, by intro d hd; cases hd⟩

end CSubset
