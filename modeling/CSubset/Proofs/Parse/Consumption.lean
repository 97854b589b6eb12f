import CSubset.Proofs.Parse.Moves
import CSubset.Proofs.Parse.Simulation

/-!
# Every token is taken once

The tokens may be any, with classes that do not fit their texts. The parser takes them one by one to the last; so does
every part of it, and no call of `statement` or of `mainFunction` returns without having taken one. Where nothing is
left to take, parsing again only puts out another heading.
-/

namespace CSubset

namespace ParseState

structure Takes (s s' : ParseState) (ts : List Token) : Prop where
  rest : s.rest = ts ++ s'.rest
  taken : s'.taken = s.taken ++ ts
  position : s'.cursor.position = s.cursor.position + ts.length

def Consumes (call : ParseState × ParseState) : Prop := ∃ ts, ts ≠ [] ∧ Takes call.1 call.2 ts

theorem Moves.takes {s s' : ParseState} (m : Moves s s') : ∃ ts, Takes s s' ts := by
  obtain ⟨ts, hts⟩ := m.rest_suffix
  have order := m.taken_append_rest
  have count := m.position_add_rest
  rw [← hts] at order count
  refine ⟨ts, hts.symm, ?_, ?_⟩
  · rw [← List.append_assoc] at order
    exact List.append_cancel_right order
  · rw [List.length_append] at count
    omega

theorem Moves.consumes {s s' : ParseState} (m : Moves s s') (shorter : s'.rest.length < s.rest.length) :
    Consumes (s, s') := by
  obtain ⟨ts, h⟩ := m.takes
  refine ⟨ts, ?_, h⟩
  rintro rfl
  have := h.rest
  rw [List.nil_append] at this
  rw [this] at shorter
  exact Nat.lt_irrefl _ shorter

theorem statement_consumes (c : Criteria) {s : ParseState} {t : Token} {ts : List Token} (h : s.rest = t :: ts) :
    Consumes (s.peek, s.peek.statement c t) :=
  (statement_moves c t s.peek).consumes (statement_rest_lt c h)

theorem mainFunction_consumes (c : Criteria) {s : ParseState} {t : Token} {ts : List Token} (h : s.rest = t :: ts) :
    Consumes (s.peek, s.peek.mainFunction c) :=
  (mainFunction_moves c s.peek).consumes (mainFunction_rest_lt c h)

/-! ## The calls of the two loops -/

/-- The calls that `body` makes from `s` on, in order; at `s'` it makes no more. -/
inductive StatementCalls (c : Criteria) : ParseState → List (ParseState × ParseState) → ParseState → Prop
  | stop {s : ParseState} (h : s.rest.head?.all (·.hasText "\x7d")) : StatementCalls c s [] s
  | call {s : ParseState} {t : Token} {ts : List Token} {calls : List (ParseState × ParseState)} {s' : ParseState}
      (h : s.rest = t :: ts) (inside : ¬t.hasText "\x7d") (more : StatementCalls c (s.peek.statement c t) calls s') :
      StatementCalls c s ((s.peek, s.peek.statement c t) :: calls) s'

theorem StatementCalls.forall_mem {c : Criteria} {P : ParseState × ParseState → Prop}
    (each : ∀ {s : ParseState} {t : Token} {ts : List Token}, s.rest = t :: ts → P (s.peek, s.peek.statement c t))
    {s : ParseState} {calls : List (ParseState × ParseState)} {s' : ParseState} (h : StatementCalls c s calls s') :
    ∀ call ∈ calls, P call := by
  induction h with
  | stop => simp
  | call h _ _ ih =>
    intro call hcall
    rcases List.mem_cons.mp hcall with rfl | hcall
    · exact each h
    · exact ih call hcall

theorem StatementCalls.consume {c : Criteria} {s : ParseState} {calls : List (ParseState × ParseState)}
    {s' : ParseState} (h : StatementCalls c s calls s') : ∀ call ∈ calls, Consumes call :=
  h.forall_mem (statement_consumes c)

theorem body_calls (c : Criteria) (s : ParseState) :
    ∃ calls s', StatementCalls c s calls s' ∧ s.body c = s'.peek := by
  fun_induction body c s with
  | case1 s h => exact ⟨[], s, .stop (by simp [h]), rfl⟩
  | case2 s t ts h close => exact ⟨[], s, .stop (by simpa [h] using close), rfl⟩
  | case3 s t ts h inside ih =>
    obtain ⟨calls, s', more, result⟩ := ih
    exact ⟨_, s', .call h inside more, result⟩

/-- The calls that `functions` makes from `s` on, in order; `s'` is at the end of the input. -/
inductive MainCalls (c : Criteria) : ParseState → List (ParseState × ParseState) → ParseState → Prop
  | stop {s : ParseState} (h : s.rest = []) : MainCalls c s [] s
  | call {s : ParseState} {t : Token} {ts : List Token} {calls : List (ParseState × ParseState)} {s' : ParseState}
      (h : s.rest = t :: ts) (starts : c.isKeyword .main t) (more : MainCalls c (s.peek.mainFunction c) calls s') :
      MainCalls c s ((s.peek, s.peek.mainFunction c) :: calls) s'
  | pass {s : ParseState} {t : Token} {ts : List Token} {calls : List (ParseState × ParseState)} {s' : ParseState}
      (h : s.rest = t :: ts) (other : ¬c.isKeyword .main t)
      (more : MainCalls c (s.peek.report (.tokenOutsideMain t.lexeme) t.span).next calls s') : MainCalls c s calls s'

def MainConsumes (c : Criteria) (main : ParseState × ParseState) : Prop :=
  Consumes main ∧ ∃ calls s', StatementCalls c main.1.opened calls s' ∧
    main.2 = ((s'.peek.expect "\x7d").emit .closeMain).note "Leaving main function" ∧ ∀ call ∈ calls, Consumes call

theorem mainFunction_mainConsumes (c : Criteria) {s : ParseState} {t : Token} {ts : List Token}
    (h : s.rest = t :: ts) : MainConsumes c (s.peek, s.peek.mainFunction c) := by
  obtain ⟨calls, s', inside, result⟩ := body_calls c s.peek.opened
  refine ⟨mainFunction_consumes c h, calls, s', inside, ?_, inside.consume⟩
  rw [mainFunction_eq, result]

theorem MainCalls.consume {c : Criteria} {s : ParseState} {mains : List (ParseState × ParseState)} {s' : ParseState}
    (h : MainCalls c s mains s') : s'.rest = [] ∧ ∀ main ∈ mains, MainConsumes c main := by
  induction h with
  | stop h => exact ⟨h, by simp⟩
  | call h _ _ ih =>
    refine ⟨ih.1, ?_⟩
    intro main hmain
    rcases List.mem_cons.mp hmain with rfl | hmain
    · exact mainFunction_mainConsumes c h
    · exact ih.2 main hmain
  | pass _ _ _ ih => exact ih

theorem functions_calls (c : Criteria) (s : ParseState) :
    ∃ mains s', MainCalls c s mains s' ∧ s.functions c = s'.peek := by
  fun_induction functions c s with
  | case1 s h => exact ⟨[], s, .stop h, rfl⟩
  | case2 s t ts h starts ih =>
    obtain ⟨mains, s', more, result⟩ := ih
    exact ⟨_, s', .call h starts more, result⟩
  | case3 s t ts h other ih =>
    obtain ⟨mains, s', more, result⟩ := ih
    exact ⟨mains, s', .pass h other more, result⟩

/-! ## Parsing again -/

theorem program_of_rest_nil (c : Criteria) {s : ParseState} (h : s.rest = []) :
    s.program c =
      (s.emit .header).peek.note ("Parsing finished: " ++ toString s.symbols.size ++ " symbols declared") := by
  have done : functions c (s.emit .header) = (s.emit .header).peek := functions_of_nil h
  unfold program
  rw [done]
  rfl

end ParseState

theorem Layout.renderOnto_header (l : Layout) (out : String) (count : Nat) (fs : List Fragment) :
    l.renderOnto out count (fs ++ [.header]) = l.renderOnto out count fs ++ (headerComment ++ "\n") := by
  induction fs generalizing out count with
  | nil => rfl
  | cons f fs ih => exact ih _ _

open ParseState in
/-- **Consumption.** Whatever the tokens, the parser takes each of them once and in order, every call of `mainFunction`
and of `statement` on the way takes at least one, and a second run over what is left only puts out the heading. -/
theorem parse_takes_all (tokens : List Token) :
    (parse tokens).taken = tokens ∧ (parse tokens).cursor.position = tokens.length ∧
    (∃ mains s', MainCalls .byClass ((ofTokens tokens).emit .header) mains s' ∧
      parse tokens = s'.peek.note ("Parsing finished: " ++ toString s'.symbols.size ++ " symbols declared") ∧
      ∀ main ∈ mains, MainConsumes .byClass main) ∧
    ((parse tokens).program .byClass).diagnostics = (parse tokens).diagnostics ∧
    ((parse tokens).program .byClass).symbols = (parse tokens).symbols ∧
    ∀ layout : Layout, layout.render ((parse tokens).program .byClass).fragments =
      layout.render (parse tokens).fragments ++ (Layout.headerComment ++ "\n") := by
  obtain ⟨mains, s', calls, result⟩ := functions_calls .byClass ((ofTokens tokens).emit .header)
  obtain ⟨last, consumed⟩ := calls.consume
  have finish : parse tokens =
      s'.peek.note ("Parsing finished: " ++ toString s'.symbols.size ++ " symbols declared") := by
    unfold parse program
    rw [result]
    rfl
  have ended : (parse tokens).rest = [] := by rw [finish, rest_note, rest_peek, last]
  obtain ⟨ts, h⟩ := (program_moves .byClass (ofTokens tokens)).takes
  have all : tokens = ts := by
    have := h.rest
    rwa [show (program .byClass (ofTokens tokens)).rest = [] from ended, List.append_nil] at this
  subst all
  refine ⟨h.taken, h.position.trans (Nat.zero_add _), ⟨mains, s', calls, finish, consumed⟩, ?_⟩
  rw [program_of_rest_nil .byClass ended]
  refine ⟨?_, rfl, ?_⟩
  · rw [diagnostics_note, diagnostics_peek, diagnostics_emit]
  · intro layout
    rw [fragments_note, fragments_peek, fragments_emit]
    exact layout.renderOnto_header "" 0 _

end CSubset
