import CSubset.Parse

/-!
# What the steps of the parser leave behind

The effect of every step on what is reported, put out and declared. `errors` counts the reports: it never goes down,
and stays the same only if every token that was wanted was there.
-/

namespace CSubset

namespace ParseState

def errors (s : ParseState) : Nat := s.diagnostics.length

section
variable (s : ParseState)

@[simp] theorem cursor_peek : s.cursor.peek = s.rest.head? := rfl

@[simp] theorem cursor_atEnd : s.cursor.atEnd = s.rest.isEmpty := rfl

/-! ## Reports -/

theorem diagnostics_log (step : Step) : (s.log step).diagnostics = s.diagnostics ++ step.diagnostic?.toList := by
  unfold diagnostics steps log
  cases h : step.diagnostic? <;> simp [h]

@[simp] theorem diagnostics_note (text : String) : (s.note text).diagnostics = s.diagnostics := by
  simp [note, diagnostics_log, Step.diagnostic?]

@[simp] theorem diagnostics_emit (f : Fragment) : (s.emit f).diagnostics = s.diagnostics := by
  simp [emit, diagnostics_log, Step.diagnostic?]

@[simp] theorem diagnostics_peek : s.peek.diagnostics = s.diagnostics := by
  simp [peek, diagnostics_log, Step.diagnostic?]

@[simp] theorem diagnostics_peekSecond : s.peekSecond.diagnostics = s.diagnostics := by
  simp [peekSecond, diagnostics_log, Step.diagnostic?]

@[simp] theorem diagnostics_next : s.next.diagnostics = s.diagnostics := by
  simp [next, diagnostics, steps, Step.diagnostic?]

@[simp] theorem diagnostics_declare (name : String) (type : DataType) (span : Span) :
    (s.declare name type span).diagnostics = s.diagnostics := rfl

theorem diagnostics_report (cause : Cause) (span : Option Span) :
    (s.report cause span).diagnostics =
      s.diagnostics ++ [⟨cause, s.cursor.position, span.or s.cursor.currentSpan⟩] := by
  simp [report, diagnostics_log, Step.diagnostic?]

/-! ## Fragments -/

theorem fragments_log (step : Step) : (s.log step).fragments = s.fragments ++ step.fragment?.toList := by
  unfold fragments steps log
  cases h : step.fragment? <;> simp [h]

@[simp] theorem fragments_note (text : String) : (s.note text).fragments = s.fragments := by
  simp [note, fragments_log, Step.fragment?]

@[simp] theorem fragments_emit (f : Fragment) : (s.emit f).fragments = s.fragments ++ [f] := by
  simp [emit, fragments_log, Step.fragment?]

@[simp] theorem fragments_peek : s.peek.fragments = s.fragments := by
  simp [peek, fragments_log, Step.fragment?]

@[simp] theorem fragments_peekSecond : s.peekSecond.fragments = s.fragments := by
  simp [peekSecond, fragments_log, Step.fragment?]

@[simp] theorem fragments_next : s.next.fragments = s.fragments := by
  simp [next, fragments, steps, Step.fragment?]

@[simp] theorem fragments_report (cause : Cause) (span : Option Span) :
    (s.report cause span).fragments = s.fragments := by
  simp [report, fragments_log, Step.fragment?]

@[simp] theorem fragments_expect (want : String) : (s.expect want).fragments = s.fragments := by
  unfold expect
  split <;> simp

@[simp] theorem fragments_declare (name : String) (type : DataType) (span : Span) :
    (s.declare name type span).fragments = s.fragments := rfl

/-! ## Declarations -/

@[simp] theorem symbols_note (text : String) : (s.note text).symbols = s.symbols := rfl

@[simp] theorem symbols_emit (f : Fragment) : (s.emit f).symbols = s.symbols := rfl

@[simp] theorem symbols_peek : s.peek.symbols = s.symbols := rfl

@[simp] theorem symbols_peekSecond : s.peekSecond.symbols = s.symbols := rfl

@[simp] theorem symbols_next : s.next.symbols = s.symbols := rfl

@[simp] theorem symbols_declare (name : String) (type : DataType) (span : Span) :
    (s.declare name type span).symbols = s.symbols.declare name type span := rfl

@[simp] theorem symbols_report (cause : Cause) (span : Option Span) : (s.report cause span).symbols = s.symbols := rfl

@[simp] theorem symbols_expect (want : String) : (s.expect want).symbols = s.symbols := by
  unfold expect
  split <;> rfl

/-! ## Counting reports -/

@[simp] theorem errors_note (text : String) : (s.note text).errors = s.errors := by simp [errors]

@[simp] theorem errors_emit (f : Fragment) : (s.emit f).errors = s.errors := by simp [errors]

@[simp] theorem errors_peek : s.peek.errors = s.errors := by simp [errors]

@[simp] theorem errors_peekSecond : s.peekSecond.errors = s.errors := by simp [errors]

@[simp] theorem errors_next : s.next.errors = s.errors := by simp [errors]

@[simp] theorem errors_declare (name : String) (type : DataType) (span : Span) :
    (s.declare name type span).errors = s.errors := rfl

@[simp] theorem errors_report (cause : Cause) (span : Option Span) : (s.report cause span).errors = s.errors + 1 := by
  simp [errors, diagnostics_report]

@[simp] theorem errors_expect (want : String) :
    (s.expect want).errors = s.errors + if s.rest.head?.any (·.hasText want) then 0 else 1 := by
  unfold expect
  rw [cursor_peek]
  split <;> simp

end

theorem expect_of_hasText {s : ParseState} {t : Token} {ts : List Token} (h : s.rest = t :: ts) {want : String}
    (hw : t.lexeme = want) : s.expect want = s.next := by
  unfold expect
  rw [cursor_peek, h]
  simp [Token.hasText, hw]

/-! ## Runs of tokens -/

section
variable {α} (f : ParseState → α) (hpeek : ∀ s, f s.peek = f s) (hnext : ∀ s, f s.next = f s)
include hpeek hnext

theorem takeUpTo_invariant (s : ParseState) (stop : Token → Bool) : f (s.takeUpTo stop) = f s := by
  unfold takeUpTo
  rw [hpeek]
  generalize s.upTo stop = ts
  induction ts generalizing s with
  | nil => rfl
  | cons t ts ih => rw [List.foldl_cons, ih, hnext, hpeek]

end

section
variable (s : ParseState) (stop : Token → Bool)

@[simp] theorem diagnostics_takeUpTo : (s.takeUpTo stop).diagnostics = s.diagnostics :=
  takeUpTo_invariant _ diagnostics_peek diagnostics_next s stop

@[simp] theorem fragments_takeUpTo : (s.takeUpTo stop).fragments = s.fragments :=
  takeUpTo_invariant _ fragments_peek fragments_next s stop

@[simp] theorem symbols_takeUpTo : (s.takeUpTo stop).symbols = s.symbols :=
  takeUpTo_invariant _ symbols_peek symbols_next s stop

@[simp] theorem errors_takeUpTo : (s.takeUpTo stop).errors = s.errors := by simp [errors]

end

end ParseState

end CSubset
