import CSubset.Diagnostic
import CSubset.Output
import CSubset.Symbol
import CSubset.Token.Cursor

/-!
# The state of the parser

The parser reads tokens through a cursor, knows the variables declared so far, and keeps a journal of all it does:
what it looked at, what it took, what it reported, what it recognised and what it put out. Trace, diagnostics and
output are read off the journal.
-/

namespace CSubset

inductive Step where
  | peek (token : Option Token)
  | peekAhead (n : Nat) (token : Option Token)
  | next (token : Option Token)
  | report (d : Diagnostic)
  | note (text : String)
  | emit (f : Fragment)
  deriving DecidableEq, Repr

namespace Step

def tokenText : Option Token → String
  | some t => "'" ++ t.lexeme ++ "' (token " ++ toString t.index ++ ")"
  | none => "None"

def traceLine? : Step → Option String
  | peek t => some ("peek: " ++ tokenText t)
  | peekAhead n t => some ("peek+" ++ toString n ++ ": " ++ tokenText t)
  | next t => some ("next: " ++ tokenText t)
  | report d => some ("error at token " ++ toString d.position ++ ": " ++ d.message)
  | note text => some text
  | emit _ => none

def diagnostic? : Step → Option Diagnostic
  | report d => some d
  | _ => none

def fragment? : Step → Option Fragment
  | emit f => some f
  | _ => none

def taken? : Step → Option Token
  | next t => t
  | _ => none

end Step

structure ParseState where
  cursor : Cursor
  symbols : SymbolTable
  /-- The steps done so far, last one first. -/
  journal : List Step

namespace ParseState

def ofTokens (tokens : List Token) : ParseState := ⟨.ofTokens tokens, .empty, []⟩

def steps (s : ParseState) : List Step := s.journal.reverse

def traceLines (s : ParseState) : List String := s.steps.filterMap Step.traceLine?

def diagnostics (s : ParseState) : List Diagnostic := s.steps.filterMap Step.diagnostic?

def fragments (s : ParseState) : List Fragment := s.steps.filterMap Step.fragment?

def rest (s : ParseState) : List Token := s.cursor.rest

def log (s : ParseState) (step : Step) : ParseState := { s with journal := step :: s.journal }

def note (s : ParseState) (text : String) : ParseState := s.log (.note text)

def emit (s : ParseState) (f : Fragment) : ParseState := s.log (.emit f)

def peek (s : ParseState) : ParseState := s.log (.peek s.cursor.peek)

def peekSecond (s : ParseState) : ParseState := s.log (.peekAhead 1 s.rest[1]?)

def next (s : ParseState) : ParseState :=
  { s with cursor := s.cursor.advance, journal := .next s.cursor.peek :: s.journal }

def declare (s : ParseState) (name : String) (type : DataType) (span : Span) : ParseState :=
  { s with symbols := s.symbols.declare name type span }

/-- Reports an error where the cursor stands. An error without a place of its own is about the current token. -/
def report (s : ParseState) (cause : Cause) (span : Option Span) : ParseState :=
  s.log (.report ⟨cause, s.cursor.position, span.or s.cursor.currentSpan⟩)

def mismatch (want : String) (found : Option Token) : Cause :=
  if want = ";" then .missingTerminator (found.map (·.lexeme))
  else match found with
    | some t => .unexpectedToken want t.lexeme
    | none => .unexpectedEnd want

/-- Takes a token, whatever it is, and reports it unless it is the one that is wanted. -/
def expect (s : ParseState) (want : String) : ParseState :=
  if s.cursor.peek.any (·.hasText want) then s.next
  else s.next.report (mismatch want s.cursor.peek) (s.cursor.peek.map (·.span))

def upTo (s : ParseState) (stop : Token → Bool) : List Token := s.rest.takeWhile (!stop ·)

def takeUpTo (s : ParseState) (stop : Token → Bool) : ParseState :=
  ((s.upTo stop).foldl (fun s _ => s.peek.next) s).peek

/-! ## What is left to read -/

section
variable (s : ParseState)

@[simp] theorem rest_log (step : Step) : (s.log step).rest = s.rest := rfl

@[simp] theorem rest_note (text : String) : (s.note text).rest = s.rest := rfl

@[simp] theorem rest_emit (f : Fragment) : (s.emit f).rest = s.rest := rfl

@[simp] theorem rest_peek : s.peek.rest = s.rest := rfl

@[simp] theorem rest_peekSecond : s.peekSecond.rest = s.rest := rfl

@[simp] theorem rest_report (cause : Cause) (span : Option Span) : (s.report cause span).rest = s.rest := rfl

@[simp] theorem rest_declare (name : String) (type : DataType) (span : Span) :
    (s.declare name type span).rest = s.rest := rfl

@[simp] theorem rest_next : s.next.rest = s.rest.tail := Cursor.rest_advance s.cursor

@[simp] theorem rest_expect (want : String) : (s.expect want).rest = s.rest.tail := by
  unfold expect; split <;> simp

end

theorem rest_foldl_next (ts : List Token) (s : ParseState) :
    (ts.foldl (fun s _ => s.peek.next) s).rest = s.rest.drop ts.length := by
  induction ts generalizing s with
  | nil => rfl
  | cons t ts ih => simp [ih, List.drop_tail]

@[simp] theorem rest_takeUpTo (s : ParseState) (stop : Token → Bool) :
    (s.takeUpTo stop).rest = s.rest.drop (s.upTo stop).length := by
  simp [takeUpTo, rest_foldl_next]

end ParseState

end CSubset
