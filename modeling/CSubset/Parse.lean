import CSubset.Parse.State

/-!
# Parsing

A program is a sequence of entry functions `main ( ) { statement* }`. The parser goes through the tokens once and
never stops at an error: a token that does not fit is reported and passed over. A statement is a declaration, a
print statement, `return 0`, or anything up to the next semicolon, of which only assignments to declared variables
and the empty statement are accepted.
-/

namespace CSubset

namespace ParseState

def declarationEnd (s : ParseState) (type name : Token) : ParseState :=
  let s := s.peek
  if s.cursor.peek.any (·.hasText "=") then
    let s := s.next
    match s.cursor.peek with
    | none => s.next.report (.unexpectedEnd "value") none
    | some value =>
      let s := s.next.expect ";"
      let s := s.note ("Recognized declaration: " ++ type.lexeme ++ " " ++ name.lexeme ++ " = " ++ value.lexeme)
      s.emit (.statement (.declare name.lexeme (.given value.lexeme)))
  else
    let s := s.expect ";"
    let s := s.note ("Recognized declaration: " ++ type.lexeme ++ " " ++ name.lexeme)
    match DataType.ofName? type.lexeme with
    | some d => s.emit (.statement (.declare name.lexeme (.default d)))
    | none =>
      (s.report (.unknownType type.lexeme) type.span).emit (.statement (.declare name.lexeme .unknown))

/-- Whatever token follows the type is the name, and it is declared before the rest is read. -/
def declaration (s : ParseState) : ParseState :=
  match s.cursor.peek with
  | none => s.next
  | some type =>
    let s := s.next
    match s.cursor.peek with
    | none => s.next.report (.unexpectedEnd "identifier") none
    | some name =>
      let s := s.next
      let s := match DataType.ofName? type.lexeme with
        | some d => s.declare name.lexeme d name.span
        | none => s
      s.declarationEnd type name

def endsArgument (t : Token) : Bool := t.hasText ")" || t.hasText ";"

def printed? (c : Criteria) (symbols : SymbolTable) (first : Token) (more : List Token) : Option Printed :=
  if more ≠ [] then none
  else if c.isStringLiteral first then some (.literal first.lexeme)
  else (symbols.lookup first.lexeme).map (.named first.lexeme)

/-- The argument is a single token; further tokens before the end of the argument make it invalid. -/
def printStatement (c : Criteria) (s : ParseState) : ParseState :=
  let s := s.next.expect "("
  match s.cursor.peek with
  | none => s.next.report (.unexpectedEnd "print argument") none
  | some first =>
    let s := s.next
    let more := s.upTo endsArgument
    let s := s.takeUpTo endsArgument
    let text := Token.joinLexemes (first :: more)
    let span := (((first :: more).getLast?.getD first).span).merge first.span
    let found := printed? c s.symbols first more
    let s := if found.isSome then s else s.report (.invalidPrintArgument text) span
    let s := (s.expect ")").expect ";"
    (s.note ("Recognized print: " ++ text)).emit (.statement (.print (found.getD (.raw text))))

def returnZero (s : ParseState) : ParseState :=
  (((s.expect "return").expect "0").expect ";").note "Skipped return 0"

def isAssignment (c : Criteria) : List Token → Bool
  | name :: eq :: _ :: _ => c.isWordlike name && eq.hasText "="
  | _ => false

def judge (c : Criteria) (s : ParseState) (parts : List Token) : ParseState :=
  match parts with
  | [] => s
  | first :: rest =>
    if isAssignment c parts then
      if s.symbols.contains first.lexeme then
        let value := Token.joinLexemes rest.tail
        (s.note ("Recognized assignment: " ++ first.lexeme ++ " = " ++ value)).emit
          (.statement (.assign first.lexeme value))
      else s.report (.undeclaredAssignment first.lexeme) first.span
    else s.report (.unrecognizedStatement (Token.joinLexemes parts)) first.span

def isTerminator (t : Token) : Bool := t.hasText ";"

def otherStatement (c : Criteria) (s : ParseState) : ParseState :=
  let parts := s.upTo isTerminator
  let s := s.takeUpTo isTerminator
  if s.cursor.atEnd then (s.judge c parts).report (.missingTerminator none) none
  else s.next.judge c parts

/-- A statement that starts with `first`. Only after `return` a second token decides. -/
def statement (c : Criteria) (first : Token) (s : ParseState) : ParseState :=
  if c.isTypeName first then s.declaration
  else if c.isKeyword .print first then s.printStatement c
  else if c.isKeyword .return first then
    let s := s.peekSecond
    if s.rest[1]?.any (·.hasText "0") then s.returnZero else s.otherStatement c
  else s.otherStatement c

/-! ## Every statement takes a token -/

theorem declarationEnd_rest (s : ParseState) (type name : Token) : (s.declarationEnd type name).rest <:+ s.rest := by
  have tail₂ := (List.tail_suffix s.rest.tail).trans (List.tail_suffix s.rest)
  have tail₃ := (List.tail_suffix s.rest.tail.tail).trans tail₂
  unfold declarationEnd
  dsimp only
  split
  · split <;> simp [tail₂, tail₃]
  · split <;> simp [List.tail_suffix]

theorem declaration_rest (s : ParseState) : s.declaration.rest <:+ s.rest.tail := by
  have tail₂ := List.tail_suffix s.rest.tail
  unfold declaration
  split
  · simp
  · dsimp only
    split
    · simp [tail₂]
    · split <;> exact (declarationEnd_rest ..).trans (by simp [tail₂])

theorem printStatement_rest (c : Criteria) (s : ParseState) : (s.printStatement c).rest <:+ s.rest.tail := by
  have tail₂ := List.tail_suffix s.rest.tail
  have tail₃ := (List.tail_suffix s.rest.tail.tail).trans tail₂
  unfold printStatement
  dsimp only
  split
  · simp [tail₃]
  · split <;> simp only [rest_emit, rest_note, rest_expect, rest_takeUpTo, rest_report, rest_next] <;>
      exact (((List.tail_suffix _).trans (List.tail_suffix _)).trans (List.drop_suffix ..)).trans tail₃

@[simp] theorem judge_rest (c : Criteria) (s : ParseState) (parts : List Token) :
    (s.judge c parts).rest = s.rest := by
  unfold judge
  split
  · rfl
  · split
    · split <;> simp
    · simp

theorem otherStatement_rest (c : Criteria) (s : ParseState) : (s.otherStatement c).rest <:+ s.rest.tail := by
  unfold otherStatement
  dsimp only
  split
  · next h =>
    have : (s.takeUpTo isTerminator).rest = [] := List.isEmpty_iff.1 h
    simp [-rest_takeUpTo, this]
  · simpa [List.tail_drop, ← List.drop_tail] using List.drop_suffix _ s.rest.tail

theorem statement_rest (c : Criteria) (first : Token) (s : ParseState) :
    (s.statement c first).rest <:+ s.rest.tail := by
  have tail₃ := (List.tail_suffix s.rest.tail.tail).trans (List.tail_suffix s.rest.tail)
  unfold statement
  dsimp only
  split
  · exact declaration_rest s
  · split
    · exact printStatement_rest c s
    · split
      · split
        · simpa [returnZero] using tail₃
        · exact otherStatement_rest c s.peekSecond
      · exact otherStatement_rest c s

theorem statement_rest_lt (c : Criteria) {first : Token} {s : ParseState} {ts : List Token}
    (h : s.rest = first :: ts) : (s.peek.statement c first).rest.length < s.rest.length := by
  have := (statement_rest c first s.peek).length_le
  simp only [rest_peek, h, List.tail_cons, List.length_cons] at this ⊢
  omega

/-! ## Entry functions and programs -/

def body (c : Criteria) (s : ParseState) : ParseState :=
  match _h : s.rest with
  | [] => s.peek
  | t :: _ => if t.hasText "\x7d" then s.peek else body c (s.peek.statement c t)
termination_by s.rest.length
decreasing_by exact statement_rest_lt c _h

def mainFunction (c : Criteria) (s : ParseState) : ParseState :=
  let s := (((s.expect "main").expect "(").expect ")").expect "\x7b"
  let s := body c ((s.note "Entering main function").emit .openMain)
  ((s.expect "\x7d").emit .closeMain).note "Leaving main function"

theorem body_rest (c : Criteria) (s : ParseState) : (s.body c).rest <:+ s.rest := by
  fun_induction body c s with
  | case1 s h => simp
  | case2 s t ts h _ => simp
  | case3 s t ts h _ ih => exact ih.trans ((statement_rest c t s.peek).trans (List.tail_suffix _))

theorem mainFunction_rest (c : Criteria) (s : ParseState) : (s.mainFunction c).rest <:+ s.rest.tail := by
  unfold mainFunction
  simp only [rest_note, rest_emit, rest_expect]
  refine (List.tail_suffix _).trans ((body_rest ..).trans ?_)
  simp only [rest_emit, rest_note, rest_expect]
  exact ((List.tail_suffix _).trans (List.tail_suffix _)).trans (List.tail_suffix _)

theorem mainFunction_rest_lt (c : Criteria) {first : Token} {s : ParseState} {ts : List Token}
    (h : s.rest = first :: ts) : (s.peek.mainFunction c).rest.length < s.rest.length := by
  have := (mainFunction_rest c s.peek).length_le
  simp only [rest_peek, h, List.tail_cons, List.length_cons] at this ⊢
  omega

def functions (c : Criteria) (s : ParseState) : ParseState :=
  match _h : s.rest with
  | [] => s.peek
  | t :: _ =>
    if c.isKeyword .main t then functions c (s.peek.mainFunction c)
    else functions c (s.peek.report (.tokenOutsideMain t.lexeme) t.span).next
termination_by s.rest.length
decreasing_by
  · exact mainFunction_rest_lt c _h
  · simp [_h]

def program (c : Criteria) (s : ParseState) : ParseState :=
  let s := functions c (s.emit .header)
  s.note ("Parsing finished: " ++ toString s.symbols.size ++ " symbols declared")

end ParseState

def parse (tokens : List Token) : ParseState := (ParseState.ofTokens tokens).program .byClass

end CSubset
