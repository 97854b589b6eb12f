/-!
# Positions and spans

A position is a place between two characters of a text: its byte offset, its line and its column, the last two
counted from one. A span runs from one position to another. Offsets are 64-bit words, lines and columns 32-bit words. A
computation that leaves its word, takes a larger number from a smaller one, or builds a span that ends before it starts
does not go on (`Fault`).
-/

namespace CSubset

inductive Fault where
  | additionOverflow
  | subtractionOverflow
  | reversedSpan
  deriving DecidableEq, Repr

namespace Fault

def message : Fault → String
  | additionOverflow => "attempt to add with overflow"
  | subtractionOverflow => "attempt to subtract with overflow"
  | reversedSpan => "Span start must not be after end"

end Fault

def subtract (a b : Nat) : Except Fault Nat :=
  if b ≤ a then .ok (a - b) else .error .subtractionOverflow

structure Position where
  offset : Nat
  line : Nat
  column : Nat
  deriving DecidableEq, Repr, Ord

namespace Position

def zero : Position := ⟨0, 0, 0⟩

def start : Position := ⟨0, 1, 1⟩

def advance (p : Position) (c : Char) : Position :=
  if c = '\n' then ⟨p.offset + 1, p.line + 1, 1⟩ else ⟨p.offset + c.utf8Size, p.line, p.column + 1⟩

def advanceAll (p : Position) (cs : List Char) : Position := cs.foldl advance p

def InRange (p : Position) : Prop :=
  p.offset < 18446744073709551616 ∧ p.line < 4294967296 ∧ p.column < 4294967296

instance (p : Position) : Decidable p.InRange := inferInstanceAs (Decidable (_ ∧ _))

def step (p : Position) (c : Char) : Except Fault Position :=
  if (p.advance c).InRange then .ok (p.advance c) else .error .additionOverflow

def walk (p : Position) (cs : List Char) : Except Fault Position := cs.foldlM step p

def text (p : Position) : String := toString p.line ++ ":" ++ toString p.column

end Position

structure Span where
  start : Position
  stop : Position
  deriving DecidableEq, Repr

namespace Span

def zero : Span := ⟨.zero, .zero⟩

def between (start stop : Position) : Except Fault Span :=
  if start.offset ≤ stop.offset then .ok ⟨start, stop⟩ else .error .reversedSpan

/-- The earlier of the two starts and the later of the two ends; on equal offsets those of `t`. -/
def merge (s t : Span) : Span where
  start := if s.start.offset < t.start.offset then s.start else t.start
  stop := if t.stop.offset < s.stop.offset then s.stop else t.stop

def length (s : Span) : Except Fault Nat := subtract s.stop.offset s.start.offset

def isEmpty (s : Span) : Bool := s.start.offset == s.stop.offset

def text (s : Span) : String :=
  if s.start.line = s.stop.line then s.start.text ++ "-" ++ toString s.stop.column
  else s.start.text ++ "-" ++ s.stop.text

end Span

end CSubset
