import CSubset.Token

/-!
# A cursor over a token list

The cursor only moves forward, and stays put at the end.
-/

namespace CSubset

structure Cursor where
  tokens : List Token
  rest : List Token
  position : Nat
  deriving DecidableEq, Repr

namespace Cursor

def ofTokens (tokens : List Token) : Cursor := ⟨tokens, tokens, 0⟩

def peek (c : Cursor) : Option Token := c.rest.head?

def advance (c : Cursor) : Cursor :=
  match c.rest with
  | [] => c
  | _ :: rest => { c with rest, position := c.position + 1 }

def atEnd (c : Cursor) : Bool := c.rest.isEmpty

/-- The token `n` places ahead. The place is a 64-bit word. -/
def peekAhead (c : Cursor) (n : Nat) : Except Fault (Option Token) :=
  if c.position + n < 18446744073709551616 then .ok c.rest[n]? else .error .additionOverflow

/-- The span of the token under the cursor, or of the last one at the end. -/
def currentSpan (c : Cursor) : Option Span := (c.peek.or c.tokens.getLast?).map (·.span)

@[simp] theorem rest_advance (c : Cursor) : c.advance.rest = c.rest.tail := by
  unfold advance; split <;> simp_all

end Cursor

end CSubset
