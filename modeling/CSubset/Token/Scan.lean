import CSubset.Limits
import CSubset.Token
import CSubset.Token.Pieces

/-!
# Scanning

The pieces of a text become tokens by giving each its place. At most as many tokens are made as the limit allows;
the first character of the first lexeme beyond the limit is remembered and scanning stops before it.
-/

namespace CSubset

structure Scan where
  tokens : List Token
  /-- The first character of the lexeme that did not fit. -/
  excess : Option Span
  stop : Position
  deriving DecidableEq, Repr

def tokenLimit (limit : Nat) : Nat := min limit Limits.current.maxTokenCount

/-- Tokens for the pieces, of which the first has the given index and is reached from `p`; and the position after
them. `done` holds the tokens already made, last one first. -/
def placeFrom (done : List Token) (index : Nat) (p : Position) : List Piece → Except Fault (List Token × Position)
  | [] => .ok (done.reverse, p)
  | piece :: pieces => do
    let start ← p.walk piece.gap
    let stop ← start.walk piece.lexeme
    let span ← Span.between start stop
    placeFrom (.ofLexeme (String.ofList piece.lexeme) index span :: done) (index + 1) stop pieces

def excessSpan (p : Position) (piece : Piece) : Except Fault (Span × Position) := do
  let start ← p.walk piece.gap
  let stop ← start.walk (piece.lexeme.take 1)
  let span ← Span.between start stop
  return (span, start)

def scan (limit : Nat) (source : String) : Except Fault Scan := do
  let (pieces, rest) := cut (tokenLimit limit) source.toList
  let (tokens, p) ← placeFrom [] 0 .start pieces
  match cut 1 rest with
  | ([], tail) =>
    let stop ← p.walk tail
    return ⟨tokens, none, stop⟩
  | (piece :: _, _) =>
    let (span, start) ← excessSpan p piece
    return ⟨tokens, some span, start⟩

end CSubset
