import CSubset.Text.Characters

/-!
# Cutting a text into lexemes

At the first character that is not blank a lexeme starts. A quote with another quote somewhere behind it starts a
string, which ends at the next quote; a word character starts a run of word characters; any other character, and a
quote without a partner, is a lexeme of its own. Every lexeme is kept together with the blanks before it.
-/

namespace CSubset

structure Piece where
  gap : List Char
  lexeme : List Char
  deriving DecidableEq, Repr

def cutLexeme (c : Char) (cs : List Char) : List Char × List Char :=
  if c = '"' then
    match cs.dropWhile (· ≠ '"') with
    | [] => ([c], cs)
    | q :: rest => (c :: (cs.takeWhile (· ≠ '"') ++ [q]), rest)
  else if isWordChar c then (c :: cs.takeWhile isWordChar, cs.dropWhile isWordChar)
  else ([c], cs)

/-- At most `room` pieces of a text after those in `done` (last piece first), and what is left of it. -/
def cutFrom : (room : Nat) → (done : List Piece) → List Char → List Piece × List Char
  | 0, done, cs => (done.reverse, cs)
  | room + 1, done, cs =>
    match cs.dropWhile isBlank with
    | [] => (done.reverse, cs)
    | c :: rest => cutFrom room (⟨cs.takeWhile isBlank, (cutLexeme c rest).1⟩ :: done) (cutLexeme c rest).2

/-- The first pieces of a text, at most `room`, and what is left of it. As long as there is room, that is blank. -/
def cut (room : Nat) (cs : List Char) : List Piece × List Char := cutFrom room [] cs

end CSubset
