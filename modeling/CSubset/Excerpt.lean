import CSubset.Span

/-!
# Excerpts of a source text

A source text with an index of its lines, and the form in which a message shows the line that a span starts on, with
carets below the part that the span covers.
-/

namespace CSubset

/-- The offsets after the newlines of a text that has `offset` bytes in front of it, behind those in `starts`. -/
def indexLines : (starts : Array Nat) → (offset : Nat) → List Char → Array Nat
  | starts, _, [] => starts
  | starts, offset, c :: cs =>
    if c = '\n' then indexLines (starts.push (offset + 1)) (offset + 1) cs
    else indexLines starts (offset + c.utf8Size) cs

/-- The text between two byte offsets. There is none if one of them is inside a character. -/
def sliceBytes? (text : String) (start stop : Nat) : Option String := do
  let first ← text.pos? ⟨start⟩
  let last ← text.pos? ⟨stop⟩
  if start ≤ stop then some (text.extract first last) else none

def trimReturns (text : String) : String :=
  String.ofList (text.toList.reverse.dropWhile (· = '\r')).reverse

structure SourceText where
  text : String
  lineStarts : Array Nat

namespace SourceText

def ofString (source : String) : SourceText := ⟨source, indexLines #[0] 0 source.toList⟩

/-- The offsets of the first character of line `n` and of the character after its last. Lines count from one. -/
def bounds? (source : SourceText) (n : Nat) : Option (Nat × Nat) :=
  if n = 0 then none
  else source.lineStarts[n - 1]?.map fun start =>
    (start, (source.lineStarts[n]?.map (· - 1)).getD source.text.utf8ByteSize)

def line? (source : SourceText) (n : Nat) : Option String := do
  let (start, stop) ← source.bounds? n
  return trimReturns (← sliceBytes? source.text start stop)

end SourceText

def spaces (n : Nat) : String := String.ofList (List.replicate n ' ')

/-- The number of carets below `line`: to the end of the span, or of the line if the span goes on, but at least
one. -/
def caretCount (span : Span) (line : String) : Except Fault Nat := do
  let n ←
    if span.start.line = span.stop.line then subtract span.stop.column span.start.column
    else subtract (line.length + 1) span.start.column
  return max n 1

def SourceText.excerpt (source : SourceText) (span : Span) (message : String) : Except Fault String := do
  let heading := "error: " ++ message ++ "\n  --> " ++ span.start.text ++ "\n"
  match source.line? span.start.line with
  | none => return heading
  | some line =>
    let number := toString span.start.line
    let gutter := " " ++ spaces number.length ++ " |"
    let carets ← caretCount span line
    return heading ++ gutter ++ "\n" ++ number ++ " | " ++ line ++ "\n" ++ gutter ++ " "
      ++ spaces (span.start.column - 1) ++ String.ofList (List.replicate carets '^') ++ "\n"

end CSubset
