import CSubset.Json.Read

/-!
# Characters, strings and keys of TOML

Each reader takes the characters ahead and gives what it read together with what is left. The fuel of a reader is more
than the number of characters ahead.
-/

namespace CSubset

namespace Toml

abbrev Reader (α : Type) := List Char → Option (α × List Char)

def isSpace (c : Char) : Bool := c = ' ' || c = '\t'

def skipSpaces (cs : List Char) : List Char := cs.dropWhile isSpace

def lineEnd? : List Char → Option (List Char)
  | '\n' :: cs => some cs
  | '\r' :: '\n' :: cs => some cs
  | _ => none

def isPlain (c : Char) : Bool := c = '\t' || decide (0x20 ≤ c.toNat ∧ c.toNat ≠ 0x7F)

def skipComment (cs : List Char) : List Char :=
  match cs with
  | '#' :: rest => rest.dropWhile isPlain
  | _ => cs

def skipLines : (fuel : Nat) → List Char → List Char
  | 0, cs => cs
  | fuel + 1, cs =>
    let cs := skipComment (skipSpaces cs)
    match lineEnd? cs with
    | some rest => skipLines fuel rest
    | none => cs

/-! ## Strings -/

def scalar? (n : Nat) : Option Char :=
  if h : n.isValidChar then some (Char.ofNatAux n h) else none

def escape? : Reader Char
  | 'b' :: cs => some ('\x08', cs)
  | 't' :: cs => some ('\t', cs)
  | 'n' :: cs => some ('\n', cs)
  | 'f' :: cs => some ('\x0c', cs)
  | 'r' :: cs => some ('\r', cs)
  | '"' :: cs => some ('"', cs)
  | '\\' :: cs => some ('\\', cs)
  | 'u' :: a :: b :: c :: d :: cs => do return (← scalar? (← Json.hexNumber? [a, b, c, d]), cs)
  | 'U' :: a :: b :: c :: d :: e :: f :: g :: h :: cs => do
    return (← scalar? (← Json.hexNumber? [a, b, c, d, e, f, g, h]), cs)
  | _ => none

def basicString : (fuel : Nat) → (done : List Char) → Reader String
  | 0, _, _ => none
  | _ + 1, _, [] => none
  | fuel + 1, done, c :: cs =>
    if c = '"' then some (String.ofList done.reverse, cs)
    else if c = '\\' then
      match escape? cs with
      | some (e, cs) => basicString fuel (e :: done) cs
      | none => none
    else if isPlain c then basicString fuel (c :: done) cs
    else none

def literalString (cs : List Char) : Option (String × List Char) :=
  let text := cs.takeWhile fun c => isPlain c && c ≠ '\''
  match cs.drop text.length with
  | '\'' :: rest => some (String.ofList text, rest)
  | _ => none

def skipFirstLineEnd (cs : List Char) : List Char := (lineEnd? cs).getD cs

/-- The quotes at the end of a string over several lines: three that close it and at most two before them. -/
def closingQuotes? (quote : Char) (cs : List Char) : Option (List Char × List Char) :=
  let n := (cs.takeWhile (· = quote)).length
  if 3 ≤ n then some (List.replicate (min n 5 - 3) quote, cs.drop (min n 5)) else none

/-- After a backslash at the end of a line, blanks and line ends up to the next character do not count. -/
def skipContinuation : (fuel : Nat) → List Char → List Char
  | 0, cs => cs
  | fuel + 1, cs =>
    match lineEnd? (skipSpaces cs) with
    | some rest => skipContinuation fuel rest
    | none => skipSpaces cs

def longBasicString : (fuel : Nat) → (done : List Char) → Reader String
  | 0, _, _ => none
  | _ + 1, _, [] => none
  | fuel + 1, done, c :: cs =>
    match closingQuotes? '"' (c :: cs) with
    | some (quotes, rest) => some (String.ofList (done.reverse ++ quotes), rest)
    | none =>
      if c = '\\' then
        if (lineEnd? (skipSpaces cs)).isSome then longBasicString fuel done (skipContinuation fuel cs)
        else match escape? cs with
          | some (e, cs) => longBasicString fuel (e :: done) cs
          | none => none
      else match lineEnd? (c :: cs) with
        | some rest => longBasicString fuel ('\n' :: done) rest
        | none => if isPlain c then longBasicString fuel (c :: done) cs else none

def longLiteralString : (fuel : Nat) → (done : List Char) → Reader String
  | 0, _, _ => none
  | _ + 1, _, [] => none
  | fuel + 1, done, c :: cs =>
    match closingQuotes? '\'' (c :: cs) with
    | some (quotes, rest) => some (String.ofList (done.reverse ++ quotes), rest)
    | none =>
      match lineEnd? (c :: cs) with
      | some rest => longLiteralString fuel ('\n' :: done) rest
      | none => if isPlain c then longLiteralString fuel (c :: done) cs else none

def stringValue (fuel : Nat) : Reader String
  | '"' :: '"' :: '"' :: cs => longBasicString fuel [] (skipFirstLineEnd cs)
  | '\'' :: '\'' :: '\'' :: cs => longLiteralString fuel [] (skipFirstLineEnd cs)
  | '"' :: cs => basicString fuel [] cs
  | '\'' :: cs => literalString cs
  | _ => none

/-! ## Keys -/

def isBareKeyChar (c : Char) : Bool := c.isAlphanum || c = '_' || c = '-'

def simpleKey (fuel : Nat) : Reader String
  | '"' :: cs => basicString fuel [] cs
  | '\'' :: cs => literalString cs
  | cs =>
    match cs.takeWhile isBareKeyChar with
    | [] => none
    | key => some (String.ofList key, cs.dropWhile isBareKeyChar)

def dottedKey : (fuel : Nat) → Reader (List String)
  | 0, _ => none
  | fuel + 1, cs =>
    match simpleKey (fuel + 1) (skipSpaces cs) with
    | none => none
    | some (part, cs) =>
      match skipSpaces cs with
      | '.' :: cs => (dottedKey fuel cs).map fun (parts, cs) => (part :: parts, cs)
      | cs => some ([part], cs)

/-- The number of parts that a key may have, and of values that may stand inside each other, is below this. -/
def maxDepth : Nat := 80

def key (fuel : Nat) (cs : List Char) : Option (List String × List Char) :=
  match dottedKey fuel cs with
  | some (parts, rest) => if parts.length < maxDepth then some (parts, rest) else none
  | none => none

end Toml

end CSubset
