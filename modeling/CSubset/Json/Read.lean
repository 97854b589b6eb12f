import CSubset.Json

/-!
# Reading JSON

A text is read as one value with blanks around it. Each reader takes the characters ahead and gives what it read
together with what is left.
-/

namespace CSubset

namespace Json

def skipBlanks (cs : List Char) : List Char :=
  cs.dropWhile fun c => c = ' ' || c = '\n' || c = '\t' || c = '\r'

def hexDigit? (c : Char) : Option Nat :=
  if '0' ≤ c ∧ c ≤ '9' then some (c.toNat - '0'.toNat)
  else if 'a' ≤ c ∧ c ≤ 'f' then some (c.toNat - 'a'.toNat + 10)
  else if 'A' ≤ c ∧ c ≤ 'F' then some (c.toNat - 'A'.toNat + 10)
  else none

def hexNumber? (cs : List Char) : Option Nat :=
  cs.foldlM (fun n c => (hexDigit? c).map (16 * n + ·)) 0

def isHighSurrogate (n : Nat) : Bool := decide (0xD800 ≤ n ∧ n < 0xDC00)

def isLowSurrogate (n : Nat) : Bool := decide (0xDC00 ≤ n ∧ n < 0xE000)

def escaped? (c : Char) : Option Char :=
  if c = '"' || c = '\\' || c = '/' then some c
  else if c = 'b' then some '\x08'
  else if c = 'f' then some '\x0c'
  else if c = 'n' then some '\n'
  else if c = 'r' then some '\r'
  else if c = 't' then some '\t'
  else none

/-- The rest of a string, after its opening quote and the characters `done` (last one first). `high` is a high
surrogate that waits for its partner; a surrogate without one makes the string `unreadable`. -/
def readString (readable : Bool) (high : Option Nat) (done : List Char) : List Char → Option (Json × List Char)
  | [] => none
  | '"' :: cs =>
    some (if readable && high.isNone then string (String.ofList done.reverse) else unreadable, cs)
  | '\\' :: 'u' :: a :: b :: c :: d :: cs =>
    match hexNumber? [a, b, c, d], high with
    | none, _ => none
    | some n, some h =>
      if isLowSurrogate n then
        readString readable none (Char.ofNat (0x10000 + (h - 0xD800) * 0x400 + (n - 0xDC00)) :: done) cs
      else readString false none done cs
    | some n, none =>
      if isLowSurrogate n then readString false none done cs
      else if isHighSurrogate n then readString readable (some n) done cs
      else readString readable none (Char.ofNat n :: done) cs
  | '\\' :: c :: cs =>
    match escaped? c with
    | none => none
    | some e => readString (readable && high.isNone) none (e :: done) cs
  | c :: cs => if c.toNat < 0x20 then none else readString (readable && high.isNone) none (c :: done) cs

def readDigits (cs : List Char) : Option (List Char × List Char) :=
  match cs.takeWhile Char.isDigit with
  | [] => none
  | digits => some (digits, cs.dropWhile Char.isDigit)

def readWhole : List Char → Option (List Char × List Char)
  | '0' :: cs => if cs.head?.any Char.isDigit then none else some (['0'], cs)
  | cs => readDigits cs

def readFraction : List Char → Option (List Char × List Char)
  | '.' :: cs => (readDigits cs).map fun (digits, rest) => ('.' :: digits, rest)
  | cs => some ([], cs)

def readExponent (cs : List Char) : Option (List Char × List Char) :=
  match cs with
  | e :: rest =>
    if e = 'e' || e = 'E' then
      let (sign, rest) := match rest with
        | '+' :: rest => (['+'], rest)
        | '-' :: rest => (['-'], rest)
        | rest => ([], rest)
      (readDigits rest).map fun (digits, rest) => (e :: (sign ++ digits), rest)
    else some ([], cs)
  | [] => some ([], cs)

def readNumber (cs : List Char) : Option (Json × List Char) := do
  let (sign, cs) := match cs with
    | '-' :: cs => (['-'], cs)
    | cs => ([], cs)
  let (whole, cs) ← readWhole cs
  let (fraction, cs) ← readFraction cs
  let (exponent, cs) ← readExponent cs
  return (number (String.ofList (sign ++ whole ++ fraction ++ exponent)), cs)

def readWord (word : String) (value : Json) (cs : List Char) : Option (Json × List Char) :=
  if word.toList.isPrefixOf cs then some (value, cs.drop word.length) else none

/-- An object with a name that is no text is itself unreadable. -/
def objectOf (names : List Json) (values : List Json) : Json :=
  match names.mapM text? with
  | some names => object (names.zip values)
  | none => unreadable

mutual

/-- A value. The fuel bounds the number of values and separators ahead. -/
def readValue : (fuel : Nat) → List Char → Option (Json × List Char)
  | 0, _ => none
  | fuel + 1, cs =>
    match skipBlanks cs with
    | '"' :: cs => readString true none [] cs
    | '[' :: cs =>
      match skipBlanks cs with
      | ']' :: cs => some (array [], cs)
      | cs => readItems fuel [] cs
    | '{' :: cs =>
      match skipBlanks cs with
      | '}' :: cs => some (object [], cs)
      | cs => readFields fuel [] [] cs
    | 'n' :: cs => readWord "null" null ('n' :: cs)
    | 't' :: cs => readWord "true" (bool true) ('t' :: cs)
    | 'f' :: cs => readWord "false" (bool false) ('f' :: cs)
    | cs => readNumber cs

def readItems : (fuel : Nat) → (done : List Json) → List Char → Option (Json × List Char)
  | 0, _, _ => none
  | fuel + 1, done, cs => do
    let (item, cs) ← readValue fuel cs
    match skipBlanks cs with
    | ',' :: cs => readItems fuel (item :: done) cs
    | ']' :: cs => return (array (item :: done).reverse, cs)
    | _ => none

def readFields : (fuel : Nat) → (names values : List Json) → List Char → Option (Json × List Char)
  | 0, _, _, _ => none
  | fuel + 1, names, values, cs =>
    match skipBlanks cs with
    | '"' :: cs => do
      let (name, cs) ← readString true none [] cs
      match skipBlanks cs with
      | ':' :: cs =>
        let (value, cs) ← readValue fuel cs
        match skipBlanks cs with
        | ',' :: cs => readFields fuel (name :: names) (value :: values) cs
        | '}' :: cs => return (objectOf (name :: names).reverse (value :: values).reverse, cs)
        | _ => none
      | _ => none
    | _ => none

end

def parse? (text : String) : Option Json :=
  let cs := text.toList
  match readValue (cs.length + 1) cs with
  | some (value, rest) => if (skipBlanks rest).isEmpty then some value else none
  | none => none

end Json

end CSubset
