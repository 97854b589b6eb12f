import CSubset.Toml
import CSubset.Toml.Text

/-!
# Numbers and dates of TOML
-/

namespace CSubset

namespace Toml

/-- Digits, possibly with single underscores between them. `done` has the last digit first. -/
def digitRun (isDigit : Char → Bool) : (done : List Char) → List Char → List Char × List Char
  | done, '_' :: d :: cs =>
    if done ≠ [] && isDigit d then digitRun isDigit (d :: done) cs else (done.reverse, '_' :: d :: cs)
  | done, c :: cs => if isDigit c then digitRun isDigit (c :: done) cs else (done.reverse, c :: cs)
  | done, [] => (done.reverse, [])

def digits? (isDigit : Char → Bool) (cs : List Char) : Option (List Char × List Char) :=
  match digitRun isDigit [] cs with
  | ([], _) => none
  | run => some run

def numberOf (base : Nat) (digits : List Char) : Nat :=
  digits.foldl (fun n c => base * n + (Json.hexDigit? c).getD 0) 0

def signed : List Char → Bool × List Char
  | '+' :: cs => (false, cs)
  | '-' :: cs => (true, cs)
  | cs => (false, cs)

def decimal? : List Char → Option (List Char × List Char)
  | '0' :: cs => some (['0'], cs)
  | cs => digits? Char.isDigit cs

def word? (negative : Bool) (n : Nat) : Option Int :=
  if negative then if n ≤ 9223372036854775808 then some (-n) else none
  else if n < 9223372036854775808 then some n else none

/-- The word that these digits write. More than 64 digits after the leading zeros are too many in any base. -/
def wordOfDigits? (negative : Bool) (base : Nat) (digits : List Char) : Option Int :=
  let digits := digits.dropWhile (· = '0')
  if 64 < digits.length then none else word? negative (numberOf base digits)

def basedInteger (base : Nat) (isDigit : Char → Bool) (cs : List Char) : Option (Toml × List Char) := do
  let (digits, cs) ← digits? isDigit cs
  return (integer (← wordOfDigits? false base digits), cs)

def integerValue : Reader Toml
  | '0' :: 'x' :: cs => basedInteger 16 (fun c => (Json.hexDigit? c).isSome) cs
  | '0' :: 'o' :: cs => basedInteger 8 (fun c => decide ('0' ≤ c ∧ c ≤ '7')) cs
  | '0' :: 'b' :: cs => basedInteger 2 (fun c => c = '0' || c = '1') cs
  | cs => do
    let (negative, cs) := signed cs
    let (digits, cs) ← decimal? cs
    return (integer (← wordOfDigits? negative 10 digits), cs)

/-! ## Floating point numbers -/

/-- The middle between the largest double and the power of two after it. From here on a number is too large. -/
def doubleBound : Nat := Nat.pow 2 1024 - Nat.pow 2 970

def doubleDigits : Nat := 309

/-- Whether the number with these digits, `places` of them behind the point, times ten to the power `e`, is too large
for a double. The number of digits in front of the point decides, unless it is that of the bound. -/
def overflows (digits : List Char) (places : Nat) (e : Int) : Bool :=
  let digits := digits.dropWhile (· = '0')
  let ahead : Int := digits.length + e - places
  if digits.isEmpty || decide (ahead < doubleDigits) then false
  else if doubleDigits < ahead then true
  else
    let whole := numberOf 10 (digits.take doubleDigits) * Nat.pow 10 (doubleDigits - digits.length)
    decide (doubleBound ≤ whole)

def fraction? : List Char → Option (List Char × List Char)
  | '.' :: cs => digits? Char.isDigit cs
  | _ => none

/-- The value of the digits of an exponent. Once it has reached 65536, further digits do not count. -/
def exponentOf (digits : List Char) : Nat :=
  digits.foldl (fun n c => if n < 65536 then 10 * n + (Json.hexDigit? c).getD 0 else n) 0

def exponent? : List Char → Option (Int × List Char)
  | c :: cs =>
    if c = 'e' || c = 'E' then do
      let (negative, cs) := signed cs
      let (digits, cs) ← digits? Char.isDigit cs
      let n : Int := exponentOf digits
      return (if negative then -n else n, cs)
    else none
  | [] => none

def floatValue (cs : List Char) : Option (Toml × List Char) := do
  let (negative, cs) := signed cs
  let (whole, cs) ← decimal? cs
  let checked (places : List Char) (e : Int) (cs : List Char) : Option (Toml × List Char) :=
    if !negative && overflows (whole ++ places) places.length e then none else some (float, cs)
  match fraction? cs with
  | some (places, cs) =>
    match exponent? cs with
    | some (e, cs) => checked places e cs
    | none => checked places 0 cs
  | none =>
    let (e, cs) ← exponent? cs
    checked [] e cs

def specialFloat (cs : List Char) : Option (Toml × List Char) :=
  match (signed cs).2 with
  | 'i' :: 'n' :: 'f' :: cs => some (float, cs)
  | 'n' :: 'a' :: 'n' :: cs => some (float, cs)
  | _ => none

/-! ## Dates -/

def twoDigit (lo hi : Nat) : Reader Nat
  | a :: b :: cs =>
    let n := numberOf 10 [a, b]
    if a.isDigit ∧ b.isDigit ∧ lo ≤ n ∧ n ≤ hi then some (n, cs) else none
  | _ => none

def char (c : Char) : Reader Unit
  | d :: cs => if c = d then some ((), cs) else none
  | [] => none

def isLeapYear (year : Nat) : Bool := year % 4 = 0 && (year % 100 ≠ 0 || year % 400 = 0)

def daysInMonth (year month : Nat) : Nat :=
  if month = 2 then if isLeapYear year then 29 else 28
  else if month = 4 ∨ month = 6 ∨ month = 9 ∨ month = 11 then 30
  else 31

def dateDay (cs : List Char) : Option (Unit × List Char) := do
  let year := cs.take 4
  if year.length < 4 ∨ !year.all Char.isDigit then none
  let (_, cs) ← char '-' (cs.drop 4)
  let (month, cs) ← twoDigit 1 12 cs
  let (_, cs) ← char '-' cs
  let (_, cs) ← twoDigit 1 (daysInMonth (numberOf 10 year) month) cs
  return ((), cs)

def dateTime (cs : List Char) : Option (Unit × List Char) := do
  let (_, cs) ← twoDigit 0 23 cs
  let (_, cs) ← char ':' cs
  let (_, cs) ← twoDigit 0 59 cs
  let (_, cs) ← char ':' cs
  let (_, cs) ← twoDigit 0 60 cs
  match cs with
  | '.' :: rest =>
    if rest.head?.any Char.isDigit then return ((), rest.dropWhile Char.isDigit) else none
  | _ => return ((), cs)

def dateOffset (cs : List Char) : Option (Unit × List Char) :=
  match cs with
  | c :: rest =>
    if c = 'Z' || c = 'z' then some ((), rest)
    else if c = '+' || c = '-' then do
      let (_, rest) ← twoDigit 0 23 rest
      let (_, rest) ← char ':' rest
      twoDigit 0 59 rest |>.map fun (_, rest) => ((), rest)
    else some ((), cs)
  | [] => some ((), cs)

def dateValue (cs : List Char) : Option (Toml × List Char) :=
  match dateDay cs with
  | none => (dateTime cs).map fun (_, cs) => (date, cs)
  | some (_, rest) =>
    match rest with
    | c :: after =>
      if c = 'T' || c = 't' || c = ' ' then
        match dateTime after with
        | none => some (date, rest)
        | some (_, after) => (dateOffset after).map fun (_, cs) => (date, cs)
      else some (date, rest)
    | [] => some (date, rest)

def numberValue (cs : List Char) : Option (Toml × List Char) :=
  dateValue cs <|> floatValue cs <|> specialFloat cs <|> integerValue cs

end Toml

end CSubset
