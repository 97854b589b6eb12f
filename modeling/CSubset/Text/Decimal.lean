/-!
# Numbers with fixed places

Quotients written with two places after the point.
-/

namespace CSubset

/-- The whole number nearest to `num / den`; of two that are equally near, the even one. -/
def roundHalfEven (num den : Nat) : Nat :=
  let q := num / den
  let r := 2 * (num % den)
  if r < den then q else if r = den then q + q % 2 else q + 1

def twoDigits (n : Nat) : String := (if n < 10 then "0" else "") ++ toString n

def twoPlaces (num den : Nat) : String :=
  let hundredths := roundHalfEven (100 * num) den
  toString (hundredths / 100) ++ "." ++ twoDigits (hundredths % 100)

def roundToDouble (n : Nat) : Nat :=
  let drop := n.log2 - 52
  if n < 9007199254740992 then n else roundHalfEven n (Nat.pow 2 drop) * Nat.pow 2 drop

/-- A number of bytes in the largest unit of which there is at least one. The number is first rounded to a double,
except when it is written in bytes. -/
def sizeText (bytes : Nat) : String :=
  let n := roundToDouble bytes
  if n < 1024 then toString bytes ++ " B"
  else if n < 1048576 then twoPlaces n 1024 ++ " KB"
  else if n < 1073741824 then twoPlaces n 1048576 ++ " MB"
  else twoPlaces n 1073741824 ++ " GB"

end CSubset
