import CSubset.Toml.Read

/-!
# Records in TOML

A record is written as a table, or as an array of its fields in order. What the record does not know is ignored.
-/

namespace CSubset

namespace Toml

def nat? : Toml → Option Nat
  | integer n => if 0 ≤ n then some n.toNat else none
  | _ => none

def boolean? : Toml → Option Bool
  | boolean b => some b
  | _ => none

/-- The fields of a record whose fields have these names, in this order. A date is a record with no such field. -/
def members? (names : List String) : Toml → Option (List (String × Toml))
  | table fields => some fields
  | array items => some (names.zip items)
  | date => some []
  | _ => none

def required {α : Type} (decode : Toml → Option α) (name : String) (fields : List (String × Toml)) : Option α :=
  (lookup name fields).bind decode

def withDefault {α : Type} (decode : Toml → Option α) (name : String) (default : α) (fields : List (String × Toml)) :
    Option α :=
  match lookup name fields with
  | none => some default
  | some v => decode v

def isEmpty : Toml → Bool
  | array [] | table [] => true
  | _ => false

/-- The name of an alternative without data: a string, or a table that has it as its only key over nothing. -/
def alternative? : Toml → Option String
  | string name => some name
  | table [(name, v)] => if v.isEmpty then some name else none
  | _ => none

def unusable : String := "not a TOML document of the expected form"

end Toml

end CSubset
