/-!
# TOML values and tables

Floating point numbers and dates are recognised, but their values are not kept.

A table comes to be through a header, on the way to another table, or through a dotted key. What may be added to it
later depends on that: a table is defined by a header at most once, and a dotted key only goes through tables that
dotted keys made.
-/

namespace CSubset

inductive Toml where
  | string (text : String)
  | integer (n : Int)
  | boolean (b : Bool)
  | float
  | date
  | array (items : List Toml)
  | table (fields : List (String × Toml))

namespace Toml

def lookup (name : String) (fields : List (String × Toml)) : Option Toml :=
  (fields.find? (·.1 = name)).map (·.2)

inductive TableKind where
  | explicit | implicit | dotted
  deriving DecidableEq, Repr

inductive Item where
  | value (v : Toml)
  | table (kind : TableKind) (fields : List (String × Item))
  /-- One table for each header in double brackets; the last one is open. -/
  | tables (elements : List (List (String × Item)))

abbrev Fields := List (String × Item)

def Fields.find (fields : Fields) (key : String) : Option Item := (List.find? (·.1 = key) fields).map (·.2)

def Fields.set (fields : Fields) (key : String) (item : Item) : Fields :=
  fields.map fun field => if field.1 = key then (key, item) else field

/-- Changes the table that a path leads to, and makes the tables that are missing on the way. -/
def enter (dotted : Bool) (change : TableKind → Fields → Option (TableKind × Fields)) :
    List String → TableKind → Fields → Option (TableKind × Fields)
  | [], kind, fields => change kind fields
  | key :: path, kind, fields =>
    match fields.find key with
    | none => do
      let (k, sub) ← enter dotted change path (if dotted then .dotted else .implicit) []
      return (kind, fields ++ [(key, .table k sub)])
    | some (.table k sub) =>
      if dotted && k = .explicit then none
      else do
        let (k, sub) ← enter dotted change path k sub
        return (kind, fields.set key (.table k sub))
    | some (.tables elements) => do
      let (_, sub) ← enter dotted change path .explicit (elements.getLast?.getD [])
      return (kind, fields.set key (.tables (elements.dropLast ++ [sub])))
    | some (.value _) => none

def addPair (path : List String) (key : String) (v : Toml) (kind : TableKind) (fields : Fields) :
    Option (TableKind × Fields) :=
  enter true (fun k sub =>
    if (path ≠ [] ∧ k ≠ .dotted) ∨ (sub.find key).isSome then none else some (k, sub ++ [(key, .value v)]))
    path kind fields

def openTable (path : List String) (key : String) (fields : Fields) : Option Fields :=
  (enter false (fun k sub =>
    match sub.find key with
    | none => some (k, sub ++ [(key, .table .explicit [])])
    | some (.table .implicit inner) => some (k, sub.set key (.table .explicit inner))
    | some _ => none) path .explicit fields).map (·.2)

def openElement (path : List String) (key : String) (fields : Fields) : Option Fields :=
  (enter false (fun k sub =>
    match sub.find key with
    | none => some (k, sub ++ [(key, .tables [[]])])
    | some (.tables elements) => some (k, sub.set key (.tables (elements ++ [[]])))
    | some _ => none) path .explicit fields).map (·.2)

mutual

def Item.toToml : Item → Toml
  | .value v => v
  | .table _ fields => .table (fieldsToToml fields)
  | .tables elements => .array (elementsToToml elements)

def fieldsToToml : List (String × Item) → List (String × Toml)
  | [] => []
  | (key, item) :: fields => (key, item.toToml) :: fieldsToToml fields

def elementsToToml : List (List (String × Item)) → List Toml
  | [] => []
  | fields :: elements => .table (fieldsToToml fields) :: elementsToToml elements

end

end Toml

end CSubset
