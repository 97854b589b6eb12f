import CSubset.Toml.Number

/-!
# Reading TOML

A document is read line by line into statements, from which the tables are put together.
-/

namespace CSubset

namespace Toml

def keyPath (parts : List String) : List String × String := (parts.dropLast, parts.getLast?.getD "")

def inlineTable? (pairs : List (List String × Toml)) : Option Toml := do
  let (_, fields) ← pairs.foldlM (fun (kind, fields) (parts, v) =>
    let (path, name) := keyPath parts
    addPair path name v kind fields) (TableKind.explicit, ([] : Fields))
  return table (fieldsToToml fields)

mutual

/-- A value, where `depth` is the number of values around it. A bracket takes two units of fuel. -/
def readValue : (fuel depth : Nat) → Reader Toml
  | 0, _, _ => none
  | fuel + 1, depth, cs =>
    match cs with
    | [] => none
    | c :: rest =>
      if c = '"' || c = '\'' then (stringValue fuel cs).map fun (text, cs) => (string text, cs)
      else if c = '[' then
        if depth + 1 < maxDepth then readItems fuel (depth + 1) [] rest else none
      else if c = '{' then
        if depth + 1 < maxDepth then
          match skipSpaces rest with
          | '}' :: cs => some (table [], cs)
          | cs => readPairs fuel (depth + 1) [] cs
        else none
      else if "true".toList.isPrefixOf cs then some (boolean true, cs.drop 4)
      else if "false".toList.isPrefixOf cs then some (boolean false, cs.drop 5)
      else numberValue cs

def readItems : (fuel depth : Nat) → (done : List Toml) → Reader Toml
  | 0, _, _, _ => none
  | fuel + 1, depth, done, cs =>
    match skipLines fuel cs with
    | ']' :: cs => some (array done.reverse, cs)
    | cs => do
      let (item, cs) ← readValue fuel depth cs
      match skipLines fuel cs with
      | ',' :: cs => readItems fuel depth (item :: done) cs
      | ']' :: cs => return (array (item :: done).reverse, cs)
      | _ => none

def readPairs : (fuel depth : Nat) → (done : List (List String × Toml)) → Reader Toml
  | 0, _, _, _ => none
  | fuel + 1, depth, done, cs => do
    let (parts, cs) ← key fuel cs
    let (_, cs) ← char '=' cs
    let (v, cs) ← readValue fuel depth (skipSpaces cs)
    match skipSpaces cs with
    | ',' :: cs => readPairs fuel depth ((parts, v) :: done) cs
    | '}' :: cs => (inlineTable? ((parts, v) :: done).reverse).map (·, cs)
    | _ => none

end

inductive Line where
  | pair (parts : List String) (v : Toml)
  | header (parts : List String)
  | elementHeader (parts : List String)

def readLine (fuel : Nat) (cs : List Char) : Option (Line × List Char) :=
  match cs with
  | '[' :: '[' :: cs => do
    let (parts, cs) ← key fuel cs
    match cs with
    | ']' :: ']' :: cs => return (.elementHeader parts, cs)
    | _ => none
  | '[' :: cs => do
    let (parts, cs) ← key fuel cs
    let (_, cs) ← char ']' cs
    return (.header parts, cs)
  | cs => do
    let (parts, cs) ← key fuel cs
    let (_, cs) ← char '=' cs
    let (v, cs) ← readValue fuel 0 (skipSpaces cs)
    return (.pair parts v, cs)

def readLines : (fuel : Nat) → (done : List Line) → List Char → Option (List Line)
  | 0, _, _ => none
  | fuel + 1, done, cs =>
    match skipLines fuel cs with
    | [] => some done.reverse
    | cs => do
      let (line, cs) ← readLine fuel cs
      match skipComment (skipSpaces cs) with
      | [] => return (line :: done).reverse
      | cs =>
        let cs ← lineEnd? cs
        readLines fuel (line :: done) cs

structure Document where
  fields : Fields
  current : List String

def Document.add (d : Document) : Line → Option Document
  | .pair parts v => do
    let (path, name) := keyPath parts
    let (_, fields) ← enter false (addPair path name v) d.current .explicit d.fields
    return { d with fields }
  | .header parts => do
    let (path, name) := keyPath parts
    return ⟨← openTable path name d.fields, parts⟩
  | .elementHeader parts => do
    let (path, name) := keyPath parts
    return ⟨← openElement path name d.fields, parts⟩

def skipMark (cs : List Char) : List Char :=
  match cs with
  | c :: rest => if c.toNat = 0xFEFF then rest else cs
  | [] => []

/-- The fields of the document that a text holds. Every character pays for two steps, so the fuel never runs out. -/
def parse? (text : String) : Option (List (String × Toml)) := do
  let cs := skipMark text.toList
  let lines ← readLines (2 * cs.length + 4) [] cs
  let d ← lines.foldlM Document.add ⟨[], []⟩
  return fieldsToToml d.fields

end Toml

end CSubset
