import CSubset.Json.Read
import CSubset.Symbol

/-!
# Symbol tables as JSON

A table is written as an object with one field, the variables by name. A variable is written with its identifier and
its type, and without the place of its declaration. A table has no order of its own, so the order in which entries and
fields are written may be any (`HasJson`). When read, a record may also be an array of its fields in order, and fields
that a record does not have are passed over.
-/

namespace CSubset

namespace DataType

/-- A type is given by its name, or by an object with that name and nothing in it. -/
def ofJson? : Json → Option DataType
  | .string text => all.find? (·.name = text)
  | .object [(text, .null)] => all.find? (·.name = text)
  | _ => none

end DataType

namespace Variable

def toJson (v : Variable) : Json :=
  .object [("identifier", .string v.identifier), ("data_type", .string v.dataType.name)]

inductive HasJson (v : Variable) : Json → Prop
  | object {fields : List (String × Json)}
      (order : fields.Perm [("identifier", .string v.identifier), ("data_type", .string v.dataType.name)]) :
      HasJson v (.object fields)

def ofFields? (identifier type : Json) : Option Variable := do
  return ⟨← identifier.text?, ← DataType.ofJson? type, .zero⟩

def ofJson? : Json → Option Variable
  | .object fields => do ofFields? (← Json.field? "identifier" fields) (← Json.field? "data_type" fields)
  | .array [identifier, type] => ofFields? identifier type
  | _ => none

end Variable

namespace SymbolTable

/-- By increasing name. -/
def toJson (s : SymbolTable) : Json :=
  .object [("variables", .object (s.toList.map fun (name, v) => (name, v.toJson)))]

inductive HasJson (s : SymbolTable) : Json → Prop
  | object {fields : List (String × Json)} (order : (fields.map (·.1)).Perm s.names)
      (each : ∀ p ∈ fields, ∃ v, s.get? p.1 = some v ∧ v.HasJson p.2) :
      HasJson s (.object [("variables", .object fields)])

/-- Of two variables with one name the later counts. -/
def ofVariables? : Json → Option SymbolTable
  | .object fields => fields.foldlM (fun s (name, value) => (Variable.ofJson? value).map (s.insert name)) .empty
  | _ => none

def ofJson? : Json → Option SymbolTable
  | .object fields => (Json.field? "variables" fields).bind ofVariables?
  | .array [entries] => ofVariables? entries
  | _ => none

end SymbolTable

end CSubset
