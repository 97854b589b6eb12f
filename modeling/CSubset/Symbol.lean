import Std.Data.TreeMap.Basic
import CSubset.Keyword
import CSubset.Span

/-!
# Declared variables

One flat scope. A variable can be declared again, which replaces the earlier declaration; none is ever removed.
-/

namespace CSubset

structure Variable where
  identifier : String
  dataType : DataType
  span : Span
  deriving DecidableEq, Repr

structure SymbolTable where
  entries : Std.TreeMap String Variable

namespace SymbolTable

def empty : SymbolTable := ⟨∅⟩

def get? (s : SymbolTable) (name : String) : Option Variable := s.entries[name]?

def lookup (s : SymbolTable) (name : String) : Option DataType := (s.get? name).map (·.dataType)

def contains (s : SymbolTable) (name : String) : Bool := s.entries.contains name

def insert (s : SymbolTable) (name : String) (v : Variable) : SymbolTable := ⟨s.entries.insert name v⟩

def declare (s : SymbolTable) (name : String) (type : DataType) (span : Span) : SymbolTable :=
  s.insert name ⟨name, type, span⟩

def size (s : SymbolTable) : Nat := s.entries.size

def isEmpty (s : SymbolTable) : Bool := s.entries.isEmpty

/-- The declared names, in increasing order. -/
def names (s : SymbolTable) : List String := s.entries.keys

def toList (s : SymbolTable) : List (String × Variable) := s.entries.toList

end SymbolTable

end CSubset
