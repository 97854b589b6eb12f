import Std.Data.TreeMap.Lemmas
import CSubset.Symbol
import CSubset.Proofs.Parse.Grammar

/-!
# Tables of variables and declarations

A table agrees with a list of declarations if it has the latest type of every declared name, and nothing else.
-/

namespace CSubset

namespace SymbolTable

theorem get?_insert (s : SymbolTable) (name : String) (v : Variable) (other : String) :
    (s.insert name v).get? other = if other = name then some v else s.get? other := by
  unfold get? insert
  rw [Std.TreeMap.getElem?_insert]
  by_cases h : other = name
  · rw [if_pos h, if_pos (Std.LawfulEqCmp.compare_eq_iff_eq.mpr h.symm)]
  · rw [if_neg h, if_neg fun e => h (Std.LawfulEqCmp.compare_eq_iff_eq.mp e).symm]

theorem get?_declare (s : SymbolTable) (name : String) (type : DataType) (span : Span) (other : String) :
    (s.declare name type span).get? other = if other = name then some ⟨name, type, span⟩ else s.get? other :=
  get?_insert s name _ other

theorem lookup_declare (s : SymbolTable) (name : String) (type : DataType) (span : Span) (other : String) :
    (s.declare name type span).lookup other = if other = name then some type else s.lookup other := by
  unfold lookup
  rw [get?_declare]
  split <;> rfl

theorem contains_eq_isSome_lookup (s : SymbolTable) (name : String) : s.contains name = (s.lookup name).isSome := by
  unfold contains lookup get?
  rw [Std.TreeMap.contains_eq_isSome_getElem?, Option.isSome_map]

theorem mem_names (s : SymbolTable) (name : String) : name ∈ s.names ↔ (s.lookup name).isSome := by
  unfold names
  rw [Std.TreeMap.mem_keys, Std.TreeMap.mem_iff_contains, ← contains_eq_isSome_lookup]
  rfl

theorem names_eq_of_lookup {s t : SymbolTable} (h : ∀ name, s.lookup name = t.lookup name) : s.names = t.names := by
  have same : s.names.Perm t.names := by
    refine (List.perm_ext_iff_of_nodup Std.TreeMap.nodup_keys Std.TreeMap.nodup_keys).mpr fun name => ?_
    exact (mem_names s name).trans (by rw [h, ← mem_names]; rfl)
  refine same.eq_of_pairwise ?_ Std.TreeMap.ordered_keys Std.TreeMap.ordered_keys
  intro a b _ _ hab hba
  have swap : compare a b = (compare b a).swap := Std.OrientedCmp.eq_swap
  rw [hab, hba] at swap
  cases swap

def Agrees (s : SymbolTable) (d : Declared) : Prop := ∀ name, s.lookup name = d.lookup name

theorem agrees_empty : empty.Agrees [] := fun _ => rfl

theorem Agrees.declare {s : SymbolTable} {d : Declared} (h : s.Agrees d) (name : String) (type : DataType)
    (span : Span) : (s.declare name type span).Agrees ((name, type) :: d) := by
  intro other
  rw [lookup_declare, List.lookup_cons, h other]
  by_cases ho : other = name
  · simp [ho]
  · rw [if_neg ho, beq_false_of_ne ho]

end SymbolTable

end CSubset
