import CSubset.Proofs.Json
import CSubset.Proofs.Symbol
import CSubset.Symbol.Json

/-!
# Tables written and read

In whatever order the entries of a table and the fields of its variables are written, what is read is the same table
but for the places of the declarations, which are not written (`ofJson?_of_hasJson`). That holds of every table, also of
one in which a variable stands under another name.
-/

namespace CSubset

/-! ## Variables -/

theorem Json.field?_of_perm {fields others : List (String × Json)} (order : fields.Perm others) (name : String) :
    field? name fields = field? name others := by
  have same := order.filter (fun p => decide (p.1 = name))
  unfold field?
  generalize fields.filter (fun p => decide (p.1 = name)) = l at same ⊢
  generalize others.filter (fun p => decide (p.1 = name)) = m at same ⊢
  match m with
  | [] => rw [same.eq_nil]
  | [p] => rw [List.perm_singleton.mp same]
  | p :: q :: more =>
    -- neither list has just one entry
    match l, same.length_eq with
    | _ :: _ :: _, _ => rfl

theorem DataType.ofJson?_name (type : DataType) : ofJson? (.string type.name) = some type := by
  cases type <;> rfl

namespace Variable

def unplaced (v : Variable) : Variable := { v with span := .zero }

theorem hasJson_toJson (v : Variable) : v.HasJson v.toJson := .object (.refl _)

theorem hasJson_unplaced {v : Variable} {j : Json} : v.unplaced.HasJson j ↔ v.HasJson j := by
  constructor
  · rintro ⟨order⟩
    exact .object order
  · rintro ⟨order⟩
    exact .object order

theorem HasJson.textual {v : Variable} {j : Json} (h : v.HasJson j) : j.Textual := by
  obtain ⟨order⟩ := h
  apply Json.Textual.object
  intro p hp
  have hp := order.mem_iff.mp hp
  simp only [List.mem_cons, List.not_mem_nil, or_false] at hp
  rcases hp with rfl | rfl
  · exact .string _
  · exact .string _

theorem ofJson?_of_hasJson {v : Variable} {j : Json} (h : v.HasJson j) : ofJson? j = some v.unplaced := by
  obtain ⟨order⟩ := h
  unfold ofJson?
  dsimp only
  rw [Json.field?_of_perm order, Json.field?_of_perm order]
  change ofFields? (.string v.identifier) (.string v.dataType.name) = _
  unfold ofFields?
  rw [DataType.ofJson?_name]
  rfl

end Variable

/-! ## Tables -/

namespace SymbolTable

theorem hasJson_toJson (s : SymbolTable) : s.HasJson s.toJson := by
  constructor
  · rw [List.map_map]
    exact .of_eq Std.TreeMap.map_fst_toList_eq_keys
  · intro p hp
    obtain ⟨entry, held, rfl⟩ := List.mem_map.mp hp
    exact ⟨entry.2, Std.TreeMap.mem_toList_iff_getElem?_eq_some.mp held, entry.2.hasJson_toJson⟩

theorem HasJson.textual {s : SymbolTable} {j : Json} (h : s.HasJson j) : j.Textual := by
  obtain ⟨-, each⟩ := h
  apply Json.Textual.object
  intro p hp
  rw [List.mem_singleton.mp hp]
  apply Json.Textual.object
  intro q hq
  obtain ⟨v, -, written⟩ := each q hq
  exact written.textual

/-- What is read last under a name counts, but all that is read under a name is the same. -/
theorem foldlM_insert {s : SymbolTable} {fields : List (String × Json)}
    (each : ∀ p ∈ fields, ∃ v, s.get? p.1 = some v ∧ v.HasJson p.2) (t : SymbolTable) :
    ∃ t', fields.foldlM (fun t p => (Variable.ofJson? p.2).map (insert t p.1)) t = some t' ∧
      ∀ name, t'.get? name = if name ∈ fields.map (·.1) then (s.get? name).map Variable.unplaced else t.get? name := by
  induction fields generalizing t with
  | nil => exact ⟨t, rfl, fun name => rfl⟩
  | cons p fields ih =>
    obtain ⟨⟨v, held, written⟩, others⟩ := List.forall_mem_cons.mp each
    obtain ⟨t', read, get⟩ := ih others (t.insert p.1 v.unplaced)
    refine ⟨t', ?_, ?_⟩
    · rw [List.foldlM_cons, Variable.ofJson?_of_hasJson written]
      exact read
    · intro name
      rw [get, get?_insert, List.map_cons]
      by_cases later : name ∈ fields.map (·.1)
      · rw [if_pos later, if_pos (List.mem_cons_of_mem _ later)]
      · by_cases here : name = p.1
        · rw [if_neg later, if_pos here, if_pos (here ▸ List.mem_cons_self), here, held, Option.map_some]
        · rw [if_neg later, if_neg here, if_neg (by simp [here, later])]

theorem ofJson?_of_hasJson {s : SymbolTable} {j : Json} (h : s.HasJson j) :
    ∃ t, ofJson? j = some t ∧ ∀ name, t.get? name = (s.get? name).map Variable.unplaced := by
  obtain ⟨order, each⟩ := h
  obtain ⟨t, read, get⟩ := foldlM_insert each .empty
  refine ⟨t, read, ?_⟩
  intro name
  rw [get]
  by_cases known : name ∈ s.names
  · rw [if_pos (order.mem_iff.mpr known)]
  · rw [if_neg (mt order.mem_iff.mp known)]
    rw [mem_names, lookup, Option.isSome_map, Option.not_isSome_iff_eq_none] at known
    rw [known]
    rfl

def unplaced (s : SymbolTable) : SymbolTable := ⟨s.entries.map fun _ v => v.unplaced⟩

theorem equiv_unplaced {s t : SymbolTable} (get : ∀ name, t.get? name = (s.get? name).map Variable.unplaced) :
    t.entries.Equiv s.unplaced.entries := by
  apply Std.TreeMap.Equiv.of_forall_constGet?_eq
  intro name
  have mapped : s.unplaced.entries[name]? = (s.get? name).map Variable.unplaced := Std.TreeMap.getElem?_map
  exact (get name).trans mapped.symm

theorem toJson_unplaced (s : SymbolTable) : s.unplaced.toJson = s.toJson := by
  -- what is written of a variable does not depend on its place
  have list : s.unplaced.toList = s.toList.map fun p => (p.1, p.2.unplaced) := Std.TreeMap.toList_map
  unfold toJson
  rw [list, List.map_map]
  rfl

theorem hasJson_congr {s t : SymbolTable} (get : ∀ name, t.get? name = (s.get? name).map Variable.unplaced)
    (names : t.names = s.names) (j : Json) : t.HasJson j ↔ s.HasJson j := by
  constructor
  · rintro ⟨order, each⟩
    refine .object (names ▸ order) fun p hp => ?_
    obtain ⟨v, held, written⟩ := each p hp
    rw [get] at held
    obtain ⟨u, known, rfl⟩ := Option.map_eq_some_iff.mp held
    exact ⟨u, known, Variable.hasJson_unplaced.mp written⟩
  · rintro ⟨order, each⟩
    refine .object (names ▸ order) fun p hp => ?_
    obtain ⟨v, held, written⟩ := each p hp
    exact ⟨v.unplaced, by rw [get, held]; rfl, Variable.hasJson_unplaced.mpr written⟩

/-- **Tables survive.** Whatever the order in which its entries and their fields are written, a table can be read back
from its JSON and from the text of that. The same names stand for the same variables, without the places of their
declarations; so the table answers as before, and is written as before in every order. -/
theorem json_round_trip (s : SymbolTable) :
    s.HasJson s.toJson ∧ ∀ j, s.HasJson j →
      ∃ t, ofJson? j = some t ∧ (Json.parse? j.compact).bind ofJson? = some t ∧
        (∀ name, t.get? name = (s.get? name).map Variable.unplaced) ∧
        t.toJson = s.toJson ∧ (∀ k, t.HasJson k ↔ s.HasJson k) ∧
        (∀ name, t.lookup name = s.lookup name ∧ t.contains name = s.contains name) ∧
        t.size = s.size ∧ t.names = s.names := by
  refine ⟨s.hasJson_toJson, ?_⟩
  intro j written
  obtain ⟨t, read, get⟩ := ofJson?_of_hasJson written
  have same := equiv_unplaced get
  have names : t.names = s.names := same.keys_eq.trans Std.TreeMap.keys_map
  refine ⟨t, read, ?_, get, ?_, hasJson_congr get names, ?_, ?_, names⟩
  · rw [Json.parse?_compact written.textual]
    exact read
  · rw [← s.toJson_unplaced]
    unfold toJson toList
    rw [same.toList_eq]
  · intro name
    have type : t.lookup name = s.lookup name := by
      unfold lookup
      rw [get, Option.map_map]
      rfl
    exact ⟨type, by rw [contains_eq_isSome_lookup, contains_eq_isSome_lookup, type]⟩
  · exact same.size_eq.trans Std.TreeMap.size_map

theorem json_round_trip_backwards :
    let s := (empty.declare "a" .int ⟨⟨0, 1, 1⟩, ⟨1, 1, 2⟩⟩).declare "b" .string .zero
    let j : Json := .object [("variables", .object
      [("b", .object [("data_type", .string "string"), ("identifier", .string "b")]),
        ("a", .object [("identifier", .string "a"), ("data_type", .string "int")])])]
    s.HasJson j ∧ ∃ t, ofJson? j = some t ∧ t.get? "a" = some ⟨"a", .int, .zero⟩ ∧ t.names = ["a", "b"] := by
  intro s j
  have written : s.HasJson j := by
    refine .object (.swap ..) (List.forall_mem_cons.mpr ⟨?_, List.forall_mem_singleton.mpr ?_⟩)
    · exact ⟨_, rfl, .object (.swap ..)⟩
    · exact ⟨_, rfl, .object (.refl _)⟩
  obtain ⟨t, read, -, get, -, -, -, -, names⟩ := s.json_round_trip.2 j written
  exact ⟨written, t, read, get "a", names⟩

/-- A table that was read may have a variable under another name than its own. -/
example : (ofJson? (.object [("variables", .object [("a", .array [.string "b", .string "int"])])])).bind (·.get? "a") =
    some ⟨"b", .int, .zero⟩ := by decide +kernel

end SymbolTable

end CSubset
