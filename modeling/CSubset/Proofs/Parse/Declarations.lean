import Mathlib.Data.List.Dedup
import CSubset.Proofs.ByteOrder
import CSubset.Proofs.Symbol
import CSubset.Proofs.Parse.Consumption

/-!
# The table of a run

The tokens may be any, with classes that do not fit their texts. A call of `statement` binds at most one name, and its
first two tokens alone say which and to what (`declaredBy`). Nothing else touches the table, so in the end it has of
each name the last declaration.
-/

namespace CSubset

namespace SymbolTable

theorem length_names (s : SymbolTable) : s.names.length = s.size := Std.TreeMap.length_keys

theorem names_pairwise_lt (s : SymbolTable) : s.names.Pairwise (· < ·) :=
  Std.TreeMap.ordered_keys.imp compare_lt_iff_lt.mp

structure Records (s : SymbolTable) (ds : List Variable) : Prop where
  latest : ∀ name, s.get? name = ds.reverse.find? (·.identifier = name)
  type : ∀ name, s.lookup name = (ds.reverse.find? (·.identifier = name)).map (·.dataType)
  key : ∀ name v, s.get? name = some v → v.identifier = name
  size : s.size = (ds.map (·.identifier)).dedup.length
  names : ∀ name, name ∈ s.names ↔ name ∈ ds.map (·.identifier)
  once : s.names.Nodup
  ordered : s.names.Pairwise fun a b => utf8Bytes a < utf8Bytes b

theorem mem_names_of_latest {s : SymbolTable} {ds : List Variable}
    (latest : ∀ name, s.get? name = ds.reverse.find? (·.identifier = name)) (name : String) :
    name ∈ s.names ↔ name ∈ ds.map (·.identifier) := by
  rw [mem_names, lookup, Option.isSome_map, latest, List.find?_isSome, List.mem_map]
  simp only [List.mem_reverse, decide_eq_true_eq]

theorem records_of_latest {s : SymbolTable} {ds : List Variable}
    (latest : ∀ name, s.get? name = ds.reverse.find? (·.identifier = name)) : s.Records ds where
  latest := latest
  type name := by rw [lookup, latest]
  key name v h := by
    rw [latest] at h
    simpa using List.find?_some h
  size := by
    have same : s.names.Perm (ds.map (·.identifier)).dedup := by
      refine (List.perm_ext_iff_of_nodup Std.TreeMap.nodup_keys (List.nodup_dedup _)).mpr fun name => ?_
      rw [List.mem_dedup]
      exact mem_names_of_latest latest name
    rw [← length_names, same.length_eq]
  names := mem_names_of_latest latest
  once := Std.TreeMap.nodup_keys
  ordered := s.names_pairwise_lt.imp utf8Bytes_lt

end SymbolTable

namespace ParseState

/-! ## One statement -/

/-- What a statement in front of these tokens declares: whatever follows the name of a type, and whether or not the
rest is a declaration. -/
def declaredBy (c : Criteria) : List Token → Option Variable
  | type :: name :: _ =>
    if c.isTypeName type then
      (DataType.all.find? (·.name = type.lexeme)).map (⟨name.lexeme, ·, name.span⟩)
    else none
  | _ => none

theorem find?_name (text : String) : DataType.all.find? (·.name = text) = DataType.ofName? text := by
  cases h : DataType.ofName? text with
  | some type =>
    rw [ofName?_eq_some.mp h]
    cases type <;> rfl
  | none =>
    rw [List.find?_eq_none]
    rintro type - named
    rw [← of_decide_eq_true named, ofName?_name] at h
    cases h

theorem declarationEnd_symbols (s : ParseState) (type name : Token) :
    (s.declarationEnd type name).symbols = s.symbols := by
  unfold declarationEnd
  dsimp only
  split
  · split <;> simp
  · split <;> simp

theorem printStatement_symbols (c : Criteria) (s : ParseState) : (s.printStatement c).symbols = s.symbols := by
  unfold printStatement
  dsimp only
  split
  · simp
  · split <;> simp

theorem judge_symbols (c : Criteria) (s : ParseState) (parts : List Token) :
    (s.judge c parts).symbols = s.symbols := by
  unfold judge
  split
  · rfl
  · split
    · split <;> simp
    · simp

theorem otherStatement_symbols (c : Criteria) (s : ParseState) : (s.otherStatement c).symbols = s.symbols := by
  unfold otherStatement
  dsimp only
  split <;> simp [judge_symbols]

theorem declaration_symbols {c : Criteria} {s : ParseState} {type : Token} {ts : List Token} (h : s.rest = type :: ts)
    (typed : c.isTypeName type) :
    s.declaration.symbols =
      (declaredBy c s.rest).elim s.symbols fun v => s.symbols.declare v.identifier v.dataType v.span := by
  unfold declaration
  simp only [cursor_peek, rest_next, h, List.head?_cons, List.tail_cons]
  cases ts with
  | nil => rfl
  | cons name more =>
    -- the name is bound here, so the end of the declaration has no say in it
    simp only [List.head?_cons, declarationEnd_symbols, declaredBy, typed, if_true, find?_name]
    cases DataType.ofName? type.lexeme <;> rfl

theorem statement_symbols (c : Criteria) {s : ParseState} {t : Token} {ts : List Token} (h : s.rest = t :: ts) :
    (s.statement c t).symbols =
      (declaredBy c s.rest).elim s.symbols fun v => s.symbols.declare v.identifier v.dataType v.span := by
  by_cases typed : c.isTypeName t
  · unfold statement
    rw [if_pos typed]
    exact declaration_symbols h typed
  · have nothing : declaredBy c s.rest = none := by
      rw [h]
      cases ts with
      | nil => rfl
      | cons name more => exact if_neg typed
    rw [nothing, Option.elim_none]
    unfold statement
    rw [if_neg typed]
    dsimp only
    split
    · exact printStatement_symbols c s
    · split
      · split
        · simp [returnZero]
        · rw [otherStatement_symbols, symbols_peekSecond]
      · exact otherStatement_symbols c s

/-- A call, given by the states before and after it, binds the name that its tokens declare and no other, and without
one leaves the table alone. -/
structure Declares (c : Criteria) (call : ParseState × ParseState) : Prop where
  binds : ∀ v, declaredBy c call.1.rest = some v →
    ∀ name, call.2.symbols.get? name = if name = v.identifier then some v else call.1.symbols.get? name
  keeps : declaredBy c call.1.rest = none → call.2.symbols = call.1.symbols
  stays : ∀ name, (call.1.symbols.get? name).isSome → (call.2.symbols.get? name).isSome

theorem statement_declares (c : Criteria) {s : ParseState} {t : Token} {ts : List Token} (h : s.rest = t :: ts) :
    Declares c (s.peek, s.peek.statement c t) := by
  have table := statement_symbols c (s := s.peek) h
  cases declared : declaredBy c s.peek.rest with
  | none =>
    rw [declared, Option.elim_none] at table
    refine ⟨?_, fun _ => table, ?_⟩
    · intro v hv
      rw [declared] at hv
      cases hv
    · intro name known
      rwa [table]
  | some v =>
    rw [declared, Option.elim_some] at table
    have bound (name : String) : (s.peek.statement c t).symbols.get? name =
        if name = v.identifier then some v else s.peek.symbols.get? name := by
      rw [table, SymbolTable.get?_declare]
    refine ⟨?_, ?_, ?_⟩
    · intro w hw
      rw [declared] at hw
      cases hw
      exact bound
    · intro none
      rw [declared] at none
      cases none
    · intro name known
      rw [bound]
      split
      · rfl
      · exact known

/-! ## All statements -/

/-- The calls of `statement` that `functions` makes from `s` on, through all bodies and in order; `s'` is at the end of
the input. -/
inductive RunCalls (c : Criteria) : ParseState → List (ParseState × ParseState) → ParseState → Prop
  | stop {s : ParseState} (h : s.rest = []) : RunCalls c s [] s
  | main {s : ParseState} {t : Token} {ts : List Token} {calls later : List (ParseState × ParseState)}
      {inner s' : ParseState} (h : s.rest = t :: ts) (starts : c.isKeyword .main t)
      (inside : StatementCalls c s.peek.opened calls inner)
      (more : RunCalls c (((inner.peek.expect "\x7d").emit .closeMain).note "Leaving main function") later s') :
      RunCalls c s (calls ++ later) s'
  | pass {s : ParseState} {t : Token} {ts : List Token} {calls : List (ParseState × ParseState)} {s' : ParseState}
      (h : s.rest = t :: ts) (other : ¬c.isKeyword .main t)
      (more : RunCalls c (s.peek.report (.tokenOutsideMain t.lexeme) t.span).next calls s') : RunCalls c s calls s'

theorem functions_runCalls (c : Criteria) (s : ParseState) :
    ∃ calls s', RunCalls c s calls s' ∧ s.functions c = s'.peek := by
  fun_induction functions c s with
  | case1 s h => exact ⟨[], s, .stop h, rfl⟩
  | case2 s t ts h starts ih =>
    obtain ⟨calls, inner, inside, result⟩ := body_calls c s.peek.opened
    rw [mainFunction_eq, result] at ih
    obtain ⟨later, s', more, ended⟩ := ih
    refine ⟨calls ++ later, s', .main h starts inside more, ?_⟩
    rw [mainFunction_eq, result, ended]
  | case3 s t ts h other ih =>
    obtain ⟨calls, s', more, result⟩ := ih
    exact ⟨calls, s', .pass h other more, result⟩

/-- The first call starts with the table `t`, each later one with what the call before it left, and the last leaves
`t'`. -/
inductive Linked : SymbolTable → List (ParseState × ParseState) → SymbolTable → Prop
  | nil (t : SymbolTable) : Linked t [] t
  | cons {t t' : SymbolTable} {before after : ParseState} {calls : List (ParseState × ParseState)}
      (start : before.symbols = t) (more : Linked after.symbols calls t') : Linked t ((before, after) :: calls) t'

theorem Linked.append {t u t' : SymbolTable} {calls later : List (ParseState × ParseState)} (h : Linked t calls u)
    (more : Linked u later t') : Linked t (calls ++ later) t' := by
  induction h with
  | nil => exact more
  | cons start _ ih => exact .cons start (ih more)

theorem StatementCalls.linked {c : Criteria} {s s' : ParseState} {calls : List (ParseState × ParseState)}
    (h : StatementCalls c s calls s') : Linked s.symbols calls s'.symbols := by
  induction h with
  | stop => exact .nil _
  | call _ _ _ ih => exact .cons (symbols_peek _) ih

theorem StatementCalls.declares {c : Criteria} {s s' : ParseState} {calls : List (ParseState × ParseState)}
    (h : StatementCalls c s calls s') : ∀ call ∈ calls, Declares c call :=
  h.forall_mem (statement_declares c)

theorem symbols_opened (s : ParseState) : s.opened.symbols = s.symbols := by
  simp [opened]

theorem RunCalls.linked {c : Criteria} {s s' : ParseState} {calls : List (ParseState × ParseState)}
    (h : RunCalls c s calls s') : Linked s.symbols calls s'.symbols := by
  induction h with
  | stop => exact .nil _
  | main _ _ inside _ ih =>
    have body := inside.linked
    rw [symbols_opened, symbols_peek] at body
    rw [symbols_note, symbols_emit, symbols_expect, symbols_peek] at ih
    exact body.append ih
  | pass _ _ _ ih => exact ih

theorem RunCalls.declares {c : Criteria} {s s' : ParseState} {calls : List (ParseState × ParseState)}
    (h : RunCalls c s calls s') : ∀ call ∈ calls, Declares c call := by
  induction h with
  | stop => simp
  | main _ _ inside _ ih => exact List.forall_mem_append.mpr ⟨inside.declares, ih⟩
  | pass _ _ _ ih => exact ih

def declarations (c : Criteria) (calls : List (ParseState × ParseState)) : List Variable :=
  calls.filterMap fun call => declaredBy c call.1.rest

theorem declarations_cons (c : Criteria) (call : ParseState × ParseState) (calls : List (ParseState × ParseState)) :
    declarations c (call :: calls) = (declaredBy c call.1.rest).toList ++ declarations c calls := by
  unfold declarations
  rw [List.filterMap_cons]
  cases declaredBy c call.1.rest <;> rfl

theorem Linked.get? {c : Criteria} {t t' : SymbolTable} {calls : List (ParseState × ParseState)}
    (h : Linked t calls t') (each : ∀ call ∈ calls, Declares c call) (name : String) :
    t'.get? name = ((declarations c calls).reverse.find? (·.identifier = name)).or (t.get? name) := by
  induction h with
  | nil => rfl
  | @cons t t' before after calls start _ ih =>
    obtain ⟨first, later⟩ := List.forall_mem_cons.mp each
    rw [← start, ih later, declarations_cons, List.reverse_append, List.find?_append, Option.or_assoc]
    congr 1
    -- what is left is the first call, whose declaration counts only if no later one has the name
    cases declared : declaredBy c before.rest with
    | none =>
      rw [show after.symbols = before.symbols from first.keeps declared]
      rfl
    | some v =>
      rw [first.binds v declared name, Option.toList_some, List.reverse_singleton, List.find?_singleton]
      by_cases same : name = v.identifier
      · simp [same]
      · simp [same, Ne.symm same]

end ParseState

open ParseState in
/-- **Declarations.** Whatever the tokens, the table starts empty and goes from one call of `statement` to the next.
Each call binds at most one name: the text behind the name of a type, to that type and with the place of that text,
however the declaration goes on. So the table ends with the last declaration of each declared name, and lists those
names once, in the order of their bytes. -/
theorem parse_declarations (tokens : List Token) :
    ∃ calls s', RunCalls .byClass ((ofTokens tokens).emit .header) calls s' ∧
      parse tokens = s'.peek.note ("Parsing finished: " ++ toString s'.symbols.size ++ " symbols declared") ∧
      Linked .empty calls (parse tokens).symbols ∧ (∀ call ∈ calls, Declares .byClass call) ∧
      (parse tokens).symbols.Records (declarations .byClass calls) := by
  obtain ⟨calls, s', run, result⟩ := functions_runCalls .byClass ((ofTokens tokens).emit .header)
  have finish : parse tokens =
      s'.peek.note ("Parsing finished: " ++ toString s'.symbols.size ++ " symbols declared") := by
    unfold parse program
    rw [result]
    rfl
  have linked : Linked .empty calls (parse tokens).symbols := by
    rw [finish, symbols_note, symbols_peek]
    exact run.linked
  refine ⟨calls, s', run, finish, linked, run.declares, SymbolTable.records_of_latest fun name => ?_⟩
  rw [linked.get? run.declares]
  exact Option.or_none

end CSubset
