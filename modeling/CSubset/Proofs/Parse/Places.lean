import CSubset.Proofs.Parse.Acceptance
import Mathlib.Data.List.DropRight

/-!
# Where functions open and names are declared

In the lexemes of an accepted source, both can be found without the parser. A value is open between an equals sign and
the next semicolon, and whatever stands in it is part of it, braces and openings included. Outside of values, every
`main ( ) {` opens an entry function (`compile_opens`), and a type name that follows a brace or a semicolon declares the
lexeme behind it, whatever that is (`compile_declares`).
-/

namespace CSubset

def ValueOpen (front : List String) : Prop := "=" ∈ front.rtakeWhile (· ≠ ";")

instance (front : List String) : Decidable (ValueOpen front) := inferInstanceAs (Decidable (_ ∈ _))

@[simp] theorem not_valueOpen_nil : ¬ValueOpen [] := by simp [ValueOpen]

@[simp] theorem valueOpen_concat (front : List String) (w : String) :
    ValueOpen (front ++ [w]) ↔ w ≠ ";" ∧ (w = "=" ∨ ValueOpen front) := by
  unfold ValueOpen
  by_cases semi : w = ";"
  · rw [List.rtakeWhile_concat_neg _ _ _ (by simpa using semi)]
    simp [semi]
  · rw [List.rtakeWhile_concat_pos _ _ _ (by simpa using semi)]
    simp [semi, or_comm, eq_comm]

def opening : List String := ["main", "(", ")", "\x7b"]

def OpensHere (front rest : List String) : Prop := opening <+: rest ∧ ¬ValueOpen front

instance (front rest : List String) : Decidable (OpensHere front rest) := inferInstanceAs (Decidable (_ ∧ _))

def DeclaresHere (name : String) (front rest : List String) : Prop :=
  (∃ type : DataType, [type.name, name] <+: rest) ∧ front.getLast? ∈ [some "\x7b", some ";"] ∧ ¬ValueOpen front

/-! ## Going through the lexemes -/

inductive Mark where
  | opening
  | name (text : String)
  deriving DecidableEq

def marksHere (front rest : List String) : List Mark :=
  if ValueOpen front then []
  else if CSubset.opening <+: rest then [.opening]
  else match rest with
    | type :: name :: _ =>
      if (DataType.ofName? type).isSome ∧ front.getLast? ∈ [some "\x7b", some ";"] then [.name name] else []
    | _ => []

def marksFrom (front : List String) : List String → List Mark
  | [] => []
  | w :: ws => marksHere front (w :: ws) ++ marksFrom (front ++ [w]) ws

def Stmt.marks : Stmt → List Mark
  | .declare _ name _ => [.name name]
  | .print _ | .returnZero | .empty | .assign .. => []

theorem marksFrom_value {front : List String} (value : ValueOpen front) {ws : List String} (inside : ";" ∉ ws)
    (after : List String) :
    marksFrom front (ws ++ ";" :: after) = marksFrom (front ++ ws ++ [";"]) after := by
  induction ws generalizing front with
  | nil => simp [marksFrom, marksHere, value]
  | cons w ws ih =>
    obtain ⟨first, rest⟩ := not_or.mp (List.mem_cons.not.mp inside)
    have still : ValueOpen (front ++ [w]) := (valueOpen_concat front w).mpr ⟨Ne.symm first, Or.inr value⟩
    rw [List.cons_append, marksFrom, ih still rest]
    simp [marksHere, value]

theorem marksFrom_skip (front : List String) {w : String} {rest : List String}
    (noOpening : w = "main" → rest.head? ≠ some "(")
    (noType : (DataType.ofName? w).isSome → front.getLast? ∉ [some "\x7b", some ";"]) :
    marksFrom front (w :: rest) = marksFrom (front ++ [w]) rest := by
  have here : marksHere front (w :: rest) = [] := by
    unfold marksHere
    split
    · rfl
    · rw [if_neg]
      · split
        · next h =>
          obtain ⟨rfl, rfl⟩ := List.cons.inj h
          exact if_neg fun starts => noType starts.1 starts.2
        · rfl
      · rintro ⟨more, split⟩
        obtain ⟨rfl, rfl⟩ := List.cons.inj split
        exact noOpening rfl rfl
  rw [marksFrom, here, List.nil_append]

theorem marksFrom_mark (front : List String) {w : String} (plain : w ≠ "main" ∧ DataType.ofName? w = none)
    (rest : List String) : marksFrom front (w :: rest) = marksFrom (front ++ [w]) rest :=
  marksFrom_skip front (fun h => absurd h plain.1) (by simp [plain.2])

/-- Inside a statement any lexeme can stand, as long as no parenthesis follows. -/
theorem marksFrom_inner (front : List String) {u : String} (inside : u ≠ "\x7b" ∧ u ≠ ";") (w : String) {x : String}
    (next : x ≠ "(") (rest : List String) :
    marksFrom (front ++ [u]) (w :: x :: rest) = marksFrom (front ++ [u] ++ [w]) (x :: rest) :=
  marksFrom_skip _ (fun _ => by simpa using next) (by simp [inside])

theorem not_opening_type (type : DataType) (rest : List String) : ¬opening <+: type.name :: rest := by
  rintro ⟨more, split⟩
  cases type <;> exact absurd (List.cons.inj split).1 (by decide)

theorem marksFrom_type {front : List String} (closed : ¬ValueOpen front)
    (start : front.getLast? ∈ [some "\x7b", some ";"]) (type : DataType) (name : String) (rest : List String) :
    marksFrom front (type.name :: name :: rest) = .name name :: marksFrom (front ++ [type.name]) (name :: rest) := by
  rw [marksFrom, marksHere, if_neg closed, if_neg (not_opening_type type _)]
  simp [ofName?_name, start]

theorem marksFrom_statement {d : Declared} {st : Stmt} (allowed : st.Allowed d) {front : List String}
    (closed : ¬ValueOpen front) (start : front.getLast? ∈ [some "\x7b", some ";"]) (after : List String) :
    marksFrom front (st.lexemes ++ after) = st.marks ++ marksFrom (front ++ st.lexemes) after := by
  cases st with
  | declare type name value =>
    have inside : type.name ≠ "\x7b" ∧ type.name ≠ ";" := by cases type <;> decide
    cases value with
    | none =>
      simp only [Stmt.lexemes, List.cons_append, List.nil_append]
      rw [marksFrom_type closed start, marksFrom_inner front inside name (by decide), marksFrom_mark _ (by decide)]
      simp [Stmt.marks]
    | some v =>
      simp only [Stmt.lexemes, List.cons_append, List.nil_append]
      rw [marksFrom_type closed start, marksFrom_inner front inside name (by decide), marksFrom_mark _ (by decide),
        marksFrom_inner _ (by decide) v (by decide), marksFrom_mark _ (by decide)]
      simp [Stmt.marks]
  | print argument =>
    simp only [Stmt.lexemes, List.cons_append, List.nil_append]
    rw [marksFrom_mark _ (by decide), marksFrom_mark _ (by decide), marksFrom_inner _ (by decide) argument (by decide),
      marksFrom_mark _ (by decide), marksFrom_mark _ (by decide)]
    simp [Stmt.marks]
  | returnZero =>
    simp only [Stmt.lexemes, List.cons_append, List.nil_append]
    rw [marksFrom_mark _ (by decide), marksFrom_mark _ (by decide), marksFrom_mark _ (by decide)]
    simp [Stmt.marks]
  | empty => exact marksFrom_mark front (by decide) after
  | assign name first more =>
    obtain ⟨-, -, other, noSemi⟩ := allowed
    obtain ⟨noType, -⟩ := starts_other_iff.mp other
    -- the name may be `main`, but an equals sign follows it; behind that sign nothing counts
    have value : ValueOpen (front ++ [name] ++ ["="]) := (valueOpen_concat _ _).mpr ⟨by decide, Or.inl rfl⟩
    simp only [Stmt.lexemes, List.cons_append, List.append_assoc, List.nil_append]
    rw [marksFrom_skip front (by simp) (by simp [noType]), marksFrom_mark _ (by decide),
      ← List.cons_append, marksFrom_value value noSemi]
    simp [Stmt.marks]

theorem Stmt.lexemes_concat (st : Stmt) : ∃ ws, st.lexemes = ws ++ [";"] := by
  cases st with
  | declare type name value =>
    cases value with
    | none => exact ⟨[type.name, name], rfl⟩
    | some v => exact ⟨[type.name, name, "=", v], rfl⟩
  | print argument => exact ⟨["print", "(", argument, ")"], rfl⟩
  | returnZero => exact ⟨["return", "0"], rfl⟩
  | empty => exact ⟨[], rfl⟩
  | assign name first more => exact ⟨name :: "=" :: first :: more, rfl⟩

theorem marksFrom_body {d : Declared} {b : Block} (allowed : b.Allowed d) {front : List String}
    (closed : ¬ValueOpen front) (start : front.getLast? ∈ [some "\x7b", some ";"]) (after : List String) :
    marksFrom front (b.flatMap Stmt.lexemes ++ after) =
        b.flatMap Stmt.marks ++ marksFrom (front ++ b.flatMap Stmt.lexemes) after ∧
      ¬ValueOpen (front ++ b.flatMap Stmt.lexemes) := by
  induction b generalizing d front with
  | nil => simpa using closed
  | cons st b ih =>
    obtain ⟨ws, last⟩ := st.lexemes_concat
    have closed' : ¬ValueOpen (front ++ st.lexemes) := by
      rw [last, ← List.append_assoc, valueOpen_concat]
      exact fun h => h.1 rfl
    have start' : (front ++ st.lexemes).getLast? ∈ [some "\x7b", some ";"] := by
      rw [last, ← List.append_assoc, List.getLast?_concat]
      decide
    obtain ⟨rest, ended⟩ := ih allowed.2 closed' start'
    rw [List.flatMap_cons, List.flatMap_cons, List.append_assoc, marksFrom_statement allowed.1 closed start, rest,
      List.append_assoc, List.append_assoc]
    rw [List.append_assoc] at ended
    exact ⟨rfl, ended⟩

theorem marksFrom_block {d : Declared} {b : Block} (allowed : b.Allowed d) {front : List String}
    (closed : ¬ValueOpen front) (after : List String) :
    marksFrom front (b.lexemes ++ after) =
        .opening :: (b.flatMap Stmt.marks ++ marksFrom (front ++ b.lexemes) after) ∧
      ¬ValueOpen (front ++ b.lexemes) := by
  have opened : ∀ rest, marksFrom front (opening ++ rest) = .opening :: marksFrom (front ++ opening) rest := by
    intro rest
    have here : marksHere front (opening ++ rest) = [.opening] := by
      unfold marksHere
      rw [if_neg closed, if_pos (List.prefix_append opening rest)]
    change marksHere front (opening ++ rest) ++ marksFrom (front ++ ["main"]) ("(" :: ")" :: "\x7b" :: rest) = _
    rw [here, marksFrom_mark _ (by decide), marksFrom_mark _ (by decide), marksFrom_mark _ (by decide)]
    simp [opening]
  have closed' : ¬ValueOpen (front ++ opening) := by
    rw [show front ++ opening = front ++ ["main"] ++ ["("] ++ [")"] ++ ["\x7b"] by simp [opening]]
    simp only [valueOpen_concat, closed]
    decide
  have start : (front ++ opening).getLast? ∈ [some "\x7b", some ";"] := by simp [opening]
  obtain ⟨inside, ended⟩ := marksFrom_body allowed closed' start ("\x7d" :: after)
  have lexemes : b.lexemes = opening ++ b.flatMap Stmt.lexemes ++ ["\x7d"] := rfl
  rw [lexemes]
  constructor
  · rw [List.append_assoc, List.append_assoc, opened, List.singleton_append, inside, marksFrom_mark _ (by decide)]
    simp only [List.append_assoc]
  · rw [← List.append_assoc, ← List.append_assoc, valueOpen_concat]
    rintro ⟨-, eq | value⟩
    · exact absurd eq (by decide)
    · exact ended value

def Program.marks (p : Program) : List Mark := p.flatMap fun b => .opening :: b.flatMap Stmt.marks

theorem marksFrom_program {d : Declared} {p : Program} (allowed : p.Allowed d) {front : List String}
    (closed : ¬ValueOpen front) : marksFrom front p.lexemes = p.marks := by
  induction p generalizing d front with
  | nil => rfl
  | cons b p ih =>
    obtain ⟨mine, others⟩ := (Program.allowed_cons d b p).mp allowed
    obtain ⟨block, closed'⟩ := marksFrom_block mine closed (Program.lexemes p)
    have lexemes : Program.lexemes (b :: p) = b.lexemes ++ Program.lexemes p := rfl
    rw [lexemes, block, ih others closed']
    rfl

/-! ## Places -/

theorem marksFrom_eq (front ws : List String) :
    marksFrom front ws =
      (List.range ws.length).flatMap fun i => marksHere (front ++ ws.take i) (ws.drop i) := by
  induction ws generalizing front with
  | nil => rfl
  | cons w ws ih =>
    rw [marksFrom, ih, List.length_cons, List.range_succ_eq_map, List.flatMap_cons, List.flatMap_map]
    simp

theorem count_opening_marksHere (front rest : List String) :
    (marksHere front rest).count .opening = if OpensHere front rest then 1 else 0 := by
  unfold marksHere OpensHere
  by_cases value : ValueOpen front
  · simp [value]
  · by_cases opens : opening <+: rest
    · simp [value, opens]
    · simp only [value, opens, ite_false]
      split
      · split <;> simp
      · simp

theorem name_mem_marksHere {name : String} {front rest : List String} :
    .name name ∈ marksHere front rest ↔ DeclaresHere name front rest := by
  by_cases value : ValueOpen front
  · simp [marksHere, DeclaresHere, value]
  constructor
  · intro here
    unfold marksHere at here
    rw [if_neg value] at here
    split at here
    · simp at here
    split at here
    · next _ first second more =>
      split at here
      · next starts =>
        obtain ⟨type, found⟩ := Option.isSome_iff_exists.mp starts.1
        obtain rfl := ofName?_eq_some.mp found
        cases List.mem_singleton.mp here
        exact ⟨⟨type, _, rfl⟩, starts.2, value⟩
      · cases here
    · cases here
  · rintro ⟨⟨type, more, rfl⟩, start, -⟩
    rw [List.cons_append]
    unfold marksHere
    rw [if_neg value, if_neg (not_opening_type type _)]
    simp [ofName?_name, start]

theorem count_flatMap_eq_countP {α β} [BEq β] [LawfulBEq β] (f : α → List β) (x : β) (p : α → Bool)
    (h : ∀ a, (f a).count x = if p a then 1 else 0) (l : List α) : (l.flatMap f).count x = l.countP p := by
  induction l with
  | nil => rfl
  | cons a l ih => rw [List.flatMap_cons, List.count_append, List.countP_cons, ih, h a, Nat.add_comm]

theorem count_opening_marksFrom (ws : List String) :
    (marksFrom [] ws).count .opening =
      (List.range ws.length).countP fun i => OpensHere (ws.take i) (ws.drop i) := by
  rw [marksFrom_eq]
  refine count_flatMap_eq_countP _ _ _ (fun i => ?_) _
  rw [List.nil_append, count_opening_marksHere]
  simp

theorem name_mem_marksFrom {name : String} {ws : List String} :
    .name name ∈ marksFrom [] ws ↔ ∃ i, DeclaresHere name (ws.take i) (ws.drop i) := by
  rw [marksFrom_eq, List.mem_flatMap]
  simp only [List.nil_append, name_mem_marksHere, List.mem_range]
  constructor
  · rintro ⟨i, -, here⟩
    exact ⟨i, here⟩
  · rintro ⟨i, here⟩
    refine ⟨i, ?_, here⟩
    obtain ⟨⟨type, more, split⟩, -, -⟩ := here
    by_contra past
    rw [List.drop_of_length_le (by omega)] at split
    cases split

/-! ## What is put out and what is declared -/

def Fragment.mark? : Fragment → Option Mark
  | .openMain => some .opening
  | .statement (.declare name _) => some (.name name)
  | .header | .closeMain | .statement _ => none

theorem Fragment.name_mem_marks {name : String} {fs : List Fragment} :
    .name name ∈ fs.filterMap mark? ↔ ∃ value, .statement (.declare name value) ∈ fs := by
  rw [List.mem_filterMap]
  constructor
  · rintro ⟨f, mem, marked⟩
    unfold mark? at marked
    split at marked
    · cases marked
    · next other value =>
      cases marked
      exact ⟨value, mem⟩
    · cases marked
    · cases marked
    · cases marked
  · rintro ⟨value, mem⟩
    exact ⟨_, mem, rfl⟩

def Fragment.isEdge : Fragment → Bool
  | .openMain | .closeMain => true
  | .header | .statement _ => false

theorem Stmt.marks_output (d : Declared) (st : Stmt) : (st.output d).filterMap Fragment.mark? = st.marks := by
  cases st with
  | declare type name value => cases value <;> rfl
  | print argument => rfl
  | returnZero => rfl
  | empty => rfl
  | assign name first more => rfl

theorem Block.marks_output (d : Declared) (b : Block) :
    (b.output d).filterMap Fragment.mark? = b.flatMap Stmt.marks := by
  induction b generalizing d with
  | nil => rfl
  | cons st b ih => rw [Block.output, List.filterMap_append, Stmt.marks_output, ih, List.flatMap_cons]

theorem Program.marks_output (d : Declared) (p : Program) : (p.output d).filterMap Fragment.mark? = p.marks := by
  induction p generalizing d with
  | nil => rfl
  | cons b p ih =>
    have first : Fragment.openMain.mark? = some .opening := rfl
    have last : Fragment.closeMain.mark? = none := rfl
    rw [Program.output, List.filterMap_cons_some first, List.filterMap_append, Block.marks_output,
      List.filterMap_cons_none last, ih]
    rfl

theorem edges_block (d : Declared) (b : Block) : (b.output d).filter Fragment.isEdge = [] := by
  induction b generalizing d with
  | nil => rfl
  | cons st b ih =>
    have step : (st.output d).filter Fragment.isEdge = [] := by
      cases st with
      | declare type name value => cases value <;> rfl
      | print argument => rfl
      | returnZero => rfl
      | empty => rfl
      | assign name first more => rfl
    rw [Block.output, List.filter_append, step, ih, List.nil_append]

theorem edges_program (d : Declared) (p : Program) :
    (p.output d).filter Fragment.isEdge = (List.replicate p.length [.openMain, .closeMain]).flatten := by
  induction p generalizing d with
  | nil => rfl
  | cons b p ih =>
    rw [Program.output, List.filter_cons_of_pos rfl, List.filter_append, edges_block, List.nil_append,
      List.filter_cons_of_pos rfl, ih, List.length_cons, List.replicate_succ, List.flatten_cons]
    rfl

theorem count_opening_marks (p : Program) : p.marks.count .opening = p.length := by
  induction p with
  | nil => rfl
  | cons b p ih =>
    have inside : (b.flatMap Stmt.marks).count .opening = 0 := by
      rw [List.count_eq_zero, List.mem_flatMap]
      rintro ⟨st, -, mem⟩
      cases st <;> simp [Stmt.marks] at mem
    have marks : Program.marks (b :: p) = .opening :: (b.flatMap Stmt.marks ++ Program.marks p) := rfl
    rw [marks, List.count_cons_self, List.count_append, inside, ih, Nat.zero_add, List.length_cons]

theorem isSome_lookup_declares (d : Declared) (b : Block) (name : String) :
    ((b.declares d).lookup name).isSome ↔ (d.lookup name).isSome ∨ .name name ∈ b.flatMap Stmt.marks := by
  induction b generalizing d with
  | nil => simp [Block.declares]
  | cons st b ih =>
    have step : ((st.declares d).lookup name).isSome ↔ (d.lookup name).isSome ∨ .name name ∈ st.marks := by
      cases st with
      | declare type other value =>
        by_cases same : name = other
        · simp [Stmt.declares, Stmt.marks, same]
        · simp [Stmt.declares, Stmt.marks, same, List.lookup_cons, beq_false_of_ne same]
      | print argument => simp [Stmt.declares, Stmt.marks]
      | returnZero => simp [Stmt.declares, Stmt.marks]
      | empty => simp [Stmt.declares, Stmt.marks]
      | assign other first more => simp [Stmt.declares, Stmt.marks]
    change ((Block.declares (st.declares d) b).lookup name).isSome ↔ _
    rw [ih, step, List.flatMap_cons, List.mem_append, or_assoc]

theorem name_mem_marks (p : Program) (name : String) :
    .name name ∈ p.marks ↔ ((p.declares []).lookup name).isSome := by
  unfold Program.declares
  rw [isSome_lookup_declares]
  simp only [Program.marks, List.mem_flatMap, List.mem_flatten, List.mem_cons, reduceCtorEq, false_or, List.lookup_nil,
    Option.isSome_none, Bool.false_eq_true]
  constructor
  · rintro ⟨b, hb, st, hst, mem⟩
    exact ⟨st, ⟨b, hb, hst⟩, mem⟩
  · rintro ⟨st, ⟨b, hb, hst⟩, mem⟩
    exact ⟨b, hb, st, hst, mem⟩

/-! ## Sources -/

section
variable {layout : Layout} {limit : Nat} {source : String} {r : Compilation}

theorem exists_program_of_compile (run : compile layout limit source = .ok r) (accepted : r.diagnostics = []) :
    ∃ (s : Scan) (p : Program), scan limit source = .ok s ∧ p.Allowed [] ∧ s.tokens.map Token.lexeme = p.lexemes ∧
      r.output = some (layout.render (parse s.tokens).fragments) ∧
      (parse s.tokens).fragments = .header :: p.output [] ∧ r.symbols.Agrees (p.declares []) := by
  cases scans : scan limit source with
  | error fault => rw [compile, scans] at run; cases run
  | ok s =>
    obtain rfl := (scan_yields limit source).eq_of_ok scans
    obtain rfl := (compile_yields layout limit source).eq_of_ok run
    have textual := fun t (ht : t ∈ (scanned limit source).tokens) => textual_of_mem_scanned limit source ht
    have none : (scanned limit source).diagnostics limit ++ (parse (scanned limit source).tokens).diagnostics = [] :=
      accepted
    obtain ⟨-, parsed⟩ := List.append_eq_nil_iff.mp none
    obtain ⟨p, allowed, flat⟩ := (parse_diagnostics_eq_nil_iff textual).mp parsed
    have q := parse_quiet allowed textual flat.symm
    refine ⟨_, p, rfl, allowed, flat.symm, ?_, q.fragments, q.declared⟩
    unfold Compilation.ofScan
    dsimp only
    rw [none]
    rfl

/-- **Entry functions.** As many are put out, each with its own call, as there are openings outside of values. -/
theorem compile_opens (run : compile layout limit source = .ok r) (accepted : r.diagnostics = []) :
    ∃ s ws, scan limit source = .ok s ∧ s.tokens.map Token.lexeme = ws ∧
      r.output = some (layout.render (parse s.tokens).fragments) ∧
      (parse s.tokens).fragments.filter Fragment.isEdge =
        (List.replicate ((List.range ws.length).countP fun i => OpensHere (ws.take i) (ws.drop i))
          [.openMain, .closeMain]).flatten := by
  obtain ⟨s, p, scans, allowed, flat, output, fragments, -⟩ := exists_program_of_compile run accepted
  refine ⟨s, p.lexemes, scans, flat, output, ?_⟩
  rw [fragments, ← count_opening_marksFrom, marksFrom_program allowed not_valueOpen_nil, count_opening_marks,
    ← edges_program []]
  rfl

theorem compile_opens_around_value :
    ∃ r, compile ⟨4, true⟩ 99 "main()\x7bint x; x = 1\x7d main()\x7bprint(x);\x7d main()\x7b;\x7d" = .ok r ∧
      r.diagnostics = [] ∧
      ∃ s, scan 99 "main()\x7bint x; x = 1\x7d main()\x7bprint(x);\x7d main()\x7b;\x7d" = .ok s ∧
        r.output = some (Layout.render ⟨4, true⟩ (parse s.tokens).fragments) ∧
        (parse s.tokens).fragments.filter Fragment.isEdge = [.openMain, .closeMain, .openMain, .closeMain] := by
  have run := (compile_yields ⟨4, true⟩ 99
    "main()\x7bint x; x = 1\x7d main()\x7bprint(x);\x7d main()\x7b;\x7d").eq_ok (by decide)
  have accepted : (Compilation.ofScan ⟨4, true⟩ 99 (scanned 99
      "main()\x7bint x; x = 1\x7d main()\x7bprint(x);\x7d main()\x7b;\x7d")).diagnostics = [] := by
    decide +kernel
  obtain ⟨s, ws, scans, rfl, output, edges⟩ := compile_opens run accepted
  refine ⟨_, run, accepted, s, scans, output, edges.trans ?_⟩
  rw [(scan_yields _ _).eq_of_ok scans]
  decide +kernel

/-- A value without its semicolon takes the rest of its block, and the next opening. -/
theorem opening_lost_in_value :
    ∃ r s, compile ⟨4, true⟩ 99 "main()\x7bint x; x = 1\x7d main()\x7bprint(x);\x7d" = .ok r ∧
      scan 99 "main()\x7bint x; x = 1\x7d main()\x7bprint(x);\x7d" = .ok s ∧ r.diagnostics = [] ∧
      r.output = some (Layout.render ⟨4, true⟩ (parse s.tokens).fragments) ∧
      (parse s.tokens).fragments.count .openMain = 1 ∧
      (List.range s.tokens.length).countP (fun i => opening <+: (s.tokens.map Token.lexeme).drop i) = 2 := by
  have run := (compile_yields ⟨4, true⟩ 99 "main()\x7bint x; x = 1\x7d main()\x7bprint(x);\x7d").eq_ok (by decide)
  have scans := (scan_yields 99 "main()\x7bint x; x = 1\x7d main()\x7bprint(x);\x7d").eq_ok (by decide)
  refine ⟨_, _, run, scans, ?_⟩
  decide +kernel

/-- **Declared names.** A type that starts a statement declares what comes next and puts it out, be it a word or not. -/
theorem compile_declares (run : compile layout limit source = .ok r) (accepted : r.diagnostics = []) :
    ∃ s ws, scan limit source = .ok s ∧ s.tokens.map Token.lexeme = ws ∧
      r.output = some (layout.render (parse s.tokens).fragments) ∧
      (∀ name, (name ∈ r.symbols.names ↔ ∃ i, DeclaresHere name (ws.take i) (ws.drop i)) ∧
        (name ∈ r.symbols.names ↔ ∃ value, .statement (.declare name value) ∈ (parse s.tokens).fragments)) ∧
      ((∀ name ∈ r.symbols.names, isWordText name) ↔
        ∀ i name, DeclaresHere name (ws.take i) (ws.drop i) → isWordText name) := by
  obtain ⟨s, p, scans, allowed, flat, output, fragments, declared⟩ := exists_program_of_compile run accepted
  have known (name : String) : name ∈ r.symbols.names ↔ .name name ∈ p.marks := by
    rw [SymbolTable.mem_names, declared, name_mem_marks]
  have places (name : String) :
      name ∈ r.symbols.names ↔ ∃ i, DeclaresHere name (p.lexemes.take i) (p.lexemes.drop i) := by
    rw [known, ← name_mem_marksFrom, marksFrom_program allowed not_valueOpen_nil]
  refine ⟨s, p.lexemes, scans, flat, output, fun name => ⟨places name, ?_⟩, ?_⟩
  · have marks : (parse s.tokens).fragments.filterMap Fragment.mark? = p.marks := by
      rw [fragments, ← Program.marks_output [] p]
      rfl
    rw [known, ← marks, Fragment.name_mem_marks]
  · simp only [places]
    exact ⟨fun words i name here => words name ⟨i, here⟩, fun words name ⟨i, here⟩ => words i name here⟩

theorem compile_declares_literal :
    ∃ r, compile ⟨4, true⟩ 99 "main()\x7bint x = ;; bool \"a\" = 1; x = int y;\x7d" = .ok r ∧ r.diagnostics = [] ∧
      ∃ s, scan 99 "main()\x7bint x = ;; bool \"a\" = 1; x = int y;\x7d" = .ok s ∧
        ¬isWordText "\"a\"" ∧ "\"a\"" ∈ r.symbols.names ∧ "y" ∉ r.symbols.names ∧
        (∃ value, .statement (.declare "\"a\"" value) ∈ (parse s.tokens).fragments) ∧
        ∃ i, DeclaresHere "\"a\"" ((s.tokens.map Token.lexeme).take i) ((s.tokens.map Token.lexeme).drop i) := by
  have run := (compile_yields ⟨4, true⟩ 99 "main()\x7bint x = ;; bool \"a\" = 1; x = int y;\x7d").eq_ok (by decide)
  have accepted : (Compilation.ofScan ⟨4, true⟩ 99 (scanned 99
      "main()\x7bint x = ;; bool \"a\" = 1; x = int y;\x7d")).diagnostics = [] := by
    decide +kernel
  have names : (Compilation.ofScan ⟨4, true⟩ 99 (scanned 99
      "main()\x7bint x = ;; bool \"a\" = 1; x = int y;\x7d")).symbols.names = ["\"a\"", "x"] := by
    decide +kernel
  have known := names ▸ List.mem_cons_self
  obtain ⟨s, ws, scans, rfl, -, declared, -⟩ := compile_declares run accepted
  exact ⟨_, run, accepted, s, scans, by decide, known, by rw [names]; decide, (declared _).2.mp known,
    (declared _).1.mp known⟩

theorem plus_declared :
    ∃ r, compile ⟨4, true⟩ 99 "main()\x7bint +;\x7d" = .ok r ∧ r.diagnostics = [] ∧ "+" ∈ r.symbols.names ∧
      ¬isWordText "+" ∧
      r.output = some ("# Generated by minic: C subset translated to Python\n" ++
        "\ndef main():\n    + = 0\n\nif __name__ == \"__main__\":\n    main()\n") := by
  have run := (compile_yields ⟨4, true⟩ 99 "main()\x7bint +;\x7d").eq_ok (by decide)
  refine ⟨_, run, ?_⟩
  decide +kernel

end

end CSubset
