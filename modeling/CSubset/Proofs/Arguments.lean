import CSubset.Arguments
import Mathlib.Data.List.Induction

/-!
# What arguments say

Arguments say items, one after the other: an option with its value, a switch, or an input file. They are divided into
items up to the place where reading ends, and this division tells what is read (`Division.ofArguments_eq`). Every list
of arguments has one (`exists_division`), and no list can be written as items in two ways (`writeItems_injective`).
-/

namespace CSubset

/-! ## Kinds of arguments -/

namespace ArgumentKind

def flags : List String := ["--help", "-h", "-o", "--output", "--trace", "--config", "--json"]

def Spelled (arg : String) : ArgumentKind → Prop
  | help => arg = "--help" ∨ arg = "-h"
  | output => arg = "-o" ∨ arg = "--output"
  | trace => arg = "--trace"
  | config => arg = "--config"
  | json => arg = "--json"
  | unknown => arg.toList.head? = some '-' ∧ arg ∉ flags
  | positional => arg.toList.head? ≠ some '-'

theorem spelled_of {arg : String} {kind : ArgumentKind} (h : of arg = kind) : Spelled arg kind := by
  subst h
  unfold of
  split_ifs <;> simp_all [Spelled, flags]

theorem of_notMem {arg : String} (h : arg ∉ flags) :
    of arg = if arg.toList.head? = some '-' then unknown else positional := by
  simp only [flags, List.mem_cons, List.not_mem_nil, or_false, not_or] at h
  simp [of, h]

theorem of_eq {arg : String} (kind : ArgumentKind) (h : Spelled arg kind) : of arg = kind := by
  cases kind with
  | help => rcases h with rfl | rfl <;> rfl
  | output => rcases h with rfl | rfl <;> rfl
  | trace => cases h; rfl
  | config => cases h; rfl
  | json => cases h; rfl
  | unknown => rw [of_notMem h.2, if_pos h.1]
  | positional =>
    have dashed : ∀ flag ∈ flags, flag.toList.head? = some '-' := by decide
    rw [of_notMem fun known => h (dashed arg known), if_neg h]

end ArgumentKind

/-! ## Items -/

inductive ArgumentItem where
  | output (long : Bool) (value : String)
  | trace (value : String)
  | config (value : String)
  | json
  | input (path : String) (plain : path.toList.head? ≠ some '-')
  deriving DecidableEq

namespace ArgumentItem

def words : ArgumentItem → List String
  | output false value => ["-o", value]
  | output true value => ["--output", value]
  | trace value => ["--trace", value]
  | config value => ["--config", value]
  | json => ["--json"]
  | input path _ => [path]

def output? : ArgumentItem → Option String
  | output _ value => some value
  | _ => none

def trace? : ArgumentItem → Option String
  | trace value => some value
  | _ => none

def config? : ArgumentItem → Option String
  | config value => some value
  | _ => none

def input? : ArgumentItem → Option String
  | input path _ => some path
  | _ => none

def first? : List String → Option (ArgumentItem × List String)
  | [] => none
  | arg :: args =>
    match ArgumentKind.of arg, args with
    | .output, value :: rest => some (output (arg == "--output") value, rest)
    | .trace, value :: rest => some (trace value, rest)
    | .config, value :: rest => some (config value, rest)
    | .json, rest => some (json, rest)
    | .positional, rest => if plain : arg.toList.head? ≠ some '-' then some (input arg plain, rest) else none
    | _, _ => none

theorem first?_words (item : ArgumentItem) (rest : List String) : first? (item.words ++ rest) = some (item, rest) := by
  cases item with
  | output long value => cases long <;> rfl
  | trace value => rfl
  | config value => rfl
  | json => rfl
  | input path plain =>
    change first? (path :: rest) = _
    simp only [first?, ArgumentKind.of_eq .positional plain]
    exact dif_pos plain

end ArgumentItem

def writeItems (items : List ArgumentItem) : List String := items.flatMap ArgumentItem.words

@[simp] theorem writeItems_cons (item : ArgumentItem) (items : List ArgumentItem) :
    writeItems (item :: items) = item.words ++ writeItems items := rfl

theorem writeItems_injective {items others : List ArgumentItem} (h : writeItems items = writeItems others) :
    items = others := by
  -- the first item can be read off the arguments, and so on
  induction items generalizing others with
  | nil =>
    cases others with
    | nil => rfl
    | cons other others =>
      have first := congrArg ArgumentItem.first? h
      rw [writeItems_cons, ArgumentItem.first?_words] at first
      cases first
  | cons item items ih =>
    have first := congrArg ArgumentItem.first? h
    rw [writeItems_cons, ArgumentItem.first?_words] at first
    cases others with
    | nil => cases first
    | cons other others =>
      rw [writeItems_cons, ArgumentItem.first?_words] at first
      obtain ⟨rfl, rest⟩ := Prod.mk.inj (Option.some.inj first)
      rw [ih rest]

def inputsOf (items : List ArgumentItem) : List String := items.filterMap ArgumentItem.input?

@[simp] theorem inputsOf_cons (item : ArgumentItem) (items : List ArgumentItem) :
    inputsOf (item :: items) = item.input?.toList ++ inputsOf items := by
  unfold inputsOf
  rw [List.filterMap_cons]
  cases item.input? <;> rfl

/-! ## Options -/

namespace Options

/-- Of several items of one kind the last counts. -/
def ofItems (input : String) (items : List ArgumentItem) : Options where
  input
  output := (items.filterMap ArgumentItem.output?).getLast?
  trace := (items.filterMap ArgumentItem.trace?).getLast?
  config := (items.filterMap ArgumentItem.config?).getLast?
  json := decide (.json ∈ items)

def note (o : Options) : ArgumentItem → Options
  | .output _ value => { o with output := some value }
  | .trace value => { o with trace := some value }
  | .config value => { o with config := some value }
  | .json => { o with json := true }
  | .input .. => o

theorem ofItems_snoc (items : List ArgumentItem) (item : ArgumentItem) :
    ofItems "" (items ++ [item]) = (ofItems "" items).note item := by
  unfold ofItems
  cases item <;> simp [note, ArgumentItem.output?, ArgumentItem.trace?, ArgumentItem.config?]

theorem foldl_note (items : List ArgumentItem) : items.foldl note {} = ofItems "" items := by
  induction items using List.reverseRecOn with
  | nil => rfl
  | append_singleton items item ih =>
    rw [List.foldl_append, ih, ofItems_snoc]
    rfl

theorem read_item (o : Options) {input : Option String} {item : ArgumentItem} (rest : List String)
    (room : (input.toList ++ item.input?.toList).length ≤ 1) :
    read o input (item.words ++ rest) = read (o.note item) (input.or item.input?) rest := by
  cases item with
  | output long value => cases long <;> simp [ArgumentItem.words, read, ArgumentKind.of, note, ArgumentItem.input?]
  | trace value => simp [ArgumentItem.words, read, ArgumentKind.of, note, ArgumentItem.input?]
  | config value => simp [ArgumentItem.words, read, ArgumentKind.of, note, ArgumentItem.input?]
  | json => simp [ArgumentItem.words, read, ArgumentKind.of, note, ArgumentItem.input?]
  | input path plain =>
    cases input with
    | some other => simp [ArgumentItem.input?] at room
    | none =>
      change read o none (path :: rest) = _
      simp only [read, ArgumentKind.of_eq .positional plain]
      rfl

theorem read_items (o : Options) {input : Option String} {items : List ArgumentItem} (rest : List String)
    (room : (input.toList ++ inputsOf items).length ≤ 1) :
    read o input (writeItems items ++ rest) =
      read (items.foldl note o) (input.toList ++ inputsOf items).head? rest := by
  induction items generalizing o input with
  | nil => cases input <;> rfl
  | cons item items ih =>
    rw [inputsOf_cons, ← List.append_assoc] at room ⊢
    have here : (input.toList ++ item.input?.toList).length ≤ 1 := by
      rw [List.length_append] at room
      omega
    have both : (input.or item.input?).toList = input.toList ++ item.input?.toList := by
      cases input with
      | none => rfl
      | some path =>
        cases h : item.input? with
        | none => rfl
        | some other => simp [h] at here
    rw [writeItems_cons, List.append_assoc, read_item o _ here, ih _ (both ▸ room), both]
    rfl

end Options

/-! ## Divisions -/

/-- Where reading ends: behind the last item, or at an argument that no item starts with. -/
inductive ArgumentsEnd where
  | all
  | help (flag : String) (rest : List String)
  | extra (path : String) (rest : List String)
  | unknown (flag : String) (rest : List String)
  | bare (flag : String)

namespace ArgumentsEnd

def words : ArgumentsEnd → List String
  | all => []
  | help flag rest => flag :: rest
  | extra path rest => path :: rest
  | unknown flag rest => flag :: rest
  | bare flag => [flag]

def Fits (inputs : List String) : ArgumentsEnd → Prop
  | all => True
  | help flag _ => ArgumentKind.Spelled flag .help
  | extra path _ => inputs ≠ [] ∧ ArgumentKind.Spelled path .positional
  | unknown flag _ => ArgumentKind.Spelled flag .unknown
  | bare flag => ∃ kind ∈ [ArgumentKind.output, .trace, .config], ArgumentKind.Spelled flag kind

def outcome (o : Options) (input : Option String) : ArgumentsEnd → Except UsageError Options
  | all =>
    match input with
    | some path => .ok { o with input := path }
    | none => .error .missingInput
  | help .. => .ok { o with help := true }
  | extra path _ => .error (.extraArgument path)
  | unknown flag _ => .error (.unknownOption flag)
  | bare flag => .error (.missingValue flag)

theorem read_words (o : Options) {inputs : List String} {stop : ArgumentsEnd} (fits : stop.Fits inputs) :
    Options.read o inputs.head? stop.words = stop.outcome o inputs.head? := by
  cases stop with
  | all => rfl
  | help flag rest => simp only [words, Options.read, ArgumentKind.of_eq .help fits, outcome]
  | extra path rest =>
    obtain ⟨some, plain⟩ := fits
    obtain ⟨first, more, rfl⟩ := List.exists_cons_of_ne_nil some
    simp only [words, Options.read, ArgumentKind.of_eq .positional plain, outcome]
    rfl
  | unknown flag rest => simp only [words, Options.read, ArgumentKind.of_eq .unknown fits, outcome]
  | bare flag =>
    obtain ⟨kind, known, spelled⟩ := fits
    simp only [List.mem_cons, List.not_mem_nil, or_false] at known
    rcases known with rfl | rfl | rfl
    all_goals simp only [words, Options.read, ArgumentKind.of_eq _ spelled, outcome]

end ArgumentsEnd

/-- The arguments say the items up to `stop`. One more input file may have been read before. -/
structure Division (input : Option String) (args : List String) (items : List ArgumentItem) (stop : ArgumentsEnd) :
    Prop where
  split : args = writeItems items ++ stop.words
  room : (input.toList ++ inputsOf items).length ≤ 1
  fits : stop.Fits (input.toList ++ inputsOf items)

namespace Division

theorem ofArguments_eq {args : List String} {items : List ArgumentItem} {stop : ArgumentsEnd}
    (d : Division none args items stop) :
    Options.ofArguments args = stop.outcome (Options.ofItems "" items) (inputsOf items).head? := by
  unfold Options.ofArguments
  rw [d.split, Options.read_items _ _ d.room, Options.foldl_note]
  exact ArgumentsEnd.read_words _ d.fits

theorem cons {input : Option String} {whole args : List String} {item : ArgumentItem} {items : List ArgumentItem}
    {stop : ArgumentsEnd} (d : Division input args items stop) (split : whole = item.words ++ args)
    (none : item.input? = none) : Division input whole (item :: items) stop where
  split := by rw [split, d.split, writeItems_cons, List.append_assoc]
  room := by rw [inputsOf_cons, none]; exact d.room
  fits := by rw [inputsOf_cons, none]; exact d.fits

theorem cons_input {path : String} {args : List String} {items : List ArgumentItem} {stop : ArgumentsEnd}
    (d : Division (some path) args items stop) (plain : path.toList.head? ≠ some '-') :
    Division none (path :: args) (.input path plain :: items) stop where
  split := by rw [d.split]; rfl
  room := d.room
  fits := d.fits

theorem at_end {input : Option String} {args : List String} {stop : ArgumentsEnd} (split : args = stop.words)
    (fits : stop.Fits input.toList) : Division input args [] stop where
  split
  room := by cases input <;> simp [inputsOf]
  fits := by rw [inputsOf, List.filterMap_nil, List.append_nil]; exact fits

end Division

open ArgumentKind in
theorem exists_division (input : Option String) (args : List String) :
    ∃ items stop, Division input args items stop := by
  obtain ⟨o⟩ : Nonempty Options := ⟨{}⟩
  fun_induction Options.read o input args with
  | case1 => exact ⟨[], .all, .at_end rfl trivial⟩
  | case2 => exact ⟨[], .all, .at_end rfl trivial⟩
  | case3 o input arg rest h => exact ⟨[], .help arg rest, .at_end rfl (spelled_of h)⟩
  | case4 o input arg value rest h ih =>
    obtain ⟨items, stop, d⟩ := ih
    obtain rfl | rfl := spelled_of h
    · exact ⟨.output false value :: items, stop, d.cons rfl rfl⟩
    · exact ⟨.output true value :: items, stop, d.cons rfl rfl⟩
  | case5 o input arg value rest h ih =>
    obtain ⟨items, stop, d⟩ := ih
    obtain rfl := spelled_of h
    exact ⟨.trace value :: items, stop, d.cons rfl rfl⟩
  | case6 o input arg value rest h ih =>
    obtain ⟨items, stop, d⟩ := ih
    obtain rfl := spelled_of h
    exact ⟨.config value :: items, stop, d.cons rfl rfl⟩
  | case7 o input arg h => exact ⟨[], .bare arg, .at_end rfl ⟨.output, by decide, spelled_of h⟩⟩
  | case8 o input arg h => exact ⟨[], .bare arg, .at_end rfl ⟨.trace, by decide, spelled_of h⟩⟩
  | case9 o input arg h => exact ⟨[], .bare arg, .at_end rfl ⟨.config, by decide, spelled_of h⟩⟩
  | case10 o input arg rest h ih =>
    obtain ⟨items, stop, d⟩ := ih
    obtain rfl := spelled_of h
    exact ⟨.json :: items, stop, d.cons rfl rfl⟩
  | case11 o input arg rest h => exact ⟨[], .unknown arg rest, .at_end rfl (spelled_of h)⟩
  | case12 o input path rest h again =>
    obtain ⟨first, rfl⟩ := Option.isSome_iff_exists.mp again
    exact ⟨[], .extra path rest, .at_end rfl ⟨List.cons_ne_nil _ _, spelled_of h⟩⟩
  | case13 o input path rest h first ih =>
    obtain ⟨items, stop, d⟩ := ih
    rw [Option.not_isSome_iff_eq_none.mp first]
    exact ⟨_, stop, d.cons_input (spelled_of h)⟩

/-! ## The grammar -/

theorem Division.whole {items : List ArgumentItem} (room : (inputsOf items).length ≤ 1) :
    Division none (writeItems items) items .all := ⟨(List.append_nil _).symm, room, trivial⟩

theorem of_ofArguments_eq_ok {args : List String} {o : Options} (h : Options.ofArguments args = .ok o) :
    (∃ items path, args = writeItems items ∧ inputsOf items = [path] ∧ o = Options.ofItems path items) ∨
    ∃ items flag rest, Division none args items (.help flag rest) ∧
      o = { Options.ofItems "" items with help := true } := by
  obtain ⟨items, stop, d⟩ := exists_division none args
  rw [d.ofArguments_eq] at h
  cases stop with
  | all =>
    have room : (inputsOf items).length ≤ 1 := d.room
    match inputs : inputsOf items with
    | [] =>
      rw [inputs] at h
      cases h
    | [path] =>
      rw [inputs] at h
      exact Or.inl ⟨items, path, d.split.trans (List.append_nil _), inputs, (Except.ok.inj h).symm⟩
    | _ :: _ :: _ => simp [inputs] at room
  | help flag rest => exact Or.inr ⟨items, flag, rest, d, (Except.ok.inj h).symm⟩
  | extra path rest => cases h
  | unknown flag rest => cases h
  | bare flag => cases h

theorem ofArguments_eq_ok_iff {args : List String} {o : Options} :
    Options.ofArguments args = .ok o ∧ o.help = false ↔
      ∃ items path, args = writeItems items ∧ inputsOf items = [path] ∧ o = Options.ofItems path items := by
  constructor
  · rintro ⟨result, noHelp⟩
    rcases of_ofArguments_eq_ok result with said | ⟨items, flag, rest, -, rfl⟩
    · exact said
    · cases noHelp
  · rintro ⟨items, path, rfl, inputs, rfl⟩
    rw [(Division.whole (by rw [inputs]; exact Nat.le_refl 1)).ofArguments_eq, inputs]
    exact ⟨rfl, rfl⟩

theorem ofArguments_eq_help_iff {args : List String} {o : Options} :
    Options.ofArguments args = .ok o ∧ o.help = true ↔
      ∃ items flag rest, args = writeItems items ++ flag :: rest ∧ (inputsOf items).length ≤ 1 ∧
        (flag = "--help" ∨ flag = "-h") ∧ o = { Options.ofItems "" items with help := true } := by
  constructor
  · rintro ⟨result, help⟩
    rcases of_ofArguments_eq_ok result with ⟨items, path, -, -, rfl⟩ | ⟨items, flag, rest, d, rfl⟩
    · cases help
    · exact ⟨items, flag, rest, d.split, d.room, d.fits, rfl⟩
  · rintro ⟨items, flag, rest, rfl, room, spelled, rfl⟩
    have d : Division none (writeItems items ++ flag :: rest) items (.help flag rest) := ⟨rfl, room, spelled⟩
    rw [d.ofArguments_eq]
    exact ⟨rfl, rfl⟩

theorem exists_extra {items : List ArgumentItem} {first second : String} {more : List String}
    (h : inputsOf items = first :: second :: more) :
    ∃ front rest, Division none (writeItems items) front (.extra second rest) := by
  -- everything in front of the second input file can be read, and that file cannot
  change items.filterMap _ = [first] ++ second :: more at h
  obtain ⟨front, back, rfl, one, others⟩ := List.filterMap_eq_append_iff.mp h
  obtain ⟨silent, item, rest, rfl, none, two, -⟩ := List.filterMap_eq_cons_iff.mp others
  cases item with
  | input path plain =>
    obtain rfl := Option.some.inj two
    have inputs : inputsOf (front ++ silent) = [first] := by
      unfold inputsOf
      rw [List.filterMap_append, one, List.filterMap_eq_nil_iff.mpr none, List.append_nil]
    refine ⟨front ++ silent, writeItems rest, ?_, ?_, ?_⟩
    · simp [writeItems, ArgumentItem.words, ArgumentsEnd.words]
    · rw [inputs]
      exact Nat.le_refl 1
    · rw [inputs]
      exact ⟨List.cons_ne_nil _ _, plain⟩
  | _ => cases two

def Refused (args : List String) (text : String) : Prop := ∃ e, Options.ofArguments args = .error e ∧ e.message = text

/-- **Arguments.** Options are read from a list of arguments, other than a call for help, if and only if the list says
items of which exactly one is an input file. Each option has the value of its last item. A list says items in one way
only; without an input file among them, or with a second one, it is refused. A call for help that stands where an item
could start, and before a second input file, is answered whatever follows it. -/
theorem ofArguments_grammar (args : List String) :
    (∀ o, Options.ofArguments args = .ok o ∧ o.help = false ↔
      ∃ items path, args = writeItems items ∧ inputsOf items = [path] ∧ o = Options.ofItems path items) ∧
    (∀ items, args = writeItems items →
      (∀ others, args = writeItems others → others = items) ∧
      (inputsOf items = [] → Refused args "Missing input file") ∧
      ∀ first second more, inputsOf items = first :: second :: more →
        Refused args ("Unexpected extra argument '" ++ second ++ "'")) ∧
    ∀ o, Options.ofArguments args = .ok o ∧ o.help = true ↔
      ∃ items flag rest, args = writeItems items ++ flag :: rest ∧ (inputsOf items).length ≤ 1 ∧
        (flag = "--help" ∨ flag = "-h") ∧ o = { Options.ofItems "" items with help := true } := by
  refine ⟨fun o => ofArguments_eq_ok_iff, ?_, fun o => ofArguments_eq_help_iff⟩
  rintro items rfl
  refine ⟨fun others same => writeItems_injective same.symm, ?_, ?_⟩
  · intro inputs
    refine ⟨.missingInput, ?_, rfl⟩
    rw [(Division.whole (by rw [inputs]; exact Nat.zero_le 1)).ofArguments_eq, inputs]
    rfl
  · intro first second more inputs
    obtain ⟨front, rest, d⟩ := exists_extra inputs
    exact ⟨.extraArgument second, d.ofArguments_eq, rfl⟩

theorem ofArguments_grammar_values :
    Options.ofArguments ["-o", "--help", "", "--json", "--output", "-o"] = .ok { output := some "-o", json := true } ∧
    Refused ["--trace", "--config"] "Missing input file" ∧
    Refused ["a.c", "--trace", "-h", "b.c", "c.c"] "Unexpected extra argument 'b.c'" ∧
    Options.ofArguments ["a.c", "--config", "x", "-h", "b.c", "--none"] = .ok { config := some "x", help := true } := by
  have empty : "".toList.head? ≠ some '-' := by decide
  have a : "a.c".toList.head? ≠ some '-' := by decide
  have b : "b.c".toList.head? ≠ some '-' := by decide
  have c : "c.c".toList.head? ≠ some '-' := by decide
  refine ⟨?_, ?_, ?_, ?_⟩
  · exact (((ofArguments_grammar _).1 _).mpr
      ⟨[.output false "--help", .input "" empty, .json, .output true "-o"], "", rfl, rfl, rfl⟩).1
  · exact ((ofArguments_grammar _).2.1 [.trace "--config"] rfl).2.1 rfl
  · exact ((ofArguments_grammar _).2.1 [.input "a.c" a, .trace "-h", .input "b.c" b, .input "c.c" c] rfl).2.2
      "a.c" "b.c" ["c.c"] rfl
  · exact (((ofArguments_grammar _).2.2 _).mpr
      ⟨[.input "a.c" a, .config "x"], "-h", ["b.c", "--none"], rfl, Nat.le_refl 1, Or.inr rfl, rfl⟩).1

end CSubset
