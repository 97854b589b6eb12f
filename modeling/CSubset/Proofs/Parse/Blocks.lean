import CSubset.Proofs.Parse.Consumption
import CSubset.Proofs.Parse.Translation
import Mathlib.Data.List.Forall2

/-!
# Blocks and their layout

Whatever the tokens, the parser puts out a heading and then blocks, each of them statements between an opening and a
trailer, one block for each call of `mainFunction` (`MainCalls.blocks`, `program_page`). A layout decides how these
pieces are set on the page, and nothing else (`compile_layouts`).
-/

namespace CSubset

def Fragment.block (xs : List Statement) : List Fragment := .openMain :: (xs.map .statement ++ [.closeMain])

namespace ParseState

def Writes (s s' : ParseState) (xs : List Statement) : Prop := s'.fragments = s.fragments ++ xs.map .statement

namespace Writes

theorem of_eq {s s' : ParseState} (h : s'.fragments = s.fragments) : Writes s s' [] := by
  unfold Writes
  rw [h, List.map_nil, List.append_nil]

theorem trans {s s' s'' : ParseState} {xs ys : List Statement} (h : Writes s s' xs) (h' : Writes s' s'' ys) :
    Writes s s'' (xs ++ ys) := by
  unfold Writes at *
  rw [h', h, List.map_append, List.append_assoc]

theorem emit {s s' : ParseState} (h : s'.fragments = s.fragments) (x : Statement) :
    Writes s (s'.emit (.statement x)) [x] := by
  unfold Writes
  rw [fragments_emit, h]
  rfl

end Writes

/-! ## Statements -/

theorem declarationEnd_writes (s : ParseState) (type name : Token) : ∃ xs, Writes s (s.declarationEnd type name) xs := by
  unfold declarationEnd
  dsimp only
  split
  · split
    · exact ⟨[], .of_eq (by simp)⟩
    · exact ⟨_, .emit (by simp) _⟩
  · split
    · exact ⟨_, .emit (by simp) _⟩
    · exact ⟨_, .emit (by simp) _⟩

theorem declaration_writes (s : ParseState) : ∃ xs, Writes s s.declaration xs := by
  unfold declaration
  split
  · exact ⟨[], .of_eq (by simp)⟩
  · next type _ =>
    dsimp only
    split
    · exact ⟨[], .of_eq (by simp)⟩
    · next name _ =>
      split
      · next d _ =>
        obtain ⟨xs, h⟩ := declarationEnd_writes (s.next.next.declare name.lexeme d name.span) type name
        exact ⟨xs, Writes.trans (.of_eq (by simp)) h⟩
      · obtain ⟨xs, h⟩ := declarationEnd_writes s.next.next type name
        exact ⟨xs, Writes.trans (.of_eq (by simp)) h⟩

theorem printStatement_writes (c : Criteria) (s : ParseState) : ∃ xs, Writes s (s.printStatement c) xs := by
  unfold printStatement
  dsimp only
  split
  · exact ⟨[], .of_eq (by simp)⟩
  · split
    · exact ⟨_, .emit (by simp) _⟩
    · exact ⟨_, .emit (by simp) _⟩

theorem judge_writes (c : Criteria) (s : ParseState) (parts : List Token) : ∃ xs, Writes s (s.judge c parts) xs := by
  unfold judge
  split
  · exact ⟨[], .of_eq rfl⟩
  · split
    · split
      · exact ⟨_, .emit (by simp) _⟩
      · exact ⟨[], .of_eq (by simp)⟩
    · exact ⟨[], .of_eq (by simp)⟩

theorem otherStatement_writes (c : Criteria) (s : ParseState) : ∃ xs, Writes s (s.otherStatement c) xs := by
  unfold otherStatement
  dsimp only
  split
  · obtain ⟨xs, h⟩ := judge_writes c (s.takeUpTo isTerminator) (s.upTo isTerminator)
    exact ⟨_, (Writes.trans (.of_eq (by simp)) h).trans (.of_eq (by simp))⟩
  · obtain ⟨xs, h⟩ := judge_writes c (s.takeUpTo isTerminator).next (s.upTo isTerminator)
    exact ⟨xs, Writes.trans (.of_eq (by simp)) h⟩

theorem statement_writes (c : Criteria) (first : Token) (s : ParseState) : ∃ xs, Writes s (s.statement c first) xs := by
  unfold statement
  dsimp only
  split
  · exact declaration_writes s
  · split
    · exact printStatement_writes c s
    · split
      · split
        · exact ⟨[], .of_eq (by simp [returnZero])⟩
        · obtain ⟨xs, h⟩ := otherStatement_writes c s.peekSecond
          exact ⟨xs, Writes.trans (.of_eq (by simp)) h⟩
      · exact otherStatement_writes c s

/-! ## Blocks -/

theorem body_writes (c : Criteria) (s : ParseState) : ∃ xs, Writes s (s.body c) xs := by
  fun_induction body c s with
  | case1 s h => exact ⟨[], .of_eq (by simp)⟩
  | case2 s t ts h _ => exact ⟨[], .of_eq (by simp)⟩
  | case3 s t ts h _ ih =>
    obtain ⟨xs, one⟩ := statement_writes c t s.peek
    obtain ⟨ys, more⟩ := ih
    exact ⟨xs ++ ys, Writes.trans (Writes.trans (.of_eq (by simp)) one) more⟩

theorem mainFunction_writes (c : Criteria) (s : ParseState) :
    ∃ xs, (s.mainFunction c).fragments = s.fragments ++ Fragment.block xs := by
  obtain ⟨xs, inside⟩ := body_writes c s.opened
  have opening : s.opened.fragments = s.fragments ++ [.openMain] := by simp [opened]
  refine ⟨xs, ?_⟩
  rw [mainFunction_eq, fragments_note, fragments_emit, fragments_expect, inside, opening]
  simp [Fragment.block]

def WritesBlock (call : ParseState × ParseState) (xs : List Statement) : Prop :=
  call.2.fragments = call.1.fragments ++ Fragment.block xs

theorem MainCalls.blocks {c : Criteria} {s : ParseState} {mains : List (ParseState × ParseState)} {s' : ParseState}
    (h : MainCalls c s mains s') : ∃ blocks : List (List Statement), List.Forall₂ WritesBlock mains blocks ∧
      s'.fragments = s.fragments ++ blocks.flatMap Fragment.block := by
  induction h with
  | stop => exact ⟨[], .nil, by simp⟩
  | @call s _ _ _ _ _ _ _ ih =>
    obtain ⟨xs, one⟩ := mainFunction_writes c s.peek
    obtain ⟨blocks, each, more⟩ := ih
    refine ⟨xs :: blocks, .cons one each, ?_⟩
    rw [more, one, fragments_peek, List.flatMap_cons, List.append_assoc]
  | pass _ _ _ ih =>
    obtain ⟨blocks, each, more⟩ := ih
    exact ⟨blocks, each, by simpa using more⟩

end ParseState

theorem parse_blocks (tokens : List Token) :
    ∃ blocks : List (List Statement), (parse tokens).fragments = .header :: blocks.flatMap Fragment.block := by
  obtain ⟨mains, s', calls, result⟩ := ParseState.functions_calls .byClass ((ParseState.ofTokens tokens).emit .header)
  obtain ⟨blocks, -, fragments⟩ := calls.blocks
  refine ⟨blocks, ?_⟩
  unfold parse ParseState.program
  rw [result, ParseState.fragments_note, ParseState.fragments_peek, fragments, ParseState.fragments_emit]
  rfl

/-! ## Setting the blocks -/

namespace Layout

def blockText (l : Layout) (texts : List String) : String :=
  "\ndef main():\n" ++ unlines (texts.map (spaces l.indentWidth ++ ·)) ++
    (if texts = [] ∧ l.padEmptyBody then spaces l.indentWidth ++ "pass\n" else "") ++
    "\nif __name__ == \"__main__\":\n" ++ spaces l.indentWidth ++ "main()\n"

def pageText (l : Layout) (blocks : List (List String)) : String :=
  headerComment ++ "\n" ++ String.join (blocks.map l.blockText)

variable (l : Layout)

theorem renderOnto_block_fragments (out : String) (count : Nat) (xs : List Statement) (fs : List Fragment) :
    l.renderOnto out count (Fragment.block xs ++ fs) =
      l.renderOnto (out ++ l.blockText (xs.map Statement.text)) xs.length fs := by
  have counted : countAfter count .openMain + xs.length = xs.length := Nat.zero_add _
  have text : l.fragmentText count .openMain ++ unlines ((xs.map Statement.text).map (l.indent ++ ·)) ++
      l.fragmentText xs.length .closeMain = l.blockText (xs.map Statement.text) := by
    unfold blockText fragmentText
    by_cases bare : xs = [] ∧ l.padEmptyBody
    · simp [bare.1, bare.2, indented, indent, spaces, String.append_assoc]
    · have full : ¬(xs.length = 0 ∧ l.padEmptyBody) := by simpa using bare
      have full' : ¬(xs.map Statement.text = [] ∧ l.padEmptyBody) := by simpa using bare
      rw [if_neg full, if_neg full']
      simp [indented, indent, spaces, String.append_assoc]
  unfold Fragment.block
  rw [List.cons_append, List.append_assoc, renderOnto_cons, renderOnto_statements, counted, List.singleton_append,
    renderOnto_cons, ← text]
  simp only [String.append_assoc]
  rfl

theorem renderOnto_blocks (out : String) (count : Nat) (blocks : List (List Statement)) :
    l.renderOnto out count (blocks.flatMap Fragment.block) =
      out ++ String.join ((blocks.map (·.map Statement.text)).map l.blockText) := by
  induction blocks generalizing out count with
  | nil => simp [renderOnto]
  | cons xs blocks ih =>
    rw [List.flatMap_cons, renderOnto_block_fragments, ih]
    simp [String.append_assoc]

theorem renderOnto_append (out : String) (count : Nat) (fs gs : List Fragment) :
    l.renderOnto out count (fs ++ gs) = l.renderOnto (l.renderOnto out count fs) (fs.foldl countAfter count) gs := by
  induction fs generalizing out count with
  | nil => rfl
  | cons f fs ih => exact ih _ _

/-- A block counts its own statements only, so it is set alike behind whatever was put out before. -/
theorem render_append_block (fs : List Fragment) (xs : List Statement) :
    l.render (fs ++ Fragment.block xs) = l.render fs ++ l.blockText (xs.map Statement.text) := by
  unfold render
  rw [renderOnto_append, ← List.append_nil (Fragment.block xs), renderOnto_block_fragments]
  rfl

theorem render_append_page (fs : List Fragment) (blocks : List (List Statement)) :
    l.render (fs ++ .header :: blocks.flatMap Fragment.block) =
      l.render fs ++ l.pageText (blocks.map (·.map Statement.text)) := by
  unfold render
  rw [renderOnto_append, renderOnto_cons, renderOnto_blocks]
  simp [pageText, fragmentText, String.append_assoc]

theorem render_blocks (blocks : List (List Statement)) :
    l.render (.header :: blocks.flatMap Fragment.block) = l.pageText (blocks.map (·.map Statement.text)) := by
  have page := l.render_append_page [] blocks
  rwa [List.nil_append, show l.render [] = "" from rfl, String.empty_append] at page

variable {l} in
theorem blockText_padded (pad : l.padEmptyBody) (texts : List String) :
    ∃ line rest, l.blockText texts = "\ndef main():\n" ++ (spaces l.indentWidth ++ line ++ "\n") ++ rest := by
  let trailer := "\nif __name__ == \"__main__\":\n" ++ spaces l.indentWidth ++ "main()\n"
  unfold blockText
  cases texts with
  | nil =>
    have line : spaces l.indentWidth ++ "pass\n" = spaces l.indentWidth ++ "pass" ++ "\n" := by
      rw [String.append_assoc]
      rfl
    exact ⟨"pass", trailer, by simp [pad, trailer, line, ← String.append_assoc]⟩
  | cons text texts =>
    exact ⟨text, unlines (texts.map (spaces l.indentWidth ++ ·)) ++ trailer, by simp [trailer, ← String.append_assoc]⟩

end Layout

/-! ## One run -/

open ParseState in
/-- **Blocks.** Whatever the tokens, and whatever was put out before, a run of the parser puts out the heading and then
one block for each call of `mainFunction`: an opening, any number of statements, `pass` if there are none and the layout
pads, and the trailer. So with padding the line behind every opening is an indented one. -/
theorem program_page (c : Criteria) (s : ParseState) :
    ∃ (mains : List (ParseState × ParseState)) (s' : ParseState) (blocks : List (List Statement)),
      MainCalls c (s.emit .header) mains s' ∧
      s.program c = s'.peek.note ("Parsing finished: " ++ toString s'.symbols.size ++ " symbols declared") ∧
      blocks.length = mains.length ∧
      ∀ l : Layout,
        l.render (s.program c).fragments = l.render s.fragments ++ l.pageText (blocks.map (·.map Statement.text)) ∧
        List.Forall₂ (fun main xs => l.render main.2.fragments =
          l.render main.1.fragments ++ l.blockText (xs.map Statement.text)) mains blocks ∧
        (l.padEmptyBody → ∀ xs ∈ blocks, ∃ line rest, l.blockText (xs.map Statement.text) =
          "\ndef main():\n" ++ (spaces l.indentWidth ++ line ++ "\n") ++ rest) := by
  obtain ⟨mains, s', calls, result⟩ := functions_calls c (s.emit .header)
  obtain ⟨blocks, each, all⟩ := calls.blocks
  have finish : s.program c =
      s'.peek.note ("Parsing finished: " ++ toString s'.symbols.size ++ " symbols declared") := by
    unfold program
    rw [result]
    rfl
  have fragments : (s.program c).fragments = s.fragments ++ .header :: blocks.flatMap Fragment.block := by
    rw [finish, fragments_note, fragments_peek, all, fragments_emit, List.append_assoc, List.singleton_append]
  refine ⟨mains, s', blocks, calls, finish, each.length_eq.symm, fun l => ⟨?_, ?_, ?_⟩⟩
  · rw [fragments, l.render_append_page]
  · refine each.imp fun main xs written => ?_
    rw [written, l.render_append_block]
  · exact fun pad xs _ => Layout.blockText_padded pad _

/-! ## Two layouts -/

structure Compilation.SameRun (a b : Compilation) : Prop where
  diagnostics : a.diagnostics = b.diagnostics
  traceLines : a.traceLines = b.traceLines
  symbols : a.symbols = b.symbols
  metrics : a.metrics = b.metrics
  succeeded : a.succeeded = b.succeeded

theorem sameRun_ofScan (a b : Layout) (limit : Nat) (s : Scan) :
    (Compilation.ofScan a limit s).SameRun (.ofScan b limit s) := by
  refine ⟨rfl, rfl, rfl, rfl, ?_⟩
  -- unfolded first: the two compilations as a whole are not equal
  unfold Compilation.succeeded
  rfl

theorem output_ofScan (layout : Layout) (limit : Nat) {s : Scan} {blocks : List (List Statement)}
    (h : (parse s.tokens).fragments = .header :: blocks.flatMap Fragment.block) :
    (Compilation.ofScan layout limit s).output =
      if (Compilation.ofScan layout limit s).succeeded then some (layout.pageText (blocks.map (·.map Statement.text)))
      else none := by
  rw [← Layout.render_blocks, ← h]
  rfl

/-- **Layouts.** A text is compiled under every layout or, if it is too long, under none. Two layouts give the same but
for the output, and the outputs are the same blocks, set by the one layout and by the other. -/
theorem compile_layouts (limit : Nat) (source : String) :
    (4294967295 ≤ source.utf8ByteSize ∧ ∃ fault, ∀ layout, compile layout limit source = .error fault) ∨
    ∃ (s : Scan) (blocks : List (List Statement)), scan limit source = .ok s ∧
      (parse s.tokens).fragments = .header :: blocks.flatMap Fragment.block ∧
      ∀ a b : Layout, ∃ ra rb, compile a limit source = .ok ra ∧ compile b limit source = .ok rb ∧ ra.SameRun rb ∧
        ra.output = (if ra.succeeded then some (a.pageText (blocks.map (·.map Statement.text))) else none) ∧
        rb.output = (if rb.succeeded then some (b.pageText (blocks.map (·.map Statement.text))) else none) := by
  rcases scan_yields limit source with run | ⟨long, fault, run⟩
  · obtain ⟨blocks, fragments⟩ := parse_blocks (scanned limit source).tokens
    refine Or.inr ⟨_, blocks, run, fragments, ?_⟩
    intro a b
    refine ⟨.ofScan a limit (scanned limit source), .ofScan b limit (scanned limit source), ?_, ?_,
      sameRun_ofScan a b limit _, output_ofScan a limit fragments, output_ofScan b limit fragments⟩
    · unfold compile
      rw [run]
      rfl
    · unfold compile
      rw [run]
      rfl
  · refine Or.inl ⟨long, fault, ?_⟩
    intro layout
    unfold compile
    rw [run]
    rfl

end CSubset
