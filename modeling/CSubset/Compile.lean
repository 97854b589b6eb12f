import CSubset.Parse
import CSubset.Text.Quoted
import CSubset.Token.Metrics

/-!
# Compiling a source text

Scanning and parsing always run to their ends. The generated text is handed out only if nothing was reported.
-/

namespace CSubset

namespace Scan

def diagnostics (limit : Nat) (s : Scan) : List Diagnostic :=
  match s.excess with
  | none => []
  | some span => [⟨.tooManyTokens (tokenLimit limit), s.tokens.length, some span⟩]

def traceLines (limit : Nat) (s : Scan) : List String :=
  (s.diagnostics limit).map (fun d => "Lexing stopped: " ++ d.message)
    ++ ["Tokenized " ++ toString s.tokens.length ++ " tokens: " ++ quotedList (s.tokens.map (·.lexeme)),
      (Metrics.ofScan s).summary]

end Scan

def traceText (lines : List String) : String := lines.foldl (fun out line => out ++ line ++ "\n") ""

structure Compilation where
  output : Option String
  diagnostics : List Diagnostic
  traceLines : List String
  symbols : SymbolTable
  metrics : Metrics

namespace Compilation

def succeeded (c : Compilation) : Bool := c.diagnostics.isEmpty

def trace (c : Compilation) : String := traceText c.traceLines

end Compilation

def failureText (count : Nat) : String := "Compilation failed with " ++ toString count ++ " error(s)"

def outcomeLines (diagnostics : List Diagnostic) : List String :=
  if diagnostics.isEmpty then ["Compilation succeeded"]
  else (failureText diagnostics.length ++ ":") :: diagnostics.map (fun d => "  " ++ d.text)

def Compilation.ofScan (layout : Layout) (limit : Nat) (s : Scan) : Compilation :=
  let p := parse s.tokens
  let diagnostics := s.diagnostics limit ++ p.diagnostics
  { output := if diagnostics.isEmpty then some (layout.render p.fragments) else none
    diagnostics
    traceLines := s.traceLines limit ++ p.traceLines ++ outcomeLines diagnostics
    symbols := p.symbols
    metrics := .ofScan s }

def compile (layout : Layout) (limit : Nat) (source : String) : Except Fault Compilation := do
  return .ofScan layout limit (← scan limit source)

end CSubset
