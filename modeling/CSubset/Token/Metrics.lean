import CSubset.Token.Scan

/-!
# Counts of a scan

How many tokens of each class a scan made, how long its longest string is, and how many lines it passed. An analyzer
scans one text after the other under the same token limit, and has the counts of the last of them.
-/

namespace CSubset

structure Metrics where
  totalTokens : Nat := 0
  keywordTokens : Nat := 0
  wordTokens : Nat := 0
  stringLiterals : Nat := 0
  punctuationTokens : Nat := 0
  symbolTokens : Nat := 0
  unmatchedQuotes : Nat := 0
  /-- In bytes, quotes included. -/
  maxStringLength : Nat := 0
  lineCount : Nat := 0
  deriving DecidableEq, Repr

namespace Metrics

def record (m : Metrics) (t : Token) : Metrics :=
  let m := { m with totalTokens := m.totalTokens + 1 }
  match t.kind with
  | .keyword _ => { m with keywordTokens := m.keywordTokens + 1 }
  | .word => { m with wordTokens := m.wordTokens + 1 }
  | .stringLiteral =>
    { m with
      stringLiterals := m.stringLiterals + 1
      maxStringLength := max m.maxStringLength t.lexeme.utf8ByteSize }
  | .punctuation _ => { m with punctuationTokens := m.punctuationTokens + 1 }
  | .symbol =>
    { m with
      symbolTokens := m.symbolTokens + 1
      unmatchedQuotes := m.unmatchedQuotes + (if t.hasText "\"" then 1 else 0) }

def ofScan (s : Scan) : Metrics := { s.tokens.foldl record {} with lineCount := s.stop.line }

def summary (m : Metrics) : String :=
  "Lexical metrics: " ++ toString m.keywordTokens ++ " keywords, "
    ++ toString m.wordTokens ++ " words, "
    ++ toString m.stringLiterals ++ " string literals, "
    ++ toString m.punctuationTokens ++ " punctuation, "
    ++ toString m.symbolTokens ++ " symbols ("
    ++ toString m.unmatchedQuotes ++ " unmatched quotes), "
    ++ toString m.lineCount ++ " lines"

end Metrics

structure Analyzer where
  limit : Nat
  metrics : Metrics
  limit_le : limit ≤ Limits.current.maxTokenCount

namespace Analyzer

def withLimit (limit : Nat) : Analyzer := ⟨tokenLimit limit, {}, Nat.min_le_right _ _⟩

def tokenize (a : Analyzer) (source : String) : Except Fault (Scan × Analyzer) := do
  let s ← scan a.limit source
  return (s, { a with metrics := .ofScan s })

end Analyzer

end CSubset
