import CSubset.Token.Metrics
import CSubset.Proofs.Token.Composition
import CSubset.Proofs.Token.Tiling

/-!
# Counts of a scan

Recording one more token keeps the counts in step with the tokens recorded so far (`Counts.record`), so the counts of
a scan are those of its tokens. Quotes pair up from left to right: a string takes two of them, and at most one is left
over, behind which there is no other. What an analyzer scanned before has no part in any of this (`tokenize_counts`).
-/

namespace CSubset

/-! ## Tokens by class -/

def classCount (name : String) (tokens : List Token) : Nat := tokens.countP (·.kind.name = name)

def loneQuotes (tokens : List Token) : Nat := tokens.countP fun t => t.kind = .symbol ∧ t.lexeme = "\""

theorem classCount_append (name : String) (ts us : List Token) :
    classCount name (ts ++ us) = classCount name ts + classCount name us := List.countP_append

theorem loneQuotes_append (ts us : List Token) : loneQuotes (ts ++ us) = loneQuotes ts + loneQuotes us :=
  List.countP_append

theorem classCount_cons (name : String) (t : Token) (ts : List Token) :
    classCount name (t :: ts) = classCount name [t] + classCount name ts := classCount_append name [t] ts

theorem loneQuotes_cons (t : Token) (ts : List Token) : loneQuotes (t :: ts) = loneQuotes [t] + loneQuotes ts :=
  loneQuotes_append [t] ts

theorem length_eq_classCounts (tokens : List Token) : tokens.length =
    classCount "keyword" tokens + classCount "word" tokens + classCount "string literal" tokens +
      classCount "punctuation" tokens + classCount "symbol" tokens := by
  induction tokens with
  | nil => rfl
  | cons t ts ih =>
    have one : classCount "keyword" [t] + classCount "word" [t] + classCount "string literal" [t] +
        classCount "punctuation" [t] + classCount "symbol" [t] = 1 := by
      cases kind : t.kind <;> simp [classCount, kind, TokenClass.name]
    simp only [List.length_cons, classCount_cons _ t ts]
    omega

structure IsLongest (tokens : List Token) (size : Nat) : Prop where
  bound : ∀ t ∈ tokens, t.kind = .stringLiteral → t.lexeme.utf8ByteSize ≤ size
  attained : (∀ t ∈ tokens, t.kind ≠ .stringLiteral) ∧ size = 0 ∨
    ∃ t ∈ tokens, t.kind = .stringLiteral ∧ t.lexeme.utf8ByteSize = size

theorem isLongest_nil : IsLongest [] 0 := ⟨by simp, Or.inl ⟨by simp, rfl⟩⟩

theorem IsLongest.snoc {tokens : List Token} {size : Nat} (h : IsLongest tokens size) (t : Token) :
    IsLongest (tokens ++ [t])
      (if t.kind = .stringLiteral then max size t.lexeme.utf8ByteSize else size) := by
  by_cases string : t.kind = .stringLiteral
  · rw [if_pos string]
    constructor
    · intro u hu hstring
      rcases List.mem_append.mp hu with hu | hu
      · exact Nat.le_trans (h.bound u hu hstring) (Nat.le_max_left ..)
      · rw [List.mem_singleton.mp hu]
        exact Nat.le_max_right ..
    · refine Or.inr ?_
      by_cases longer : size ≤ t.lexeme.utf8ByteSize
      · exact ⟨t, by simp, string, (Nat.max_eq_right longer).symm⟩
      · rcases h.attained with ⟨-, zero⟩ | ⟨u, hu, hstring, same⟩
        · omega
        · exact ⟨u, List.mem_append_left _ hu, hstring, by omega⟩
  · rw [if_neg string]
    have only : ∀ {u}, u ∈ tokens ++ [t] → u.kind = .stringLiteral → u ∈ tokens := by
      intro u hu hstring
      rcases List.mem_append.mp hu with hu | hu
      · exact hu
      · exact absurd (List.mem_singleton.mp hu ▸ hstring) string
    constructor
    · intro u hu hstring
      exact h.bound u (only hu hstring) hstring
    · rcases h.attained with ⟨none, zero⟩ | ⟨u, hu, attained⟩
      · exact Or.inl ⟨fun u hu hstring => none u (only hu hstring) hstring, zero⟩
      · exact Or.inr ⟨u, List.mem_append_left _ hu, attained⟩

/-! ## Recording tokens -/

namespace Metrics

theorem record_eq (m : Metrics) (t : Token) : m.record t =
    { totalTokens := m.totalTokens + 1
      keywordTokens := m.keywordTokens + classCount "keyword" [t]
      wordTokens := m.wordTokens + classCount "word" [t]
      stringLiterals := m.stringLiterals + classCount "string literal" [t]
      punctuationTokens := m.punctuationTokens + classCount "punctuation" [t]
      symbolTokens := m.symbolTokens + classCount "symbol" [t]
      unmatchedQuotes := m.unmatchedQuotes + loneQuotes [t]
      maxStringLength :=
        if t.kind = .stringLiteral then max m.maxStringLength t.lexeme.utf8ByteSize else m.maxStringLength
      lineCount := m.lineCount } := by
  unfold record
  cases kind : t.kind <;> simp [classCount, loneQuotes, kind, TokenClass.name, Token.hasText, List.countP_singleton]

structure Counts (tokens : List Token) (m : Metrics) : Prop where
  total : m.totalTokens = tokens.length
  keywords : m.keywordTokens = classCount "keyword" tokens
  words : m.wordTokens = classCount "word" tokens
  strings : m.stringLiterals = classCount "string literal" tokens
  punctuation : m.punctuationTokens = classCount "punctuation" tokens
  symbols : m.symbolTokens = classCount "symbol" tokens
  quotes : m.unmatchedQuotes = loneQuotes tokens
  longest : IsLongest tokens m.maxStringLength

theorem Counts.record {tokens : List Token} {m : Metrics} (h : m.Counts tokens) (t : Token) :
    (m.record t).Counts (tokens ++ [t]) := by
  rw [record_eq]
  constructor <;> simp only [classCount_append, loneQuotes_append, List.length_append, List.length_singleton]
  · rw [h.total]
  · rw [h.keywords]
  · rw [h.words]
  · rw [h.strings]
  · rw [h.punctuation]
  · rw [h.symbols]
  · rw [h.quotes]
  · exact h.longest.snoc t

theorem counts_foldl (tokens : List Token) : (tokens.foldl Metrics.record {}).Counts tokens := by
  induction tokens using List.reverseRecOn with
  | nil => exact ⟨rfl, rfl, rfl, rfl, rfl, rfl, rfl, isLongest_nil⟩
  | append_singleton tokens t ih =>
    rw [List.foldl_append]
    exact ih.record t

theorem counts_ofScan (s : Scan) : (ofScan s).Counts s.tokens := by
  obtain ⟨total, keywords, words, strings, punctuation, symbols, quotes, longest⟩ := counts_foldl s.tokens
  exact ⟨total, keywords, words, strings, punctuation, symbols, quotes, longest⟩

end Metrics

/-! ## Quotes -/

theorem LexemeForm.Fits.quotes {before text after : List Char} {f : LexemeForm} (h : f.Fits before text after)
    {t : Token} (lexeme : t.lexeme = String.ofList text) (kind : f.Has text t.kind) :
    text.count '"' = 2 * classCount "string literal" [t] + loneQuotes [t] ∧
      (0 < loneQuotes [t] → '"' ∉ after) := by
  rw [h.count_quote]
  unfold classCount loneQuotes
  cases f with
  | string =>
    have kind : t.kind = .stringLiteral := kind
    simp [quoteCount, kind, TokenClass.name]
  | word =>
    rcases kind with ⟨k, -, kind⟩ | ⟨-, kind⟩
    · simp [quoteCount, kind, TokenClass.name]
    · simp [quoteCount, kind, TokenClass.name]
  | mark =>
    obtain ⟨c, rfl, -, -, other⟩ := h
    have apart : t.lexeme ≠ "\"" := by
      intro same
      have := congrArg String.toList (lexeme.symm.trans same)
      rw [String.toList_ofList] at this
      exact other (List.cons.inj this).1
    rcases kind with ⟨p, -, kind⟩ | ⟨-, kind⟩
    · simp [quoteCount, kind, TokenClass.name]
    · simp [quoteCount, kind, TokenClass.name, apart]
  | quote =>
    obtain ⟨rfl, none⟩ := h
    have kind : t.kind = .symbol := kind
    have alone : t.lexeme = "\"" := lexeme
    simp [quoteCount, kind, TokenClass.name, alone, none]

theorem Lexed.quotes {before cs : List Char} {ps : List Piece} (h : Lexed before cs ps) (index : Nat) :
    cs.count '"' = 2 * classCount "string literal" (placed before index ps) + loneQuotes (placed before index ps) ∧
      loneQuotes (placed before index ps) ≤ 1 := by
  induction h generalizing index with
  | blank blank =>
    have none := count_quote_eq_zero fun mem => absurd (blank _ mem) (by decide)
    exact ⟨none, Nat.zero_le _⟩
  | @piece before gap text after ps f hgap hf _ ih =>
    have no_quote := count_quote_eq_zero fun mem => absurd (hgap _ mem) (by decide)
    obtain ⟨count, last⟩ := hf.quotes (t := Piece.token before index ⟨gap, text⟩) rfl (LexemeForm.has_ofText hf)
    obtain ⟨rest, atMost⟩ := ih (index + 1)
    have one : loneQuotes [Piece.token before index ⟨gap, text⟩] ≤ 1 := List.countP_le_length
    rw [List.count_append, List.count_append, no_quote, placed, classCount_cons, loneQuotes_cons]
    dsimp only
    -- behind a quote of its own there is no other, so `rest` counts none
    by_cases alone : 0 < loneQuotes [Piece.token before index ⟨gap, text⟩]
    · have none := count_quote_eq_zero (last alone)
      omega
    · omega

/-! ## The scan -/

structure Metrics.Measures (source : String) (tokens : List Token) (errors : List Diagnostic) (m : Metrics) : Prop where
  counts : m.Counts tokens
  sum : m.totalTokens =
    m.keywordTokens + m.wordTokens + m.stringLiterals + m.punctuationTokens + m.symbolTokens
  /-- Scanning stops at the end of the text, or at the start of the error. -/
  lines : ∃ before after, source = before ++ after ∧ m.lineCount = 1 + before.toList.count '\n' ∧
    (errors = [] → after = "") ∧ ∀ d ∈ errors, ∃ span, d.span = some span ∧ span.start.offset = before.utf8ByteSize
  pairs : (∀ d ∈ errors, d.code ≠ Code.tooManyTokens) →
    m.stringLiterals = source.toList.count '"' / 2 ∧ m.unmatchedQuotes = source.toList.count '"' % 2

theorem Scan.diagnostics_eq (limit : Nat) (s : Scan) : s.diagnostics limit =
    s.excess.toList.map fun span => ⟨.tooManyTokens (tokenLimit limit), s.tokens.length, some span⟩ := by
  unfold Scan.diagnostics
  cases s.excess with
  | none => rfl
  | some span => rfl

theorem scanned_stop (limit : Nat) (source : String) :
    ∃ before after, source.toList = before ++ after ∧ (scanned limit source).stop = .after before ∧
      ((scanned limit source).excess = none → after = []) ∧
      ∀ span, (scanned limit source).excess = some span → span.start = .after before := by
  unfold scanned
  dsimp only
  cases extra : (pieces source.toList)[tokenLimit limit]? with
  | none =>
    refine ⟨source.toList, [], (List.append_nil _).symm, rfl, fun _ => rfl, ?_⟩
    intro span none
    cases none
  | some p =>
    obtain ⟨after, whole⟩ := pieces_isPrefix extra
    rw [List.append_assoc] at whole
    refine ⟨_, p.lexeme ++ after, whole.symm, rfl, ?_, ?_⟩
    · intro none
      cases none
    · intro span here
      rw [← Option.some.inj here]

theorem scanned_quotes {limit : Nat} {source : String} (fits : (scanned limit source).excess = none) :
    classCount "string literal" (scanned limit source).tokens = source.toList.count '"' / 2 ∧
      loneQuotes (scanned limit source).tokens = source.toList.count '"' % 2 := by
  have all : (pieces source.toList).take (tokenLimit limit) = pieces source.toList :=
    List.take_of_length_le (by simpa [lexemes] using (scanned_excess_eq_none limit source).mp fits)
  obtain ⟨count, atMost⟩ := (lexed_iff.mpr (Eq.refl (pieces source.toList))).quotes 0
  rw [scanned_tokens, all]
  omega

theorem ofScan_measures (limit : Nat) (source : String) :
    (Metrics.ofScan (scanned limit source)).Measures source (scanned limit source).tokens
      ((scanned limit source).diagnostics limit) := by
  have counts := Metrics.counts_ofScan (scanned limit source)
  rw [Scan.diagnostics_eq]
  refine ⟨counts, ?_, ?_, ?_⟩
  · rw [counts.total, length_eq_classCounts, counts.keywords, counts.words, counts.strings, counts.punctuation,
      counts.symbols]
  · obtain ⟨before, after, whole, stop, ended, started⟩ := scanned_stop limit source
    refine ⟨String.ofList before, String.ofList after, ?_, ?_, ?_, ?_⟩
    · rw [← String.ofList_append, ← whole, String.ofList_toList]
    · rw [String.toList_ofList]
      exact congrArg Position.line stop
    · intro none
      rw [ended (by simpa using none)]
    · intro d hd
      obtain ⟨span, hspan, rfl⟩ := List.mem_map.mp hd
      refine ⟨span, rfl, ?_⟩
      rw [started span (Option.mem_toList.mp hspan), utf8ByteSize_ofList]
      rfl
  · intro none
    rw [counts.strings, counts.quotes]
    apply scanned_quotes
    by_contra excess
    obtain ⟨span, hspan⟩ := Option.ne_none_iff_exists'.mp excess
    exact none _ (List.mem_map.mpr ⟨span, Option.mem_toList.mpr hspan, rfl⟩) rfl

theorem Analyzer.tokenize_eq (a : Analyzer) {source : String} (short : source.utf8ByteSize < 4294967295) :
    a.tokenize source = .ok (scanned a.limit source, { a with metrics := .ofScan (scanned a.limit source) }) := by
  unfold Analyzer.tokenize
  rw [(scan_yields a.limit source).eq_ok short]
  rfl

/-- **Counts of a scan.** Whatever an analyzer scanned before, and whatever its limit, after scanning a text of fewer than
4294967295 bytes it has the counts of that text and of its tokens. -/
theorem tokenize_counts (a : Analyzer) (source : String) (short : source.utf8ByteSize < 4294967295) :
    ∃ s a', a.tokenize source = .ok (s, a') ∧ a'.limit = a.limit ∧
      a'.metrics.Measures source s.tokens (s.diagnostics a.limit) :=
  ⟨_, _, a.tokenize_eq short, rfl, ofScan_measures a.limit source⟩

theorem tokenize_counts_again : ∃ s a s' a', (Analyzer.withLimit 9).tokenize "\"a b c\" \" x" = .ok (s, a) ∧
    a.metrics.maxStringLength = 7 ∧ "print(\"é\n\"); \" +".utf8ByteSize < 4294967295 ∧
    a.tokenize "print(\"é\n\"); \" +" = .ok (s', a') ∧
    a'.metrics.Measures "print(\"é\n\"); \" +" s'.tokens (s'.diagnostics a.limit) ∧
    a'.metrics = ⟨7, 1, 0, 1, 3, 2, 1, 5, 2⟩ := by
  obtain ⟨s, a, first, -, -⟩ := tokenize_counts (.withLimit 9) "\"a b c\" \" x" (by decide)
  obtain ⟨s', a', second, -, measures⟩ := tokenize_counts a "print(\"é\n\"); \" +" (by decide)
  have longest : ((Analyzer.withLimit 9).tokenize "\"a b c\" \" x").toOption.map (·.2.metrics.maxStringLength) =
      some 7 := by
    decide +kernel
  have counts : ((Analyzer.withLimit 9).tokenize "\"a b c\" \" x" >>= fun r =>
      r.2.tokenize "print(\"é\n\"); \" +").toOption.map (·.2.metrics) = some ⟨7, 1, 0, 1, 3, 2, 1, 5, 2⟩ := by
    decide +kernel
  rw [first] at longest counts
  change (a.tokenize "print(\"é\n\"); \" +").toOption.map (·.2.metrics) = _ at counts
  rw [second] at counts
  exact ⟨s, a, s', a', first, Option.some.inj longest, by decide, second, measures, Option.some.inj counts⟩

end CSubset
