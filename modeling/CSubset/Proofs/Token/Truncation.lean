import CSubset.Proofs.Parse.Acceptance

/-!
# The token limit

Without a limit the rules of scanning give all tokens of a text. A scan with a limit returns the first of them, and an
error at the first character of the next one if there is a next one (`scan_truncates`).
-/

namespace CSubset

/-- All tokens of a text: those that the loop of the scan makes when there is room for every character, which are those
of the lexical grammar. -/
structure Unlimited (source : String) (all : List Token) : Prop where
  looped : ∀ room, source.toList.length ≤ room →
    ∃ stop, placeFrom [] 0 .start (cut room source.toList).1 = .ok (all, stop)
  lexed : ∃ ps, Lexed [] source.toList ps ∧ all = placed [] 0 ps

def Span.OfFirstChar (span : Span) (t : Token) : Prop :=
  ∃ c more, t.lexeme.toList = c :: more ∧ span = ⟨t.span.start, t.span.start.advance c⟩

structure TruncatedTo (m : Nat) (all tokens : List Token) (errors : List Diagnostic) : Prop where
  tokens_eq : tokens = all.take m
  fitting : all.length ≤ m → errors = []
  excess : m < all.length →
    ∃ t span, all[m]? = some t ∧ span.OfFirstChar t ∧ errors = [⟨.tooManyTokens m, m, some span⟩]

/-! ## All tokens -/

def allTokens (source : String) : List Token := placed [] 0 (pieces source.toList)

theorem length_allTokens (source : String) : (allTokens source).length = (lexemes source).length := by
  simp [allTokens, lexemes]

theorem unlimited_allTokens {source : String} (short : source.utf8ByteSize < 4294967295) :
    Unlimited source (allTokens source) := by
  refine ⟨?_, pieces source.toList, lexed_iff.mpr rfl, rfl⟩
  intro room enough
  have whole := congrArg byteLength (pieceText_cut room source.toList)
  have place := placeFrom_yields [] 0 [] (cut room source.toList).1
  rw [← pieces_eq_cut enough] at whole place ⊢
  rw [byteLength_append, ← utf8ByteSize_eq] at whole
  exact ⟨_, place.eq_ok (by simp only [List.nil_append]; omega)⟩

theorem placed_take (before : List Char) (index : Nat) (ps : List Piece) (n : Nat) :
    placed before index (ps.take n) = (placed before index ps).take n := by
  induction ps generalizing before index n with
  | nil => simp [placed]
  | cons p ps ih =>
    cases n with
    | zero => rfl
    | succ n => rw [List.take_succ_cons, placed, placed, List.take_succ_cons, ih]

theorem scanned_tokens_eq_take (limit : Nat) (source : String) :
    (scanned limit source).tokens = (allTokens source).take (tokenLimit limit) := placed_take _ _ _ _

/-! ## The token that does not fit -/

theorem exists_cons_of_piece {cs : List Char} {i : Nat} {p : Piece} (h : (pieces cs)[i]? = some p) :
    ∃ c more, p.lexeme = c :: more := by
  obtain ⟨-, c, more, hlexeme, -⟩ := cut_wellCut cs.length cs p (List.mem_of_getElem? h)
  exact ⟨c, more, hlexeme⟩

theorem ofFirstChar_token {p : Piece} {c : Char} {more : List Char} (h : p.lexeme = c :: more) (before : List Char)
    (index : Nat) :
    Span.OfFirstChar ⟨.after (before ++ p.gap), .after (before ++ p.gap ++ p.lexeme.take 1)⟩ (p.token before index) := by
  refine ⟨c, more, ?_, ?_⟩
  · simp [Piece.token, Token.ofLexeme, h]
  · have first : p.lexeme.take 1 = [c] := by rw [h]; rfl
    rw [first, Position.after_snoc]
    rfl

theorem scanned_truncatedTo (limit : Nat) (source : String) :
    TruncatedTo (tokenLimit limit) (allTokens source) (scanned limit source).tokens
      ((scanned limit source).diagnostics limit) where
  tokens_eq := scanned_tokens_eq_take limit source
  fitting within := by
    rw [length_allTokens] at within
    exact (scanned_diagnostics_eq_nil_iff limit source).mpr within
  excess beyond := by
    have full : (scanned limit source).tokens.length = tokenLimit limit := by
      rw [scanned_tokens_eq_take, List.length_take_of_le (Nat.le_of_lt beyond)]
    obtain ⟨t, ht⟩ : ∃ t, (allTokens source)[tokenLimit limit]? = some t :=
      ⟨_, List.getElem?_eq_getElem beyond⟩
    obtain ⟨p, hp, htoken⟩ := piece_of_token ht
    obtain ⟨c, more, hlexeme⟩ := exists_cons_of_piece hp
    refine ⟨t, _, ht, htoken ▸ ofFirstChar_token hlexeme _ _, ?_⟩
    unfold Scan.diagnostics
    rw [full]
    simp only [scanned, hp, Option.map_some]

/-- **Truncation.** With the limit `m` in force, the first `m` of all tokens are returned, one error is recorded exactly
if there are more, and then nothing is compiled. -/
theorem scan_truncates (limit : Nat) (source : String) (short : source.utf8ByteSize < 4294967295) :
    ∃ all s, Unlimited source all ∧ scan limit source = .ok s ∧
      TruncatedTo (min limit Limits.current.maxTokenCount) all s.tokens (s.diagnostics limit) ∧
      (min limit Limits.current.maxTokenCount < all.length →
        ∀ layout, ∃ r, compile layout limit source = .ok r ∧ r.succeeded = false ∧ r.output = none) := by
  have truncated := scanned_truncatedTo limit source
  refine ⟨_, _, unlimited_allTokens short, (scan_yields limit source).eq_ok short, truncated, ?_⟩
  intro beyond layout
  obtain ⟨t, span, -, -, errors⟩ := truncated.excess beyond
  refine ⟨_, (compile_yields layout limit source).eq_ok short, ?_, ?_⟩
  · simp [Compilation.succeeded, Compilation.ofScan, errors]
  · simp [Compilation.ofScan, errors]

theorem scan_truncates_string : ∃ s span r, scan 2 "x = \"a\nb\" ;" = .ok s ∧ s.tokens.length = 2 ∧
    s.diagnostics 2 = [⟨.tooManyTokens 2, 2, some span⟩] ∧ span = ⟨⟨4, 1, 5⟩, ⟨5, 1, 6⟩⟩ ∧
      compile ⟨4, true⟩ 2 "x = \"a\nb\" ;" = .ok r ∧ r.output = none := by
  obtain ⟨all, s, unlimited, run, truncated, fails⟩ := scan_truncates 2 "x = \"a\nb\" ;" (by decide)
  obtain ⟨ps, lexed, rfl⟩ := unlimited.lexed
  have whole : placed [] 0 ps = allTokens "x = \"a\nb\" ;" := by rw [lexed.eq_pieces]; rfl
  rw [whole] at truncated fails
  have beyond : min 2 Limits.current.maxTokenCount < (allTokens "x = \"a\nb\" ;").length := by decide +kernel
  obtain ⟨t, span, third, ⟨c, more, lexeme, place⟩, errors⟩ := truncated.excess beyond
  obtain ⟨r, result, -, none⟩ := fails beyond ⟨4, true⟩
  have ht : t = .ofLexeme "\"a\nb\"" 2 ⟨⟨4, 1, 5⟩, ⟨9, 2, 3⟩⟩ :=
    Option.some.inj (third.symm.trans (by decide +kernel))
  subst ht
  obtain ⟨rfl, -⟩ := List.cons.inj lexeme
  refine ⟨s, span, r, run, ?_, errors, place.trans ?_, result, none⟩
  · rw [truncated.tokens_eq]
    decide +kernel
  · decide

end CSubset
