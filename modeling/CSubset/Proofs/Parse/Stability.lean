import CSubset.Compile
import CSubset.Proofs.Parse.Lockstep
import CSubset.Proofs.Token.Scan

/-!
# What the parser does not depend on

Two inputs are compared, run against run. Where tokens stand in the text decides nothing but the spans in what comes out
(`compile_ignores_spacing`). And what was reported before the end of the input stays as it is, whatever is written behind
that end (`reports_stable`).
-/

namespace CSubset

open ParseState

/-! ## Spacing -/

def Token.bare (t : Token) : String × TokenClass × Nat := (t.lexeme, t.kind, t.index)

def Diagnostic.bare (d : Diagnostic) : String × String × Nat := (d.code, d.message, d.position)

structure ParseState.Alike (s s' : ParseState) : Prop where
  output : ∀ layout : Layout, layout.render s.fragments = layout.render s'.fragments
  trace : s.traceLines = s'.traceLines
  reports : s.diagnostics.map Diagnostic.bare = s'.diagnostics.map Diagnostic.bare
  names : s.symbols.names = s'.symbols.names
  types : ∀ name, s.symbols.lookup name = s'.symbols.lookup name

structure Compilation.Alike (a b : Compilation) : Prop where
  output : a.output = b.output
  reports : a.diagnostics.map Diagnostic.bare = b.diagnostics.map Diagnostic.bare
  names : a.symbols.names = b.symbols.names
  types : ∀ name, a.symbols.lookup name = b.symbols.lookup name
  counts : { a.metrics with lineCount := 0 } = { b.metrics with lineCount := 0 }

def Variation.spacing (size : Nat) : Variation := ⟨fun _ _ => True, fun _ _ => trivial, [], size⟩

theorem forall₂_of_bare {size : Nat} {ts us : List Token} (h : ts.map Token.bare = us.map Token.bare) :
    List.Forall₂ (Variation.spacing size).LikeToken ts us := by
  rw [← List.forall₂_eq_eq_eq, List.forall₂_map_left_iff, List.forall₂_map_right_iff] at h
  refine h.imp ?_
  intro t u same
  simp only [Token.bare, Prod.mk.injEq] at same
  exact ⟨same.1, same.2.2, same.2.1, trivial⟩

namespace Variation

variable {v : Variation} {s s' : ParseState}

theorem tokenText_eq {t u : Option Token} (h : Option.Rel v.LikeToken t u) : Step.tokenText t = Step.tokenText u := by
  cases h with
  | none => rfl
  | some like => simp only [Step.tokenText, like.lexeme, like.index]

theorem LikeStep.traceLine?_eq {a b : Step} (h : v.LikeStep a b) : a.traceLine? = b.traceLine? := by
  cases h with
  | peek h => simp only [Step.traceLine?, tokenText_eq h]
  | peekAhead n h => simp only [Step.traceLine?, tokenText_eq h]
  | next h => simp only [Step.traceLine?, tokenText_eq h]
  | report h => simp only [Step.traceLine?, Diagnostic.message, h.cause, h.position]
  | note text => rfl
  | emit f => rfl

theorem LikeStep.fragment?_eq {a b : Step} (h : v.LikeStep a b) : a.fragment? = b.fragment? := by
  cases h <;> rfl

theorem Lockstep.filterMap_eq {α} (l : v.Lockstep s s') {f : Step → Option α}
    (h : ∀ {a b : Step}, v.LikeStep a b → f a = f b) : s.steps.filterMap f = s'.steps.filterMap f := by
  have like := l.steps
  unfold ParseState.steps
  rw [List.filterMap_reverse, List.filterMap_reverse, List.reverse_inj]
  generalize s.journal = js, s'.journal = ks at like
  induction like with
  | nil => rfl
  | cons first _ ih => rw [List.filterMap_cons, List.filterMap_cons, h first, ih]

theorem map_bare_eq {ds es : List Diagnostic} (h : List.Forall₂ v.LikeReport ds es) :
    ds.map Diagnostic.bare = es.map Diagnostic.bare := by
  induction h with
  | nil => rfl
  | cons like _ ih =>
    rw [List.map_cons, List.map_cons, ih]
    simp only [Diagnostic.bare, Diagnostic.code, Diagnostic.message, like.cause, like.position]

theorem Lockstep.alike (l : v.Lockstep s s') : s.Alike s' where
  output layout := congrArg layout.render (l.filterMap_eq LikeStep.fragment?_eq)
  trace := l.filterMap_eq LikeStep.traceLine?_eq
  reports := map_bare_eq l.diagnostics
  names := SymbolTable.names_eq_of_lookup l.declared
  types := l.declared

end Variation

theorem parse_alike {ts us : List Token} (h : ts.map Token.bare = us.map Token.bare) : (parse ts).Alike (parse us) := by
  have follows := parse_follows (.spacing ts.length) (forall₂_of_bare h) rfl
  change (Variation.spacing ts.length).Follows (parse ts) (parse (us ++ [])) at follows
  rw [List.append_nil] at follows
  rcases follows with l | p
  · exact l.alike
  · exact absurd rfl p.more

theorem placed_bare_eq {ps qs : List Piece}
    (h : (ps.map fun p => String.ofList p.lexeme) = qs.map fun p => String.ofList p.lexeme) (before before' : List Char)
    (index : Nat) : (placed before index ps).map Token.bare = (placed before' index qs).map Token.bare := by
  induction ps generalizing qs before before' index with
  | nil =>
    rw [List.map_nil] at h
    rw [List.map_eq_nil_iff.mp h.symm]
    rfl
  | cons p ps ih =>
    obtain ⟨q, qs, rfl, first, others⟩ := List.map_eq_cons_iff.mp h.symm
    rw [placed, placed, List.map_cons, List.map_cons, ih others.symm _ (before' ++ q.gap ++ q.lexeme)]
    simp only [Token.bare, Piece.token, Token.ofLexeme, first]

theorem foldl_record_eq {ts us : List Token} (h : ts.map Token.bare = us.map Token.bare) (m : Metrics) :
    ts.foldl Metrics.record m = us.foldl Metrics.record m := by
  induction ts generalizing us m with
  | nil =>
    rw [List.map_nil] at h
    rw [List.map_eq_nil_iff.mp h.symm]
  | cons t ts ih =>
    obtain ⟨u, us, rfl, first, others⟩ := List.map_eq_cons_iff.mp h.symm
    have same : m.record u = m.record t := by
      simp only [Token.bare, Prod.mk.injEq] at first
      unfold Metrics.record Token.hasText
      rw [first.1, first.2.1]
    rw [List.foldl_cons, List.foldl_cons, ih others.symm, same]

theorem scanned_bare_eq {limit : Nat} {a b : String}
    (h : (scanned limit a).tokens.map Token.lexeme = (scanned limit b).tokens.map Token.lexeme) :
    (scanned limit a).tokens.map Token.bare = (scanned limit b).tokens.map Token.bare := by
  rw [scanned_tokens, scanned_tokens, map_lexeme_placed, map_lexeme_placed] at h
  exact placed_bare_eq h [] [] 0

theorem ofScan_alike (layout : Layout) {limit : Nat} {s t : Scan} (h : s.tokens.map Token.bare = t.tokens.map Token.bare)
    (hs : s.diagnostics limit = []) (ht : t.diagnostics limit = []) :
    (Compilation.ofScan layout limit s).Alike (.ofScan layout limit t) := by
  have parsed := parse_alike h
  have none : (parse s.tokens).diagnostics.isEmpty = (parse t.tokens).diagnostics.isEmpty := by
    rw [← List.isEmpty_map, parsed.reports, List.isEmpty_map]
  unfold Compilation.ofScan
  rw [hs, ht]
  refine ⟨?_, parsed.reports, parsed.names, parsed.types, ?_⟩
  · dsimp only
    rw [List.nil_append, List.nil_append, none, parsed.output layout]
  · simp only [Metrics.ofScan, foldl_record_eq h]

/-- **Spacing does not matter.** Sources with the same lexemes are compiled to the same, up to places in the text; and
so it is with tokens that differ in nothing but their spans. -/
theorem compile_ignores_spacing :
    (∀ (layout : Layout) (limit : Nat) (a b : String) (sa sb : Scan), scan limit a = .ok sa → scan limit b = .ok sb →
      sa.diagnostics limit = [] → sb.diagnostics limit = [] →
      sa.tokens.map Token.lexeme = sb.tokens.map Token.lexeme →
      ∃ ra rb, compile layout limit a = .ok ra ∧ compile layout limit b = .ok rb ∧ ra.Alike rb) ∧
    ∀ ts us : List Token, ts.map Token.bare = us.map Token.bare → (parse ts).Alike (parse us) := by
  refine ⟨?_, fun ts us h => parse_alike h⟩
  intro layout limit a b sa sb ha hb na nb same
  refine ⟨.ofScan layout limit sa, .ofScan layout limit sb, ?_, ?_, ?_⟩
  · unfold compile
    rw [ha]
    rfl
  · unfold compile
    rw [hb]
    rfl
  · rw [(scan_yields limit a).eq_of_ok ha] at same na ⊢
    rw [(scan_yields limit b).eq_of_ok hb] at same nb ⊢
    exact ofScan_alike layout (scanned_bare_eq same) na nb

theorem spacing_of_three_lines :
    (∃ ra rb, compile ⟨4, true⟩ 99 "main()\x7bint x;print(y);\x7d" = .ok ra ∧
      compile ⟨4, true⟩ 99 "main ( ) \x7b\n int\tx ;\n print( y ) ; \x7d" = .ok rb ∧ ra.Alike rb) ∧
    (parse [.ofLexeme "x" 0 ⟨⟨0, 1, 1⟩, ⟨1, 1, 2⟩⟩]).Alike (parse [.ofLexeme "x" 0 ⟨⟨7, 3, 2⟩, ⟨8, 3, 3⟩⟩]) := by
  have one := (scan_yields 99 "main()\x7bint x;print(y);\x7d").eq_ok (by decide)
  have three := (scan_yields 99 "main ( ) \x7b\n int\tx ;\n print( y ) ; \x7d").eq_ok (by decide)
  refine ⟨compile_ignores_spacing.1 ⟨4, true⟩ 99 _ _ _ _ one three ?_ ?_ ?_, compile_ignores_spacing.2 _ _ rfl⟩
  · decide +kernel
  · decide +kernel
  · decide +kernel

/-! ## More input -/

def Variation.appending (ts us : List Token) : Variation where
  spans := Eq
  merge := by
    rintro a b _ _ rfl rfl
    rfl
  more := us
  size := ts.length

theorem Variation.Follows.reports {v : Variation} {s s' : ParseState} (f : v.Follows s s') :
    ∃ ds es fs, s.diagnostics = ds ++ es ∧ (∀ e ∈ es, v.size ≤ e.position) ∧
      List.Forall₂ v.LikeReport ds fs ∧ fs <+: s'.diagnostics := by
  rcases f with l | p
  · exact ⟨s.diagnostics, [], s'.diagnostics, (List.append_nil _).symm, by simp, l.diagnostics, List.prefix_refl _⟩
  · exact p.reports

/-- Where the positions do not go down, the early ones come first, and early reports that are alike are the same. -/
theorem early_isPrefix {ts us : List Token} {ds fs : List Diagnostic}
    (h : List.Forall₂ (Variation.appending ts us).LikeReport ds fs) (sorted : ds.Pairwise (·.position ≤ ·.position)) :
    ds.filter (·.position < ts.length) <+: fs := by
  induction h with
  | nil => exact List.prefix_refl _
  | @cons d f ds fs like _ ih =>
    obtain ⟨first, rest⟩ := List.pairwise_cons.mp sorted
    by_cases early : d.position < ts.length
    · have same : d = f := by
        obtain ⟨cause, position, span⟩ := d
        obtain ⟨cause', position', span'⟩ := f
        obtain ⟨rfl, rfl, place⟩ := like
        have : span = span' := by
          cases place early with
          | none => rfl
          | some h => rw [h]
        rw [this]
      rw [List.filter_cons_of_pos (by simpa using early), same]
      exact (List.prefix_cons_inj f).mpr (ih rest)
    · have none : (d :: ds).filter (·.position < ts.length) = [] := by
        rw [List.filter_eq_nil_iff]
        intro e he
        rcases List.mem_cons.mp he with rfl | he
        · simpa using early
        · have := first e he
          simp
          omega
      rw [none]
      exact List.nil_prefix

theorem early_reports_append (ts us : List Token) :
    (parse ts).diagnostics.filter (·.position < ts.length) <+: (parse (ts ++ us)).diagnostics := by
  have same : List.Forall₂ (Variation.appending ts us).LikeToken ts ts := by
    rw [List.forall₂_same]
    intro t _
    exact ⟨rfl, rfl, rfl, rfl⟩
  obtain ⟨ds, es, fs, split, late, like, front⟩ := (parse_follows (.appending ts us) same rfl).reports
  have sorted := (parse_ordered ts).sorted
  rw [split] at sorted ⊢
  have none : es.filter (·.position < ts.length) = [] := by
    rw [List.filter_eq_nil_iff]
    intro e he
    have : ts.length ≤ e.position := late e he
    simpa using this
  rw [List.filter_append, none, List.append_nil]
  exact (early_isPrefix like (List.pairwise_append.mp sorted).1).trans front

/-- **Reports are stable.** What is reported before the end of the tokens comes before all other reports, and is reported
just so, and first, when more tokens follow. -/
theorem reports_stable (ts us : List Token) :
    (parse ts).diagnostics.filter (·.position < ts.length) <+: (parse ts).diagnostics ∧
      (parse ts).diagnostics.filter (·.position < ts.length) <+: (parse (ts ++ us)).diagnostics := by
  refine ⟨?_, early_reports_append ts us⟩
  have alone := early_reports_append ts []
  rwa [List.append_nil] at alone

end CSubset
