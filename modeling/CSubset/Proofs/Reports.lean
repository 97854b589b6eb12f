import CSubset.Proofs.Parse.Charges
import CSubset.Proofs.Spans
import CSubset.Proofs.Token.Truncation

/-!
# The reports of a compilation

Reports for the end of the input are few and come last, and there is at most one other report for each token
(`compile_end_reports`). Every report has a place in the text, and the places come in order (`compile_locates`).
-/

namespace CSubset

open ParseState

/-! ## At the end of the input -/

def Diagnostic.AtEnd (d : Diagnostic) : Prop :=
  d.code = Code.unexpectedEnd ∨ d.code = Code.missingTerminator ∧ d.message = "missing ';' before end of input"

structure EndReports (tokens : List Token) (others ends : List Diagnostic) : Prop where
  others_le : others.length ≤ tokens.length
  others_open : ∀ d ∈ others, ¬d.AtEnd
  ends_le : ends.length ≤ 4
  ends_at : ∀ d ∈ ends, d.AtEnd ∧ d.position = tokens.length ∧
    ∃ last, tokens.getLast? = some last ∧ d.span = some last.span
  terminators_le : ends.countP (·.code = Code.missingTerminator) ≤ 1
  brace : ∀ d, ends.getLast? = some d →
    d.code = Code.unexpectedEnd ∧ d.message = "unexpected end of input: expected '\x7d'"

theorem message_missingTerminator_ne (found : String) :
    (Cause.missingTerminator (some found)).message ≠ "missing ';' before end of input" := by
  change "missing ';', found '" ++ found ++ "'" ≠ _
  intro same
  -- the two differ behind the semicolon, before the token that was found
  have front := congrArg (fun text : String => text.toList.take 12) same
  simp only [String.toList_append, List.append_assoc] at front
  rw [List.take_append_of_le_length (by decide)] at front
  exact absurd front (by decide)

theorem Diagnostic.atEnd_iff (d : Diagnostic) : d.AtEnd ↔ d.cause.origin = .ending := by
  obtain ⟨cause, position, span⟩ := d
  cases cause with
  | unexpectedEnd expected => exact ⟨fun _ => rfl, fun _ => Or.inl rfl⟩
  | missingTerminator found =>
    cases found with
    | none => exact ⟨fun _ => rfl, fun _ => Or.inr ⟨rfl, rfl⟩⟩
    | some found =>
      refine ⟨?_, fun h => by cases h⟩
      rintro (other | ⟨-, same⟩)
      · exact absurd (show Code.missingTerminator = Code.unexpectedEnd from other) (by decide)
      · exact absurd same (message_missingTerminator_ne found)
  | _ =>
    refine ⟨?_, fun h => by cases h⟩
    rintro (other | ⟨other, -⟩)
    · exact absurd other (of_decide_eq_false rfl)
    · exact absurd other (of_decide_eq_false rfl)

theorem parse_endReports {tokens : List Token} (textual : ∀ t ∈ tokens, Criteria.byClass.Textual t) :
    ∃ others ends, (parse tokens).diagnostics = others ++ ends ∧ EndReports tokens others ends := by
  obtain ⟨ds, causes, all, charged, brace⟩ := parse_reports textual
  obtain ⟨length, terminators, ending⟩ := brace.shortfall
  refine ⟨ds, _, all, charged.length_le, ?_, by rwa [List.length_map], ?_, ?_, ?_⟩
  · intro d hd
    rw [Diagnostic.atEnd_iff, charged.origin_eq d hd]
    decide
  · intro d hd
    obtain ⟨t, u, -, span⟩ := parse_spans textual (by rw [all]; exact List.mem_append_right _ hd)
    obtain ⟨cause, mem, rfl⟩ := List.mem_map.mp hd
    refine ⟨(Diagnostic.atEnd_iff _).mpr (ending cause mem), Nat.zero_add _, ?_⟩
    obtain ⟨last, hlast, same⟩ := Option.map_eq_some_iff.mp span
    exact ⟨last, hlast, by rw [span, same]⟩
  · rw [List.countP_map]
    exact terminators
  · intro d hd
    rcases brace with none | ⟨front, -, rfl⟩
    · rw [none] at hd
      cases hd
    · rw [List.map_append, List.map_singleton, List.getLast?_concat] at hd
      rw [← Option.some.inj hd]
      exact ⟨rfl, rfl⟩

/-- **The end of the input.** A text within the token limit has at most four reports for the end of the input, all at
the last token and behind all others, which are no more than the tokens. -/
theorem compile_end_reports (layout : Layout) (limit : Nat) {source : String} {words : List String}
    (read : LexemesOf source words) (within : words.length ≤ min limit Limits.current.maxTokenCount) :
    (source.utf8ByteSize < 4294967295 → ∃ r, compile layout limit source = .ok r) ∧
      ∀ r, compile layout limit source = .ok r → ∃ s others ends, scan limit source = .ok s ∧
        s.tokens.map Token.lexeme = words ∧ r.diagnostics = others ++ ends ∧
        EndReports s.tokens others ends ∧ r.diagnostics.length ≤ s.tokens.length + 4 := by
  have yields := compile_yields layout limit source
  cases lexemesOf_iff.mp read
  refine ⟨fun short => ⟨_, yields.eq_ok short⟩, ?_⟩
  intro r run
  obtain ⟨others, ends, reports, h⟩ := parse_endReports fun t ht => textual_of_mem_scanned limit source ht
  have all : r.diagnostics = others ++ ends := by
    rw [yields.eq_of_ok run, ← reports]
    change (scanned limit source).diagnostics limit ++ _ = _
    rw [(scanned_diagnostics_eq_nil_iff limit source).mpr within, List.nil_append]
  refine ⟨_, others, ends, scan_of_compile run, lexemes_of_within limit source within, all, h, ?_⟩
  rw [all, List.length_append]
  exact Nat.add_le_add h.others_le h.ends_le

theorem compile_end_reports_in_print : ∃ r s others ends,
    compile ⟨4, true⟩ 99 "main()\x7bprint(y" = .ok r ∧ scan 99 "main()\x7bprint(y" = .ok s ∧
      r.diagnostics = others ++ ends ∧ EndReports s.tokens others ends ∧ r.diagnostics.length ≤ 7 + 4 := by
  obtain ⟨returns, result⟩ := compile_end_reports ⟨4, true⟩ 99
    (lexemesOf_iff.mpr rfl : LexemesOf "main()\x7bprint(y" _) (by decide)
  obtain ⟨r, run⟩ := returns (by decide)
  obtain ⟨s, others, ends, scanned, tokens, all, h, le⟩ := result r run
  have seven : s.tokens.length = 7 := by
    rw [← List.length_map Token.lexeme, tokens]
    decide
  rw [seven] at le
  exact ⟨r, s, others, ends, run, scanned, all, h, le⟩

/-! ## Places in the text -/

def Diagnostic.StartsBefore (d e : Diagnostic) : Prop :=
  ∀ a b, d.span = some a → e.span = some b → a.start.offset ≤ b.start.offset

structure Located (source : String) (all tokens : List Token) (ds : List Diagnostic) : Prop where
  spanned : ∀ d ∈ ds, d.span.isSome
  excess : ∀ d ∈ ds, d.code = Code.tooManyTokens →
    ∃ t span, all[tokens.length]? = some t ∧ d.span = some span ∧ span.OfFirstChar t
  between : ∀ d ∈ ds, d.code ≠ Code.tooManyTokens → ∃ t u, InOrder tokens t u ∧
    d.span = some ⟨t.span.start, u.span.stop⟩ ∧ t.span.start.offset < u.span.stop.offset ∧
      u.span.stop.offset ≤ source.utf8ByteSize
  positions : (ds.filter (·.code ≠ Code.tooManyTokens)).Pairwise (·.position ≤ ·.position)
  reached : ∀ d ∈ ds, d.code ≠ Code.tooManyTokens → d.position ≤ tokens.length
  starts : (ds.filter (·.code ≠ Code.tooManyTokens)).Pairwise Diagnostic.StartsBefore

structure Spaced (ts : List Token) : Prop where
  ordered : ts.Pairwise fun t u => t.span.stop.offset ≤ u.span.start.offset
  nonempty : ∀ t ∈ ts, t.span.start.offset < t.span.stop.offset

namespace Spaced

theorem tail {t : Token} {ts : List Token} (h : Spaced (t :: ts)) : Spaced ts :=
  ⟨(List.pairwise_cons.mp h.ordered).2, fun u hu => h.nonempty u (List.mem_cons_of_mem _ hu)⟩

section
variable {ts : List Token} (h : Spaced ts) {t u : Token} (order : InOrder ts t u)
include h order

theorem apart : t = u ∨ t.span.stop.offset ≤ u.span.start.offset := by
  obtain ⟨front, back, rfl, later⟩ := order
  rcases List.mem_cons.mp later with rfl | later
  · exact Or.inl rfl
  · exact Or.inr ((List.pairwise_cons.mp (List.pairwise_append.mp h.ordered).2.1).1 u later)

theorem start_le : t.span.start.offset ≤ u.span.start.offset := by
  rcases h.apart order with rfl | apart
  · exact Nat.le_refl _
  · have := h.nonempty t order.fst_mem
    omega

theorem merge_eq : u.span.merge t.span = ⟨t.span.start, u.span.stop⟩ := by
  rcases h.apart order with rfl | apart
  · exact Span.merge_self _
  · have first := h.nonempty t order.fst_mem
    have second := h.nonempty u order.snd_mem
    unfold Span.merge
    rw [if_neg (by omega), if_pos (by omega)]

end

end Spaced

theorem Charged.starts {ts : List Token} {ds : List Diagnostic} (h : Charged ts ds) (spaced : Spaced ts) :
    ds.Pairwise Diagnostic.StartsBefore := by
  induction h with
  | nil => exact List.Pairwise.nil
  | skip _ ih => exact ih spaced.tail
  | @mark t u ts d ds later span _ h ih =>
    refine List.pairwise_cons.mpr ⟨?_, ih spaced.tail⟩
    intro e he a b ha hb
    obtain ⟨t', u', order, span'⟩ := h.exists_inOrder he
    have first : InOrder (t :: ts) t u := ⟨[], ts, rfl, later⟩
    have second : InOrder (t :: ts) t t' := ⟨[], ts, rfl, List.mem_cons_of_mem _ order.fst_mem⟩
    rw [span, spaced.merge_eq first] at ha
    rw [span', spaced.tail.merge_eq order] at hb
    rw [← Option.some.inj ha, ← Option.some.inj hb]
    exact spaced.start_le second

theorem parse_starts {tokens : List Token} (textual : ∀ t ∈ tokens, Criteria.byClass.Textual t)
    (spaced : Spaced tokens) : (parse tokens).diagnostics.Pairwise Diagnostic.StartsBefore := by
  obtain ⟨ds, causes, all, charged, -⟩ := parse_reports textual
  rw [all]
  refine List.pairwise_append.mpr ⟨charged.starts spaced, ?_, ?_⟩
  · -- all of them are about the last token
    refine List.pairwise_map.mpr (List.pairwise_of_forall ?_)
    intro cause cause' a b ha hb
    rw [Option.some.inj (ha.symm.trans hb)]
  · intro d hd e he a b ha hb
    obtain ⟨t, u, order, span⟩ := charged.exists_inOrder hd
    obtain ⟨cause, -, rfl⟩ := List.mem_map.mp he
    obtain ⟨last, hlast, rfl⟩ := Option.map_eq_some_iff.mp hb
    rw [span, spaced.merge_eq order] at ha
    rw [← Option.some.inj ha]
    exact spaced.start_le (order.fst_last hlast)

theorem scanned_spaced (limit : Nat) (source : String) : Spaced (scanned limit source).tokens := by
  refine ⟨placed_ordered _ _ _, ?_⟩
  intro t ht
  obtain ⟨i, ht⟩ := List.mem_iff_getElem?.mp ht
  obtain ⟨p, hp, rfl⟩ := piece_of_scanned ht
  obtain ⟨c, more, hlexeme⟩ := exists_cons_of_piece hp
  have pos : 0 < byteLength p.lexeme := byteLength_pos (by rw [hlexeme]; exact List.cons_ne_nil _ _)
  simp only [Piece.token, Token.ofLexeme, Position.after_offset, byteLength_append]
  omega

theorem stop_le_of_mem_scanned {limit : Nat} {source : String} {t : Token} (h : t ∈ (scanned limit source).tokens) :
    t.span.stop.offset ≤ source.utf8ByteSize := by
  obtain ⟨i, ht⟩ := List.mem_iff_getElem?.mp h
  obtain ⟨p, hp, rfl⟩ := piece_of_scanned ht
  obtain ⟨after, whole⟩ := pieces_isPrefix hp
  have size := congrArg byteLength whole
  rw [byteLength_append, ← utf8ByteSize_eq] at size
  rw [← size]
  exact Nat.le_add_right _ _

/-! ## The limit and the parser -/

theorem Diagnostic.origin_of_code {d : Diagnostic} (h : d.code = Code.tooManyTokens) : d.cause.origin = .limit := by
  obtain ⟨cause, position, span⟩ := d
  cases cause with
  | tooManyTokens limit => rfl
  | _ => exact absurd h (of_decide_eq_false rfl)

theorem parse_code_ne {tokens : List Token} (textual : ∀ t ∈ tokens, Criteria.byClass.Textual t) {d : Diagnostic}
    (hd : d ∈ (parse tokens).diagnostics) : d.code ≠ Code.tooManyTokens := by
  obtain ⟨ds, causes, all, charged, brace⟩ := parse_reports textual
  intro limit
  have origin := Diagnostic.origin_of_code limit
  rw [all] at hd
  rcases List.mem_append.mp hd with hd | hd
  · rw [charged.origin_eq d hd] at origin
    cases origin
  · obtain ⟨cause, mem, rfl⟩ := List.mem_map.mp hd
    have ending : cause.origin = .limit := origin
    rw [brace.shortfall.2.2 cause mem] at ending
    cases ending

theorem parse_position_le {tokens : List Token} {d : Diagnostic} (hd : d ∈ (parse tokens).diagnostics) :
    d.position ≤ tokens.length := by
  have reached := (parse_ordered tokens).reached d hd
  have count : (parse tokens).cursor.position + (parse tokens).rest.length = 0 + tokens.length :=
    (program_moves .byClass (.ofTokens tokens)).position_add_rest
  omega

theorem TruncatedTo.exists_of_mem {m : Nat} {all tokens : List Token} {errors : List Diagnostic}
    (h : TruncatedTo m all tokens errors) {d : Diagnostic} (hd : d ∈ errors) :
    ∃ t span, all[tokens.length]? = some t ∧ d.span = some span ∧ span.OfFirstChar t := by
  rcases Nat.lt_or_ge m all.length with beyond | within
  · obtain ⟨t, span, ht, first, rfl⟩ := h.excess beyond
    rw [List.mem_singleton.mp hd, h.tokens_eq, List.length_take_of_le (Nat.le_of_lt beyond)]
    exact ⟨t, span, ht, rfl, first⟩
  · rw [h.fitting within] at hd
    cases hd

section
variable (layout : Layout) (limit : Nat) (source : String)

theorem mem_diagnostics_cases {d : Diagnostic}
    (hd : d ∈ (Compilation.ofScan layout limit (scanned limit source)).diagnostics) :
    d ∈ (scanned limit source).diagnostics limit ∧ d.code = Code.tooManyTokens ∨
      d ∈ (parse (scanned limit source).tokens).diagnostics ∧ d.code ≠ Code.tooManyTokens := by
  rcases List.mem_append.mp hd with hd | hd
  · exact Or.inl ⟨hd, scanned_diagnostics_code hd⟩
  · exact Or.inr ⟨hd, parse_code_ne (fun t ht => textual_of_mem_scanned limit source ht) hd⟩

theorem filter_diagnostics :
    (Compilation.ofScan layout limit (scanned limit source)).diagnostics.filter (·.code ≠ Code.tooManyTokens) =
      (parse (scanned limit source).tokens).diagnostics := by
  have lexical : ((scanned limit source).diagnostics limit).filter (·.code ≠ Code.tooManyTokens) = [] := by
    rw [List.filter_eq_nil_iff]
    intro d hd
    simp [scanned_diagnostics_code hd]
  change ((scanned limit source).diagnostics limit ++ (parse (scanned limit source).tokens).diagnostics).filter _ = _
  rw [List.filter_append, lexical, List.nil_append, List.filter_eq_self]
  intro d hd
  simpa using parse_code_ne (fun t ht => textual_of_mem_scanned limit source ht) hd

theorem ofScan_located :
    Located source (allTokens source) (scanned limit source).tokens
      (Compilation.ofScan layout limit (scanned limit source)).diagnostics := by
  have textual := fun t (ht : t ∈ (scanned limit source).tokens) => textual_of_mem_scanned limit source ht
  have spaced := scanned_spaced limit source
  have between : ∀ d ∈ (parse (scanned limit source).tokens).diagnostics, ∃ t u,
      InOrder (scanned limit source).tokens t u ∧ d.span = some ⟨t.span.start, u.span.stop⟩ := by
    intro d hd
    obtain ⟨t, u, order, span⟩ := parse_spans textual hd
    exact ⟨t, u, order, by rw [span, spaced.merge_eq order]⟩
  have excess := fun d => TruncatedTo.exists_of_mem (scanned_truncatedTo limit source) (d := d)
  refine ⟨?_, ?_, ?_, ?_, ?_, ?_⟩
  · intro d hd
    rcases mem_diagnostics_cases layout limit source hd with ⟨hd, -⟩ | ⟨hd, -⟩
    · obtain ⟨t, span, -, hspan, -⟩ := excess d hd
      rw [hspan]
      rfl
    · obtain ⟨t, u, -, span⟩ := between d hd
      rw [span]
      rfl
  · intro d hd limited
    rcases mem_diagnostics_cases layout limit source hd with ⟨hd, -⟩ | ⟨-, other⟩
    · exact excess d hd
    · exact absurd limited other
  · intro d hd other
    rcases mem_diagnostics_cases layout limit source hd with ⟨-, limited⟩ | ⟨hd, -⟩
    · exact absurd limited other
    · obtain ⟨t, u, order, span⟩ := between d hd
      have first := spaced.start_le order
      have second := spaced.nonempty u order.snd_mem
      exact ⟨t, u, order, span, by omega, stop_le_of_mem_scanned order.snd_mem⟩
  · rw [filter_diagnostics]
    exact (parse_ordered _).sorted
  · intro d hd other
    rcases mem_diagnostics_cases layout limit source hd with ⟨-, limited⟩ | ⟨hd, -⟩
    · exact absurd limited other
    · exact parse_position_le hd
  · rw [filter_diagnostics]
    exact parse_starts textual spaced

end

/-- **Places.** Every report has a place: that of the first character that did not fit, or from where a token starts to
where it or a later one stops. Apart from the first kind, the reports come in the order of their positions and starts. -/
theorem compile_locates (layout : Layout) (limit : Nat) (source : String) (short : source.utf8ByteSize < 4294967295) :
    ∃ all s r, Unlimited source all ∧ scan limit source = .ok s ∧ compile layout limit source = .ok r ∧
      Located source all s.tokens r.diagnostics :=
  ⟨_, _, _, unlimited_allTokens short, (scan_yields limit source).eq_ok short,
    (compile_yields layout limit source).eq_ok short, ofScan_located layout limit source⟩

theorem compile_locates_cut_off : "main()\x7bprint(a b);".utf8ByteSize < 4294967295 ∧
    ∃ all s r, Unlimited "main()\x7bprint(a b);" all ∧ scan 9 "main()\x7bprint(a b);" = .ok s ∧
      compile ⟨4, true⟩ 9 "main()\x7bprint(a b);" = .ok r ∧
      Located "main()\x7bprint(a b);" all s.tokens r.diagnostics :=
  ⟨by decide, compile_locates ⟨4, true⟩ 9 _ (by decide)⟩

end CSubset
