import CSubset.Proofs.Reports

/-!
# Merging spans

Merging looks at offsets only, but takes over whole positions. Among the positions of one text that is no loss, as
there the offset tells line and column (`Position.Inside.eq_of_offset`). So spans of one text that cover each other are
the same (`Span.Inside.antisymm`), and merging gives the smallest span that covers both. What is merged from several
spans therefore does not depend on the order (`MergedFrom.isHull`, `mergedFrom_run`).
-/

namespace CSubset

/-! ## Spans of one text -/

def Position.Inside (source : String) (p : Position) : Prop :=
  ∃ front, front <+: source.toList ∧ p = Position.start.advanceAll front

theorem Position.Inside.eq_of_offset {source : String} {p q : Position} (hp : p.Inside source) (hq : q.Inside source)
    (same : p.offset = q.offset) : p = q := by
  obtain ⟨front, hfront, rfl⟩ := hp
  obtain ⟨front', hfront', rfl⟩ := hq
  rw [advanceAll_start, advanceAll_start] at same ⊢
  have le : byteLength front ≤ byteLength front' := Nat.le_of_eq same
  obtain ⟨more, rfl⟩ := prefix_of_byteLength_le hfront hfront' le
  rw [after_offset, after_offset, byteLength_append] at same
  rw [eq_nil_of_byteLength (by omega : byteLength more = 0), List.append_nil]

namespace Span

structure Inside (source : String) (s : Span) : Prop where
  start : s.start.Inside source
  stop : s.stop.Inside source
  ordered : s.start.offset ≤ s.stop.offset

def Covers (u s : Span) : Prop := u.start.offset ≤ s.start.offset ∧ s.stop.offset ≤ u.stop.offset

theorem Inside.antisymm {source : String} {s t : Span} (hs : s.Inside source) (ht : t.Inside source)
    (h : s.Covers t) (h' : t.Covers s) : s = t := by
  have start := hs.start.eq_of_offset ht.start (Nat.le_antisymm h.1 h'.1)
  have stop := hs.stop.eq_of_offset ht.stop (Nat.le_antisymm h'.2 h.2)
  cases s
  cases t
  simp_all

theorem Covers.trans {s t u : Span} (h : s.Covers t) (h' : t.Covers u) : s.Covers u :=
  ⟨Nat.le_trans h.1 h'.1, Nat.le_trans h'.2 h.2⟩

/-! ## Merging -/

theorem start_merge (s t : Span) : (s.merge t).start.offset = min s.start.offset t.start.offset := by
  unfold merge
  dsimp only
  split <;> omega

theorem stop_merge (s t : Span) : (s.merge t).stop.offset = max s.stop.offset t.stop.offset := by
  unfold merge
  dsimp only
  split <;> omega

theorem Inside.merge {source : String} {s t : Span} (hs : s.Inside source) (ht : t.Inside source) :
    (s.merge t).Inside source where
  start := by
    unfold Span.merge
    dsimp only
    split
    · exact hs.start
    · exact ht.start
  stop := by
    unfold Span.merge
    dsimp only
    split
    · exact hs.stop
    · exact ht.stop
  ordered := by
    have := hs.ordered
    rw [start_merge, stop_merge]
    omega

structure IsHull (l : List Span) (u : Span) : Prop where
  covers : ∀ s ∈ l, u.Covers s
  least : ∀ v : Span, (∀ s ∈ l, v.Covers s) → v.Covers u

theorem IsHull.single (s : Span) : IsHull [s] s where
  covers t ht := by
    rw [List.mem_singleton.mp ht]
    exact ⟨Nat.le_refl _, Nat.le_refl _⟩
  least v h := h s (List.mem_singleton_self s)

theorem IsHull.merge {l m : List Span} {s t : Span} (hs : IsHull l s) (ht : IsHull m t) :
    IsHull (l ++ m) (s.merge t) where
  covers u hu := by
    have start := start_merge s t
    have stop := stop_merge s t
    rcases List.mem_append.mp hu with hu | hu
    · exact Covers.trans ⟨by omega, by omega⟩ (hs.covers u hu)
    · exact Covers.trans ⟨by omega, by omega⟩ (ht.covers u hu)
  least v h := by
    have first := hs.least v fun u hu => h u (List.mem_append_left m hu)
    have second := ht.least v fun u hu => h u (List.mem_append_right l hu)
    unfold Covers at first second ⊢
    rw [start_merge, stop_merge]
    omega

theorem IsHull.perm {l m : List Span} {u : Span} (h : IsHull l u) (same : l.Perm m) : IsHull m u where
  covers s hs := h.covers s (same.mem_iff.mpr hs)
  least v hv := h.least v fun s hs => hv s (same.mem_iff.mp hs)

theorem IsHull.unique {source : String} {l : List Span} {u v : Span} (hu : IsHull l u) (hv : IsHull l v)
    (inside : u.Inside source) (inside' : v.Inside source) : u = v :=
  inside.antisymm inside' (hv.least u hu.covers) (hu.least v hv.covers)

theorem isHull_pair (s t : Span) : IsHull [s, t] (s.merge t) := (IsHull.single s).merge (IsHull.single t)

section
variable {source : String} {s t u : Span} (hs : s.Inside source) (ht : t.Inside source) (hu : u.Inside source)
include hs ht

theorem Inside.merge_comm : s.merge t = t.merge s :=
  (isHull_pair s t).unique ((isHull_pair t s).perm (List.Perm.swap s t [])) (hs.merge ht) (ht.merge hs)

include hu in
theorem Inside.merge_assoc : (s.merge t).merge u = s.merge (t.merge u) :=
  ((isHull_pair s t).merge (.single u)).unique ((IsHull.single s).merge (isHull_pair t u)) ((hs.merge ht).merge hu)
    (hs.merge (ht.merge hu))

end

end Span

/-- Positions of different texts may have the same offset. -/
example : Span.merge ⟨⟨0, 1, 1⟩, ⟨1, 1, 2⟩⟩ ⟨⟨0, 2, 1⟩, ⟨1, 2, 2⟩⟩ ≠
    Span.merge ⟨⟨0, 2, 1⟩, ⟨1, 2, 2⟩⟩ ⟨⟨0, 1, 1⟩, ⟨1, 1, 2⟩⟩ := by decide

/-! ## Merging many -/

inductive MergedFrom : List Span → Span → Prop
  | one (s : Span) : MergedFrom [s] s
  | merge {l m : List Span} {s t : Span} (hs : MergedFrom l s) (ht : MergedFrom m t) : MergedFrom (l ++ m) (s.merge t)
  | perm {l m : List Span} {s : Span} (same : l.Perm m) (hs : MergedFrom l s) : MergedFrom m s

namespace MergedFrom

theorem isHull {l : List Span} {u : Span} (h : MergedFrom l u) : Span.IsHull l u := by
  induction h with
  | one s => exact .single s
  | merge _ _ hs ht => exact hs.merge ht
  | perm same _ hs => exact hs.perm same

theorem inside {source : String} {l : List Span} {u : Span} (h : MergedFrom l u) (all : ∀ s ∈ l, s.Inside source) :
    u.Inside source := by
  induction h with
  | one s => exact all s (List.mem_singleton_self s)
  | @merge l m s t _ _ hs ht =>
    exact (hs fun u hu => all u (List.mem_append_left m hu)).merge (ht fun u hu => all u (List.mem_append_right l hu))
  | perm same _ hs => exact hs fun s hs => all s (same.mem_iff.mp hs)

theorem foldl (s : Span) (l : List Span) : MergedFrom (s :: l) (l.foldl Span.merge s) := by
  induction l using List.reverseRecOn with
  | nil => exact .one s
  | append_singleton l t ih =>
    rw [List.foldl_append, ← List.cons_append]
    exact .merge ih (.one t)

end MergedFrom

/-! ## Runs of tokens -/

theorem inside_of_mem_scanned {limit : Nat} {source : String} {t : Token} (h : t ∈ (scanned limit source).tokens) :
    t.span.Inside source := by
  have ordered := (scanned_spaced limit source).nonempty t h
  obtain ⟨i, ht⟩ := List.mem_iff_getElem?.mp h
  obtain ⟨p, hp, rfl⟩ := piece_of_scanned ht
  have stop := pieces_isPrefix hp
  have start := (List.prefix_append _ _).trans stop
  exact ⟨⟨_, start, (Position.advanceAll_start _).symm⟩, ⟨_, stop, (Position.advanceAll_start _).symm⟩,
    Nat.le_of_lt ordered⟩

theorem InOrder.of_part {ts us : List Token} {t u : Token} (h : InOrder ts t u) (run : ts <:+: us) :
    InOrder us t u := by
  obtain ⟨front, back, rfl, later⟩ := h
  obtain ⟨before, after, rfl⟩ := run
  exact ⟨before ++ front, back ++ after, by simp, List.mem_append_left after later⟩

theorem Spaced.of_part {ts us : List Token} (h : Spaced us) (run : ts <:+: us) : Spaced ts :=
  ⟨h.ordered.sublist run.sublist, fun t ht => h.nonempty t (run.subset ht)⟩

theorem Spaced.stop_le {ts : List Token} (h : Spaced ts) {t u : Token} (order : InOrder ts t u) :
    t.span.stop.offset ≤ u.span.stop.offset := by
  rcases h.apart order with rfl | apart
  · exact Nat.le_refl _
  · have := h.nonempty u order.snd_mem
    omega

theorem Spaced.isHull {first last : Token} {more : List Token} (h : Spaced (first :: more))
    (ends : (first :: more).getLast? = some last) :
    Span.IsHull ((first :: more).map (·.span)) ⟨first.span.start, last.span.stop⟩ where
  covers s hs := by
    obtain ⟨t, ht, rfl⟩ := List.mem_map.mp hs
    exact ⟨h.start_le ⟨[], more, rfl, ht⟩, h.stop_le ((InOrder.of_mem ht).fst_last ends)⟩
  least v hv := by
    have start := hv first.span (List.mem_map_of_mem List.mem_cons_self)
    have stop := hv last.span (List.mem_map_of_mem (List.mem_of_getLast? ends))
    exact ⟨start.1, stop.2⟩

theorem TextAt.subtract_eq {source text : String} {a b : Nat} (h : TextAt source a b text) :
    subtract b a = .ok text.utf8ByteSize := by
  obtain ⟨-, -, -, -, rfl⟩ := h
  unfold subtract
  rw [if_pos (Nat.le_add_right _ _), Nat.add_sub_cancel_left]

section
variable {limit : Nat} {source : String} {first last : Token} {more : List Token}
  (part : first :: more <:+: (scanned limit source).tokens) (ends : (first :: more).getLast? = some last)
include part ends

theorem run_inOrder : InOrder (scanned limit source).tokens first last := by
  have order : InOrder (first :: more) first last := (InOrder.of_mem List.mem_cons_self).fst_last ends
  exact order.of_part part

theorem run_merge_eq : last.span.merge first.span = ⟨first.span.start, last.span.stop⟩ :=
  (scanned_spaced limit source).merge_eq (run_inOrder part ends)

theorem mergedFrom_run {u : Span} :
    MergedFrom ((first :: more).map (·.span)) u ↔ u = last.span.merge first.span := by
  have inside : ∀ t ∈ first :: more, t.span.Inside source := fun t ht => inside_of_mem_scanned (part.subset ht)
  have all : ∀ s ∈ (first :: more).map (·.span), s.Inside source := by
    intro s hs
    obtain ⟨t, ht, rfl⟩ := List.mem_map.mp hs
    exact inside t ht
  have whole := (inside last (List.mem_of_getLast? ends)).merge (inside first List.mem_cons_self)
  have hull := ((scanned_spaced limit source).of_part part).isHull ends
  rw [← run_merge_eq part ends] at hull
  have only : ∀ v, MergedFrom ((first :: more).map (·.span)) v → v = last.span.merge first.span := by
    intro v hv
    exact hv.isHull.unique hull (hv.inside all) whole
  constructor
  · exact only u
  · rintro rfl
    have some := MergedFrom.foldl first.span (more.map (·.span))
    rwa [only _ some] at some

theorem run_text : ∃ text, TextAt source first.span.start.offset last.span.stop.offset text ∧
    (last.span.merge first.span).length = .ok text.utf8ByteSize := by
  obtain ⟨before, text, m⟩ := marks_of_inOrder (run_inOrder part ends)
  obtain ⟨after, split⟩ := m.inside
  have merged := run_merge_eq part ends
  obtain ⟨start, stop⟩ := Span.mk.inj (merged.symm.trans m.span_eq)
  have slice : TextAt source first.span.start.offset last.span.stop.offset (String.ofList text) := by
    rw [start, stop]
    exact textAt_of_split split.symm
  refine ⟨_, slice, ?_⟩
  rw [merged]
  exact slice.subtract_eq

end

/-- **Merging is joining.** Among the spans of one text, merging does not depend on the order, and gives the smallest
span that covers both. So the last span of a run of tokens merged with the first gives what all of them give in any
order: the text from the start of the first token to the end of the last. -/
theorem merge_joins (source : String) :
    (∀ s t u : Span, s.Inside source → t.Inside source → u.Inside source →
      s.merge t = t.merge s ∧ (s.merge t).merge u = s.merge (t.merge u) ∧ s.merge s = s ∧ (s.merge t).Inside source ∧
      (s.merge t).start.offset = min s.start.offset t.start.offset ∧
      (s.merge t).stop.offset = max s.stop.offset t.stop.offset ∧
      (s.merge t).Covers s ∧ (s.merge t).Covers t ∧ (u.Covers s → u.Covers t → u.Covers (s.merge t))) ∧
    ∀ limit r first more last, scan limit source = .ok r → first :: more <:+: r.tokens →
      (first :: more).getLast? = some last →
      (∀ u, MergedFrom ((first :: more).map (·.span)) u ↔ u = last.span.merge first.span) ∧
      last.span.merge first.span = ⟨first.span.start, last.span.stop⟩ ∧
      ∃ text, TextAt source first.span.start.offset last.span.stop.offset text ∧
        (last.span.merge first.span).length = .ok text.utf8ByteSize := by
  constructor
  · intro s t u hs ht hu
    have hull := Span.isHull_pair s t
    refine ⟨hs.merge_comm ht, hs.merge_assoc ht hu, s.merge_self, hs.merge ht, Span.start_merge s t,
      Span.stop_merge s t, hull.covers s (by simp), hull.covers t (by simp), ?_⟩
    intro coversS coversT
    apply hull.least
    simp [coversS, coversT]
  · intro limit r first more last run part ends
    rw [(scan_yields limit source).eq_of_ok run] at part
    exact ⟨fun u => mergedFrom_run part ends, run_merge_eq part ends, run_text part ends⟩

theorem merge_joins_three_lines :
    Span.Inside "x é\n\"a\nb\";" ⟨⟨2, 1, 3⟩, ⟨4, 1, 4⟩⟩ ∧ Span.Inside "x é\n\"a\nb\";" ⟨⟨4, 1, 4⟩, ⟨5, 2, 1⟩⟩ ∧
      Span.merge ⟨⟨2, 1, 3⟩, ⟨4, 1, 4⟩⟩ ⟨⟨4, 1, 4⟩, ⟨5, 2, 1⟩⟩ =
        Span.merge ⟨⟨4, 1, 4⟩, ⟨5, 2, 1⟩⟩ ⟨⟨2, 1, 3⟩, ⟨4, 1, 4⟩⟩ ∧
      ∃ r first last, scan 9 "x é\n\"a\nb\";" = .ok r ∧ [first, last] <:+: r.tokens ∧
        ∀ u, MergedFrom [first.span, last.span] u ↔ u = ⟨⟨2, 1, 3⟩, ⟨10, 3, 3⟩⟩ := by
  obtain ⟨laws, runs⟩ := merge_joins "x é\n\"a\nb\";"
  have letter : Span.Inside "x é\n\"a\nb\";" ⟨⟨2, 1, 3⟩, ⟨4, 1, 4⟩⟩ :=
    ⟨⟨['x', ' '], by decide, by decide⟩, ⟨['x', ' ', 'é'], by decide, by decide⟩, by decide⟩
  have newline : Span.Inside "x é\n\"a\nb\";" ⟨⟨4, 1, 4⟩, ⟨5, 2, 1⟩⟩ :=
    ⟨⟨['x', ' ', 'é'], by decide, by decide⟩, ⟨['x', ' ', 'é', '\n'], by decide, by decide⟩, by decide⟩
  have scans : scan 9 "x é\n\"a\nb\";" = .ok ⟨[⟨"x", 0, ⟨⟨0, 1, 1⟩, ⟨1, 1, 2⟩⟩, .word⟩,
      ⟨"é", 1, ⟨⟨2, 1, 3⟩, ⟨4, 1, 4⟩⟩, .word⟩, ⟨"\"a\nb\"", 2, ⟨⟨5, 2, 1⟩, ⟨10, 3, 3⟩⟩, .stringLiteral⟩,
      ⟨";", 3, ⟨⟨10, 3, 3⟩, ⟨11, 3, 4⟩⟩, .punctuation .semicolon⟩], none, ⟨11, 3, 4⟩⟩ := by
    decide +kernel
  refine ⟨letter, newline, (laws _ _ _ letter newline letter).1, _, _, _, scans, ⟨[_], [_], rfl⟩, ?_⟩
  exact (runs 9 _ _ [_] _ scans ⟨[_], [_], rfl⟩ rfl).1

end CSubset
