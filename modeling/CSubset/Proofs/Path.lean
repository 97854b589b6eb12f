import CSubset.File.Store
import CSubset.Path
import CSubset.Proofs.Position
import Mathlib.Data.List.TakeWhile

/-!
# Names and extensions of paths

A path with a file name is a directory, the name and what does not count behind it (`Named`), and the name is a stem with
or without an extension (`Stem`). Setting an extension replaces what follows the stem (`extended_iff`), so whatever stood
there before, the path has the extension that it was given (`extension?_withExtension`). The file name is the last part
that a store follows (`fileName?_of_parts`).
-/

namespace CSubset

namespace Path

/-! ## File names -/

/-- Slashes at the end of a path do not count, nor do dots behind them. -/
inductive Idle : List Char → Prop
  | nil : Idle []
  | slash {cs : List Char} (h : Idle cs) : Idle (cs ++ ['/'])
  | dot {cs : List Char} (h : Idle cs) : Idle (cs ++ ['/', '.'])

structure Named (path : String) (dir name idle : List Char) : Prop where
  split : path.toList = dir ++ name ++ idle
  idle : Idle idle
  named : name ≠ [] ∧ name ≠ ['.'] ∧ name ≠ ['.', '.']
  whole : '/' ∉ name
  edge : ∀ c, dir.getLast? = some c → c = '/'

theorem isName_iff {part : List Char} : isName part ↔ part ≠ [] ∧ part ≠ ['.'] ∧ part ≠ ['.', '.'] := by
  simp [isName, and_assoc]

theorem named_dotted {stem e : List Char} (nonempty : stem ≠ []) (odd : stem = ['.'] → e ≠ []) :
    stem ++ '.' :: e ≠ [] ∧ stem ++ '.' :: e ≠ ['.'] ∧ stem ++ '.' :: e ≠ ['.', '.'] := by
  obtain ⟨c, cs, rfl⟩ := List.exists_cons_of_ne_nil nonempty
  refine ⟨by simp, by simp, ?_⟩
  intro dots
  obtain ⟨rfl, rest⟩ := List.cons.inj dots
  obtain ⟨rfl, last⟩ | ⟨more, -, rest⟩ := List.append_eq_cons_iff.mp rest
  · exact odd rfl (List.cons.inj last).2
  · simp at rest

theorem isName_reverse {part : List Char} : isName part.reverse ↔ isName part := by
  simp [isName_iff, List.reverse_eq_iff]

theorem Idle.replicate (n : Nat) : Idle (List.replicate n '/') := by
  induction n with
  | zero => exact .nil
  | succ n ih =>
    rw [List.replicate_succ']
    exact ih.slash

theorem Idle.of_front {cs front : List Char} (h : Idle cs) (within : front <+: cs) : Idle front := by
  induction h with
  | nil =>
    rw [List.prefix_nil.mp within]
    exact .nil
  | @slash cs h ih =>
    rcases List.prefix_concat_iff.mp within with rfl | within
    · exact h.slash
    · exact ih within
  | @dot cs h ih =>
    rw [← List.singleton_append, ← List.append_assoc] at within
    rcases List.prefix_concat_iff.mp within with rfl | within
    · rw [List.append_assoc]
      exact h.dot
    · rcases List.prefix_concat_iff.mp within with rfl | within
      · exact h.slash
      · exact ih within

theorem trimReversed_idle {idle rest : List Char} (h : Idle idle) (some : rest ≠ []) :
    trimReversed (idle.reverse ++ rest) = trimReversed rest := by
  induction h with
  | nil => rfl
  | @slash cs _ ih =>
    obtain ⟨c, more, ahead⟩ := List.exists_cons_of_ne_nil (List.append_ne_nil_of_right_ne_nil cs.reverse some)
    rw [List.reverse_append, List.append_assoc, ← ih, ahead]
    rfl
  | @dot cs _ ih =>
    obtain ⟨c, more, ahead⟩ := List.exists_cons_of_ne_nil (List.append_ne_nil_of_right_ne_nil cs.reverse some)
    rw [List.reverse_append, List.append_assoc, ← ih, ahead]
    rfl

theorem trimReversed_name {name : List Char} (named : isName name) (whole : '/' ∉ name) (dir : List Char) :
    trimReversed (name ++ dir) = name ++ dir := by
  obtain ⟨nonempty, dot, -⟩ := isName_iff.mp named
  match name, nonempty with
  | [c], _ =>
    have hc : c ≠ '/' := fun same => whole (by simp [same])
    have hd : c ≠ '.' := fun same => dot (by rw [same])
    simp [trimReversed, hc, hd]
  | c :: d :: cs, _ =>
    have hc : c ≠ '/' := fun same => whole (by simp [same])
    have hd : d ≠ '/' := fun same => whole (by simp [same])
    simp [trimReversed, hc, hd]

theorem cut_at_dir {part dir : List Char} (whole : '/' ∉ part) (edge : ∀ c, dir.getLast? = some c → c = '/') :
    (part ++ dir.reverse).takeWhile (· ≠ '/') = part ∧ (part ++ dir.reverse).dropWhile (· ≠ '/') = dir.reverse := by
  have before : ∀ c ∈ part, decide (c ≠ '/') = true := by
    intro c hc
    exact decide_eq_true fun same => whole (same ▸ hc)
  rw [List.takeWhile_append_of_pos before, List.dropWhile_append_of_pos before]
  cases last : dir.reverse with
  | nil => simp
  | cons c more =>
    have slash : c = '/' := by
      apply edge
      rw [List.getLast?_eq_head?_reverse, last]
      rfl
    simp [slash]

section
variable {path : String} {dir name idle : List Char} (h : Named path dir name idle)
include h

theorem Named.counted_eq : counted path = name.reverse ++ dir.reverse := by
  have some : name.reverse ++ dir.reverse ≠ [] := by simp [h.named.1]
  unfold counted
  rw [h.split, List.reverse_append, List.reverse_append, trimReversed_idle h.idle some]
  exact trimReversed_name (isName_reverse.mpr (isName_iff.mpr h.named)) (by simpa using h.whole) dir.reverse

theorem Named.cut : (counted path).takeWhile (· ≠ '/') = name.reverse ∧
    (counted path).dropWhile (· ≠ '/') = dir.reverse := by
  rw [h.counted_eq]
  exact cut_at_dir (by simpa using h.whole) h.edge

theorem Named.fileName?_eq : fileName? path = some (String.ofList name) := by
  unfold fileName?
  dsimp only
  rw [h.cut.1, List.reverse_reverse]
  exact if_pos (isName_reverse.mpr (isName_iff.mpr h.named))

end

theorem exists_idle {cs : List Char} (named : isName ((trimReversed cs).takeWhile (· ≠ '/'))) :
    ∃ idle, Idle idle ∧ cs = idle.reverse ++ trimReversed cs := by
  fun_induction trimReversed cs with
  | case1 c cs ih =>
    obtain ⟨idle, h, split⟩ := ih named
    exact ⟨_, h.slash, by simpa using split⟩
  | case2 cs ih =>
    obtain ⟨idle, h, split⟩ := ih named
    -- a name does not start with a slash, so the slash is idle too
    cases h with
    | nil =>
      rw [List.reverse_nil, List.nil_append] at split
      rw [← split] at named
      simp [isName_iff] at named
    | @slash rest h =>
      refine ⟨_, h.dot, ?_⟩
      simpa using split
    | dot h => simp at split
  | case3 cs => exact ⟨[], .nil, rfl⟩

theorem exists_named {path : String} (named : isName ((counted path).takeWhile (· ≠ '/'))) :
    ∃ dir name idle, Named path dir name idle := by
  obtain ⟨idle, h, split⟩ := exists_idle named
  refine ⟨((counted path).dropWhile (· ≠ '/')).reverse, ((counted path).takeWhile (· ≠ '/')).reverse, idle, ?_, h,
    isName_iff.mp (isName_reverse.mpr named), ?_, ?_⟩
  · rw [← List.reverse_append, List.takeWhile_append_dropWhile, ← List.reverse_inj, split]
    simp [counted]
  · intro slash
    simpa using List.mem_takeWhile_imp (List.mem_reverse.mp slash)
  · intro c hc
    rw [List.getLast?_reverse] at hc
    have first := List.head?_dropWhile_not (· ≠ '/') (counted path)
    rw [hc] at first
    simpa using first

/-! ## Extensions -/

/-- A name cut at its last dot. A dot at its beginning does not count. -/
inductive Stem : (name stem : List Char) → (old : Option (List Char)) → Prop
  | dotted {stem old : List Char} (nonempty : stem ≠ []) (plain : '.' ∉ old) : Stem (stem ++ '.' :: old) stem (some old)
  | plain {name : List Char} (plain : '.' ∉ name.tail) : Stem name name none

theorem exists_stem (name : List Char) : ∃ stem e, Stem name stem e := by
  by_cases dotted : '.' ∈ name.tail
  · obtain ⟨c, tail, rfl⟩ : ∃ c tail, name = c :: tail := by
      cases name with
      | nil => cases dotted
      | cons c tail => exact ⟨c, tail, rfl⟩
    obtain ⟨e, stem, split, plain⟩ := List.eq_append_cons_of_mem (List.mem_reverse.mpr dotted)
    have split : tail = stem.reverse ++ '.' :: e.reverse := by
      rw [← List.reverse_inj]
      simpa using split
    rw [split]
    exact ⟨c :: stem.reverse, some e.reverse, .dotted (List.cons_ne_nil _ _) (by simpa using plain)⟩
  · exact ⟨name, none, .plain dotted⟩

namespace Stem
variable {name stem : List Char} {old : Option (List Char)} (h : Stem name stem old)
include h

theorem isPrefix : stem <+: name := by
  cases h with
  | dotted => exact List.prefix_append _ _
  | plain => exact List.prefix_rfl

theorem ne_nil (nonempty : name ≠ []) : stem ≠ [] := by
  cases h with
  | dotted some => exact some
  | plain => exact nonempty

theorem cutName_eq : cutName name.reverse = (stem.reverse, old.map List.reverse) := by
  unfold cutName
  cases h with
  | @dotted _ old nonempty plain =>
    have before : ∀ c ∈ old.reverse, decide (c ≠ '.') = true := by
      intro c hc
      exact decide_eq_true fun same => plain (same ▸ List.mem_reverse.mp hc)
    obtain ⟨c, cs, ahead⟩ := List.exists_cons_of_ne_nil (List.reverse_ne_nil_iff.mpr nonempty)
    have reversed : (stem ++ '.' :: old).reverse = old.reverse ++ '.' :: c :: cs := by simp [ahead]
    rw [reversed, List.dropWhile_append_of_pos before, List.takeWhile_append_of_pos before]
    simp [ahead]
  | plain plain =>
    cases name with
    | nil => rfl
    | cons c tail =>
      have before : ∀ c ∈ tail.reverse, decide (c ≠ '.') = true := by
        intro c hc
        exact decide_eq_true fun same => plain (same ▸ List.mem_reverse.mp hc)
      rw [List.reverse_cons, List.dropWhile_append_of_pos before]
      by_cases dot : c = '.'
      · simp [dot]
      · simp [dot]

end Stem

section
variable {path : String} {dir name idle stem : List Char} {old : Option (List Char)}
  (h : Named path dir name idle) (cut : Stem name stem old)
include h cut

theorem Named.extension?_eq : extension? path = old.map String.ofList := by
  unfold extension?
  rw [h.fileName?_eq, Option.bind_some, String.toList_ofList, cut.cutName_eq, Option.map_map]
  congr
  funext e
  simp

theorem Named.setExtension_eq (e : String) :
    setExtension path e = String.ofList (dir ++ stem ++ '.' :: e.toList) := by
  unfold setExtension
  dsimp only
  rw [h.cut.1, h.cut.2, if_pos (isName_reverse.mpr (isName_iff.mpr h.named)), cut.cutName_eq, ← String.toList_inj]
  simp

end

structure IsExtension (e : String) : Prop where
  nonempty : e.toList ≠ []
  plain : '.' ∉ e.toList
  whole : '/' ∉ e.toList

theorem isName_of_fileName? {path name : String} (h : fileName? path = some name) :
    isName ((counted path).takeWhile (· ≠ '/')) := by
  by_contra unnamed
  cases (if_neg unnamed).symm.trans h

theorem extension?_setExtension {path e name : String} (h : fileName? path = some name) (he : IsExtension e) :
    extension? (setExtension path e) = some e := by
  obtain ⟨dir, name, idle, h⟩ := exists_named (isName_of_fileName? h)
  obtain ⟨stem, old, cut⟩ := exists_stem name
  have some := cut.ne_nil h.named.1
  have written : Named (setExtension path e) dir (stem ++ '.' :: e.toList) [] := by
    refine ⟨?_, .nil, ?_, ?_, h.edge⟩
    · rw [h.setExtension_eq cut, String.toList_ofList]
      simp
    · exact named_dotted some fun _ => he.nonempty
    · intro slash
      rcases List.mem_append.mp slash with slash | slash
      · exact h.whole (cut.isPrefix.subset slash)
      · exact he.whole ((List.mem_cons.mp slash).resolve_left (by decide))
  rw [written.extension?_eq (.dotted some he.plain), Option.map_some, String.ofList_toList]

theorem extension?_withExtension {path e name : String} (h : fileName? (withExtension path e) = some name)
    (he : IsExtension e) : extension? (withExtension path e) = some e := by
  obtain ⟨base, same⟩ : ∃ base, withExtension path e = setExtension base e := by
    unfold withExtension
    split
    · exact ⟨_, rfl⟩
    · exact ⟨_, rfl⟩
  rw [same] at h ⊢
  cases named : fileName? base with
  | some name => exact extension?_setExtension named he
  | none =>
    -- a path without a name stays as it is, so it has none afterwards
    have unnamed : ¬isName ((counted base).takeWhile (· ≠ '/')) := by
      intro has
      cases (if_pos has).symm.trans named
    have kept : setExtension base e = base := if_neg unnamed
    rw [kept, named] at h
    cases h

/-! ## Replacing the extension -/

theorem coverBytes_isPrefix (size : Nat) (cs : List Char) : coverBytes size cs <+: cs := by
  fun_induction coverBytes size cs with
  | case1 => exact List.nil_prefix
  | case2 => exact List.nil_prefix
  | case3 size c cs ih => exact List.cons_prefix_cons.mpr ⟨rfl, ih⟩

theorem le_byteLength_coverBytes {size : Nat} {cs : List Char} (enough : size ≤ byteLength cs) :
    size ≤ byteLength (coverBytes size cs) := by
  fun_induction coverBytes size cs with
  | case1 => exact Nat.zero_le _
  | case2 => exact enough
  | case3 size c cs ih =>
    rw [byteLength_cons] at enough ⊢
    have := ih (by omega)
    omega

theorem coverBytes_append (front rest : List Char) : coverBytes (byteLength front) (front ++ rest) = front := by
  induction front with
  | nil => simp [coverBytes]
  | cons c front ih =>
    obtain ⟨n, size⟩ := Nat.exists_eq_add_one.mpr (byteLength_pos (List.cons_ne_nil c front))
    rw [size, List.cons_append, coverBytes, ← size, byteLength_cons, Nat.add_sub_cancel_left, ih]

/-- The path with the extension `e` in place of its own. The old one is taken off first: of a name like `..c` only the
two dots are left, which are no name and get no extension. -/
inductive Extended (path e : String) : String → Prop
  | named {dir name idle stem : List Char} {old : Option (List Char)} (h : Named path dir name idle)
      (cut : Stem name stem old) (odd : stem = ['.'] → idle ≠ []) :
      Extended path e (String.ofList (dir ++ stem ++ '.' :: e.toList))
  | dots {dir old : List Char} (h : Named path dir ('.' :: '.' :: old) []) (plain : '.' ∉ old) :
      Extended path e (String.ofList (dir ++ ['.', '.']))
  | unnamed (h : ∀ dir name idle, ¬Named path dir name idle) : Extended path e path

section
variable {path : String} {dir stem old idle : List Char}

theorem withExtension_of_dotted (h : Named path dir (stem ++ '.' :: old) idle) (nonempty : stem ≠ [])
    (plain : '.' ∉ old) (e : String) :
    withExtension path e = setExtension
      (String.ofList (coverBytes (byteLength (dir ++ stem ++ ['.']) + byteLength idle) path.toList)) e := by
  unfold withExtension
  rw [h.extension?_eq (.dotted nonempty plain)]
  dsimp only [Option.map_some]
  congr 3
  rw [utf8ByteSize_eq, utf8ByteSize_ofList, h.split]
  simp
  omega

/-- What is left after the old extension was taken off still has the stem before a dot. -/
theorem exists_kept (h : Named path dir (stem ++ '.' :: old) idle) (nonempty : stem ≠ []) (plain : '.' ∉ old)
    (odd : stem = ['.'] → idle ≠ []) :
    ∃ rest idle', '.' ∉ rest ∧ Named
      (String.ofList (coverBytes (byteLength (dir ++ stem ++ ['.']) + byteLength idle) path.toList))
      dir (stem ++ '.' :: rest) idle' := by
  have within := coverBytes_isPrefix (byteLength (dir ++ stem ++ ['.']) + byteLength idle) path.toList
  have size : byteLength (dir ++ stem ++ ['.']) + byteLength idle ≤ byteLength path.toList := by
    rw [h.split]
    simp
    omega
  have enough := le_byteLength_coverBytes size
  generalize coverBytes (byteLength (dir ++ stem ++ ['.']) + byteLength idle) path.toList = kept at within enough ⊢
  have whole : path.toList = dir ++ stem ++ ['.'] ++ (old ++ idle) := by
    rw [h.split]
    simp
  rw [whole] at within
  obtain ⟨y, rfl⟩ := prefix_of_byteLength_le (List.prefix_append _ _) within (by omega)
  have front : y <+: old ++ idle := (List.prefix_append_right_inj _).mp within
  rcases List.prefix_or_prefix_of_prefix front (List.prefix_append old idle) with part | ⟨z, rfl⟩
  · have some : stem = ['.'] → y ≠ [] := by
      rintro single rfl
      have := byteLength_pos (odd single)
      rw [List.append_nil] at enough
      omega
    refine ⟨y, [], fun dot => plain (part.subset dot), ?_, .nil, named_dotted nonempty some, ?_, h.edge⟩
    · simp
    · intro slash
      have inside : stem ++ '.' :: y <+: stem ++ '.' :: old :=
        (List.prefix_append_right_inj _).mpr (List.cons_prefix_cons.mpr ⟨rfl, part⟩)
      exact h.whole (inside.subset slash)
  · have idle' : z <+: idle := (List.prefix_append_right_inj _).mp front
    refine ⟨old, z, plain, ?_, h.idle.of_front idle', h.named, h.whole, h.edge⟩
    simp

end

theorem not_isName_dots {path : String} {dir : List Char} (split : path.toList = dir ++ ['.', '.'])
    (edge : ∀ c, dir.getLast? = some c → c = '/') : ¬isName ((counted path).takeWhile (· ≠ '/')) := by
  have counted_eq : counted path = ['.', '.'] ++ dir.reverse := by
    unfold counted
    rw [split]
    simp [trimReversed]
  rw [counted_eq, (cut_at_dir (by simp) edge).1]
  simp [isName_iff]

theorem withExtension_of_not_isName {path : String} (unnamed : ¬isName ((counted path).takeWhile (· ≠ '/')))
    (e : String) : withExtension path e = path := by
  have none : fileName? path = none := if_neg unnamed
  unfold withExtension extension?
  rw [none]
  exact if_neg unnamed

theorem Extended.eq_withExtension {path e new : String} (h : Extended path e new) : new = withExtension path e := by
  cases h with
  | @named dir name idle stem old h cut odd =>
    cases cut with
    | @dotted stem old nonempty plain =>
      obtain ⟨rest, idle', plain', kept⟩ := exists_kept h nonempty plain odd
      rw [withExtension_of_dotted h nonempty plain, kept.setExtension_eq (.dotted nonempty plain')]
    | plain plain =>
      unfold withExtension
      rw [h.extension?_eq (.plain plain)]
      exact (h.setExtension_eq (.plain plain) e).symm
  | @dots dir old h plain =>
    have dotted : Named path dir (['.'] ++ '.' :: old) [] := h
    have kept : coverBytes (byteLength (dir ++ ['.'] ++ ['.']) + byteLength []) path.toList = dir ++ ['.', '.'] := by
      have whole : path.toList = dir ++ ['.'] ++ ['.'] ++ old := by
        rw [h.split]
        simp
      rw [whole, byteLength_nil, Nat.add_zero, coverBytes_append, List.append_assoc]
      rfl
    have unnamed := not_isName_dots (String.toList_ofList : _ = dir ++ ['.', '.']) h.edge
    rw [withExtension_of_dotted dotted (List.cons_ne_nil _ _) plain, kept]
    exact (if_neg unnamed).symm
  | unnamed h =>
    symm
    apply withExtension_of_not_isName
    intro named
    obtain ⟨dir, name, idle, has⟩ := exists_named named
    exact h dir name idle has

theorem extended_withExtension (path e : String) : Extended path e (withExtension path e) := by
  suffices h : ∃ new, Extended path e new by
    obtain ⟨new, h⟩ := h
    exact h.eq_withExtension ▸ h
  by_cases named : ∃ dir name idle, Named path dir name idle
  · obtain ⟨dir, name, idle, h⟩ := named
    obtain ⟨stem, old, cut⟩ := exists_stem name
    by_cases odd : stem = ['.'] ∧ idle = []
    · obtain ⟨rfl, rfl⟩ := odd
      cases cut with
      | dotted _ plain => exact ⟨_, .dots h plain⟩
      | plain => exact absurd rfl h.named.2.1
    · exact ⟨_, .named h cut fun single none => odd ⟨single, none⟩⟩
  · exact ⟨path, .unnamed fun dir name idle h => named ⟨dir, name, idle, h⟩⟩

theorem extended_iff {path e new : String} : Extended path e new ↔ new = withExtension path e := by
  constructor
  · exact Extended.eq_withExtension
  · rintro rfl
    exact extended_withExtension path e

example : withExtension "a.d/..c" "py" = "a.d/.." := by decide +kernel

end Path

/-! ## Parts of a path -/

namespace Store

theorem slashes_of_filter_eq_nil {part cs : List Char} (h : (cutAtSlashes part cs).filter (· ≠ "") = []) :
    part = [] ∧ ∃ n, cs = List.replicate n '/' := by
  induction cs generalizing part with
  | nil => exact ⟨by simpa [cutAtSlashes] using h, 0, rfl⟩
  | cons c cs ih =>
    unfold cutAtSlashes at h
    by_cases hc : c = '/'
    · rw [if_pos hc, List.filter_eq_nil_iff, List.forall_mem_cons, ← List.filter_eq_nil_iff] at h
      obtain ⟨-, n, rfl⟩ := ih h.2
      exact ⟨by simpa using h.1, n + 1, by rw [hc, List.replicate_succ]⟩
    · rw [if_neg hc] at h
      cases (ih h).1

theorem toList_of_single {part : List Char} {name : String}
    (h : ([String.ofList part.reverse].filter (· ≠ "")).getLast? = some name) : name.toList = part.reverse := by
  have mem := List.mem_filter.mp (List.mem_of_getLast? h)
  rw [List.mem_singleton.mp mem.1, String.toList_ofList]

/-- The last part of a path that is not empty stands before slashes, and behind a slash or at the beginning. -/
theorem split_of_getLast? {part cs : List Char} {name : String} (whole : '/' ∉ part)
    (h : ((cutAtSlashes part cs).filter (· ≠ "")).getLast? = some name) :
    ∃ dir n, part.reverse ++ cs = dir ++ name.toList ++ List.replicate n '/' ∧ '/' ∉ name.toList ∧
      ∀ c, dir.getLast? = some c → c = '/' := by
  induction cs generalizing part with
  | nil => exact ⟨[], 0, by simp [toList_of_single h], by simpa [toList_of_single h] using whole, by simp⟩
  | cons c cs ih =>
    unfold cutAtSlashes at h
    by_cases hc : c = '/'
    · subst hc
      rw [if_pos rfl, ← List.singleton_append, List.filter_append, List.getLast?_append] at h
      cases later : ((cutAtSlashes [] cs).filter (· ≠ "")).getLast? with
      | none =>
        obtain ⟨-, n, rfl⟩ := slashes_of_filter_eq_nil (List.getLast?_eq_none_iff.mp later)
        rw [later, Option.none_or] at h
        refine ⟨[], n + 1, ?_, by simpa [toList_of_single h] using whole, by simp⟩
        rw [toList_of_single h, List.replicate_succ, List.nil_append]
      | some last =>
        rw [later, Option.some_or] at h
        cases h
        obtain ⟨dir, n, split, inside, edge⟩ := ih List.not_mem_nil later
        rw [List.reverse_nil, List.nil_append] at split
        refine ⟨part.reverse ++ '/' :: dir, n, by simp [split], inside, ?_⟩
        intro c hc
        rw [List.getLast?_append, List.getLast?_cons, Option.some_or] at hc
        cases hc
        cases last : dir.getLast? with
        | none => rfl
        | some e => exact edge e last
    · rw [if_neg hc] at h
      obtain ⟨dir, n, split, rest⟩ := ih (by simp [whole, Ne.symm hc]) h
      exact ⟨dir, n, by simpa using split, rest⟩

theorem fileName?_of_parts {path name : String} (h : (parts path).getLast? = some name) (dot : name ≠ ".")
    (dots : name ≠ "..") : Path.fileName? path = some name := by
  obtain ⟨dir, n, split, whole, edge⟩ := split_of_getLast? List.not_mem_nil h
  have nonempty : name ≠ "" := by simpa using (List.mem_filter.mp (List.mem_of_getLast? h)).2
  have spelled {text : String} (other : name ≠ text) : name.toList ≠ text.toList := by
    simpa [String.toList_inj] using other
  have named : Path.Named path dir name.toList (List.replicate n '/') :=
    ⟨split, .replicate n, ⟨spelled nonempty, spelled dot, spelled dots⟩, whole, edge⟩
  rw [named.fileName?_eq, String.ofList_toList]

end Store

end CSubset
