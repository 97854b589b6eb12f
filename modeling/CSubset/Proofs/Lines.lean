import CSubset.Excerpt
import CSubset.Proofs.Token.Tiling

/-!
# The lines of a text

Line `n` of a text stands between two offsets, the start of the line and the newline after it or the end of the text
(`lineBounds`). At any place of the text, these two are in order and between characters (`lineAt_after`); they are the
bounds that the index of the text gives, and what stands there is the line that an excerpt shows (`line?_after`).
-/

namespace CSubset

/-! ## The first and the last line of a text -/

def firstLine (cs : List Char) : List Char := cs.takeWhile (· ≠ '\n')

@[simp] theorem firstLine_nil : firstLine [] = [] := rfl

theorem firstLine_cons (c : Char) (cs : List Char) : firstLine (c :: cs) = if c = '\n' then [] else c :: firstLine cs := by
  unfold firstLine
  by_cases h : c = '\n'
  · rw [if_pos h, List.takeWhile_cons_of_neg (by simpa using h)]
  · rw [if_neg h, List.takeWhile_cons_of_pos (by simpa using h)]

theorem firstLine_isPrefix (cs : List Char) : firstLine cs <+: cs := List.takeWhile_prefix _

theorem newline_notMem_firstLine (cs : List Char) : '\n' ∉ firstLine cs := by
  intro h
  have := List.mem_takeWhile_imp h
  simp at this

theorem firstLine_append {text : List Char} (h : '\n' ∉ text) (rest : List Char) :
    firstLine (text ++ rest) = text ++ firstLine rest := by
  refine List.takeWhile_append_of_pos fun c hc => ?_
  exact decide_eq_true fun same => h (same ▸ hc)

theorem firstLine_of_notMem {cs : List Char} (h : '\n' ∉ cs) : firstLine cs = cs := by
  simpa using firstLine_append h []

theorem firstLine_append_of_mem {text : List Char} (h : '\n' ∈ text) (rest : List Char) :
    firstLine (text ++ rest) = firstLine text := by
  induction text with
  | nil => cases h
  | cons c text ih =>
    rw [List.cons_append, firstLine_cons, firstLine_cons]
    by_cases hc : c = '\n'
    · rw [if_pos hc, if_pos hc]
    · have later : '\n' ∈ text := (List.mem_cons.mp h).resolve_left fun same => hc same.symm
      rw [if_neg hc, if_neg hc, ih later]

theorem lastLine_eq_nil {cs : List Char} (h : lastLine cs = []) : cs = [] ∨ ∃ front, cs = front ++ ['\n'] := by
  rcases List.eq_nil_or_concat cs with empty | ⟨front, c, rfl⟩
  · exact Or.inl empty
  · rw [List.concat_eq_append, lastLine_snoc] at h
    by_cases hc : c = '\n'
    · exact Or.inr ⟨front, by rw [List.concat_eq_append, hc]⟩
    · rw [if_neg hc] at h
      simp at h

theorem newline_notMem_lastLine (cs : List Char) : '\n' ∉ lastLine cs := by
  intro h
  have := List.mem_rtakeWhile_imp h
  simp at this

theorem lastLine_append {text : List Char} (h : '\n' ∉ text) (before : List Char) :
    lastLine (before ++ text) = lastLine before ++ text := by
  induction text using List.reverseRecOn with
  | nil => rw [List.append_nil, List.append_nil]
  | append_singleton text c ih =>
    rw [List.mem_append, not_or] at h
    have other : c ≠ '\n' := fun same => h.2 (by rw [same]; exact List.mem_singleton_self _)
    rw [← List.append_assoc, lastLine_snoc, if_neg other, ih h.1, List.append_assoc]

theorem exists_lineStart (cs : List Char) :
    ∃ front, cs = front ++ lastLine cs ∧ lastLine front = [] ∧ front.count '\n' = cs.count '\n' := by
  have split := (List.rdropWhile_append_rtakeWhile (p := (· ≠ '\n')) (l := cs)).symm
  refine ⟨cs.rdropWhile (· ≠ '\n'), split, ?_, ?_⟩
  · exact List.rtakeWhile_eq_nil_iff.mpr fun some => List.rdropWhile_last_not _ _ some
  · conv => rhs; rw [split]
    have none := List.count_eq_zero_of_not_mem (newline_notMem_lastLine cs)
    rw [List.count_append, ← lastLine, none, Nat.add_zero]

/-! ## Carriage returns at the end of a line -/

theorem trimReturns_ofList (cs : List Char) :
    trimReturns (String.ofList cs) = String.ofList (cs.rdropWhile (· = '\r')) := by
  unfold trimReturns
  rw [String.toList_ofList]
  rfl

theorem snoc_isPrefix_rdropWhile {p : Char → Bool} (front : List Char) {c : Char} (h : ¬p c) (rest : List Char) :
    front ++ [c] <+: (front ++ [c] ++ rest).rdropWhile p := by
  induction rest using List.reverseRecOn with
  | nil =>
    have whole : (front ++ [c]).rdropWhile p = front ++ [c] := List.rdropWhile_concat_neg _ _ _ h
    exact ⟨[], by rw [List.append_nil, whole]⟩
  | append_singleton rest e ih =>
    rw [← List.append_assoc]
    by_cases he : p e
    · rw [List.rdropWhile_concat_pos _ _ _ he]
      exact ih
    · rw [List.rdropWhile_concat_neg _ _ _ he]
      exact ⟨rest ++ [e], by simp⟩

def shownLine (before rest : List Char) : List Char := (lastLine before ++ firstLine rest).rdropWhile (· = '\r')

theorem shownLine_isPrefix (before rest : List Char) : shownLine before rest <+: lastLine before ++ firstLine rest :=
  List.rdropWhile_prefix _ _

theorem newline_notMem_shownLine (before rest : List Char) : '\n' ∉ shownLine before rest := by
  intro h
  rcases List.mem_append.mp ((shownLine_isPrefix before rest).subset h) with h | h
  · exact newline_notMem_lastLine before h
  · exact newline_notMem_firstLine rest h

/-! ## Where lines stand -/

def startsFrom (offset : Nat) : List Char → List Nat
  | [] => []
  | c :: cs =>
    if c = '\n' then (offset + 1) :: startsFrom (offset + 1) cs else startsFrom (offset + c.utf8Size) cs

def lineStarts (source : String) : List Nat := 0 :: startsFrom 0 source.toList

def lineBounds (source : String) (n : Nat) : Except Fault (Option (Nat × Nat)) :=
  if n = 0 then .ok none
  else match (lineStarts source)[n - 1]?, (lineStarts source)[n]? with
    | none, _ => .ok none
    | some start, none => .ok (some (start, source.utf8ByteSize))
    | some start, some next => do
      let stop ← subtract next 1
      return some (start, stop)

def LineAt (source : String) (n : Nat) (line : String) : Prop :=
  ∃ start stop text, lineBounds source n = .ok (some (start, stop)) ∧ TextAt source start stop text ∧
    line = trimReturns text

theorem startsFrom_append (offset : Nat) (cs ds : List Char) :
    startsFrom offset (cs ++ ds) = startsFrom offset cs ++ startsFrom (offset + byteLength cs) ds := by
  induction cs generalizing offset with
  | nil => rfl
  | cons c cs ih =>
    rw [List.cons_append, startsFrom, startsFrom, byteLength_cons, ← Nat.add_assoc]
    by_cases hc : c = '\n'
    · rw [if_pos hc, if_pos hc, ih, hc]
      rfl
    · rw [if_neg hc, if_neg hc, ih]

theorem length_startsFrom (offset : Nat) (cs : List Char) : (startsFrom offset cs).length = cs.count '\n' := by
  induction cs generalizing offset with
  | nil => rfl
  | cons c cs ih =>
    rw [startsFrom]
    by_cases hc : c = '\n'
    · rw [if_pos hc, List.length_cons, ih, hc, List.count_cons_self]
    · rw [if_neg hc, ih, List.count_cons_of_ne hc]

theorem startsFrom_head? (offset : Nat) (cs : List Char) : (startsFrom offset cs).head? =
    if '\n' ∈ cs then some (offset + byteLength (firstLine cs) + 1) else none := by
  induction cs generalizing offset with
  | nil => rfl
  | cons c cs ih =>
    rw [startsFrom]
    by_cases hc : c = '\n'
    · simp [hc, firstLine_cons]
    · have other : '\n' ≠ c := fun same => hc same.symm
      rw [if_neg hc, ih]
      simp [hc, other, firstLine_cons, Nat.add_assoc]

section
variable {source : String} {before rest : List Char} (split : source.toList = before ++ rest)
  (start : lastLine before = [])

include split start in
theorem lineStarts_getElem? : (lineStarts source)[before.count '\n']? = some (byteLength before) := by
  unfold lineStarts
  rw [split, startsFrom_append]
  rcases lastLine_eq_nil start with rfl | ⟨front, rfl⟩
  · rfl
  · have index : (front ++ ['\n']).count '\n' = (startsFrom 0 front).length + 1 := by simp [length_startsFrom]
    rw [index, List.getElem?_cons_succ, startsFrom_append, List.append_assoc, List.getElem?_append_right (Nat.le_refl _)]
    simp [startsFrom, byteLength_append]
    rfl

include split in
theorem lineStarts_getElem?_succ :
    (lineStarts source)[before.count '\n' + 1]? = (startsFrom (byteLength before) rest).head? := by
  unfold lineStarts
  rw [split, startsFrom_append, List.getElem?_cons_succ, List.getElem?_append_right, length_startsFrom, Nat.sub_self,
    Nat.zero_add, List.head?_eq_getElem?]
  rw [length_startsFrom]

include split start in
theorem lineBounds_eq : lineBounds source (1 + before.count '\n') =
    .ok (some (byteLength before, byteLength (before ++ firstLine rest))) := by
  unfold lineBounds
  rw [if_neg (by omega), Nat.add_comm 1, Nat.add_sub_cancel, lineStarts_getElem? split start,
    lineStarts_getElem?_succ split, startsFrom_head?]
  by_cases more : '\n' ∈ rest
  · rw [if_pos more]
    simp [subtract]
  · rw [if_neg more, firstLine_of_notMem more, utf8ByteSize_eq, split]

end

theorem lineAt_after {source : String} {before rest : List Char} (split : source.toList = before ++ rest) :
    LineAt source (1 + before.count '\n') (String.ofList (shownLine before rest)) := by
  obtain ⟨front, hfront, start, count⟩ := exists_lineStart before
  have whole : source.toList = front ++ (lastLine before ++ rest) := by rw [split, ← List.append_assoc, ← hfront]
  have bounds := lineBounds_eq whole start
  rw [count, firstLine_append (newline_notMem_lastLine before)] at bounds
  obtain ⟨others, hothers⟩ := firstLine_isPrefix rest
  have line : source.toList = front ++ (lastLine before ++ firstLine rest) ++ others := by
    rw [whole, List.append_assoc, List.append_assoc, hothers]
  exact ⟨_, _, _, bounds, textAt_of_split line, (trimReturns_ofList _).symm⟩

/-! ## The index of a text -/

theorem toList_indexLines (starts : Array Nat) (offset : Nat) (cs : List Char) :
    (indexLines starts offset cs).toList = starts.toList ++ startsFrom offset cs := by
  induction cs generalizing starts offset with
  | nil => simp [indexLines, startsFrom]
  | cons c cs ih =>
    rw [indexLines, startsFrom]
    by_cases hc : c = '\n'
    · simp [hc, ih]
    · rw [if_neg hc, if_neg hc, ih]

theorem toList_lineStarts (source : String) : (SourceText.ofString source).lineStarts.toList = lineStarts source :=
  toList_indexLines #[0] 0 source.toList

theorem lineStarts_getElem?_eq (source : String) (i : Nat) :
    (SourceText.ofString source).lineStarts[i]? = (lineStarts source)[i]? := by
  rw [← toList_lineStarts, Array.getElem?_toList]

theorem bounds?_of_lineBounds {source : String} {n : Nat} {bounds : Option (Nat × Nat)}
    (h : lineBounds source n = .ok bounds) : (SourceText.ofString source).bounds? n = bounds := by
  unfold lineBounds at h
  unfold SourceText.bounds?
  rw [lineStarts_getElem?_eq, lineStarts_getElem?_eq]
  by_cases hn : n = 0
  · rw [if_pos hn] at h ⊢
    exact Except.ok.inj h
  · rw [if_neg hn] at h ⊢
    cases start : (lineStarts source)[n - 1]? with
    | none =>
      rw [start] at h
      exact Except.ok.inj h
    | some a =>
      cases next : (lineStarts source)[n]? with
      | none =>
        rw [start, next] at h
        exact Except.ok.inj h
      | some b =>
        rw [start, next] at h
        dsimp only [subtract] at h
        by_cases hb : 1 ≤ b
        · rw [if_pos hb] at h
          exact Except.ok.inj h
        · rw [if_neg hb] at h
          cases h

/-! ## Slices -/

theorem sliceBytes?_of_textAt {source text : String} {a b : Nat} (h : TextAt source a b text) :
    sliceBytes? source a b = some text := by
  obtain ⟨before, after, rfl, rfl, rfl⟩ := h
  have first : String.Pos.Raw.IsValid (before ++ text ++ after) ⟨before.utf8ByteSize⟩ :=
    String.Pos.Raw.isValid_iff_exists_append.mpr ⟨before, text ++ after, String.append_assoc, rfl⟩
  have last : String.Pos.Raw.IsValid (before ++ text ++ after) ⟨before.utf8ByteSize + text.utf8ByteSize⟩ := by
    refine String.Pos.Raw.isValid_iff_exists_append.mpr ⟨before ++ text, after, rfl, ?_⟩
    rw [← String.utf8ByteSize_append]
    rfl
  have bytes : (before ++ text ++ after).toByteArray.extract before.utf8ByteSize
      (before.utf8ByteSize + text.utf8ByteSize) = text.toByteArray := by
    rw [String.toByteArray_append, String.toByteArray_append, ← String.size_toByteArray, ← String.size_toByteArray,
      ← ByteArray.size_append, ByteArray.extract_append_size_left]
    exact ByteArray.extract_append_eq_right rfl ByteArray.size_append
  unfold sliceBytes?
  rw [pos?_of_isValid first, pos?_of_isValid last]
  simp only [Option.bind_eq_bind, Option.bind_some]
  rw [if_pos (Nat.le_add_right _ _)]
  exact congrArg some (String.toByteArray_inj.mp bytes)

theorem line?_of_lineAt {source : String} {n : Nat} {line : String} (h : LineAt source n line) :
    (SourceText.ofString source).line? n = some line := by
  obtain ⟨start, stop, text, bounds, slice, rfl⟩ := h
  unfold SourceText.line?
  rw [bounds?_of_lineBounds bounds]
  simp only [Option.bind_eq_bind, Option.bind_some]
  rw [show (SourceText.ofString source).text = source from rfl, sliceBytes?_of_textAt slice]
  rfl

theorem line?_after {source : String} {before rest : List Char} (split : source.toList = before ++ rest) :
    (SourceText.ofString source).line? (1 + before.count '\n') = some (String.ofList (shownLine before rest)) :=
  line?_of_lineAt (lineAt_after split)

end CSubset
