import CSubset.Span
import Mathlib.Data.List.DropRight

/-!
# Positions counted from the start of a text

`Position.after` reads a position off the text in front of it: its length in bytes, its newlines, and the characters
since the last of them. Walking over a text from there gives the position after both (`walk_after`), and no step of
a walk overflows as long as the text has fewer than 4294967295 bytes.
-/

namespace CSubset

/-! ## Length in bytes -/

def byteLength : List Char → Nat
  | [] => 0
  | c :: cs => c.utf8Size + byteLength cs

@[simp] theorem byteLength_nil : byteLength [] = 0 := rfl

@[simp] theorem byteLength_cons (c : Char) (cs : List Char) : byteLength (c :: cs) = c.utf8Size + byteLength cs := rfl

@[simp] theorem byteLength_append (cs ds : List Char) : byteLength (cs ++ ds) = byteLength cs + byteLength ds := by
  induction cs with
  | nil => simp
  | cons c cs ih => rw [List.cons_append, byteLength_cons, ih, byteLength_cons, Nat.add_assoc]

theorem utf8ByteSize_ofList (cs : List Char) : (String.ofList cs).utf8ByteSize = byteLength cs := by
  induction cs with
  | nil => rfl
  | cons c cs ih =>
    rw [String.ofList_cons, String.utf8ByteSize_append, String.utf8ByteSize_singleton, ih, byteLength_cons]

theorem utf8ByteSize_eq (s : String) : s.utf8ByteSize = byteLength s.toList := by
  rw [← utf8ByteSize_ofList, String.ofList_toList]

theorem length_le_byteLength (cs : List Char) : cs.length ≤ byteLength cs := by
  induction cs with
  | nil => exact Nat.le_refl _
  | cons c cs ih =>
    have := c.utf8Size_pos
    rw [List.length_cons, byteLength_cons]
    omega

theorem byteLength_pos {cs : List Char} (h : cs ≠ []) : 0 < byteLength cs :=
  Nat.lt_of_lt_of_le (List.length_pos_iff.mpr h) (length_le_byteLength cs)

theorem eq_nil_of_byteLength {cs : List Char} (h : byteLength cs = 0) : cs = [] := by
  by_contra some
  have := byteLength_pos some
  omega

theorem append_inj_of_byteLength {a b x y : List Char} (same : a ++ x = b ++ y) (size : byteLength a = byteLength b) :
    a = b ∧ x = y := by
  rcases List.append_eq_append_iff.mp same with ⟨c, rfl, rfl⟩ | ⟨c, rfl, rfl⟩
  all_goals
    rw [byteLength_append] at size
    have none : c = [] := eq_nil_of_byteLength (by omega)
    simp [none]

theorem prefix_of_byteLength_le {cs ds es : List Char} (hc : cs <+: es) (hd : ds <+: es)
    (le : byteLength cs ≤ byteLength ds) : cs <+: ds := by
  rcases List.prefix_or_prefix_of_prefix hc hd with h | ⟨more, rfl⟩
  · exact h
  · rw [byteLength_append] at le
    have none : more = [] := eq_nil_of_byteLength (by omega)
    exact ⟨[], by simp [none]⟩

/-! ## Places between characters -/

theorem pos?_of_isValid {s : String} {p : String.Pos.Raw} (h : p.IsValid s) : s.pos? p = some (s.pos p h) := by
  have inside := String.Pos.Raw.isValidForSlice_eq_true_iff.mpr h.toSlice
  unfold String.pos? String.Slice.pos?
  rw [dif_pos inside]
  rfl

theorem pos?_eq_none {s : String} {p : String.Pos.Raw} (h : ¬p.IsValid s) : s.pos? p = none := by
  have outside : ¬p.isValidForSlice s.toSlice = true := by
    rw [String.Pos.Raw.isValidForSlice_eq_true_iff]
    exact fun valid => h (String.Pos.Raw.isValidForSlice_toSlice_iff.mp valid)
  unfold String.pos? String.Slice.pos?
  rw [dif_neg outside]
  rfl

/-! ## Computations that only long texts can stop -/

/-- A computation over `size` bytes of text gives `v`; or it stops, but then the text is too long for positions. -/
def Yields {α} (x : Except Fault α) (size : Nat) (v : α) : Prop :=
  x = .ok v ∨ 4294967295 ≤ size ∧ ∃ f, x = .error f

namespace Yields

theorem ok {α} (v : α) (size : Nat) : Yields (.ok v) size v := Or.inl rfl

theorem bind {α β} {x : Except Fault α} {f : α → Except Fault β} {v : α} {w : β} {m n size : Nat}
    (hx : Yields x m v) (hf : Yields (f v) n w) (hm : m ≤ size) (hn : n ≤ size) : Yields (x >>= f) size w := by
  rcases hx with rfl | ⟨long, e, rfl⟩
  · rcases hf with h | ⟨long, e, h⟩
    · exact Or.inl h
    · exact Or.inr ⟨Nat.le_trans long hn, e, h⟩
  · exact Or.inr ⟨Nat.le_trans long hm, e, rfl⟩

theorem eq_ok {α} {x : Except Fault α} {v : α} {size : Nat} (h : Yields x size v) (short : size < 4294967295) :
    x = .ok v := by
  rcases h with h | ⟨long, _⟩
  · exact h
  · exact absurd short (Nat.not_lt.mpr long)

theorem eq_of_ok {α} {x : Except Fault α} {v w : α} {size : Nat} (h : Yields x size v) (hw : x = .ok w) : w = v := by
  rcases h with h | ⟨_, e, h⟩
  · exact Except.ok.inj (hw.symm.trans h)
  · cases hw.symm.trans h

end Yields

/-! ## The position after a text -/

def lastLine (cs : List Char) : List Char := cs.rtakeWhile (· ≠ '\n')

theorem lastLine_snoc (cs : List Char) (c : Char) :
    lastLine (cs ++ [c]) = if c = '\n' then [] else lastLine cs ++ [c] := by
  unfold lastLine
  by_cases h : c = '\n'
  · rw [List.rtakeWhile_concat_neg _ _ _ (by simpa using h), if_pos h]
  · rw [List.rtakeWhile_concat_pos _ _ _ (by simpa using h), if_neg h]

theorem length_lastLine_le (cs : List Char) : (lastLine cs).length ≤ cs.length :=
  (List.rtakeWhile_suffix _ _).length_le

namespace Position

def after (cs : List Char) : Position := ⟨byteLength cs, 1 + cs.count '\n', 1 + (lastLine cs).length⟩

@[simp] theorem after_nil : after [] = start := rfl

@[simp] theorem after_offset (cs : List Char) : (after cs).offset = byteLength cs := rfl

@[simp] theorem after_line (cs : List Char) : (after cs).line = 1 + cs.count '\n' := rfl

@[simp] theorem after_column (cs : List Char) : (after cs).column = 1 + (lastLine cs).length := rfl

theorem after_snoc (cs : List Char) (c : Char) : after (cs ++ [c]) = (after cs).advance c := by
  unfold after advance
  rw [byteLength_append, lastLine_snoc, List.count_append]
  by_cases h : c = '\n'
  · subst h
    simp only [ite_true, byteLength_cons, byteLength_nil, List.count_singleton_self, List.length_nil, Nat.add_assoc]
    rfl
  · simp [h, Nat.add_assoc]

theorem advanceAll_start (cs : List Char) : start.advanceAll cs = after cs := by
  induction cs using List.reverseRecOn with
  | nil => rfl
  | append_singleton cs c ih =>
    rw [after_snoc, ← ih]
    exact List.foldl_concat ..

theorem after_inRange {cs : List Char} (h : byteLength cs < 4294967295) : (after cs).InRange := by
  have lines : cs.count '\n' ≤ cs.length := List.count_le_length
  have columns := length_lastLine_le cs
  have chars := length_le_byteLength cs
  refine ⟨?_, ?_, ?_⟩
  · rw [after_offset]; omega
  · rw [after_line]; omega
  · rw [after_column]; omega

/-! ## Walks -/

theorem walk_cons (p : Position) (c : Char) (cs : List Char) :
    p.walk (c :: cs) = p.step c >>= fun q => q.walk cs := rfl

theorem step_after (cs : List Char) (c : Char) :
    Yields ((after cs).step c) (byteLength (cs ++ [c])) (after (cs ++ [c])) := by
  unfold step
  rw [← after_snoc]
  by_cases h : (after (cs ++ [c])).InRange
  · rw [if_pos h]
    exact Yields.ok _ _
  · refine Or.inr ⟨Nat.le_of_not_lt fun short => h (after_inRange short), .additionOverflow, ?_⟩
    rw [if_neg h]

theorem walk_after (cs ds : List Char) : Yields ((after cs).walk ds) (byteLength (cs ++ ds)) (after (cs ++ ds)) := by
  induction ds generalizing cs with
  | nil =>
    rw [List.append_nil]
    exact Yields.ok _ _
  | cons d ds ih =>
    rw [List.append_cons, walk_cons]
    refine (step_after cs d).bind (ih (cs ++ [d])) ?_ (Nat.le_refl _)
    rw [byteLength_append (cs ++ [d])]
    exact Nat.le_add_right ..

end Position

end CSubset
