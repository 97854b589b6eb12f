import CSubset.Log
import CSubset.Proofs.Position

/-!
# Cutting off long texts

A text that is too long is cut at its last place between characters within the limit (`boundary`, `le_boundary`). That
place is at most three bytes before the limit, as no character has more than four (`le_boundary_add`). So the search for
it is short, and never gets below zero (`searchBack_eq`).
-/

namespace CSubset

open String.Pos (Raw)

/-! ## The search -/

def boundary (text : String) (offset : Nat) : Nat := (boundaryBefore text offset).offset.byteIdx

theorem boundary_isValid (text : String) (offset : Nat) : Raw.IsValid text ⟨boundary text offset⟩ :=
  (boundaryBefore text offset).isValid

theorem boundary_of_isValid {text : String} {offset : Nat} (h : Raw.IsValid text ⟨offset⟩) :
    boundary text offset = offset := by
  cases offset with
  | zero => rfl
  | succ offset =>
    unfold boundary boundaryBefore
    rw [pos?_of_isValid h]
    rfl

theorem boundary_of_not_isValid {text : String} {offset : Nat} (h : ¬Raw.IsValid text ⟨offset + 1⟩) :
    boundary text (offset + 1) = boundary text offset := by
  unfold boundary
  rw [boundaryBefore, pos?_eq_none h]

theorem isValid_zero (text : String) : Raw.IsValid text ⟨0⟩ := text.startPos.isValid

theorem boundary_le (text : String) (offset : Nat) : boundary text offset ≤ offset := by
  induction offset with
  | zero => exact Nat.le_refl 0
  | succ offset ih =>
    by_cases h : Raw.IsValid text ⟨offset + 1⟩
    · rw [boundary_of_isValid h]
    · rw [boundary_of_not_isValid h]
      exact Nat.le_succ_of_le ih

theorem le_boundary {text : String} {n offset : Nat} (h : Raw.IsValid text ⟨n⟩) (le : n ≤ offset) :
    n ≤ boundary text offset := by
  induction offset with
  | zero => exact le
  | succ offset ih =>
    by_cases valid : Raw.IsValid text ⟨offset + 1⟩
    · rw [boundary_of_isValid valid]
      exact le
    · rw [boundary_of_not_isValid valid]
      have : n ≠ offset + 1 := by
        rintro rfl
        exact valid h
      exact ih (by omega)

/-- The search as a bounded loop: it goes back at most `room` times, and each step is a subtraction that fails below
zero. -/
def searchBack (text : String) : (room offset : Nat) → Except Fault (Option Nat)
  | 0, offset => .ok (if Raw.isValid text ⟨offset⟩ then some offset else none)
  | room + 1, offset =>
    if Raw.isValid text ⟨offset⟩ then .ok (some offset)
    else do searchBack text room (← subtract offset 1)

theorem searchBack_eq {text : String} {room offset : Nat} (near : offset ≤ boundary text offset + room) :
    searchBack text room offset = .ok (some (boundary text offset)) := by
  induction room generalizing offset with
  | zero =>
    have here : boundary text offset = offset := Nat.le_antisymm (boundary_le text offset) near
    have valid := boundary_isValid text offset
    rw [here] at valid
    unfold searchBack
    rw [if_pos (Raw.isValid_eq_true_iff.mpr valid), here]
  | succ room ih =>
    unfold searchBack
    by_cases valid : Raw.IsValid text ⟨offset⟩
    · rw [if_pos (Raw.isValid_eq_true_iff.mpr valid), boundary_of_isValid valid]
    · rw [if_neg (mt Raw.isValid_eq_true_iff.mp valid)]
      cases offset with
      | zero => exact absurd (isValid_zero text) valid
      | succ offset =>
        have less : subtract (offset + 1) 1 = .ok offset := if_pos (Nat.le_add_left 1 offset)
        rw [boundary_of_not_isValid valid] at near ⊢
        rw [less]
        exact ih (by omega)

/-! ## What is kept -/

structure LongestFront (limit : Nat) (text front : String) : Prop where
  starts : front.toList <+: text.toList
  fits : front.utf8ByteSize ≤ limit
  longest : ∀ other : String, other.toList <+: text.toList → other.utf8ByteSize ≤ limit → other.toList <+: front.toList

theorem isValid_of_front {text front : String} (h : front.toList <+: text.toList) :
    Raw.IsValid text ⟨front.utf8ByteSize⟩ := by
  obtain ⟨rest, whole⟩ := h
  refine Raw.isValid_iff_exists_append.mpr ⟨front, String.ofList rest, ?_, rfl⟩
  rw [← String.toList_inj, String.toList_append, String.toList_ofList, whole]

theorem exists_front (limit : Nat) (text : String) : ∃ front rest, text = front ++ rest ∧
    front.utf8ByteSize = boundary text limit ∧ (limit < text.utf8ByteSize → clamp limit text = front ++ "...") := by
  have split := (boundaryBefore text limit).splits
  refine ⟨_, _, split.eq_append, ?_, ?_⟩
  · unfold boundary
    rw [split.offset_eq_rawEndPos]
    rfl
  · intro long
    exact if_neg (Nat.not_le.mpr long)

theorem lt_boundary_add {limit : Nat} {text front rest : String} {c : Char} (whole : text = front ++ rest)
    (size : front.utf8ByteSize = boundary text limit) (next : rest.toList.head? = some c) :
    limit < boundary text limit + c.utf8Size := by
  obtain ⟨more, hrest⟩ := List.head?_eq_some_iff.mp next
  have longer : (front ++ String.singleton c).toList <+: text.toList := by
    rw [whole, String.toList_append, String.toList_append, hrest]
    exact ⟨more, by simp⟩
  have valid := isValid_of_front longer
  rw [String.utf8ByteSize_append, String.utf8ByteSize_singleton, size] at valid
  by_contra fits
  have := le_boundary valid (Nat.le_of_not_lt fits)
  have := c.utf8Size_pos
  omega

theorem le_boundary_add {limit : Nat} {text : String} (long : limit < text.utf8ByteSize) :
    limit ≤ boundary text limit + 3 := by
  obtain ⟨front, rest, whole, size, -⟩ := exists_front limit text
  cases hrest : rest.toList with
  | nil =>
    have small := boundary_le text limit
    rw [whole, String.toList_eq_nil_iff.mp hrest, String.append_empty, size] at long
    omega
  | cons c more =>
    have := lt_boundary_add whole size (by rw [hrest]; rfl : rest.toList.head? = some c)
    have := c.utf8Size_le_four
    omega

theorem longestFront_of_boundary {limit : Nat} {text front rest : String} (whole : text = front ++ rest)
    (size : front.utf8ByteSize = boundary text limit) : LongestFront limit text front where
  starts := ⟨rest.toList, by rw [whole, String.toList_append]⟩
  fits := size ▸ boundary_le text limit
  longest other starts fits := by
    have le := le_boundary (isValid_of_front starts) fits
    rw [← size, utf8ByteSize_eq, utf8ByteSize_eq] at le
    exact prefix_of_byteLength_le starts ⟨rest.toList, by rw [whole, String.toList_append]⟩ le

/-- **Clamping.** A text within the limit is left as it is. Of a longer one the most whole characters within the limit
are kept, with three dots behind them. The search for their end takes at most three steps back and never goes below zero,
so the dots make up for what is missing. -/
theorem clamp_keeps_longest (limit : Nat) (text : String) :
    (text.utf8ByteSize ≤ limit → clamp limit text = text) ∧
    (limit < text.utf8ByteSize → ∃ front, LongestFront limit text front ∧ clamp limit text = front ++ "..." ∧
      front.utf8ByteSize = boundary text limit ∧ searchBack text 3 limit = .ok (some (boundary text limit)) ∧
      limit ≤ (clamp limit text).utf8ByteSize ∧ (clamp limit text).utf8ByteSize ≤ limit + 3) := by
  constructor
  · intro short
    exact if_pos short
  · intro long
    obtain ⟨front, rest, whole, size, cut⟩ := exists_front limit text
    have near := le_boundary_add long
    have small := boundary_le text limit
    have dots : (clamp limit text).utf8ByteSize = front.utf8ByteSize + 3 := by
      rw [cut long, String.utf8ByteSize_append]
      rfl
    exact ⟨front, longestFront_of_boundary whole size, cut long, size, searchBack_eq near, by omega, by omega⟩

/-- The limit is three bytes into a character of four. -/
theorem clamp_keeps_longest_smile : 6 < "aé😀b".utf8ByteSize ∧ LongestFront 6 "aé😀b" "aé" ∧
    clamp 6 "aé😀b" = "aé..." ∧ searchBack "aé😀b" 3 6 = .ok (some 3) ∧ searchBack "aé😀b" 2 6 = .ok none ∧
    clamp 8 "aé😀b" = "aé😀b" := by
  obtain ⟨front, longest, cut, size, search, -⟩ := (clamp_keeps_longest 6 "aé😀b").2 (by decide)
  have shown : clamp 6 "aé😀b" = "aé" ++ "..." := by decide +kernel
  obtain rfl : front = "aé" := (String.append_left_inj "...").mp (cut.symm.trans shown)
  rw [← size] at search
  exact ⟨by decide, longest, shown, search, by decide +kernel, (clamp_keeps_longest 8 "aé😀b").1 (by decide)⟩

end CSubset
