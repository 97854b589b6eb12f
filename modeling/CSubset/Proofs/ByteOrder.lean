import Mathlib.Data.String.Basic

/-!
# Byte order

Texts are ordered by their characters. The bytes of their encodings are in the same order, as of two characters the
smaller one has the smaller byte at the first place where their encodings differ (`utf8Bytes_lt`).
-/

namespace CSubset

def utf8Bytes (text : String) : List UInt8 := text.toByteArray.data.toList

theorem utf8Bytes_eq (text : String) : utf8Bytes text = text.toList.flatMap String.utf8EncodeChar := by
  unfold utf8Bytes
  rw [← String.utf8Encode_toList]
  simp [List.utf8Encode]

/-! ## Encodings of two characters -/

/-- There is a first place at which the two differ, and the left one is smaller there. -/
inductive Below : List UInt8 → List UInt8 → Prop
  | here {a b : UInt8} {as bs : List UInt8} (h : a < b) : Below (a :: as) (b :: bs)
  | later {a : UInt8} {as bs : List UInt8} (h : Below as bs) : Below (a :: as) (a :: bs)

namespace Below

theorem append_lt {as bs : List UInt8} (h : Below as bs) (us vs : List UInt8) : as ++ us < bs ++ vs := by
  induction h with
  | here h => exact List.Lex.rel h
  | later _ ih => exact List.Lex.cons ih

theorem first {m n : Nat} (h : m < n) (byte : n < 256) (as bs : List UInt8) :
    Below (UInt8.ofNat m :: as) (UInt8.ofNat n :: bs) := by
  apply here
  rw [UInt8.lt_iff_toNat_lt, UInt8.toNat_ofNat', UInt8.toNat_ofNat']
  omega

theorem step {m n : Nat} {as bs : List UInt8} (h : m ≤ n) (byte : n < 256) (rest : m = n → Below as bs) :
    Below (UInt8.ofNat m :: as) (UInt8.ofNat n :: bs) := by
  rcases Nat.lt_or_eq_of_le h with less | same
  · exact first less byte as bs
  · rw [same]
    exact later (rest same)

/-- A longer encoding has the larger first byte, and encodings of one length are numbers in base 64. -/
theorem of_lt {c d : Char} (h : c < d) : Below (String.utf8EncodeChar c) (String.utf8EncodeChar d) := by
  have less : c.val.toNat < d.val.toNat := h
  have bound : d.val.toNat < 0x110000 := by
    have := d.valid
    simp only [UInt32.isValidChar, Nat.isValidChar] at this
    omega
  unfold String.utf8EncodeChar
  generalize c.val.toNat = v at *
  generalize d.val.toNat = w at *
  dsimp only
  -- by the length of the smaller character's encoding; that of the larger one is at least as long
  split
  · split_ifs
    all_goals exact first (by omega) (by omega) _ _
  · rw [if_neg (by omega : ¬w ≤ 0x7f)]
    split
    · split_ifs
      · exact step (by omega) (by omega) fun _ => first (by omega) (by omega) _ _
      all_goals exact first (by omega) (by omega) _ _
    · rw [if_neg (by omega : ¬w ≤ 0x7ff)]
      split
      · split_ifs
        · exact step (by omega) (by omega) fun _ => step (by omega) (by omega) fun _ => first (by omega) (by omega) _ _
        · exact first (by omega) (by omega) _ _
      · rw [if_neg (by omega : ¬w ≤ 0xffff)]
        refine step (by omega) (by omega) fun _ => step (by omega) (by omega) fun _ => ?_
        exact step (by omega) (by omega) fun _ => first (by omega) (by omega) _ _

end Below

theorem utf8Bytes_lt {s t : String} (h : s < t) : utf8Bytes s < utf8Bytes t := by
  rw [utf8Bytes_eq, utf8Bytes_eq]
  have order : s.toList < t.toList := h
  generalize s.toList = cs at order
  generalize t.toList = ds at order
  induction order with
  | @nil d ds =>
    obtain ⟨b, bs, encoded⟩ := List.exists_cons_of_ne_nil (String.utf8EncodeChar_ne_nil (c := d))
    rw [List.flatMap_cons, encoded]
    exact List.nil_lt_cons _ _
  | rel less => exact (Below.of_lt less).append_lt _ _
  | cons _ ih => exact List.append_left_lt ih

end CSubset
