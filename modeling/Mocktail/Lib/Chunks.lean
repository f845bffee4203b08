/-
  Mocktail.Lib.Chunks — a list cut into pieces of one length, the last one shorter.

  `chunks n l` are the pieces. Their number depends on the length of `l` alone
  (`length_chunks`) and they make up `l` (`flatten_chunks`), so the pieces of several lists one
  after the other can be told apart once the lengths of all but the last are known
  (`chunks_append_inj`).
-/

import Mathlib.Algebra.Ring.Nat
import Mathlib.Data.List.Basic

namespace Mocktail.Lib

/-- A byte string. -/
abbrev Bytes := List UInt8

variable {α : Type}

/-- The pieces, at most `fuel` of them. -/
def chunkLoop (n : Nat) : Nat → List α → List (List α)
  | 0, _ => []
  | fuel + 1, l => if l.length = 0 then [] else l.take n :: chunkLoop n fuel (l.drop n)

def chunks (n : Nat) (l : List α) : List (List α) := chunkLoop n l.length l

variable {n : Nat}

theorem flatten_chunkLoop (hn : 0 < n) (fuel : Nat) :
    ∀ l : List α, l.length ≤ fuel → (chunkLoop n fuel l).flatten = l := by
  induction fuel with
  | zero =>
    intro l hl
    rw [List.length_eq_zero_iff.mp (Nat.le_zero.mp hl)]
    rfl
  | succ fuel ih =>
    intro l hl
    rw [chunkLoop]
    split
    · rename_i h0
      rw [List.length_eq_zero_iff.mp h0]
      rfl
    · rw [List.flatten_cons, ih _ (by rw [List.length_drop]; omega), List.take_append_drop]

theorem flatten_chunks (hn : 0 < n) (l : List α) : (chunks n l).flatten = l :=
  flatten_chunkLoop hn _ l (Nat.le_refl _)

theorem length_chunkLoop (hn : 0 < n) (fuel : Nat) :
    ∀ l : List α, l.length ≤ fuel → (chunkLoop n fuel l).length = (l.length + n - 1) / n := by
  induction fuel with
  | zero =>
    intro l hl
    rw [Nat.le_zero.mp hl, Nat.zero_add, Nat.div_eq_of_lt (by omega)]
    rfl
  | succ fuel ih =>
    intro l hl
    rw [chunkLoop]
    split
    · rename_i h0
      rw [h0, Nat.zero_add, Nat.div_eq_of_lt (by omega)]
      rfl
    · rename_i h0
      rw [List.length_cons, ih _ (by rw [List.length_drop]; omega), List.length_drop]
      by_cases hshort : l.length ≤ n
      · rw [show l.length - n + n - 1 = n - 1 by omega, Nat.div_eq_of_lt (by omega),
          show l.length + n - 1 = (l.length - 1) + n by omega, Nat.add_div_right _ hn, Nat.div_eq_of_lt (by omega)]
      · rw [show l.length + n - 1 = (l.length - n + n - 1) + n by omega, Nat.add_div_right _ hn]

theorem length_chunks (hn : 0 < n) (l : List α) : (chunks n l).length = (l.length + n - 1) / n :=
  length_chunkLoop hn _ l (Nat.le_refl _)

theorem length_flatMap_chunks (hn : 0 < n) (parts : List (List α)) :
    (parts.flatMap (chunks n)).length = (parts.map fun part => (part.length + n - 1) / n).sum := by
  induction parts with
  | nil => rfl
  | cons part rest ih =>
    rw [List.flatMap_cons, List.length_append, List.map_cons, List.sum_cons, ih, length_chunks hn]

variable {l m : List α}

theorem chunks_single (h0 : l ≠ []) (hl : l.length ≤ n) : chunks n l = [l] := by
  have hpos : l.length ≠ 0 := fun h => h0 (List.length_eq_zero_iff.mp h)
  obtain ⟨k, hk⟩ := Nat.exists_eq_succ_of_ne_zero hpos
  unfold chunks
  rw [hk, chunkLoop, if_neg hpos, List.take_of_length_le hl, List.drop_of_length_le hl]
  cases k <;> simp [chunkLoop]

theorem chunks_cons (hn : 0 < n) (h0 : l ≠ []) : chunks n l = l.take n :: chunks n (l.drop n) := by
  have hmore : ∀ fuel fuel' : Nat, ∀ m : List α, m.length ≤ fuel → m.length ≤ fuel' →
      chunkLoop n fuel m = chunkLoop n fuel' m := by
    intro fuel
    induction fuel with
    | zero =>
      intro fuel' m hm _
      rw [List.length_eq_zero_iff.mp (Nat.le_zero.mp hm)]
      cases fuel' <;> simp [chunkLoop]
    | succ fuel ih =>
      intro fuel' m hm hm'
      cases fuel' with
      | zero =>
        rw [List.length_eq_zero_iff.mp (Nat.le_zero.mp hm')]
        simp [chunkLoop]
      | succ fuel' =>
        rw [chunkLoop, chunkLoop]
        split
        · rfl
        · rw [ih fuel' (m.drop n) (by rw [List.length_drop]; omega) (by rw [List.length_drop]; omega)]
  have hpos : l.length ≠ 0 := fun h => h0 (List.length_eq_zero_iff.mp h)
  obtain ⟨k, hk⟩ := Nat.exists_eq_succ_of_ne_zero hpos
  unfold chunks
  rw [hk, chunkLoop, if_neg hpos, hmore k (l.drop n).length (l.drop n) (by rw [List.length_drop]; omega) (Nat.le_refl _)]

theorem chunks_nil (n : Nat) : chunks n ([] : List α) = [] := rfl

/-- All pieces but the last have the one length, and the last is not longer. -/
theorem length_of_mem_chunks (hn : 0 < n) (l : List α) :
    (∀ piece ∈ (chunks n l).dropLast, piece.length = n) ∧ ∀ piece ∈ chunks n l, 1 ≤ piece.length ∧ piece.length ≤ n := by
  induction hsize : l.length using Nat.strongRecOn generalizing l with
  | ind size ih =>
    by_cases h0 : l = []
    · rw [h0, chunks_nil]
      exact ⟨nofun, nofun⟩
    · have hpos := List.length_pos_of_ne_nil h0
      obtain ⟨hfull, hall⟩ := ih (l.drop n).length (by rw [List.length_drop]; omega) (l.drop n) rfl
      rw [chunks_cons hn h0]
      constructor
      · intro piece hpiece
        by_cases hrest : l.drop n = []
        · rw [hrest, chunks_nil] at hpiece
          cases hpiece
        · rw [List.dropLast_cons_of_ne_nil (by rw [chunks_cons hn hrest]; exact List.cons_ne_nil _ _)] at hpiece
          rcases List.mem_cons.mp hpiece with rfl | hpiece
          · have hlong := List.length_pos_of_ne_nil hrest
            rw [List.length_drop] at hlong
            rw [List.length_take]
            omega
          · exact hfull piece hpiece
      · intro piece hpiece
        rcases List.mem_cons.mp hpiece with rfl | hpiece
        · rw [List.length_take]
          omega
        · exact hall piece hpiece

theorem chunks_inj (hn : 0 < n) (h : chunks n l = chunks n m) : l = m := by
  rw [← flatten_chunks hn l, h, flatten_chunks hn m]

theorem chunks_append_inj (hn : 0 < n) {rest rest' : List (List α)} (hlen : l.length = m.length)
    (h : chunks n l ++ rest = chunks n m ++ rest') : l = m ∧ rest = rest' := by
  obtain ⟨hl, hr⟩ := List.append_inj h (by rw [length_chunks hn, length_chunks hn, hlen])
  exact ⟨chunks_inj hn hl, hr⟩

end Mocktail.Lib
