/-
  Mocktail.Lib.Budget — the longest prefix of a list whose weights fit a budget.

  `within w room l` takes elements off the front of `l` as long as their weights add up to
  at most `room`. It is the greatest prefix that fits: every prefix of at most that weight is a
  prefix of it (`within_greatest`). Where all weights are positive, a budget of exactly a
  prefix's weight gives that prefix back (`within_exact`).
-/

import Mathlib.Algebra.Order.Group.Nat
import Mathlib.Algebra.Ring.Nat
import Mathlib.Data.List.Basic

namespace Mocktail.Lib

variable {α : Type} (w : α → Nat)

def within : Nat → List α → List α
  | _, [] => []
  | room, a :: l => if room < w a then [] else a :: within (room - w a) l

variable {w}

theorem within_prefix (room : Nat) (l : List α) : within w room l <+: l := by
  induction l generalizing room with
  | nil => exact List.prefix_rfl
  | cons a l ih =>
    unfold within
    by_cases h : room < w a
    · rw [if_pos h]
      exact List.nil_prefix
    · rw [if_neg h]
      exact List.prefix_cons_inj a |>.mpr (ih (room - w a))

theorem within_weight (room : Nat) (l : List α) : ((within w room l).map w).sum ≤ room := by
  induction l generalizing room with
  | nil => exact Nat.zero_le room
  | cons a l ih =>
    unfold within
    by_cases h : room < w a
    · rw [if_pos h]
      exact Nat.zero_le room
    · have hrest := ih (room - w a)
      rw [if_neg h, List.map_cons, List.sum_cons]
      omega

theorem within_greatest {room : Nat} {front back : List α} (h : (front.map w).sum ≤ room) :
    front <+: within w room (front ++ back) := by
  induction front generalizing room with
  | nil => exact List.nil_prefix
  | cons a front ih =>
    rw [List.map_cons, List.sum_cons] at h
    rw [List.cons_append, within, if_neg (by omega)]
    exact List.prefix_cons_inj a |>.mpr (ih (by omega))

theorem within_exact (hw : ∀ a, 0 < w a) (front back : List α) :
    within w (front.map w).sum (front ++ back) = front := by
  induction front with
  | nil =>
    cases back with
    | nil => rfl
    | cons b back => exact if_pos (hw b)
  | cons a front ih =>
    rw [List.map_cons, List.sum_cons, List.cons_append, within, if_neg (by omega), Nat.add_sub_cancel_left, ih]

end Mocktail.Lib
