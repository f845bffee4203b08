/-
  Mocktail.Lib.Tiles — a range of numbers cut into consecutive intervals.

  `Tiles first last l` says that the half-open intervals of `l` are non-empty, that each starts
  where the one before it ends, and that together they go from `first` to `last`. So they are
  disjoint (`Tiles.disjoint`) and every number of the range is in one of them
  (`Tiles.covers`), and in one place of the list only (`Tiles.unique`).
-/

import Mathlib.Data.List.Pairwise

namespace Mocktail.Lib

inductive Tiles : Nat → Nat → List (Nat × Nat) → Prop
  | nil (first : Nat) : Tiles first first []
  | cons {first middle last : Nat} {rest : List (Nat × Nat)} :
      first < middle → Tiles middle last rest → Tiles first last ((first, middle) :: rest)

namespace Tiles

variable {first middle last : Nat} {l : List (Nat × Nat)}

theorem le (h : Tiles first last l) : first ≤ last := by
  induction h with
  | nil => exact Nat.le_refl _
  | cons hlt _ ih => omega

/-- An interval is non-empty and within the range. -/
theorem within (h : Tiles first last l) {i : Nat × Nat} (hi : i ∈ l) : first ≤ i.1 ∧ i.1 < i.2 ∧ i.2 ≤ last := by
  induction h with
  | nil => exact absurd hi List.not_mem_nil
  | cons hlt hrest ih =>
    have hle := hrest.le
    rcases List.mem_cons.mp hi with rfl | hi
    · exact ⟨Nat.le_refl _, hlt, hle⟩
    · obtain ⟨hstart, hne, hend⟩ := ih hi
      exact ⟨by omega, hne, hend⟩

theorem append {l' : List (Nat × Nat)} (h : Tiles first middle l) (h' : Tiles middle last l') :
    Tiles first last (l ++ l') := by
  induction h with
  | nil => exact h'
  | cons hlt _ ih => exact .cons hlt (ih h')

theorem snoc (h : Tiles first middle l) (hlt : middle < last) : Tiles first last (l ++ [(middle, last)]) :=
  h.append (.cons hlt (.nil last))

theorem disjoint (h : Tiles first last l) : l.Pairwise fun i j => i.2 ≤ j.1 := by
  induction h with
  | nil => exact List.Pairwise.nil
  | cons _ hrest ih => exact List.pairwise_cons.mpr ⟨fun j hj => (hrest.within hj).1, ih⟩

theorem covers (h : Tiles first last l) {n : Nat} (hfirst : first ≤ n) (hlast : n < last) :
    ∃ i ∈ l, i.1 ≤ n ∧ n < i.2 := by
  induction h with
  | nil => omega
  | cons hlt _ ih =>
    rename_i start stop _ rest _
    by_cases hn : n < stop
    · exact ⟨_, List.mem_cons_self, hfirst, hn⟩
    · obtain ⟨i, hi, hin⟩ := ih (by omega) hlast
      exact ⟨i, List.mem_cons_of_mem _ hi, hin⟩

/-- Two intervals with a common number are one. -/
theorem unique (h : Tiles first last l) {j k : Nat} {i i' : Nat × Nat} (hj : l[j]? = some i) (hk : l[k]? = some i')
    {n : Nat} (hn : i.1 ≤ n ∧ n < i.2) (hn' : i'.1 ≤ n ∧ n < i'.2) : j = k := by
  have hdisjoint := List.pairwise_iff_getElem.mp h.disjoint
  obtain ⟨hjl, rfl⟩ := List.getElem?_eq_some_iff.mp hj
  obtain ⟨hkl, rfl⟩ := List.getElem?_eq_some_iff.mp hk
  rcases Nat.lt_trichotomy j k with hlt | heq | hlt
  · have := hdisjoint j k hjl hkl hlt
    omega
  · exact heq
  · have := hdisjoint k j hkl hjl hlt
    omega

/-- Intervals that are made for each number of a range in turn. -/
theorem flatMap_range {f : Nat → Nat} {g : Nat → List (Nat × Nat)} {n : Nat} (h : ∀ i < n, Tiles (f i) (f (i + 1)) (g i)) :
    Tiles (f 0) (f n) ((List.range n).flatMap g) := by
  induction n with
  | zero => exact .nil _
  | succ n ih =>
    rw [List.range_succ, List.flatMap_append, List.flatMap_singleton]
    exact (ih fun i hi => h i (by omega)).append (h n (by omega))

theorem map_range {f : Nat → Nat} {n : Nat} (h : ∀ i < n, f i < f (i + 1)) :
    Tiles (f 0) (f n) ((List.range n).map fun i => (f i, f (i + 1))) := by
  rw [List.map_eq_flatMap]
  exact flatMap_range fun i hi => .cons (h i hi) (.nil _)

end Tiles

end Mocktail.Lib
