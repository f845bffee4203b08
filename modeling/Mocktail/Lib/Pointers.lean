/-
  Mocktail.Lib.Pointers — counted references: variables that point to objects.

  A table lists the variables that point to something. `target` is the object a variable
  points to, `point` and `unpoint` set and reset one variable, and `move` hands the targets of
  many variables over to others at once. An object is `Held` as long as some variable points
  to it: where it stops being held, its last reference was dropped.
-/

import Mathlib.Data.List.Basic

namespace Mocktail.Lib

variable {V O : Type} [DecidableEq V]

def target : List (V × O) → V → Option O
  | [], _ => none
  | (v, o) :: p, w => if w = v then some o else target p w

def unpoint (p : List (V × O)) (v : V) : List (V × O) := p.filter fun x => decide (x.1 ≠ v)

def point (p : List (V × O)) (v : V) (o : O) : List (V × O) := (v, o) :: unpoint p v

/-- Every variable `v` with `g v = some w` gives its target to `w`. -/
def move (g : V → Option V) (p : List (V × O)) : List (V × O) :=
  p.filterMap (fun x => (g x.1).map fun w => (w, x.2)) ++ p.filter fun x => (g x.1).isNone

/-- Some variable points to the object. -/
def Held (p : List (V × O)) (o : O) : Prop := ∃ v, target p v = some o

variable {p : List (V × O)} {v w : V} {o : O} {g : V → Option V}

@[simp] theorem target_nil (w : V) : target ([] : List (V × O)) w = none := rfl

theorem mem_of_target (h : target p v = some o) : (v, o) ∈ p := by
  induction p with
  | nil => simp at h
  | cons x p ih =>
    rw [target] at h
    by_cases hv : v = x.1
    · rw [if_pos hv] at h
      cases h
      rw [hv]
      exact List.mem_cons_self
    · rw [if_neg hv] at h
      exact List.mem_cons_of_mem _ (ih h)

instance [DecidableEq O] (p : List (V × O)) (o : O) : Decidable (Held p o) :=
  decidable_of_iff (∃ x ∈ p, target p x.1 = some o)
    ⟨fun ⟨x, _, h⟩ => ⟨x.1, h⟩, fun ⟨v, h⟩ => ⟨(v, o), mem_of_target h, h⟩⟩

/-! ## One variable -/

/-- A test that keeps the variable `w` keeps its target. -/
theorem target_filter {q : V × O → Bool} (h : ∀ o, q (w, o) = true) : target (p.filter q) w = target p w := by
  induction p with
  | nil => rfl
  | cons x p ih =>
    by_cases hw : w = x.1
    · have hx : q x = true := by rw [← h x.2, hw]
      rw [List.filter_cons_of_pos hx, target, target, if_pos hw, if_pos hw]
    · by_cases hx : q x = true
      · rw [List.filter_cons_of_pos hx, target, target, if_neg hw, if_neg hw, ih]
      · rw [List.filter_cons_of_neg hx, target, if_neg hw, ih]

theorem target_filter_none {q : V × O → Bool} (h : ∀ o, q (w, o) = false) : target (p.filter q) w = none := by
  cases ht : target (p.filter q) w with
  | none => rfl
  | some o =>
    have hm := (List.mem_filter.mp (mem_of_target ht)).2
    rw [h o] at hm
    cases hm

@[simp] theorem target_unpoint (p : List (V × O)) (v : V) : target (unpoint p v) v = none :=
  target_filter_none fun _ => by simp

theorem target_unpoint_ne (h : w ≠ v) : target (unpoint p v) w = target p w :=
  target_filter fun _ => by simpa using h

@[simp] theorem target_point (p : List (V × O)) (v : V) (o : O) : target (point p v o) v = some o := by
  simp [point, target]

theorem target_point_ne (h : w ≠ v) : target (point p v o) w = target p w := by
  rw [point, target, if_neg h, target_unpoint_ne h]

theorem target_append (p q : List (V × O)) (w : V) : target (p ++ q) w = (target p w).or (target q w) := by
  induction p with
  | nil => simp
  | cons x p ih =>
    rw [List.cons_append, target, target]
    by_cases hw : w = x.1
    · rw [if_pos hw, if_pos hw]
      rfl
    · rw [if_neg hw, if_neg hw, ih]

/-! ## Many variables -/

theorem target_moved (hg : g v = some w) (hi : ∀ v', g v' = some w → v' = v) :
    target (p.filterMap fun x => (g x.1).map fun w => (w, x.2)) w = target p v := by
  induction p with
  | nil => rfl
  | cons x p ih =>
    by_cases hv : v = x.1
    · rw [List.filterMap_cons, ← hv, hg]
      simp [target, hv]
    · rw [target, if_neg hv, ← ih, List.filterMap_cons]
      cases hx : g x.1 with
      | none => rfl
      | some u =>
        have hu : w ≠ u := fun h => hv (hi x.1 (by rw [hx, h])).symm
        simp only [Option.map_some, target, if_neg hu]

theorem target_moved_none (hi : ∀ v, g v ≠ some w) :
    target (p.filterMap fun x => (g x.1).map fun w => (w, x.2)) w = none := by
  cases ht : target (p.filterMap fun x => (g x.1).map fun w => (w, x.2)) w with
  | none => rfl
  | some o =>
    obtain ⟨x, -, hx⟩ := List.mem_filterMap.mp (mem_of_target ht)
    obtain ⟨u, hu, he⟩ := Option.map_eq_some_iff.mp hx
    cases he
    exact absurd hu (hi x.1)

/-- A variable that is given a target keeps its own only where there was none to give. -/
theorem target_move (hg : g v = some w) (hi : ∀ v', g v' = some w → v' = v) (hw : target p w = none) :
    target (move g p) w = target p v := by
  rw [move, target_append, target_moved hg hi]
  cases hn : g w with
  | none => rw [target_filter fun _ => by simp [hn], hw, Option.or_none]
  | some u => rw [target_filter_none fun _ => by simp [hn], Option.or_none]

theorem target_move_same (hi : ∀ v, g v ≠ some w) (hn : g w = none) : target (move g p) w = target p w := by
  rw [move, target_append, target_moved_none hi, target_filter fun _ => by simp [hn], Option.none_or]

/-- What a variable is given was the target of one that gives to it. -/
theorem target_of_moved (h : target (p.filterMap fun x => (g x.1).map fun w => (w, x.2)) w = some o) :
    ∃ v, g v = some w ∧ target p v = some o := by
  induction p with
  | nil => cases h
  | cons x p ih =>
    by_cases hx : g x.1 = some w
    · rw [List.filterMap_cons, hx] at h
      exact ⟨x.1, hx, by simpa [target] using h⟩
    · have hp : target (p.filterMap fun x => (g x.1).map fun w => (w, x.2)) w = some o := by
        rw [← h, List.filterMap_cons]
        cases hu : g x.1 with
        | none => rfl
        | some u =>
          have hwu : w ≠ u := fun he => hx (by rw [hu, he])
          simp only [Option.map_some, target, if_neg hwu]
      obtain ⟨v, hv, ho⟩ := ih hp
      have hvx : v ≠ x.1 := fun he => hx (by rw [← he, hv])
      exact ⟨v, hv, by rw [target, if_neg hvx, ho]⟩

theorem held_of_move (h : Held (move g p) o) : Held p o := by
  obtain ⟨w, hw⟩ := h
  rw [move, target_append, Option.or_eq_some_iff] at hw
  rcases hw with hw | ⟨-, hw⟩
  · obtain ⟨v, -, hv⟩ := target_of_moved hw
    exact ⟨v, hv⟩
  · cases hn : g w with
    | none => exact ⟨w, by rwa [target_filter fun _ => by simp [hn]] at hw⟩
    | some u =>
      rw [target_filter_none fun _ => by simp [hn]] at hw
      cases hw

end Mocktail.Lib
