/-
  Mocktail.Lib.Parking — threads that sleep on a word until another wakes them.

  A system of threads is a function from threads to program points. Some points are parked
  (`resume` gives the point a parked thread goes on at), some are owed a wake (`wakes`): a
  thread there has made the word free and has still to unpark the sleepers. `Served` is the
  absence of lost wake-ups: as long as some thread is parked, the word is blocked or some
  thread has still to wake.

  Rules, one for each kind of step a thread can take:
  - `served_update`: a step that keeps the word blocked and no wake dropped;
  - `served_blocked`: any step that leaves the word blocked, a parking one included;
  - `served_wakes`: a step to a point that is owed a wake;
  - `served_of_unparked`: the wake itself.
-/

import Mathlib.Logic.Function.Basic

namespace Mocktail.Lib

structure Parking (π : Type) where
  resume : π → Option π
  wakes : π → Bool
  awake : ∀ p q, resume p = some q → resume q = none

namespace Parking

variable {T π : Type} (K : Parking π)

def Parked (p : π) : Prop := (K.resume p).isSome = true

instance (p : π) : Decidable (K.Parked p) := inferInstanceAs (Decidable (_ = true))

/-- The points after a wake of all sleepers. -/
def unparkAll (points : T → π) : T → π := fun t => (K.resume (points t)).getD (points t)

/-- No thread is parked unless the word is blocked or a wake is still to come. -/
def Served (points : T → π) (blocked : Prop) : Prop :=
  ∀ t, K.Parked (points t) → blocked ∨ ∃ u, K.wakes (points u) = true

variable {K} {points : T → π} {blocked : Prop}

theorem served_of_unparked (h : ∀ t, ¬ K.Parked (points t)) :
    K.Served points blocked := fun t ht => absurd ht (h t)

theorem not_parked_unparkAll (points : T → π) (t : T) : ¬ K.Parked (K.unparkAll points t) := by
  simp only [Parked, unparkAll]
  cases h : K.resume (points t) with
  | none => simp [h]
  | some q => simp [K.awake _ _ h]

theorem served_blocked (h : blocked) : K.Served points blocked :=
  fun _ _ => .inl h

theorem served_wakes [DecidableEq T] {t : T} {p : π} (h : K.wakes p = true) :
    K.Served (Function.update points t p) blocked :=
  fun _ _ => .inr ⟨t, by simpa using h⟩

theorem served_update [DecidableEq T] {blocked' : Prop} {t : T} {p : π} (h : K.Served points blocked)
    (hb : blocked → blocked') (hp : ¬ K.Parked p) (hw : K.wakes (points t) = true → K.wakes p = true) :
    K.Served (Function.update points t p) blocked' := by
  intro u hu
  by_cases hut : u = t
  · subst hut
    exact absurd (by simpa using hu) hp
  · rw [Function.update_of_ne hut] at hu
    rcases h u hu with hblocked | ⟨v, hv⟩
    · exact .inl (hb hblocked)
    · refine .inr ⟨v, ?_⟩
      by_cases hvt : v = t
      · subst hvt
        simpa using hw hv
      · rwa [Function.update_of_ne hvt]

end Parking

end Mocktail.Lib
