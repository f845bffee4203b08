/-
  Mocktail.Lib.Traced — computations that log what they do.

  `Traced ε α` is a value and the events of computing it. `Meets ok cost w x Q` says that
  every event of `x` is allowed, that they cost at most `w` together and that the value is
  in `Q`; its rules follow `pure`, `>>=` and `if`, with what is left of `w` for the rest.
  `Spends` is the same with a bound that depends on the value, `Always` the same without one.
-/

import Mathlib.Algebra.BigOperators.Group.List.Basic
import Mathlib.Algebra.Order.Ring.Nat

namespace Mocktail.Lib

structure Traced (ε α : Type) where
  value : α
  trace : List ε

namespace Traced

variable {ε α β : Type}

instance : Monad (Traced ε) where
  pure a := ⟨a, []⟩
  bind x f := ⟨(f x.value).value, x.trace ++ (f x.value).trace⟩

def emit (e : ε) : Traced ε Unit := ⟨(), [e]⟩

structure Meets (ok : ε → Prop) (cost : ε → Nat) (w : Nat) (x : Traced ε α) (Q : α → Prop) : Prop where
  allowed : ∀ e ∈ x.trace, ok e
  cost_le : (x.trace.map cost).sum ≤ w
  post : Q x.value

variable {ok : ε → Prop} {cost : ε → Nat} {w : Nat} {Q : α → Prop} {a : α}

theorem Meets.pure (h : Q a) : Meets ok cost w (pure a) Q :=
  ⟨fun _ he => (List.not_mem_nil he).elim, Nat.zero_le _, h⟩

/-- A value with its one event. -/
theorem Meets.one {e : ε} (hok : ok e) (hcost : cost e ≤ w) (h : Q a) :
    Meets ok cost w ⟨a, [e]⟩ Q := by
  refine ⟨?_, ?_, h⟩
  · intro d hd
    rw [List.mem_singleton.mp hd]
    exact hok
  · simpa using hcost

theorem Meets.emit {e : ε} (hok : ok e) (hcost : cost e ≤ w) : Meets ok cost w (emit e) fun _ => True :=
  .one hok hcost trivial

variable {x : Traced ε α} {f : α → Traced ε β} {P : α → Prop} {v : Nat}

theorem Meets.bind {Q : β → Prop} (hx : Meets ok cost v x P)
    (hv : v ≤ w) (hf : ∀ a, P a → Meets ok cost (w - v) (f a) Q) : Meets ok cost w (x >>= f) Q := by
  obtain ⟨hok, hcost, hpost⟩ := hf x.value hx.post
  refine ⟨?_, ?_, hpost⟩
  · intro e he
    rcases List.mem_append.mp he with he | he
    · exact hx.allowed e he
    · exact hok e he
  · have hsum : ((x >>= f).trace.map cost).sum = (x.trace.map cost).sum + ((f x.value).trace.map cost).sum := by
      change ((x.trace ++ (f x.value).trace).map cost).sum = _
      rw [List.map_append, List.sum_append]
    have hx' := hx.cost_le
    omega

theorem Meets.mono {P Q : α → Prop} (hx : Meets ok cost v x P) (hv : v ≤ w) (hQ : ∀ a, P a → Q a) :
    Meets ok cost w x Q :=
  ⟨hx.allowed, Nat.le_trans hx.cost_le hv, hQ _ hx.post⟩

/-- The branch of a condition. -/
theorem Meets.ite {p : Prop} [Decidable p] {x y : Traced ε α} (hx : p → Meets ok cost w x Q)
    (hy : ¬p → Meets ok cost w y Q) : Meets ok cost w (if p then x else y) Q := by
  split
  · rename_i hp
    exact hx hp
  · rename_i hp
    exact hy hp

/-- `Meets` without a bound on the cost. -/
abbrev Always (ok : ε → Prop) (x : Traced ε α) (Q : α → Prop) : Prop := Meets ok (fun _ => 0) 0 x Q

theorem Meets.always (h : Meets ok cost w x Q) : Always ok x Q :=
  ⟨h.allowed, by simp, h.post⟩

theorem Meets.seq {Q : β → Prop} (hx : Always ok x P)
    (hf : ∀ a, P a → Always ok (f a) Q) : Always ok (x >>= f) Q :=
  hx.bind (Nat.le_refl 0) hf

/-- A value that is known stands for itself in the rest. -/
theorem Meets.seq_eq {Q : β → Prop} (hx : Always ok x fun b => b = a) (hf : Always ok (f a) Q) : Always ok (x >>= f) Q := by
  refine hx.seq ?_
  rintro b rfl
  exact hf

/-- With `c` spent before, the events of `x` come to at most what its value allows. -/
structure Spends (ok : ε → Prop) (cost : ε → Nat) (c : Nat) (u : α → Nat) (x : Traced ε α) (Q : α → Prop) : Prop where
  allowed : ∀ e ∈ x.trace, ok e
  cost_le : c + (x.trace.map cost).sum ≤ u x.value
  post : Q x.value

variable {c : Nat} {u : α → Nat}

theorem Spends.pure (hu : c ≤ u a) (h : Q a) : Spends ok cost c u (pure a) Q :=
  ⟨fun _ he => (List.not_mem_nil he).elim, hu, h⟩

theorem Spends.bind {u : β → Nat} {Q : β → Prop}
    (hx : Meets ok cost v x P) (hf : ∀ a, P a → Spends ok cost (c + v) u (f a) Q) : Spends ok cost c u (x >>= f) Q := by
  obtain ⟨hok, hcost, hpost⟩ := hf x.value hx.post
  have hall := Meets.bind (w := v + ((f x.value).trace.map cost).sum) hx (by omega) (Q := fun b => b = (f x.value).value)
    (f := fun _ => f x.value) fun _ _ => ⟨hok, by omega, rfl⟩
  have hv := hall.cost_le
  refine ⟨hall.allowed, ?_, hpost⟩
  change c + ((x.trace ++ (f x.value).trace).map cost).sum ≤ u (f x.value).value
  change ((x.trace ++ (f x.value).trace).map cost).sum ≤ _ at hv
  omega

theorem Spends.ite {p : Prop} [Decidable p] {x y : Traced ε α} (hx : p → Spends ok cost c u x Q)
    (hy : ¬p → Spends ok cost c u y Q) : Spends ok cost c u (if p then x else y) Q := by
  split
  · rename_i hp
    exact hx hp
  · rename_i hp
    exact hy hp

theorem Meets.bind_spends {Q : β → Prop}
    (hx : Spends ok cost 0 u x P) (hf : ∀ a, P a → u a ≤ w ∧ Meets ok cost (w - u a) (f a) Q) : Meets ok cost w (x >>= f) Q := by
  obtain ⟨hle, hrest⟩ := hf x.value hx.post
  have hfirst : Meets ok cost (u x.value) x fun a => a = x.value := ⟨hx.allowed, by have := hx.cost_le; omega, rfl⟩
  refine hfirst.bind hle ?_
  intro a ha
  subst ha
  exact hrest

end Traced

end Mocktail.Lib
