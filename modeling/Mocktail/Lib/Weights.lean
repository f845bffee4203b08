/-
  Mocktail.Lib.Weights — finite maps whose values have a weight.

  The weight of an association list is the sum of the weights of its values. To insert at a
  key puts the weight of the new value in the place of the old one's (`weigh_insert`), to
  erase a key takes it away (`weigh_erase`). `sum_update` is the same for a function on a
  finite type.
-/

import Mathlib.Data.Fintype.BigOperators
import Mathlib.Data.List.AList
import Mathlib.Data.Nat.Cast.Basic

namespace Mocktail.Lib

section
variable {α β : Type} [DecidableEq α]

def weigh (w : β → Nat) (m : AList fun _ : α => β) : Nat := (m.entries.map fun e => w e.2).sum

/-- What a key contributes. -/
def weightAt (w : β → Nat) (m : AList fun _ : α => β) (a : α) : Nat := (m.lookup a).elim 0 w

omit [DecidableEq α] in
@[simp] theorem weigh_empty (w : β → Nat) : weigh w (∅ : AList fun _ : α => β) = 0 := rfl

theorem weightAt_some {w : β → Nat} {m : AList fun _ : α => β} {a : α} {b : β} (h : m.lookup a = some b) :
    weightAt w m a = w b := by
  rw [weightAt, h]
  rfl

theorem weightAt_none {w : β → Nat} {m : AList fun _ : α => β} {a : α} (h : m.lookup a = none) : weightAt w m a = 0 := by
  rw [weightAt, h]
  rfl

theorem weigh_kerase (w : β → Nat) (l : List (Sigma fun _ : α => β)) (a : α) :
    ((l.kerase a).map fun e => w e.2).sum + (l.dlookup a).elim 0 w = (l.map fun e => w e.2).sum := by
  induction l with
  | nil => rfl
  | cons e l ih =>
    obtain ⟨b, v⟩ := e
    by_cases h : b = a
    · subst h
      rw [show List.kerase b (⟨b, v⟩ :: l) = l from List.kerase_cons_eq rfl, List.dlookup_cons_eq]
      simp [Nat.add_comm]
    · have hne : a ≠ (⟨b, v⟩ : Sigma fun _ : α => β).1 := Ne.symm h
      rw [List.kerase_cons_ne hne, List.dlookup_cons_ne l ⟨b, v⟩ hne]
      simp only [List.map_cons, List.sum_cons]
      omega

theorem weigh_erase (w : β → Nat) (m : AList fun _ : α => β) (a : α) :
    weigh w (m.erase a) + weightAt w m a = weigh w m := weigh_kerase w m.entries a

theorem weightAt_le (w : β → Nat) (m : AList fun _ : α => β) (a : α) : weightAt w m a ≤ weigh w m := by
  have h := weigh_erase w m a
  omega

theorem weigh_insert (w : β → Nat) (m : AList fun _ : α => β) (a : α) (b : β) :
    weigh w (m.insert a b) + weightAt w m a = weigh w m + w b := by
  have h := weigh_erase w m a
  have hi : weigh w (m.insert a b) = w b + weigh w (m.erase a) := by
    rw [weigh, AList.entries_insert]
    rfl
  omega

theorem length_erase {m : AList fun _ : α => β} {a : α} {b : β} (h : m.lookup a = some b) :
    (m.erase a).entries.length + 1 = m.entries.length := by
  have hlen : ∀ m : AList fun _ : α => β, weigh (fun _ => 1) m = m.entries.length := by
    intro m
    simp [weigh]
  have he := weigh_erase (fun _ => 1) m a
  rwa [hlen, hlen, weightAt_some h] at he

end

section
variable {ι γ : Type} [Fintype ι] [DecidableEq ι]

open scoped BigOperators in
theorem sum_update (w : γ → Nat) (f : ι → γ) (i : ι) (v : γ) :
    ∑ j, w (Function.update f i v j) + w (f i) = ∑ j, w (f j) + w v := by
  have hnew : ∑ j, w (Function.update f i v j) = w v + ∑ j ∈ Finset.univ.erase i, w (f j) := by
    rw [← Finset.add_sum_erase _ _ (Finset.mem_univ i), Function.update_self]
    refine congrArg _ (Finset.sum_congr rfl fun j hj => ?_)
    rw [Function.update_of_ne (Finset.ne_of_mem_erase hj)]
  have hold : ∑ j, w (f j) = w (f i) + ∑ j ∈ Finset.univ.erase i, w (f j) :=
    (Finset.add_sum_erase _ _ (Finset.mem_univ i)).symm
  omega

end

end Mocktail.Lib
