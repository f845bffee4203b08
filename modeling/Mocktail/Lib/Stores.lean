/-
  Mocktail.Lib.Stores — a memory after a list of stores.

  `storeAll m stores` is the memory after the stores in their order. A store may be made
  before others to other addresses (`storeAll_early`), and where each address belongs to one
  of several lists of stores, what it holds in the end comes from that list alone
  (`storeAll_flatMap`).
-/

import Mocktail.Lib.Slots

namespace Mocktail.Lib

variable {β ι : Type}

def storeAll (memory : Nat → β) (stores : List (Nat × β)) : Nat → β :=
  stores.foldl (fun memory store => upd memory store.1 store.2) memory

@[simp] theorem storeAll_nil (memory : Nat → β) : storeAll memory [] = memory := rfl

@[simp] theorem storeAll_cons (memory : Nat → β) (store : Nat × β) (stores : List (Nat × β)) :
    storeAll memory (store :: stores) = storeAll (upd memory store.1 store.2) stores := rfl

theorem storeAll_append (memory : Nat → β) (stores more : List (Nat × β)) :
    storeAll memory (stores ++ more) = storeAll (storeAll memory stores) more := by
  simp [storeAll]

/-- What an address holds depends on what it held before. -/
theorem storeAll_congr {memory memory' : Nat → β} {a : Nat} (h : memory a = memory' a) (stores : List (Nat × β)) :
    storeAll memory stores a = storeAll memory' stores a := by
  induction stores generalizing memory memory' with
  | nil => exact h
  | cons store stores ih =>
    rw [storeAll_cons, storeAll_cons]
    apply ih
    by_cases ha : a = store.1
    · simp [upd, ha]
    · rw [upd_ne _ _ ha, upd_ne _ _ ha, h]

theorem storeAll_untouched (memory : Nat → β) {stores : List (Nat × β)} {a : Nat} (h : ∀ store ∈ stores, store.1 ≠ a) :
    storeAll memory stores a = memory a := by
  induction stores generalizing memory with
  | nil => rfl
  | cons store stores ih =>
    rw [storeAll_cons, ih _ (fun other ho => h other (List.mem_cons_of_mem _ ho)),
      upd_ne _ _ (Ne.symm (h store (List.mem_cons_self ..)))]

/-- A store to an address that no later one touches can come last. -/
theorem storeAll_early (memory : Nat → β) (pre post : List (Nat × β)) (store : Nat × β)
    (h : ∀ other ∈ post, other.1 ≠ store.1) :
    storeAll memory (pre ++ store :: post) = upd (storeAll memory (pre ++ post)) store.1 store.2 := by
  funext a
  rw [storeAll_append, storeAll_append, storeAll_cons]
  by_cases ha : a = store.1
  · subst ha
    rw [upd_same, storeAll_untouched _ h, upd_same]
  · rw [upd_ne _ _ ha]
    exact storeAll_congr (upd_ne _ _ ha) post

/-- An address that only one of the lists touches. -/
theorem storeAll_flatMap (memory : Nat → β) {items : List ι} {stores : ι → List (Nat × β)} {i : ι} {a : Nat}
    (hi : i ∈ items) (hnd : items.Nodup) (h : ∀ j ∈ items, j ≠ i → ∀ store ∈ stores j, store.1 ≠ a) :
    storeAll memory (items.flatMap stores) a = storeAll memory (stores i) a := by
  obtain ⟨pre, post, rfl⟩ := List.append_of_mem hi
  have hnot : i ∉ pre ∧ i ∉ post := by
    simp only [List.nodup_append, List.nodup_cons] at hnd
    exact ⟨fun hp => hnd.2.2 i hp i (List.mem_cons_self ..) rfl, hnd.2.1.1⟩
  have hother : ∀ l : List ι, (∀ j ∈ l, j ∈ pre ++ i :: post) → i ∉ l → ∀ store ∈ l.flatMap stores, store.1 ≠ a := by
    intro l hl hil store hs
    obtain ⟨j, hj, hs⟩ := List.mem_flatMap.mp hs
    exact h j (hl j hj) (fun he => hil (he ▸ hj)) store hs
  rw [List.flatMap_append, List.flatMap_cons, storeAll_append, storeAll_append,
    storeAll_untouched _ (hother post (fun j hj => by simp [hj]) hnot.2)]
  exact storeAll_congr (storeAll_untouched _ (hother pre (fun j hj => by simp [hj]) hnot.1)) _

theorem storeAll_flatMap_untouched (memory : Nat → β) {items : List ι} {stores : ι → List (Nat × β)} {a : Nat}
    (h : ∀ j ∈ items, ∀ store ∈ stores j, store.1 ≠ a) : storeAll memory (items.flatMap stores) a = memory a := by
  apply storeAll_untouched
  intro store hs
  obtain ⟨j, hj, hs⟩ := List.mem_flatMap.mp hs
  exact h j hj store hs

end Mocktail.Lib
