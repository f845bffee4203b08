/-
  Mocktail.Lib.Keyed — lists whose elements have distinct keys, as small tables.

  An element is found by a test `p` that holds of the elements with key `k`. With distinct
  keys the first such element is the only one, so `find?`, `eraseP` and `modifyFirst` act on
  the whole table (`find_some_iff`, `mem_eraseP`).
-/

import Mathlib.Data.List.Nodup

namespace Mocktail.Lib

/-- The first element that satisfies `p`, changed. -/
def modifyFirst {α : Type} (p : α → Bool) (f : α → α) : List α → List α
  | [] => []
  | x :: xs => if p x then f x :: xs else x :: modifyFirst p f xs

variable {α κ : Type} {key : α → κ} {k : κ} {p : α → Bool} {l : List α}

theorem find_none_iff (hp : ∀ x, p x = true ↔ key x = k) : l.find? p = none ↔ k ∉ l.map key := by
  rw [List.find?_eq_none, List.mem_map]
  constructor
  · intro h hex
    obtain ⟨x, hx, hk⟩ := hex
    exact h x hx ((hp x).mpr hk)
  · intro h x hx hpx
    exact h ⟨x, hx, (hp x).mp hpx⟩

theorem nodup_snoc (hn : (l.map key).Nodup) {x : α} (hx : key x ∉ l.map key) : ((l ++ [x]).map key).Nodup := by
  rw [List.map_append, List.nodup_append]
  refine ⟨hn, by simp, fun a ha b hb hab => ?_⟩
  have hb : b = key x := by simpa using hb
  rw [hab, hb] at ha
  exact hx ha

theorem nodup_eraseP (hn : (l.map key).Nodup) : ((l.eraseP p).map key).Nodup :=
  hn.sublist ((List.eraseP_sublist (p := p)).map key)

/-- The erased element was the only one with its key. -/
theorem mem_eraseP (hp : ∀ x, p x = true ↔ key x = k) (hn : (l.map key).Nodup) {x : α} :
    x ∈ l.eraseP p ↔ x ∈ l ∧ key x ≠ k := by
  induction l with
  | nil => simp
  | cons y l ih =>
    obtain ⟨hy, hn⟩ := List.nodup_cons.mp hn
    by_cases hk : key y = k
    · subst hk
      rw [List.eraseP_cons_of_pos ((hp y).mpr rfl)]
      constructor
      · intro hx
        refine ⟨List.mem_cons_of_mem _ hx, fun he => hy ?_⟩
        rw [← he]
        exact List.mem_map_of_mem hx
      · intro hex
        obtain ⟨hx, hne⟩ := hex
        rcases List.mem_cons.mp hx with rfl | hx
        · exact absurd rfl hne
        · exact hx
    · rw [List.eraseP_cons_of_neg (fun h => hk ((hp y).mp h)), List.mem_cons, List.mem_cons, ih hn]
      constructor
      · intro hor
        rcases hor with rfl | ⟨hx, hne⟩
        · exact ⟨Or.inl rfl, hk⟩
        · exact ⟨Or.inr hx, hne⟩
      · intro hex
        obtain ⟨rfl | hx, hne⟩ := hex
        · exact Or.inl rfl
        · exact Or.inr ⟨hx, hne⟩

/-- With distinct keys, to be found is to be in the table. -/
theorem find_some_iff (hp : ∀ x, p x = true ↔ key x = k) (hn : (l.map key).Nodup) {x : α} :
    l.find? p = some x ↔ x ∈ l ∧ key x = k := by
  constructor
  · intro h
    exact ⟨List.mem_of_find?_eq_some h, (hp x).mp (List.find?_some h)⟩
  · intro hex
    obtain ⟨hx, hk⟩ := hex
    cases hf : l.find? p with
    | none =>
      rw [find_none_iff hp] at hf
      exact absurd (hk ▸ List.mem_map_of_mem hx) hf
    | some y =>
      have hy := List.mem_of_find?_eq_some hf
      have hyk := (hp y).mp (List.find?_some hf)
      rw [List.inj_on_of_nodup_map hn hy hx (hyk.trans hk.symm)]

/-- One value for the only element with key `k`. -/
theorem filterMap_key [DecidableEq κ] {β : Type} (hn : (l.map key).Nodup) (v : β) :
    l.filterMap (fun x => if key x = k then some v else none) = if k ∈ l.map key then [v] else [] := by
  induction l with
  | nil => rfl
  | cons x l ih =>
    obtain ⟨hx, hn⟩ := List.nodup_cons.mp hn
    by_cases hk : key x = k
    · subst hk
      rw [List.filterMap_cons, if_pos rfl, ih hn, if_neg hx]
      simp
    · rw [List.filterMap_cons, if_neg hk, ih hn, List.map_cons]
      simp only [List.mem_cons, Ne.symm hk, false_or]

theorem map_modifyFirst {f : α → α} (hf : ∀ x, key (f x) = key x) : (modifyFirst p f l).map key = l.map key := by
  induction l with
  | nil => rfl
  | cons x l ih =>
    simp only [modifyFirst]
    split
    · simp [hf]
    · simp [ih]

/-- The table taken apart at a place, and with another element there. -/
theorem split_place {i : Nat} {x : α} (h : l[i]? = some x) (y : α) :
    l = l.take i ++ x :: l.drop (i + 1) ∧ l.set i y = l.take i ++ y :: l.drop (i + 1) := by
  obtain ⟨hlt, hget⟩ := List.getElem?_eq_some_iff.mp h
  constructor
  · conv_lhs => rw [← List.take_append_drop i l, List.drop_eq_getElem_cons hlt, hget]
  · exact List.set_eq_take_append_cons_drop.trans (if_pos hlt)

/-! ## Two tables in step -/

theorem forall₂_imp_mem {β : Type} {R R' : α → β → Prop} {l : List α} {m : List β} (h : List.Forall₂ R l m)
    (hi : ∀ x y, y ∈ m → R x y → R' x y) : List.Forall₂ R' l m := by
  induction h with
  | nil => exact .nil
  | cons hx _ ih => exact .cons (hi _ _ List.mem_cons_self hx) (ih fun x y hy => hi x y (List.mem_cons_of_mem _ hy))

theorem forall₂_mem {β : Type} {R : α → β → Prop} {l : List α} {m : List β} (h : List.Forall₂ R l m) {y : β} (hy : y ∈ m) :
    ∃ x ∈ l, R x y := by
  induction h with
  | nil => cases hy
  | @cons x z l m hx _ ih =>
    rcases List.mem_cons.mp hy with rfl | hy
    · exact ⟨x, List.mem_cons_self, hx⟩
    · obtain ⟨x', hx', hr⟩ := ih hy
      exact ⟨x', List.mem_cons_of_mem _ hx', hr⟩

/-- One element is replaced, and for the others the relation is changed. -/
theorem forall₂_replace {β : Type} {R R' : α → β → Prop} {l : List α} {a b : List β} {y y' : β}
    (h : List.Forall₂ R l (a ++ y :: b)) (hy : ∀ x, R x y → R' x y') (hab : ∀ x z, z ∈ a ∨ z ∈ b → R x z → R' x z) :
    List.Forall₂ R' l (a ++ y' :: b) := by
  induction a generalizing l with
  | nil =>
    cases h with
    | cons hx ht => exact .cons (hy _ hx) (forall₂_imp_mem ht fun x z hz hxz => hab x z (.inr hz) hxz)
  | cons z a ih =>
    cases h with
    | cons hx ht =>
      refine .cons (hab _ _ (.inl List.mem_cons_self) hx) (ih ht fun x z' hz => hab x z' ?_)
      rcases hz with hz | hz
      · exact .inl (List.mem_cons_of_mem _ hz)
      · exact .inr hz

end Mocktail.Lib
