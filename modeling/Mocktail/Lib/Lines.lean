/-
  Mocktail.Lib.Lines — a list cut into lines at its separators.

  `lines sep xs` are the stretches of `xs` between its separators; what follows the last
  separator is a line only if it is not empty. A list cut at any place has the lines of its
  front and of its rest when the cut is at the start of a line (`lines_append_of_break`), and
  otherwise one line goes across the cut (`lines_append_within`). Where all elements are
  distinct, an element is in one line only (`line_unique`).
-/

import Mathlib.Data.List.Infix
import Mathlib.Data.List.Nodup
import Mathlib.Data.List.Pairwise

namespace Mocktail.Lib

section
variable {α : Type} (sep : α → Bool)

def lines : List α → List (List α)
  | [] => []
  | a :: rest =>
    if sep a then [] :: lines rest
    else match lines rest with
      | [] => [[a]]
      | line :: more => (a :: line) :: more

/-- The first line. -/
def firstLine (xs : List α) : List α := xs.takeWhile fun a => !sep a

/-- What comes after the first line and its separator. -/
def afterLine (xs : List α) : List α := xs.drop ((firstLine sep xs).length + 1)

/-- The cut after `pre` is at the start of a line. -/
def Breaks (pre : List α) : Prop := pre = [] ∨ ∃ p a, pre = p ++ [a] ∧ sep a = true

variable {sep} {line pre q xs : List α}

theorem lines_eq_firstLine (h : xs ≠ []) : lines sep xs = firstLine sep xs :: lines sep (afterLine sep xs) := by
  induction xs with
  | nil => exact absurd rfl h
  | cons a rest ih =>
    cases ha : sep a with
    | true => simp [lines, firstLine, afterLine, ha]
    | false =>
      cases rest with
      | nil => simp [lines, firstLine, afterLine, ha]
      | cons b rest =>
        have hrest := ih (by simp)
        rw [lines, hrest]
        simp [firstLine, afterLine, ha]

theorem lines_ne_nil (h : xs ≠ []) : lines sep xs ≠ [] := by
  rw [lines_eq_firstLine h]
  exact List.cons_ne_nil _ _

theorem lines_append_sep (pre post : List α) {a : α} (ha : sep a = true) :
    lines sep (pre ++ a :: post) = lines sep (pre ++ [a]) ++ lines sep post := by
  induction pre with
  | nil => simp [lines, ha]
  | cons b pre ih =>
    simp only [List.cons_append, lines, ih]
    cases hb : sep b with
    | true => simp
    | false =>
      obtain ⟨line, more, hlines⟩ := List.exists_cons_of_ne_nil (@lines_ne_nil _ sep (pre ++ [a]) (by simp))
      simp [hlines]

theorem lines_append_of_break (h : Breaks sep pre) (post : List α) :
    lines sep (pre ++ post) = lines sep pre ++ lines sep post := by
  rcases h with rfl | ⟨p, a, rfl, ha⟩
  · rfl
  · rw [List.append_assoc]
    exact lines_append_sep p post ha

theorem firstLine_append (hq : ∀ a ∈ q, sep a = false) (post : List α) :
    firstLine sep (q ++ post) = q ++ firstLine sep post := by
  simp only [firstLine]
  rw [List.takeWhile_append_of_pos]
  intro a ha
  simp [hq a ha]

theorem afterLine_append (hq : ∀ a ∈ q, sep a = false) (post : List α) :
    afterLine sep (q ++ post) = afterLine sep post := by
  simp only [afterLine, firstLine_append hq, List.length_append, Nat.add_assoc, List.drop_append]
  simp

theorem exists_last_break (pre : List α) : ∃ p q, pre = p ++ q ∧ Breaks sep p ∧ ∀ a ∈ q, sep a = false := by
  induction pre using List.reverseRecOn with
  | nil => exact ⟨[], [], rfl, .inl rfl, by simp⟩
  | append_singleton pre a ih =>
    cases ha : sep a with
    | true => exact ⟨pre ++ [a], [], by simp, .inr ⟨pre, a, rfl, ha⟩, by simp⟩
    | false =>
      obtain ⟨p, q, rfl, hp, hq⟩ := ih
      refine ⟨p, q ++ [a], by simp, hp, ?_⟩
      intro b hb
      rcases List.mem_append.mp hb with hb | hb
      · exact hq b hb
      · rw [List.mem_singleton.mp hb, ha]

/-- A cut that is not at the start of a line goes through one. -/
theorem lines_append_within (h : ¬ Breaks sep pre) (post : List α) :
    ∃ p q, pre = p ++ q ∧ q ≠ [] ∧
      lines sep (pre ++ post) = lines sep p ++ (q ++ firstLine sep post) :: lines sep (afterLine sep post) := by
  obtain ⟨p, q, rfl, hp, hq⟩ := @exists_last_break _ sep pre
  have hne : q ≠ [] := by
    intro hnil
    subst hnil
    exact h (by simpa using hp)
  refine ⟨p, q, rfl, hne, ?_⟩
  have hlines := @lines_eq_firstLine _ sep (q ++ post) (by simp [hne])
  rw [firstLine_append hq, afterLine_append hq] at hlines
  rw [List.append_assoc, lines_append_of_break hp, hlines]

theorem infix_of_mem_lines (h : line ∈ lines sep xs) : line <:+: xs := by
  induction hn : xs.length using Nat.strong_induction_on generalizing xs with
  | _ n ih =>
    subst hn
    by_cases hne : xs = []
    · rw [hne] at h
      cases h
    · rw [lines_eq_firstLine hne] at h
      rcases List.mem_cons.mp h with rfl | h
      · exact (List.takeWhile_prefix _).isInfix
      · have hshort : (afterLine sep xs).length < xs.length := by
          have hpos := List.length_pos_iff.mpr hne
          rw [afterLine, List.length_drop]
          omega
        exact (ih _ hshort h rfl).trans (List.drop_suffix _ xs).isInfix

theorem lines_map {β : Type} (f : β → α) (xs : List β) :
    lines sep (xs.map f) = (lines (fun b => sep (f b)) xs).map (List.map f) := by
  induction xs with
  | nil => rfl
  | cons b rest ih =>
    simp only [List.map_cons, lines, ih]
    by_cases hb : sep (f b) = true
    · simp [hb]
    · cases lines (fun b => sep (f b)) rest <;> simp [hb]

theorem flatten_lines_sublist (xs : List α) : (lines sep xs).flatten.Sublist xs := by
  induction xs with
  | nil => exact List.Sublist.slnil
  | cons a rest ih =>
    simp only [lines]
    cases sep a with
    | true => simpa using ih.cons a
    | false =>
      cases hl : lines sep rest with
      | nil => simp
      | cons line more =>
        rw [hl] at ih
        simpa using ih.cons_cons a

theorem line_unique {other : List α} {a : α} (hnd : xs.Nodup) (hl : line ∈ lines sep xs)
    (ho : other ∈ lines sep xs) (ha : a ∈ line) (hb : a ∈ other) : line = other := by
  have hflat := (@flatten_lines_sublist _ sep xs).nodup hnd
  have hdis := (List.nodup_flatten.mp hflat).2
  have : Std.Symm (List.Disjoint (α := α)) := ⟨fun _ _ hd b hb hb' => hd hb' hb⟩
  by_contra hne
  exact hdis.forall hl ho hne ha hb

end

end Mocktail.Lib
