/-
  Mocktail.Lib.Trace — machines with output and properties of their traces.

  A machine takes an input to a new state and a list of observations. `run` folds it over
  a list of inputs and keeps the whole trace beside the state, so an invariant may speak
  of both. `Always P t` says that every observation of `t` satisfies `P` given the
  observations before it: precedence, at-most-once and never-after are instances.

  Rules:
  - `run_induct`: an invariant of state and trace, kept by every step, holds of every run.
  - `run_induct_guarded`: the same for the runs whose inputs all meet a condition on the
    state and the trace before them (`Guarded`).
  - `always_append` / `always_snoc`: how `Always` grows with the trace.
  - `Occurs`: some earlier observation satisfies a decidable test.
-/

import Mathlib.Data.List.Induction

namespace Mocktail.Lib

/-! ## Machines and runs -/

structure Machine (σ ε ο : Type) where
  step : σ → ε → σ × List ο

namespace Machine

variable {σ ε ο : Type} (M : Machine σ ε ο)

def exec (c : σ × List ο) (e : ε) : σ × List ο := ((M.step c.1 e).1, c.2 ++ (M.step c.1 e).2)

def run (s : σ) (es : List ε) : σ × List ο := es.foldl M.exec (s, [])

@[simp] theorem run_nil (s : σ) : M.run s [] = (s, []) := rfl

theorem run_snoc (s : σ) (es : List ε) (e : ε) : M.run s (es ++ [e]) = M.exec (M.run s es) e := by
  simp [run]

theorem run_append (s : σ) (es fs : List ε) :
    M.run s (es ++ fs) = ((M.run (M.run s es).1 fs).1, (M.run s es).2 ++ (M.run (M.run s es).1 fs).2) := by
  induction fs using List.reverseRecOn with
  | nil => simp
  | append_singleton fs e ih => rw [← List.append_assoc, run_snoc, ih, run_snoc]; simp [exec]

/-- Every input of the run meets `C` at the state and the trace before it. -/
def Guarded (C : σ → List ο → ε → Prop) (s : σ) (es : List ε) : Prop :=
  ∀ pre e post, es = pre ++ e :: post → C (M.run s pre).1 (M.run s pre).2 e

variable {C : σ → List ο → ε → Prop} {es : List ε} {s : σ}

theorem guarded_snoc {e : ε}
    (h : M.Guarded C s (es ++ [e])) : M.Guarded C s es ∧ C (M.run s es).1 (M.run s es).2 e :=
  ⟨fun pre a post hp => h pre a (post ++ [e]) (by rw [hp]; simp), h es e [] rfl⟩

theorem guarded_concat {e : ε} (h : M.Guarded C s es)
    (he : C (M.run s es).1 (M.run s es).2 e) : M.Guarded C s (es ++ [e]) := by
  intro pre a post hp
  rcases List.eq_nil_or_concat post with rfl | ⟨post', b, rfl⟩
  · obtain ⟨rfl, rfl⟩ : es = pre ∧ e = a := by simpa using hp
    exact he
  · have hp : es ++ [e] = (pre ++ a :: post') ++ [b] := by simpa using hp
    exact h pre a post' (List.append_inj_left' hp rfl)

/-- A run in two parts, where the condition does not look at the trace. -/
theorem guarded_append {C : σ → ε → Prop} {es fs : List ε} (h : M.Guarded (fun s _ e => C s e) s (es ++ fs)) :
    M.Guarded (fun s _ e => C s e) s es ∧ M.Guarded (fun s _ e => C s e) (M.run s es).1 fs := by
  refine ⟨fun pre e post hp => h pre e (post ++ fs) (by rw [hp]; simp), fun pre e post hp => ?_⟩
  have hc := h (es ++ pre) e post (by rw [hp]; simp)
  rw [run_append] at hc
  exact hc

theorem guarded_iff_take :
    M.Guarded C s es ↔ ∀ i, ∀ h : i < es.length, C (M.run s (es.take i)).1 (M.run s (es.take i)).2 (es.get ⟨i, h⟩) := by
  constructor
  · intro hg i h
    exact hg (es.take i) (es.get ⟨i, h⟩) (es.drop (i + 1)) (by simp)
  · intro hg pre e post hp
    subst hp
    simpa using hg pre.length (by simp)

instance {C : σ → List ο → ε → Prop} [∀ s t e, Decidable (C s t e)] (s : σ) (es : List ε) :
    Decidable (M.Guarded C s es) :=
  decidable_of_iff _ M.guarded_iff_take.symm

theorem run_induct_guarded {I : σ → List ο → Prop} (h0 : I s [])
    (hs : ∀ s t e, I s t → C s t e → I (M.step s e).1 (t ++ (M.step s e).2)) (es : List ε)
    (hg : M.Guarded C s es) : I (M.run s es).1 (M.run s es).2 := by
  induction es using List.reverseRecOn with
  | nil => exact h0
  | append_singleton es e ih =>
    obtain ⟨hpre, he⟩ := M.guarded_snoc hg
    rw [run_snoc]
    exact hs _ _ e (ih hpre) he

theorem run_induct {I : σ → List ο → Prop} (h0 : I s [])
    (hs : ∀ s t e, I s t → I (M.step s e).1 (t ++ (M.step s e).2)) (es : List ε) :
    I (M.run s es).1 (M.run s es).2 :=
  M.run_induct_guarded (C := fun _ _ _ => True) h0 (fun s t e h _ => hs s t e h) es (fun _ _ _ _ => trivial)

end Machine

/-! ## Traces -/

variable {ο : Type}

/-- Every observation satisfies `P`, given the observations before it. -/
def Always (P : List ο → ο → Prop) (t : List ο) : Prop := ∀ pre a post, t = pre ++ a :: post → P pre a

@[simp] theorem always_nil (P : List ο → ο → Prop) : Always P [] := by
  intro pre a post h; simp at h

variable {P : List ο → ο → Prop}

theorem always_append {t u : List ο} :
    Always P (t ++ u) ↔ Always P t ∧ Always (fun pre a => P (t ++ pre) a) u := by
  constructor
  · intro h
    exact ⟨fun pre a post hp => h pre a (post ++ u) (by rw [hp]; simp),
      fun pre a post hp => h (t ++ pre) a post (by rw [hp]; simp)⟩
  · intro hex pre a post hp
    obtain ⟨ht, hu⟩ := hex
    rcases List.append_eq_append_iff.mp hp with ⟨w, rfl, hw⟩ | ⟨w, hw, hq⟩
    · exact hu w a post hw
    · cases w with
      | nil => simp only [List.append_nil] at hw; subst hw; simpa using hu [] a post (by simpa using hq.symm)
      | cons b w =>
        obtain ⟨rfl, rfl⟩ : a = b ∧ post = w ++ u := by simpa using hq
        exact ht pre a w hw

theorem always_snoc {t : List ο} {a : ο} : Always P (t ++ [a]) ↔ Always P t ∧ P t a := by
  rw [always_append]
  refine and_congr_right fun _ => ⟨fun h => by simpa using h [] a [] rfl, fun h pre b post hp => ?_⟩
  cases pre with
  | nil => obtain ⟨rfl, -⟩ : a = b ∧ _ := by simpa using hp
           simpa using h
  | cons c pre => simp at hp

def Occurs (p : ο → Bool) (t : List ο) : Prop := ∃ a ∈ t, p a = true

instance (p : ο → Bool) (t : List ο) : Decidable (Occurs p t) := inferInstanceAs (Decidable (∃ a ∈ t, p a = true))

theorem always_iff_take {t : List ο} :
    Always P t ↔ ∀ i, ∀ h : i < t.length, P (t.take i) (t.get ⟨i, h⟩) := by
  constructor
  · intro hg i h
    exact hg (t.take i) (t.get ⟨i, h⟩) (t.drop (i + 1)) (by simp)
  · intro hg pre e post hp
    subst hp
    simpa using hg pre.length (by simp)

instance {P : List ο → ο → Prop} [∀ pre a, Decidable (P pre a)] (t : List ο) : Decidable (Always P t) :=
  decidable_of_iff _ always_iff_take.symm

@[simp] theorem occurs_nil (p : ο → Bool) : ¬ Occurs p [] := by simp [Occurs]

@[simp] theorem occurs_append (p : ο → Bool) (t u : List ο) : Occurs p (t ++ u) ↔ Occurs p t ∨ Occurs p u := by
  simp [Occurs, or_and_right, exists_or]

@[simp] theorem occurs_cons (p : ο → Bool) (a : ο) (t : List ο) : Occurs p (a :: t) ↔ p a = true ∨ Occurs p t := by
  simp [Occurs]

end Mocktail.Lib
