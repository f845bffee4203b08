/-
  Mocktail.Lib.Interrupts — programs that may be cut off between any two effects.

  A program that is interrupted has done a prefix of its effects, so what must survive an
  interruption has to hold of every state on the way. `Along C s log` says that each effect of
  `log` meets `C` in the state it is made in: what the surroundings answer, say.

  Rules:
  - `Survives C I P x Q`: from a state in `P`, where the effects of `x` all meet `C`, `I` holds
    of every state on the way and `Q` of the value and the state at the end.
  - `Survives.cut`: so `I` holds wherever the program is cut off.
-/

import Mocktail.Lib.Program

namespace Mocktail.Lib

namespace Program

variable {σ ε χ α β : Type} (act : σ → ε → σ)

/-- Each effect meets `C` in the state it is made in. -/
def Along (C : σ → ε → Prop) : σ → List ε → Prop
  | _, [] => True
  | s, e :: log => C s e ∧ Along C (act s e) log

/-- Every state on the way is in `I`, as long as the effects before it met `C`. -/
def Throughout (C : σ → ε → Prop) (I : σ → Prop) : σ → List ε → Prop
  | s, [] => I s
  | s, e :: log => I s ∧ (C s e → Throughout C I (act s e) log)

variable {act} {C : σ → ε → Prop} {I : σ → Prop} {s : σ}

theorem along_append {log more : List ε} :
    Along act C s (log ++ more) ↔ Along act C s log ∧ Along act C (log.foldl act s) more := by
  induction log generalizing s with
  | nil => simp [Along]
  | cons e log ih => simp only [List.cons_append, Along, ih, List.foldl_cons, and_assoc]

variable {log : List ε}

theorem Along.and {C' : σ → ε → Prop} (h : Along act C s log) (h' : Along act C' s log) :
    Along act (fun s e => C s e ∧ C' s e) s log := by
  induction log generalizing s with
  | nil => trivial
  | cons e log ih => exact ⟨⟨h.1, h'.1⟩, ih h.2 h'.2⟩

theorem throughout_append {log more : List ε} (h : Throughout act C I s log)
    (hmore : Along act C s log → Throughout act C I (log.foldl act s) more) : Throughout act C I s (log ++ more) := by
  induction log generalizing s with
  | nil => exact hmore trivial
  | cons e log ih => exact ⟨h.1, fun hc => ih (h.2 hc) fun hlog => hmore ⟨hc, hlog⟩⟩

theorem Throughout.take (h : Throughout act C I s log) (k : Nat)
    (hc : Along act C s (log.take k)) : I ((log.take k).foldl act s) := by
  induction log generalizing s k with
  | nil =>
    rw [List.take_nil]
    exact h
  | cons e log ih =>
    cases k with
    | zero => exact h.1
    | succ k => exact ih (h.2 hc.1) k hc.2

/-! ## Programs -/

def Survives (C : σ → ε → Prop) (I : σ → Prop) (P : σ → Prop) (x : Program act χ α) (Q : α → σ → Prop) : Prop :=
  ∀ s, P s → Throughout act C I s (x s).2 ∧
    ∀ a, (x s).1 = .ok a → Along act C s (x s).2 → Q a ((x s).2.foldl act s)

variable {P : σ → Prop} {Q : α → σ → Prop}

theorem Survives.pure {a : α} (h : ∀ s, P s → I s ∧ Q a s) : Survives C I P (pure a : Program act χ α) Q := by
  intro s hp
  refine ⟨(h s hp).1, ?_⟩
  intro b hb _
  obtain rfl : a = b := by simpa using hb
  exact (h s hp).2

theorem Survives.emit {e : ε} {Q : Unit → σ → Prop} (h : ∀ s, P s → I s ∧ (C s e → I (act s e) ∧ Q () (act s e))) :
    Survives C I P (emit e : Program act χ Unit) Q := by
  intro s hp
  obtain ⟨hi, hafter⟩ := h s hp
  exact ⟨⟨hi, fun hc => (hafter hc).1⟩, fun _ _ hc => (hafter hc.1).2⟩

theorem Survives.emitAll {Q : Unit → σ → Prop}
    (h : ∀ s, P s → Throughout act C I s log ∧ (Along act C s log → Q () (log.foldl act s))) :
    Survives C I P (emitAll log : Program act χ Unit) Q := by
  intro s hp
  exact ⟨(h s hp).1, fun _ _ hc => (h s hp).2 hc⟩

theorem Survives.now {Q : σ → σ → Prop} (h : ∀ s, P s → I s ∧ Q s s) : Survives C I P (now : Program act χ σ) Q := by
  intro s hp
  refine ⟨(h s hp).1, ?_⟩
  intro a ha _
  obtain rfl : s = a := by simpa using ha
  exact (h s hp).2

variable {x : Program act χ α}

theorem Survives.bind {f : α → Program act χ β} {R : α → σ → Prop} {Q : β → σ → Prop}
    (hx : Survives C I P x R) (hf : ∀ a, Survives C I (R a) (f a) Q) : Survives C I P (x >>= f) Q := by
  intro s hp
  have hrun := hx s hp
  rw [run_bind]
  split
  · rename_i a log heq
    rw [heq] at hrun
    obtain ⟨hi, hr⟩ := hrun
    constructor
    · exact throughout_append hi fun hc => (hf a _ (hr a rfl hc)).1
    · intro b hb hc
      obtain ⟨hc1, hc2⟩ := along_append.mp hc
      rw [List.foldl_append]
      exact (hf a _ (hr a rfl hc1)).2 b hb hc2
  · rename_i stop log heq
    rw [heq] at hrun
    refine ⟨hrun.1, ?_⟩
    intro b hb
    cases hb

theorem Survives.ite {p : Prop} [Decidable p] {x y : Program act χ α} (hx : p → Survives C I P x Q)
    (hy : ¬p → Survives C I P y Q) : Survives C I P (if p then x else y) Q := by
  split
  · rename_i hp
    exact hx hp
  · rename_i hp
    exact hy hp

theorem Survives.mono {P' : σ → Prop} {Q' : α → σ → Prop} (h : Survives C I P x Q)
    (hp : ∀ s, P' s → P s) (hq : ∀ a s, Q a s → Q' a s) : Survives C I P' x Q' := by
  intro s hs
  obtain ⟨hi, hend⟩ := h s (hp s hs)
  exact ⟨hi, fun a ha hc => hq a _ (hend a ha hc)⟩

theorem Survives.cut (h : Survives C I P x Q) (hp : P s) (k : Nat)
    (hc : Along act C s ((x s).2.take k)) : I (((x s).2.take k).foldl act s) :=
  (h s hp).1.take k hc

end Program

end Mocktail.Lib
