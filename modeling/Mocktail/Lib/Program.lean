/-
  Mocktail.Lib.Program — programs that act on a state.

  A program reads the state, acts on it by effects and ends with a value or stops. What it
  gives is its result and the list of its effects, so a run that is cut off is a prefix of
  that list. The state after some effects is their fold from the state before.

  Rules:
  - `Emits ok x`: every effect of `x` is in `ok`, from whatever state.
  - `Spends ok p n Q x`: that too, no more than `n` effects of a run are in `p`, and a value
    that `x` ends with is in `Q`.
  - `Ends Q x`: `x` does not stop, and its value is in `Q`.
  - `Gives P x Q`: from a state in `P`, if `x` ends with a value, the value and the state after
    it are in `Q`.
-/

import Mathlib.Data.List.Basic

namespace Mocktail.Lib

def Program {σ ε : Type} (_act : σ → ε → σ) (χ α : Type) : Type := σ → Except χ α × List ε

namespace Program

variable {σ ε χ α β : Type} {act : σ → ε → σ}

instance : Monad (Program act χ) where
  pure a := fun _ => (.ok a, [])
  bind x f := fun s =>
    match x s with
    | (.ok a, log) => ((f a (log.foldl act s)).1, log ++ (f a (log.foldl act s)).2)
    | (.error stop, log) => (.error stop, log)

def emit (e : ε) : Program act χ Unit := fun _ => (.ok (), [e])

/-- Several effects, one after the other. -/
def emitAll (log : List ε) : Program act χ Unit := fun _ => (.ok (), log)

/-- The state. -/
def now : Program act χ σ := fun s => (.ok s, [])

/-- A result that needs no state. -/
def done (r : Except χ α) : Program act χ α := fun _ => (r, [])

/-- The result of a program that may stop, as a value. -/
def caught (x : Program act χ α) : Program act χ (Except χ α) := fun s => (.ok (x s).1, (x s).2)

@[simp] theorem run_pure (a : α) (s : σ) : (pure a : Program act χ α) s = (.ok a, []) := rfl
@[simp] theorem run_emit (e : ε) (s : σ) : (emit e : Program act χ Unit) s = (.ok (), [e]) := rfl
@[simp] theorem run_now (s : σ) : (now : Program act χ σ) s = (.ok s, []) := rfl
@[simp] theorem run_done (r : Except χ α) (s : σ) : (done r : Program act χ α) s = (r, []) := rfl

theorem run_bind (x : Program act χ α) (f : α → Program act χ β) (s : σ) :
    (x >>= f) s = match x s with
      | (.ok a, log) => ((f a (log.foldl act s)).1, log ++ (f a (log.foldl act s)).2)
      | (.error stop, log) => (.error stop, log) := rfl

variable {x : Program act χ α} {f : α → Program act χ β} {a : α}

theorem run_bind_ok {s : σ} {log : List ε} (h : x s = (.ok a, log)) :
    (x >>= f) s = ((f a (log.foldl act s)).1, log ++ (f a (log.foldl act s)).2) := by rw [run_bind, h]

theorem now_bind (f : σ → Program act χ β) (s : σ) : (now >>= f) s = f s s := run_bind_ok (run_now s)

/-! ## The effects of a program -/

def Emits (ok : ε → Prop) (x : Program act χ α) : Prop := ∀ s, ∀ e ∈ (x s).2, ok e

variable {ok : ε → Prop}

theorem Emits.pure (a : α) : Emits ok (pure a : Program act χ α) := fun _ _ he => (List.not_mem_nil he).elim

theorem Emits.now : Emits ok (now : Program act χ σ) := fun _ _ he => (List.not_mem_nil he).elim

theorem Emits.emit {e : ε} (h : ok e) : Emits ok (emit e : Program act χ Unit) := by
  intro s d hd
  rw [List.mem_singleton.mp hd]
  exact h

theorem Emits.bind (hx : Emits ok x) (hf : ∀ a, Emits ok (f a)) :
    Emits ok (x >>= f) := by
  intro s e he
  have hs := hx s
  rw [run_bind] at he
  split at he
  · rename_i a log hrun
    rw [hrun] at hs
    rcases List.mem_append.mp he with he | he
    · exact hs e he
    · exact hf a _ e he
  · rename_i stop log hrun
    rw [hrun] at hs
    exact hs e he

theorem Emits.ite {p : Prop} [Decidable p] {x y : Program act χ α} (hx : Emits ok x) (hy : Emits ok y) :
    Emits ok (if p then x else y) := by
  split
  · exact hx
  · exact hy

/-! ## How many effects of a kind -/

/-- Each effect of `x` is in `ok`, no more than `n` of a run are in `p`, and a value it ends with is in `Q`. -/
structure Spends (ok : ε → Prop) (p : ε → Bool) (n : Nat) (Q : α → Prop) (x : Program act χ α) : Prop where
  emits : Emits ok x
  few : ∀ s, (x s).2.countP p ≤ n
  value : ∀ s a, (x s).1 = .ok a → Q a

section
variable {p : ε → Bool} {n : Nat} {Q : α → Prop}

theorem Spends.pure (h : Q a) : Spends ok p n Q (pure a : Program act χ α) := by
  refine ⟨Emits.pure a, fun _ => Nat.zero_le n, fun s b hb => ?_⟩
  cases hb
  exact h

theorem Spends.now : Spends ok p n (fun _ => True) (now : Program act χ σ) :=
  ⟨Emits.now, fun _ => Nat.zero_le n, fun _ _ _ => trivial⟩

theorem Spends.emitAll {log : List ε} (h : ∀ e ∈ log, ok e) (hfew : log.countP p ≤ n) :
    Spends ok p n (fun _ => True) (emitAll log : Program act χ Unit) :=
  ⟨fun _ => h, fun _ => hfew, fun _ _ _ => trivial⟩

theorem Spends.emit {e : ε} (h : ok e) (hfew : [e].countP p ≤ n) :
    Spends ok p n (fun _ => True) (emit e : Program act χ Unit) :=
  ⟨Emits.emit h, fun _ => hfew, fun _ _ _ => trivial⟩

theorem Spends.bind {m : Nat} {R : β → Prop} (hx : Spends ok p m Q x) (hf : ∀ a, Q a → Spends ok p n R (f a)) :
    Spends ok p (m + n) R (x >>= f) := by
  have hrun (s : σ) : (∀ e ∈ ((x >>= f) s).2, ok e) ∧ ((x >>= f) s).2.countP p ≤ m + n ∧
      ∀ b, ((x >>= f) s).1 = .ok b → R b := by
    obtain ⟨hemits, hfew, hvalue⟩ := hx
    rw [run_bind]
    rcases hs : x s with ⟨stop | a, log⟩
    · refine ⟨?_, ?_, nofun⟩
      · simpa [hs] using hemits s
      · simpa [hs] using Nat.le_add_right_of_le (hfew s)
    · obtain ⟨hemits', hfew', hvalue'⟩ := hf a (hvalue s a (by rw [hs]))
      refine ⟨fun e he => ?_, ?_, hvalue' _⟩
      · rcases List.mem_append.mp he with he | he
        · exact hemits s e (by rw [hs]; exact he)
        · exact hemits' _ e he
      · have hm := hfew s
        rw [hs] at hm
        rw [List.countP_append]
        exact Nat.add_le_add hm (hfew' _)
  exact ⟨fun s => (hrun s).1, fun s => (hrun s).2.1, fun s => (hrun s).2.2⟩

theorem Spends.ite {c : Prop} [Decidable c] {x y : Program act χ α} (hx : Spends ok p n Q x) (hy : Spends ok p n Q y) :
    Spends ok p n Q (if c then x else y) := by
  split
  · exact hx
  · exact hy

theorem Spends.mono {m : Nat} (h : Spends ok p m Q x) (hle : m ≤ n) : Spends ok p n Q x :=
  ⟨h.emits, fun s => Nat.le_trans (h.few s) hle, h.value⟩

end

/-! ## Programs that do not stop -/

def Ends (Q : α → Prop) (x : Program act χ α) : Prop := ∀ s, ∃ a log, x s = (.ok a, log) ∧ Q a

theorem Ends.pure {Q : α → Prop} (h : Q a) : Ends Q (pure a : Program act χ α) := fun _ => ⟨a, [], rfl, h⟩

theorem Ends.emit (e : ε) : Ends (fun _ => True) (emit e : Program act χ Unit) := fun _ => ⟨(), [e], rfl, trivial⟩

theorem Ends.now : Ends (fun _ => True) (now : Program act χ σ) := fun s => ⟨s, [], rfl, trivial⟩

theorem Ends.bind {P : α → Prop} {Q : β → Prop} (hx : Ends P x)
    (hf : ∀ a, P a → Ends Q (f a)) : Ends Q (x >>= f) := by
  intro s
  obtain ⟨a, log, hrun, ha⟩ := hx s
  obtain ⟨b, log', hrun', hb⟩ := hf a ha (log.foldl act s)
  refine ⟨b, log ++ log', ?_, hb⟩
  rw [run_bind_ok hrun, hrun']

theorem Ends.ite {p : Prop} [Decidable p] {x y : Program act χ α} {Q : α → Prop} (hx : Ends Q x) (hy : Ends Q y) :
    Ends Q (if p then x else y) := by
  split
  · exact hx
  · exact hy

/-! ## Values that a program ends with -/

def Gives (P : σ → Prop) (x : Program act χ α) (Q : α → σ → Prop) : Prop :=
  ∀ s, P s → ∀ a, (x s).1 = .ok a → Q a ((x s).2.foldl act s)

section
variable {P : σ → Prop} {Q : α → σ → Prop}

theorem Gives.pure (h : ∀ s, P s → Q a s) : Gives P (pure a : Program act χ α) Q := by
  intro s hp b hb
  cases hb
  exact h s hp

theorem Gives.done {r : Except χ α} (h : ∀ s a, P s → r = .ok a → Q a s) : Gives P (done r : Program act χ α) Q := by
  intro s hp a ha
  exact h s a hp ha

theorem Gives.emit {e : ε} {Q : Unit → σ → Prop} (h : ∀ s, P s → Q () (act s e)) : Gives P (emit e : Program act χ Unit) Q := by
  intro s hp a _
  exact h s hp

theorem Gives.bind {R : α → σ → Prop} {Q : β → σ → Prop} (hx : Gives P x R)
    (hf : ∀ a, Gives (R a) (f a) Q) : Gives P (x >>= f) Q := by
  intro s hp b hb
  have hr := hx s hp
  rw [run_bind] at hb ⊢
  cases hrun : x s with
  | mk r log =>
    rw [hrun] at hb hr
    cases r with
    | ok a =>
      dsimp only at hb ⊢
      rw [List.foldl_append]
      exact hf a _ (hr a rfl) b hb
    | error stop => cases hb

theorem Gives.now_bind {f : σ → Program act χ α} (h : ∀ s, P s → Gives (· = s) (f s) Q) : Gives P (now >>= f) Q := by
  intro s hp a ha
  rw [Program.now_bind] at ha ⊢
  exact h s hp s rfl a ha

theorem Gives.ite {p : Prop} [Decidable p] {x y : Program act χ α} (hx : p → Gives P x Q) (hy : ¬p → Gives P y Q) :
    Gives P (if p then x else y) Q := by
  split
  · rename_i hp
    exact hx hp
  · rename_i hp
    exact hy hp

theorem Gives.mono {P' : σ → Prop} {Q' : α → σ → Prop} (h : Gives P x Q) (hp : ∀ s, P' s → P s)
    (hq : ∀ a s, Q a s → Q' a s) : Gives P' x Q' :=
  fun s hp' a ha => hq _ _ (h s (hp s hp') a ha)

end

end Program

end Mocktail.Lib
