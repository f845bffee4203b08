/-
  Mocktail.Session.Surfaces — the surfaces the coordinator holds and hands out.

  `QuiescentInv` is what a caller may rely on between two methods. `Opened t g` reads the
  trace: `g` is the generation of the latest successful foreground call and was not
  destroyed since. Every surface passed to a capability has an opened generation.
-/

import Mocktail.Session.Protocol
import Mocktail.Session.Freshness

namespace Mocktail.Session

open Mocktail.Lib

structure QuiescentInv (c : Coordinator) : Prop where
  running : c.state = .running → c.initialStartCompleted = true ∧ c.activeSurfaceAvailable = true ∧
    c.surfaceCreated = true ∧ c.preparedSurfaceGeneration = c.activeSurface.generation ∧ c.gamePaused = false ∧
    c.pendingSurfaceAvailable = false
  paused : c.state = .paused → c.initialStartCompleted = true ∧ c.gamePaused = true ∧
    c.activeSurfaceAvailable = false ∧ c.pendingSurfaceAvailable = false
  preStart : c.initialStartCompleted = false → c.isForwardTerminalLocked = false → c.pendingSurfaceAvailable = true →
    c.surfaceCreated = true ∧ c.pendingSurface.generation = c.preparedSurfaceGeneration

theorem quiescent_inv {s : Sys} (h : Inv s) (hq : s.Quiescent) : QuiescentInv s.c := by
  have hph : Phase s.c := h.phase
  refine ⟨fun hs => ?_, fun hs => ?_, fun hi ht hp => ?_⟩
  · simp only [Phase, hs] at hph
    obtain ⟨hpl, hpd⟩ := hph
    exact ⟨hpl.started, hpl.active, hpl.created, hpl.prepared, hpl.notPaused, hpd⟩
  · simp only [Phase, hs] at hph
    obtain ⟨hha, hpd⟩ := hph
    exact ⟨hha.started, hha.paused, hha.noActive, hpd⟩
  · exact ((quiet_phase (h.quiet hq) hph ht).1 hi).1.pending hp

/-! ## Opened generations -/

def Call.surface? : Call → Option GameSurface
  | .startGame _ _ s => some s
  | .updateSurface s => some s
  | .resumeGame s => some s
  | _ => none

attribute [local simp] Frame.call Call.surface?

def Obs.passed? : Obs → Option GameSurface
  | .call _ k => k.surface?
  | _ => none

def Opened (t : List Obs) (g : Nat) : Prop :=
  ∃ p q st, t = p ++ Obs.ret (.surfaceCreated g) .setGameForeground st :: q ∧ st.ok = true ∧
    ¬ Occurs (Obs.succeeded .setGameForeground) q ∧ ¬ Occurs (Obs.destroyed g) q

theorem opened_ret (t : List Obs) (g : Nat) {st : Status} (h : st.ok = true) :
    Opened (t ++ [Obs.ret (.surfaceCreated g) .setGameForeground st]) g :=
  ⟨t, [], st, rfl, h, occurs_nil _, occurs_nil _⟩

variable {t : List Obs} {a : Obs}

theorem opened_snoc {g : Nat} (h : Opened t g)
    (hs : a.succeeded .setGameForeground = false) (hd : a.destroyed g = false) : Opened (t ++ [a]) g := by
  obtain ⟨p, q, st, rfl, hst, hq, hg⟩ := h
  exact ⟨p, q ++ [a], st, by simp, hst, by simp [hq, hs], by simp [hg, hd]⟩

/-- The prepared generation is open. -/
def Prepared (c : Coordinator) (t : List Obs) : Prop := c.surfaceCreated = true → Opened t c.preparedSurfaceGeneration

variable {c c' : Coordinator}

theorem prepared_snoc (h : Prepared c t)
    (hc : c'.surfaceCreated = true → c.surfaceCreated = true ∧ c'.preparedSurfaceGeneration = c.preparedSurfaceGeneration)
    (hs : a.succeeded .setGameForeground = false)
    (hd : c'.surfaceCreated = true → a.destroyed c'.preparedSurfaceGeneration = false) : Prepared c' (t ++ [a]) := by
  intro hc'
  have hd := hd hc'
  obtain ⟨hcr, hg⟩ := hc hc'
  rw [hg] at hd ⊢
  exact opened_snoc (h hcr) hs hd

/-- A step that leaves the created surface as it is. -/
theorem Prepared.keep (h : Prepared c t) (hd : ∀ g, a.destroyed g = false)
    (hs : a.succeeded .setGameForeground = false) (hc : c'.surfaceCreated = c.surfaceCreated)
    (hg : c'.preparedSurfaceGeneration = c.preparedSurfaceGeneration) : Prepared c' (t ++ [a]) :=
  prepared_snoc h (fun h' => ⟨hc ▸ h', hg⟩) hs fun _ => hd _

variable {o : Op}

/-- A result of anything but a completed destruction keeps the prepared generation open. -/
theorem undestroyed {r : UpdateResult} (h : (∀ g, o ≠ .surfaceDestroyed g) ∨ r.changed = false) (g : Nat) :
    (Obs.result o r).destroyed g = false := by
  cases hd : (Obs.result o r).destroyed g with
  | false => rfl
  | true =>
    obtain ⟨ho, hr⟩ := destroyed_op hd
    rcases h with h | h
    · exact absurd ho (h g)
    · rw [h] at hr; cases hr

theorem changes_ne (h : o.changes = true) (g : Nat) : o ≠ .surfaceDestroyed g := by
  intro e; rw [e] at h; cases h

variable (cfg : Config) {out : Coordinator × UpdateResult}

theorem done_prepared
    (h : Prepared c t) (hb : Begins cfg c o (.done out)) : Prepared out.1 (t ++ [Obs.result o out.2]) := by
  generalize ht : Turn.done out = t at hb
  cases hb with
  | idle o r hn =>
    cases ht
    exact h.keep (undestroyed (Or.inr (by simpa [UpdateResult.changed]))) rfl rfl rfl
  | fails o cause m => cases ht; exact h.keep (undestroyed (Or.inr rfl)) rfl rfl rfl
  | joinFails r cause m hn =>
    cases ht; exact h.keep (fun _ => rfl) rfl rfl rfl
  | principal p m hs hp hk => cases ht; exact h.keep (fun _ => rfl) rfl rfl rfl
  | joined r m hn hp hj hs => cases ht; exact h.keep (fun _ => rfl) rfl rfl rfl
  | candidate o s m hn hp hv hc hg hi hj hch =>
    cases ht
    exact h.keep (undestroyed (Or.inl (changes_ne hch))) rfl rfl rfl
  | unused g m hn hg hi hm => cases ht; intro hc; cases hc
  | _ => cases ht

/-- A call keeps the prepared generation, and the surface it passes has it. -/
theorem call_prepared {f : Frame} (hv : Inv ⟨c, none⟩) (h : Prepared c t)
    (hb : Begins cfg c o (.call c' f)) :
    Prepared c' (t ++ [Obs.call o f.call]) ∧ ∀ s, f.call.surface? = some s → Opened t s.generation := by
  generalize ht : Turn.call c' f = t' at hb
  cases hb with
  | joinStarts r m hn hp hj hs hc hi =>
    cases ht
    refine ⟨h.keep (fun _ => rfl) rfl rfl rfl, ?_⟩
    intro s hs'
    obtain rfl : c.pendingSurface = s := by simpa using hs'
    rw [((((quiet_phase (hv.quiet rfl) hv.phase hn).1 hi).1).pending hs).2]
    exact h hc
  | creates g hn hp hg hi hc | leaves hr hi hs | stops hs ha =>
    cases ht
    exact ⟨h.keep (fun _ => rfl) rfl rfl rfl, fun s hs' => by simp at hs'⟩
  | changeStarts o s m hn hp hv hc hg hi hj | resumes o s hp hv hc hg hi hs | updates o s hp hv hc hg hi hs =>
    cases ht
    refine ⟨h.keep (fun _ => rfl) rfl rfl rfl, ?_⟩
    intro s' hs'
    obtain rfl : s = s' := by simpa using hs'
    rw [hg]; exact h hc
  | pauses g hg hi hs ha hga =>
    cases ht
    exact ⟨fun hc => (by cases hc), fun s hs' => by simp at hs'⟩
  | _ => cases ht

theorem ret_prepared {f : Frame} {st : Status}
    (hv : Inv ⟨c, some (o, f)⟩) (h : Prepared c t) (hf : Finishes c f st out) :
    Prepared out.1 (t ++ [Obs.ret o f.call st] ++ [Obs.result o out.2]) := by
  have hfr : FrameInv c o f := hv.frame o f rfl
  cases hf with
  | failed f st m hk hst | dropped f st m hk hst =>
    have hs : (Obs.ret o f.call st).succeeded .setGameForeground = false := by simp [Obs.succeeded, hst]
    have h' : Prepared c (t ++ [Obs.ret o f.call st]) := h.keep (fun _ => rfl) hs rfl rfl
    exact h'.keep (undestroyed (Or.inr rfl)) rfl rfl rfl
  | created g st m hst =>
    obtain ⟨-, rfl, -⟩ := hfr
    intro _
    exact opened_snoc (opened_ret t g hst) rfl rfl
  | started p r s a m st hst =>
    have h' : Prepared c (t ++ [Obs.ret o (.startGame p r s) st]) := h.keep (fun _ => rfl) rfl rfl rfl
    rw [commit_eq]
    refine h'.keep (undestroyed (Or.inl fun g => ?_)) rfl rfl rfl
    rcases hfr.2.2 with hch | ⟨r, rfl⟩
    · exact changes_ne hch g
    · simp
  | resumed s m st hst =>
    have h' : Prepared c (t ++ [Obs.ret o (.resumeGame s) st]) := h.keep (fun _ => rfl) rfl rfl rfl
    rw [commit_eq]
    exact h'.keep (undestroyed (Or.inl (changes_ne hfr.2.2))) rfl rfl rfl
  | updated s m st hst =>
    have h' : Prepared c (t ++ [Obs.ret o (.updateSurface s) st]) := h.keep (fun _ => rfl) rfl rfl rfl
    rw [commit_eq]
    exact h'.keep (undestroyed (Or.inl (changes_ne hfr.2.2))) rfl rfl rfl
  | paused m st hst =>
    have hph : Phase c := hv.phase
    simp only [Phase, hfr.1] at hph
    intro hc
    rw [show c.surfaceCreated = true from hc] at hph
    cases hph.2.2.2.1
  | left m st hst => intro hc; cases hc
  | stopped m st hst => intro hc; cases hc

/-- Every surface handed to a capability has an opened generation. -/
def PassesOpened (t : List Obs) : Prop := Always (fun pre a => ∀ s, a.passed? = some s → Opened pre s.generation) t

theorem passes_skip (h : PassesOpened t) (ha : a.passed? = none) : PassesOpened (t ++ [a]) :=
  always_snoc.mpr ⟨h, fun s hs => by rw [ha] at hs; cases hs⟩

theorem run_passes (es : List Ev) : PassesOpened ((sys cfg).run fresh es).2 := by
  refine (reach_rule cfg (I := fun s t => PassesOpened t ∧ Prepared s.c t) ⟨always_nil _, fun hc => by cases hc⟩
    ?_ ?_ ?_ ?_ es).1
  · intro c o out t hv h hb
    exact ⟨passes_skip h.1 rfl, done_prepared cfg h.2 hb⟩
  · intro c c' o f t hv h hb
    obtain ⟨hp, hs⟩ := call_prepared cfg hv h.2 hb
    exact ⟨always_snoc.mpr ⟨h.1, hs⟩, hp⟩
  · intro c o f st out t hv h hf
    exact ⟨passes_skip (passes_skip h.1 rfl) rfl, ret_prepared hv h.2 hf⟩
  · intro c r e out t hv h hr
    refine ⟨passes_skip h.1 rfl, prepared_snoc h.2 (fun hc => ?_) rfl fun _ => rfl⟩
    cases hr <;> exact ⟨hc, rfl⟩

theorem quiescent_surfaces (es : List Ev) :
    (((sys cfg).run fresh es).1.Quiescent → QuiescentInv ((sys cfg).run fresh es).1.c) ∧
      PassesOpened ((sys cfg).run fresh es).2 :=
  ⟨quiescent_inv (reach_inv cfg es), run_passes cfg es⟩

end Mocktail.Session
