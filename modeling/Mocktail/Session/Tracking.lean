/-
  Mocktail.Session.Tracking — the coordinator follows a window surface.

  With every capability returning ok, a lifecycle method is one step (`settle`). `Tracks`
  relates a started game to the stage of the window surface it renders to, and
  `tracks_next` is the simulation: whatever event the stage allows next, the method it is
  forwarded to is accepted and leads to the next stage.
-/

import Mocktail.Session.Invariant
import Mocktail.Window.SurfaceLifecycle

namespace Mocktail.Session

open Mocktail.Window

variable (cfg : Config)

/-- A lifecycle method whose capability, if it calls one, returns ok. -/
def settle (c : Coordinator) (o : Op) : Coordinator × UpdateResult :=
  match begin cfg c o with
  | .done out => out
  | .call c' f => finish c' f Status.okStatus

def gameSurface (s : WindowSurfaceSnapshot) : GameSurface := ⟨s.generation, s.nativeWindow, s.width, s.height, s.dpiScale⟩

/-- The method an event is forwarded to; `force` chooses `RebindSurface` over `SurfaceChanged`. -/
def surfaceOp (force : Bool) (e : WindowSurfaceEvent) : Op :=
  match e.type with
  | .created => .surfaceCreated e.surface.generation
  | .changed => if force then .rebindSurface (gameSurface e.surface) else .surfaceChanged (gameSurface e.surface)
  | .destroyed => .surfaceDestroyed e.surface.generation

def Tracks (c : Coordinator) : Stage → Prop
  | .shown s => c.state = .running ∧ Play c ∧ c.pendingSurfaceAvailable = false ∧ c.activeSurface = gameSurface s ∧
      s.generation ≠ 0
  | .made s => c.state = .paused ∧ Halt c ∧ c.pendingSurfaceAvailable = false ∧ c.surfaceCreated = true ∧
      c.preparedSurfaceGeneration = s.generation ∧ s.generation ≠ 0
  | .gone g => c.state = .paused ∧ Halt c ∧ c.pendingSurfaceAvailable = false ∧ c.surfaceCreated = false ∧
      c.activeSurface.generation = g ∧ c.lastDestroyedSurfaceGeneration = g ∧ g ≠ 0

variable {g : Nat}

theorem carries_valid {s : WindowSurfaceSnapshot} (h : Stage.carries s g = true) (hg : g ≠ 0) :
    s.generation = g ∧ validSurface (gameSurface s) = true ∧ s.dpiScale.gtZero = true := by
  simp only [Stage.carries, validAvailableSurface, Bool.and_eq_true, beq_iff_eq, bne_iff_ne] at h
  obtain ⟨⟨h1, -⟩, ⟨⟨h2, h3⟩, h4⟩, h5⟩ := h
  refine ⟨h1, ?_, h5⟩
  have h3 : 160 ≤ s.width := of_decide_eq_true h3
  have h4 : 120 ≤ s.height := of_decide_eq_true h4
  have hw : s.width ≠ 0 := by omega
  have hh : s.height ≠ 0 := by omega
  simp [validSurface, gameSurface, h1, hg, h2, hw, hh]

/-- Equal positive scales have equal bits, so `SameSurface` is equality on usable surfaces. -/
theorem same_eq {a : GameSurface} {s : WindowSurfaceSnapshot} (hd : s.dpiScale.gtZero = true)
    (h : sameSurface a (gameSurface s) = true) : a = gameSurface s := by
  obtain ⟨g, n, w, ht, d⟩ := a
  simp only [sameSurface, gameSurface, Bool.and_eq_true, beq_iff_eq] at h
  obtain ⟨⟨⟨⟨h1, h2⟩, h3⟩, h4⟩, h5⟩ := h
  simp only [F32.gtZero, Bool.and_eq_true, bne_iff_ne] at hd
  simp only [F32.feq, Bool.and_eq_true, Bool.or_eq_true, beq_iff_eq] at h5
  have hb : d.bits = s.dpiScale.bits := by
    rcases h5.2 with hb | hb
    · exact hb
    · exact absurd hb.2 hd.2
  have hdd : d = s.dpiScale := by cases d; cases hs : s.dpiScale; simp_all
  simp [gameSurface, h1, h2, h3, h4, hdd]

/-! ## The methods a tracked game receives -/

variable {c : Coordinator}

theorem settle_update (hs : c.state = .running) (hp : Play c) {v : GameSurface} {force : Bool}
    (hv : validSurface v = true) (hg : v.generation = c.preparedSurfaceGeneration)
    (hf : force = false → sameSurface c.activeSurface v = false) :
    updateSurface c v force = .call (({ c with pendingSurface := v,
                                               pendingSurfaceAvailable := true }.discardPendingPresentLocked).enter
      .updatingSurface) (.updating v) := by
  have ht := not_terminal (c := c) (by simp [hs])
  have hd : (!force && c.activeSurfaceAvailable && sameSurface c.activeSurface v) = false := by
    cases force with
    | true => rfl
    | false => simp [hf rfl]
  unfold updateSurface
  rw [if_neg (by simp [ht]), if_neg (by simp [hp.principal]), if_neg (by simp [hv]), if_neg (by simp [hp.created, hg]),
    if_neg (by simp [hp.started]), if_neg (by simp [hs]), if_neg (by simp [hs]), if_neg (by simp [hd])]

theorem settle_resume (hs : c.state = .paused) (hp : Halt c) (hc : c.surfaceCreated = true)
    {v : GameSurface} (force : Bool) (hv : validSurface v = true) (hg : v.generation = c.preparedSurfaceGeneration) :
    updateSurface c v force = .call (({ c with pendingSurface := v,
                                               pendingSurfaceAvailable := true }.discardPendingPresentLocked).enter
      .resuming) (.resuming v) := by
  have ht := not_terminal (c := c) (by simp [hs])
  unfold updateSurface
  rw [if_neg (by simp [ht]), if_neg (by simp [hp.principal]), if_neg (by simp [hv]), if_neg (by simp [hc, hg]),
    if_neg (by simp [hp.started]), if_pos (by simp [hs])]

theorem settle_create (hs : c.state = .paused) (hp : Halt c) (hc : c.surfaceCreated = false)
    (hg : g ≠ 0) (ha : g ≠ c.activeSurface.generation) (hl : g ≠ c.lastDestroyedSurfaceGeneration) :
    surfaceCreated c g = .call (c.enter .preparingSurface) (.creating g) := by
  have ht := not_terminal (c := c) (by simp [hs])
  unfold surfaceCreated
  rw [if_neg (by simp [hc]), if_neg (by simp [ht]), if_neg (by simp [hp.principal]), if_neg (by simp [hg]),
    if_neg (by simp [hs]), if_neg (by simp [ha, hl]), if_neg (by simp [hc])]

theorem settle_destroy (hs : c.state = .running) (hp : Play c) (hg : g ≠ 0)
    (ha : g = c.activeSurface.generation) :
    surfaceDestroyed c g = .call (({ c with activeSurfaceAvailable := false }.forgetSurface g).enter .pausing) .pausing := by
  have ht := not_terminal (c := c) (by simp [hs])
  unfold surfaceDestroyed
  rw [if_neg (by simp [hp.created]), if_neg (by simp [ht]), if_neg (by simp [hg]), if_neg (by simp [hp.started]),
    if_neg (by simp [hs, hp.active]), if_neg (by simp [ha])]

/-! ## The simulation -/

theorem tracks_change {s s' : WindowSurfaceSnapshot} (h : Tracks c (.shown s)) (force : Bool)
    (hc : Stage.carries s' s.generation = true) :
    Tracks (settle cfg c (surfaceOp force ⟨.changed, s'⟩)).1 (.shown s') ∧
      (settle cfg c (surfaceOp force ⟨.changed, s'⟩)).2.ok = true := by
  obtain ⟨hs, hp, hpd, ha, hg⟩ := h
  obtain ⟨hg', hv, hd⟩ := carries_valid hc hg
  have hgp : (gameSurface s').generation = c.preparedSurfaceGeneration := by rw [hp.prepared, ha]; exact hg'
  have hbegin : begin cfg c (surfaceOp force ⟨.changed, s'⟩) = updateSurface c (gameSurface s') force := by
    cases force <;> rfl
  by_cases hsame : force = false ∧ sameSurface c.activeSurface (gameSurface s') = true
  · -- an unchanged surface is a duplicate
    have he := same_eq hd hsame.2
    have ht := not_terminal (c := c) (by simp [hs])
    have hup : updateSurface c (gameSurface s') force = .done (c.duplicateLocked "running game surface already current") := by
      unfold updateSurface
      rw [if_neg (by simp [ht]), if_neg (by simp [hp.principal]), if_neg (by simp [hv]), if_neg (by simp [hp.created, hgp]),
        if_neg (by simp [hp.started]), if_neg (by simp [hs]), if_neg (by simp [hs]),
        if_pos (by simp [hsame.1, hsame.2, hp.active])]
    simp only [settle, hbegin, hup]
    exact ⟨⟨hs, hp, hpd, he, hg' ▸ hg⟩, rfl⟩
  · have hne : force = false → sameSurface c.activeSurface (gameSurface s') = false := by
      intro hf
      cases hh : sameSurface c.activeSurface (gameSurface s') with
      | false => rfl
      | true => exact absurd ⟨hf, hh⟩ hsame
    simp only [settle, hbegin, settle_update hs hp hv hgp hne]
    simp only [finish, Status.ok_okStatus, Bool.not_true, Bool.false_eq_true, if_false, commit_eq]
    exact ⟨⟨rfl, ⟨hp.started, rfl, hp.created, hgp.symm, hp.notPaused, hp.joined, hp.principal⟩, rfl, rfl, hg' ▸ hg⟩, rfl⟩

theorem tracks_next {y z : Stage} {e : WindowSurfaceEvent} (h : Tracks c y) (force : Bool)
    (hn : y.next e = some z) :
    Tracks (settle cfg c (surfaceOp force e)).1 z ∧ (settle cfg c (surfaceOp force e)).2.ok = true := by
  obtain ⟨t, s'⟩ := e
  cases y with
  | shown s =>
    cases t with
    | created => cases hn
    | changed =>
      simp only [Stage.next] at hn
      split at hn
      · rename_i hc; cases hn; exact tracks_change cfg h force hc
      · cases hn
    | destroyed =>
      simp only [Stage.next] at hn
      split at hn
      · rename_i hc
        cases hn
        obtain ⟨hs, hp, hpd, ha, hg⟩ := h
        have hga : s'.generation = c.activeSurface.generation := by
          rw [ha]
          exact (by simpa using hc : s'.generation = s.generation)
        have hg' : s'.generation ≠ 0 := by rw [hga, ha]; exact hg
        have hbegin : begin cfg c (surfaceOp force ⟨.destroyed, s'⟩) = surfaceDestroyed c s'.generation := rfl
        simp only [settle, hbegin, settle_destroy hs hp hg' hga]
        simp only [finish, Status.ok_okStatus, Bool.not_true, Bool.false_eq_true, if_false]
        refine ⟨⟨rfl, ⟨hp.started, rfl, rfl, hp.joined, hp.principal⟩, rfl, rfl, ?_, ?_, hg⟩, rfl⟩
        · show c.activeSurface.generation = s.generation
          rw [ha]; rfl
        · exact (by simpa using hc : s'.generation = s.generation)
      · cases hn
  | made s =>
    cases t with
    | changed =>
      simp only [Stage.next] at hn
      split at hn
      · rename_i hc
        cases hn
        obtain ⟨hs, hp, hpd, hcr, hpr, hg⟩ := h
        obtain ⟨hg', hv, -⟩ := carries_valid hc hg
        have hgp : (gameSurface s').generation = c.preparedSurfaceGeneration := hg'.trans hpr.symm
        have hbegin : begin cfg c (surfaceOp force ⟨.changed, s'⟩) = updateSurface c (gameSurface s') force := by
          cases force <;> rfl
        simp only [settle, hbegin, settle_resume hs hp hcr force hv hgp]
        simp only [finish, Status.ok_okStatus, Bool.not_true, Bool.false_eq_true, if_false, commit_eq]
        exact ⟨⟨rfl, ⟨hp.started, rfl, hcr, hgp.symm, rfl, hp.joined, hp.principal⟩, rfl, rfl, hg' ▸ hg⟩, rfl⟩
      · cases hn
    | created => cases hn
    | destroyed => cases hn
  | gone g =>
    cases t with
    | created =>
      simp only [Stage.next] at hn
      split at hn
      · rename_i hc
        cases hn
        obtain ⟨hs, hp, hpd, hcr, ha, hl, hg⟩ := h
        obtain ⟨hg', -, -⟩ := carries_valid hc (by omega)
        have hbegin : begin cfg c (surfaceOp force ⟨.created, s'⟩) = surfaceCreated c s'.generation := rfl
        simp only [settle, hbegin, settle_create hs hp hcr (show s'.generation ≠ 0 by omega) (by omega) (by omega)]
        simp only [finish, Status.ok_okStatus, Bool.not_true, Bool.false_eq_true, if_false]
        refine ⟨⟨?_, ⟨hp.started, hp.noActive, hp.paused, hp.joined, hp.principal⟩, hpd, rfl, rfl, by omega⟩, rfl⟩
        exact if_pos hp.started
      · cases hn
    | changed => cases hn
    | destroyed => cases hn

end Mocktail.Session
