/-
  Mocktail.Session.Invariant — the coordinator's state invariant.

  `Phase` says what each of the seventeen states promises of the other fields, `FrameInv`
  what holds while a capability runs. `step_inv` proves both inductive through every
  success and failure branch; `reach_inv` gives them for every run from a fresh
  coordinator, with presents anywhere.
-/

import Mocktail.Session.Transitions

namespace Mocktail.Session

/-- A state only held while a capability is running. -/
def GameSessionState.busy : GameSessionState → Bool
  | .preparingSurface | .starting | .updatingSurface | .pausing | .resuming | .leaving | .stopping => true
  | _ => false

/-- A state in which evidence may be parked. -/
def GameSessionState.parks : GameSessionState → Bool
  | .starting | .updatingSurface | .resuming => true
  | _ => false

/-- Before the initial start. -/
@[mk_iff]
structure Pre (c : Coordinator) : Prop where
  started : c.initialStartCompleted = false
  noActive : c.activeSurfaceAvailable = false
  notPaused : c.gamePaused = false
  notPresented : c.gamePresented = false
  pending : c.pendingSurfaceAvailable = true →
    c.surfaceCreated = true ∧ c.pendingSurface.generation = c.preparedSurfaceGeneration

/-- A started game with a surface to render to. -/
@[mk_iff]
structure Play (c : Coordinator) : Prop where
  started : c.initialStartCompleted = true
  active : c.activeSurfaceAvailable = true
  created : c.surfaceCreated = true
  prepared : c.preparedSurfaceGeneration = c.activeSurface.generation
  notPaused : c.gamePaused = false
  joined : c.joinRequestQueued = true
  principal : c.principalReady = true

/-- A started game without one. -/
@[mk_iff]
structure Halt (c : Coordinator) : Prop where
  started : c.initialStartCompleted = true
  noActive : c.activeSurfaceAvailable = false
  paused : c.gamePaused = true
  joined : c.joinRequestQueued = true
  principal : c.principalReady = true

/-- A candidate surface of the prepared generation. -/
@[mk_iff]
structure Candidate (c : Coordinator) : Prop where
  available : c.pendingSurfaceAvailable = true
  created : c.surfaceCreated = true
  prepared : c.pendingSurface.generation = c.preparedSurfaceGeneration

def Phase (c : Coordinator) : Prop :=
  match c.state with
  | .created => Pre c ∧ c.principalReady = false ∧ c.surfaceCreated = false ∧ c.joinRequestQueued = false
  | .principalReady | .joinRequestQueued | .surfaceCreated | .surfaceAvailable => Pre c ∧ c.principalReady = true
  | .preparingSurface => c.principalReady = true ∧ (Pre c ∧ c.surfaceCreated = false ∨
      Halt c ∧ c.pendingSurfaceAvailable = false)
  | .starting => Pre c ∧ Candidate c ∧ c.principalReady = true ∧ c.joinRequestQueued = true
  | .running => Play c ∧ c.pendingSurfaceAvailable = false
  | .updatingSurface => Play c ∧ Candidate c
  | .pausing => c.initialStartCompleted = true ∧ c.gamePaused = false ∧ c.activeSurfaceAvailable = false ∧
      c.surfaceCreated = false ∧ c.pendingSurfaceAvailable = false ∧ c.joinRequestQueued = true ∧
      c.principalReady = true
  | .paused => Halt c ∧ c.pendingSurfaceAvailable = false
  | .resuming => Halt c ∧ Candidate c
  | .leaving => c.initialStartCompleted = true
  | .returnedToLuaApp | .failure | .stopping | .stopped => True

/-- The running method, the state it holds and the arguments it passed. -/
def FrameInv (c : Coordinator) (o : Op) : Frame → Prop
  | .creating g => c.state = .preparingSurface ∧ o = .surfaceCreated g ∧ g ≠ 0
  | .starting _ _ s _ => c.state = .starting ∧ c.pendingSurface = s ∧ (o.changes = true ∨ ∃ r, o = .queueJoinRequest r)
  | .updating s => c.state = .updatingSurface ∧ c.pendingSurface = s ∧ o.changes = true
  | .pausing => c.state = .pausing ∧ o = .surfaceDestroyed c.lastDestroyedSurfaceGeneration
  | .resuming s => c.state = .resuming ∧ c.pendingSurface = s ∧ o.changes = true
  | .leaving => c.state = .leaving ∧ o = .leaveGame
  | .stopping => c.state = .stopping ∧ o = .shutdown

structure Inv (s : Sys) : Prop where
  quiet : s.running = none → s.c.state.busy = false
  frame : ∀ o f, s.running = some (o, f) → FrameInv s.c o f
  phase : Phase s.c
  parked : s.c.pendingPresent = true → s.c.state.parks = true
  returned : s.c.returnedToLuaApp = true → s.c.isForwardTerminalLocked = true
  attempted : s.c.shutdownAttempted = true → s.c.state = .stopping ∨ s.c.state = .stopped ∨ s.c.state = .failure

variable (cfg : Config)

theorem fresh_inv : Inv fresh := by
  constructor <;> simp [fresh, GameSessionState.busy, Phase]
  exact ⟨rfl, rfl, rfl, rfl, by simp⟩

/-! ## First turns -/

variable {c : Coordinator}

/-- What a quiescent state promises, by the guards that tell the states apart. -/
theorem quiet_phase (hb : c.state.busy = false) (hp : Phase c) (ht : c.isForwardTerminalLocked = false) :
    (c.initialStartCompleted = false → Pre c ∧ (c.state ≠ .created → c.principalReady = true)) ∧
      (c.initialStartCompleted = true → (c.state = .running ∧ Play c ∨ c.state = .paused ∧ Halt c) ∧
        c.pendingSurfaceAvailable = false) := by
  unfold Phase at hp
  cases hs : c.state <;> simp only [hs] at hp
  case created => exact ⟨fun _ => ⟨hp.1, by simp⟩, fun h => by rw [hp.1.started] at h; cases h⟩
  case running => exact ⟨fun h => (by rw [hp.1.started] at h; cases h), fun _ => ⟨Or.inl ⟨rfl, hp.1⟩, hp.2⟩⟩
  case paused => exact ⟨fun h => (by rw [hp.1.started] at h; cases h), fun _ => ⟨Or.inr ⟨rfl, hp.1⟩, hp.2⟩⟩
  case principalReady => exact ⟨fun _ => ⟨hp.1, fun _ => hp.2⟩, fun h => by rw [hp.1.started] at h; cases h⟩
  case joinRequestQueued => exact ⟨fun _ => ⟨hp.1, fun _ => hp.2⟩, fun h => by rw [hp.1.started] at h; cases h⟩
  case surfaceCreated => exact ⟨fun _ => ⟨hp.1, fun _ => hp.2⟩, fun h => by rw [hp.1.started] at h; cases h⟩
  case surfaceAvailable => exact ⟨fun _ => ⟨hp.1, fun _ => hp.2⟩, fun h => by rw [hp.1.started] at h; cases h⟩
  all_goals simp [hs, GameSessionState.busy, Coordinator.isForwardTerminalLocked] at hb ht

/-- The component after a first turn. -/
def Turn.sys (o : Op) : Turn → Sys
  | .done out => ⟨out.1, none⟩
  | .call c f => ⟨c, some (o, f)⟩

theorem failed_inv (hp : c.pendingPresent = false) (m : Status) (t : String) :
    Inv ⟨(c.failLocked m t).1, none⟩ := by
  constructor <;> simp [GameSessionState.busy, Phase, hp, Coordinator.isForwardTerminalLocked]

theorem preStart_cases (c : Coordinator) : c.preStartStateLocked = .surfaceAvailable ∨
    c.preStartStateLocked = .joinRequestQueued ∨ c.preStartStateLocked = .surfaceCreated ∨
    c.preStartStateLocked = .principalReady := by
  unfold Coordinator.preStartStateLocked
  split
  · exact Or.inl rfl
  · split
    · exact Or.inr (Or.inl rfl)
    · split
      · exact Or.inr (Or.inr (Or.inl rfl))
      · exact Or.inr (Or.inr (Or.inr rfl))

/-- A pre-start state reached through `PreStartStateLocked` keeps `Pre`. -/
theorem preStart_phase {m : String} (h : Pre c) (hp : c.principalReady = true) :
    Phase (c.applyLocked c.preStartStateLocked m).1 ∧ (c.preStartStateLocked).busy = false := by
  have h' : ∀ st, Pre (c.enter st) := fun st => ⟨h.started, h.noActive, h.notPaused, h.notPresented, h.pending⟩
  rcases preStart_cases c with e | e | e | e <;> rw [e] <;> exact ⟨⟨h' _, hp⟩, rfl⟩

variable {s : Sys}

/-- Outside the terminal states neither end flag is set. -/
theorem live_flags (h : Inv s) (ht : s.c.isForwardTerminalLocked = false) :
    s.c.returnedToLuaApp = false ∧ s.c.shutdownAttempted = false := by
  constructor
  · cases hr : s.c.returnedToLuaApp with
    | false => rfl
    | true => rw [h.returned hr] at ht; cases ht
  · cases ha : s.c.shutdownAttempted with
    | false => rfl
    | true =>
      rcases h.attempted ha with e | e | e <;> simp [Coordinator.isForwardTerminalLocked, e] at ht

theorem live_inv (hp : s.c.pendingPresent = false)
    (hf : s.c.returnedToLuaApp = false ∧ s.c.shutdownAttempted = false)
    (hq : s.running = none → s.c.state.busy = false) (hfr : ∀ o f, s.running = some (o, f) → FrameInv s.c o f)
    (hph : Phase s.c) : Inv s :=
  ⟨hq, hfr, hph, fun h => by simp [hp] at h, fun h => by simp [hf.1] at h, fun h => by simp [hf.2] at h⟩

theorem not_terminal (h : c.state = .running ∨ c.state = .paused ∨ c.state = .created) :
    c.isForwardTerminalLocked = false := by
  rcases h with h | h | h <;> simp [Coordinator.isForwardTerminalLocked, h]

/-- A coordinator without a principal has no surface to destroy. -/
theorem unused_created (hp : Phase c) {p q : Prop}
    (hm : c.surfaceCreated = true ∧ p ∨ c.pendingSurfaceAvailable = true ∧ q) : c.state ≠ .created := by
  intro hs
  simp only [Phase, hs] at hp
  rcases hm with ⟨hc, -⟩ | ⟨hc, -⟩
  · rw [hp.2.2.1] at hc; cases hc
  · rw [(hp.1.pending hc).1] at hp; cases hp.2.2.1

variable {o : Op}

theorem begin_inv {t : Turn} (h : Inv ⟨c, none⟩) (hb : Begins cfg c o t) : Inv (t.sys o) := by
  have hq : c.state.busy = false := h.quiet rfl
  have hph : Phase c := h.phase
  have hl : c.isForwardTerminalLocked = false → c.returnedToLuaApp = false ∧ c.shutdownAttempted = false :=
    live_flags h
  have hpp : c.pendingPresent = false := by
    cases hpp : c.pendingPresent with
    | false => rfl
    | true => have := h.parked hpp; revert this hq; cases c.state <;> simp [GameSessionState.busy, GameSessionState.parks]
  cases hb with
  | idle o r hr => exact h
  | fails o cause m => exact failed_inv hpp _ _
  | joinFails r cause m ht => exact failed_inv (c := { c with request := r, joinRequestQueued := true }) hpp _ _
  | principal p m hs hpr hk =>
    simp only [Phase, hs] at hph
    refine live_inv hpp (hl (not_terminal (by simp [hs]))) (fun _ => rfl) (by simp [Turn.sys]) ⟨?_, rfl⟩
    exact ⟨hph.1.started, hph.1.noActive, hph.1.notPaused, hph.1.notPresented, hph.1.pending⟩
  | joined r m ht hp hj hs =>
    have hpre : Pre c := by
      cases hi : c.initialStartCompleted with
      | false => exact ((quiet_phase hq hph ht).1 hi).1
      | true =>
        rcases ((quiet_phase hq hph ht).2 hi).1 with ⟨-, hpl⟩ | ⟨-, hha⟩
        · rw [hpl.joined] at hj; cases hj
        · rw [hha.joined] at hj; cases hj
    refine live_inv hpp (hl ht) (fun _ => rfl) (by simp [Turn.sys]) ⟨?_, hp⟩
    exact ⟨hpre.started, hpre.noActive, hpre.notPaused, hpre.notPresented, hpre.pending⟩
  | joinStarts r m ht hp hj hs hc hi =>
    have hpre := ((quiet_phase hq hph ht).1 hi).1
    refine live_inv rfl (hl ht) (by simp [Turn.sys]) ?_ ⟨?_, ⟨hs, hc, (hpre.pending hs).2⟩, hp, rfl⟩
    · rintro o f ⟨⟩; exact ⟨rfl, rfl, Or.inr ⟨r, rfl⟩⟩
    · exact ⟨hpre.started, hpre.noActive, hpre.notPaused, hpre.notPresented, hpre.pending⟩
  | creates g ht hp hg hi hn =>
    refine live_inv hpp (hl ht) (by simp [Turn.sys]) ?_ ⟨hp, ?_⟩
    · rintro o f ⟨⟩; exact ⟨rfl, rfl, hg⟩
    cases hst : c.initialStartCompleted with
    | false =>
      have hpre := ((quiet_phase hq hph ht).1 hst).1
      exact Or.inl ⟨⟨hst, hpre.noActive, hpre.notPaused, hpre.notPresented, hpre.pending⟩, hn hst⟩
    | true =>
      obtain ⟨hrp, hpd⟩ := (quiet_phase hq hph ht).2 hst
      rcases hrp with ⟨hrun, -⟩ | ⟨-, hha⟩
      · rw [(hi hst).1] at hrun; cases hrun
      · exact Or.inr ⟨⟨hst, hha.noActive, hha.paused, hha.joined, hha.principal⟩, hpd⟩
  | candidate o s m ht hp hv hc hg hi hj =>
    have hpre := ((quiet_phase hq hph ht).1 hi).1
    refine live_inv hpp (hl ht) (fun _ => rfl) (by simp [Turn.sys]) ⟨?_, hp⟩
    exact ⟨hi, hpre.noActive, hpre.notPaused, hpre.notPresented, fun _ => ⟨hc, hg⟩⟩
  | changeStarts o s m ht hp hv hc hg hi hj hch =>
    have hpre := ((quiet_phase hq hph ht).1 hi).1
    refine live_inv rfl (hl ht) (by simp [Turn.sys]) ?_ ⟨?_, ⟨rfl, hc, hg⟩, hp, hj⟩
    · rintro o f ⟨⟩; exact ⟨rfl, rfl, Or.inl hch⟩
    · exact ⟨hi, hpre.noActive, hpre.notPaused, hpre.notPresented, fun _ => ⟨hc, hg⟩⟩
  | resumes o s hp hv hc hg hi hs hch =>
    simp only [Phase, hs] at hph
    refine live_inv rfl (hl (not_terminal (by simp [hs]))) (by simp [Turn.sys]) ?_ ⟨?_, ⟨rfl, hc, hg⟩⟩
    · rintro o f ⟨⟩; exact ⟨rfl, rfl, hch⟩
    · exact ⟨hi, hph.1.noActive, hph.1.paused, hph.1.joined, hp⟩
  | updates o s hp hv hc hg hi hs hch =>
    simp only [Phase, hs] at hph
    refine live_inv rfl (hl (not_terminal (by simp [hs]))) (by simp [Turn.sys]) ?_ ⟨?_, ⟨rfl, hc, hg⟩⟩
    · rintro o f ⟨⟩; exact ⟨rfl, rfl, hch⟩
    · exact ⟨hi, hph.1.active, hc, hph.1.prepared, hph.1.notPaused, hph.1.joined, hp⟩
  | unused g m ht hg hi hm =>
    have hpre := ((quiet_phase hq hph ht).1 hi)
    have hpre' : Pre (c.forgetSurface g) :=
      ⟨hi, hpre.1.noActive, hpre.1.notPaused, hpre.1.notPresented, fun h => by cases h⟩
    obtain ⟨h1, h2⟩ := preStart_phase (m := m) hpre' (hpre.2 (unused_created hph hm))
    exact live_inv rfl (hl ht) (fun _ => h2) (by simp [Turn.sys]) h1
  | pauses g hg hi hs ha hga =>
    simp only [Phase, hs] at hph
    refine live_inv rfl (hl (not_terminal (by simp [hs]))) (by simp [Turn.sys]) ?_
      ⟨hi, hph.1.notPaused, rfl, rfl, rfl, hph.1.joined, hph.1.principal⟩
    rintro o f ⟨⟩; exact ⟨rfl, rfl⟩
  | leaves hr hi hs =>
    have ht := not_terminal (c := c) (by rcases hs with hs | hs <;> simp [hs])
    refine live_inv hpp (hl ht) (by simp [Turn.sys]) ?_ hi
    rintro o f ⟨⟩; exact ⟨rfl, rfl⟩
  | stops hs ha =>
    refine ⟨by simp [Turn.sys], ?_, trivial, fun hp => ?_, fun _ => rfl, fun _ => Or.inl rfl⟩
    · rintro o f ⟨⟩; exact ⟨rfl, rfl⟩
    · rw [show c.pendingPresent = true from hp] at hpp; cases hpp

/-! ## Second turns, presents and runs -/

/-- Committing evidence leaves every field the phases speak of. -/
theorem running_inv {m : String} (hp : Play c) (hs : c.pendingSurfaceAvailable = false)
    (hf : c.returnedToLuaApp = false ∧ c.shutdownAttempted = false) :
    Inv ⟨(c.commitPendingPresentLocked.applyLocked .running m).1, none⟩ := by
  rw [commit_eq]
  exact live_inv rfl hf (fun _ => rfl) (by simp)
    ⟨⟨hp.started, hp.active, hp.created, hp.prepared, hp.notPaused, hp.joined, hp.principal⟩, hs⟩

variable {f : Frame}

theorem frame_live (h : FrameInv c o f) (hf : f ≠ .stopping) :
    c.isForwardTerminalLocked = false := by
  cases f <;> simp_all [FrameInv, Coordinator.isForwardTerminalLocked]

theorem frame_unparked (h : Inv ⟨c, some (o, f)⟩) (hf : f.parks = false) :
    c.pendingPresent = false := by
  have hfr : FrameInv c o f := h.frame o f rfl
  cases hp : c.pendingPresent with
  | false => rfl
  | true =>
    have := h.parked hp
    cases f <;> simp_all [FrameInv, GameSessionState.parks, Frame.parks]

theorem finish_inv {st : Status} {out : Coordinator × UpdateResult}
    (h : Inv ⟨c, some (o, f)⟩) (hf : Finishes c f st out) : Inv ⟨out.1, none⟩ := by
  have hfr : FrameInv c o f := h.frame o f rfl
  have hph : Phase c := h.phase
  cases hf with
  | failed f st m hk hst => exact failed_inv (frame_unparked h hk) _ _
  | dropped f st m hk hst => exact failed_inv (c := c.discardPending) rfl _ _
  | created g st m hst =>
    have hl := live_flags h (frame_live hfr (by simp))
    have hpp := frame_unparked h rfl
    simp only [Phase, hfr.1] at hph
    obtain ⟨hp, ⟨hpre, hcr⟩ | ⟨hha, hpd⟩⟩ := hph
    · have hpre' : Pre { c with surfaceCreated := true, preparedSurfaceGeneration := g } :=
        ⟨hpre.started, hpre.noActive, hpre.notPaused, hpre.notPresented, fun hpe => by
          rw [(hpre.pending hpe).1] at hcr; cases hcr⟩
      obtain ⟨h1, h2⟩ := preStart_phase (m := m) hpre' hp
      rw [if_neg (by simp [hpre.started])]
      exact live_inv hpp hl (fun _ => h2) (by simp) h1
    · rw [if_pos hha.started]
      exact live_inv hpp hl (fun _ => rfl) (by simp)
        ⟨⟨hha.started, hha.noActive, hha.paused, hha.joined, hha.principal⟩, hpd⟩
  | started p r s a m st hst =>
    have hl := live_flags h (frame_live hfr (by simp))
    simp only [Phase, hfr.1] at hph
    obtain ⟨-, hca, hp, hj⟩ := hph
    exact running_inv ⟨rfl, rfl, hca.created, hca.prepared.symm, rfl, hj, hp⟩ rfl hl
  | resumed s m st hst =>
    have hl := live_flags h (frame_live hfr (by simp))
    simp only [Phase, hfr.1] at hph
    obtain ⟨hha, hca⟩ := hph
    exact running_inv ⟨hha.started, rfl, hca.created, hca.prepared.symm, rfl, hha.joined, hha.principal⟩ rfl hl
  | updated s m st hst =>
    have hl := live_flags h (frame_live hfr (by simp))
    simp only [Phase, hfr.1] at hph
    obtain ⟨hpl, hca⟩ := hph
    exact running_inv ⟨hpl.started, rfl, hca.created, hca.prepared.symm, hpl.notPaused, hpl.joined, hpl.principal⟩
      rfl hl
  | paused m st hst =>
    have hl := live_flags h (frame_live hfr (by simp))
    have hpp := frame_unparked h rfl
    simp only [Phase, hfr.1] at hph
    obtain ⟨hi, -, ha, -, hpd, hj, hp⟩ := hph
    exact live_inv hpp hl (fun _ => rfl) (by simp) ⟨⟨hi, ha, rfl, hj, hp⟩, hpd⟩
  | left m st hst =>
    have hl : c.shutdownAttempted = false := (live_flags h (frame_live hfr (by simp))).2
    exact ⟨fun _ => rfl, by simp, trivial, by simp, fun _ => rfl, by simp [hl]⟩
  | stopped m st hst =>
    exact ⟨fun _ => rfl, by simp, trivial, by simp, fun _ => rfl, fun _ => Or.inr (Or.inl rfl)⟩

variable {e : GamePresentEvidence}

theorem deferred_parks (h : deferred c e = true) :
    c.state.parks = true ∧ c.pendingSurfaceAvailable = true ∧ e.surfaceGeneration = c.pendingSurface.generation := by
  unfold deferred at h
  split at h
  case h_4 => cases h
  all_goals
    rename_i hs
    simp only [matchesPending, Bool.and_eq_true, beq_iff_eq] at h
    exact ⟨by simp [hs, GameSessionState.parks], h⟩

theorem immediate_started (h : immediate c e = true) (hp : Phase c) :
    c.initialStartCompleted = true ∧ c.activeSurface.generation ≠ 0 ∧
      e.surfaceGeneration = c.activeSurface.generation := by
  unfold immediate at h
  unfold Phase at hp
  cases hs : c.state <;> simp only [hs] at h hp
  case updatingSurface => simp [matchesActive] at h; exact ⟨hp.1.started, h.1.2.1, h.1.2.2⟩
  case running => simp [matchesActive] at h; exact ⟨hp.1.started, h.1.1, h.1.2⟩
  case pausing => simp [matchesActive] at h; exact ⟨hp.1, h.1, h.2⟩
  case paused => simp [matchesActive] at h; exact ⟨hp.1.started, h.1, h.2⟩
  all_goals cases h

/-- Parked evidence changes no field a phase reads. -/
theorem phase_parked (hp : Phase c) (e : GamePresentEvidence) (v : UInt64) :
    Phase { c with pendingPresent := true, pendingPresentEvidence := e, revision := v } := by
  simpa [Phase, pre_iff, play_iff, halt_iff, candidate_iff] using hp

/-- A presented frame changes only `game_presented_` of what a phase reads, after the start. -/
theorem phase_presented (hp : Phase c) (hi : c.initialStartCompleted = true) (n : Nat) :
    Phase (c.markPresented n) := by
  unfold Phase at hp ⊢
  simp only [Coordinator.markPresented, pre_iff, play_iff, halt_iff, candidate_iff, hi] at hp ⊢
  cases hs : c.state <;> simp_all

theorem record_inv {r : Option (Op × Frame)}
    {out : Coordinator × UpdateResult} (h : Inv ⟨c, r⟩) (hr : Records cfg c e out) : Inv ⟨out.1, r⟩ := by
  cases hr with
  | idle r hr => exact h
  | parks _ hv hd hg hp =>
    refine ⟨h.quiet, fun o f hf => ?_, phase_parked h.phase _ _, fun _ => (deferred_parks hd).1, h.returned, h.attempted⟩
    have := h.frame o f hf
    cases f <;> exact this
  | observes _ hv hi hg =>
    have hs := immediate_started hi h.phase
    refine ⟨h.quiet, fun o f hf => ?_, phase_presented h.phase hs.1 _, h.parked, h.returned, h.attempted⟩
    have := h.frame o f hf
    cases f <;> exact this

theorem step_op (c : Coordinator) (o : Op) : (stepSys cfg ⟨c, none⟩ (.op o)).1 = (begin cfg c o).sys o := by
  simp only [stepSys]
  cases begin cfg c o <;> rfl

theorem step_inv (h : Inv s) (e : Ev) : Inv (stepSys cfg s e).1 := by
  obtain ⟨c, r⟩ := s
  cases e with
  | op o =>
    cases r with
    | some r => exact h
    | none =>
      rw [step_op]
      exact begin_inv cfg h (begin_begins cfg c o)
  | ret st =>
    cases r with
    | none => exact h
    | some r => exact finish_inv h (finish_finishes c r.2 st)
  | present e => exact record_inv cfg h (record_records cfg c e)

/-- A property of state and trace that every turn keeps, given the invariant, holds of every run. -/
theorem reach_rule {I : Sys → List Obs → Prop} (h0 : I fresh [])
    (hdone : ∀ c o out t, Inv ⟨c, none⟩ → I ⟨c, none⟩ t → Begins cfg c o (.done out) →
      I ⟨out.1, none⟩ (t ++ [Obs.result o out.2]))
    (hcall : ∀ c c' o f t, Inv ⟨c, none⟩ → I ⟨c, none⟩ t → Begins cfg c o (.call c' f) →
      I ⟨c', some (o, f)⟩ (t ++ [Obs.call o f.call]))
    (hret : ∀ c o f st out t, Inv ⟨c, some (o, f)⟩ → I ⟨c, some (o, f)⟩ t → Finishes c f st out →
      I ⟨out.1, none⟩ (t ++ [Obs.ret o f.call st] ++ [Obs.result o out.2]))
    (hpresent : ∀ c r e out t, Inv ⟨c, r⟩ → I ⟨c, r⟩ t → Records cfg c e out →
      I ⟨out.1, r⟩ (t ++ [Obs.present e out.2]))
    (es : List Ev) : I ((sys cfg).run fresh es).1 ((sys cfg).run fresh es).2 := by
  refine ((sys cfg).run_induct (I := fun s t => Inv s ∧ I s t) ⟨fresh_inv, h0⟩ (fun s t e h => ?_) es).2
  refine ⟨step_inv cfg h.1 e, ?_⟩
  obtain ⟨c, r⟩ := s
  obtain ⟨hv, hi⟩ := h
  cases e with
  | op o =>
    cases r with
    | some r => simpa [sys, stepSys] using hi
    | none =>
      have hb := begin_begins cfg c o
      simp only [sys, stepSys]
      split
      · rename_i out e; rw [e] at hb; exact hdone c o out t hv hi hb
      · rename_i c' f e; rw [e] at hb; exact hcall c c' o f t hv hi hb
  | ret st =>
    cases r with
    | none => simpa [sys, stepSys] using hi
    | some r =>
      have := hret c r.1 r.2 st _ t hv hi (finish_finishes c r.2 st)
      rwa [List.append_assoc] at this
  | present e => exact hpresent c r e _ t hv hi (record_records cfg c e)

theorem reach_inv (es : List Ev) : Inv ((sys cfg).run fresh es).1 :=
  (sys cfg).run_induct (I := fun s _ => Inv s) fresh_inv (fun _ _ e h => step_inv cfg h e) es

end Mocktail.Session
