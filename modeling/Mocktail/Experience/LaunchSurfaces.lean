/-
  Mocktail.Experience.LaunchSurfaces — the surface a game is launched on and follows.

  `Screen` is the composition with the stage of the window surface, as the surface events
  delivered so far leave it; the window delivers only what its stage allows. Native calls
  succeed. A launch captures the retained surface when it starts, the game follows the
  window from the moment its worker is reaped, and a leave in between is not noticed by the
  reaping: `Settled` says when these three moments agree with the window.

  `Follows` is the invariant; `start_runs` evaluates a successful launch.
-/

import Mocktail.Experience.Composition

namespace Mocktail.Experience

open Mocktail.Session Mocktail.Window Mocktail.Lib

/-! ## The composition on a window -/

structure Screen where
  sys : Sys
  /-- The window surface after the events delivered. -/
  stage : Stage
  deriving DecidableEq, Repr

inductive ScreenEv where
  | dispatch (request : LaunchRequest)
  | notifyReturn
  | presented
  /-- The worker's launch; `checks` is the validation of its request. -/
  | worker (checks : Status)
  | drain (wait : Wait)
  | resume (external : Status) (startError : Int)
  | leaveGame
  | surface (e : WindowSurfaceEvent)
  deriving DecidableEq, Repr

/-- The event at the composition, with every native call returning ok. -/
def ScreenEv.host : ScreenEv → Ev
  | .dispatch request => .dispatch request
  | .notifyReturn => .notifyReturn
  | .presented => .presented
  | .worker checks => .worker { checks := checks }
  | .drain wait => .drain wait
  | .resume external startError => .resume { external := external, startError := startError }
  | .leaveGame => .leaveGame allOk
  | .surface e => .surface e allOk Status.okStatus

/-- What the composition did, beside the window surface it did it on. -/
structure Sighting where
  stage : Stage
  out : Out
  deriving DecidableEq, Repr

def Screen.step (w : Screen) (e : ScreenEv) : Screen × List Sighting :=
  match e with
  | .surface d =>
    match w.stage.next d with
    | some stage =>
      if w.sys.pc = .idle then (⟨(stepSys w.sys e.host).1, stage⟩, (stepSys w.sys e.host).2.map (⟨stage, ·⟩)) else (w, [])
    | none => (w, [])
  | _ => (⟨(stepSys w.sys e.host).1, w.stage⟩, (stepSys w.sys e.host).2.map (⟨w.stage, ·⟩))

def screen : Machine Screen ScreenEv Sighting := ⟨Screen.step⟩

/-- The last event delivered left a surface to render to. -/
def isShown : Stage → Bool
  | .shown _ => true
  | _ => false

/-- That surface is `v`. -/
def shows (y : Stage) (v : GameSurface) : Bool :=
  match y with
  | .shown s => gameSurface s == v
  | _ => false

/-- A launch is started on the surface shown; a forwarded event is accepted. -/
def Sighting.Good (o : Sighting) : Prop :=
  match o.out with
  | .launched task => shows o.stage task.context.gameSurface = true ∧ validSurface task.context.gameSurface = true
  | .surface _ true r => r.ok = true
  | _ => True

attribute [local simp] Sighting.Good

/-- An active game runs on the surface shown, or is paused without one. -/
def Screen.Followed (w : Screen) : Prop :=
  w.sys.comp.gameActive = true →
    match w.sys.comp.controller.runtime, w.stage with
    | some c, .shown s => c.state = .running ∧ c.activeSurface = gameSurface s
    -- the Changed event of a created surface is still to come
    | some _, .made _ => True
    | some c, .gone _ => c.state = .paused
    | none, _ => False

theorem resultStatus_ok {r : UpdateResult} : (resultStatus r).ok = r.ok := by
  unfold resultStatus
  split
  · rename_i h; simp [h]
  · rename_i h
    have h : r.ok = false := by simpa using h
    rw [h]
    split
    · rfl
    · rename_i hc; simpa using hc

variable {c : Coordinator}

theorem performAll_cons {native : Native} {o : Op} {ops : List Op}
    (h : (performAll native c (o :: ops)).2.ok = true) :
    (perform native c o).2.ok = true ∧ performAll native c (o :: ops) = performAll native (perform native c o).1 ops := by
  simp only [performAll] at h ⊢
  cases hr : (resultStatus (perform native c o).2).ok with
  | true => exact ⟨by rwa [resultStatus_ok] at hr, by simp⟩
  | false => simp [hr] at h

/-- A started game that runs on `v`. -/
def RunsOn (c : Coordinator) (v : GameSurface) : Prop :=
  c.state = .running ∧ Play c ∧ c.pendingSurfaceAvailable = false ∧ c.activeSurface = v ∧ v.generation ≠ 0

/-! ## A launch that succeeds -/

variable {p : GameSessionPrincipal} {q : GameJoinRequest} {v : GameSurface}

/-- The session after its principal was accepted. -/
def withPrincipal (p : GameSessionPrincipal) : Coordinator :=
  ({ principal := p, principalReady := true } : Coordinator).enter .principalReady

/-- The session after its join request was queued. -/
def withRequest (p : GameSessionPrincipal) (q : GameJoinRequest) : Coordinator :=
  { withPrincipal p with request := q, joinRequestQueued := true }.enter .joinRequestQueued

/-- The session with a prepared surface. -/
def withSurface (p : GameSessionPrincipal) (q : GameJoinRequest) (g : Nat) : Coordinator :=
  { (withRequest p q).enter .preparingSurface with surfaceCreated := true, preparedSurfaceGeneration := g }.enter
    .joinRequestQueued

attribute [local simp] withPrincipal withRequest withSurface

theorem principal_accepted (h : (perform allOk {} (.setPrincipal p)).2.ok = true) :
    (perform allOk {} (.setPrincipal p)).1 = withPrincipal p := by
  have hc : gameConfig.capabilities.complete = true := rfl
  cases hv : validPrincipal p with
  | true => simp [perform, begin, setPrincipal, hc, Coordinator.isForwardTerminalLocked, hv]
  | false => simp [perform, begin, setPrincipal, hc, Coordinator.isForwardTerminalLocked, hv, UpdateResult.ok] at h

theorem request_queued (h : (perform allOk (withPrincipal p) (.queueJoinRequest q)).2.ok = true) :
    (perform allOk (withPrincipal p) (.queueJoinRequest q)).1 = withRequest p q := by
  simp only [perform, begin, queueJoinRequest] at h ⊢
  rw [if_neg (by simp), if_neg (by simp [Coordinator.isForwardTerminalLocked]),
    if_neg (by simp)] at h ⊢
  cases hv : validRequest q with
  | false => simp [hv, UpdateResult.ok] at h
  | true =>
    rw [if_neg (by simp [hv])] at h ⊢
    by_cases hk : (q.placeId != 0 && (withPrincipal p).principal.kind != .authenticated) = true
    · rw [if_pos hk] at h
      simp [UpdateResult.ok] at h
    · rw [if_neg hk, if_pos (by simp)]
      rfl

theorem surface_prepared {g : Nat} (h : (perform allOk (withRequest p q) (.surfaceCreated g)).2.ok = true) :
    (perform allOk (withRequest p q) (.surfaceCreated g)).1 = withSurface p q g := by
  cases hg : g == 0 with
  | true =>
    simp [perform, begin, surfaceCreated, Coordinator.isForwardTerminalLocked, hg, UpdateResult.ok] at h
  | false =>
    simp [perform, begin, surfaceCreated, withRequest, withPrincipal, Coordinator.isForwardTerminalLocked, hg, finish, allOk,
      withSurface, Coordinator.preStartStateLocked]

theorem surface_starts (h : (perform allOk (withSurface p q v.generation) (.surfaceChanged v)).2.ok = true) :
    RunsOn (perform allOk (withSurface p q v.generation) (.surfaceChanged v)).1 v := by
  simp only [perform, begin, surfaceChanged, updateSurface] at h ⊢
  rw [if_neg (by simp [Coordinator.isForwardTerminalLocked]),
    if_neg (by simp)] at h ⊢
  cases hv : validSurface v with
  | false => simp [hv, UpdateResult.ok] at h
  | true =>
    have hg : v.generation ≠ 0 := by
      simp only [validSurface, Bool.and_eq_true, bne_iff_ne] at hv; exact hv.1.1.1
    rw [if_neg (by simp), if_neg (by simp), if_pos (by simp),
      if_neg (by simp),
      if_neg (by simp)]
    unfold startIfReadyLocked
    rw [if_neg (by simp)]
    simp only [finish, allOk, Status.ok_okStatus, Bool.not_true, Bool.false_eq_true, if_false, commit_eq]
    exact ⟨rfl, ⟨rfl, rfl, rfl, rfl, rfl, rfl, rfl⟩, rfl, rfl, hg⟩

theorem start_runs {checks : Status} (h : (initializeAndStart { checks := checks } p q v).2.ok = true) :
    RunsOn (initializeAndStart { checks := checks } p q v).1 v := by
  simp only [initializeAndStart, Status.ok_okStatus, Bool.not_true, Bool.false_eq_true, if_false] at h ⊢
  obtain ⟨h1, e1⟩ := performAll_cons h
  rw [e1, principal_accepted h1] at h ⊢
  obtain ⟨h2, e2⟩ := performAll_cons h
  rw [e2, request_queued h2] at h ⊢
  obtain ⟨h3, e3⟩ := performAll_cons h
  rw [e3, surface_prepared h3] at h ⊢
  obtain ⟨h4, e4⟩ := performAll_cons h
  rw [e4]
  exact surface_starts h4

/-! ## The invariant -/

def Controller.Free (k : Controller) : Prop := k.active = false ∧ k.runtime = none

def Controller.Holds (k : Controller) (c : Coordinator) : Prop := k.active = true ∧ k.runtime = some c

/-- The launch of `task` is done: its game runs on the captured surface, or nothing was started. -/
def Launched (k : Controller) (task : LaunchTask) : Prop :=
  task.result.ok = true ∧ (∃ c, k.Holds c ∧ RunsOn c task.context.gameSurface) ∨ task.result.ok = false ∧ k.Free

def Session (s : Composition) (y : Stage) : Prop :=
  s.gameActive = false ∧ s.controller.Free ∨ s.gameActive = true ∧ ∃ c, s.controller.Holds c ∧ Tracks c y

def Working (s : Composition) (y : Stage) : Prop :=
  match s.launchWorker with
  | .none => s.activeLaunch = none ∧ s.launchInProgress = false ∧ Session s y
  | .running => s.launchInProgress = true ∧ s.gameActive = false ∧ s.controller.Free ∧ s.activeLaunch.isSome = true
  | .finished => s.launchInProgress = true ∧ s.gameActive = false ∧
      ∃ task, s.activeLaunch = some task ∧ Launched s.controller task

def Usable : Stage → Prop
  | .shown v => validSurface (gameSurface v) = true
  | .made v => v.generation ≠ 0
  | .gone _ => True

structure Follows (s : Composition) (y : Stage) : Prop where
  usable : Usable y
  retained : ∀ v, y = .shown v → s.readiness.surface = gameSurface v
  working : Working s y

/-- The composition without the launch it has set up. -/
def Composition.unlaunched (s : Composition) : Composition := { s with activeLaunch := none, launchInProgress := false }

/-- A launch is set up on the retained surface and its worker is still to be started. -/
structure Launching (s : Composition) (y : Stage) : Prop where
  follows : Follows s.unlaunched y
  worker : s.launchWorker = .none
  inactive : s.gameActive = false
  progress : s.launchInProgress = true
  task : ∃ task, s.activeLaunch = some task ∧ task.context.gameSurface = s.readiness.surface

/-- What holds while the drain is at `pc`. -/
def AtPc (pc : Pc) (s : Composition) (y : Stage) : Prop := if pc = .launch then Launching s y else Follows s y

/-- What the composition relies on: a launch is started while a surface is shown, it is reaped while
the surface it captured is shown, and the game is not left between its launch and its reaping. -/
def Settled (w : Screen) (_ : List Sighting) : ScreenEv → Prop
  | .resume _ startError => w.sys.pc = .launch → startError = 0 → isShown w.stage = true
  | .drain wait => w.sys.pc = .idle → wait = .joined → w.sys.comp.launchWorker = .finished →
      ∀ task ∈ w.sys.comp.activeLaunch, task.result.ok = true → shows w.stage task.context.gameSurface = true
  | .leaveGame => w.sys.pc = .idle → w.sys.comp.launchWorker = .finished →
      ∀ task ∈ w.sys.comp.activeLaunch, task.result.ok = false
  | _ => True

/-! ## One step -/

variable {y : Stage}

theorem shows_iff {v : GameSurface} : shows y v = true ↔ ∃ s, y = .shown s ∧ gameSurface s = v := by
  cases y <;> simp [shows]

variable {e : WindowSurfaceEvent}

theorem usable_next {y z : Stage} (h : Usable y) (hn : y.next e = some z) : Usable z := by
  obtain ⟨t, s'⟩ := e
  cases y with
  | shown s =>
    have hg : s.generation ≠ 0 := by
      simp only [Usable, validSurface, gameSurface, Bool.and_eq_true, bne_iff_ne] at h; exact h.1.1.1
    cases t with
    | created => cases hn
    | changed =>
      simp only [Stage.next] at hn
      split at hn
      · rename_i hc; cases hn; exact (carries_valid hc hg).2.1
      · cases hn
    | destroyed =>
      simp only [Stage.next] at hn
      split at hn
      · cases hn; trivial
      · cases hn
  | made s =>
    cases t with
    | changed =>
      simp only [Stage.next] at hn
      split at hn
      · rename_i hc; cases hn; exact (carries_valid hc h).2.1
      · cases hn
    | created => cases hn
    | destroyed => cases hn
  | gone g =>
    cases t with
    | created =>
      simp only [Stage.next] at hn
      split at hn
      · rename_i hc
        cases hn
        have := (carries_valid hc (by omega)).1
        show s'.generation ≠ 0
        omega
      · cases hn
    | changed => cases hn
    | destroyed => cases hn

/-- A surface is shown only by its own Changed event. -/
theorem next_shown {v : WindowSurfaceSnapshot} (hn : y.next e = some (.shown v)) :
    e = ⟨.changed, v⟩ := by
  obtain ⟨t, s'⟩ := e
  cases y <;> cases t <;> simp only [Stage.next] at hn <;> (try split at hn) <;> cases hn
  all_goals rfl

/-- A launch on a free controller with every native call returning ok. -/
theorem launch_done {k : Controller} (hk : k.Free) (task : LaunchTask) (checks : Status) :
    Launched (k.launch task.request task.context { checks := checks }).1
      { task with result := (k.launch task.request task.context { checks := checks }).2 } := by
  unfold Controller.launch
  split
  · exact Or.inr ⟨rfl, hk⟩
  split
  · exact Or.inr ⟨rfl, hk⟩
  split
  · exact Or.inr ⟨rfl, hk⟩
  split
  · rename_i hc
    exact Or.inr ⟨by simpa using hc, hk⟩
  split
  · exact Or.inr ⟨rfl, hk⟩
  simp only
  split
  · rename_i hs
    exact Or.inr ⟨by simpa using hs, hk.1, rfl⟩
  · rename_i hs
    exact Or.inl ⟨rfl, _, ⟨rfl, rfl⟩, start_runs (by simpa using hs)⟩

variable {s : Composition}

theorem worker_follows (h : Follows s y) (checks : Status) :
    Follows (s.runActiveLaunch { checks := checks }) y := by
  have hw := h.working
  unfold Composition.runActiveLaunch
  unfold Working at hw
  split
  · rename_i hr ha
    rw [hr] at hw
    simp [ha] at hw
  · rename_i task hr ha
    rw [hr] at hw
    have hl := launch_done hw.2.2.1 task checks
    simp only [Status.ok_okStatus, if_true, Bool.not_true, Bool.and_false, Bool.false_eq_true, if_false]
    exact ⟨h.usable, h.retained, hw.1, hw.2.1, _, rfl, hl⟩
  · exact h

theorem leave_tracked (h : Tracks c y) : (perform allOk c .leaveGame).2.ok = true := by
  have hs : c.initialStartCompleted = true ∧ (c.state = .running ∨ c.state = .paused) := by
    cases y with
    | shown s => exact ⟨h.2.1.started, Or.inl h.1⟩
    | made s => exact ⟨h.2.1.started, Or.inr h.1⟩
    | gone g => exact ⟨h.2.1.started, Or.inr h.1⟩
  have ht : c.isForwardTerminalLocked = false := not_terminal (by rcases hs.2 with h | h <;> simp [h])
  by_cases hr : c.returnedToLuaApp = true
  · simp [perform, begin, leaveGame, hr, UpdateResult.ok]
  · have hc : (!c.initialStartCompleted || c.state != .running && c.state != .paused) = false := by
      rcases hs.2 with h | h <;> simp [hs.1, h]
    simp [perform, begin, leaveGame, hr, ht, hc, finish, allOk, UpdateResult.ok]

theorem leave_follows (h : Follows s y)
    (hf : s.launchWorker = .finished → ∀ task ∈ s.activeLaunch, task.result.ok = false) :
    Follows (s.leaveGame allOk).1 y ∧ (s.leaveGame allOk).1.launchWorker = s.launchWorker := by
  have hfree : s.controller.Free → s.controller.leave allOk =
      (s.controller, Status.failedPrecondition "no fresh game session is active") := by
    intro hk
    simp [Controller.leave, hk.1]
  have hno : s.controller.Free → Follows (s.leaveGame allOk).1 y ∧
      (s.leaveGame allOk).1.launchWorker = s.launchWorker := by
    intro hk
    simp only [Composition.leaveGame, hfree hk]
    exact ⟨⟨h.usable, h.retained, h.working⟩, rfl⟩
  have hw := h.working
  unfold Working at hw
  cases hl : s.launchWorker with
  | running =>
    rw [hl] at hw
    exact hl ▸ hno hw.2.2.1
  | finished =>
    rw [hl] at hw
    obtain ⟨-, -, task, ht, hd⟩ := hw
    rcases hd with ⟨hok, -⟩ | ⟨-, hk⟩
    · rw [hf hl task ht] at hok; cases hok
    · exact hl ▸ hno hk
  | none =>
    rw [hl] at hw
    obtain ⟨ha, hp, hs⟩ := hw
    rcases hs with ⟨-, hk⟩ | ⟨-, c, ⟨hac, hrt⟩, ht⟩
    · exact hl ▸ hno hk
    · have hlv := leave_tracked ht
      simp only [Composition.leaveGame, Controller.leave, hac, hrt, hlv, Bool.not_true, Bool.false_eq_true, if_false,
        Status.ok_okStatus, if_true]
      refine ⟨⟨h.usable, h.retained, ?_⟩, hl⟩
      simp only [Working, hl]
      exact ⟨ha, hp, Or.inl ⟨rfl, rfl, rfl⟩⟩

/-- The surface retained after an event. -/
def retainedAfter (r : Readiness) (e : WindowSurfaceEvent) : Readiness :=
  match e.type with
  | .changed => { r with surface := gameSurface e.surface }
  | _ => r

theorem surface_forwarded (hga : s.gameActive = true) (hk : s.controller.Holds c)
    (e : WindowSurfaceEvent) (hok : (settle gameConfig c (surfaceOp true e)).2.ok = true) :
    s.surfaceEvent allOk Status.okStatus e =
      ({ s with controller := { s.controller with runtime := some (settle gameConfig c (surfaceOp true e)).1 }
                readiness := retainedAfter s.readiness e }, (settle gameConfig c (surfaceOp true e)).2) := by
  obtain ⟨hac, hrt⟩ := hk
  obtain ⟨t, v⟩ := e
  cases t with
  | created =>
    simp only [Composition.surfaceEvent, Composition.surfaceCreated, hga, if_true, Controller.surfaceCreated,
      Controller.surfaceEvent, hac, hrt]
    rfl
  | changed =>
    have hok : (perform allOk c (.rebindSurface (gameSurface v))).2.ok = true := hok
    simp only [Composition.surfaceEvent, Composition.surfaceChanged, hga, if_true, Controller.rebindSurface,
      Controller.surfaceEvent, hac, hrt, hok]
    rfl
  | destroyed =>
    simp only [Composition.surfaceEvent, Composition.surfaceDestroyed, hga, if_true, Controller.surfaceDestroyed,
      Controller.surfaceEvent, hac, hrt]
    rfl

/-- Without an active game only the retained surface changes. -/
theorem surface_retained (hga : s.gameActive = false) (e : WindowSurfaceEvent) :
    ∃ r b, (s.surfaceEvent allOk Status.okStatus e).1 = { s with readiness := r, luaAppSurfaceRecreationPending := b } ∧
      (e.type = .changed → r.surface = gameSurface e.surface) := by
  have hga : ¬ s.gameActive = true := by simp [hga]
  obtain ⟨t, v⟩ := e
  cases t with
  | created =>
    simp only [Composition.surfaceEvent, Composition.surfaceCreated]
    rw [if_neg hga]
    split
    · exact ⟨_, _, rfl, fun h => by cases h⟩
    · exact ⟨s.readiness, s.luaAppSurfaceRecreationPending, rfl, fun h => by cases h⟩
  | changed =>
    simp only [Composition.surfaceEvent, Composition.surfaceChanged]
    rw [if_neg hga, if_neg (by simp)]
    exact ⟨_, _, rfl, fun _ => rfl⟩
  | destroyed =>
    simp only [Composition.surfaceEvent, Composition.surfaceDestroyed]
    rw [if_neg hga]
    split
    · exact ⟨_, _, rfl, fun h => by cases h⟩
    · exact ⟨s.readiness, s.luaAppSurfaceRecreationPending, rfl, fun h => by cases h⟩

/-- A forwarded event follows the window; the others are retained for the next launch. -/
theorem surface_follows {y z : Stage} (h : Follows s y)
    (hn : y.next e = some z) :
    Follows (s.surfaceEvent allOk Status.okStatus e).1 z ∧
      (s.gameActive = true → (s.surfaceEvent allOk Status.okStatus e).2.ok = true) ∧
      (s.surfaceEvent allOk Status.okStatus e).1.launchWorker = s.launchWorker := by
  have hu := usable_next h.usable hn
  have hw := h.working
  cases hga : s.gameActive with
  | true =>
    have hl : s.launchWorker = .none := by
      unfold Working at hw
      split at hw
      · assumption
      · rw [hw.2.1] at hga; cases hga
      · rw [hw.2.1] at hga; cases hga
    simp only [Working, hl] at hw
    obtain ⟨ha, hp, hs⟩ := hw
    rcases hs with ⟨hs, -⟩ | ⟨-, c, ⟨hac, hrt⟩, ht⟩
    · rw [hs] at hga; cases hga
    obtain ⟨ht', hok⟩ := tracks_next gameConfig ht true hn
    rw [surface_forwarded hga ⟨hac, hrt⟩ e hok]
    refine ⟨⟨hu, fun v hv => ?_, ?_⟩, fun _ => hok, rfl⟩
    · subst hv
      rw [next_shown hn]
      rfl
    · simp only [Working, hl]
      exact ⟨ha, hp, Or.inr ⟨hga, _, ⟨hac, rfl⟩, ht'⟩⟩
  | false =>
    obtain ⟨r, b, he, hr⟩ := surface_retained hga e
    rw [he]
    refine ⟨⟨hu, fun v hv => ?_, ?_⟩, (fun h => by cases h), rfl⟩
    · subst hv
      rw [next_shown hn] at hr
      exact hr rfl
    · -- nothing of the launch or of the session depends on the retained surface
      cases hl : s.launchWorker with
      | none =>
        simp only [Working, hl] at hw ⊢
        obtain ⟨ha, hp, hs⟩ := hw
        rcases hs with hs | ⟨hs, -⟩
        · exact ⟨ha, hp, Or.inl hs⟩
        · rw [hga] at hs; cases hs
      | running | finished => simp only [Working, hl] at hw ⊢; exact hw

theorem observe_free (k : Controller) :
    k.observeLuaAppReturn.2.ok = true ∧ k.observeLuaAppReturn.1.Free := by
  unfold Controller.observeLuaAppReturn
  split
  · rename_i h
    simp only [Bool.and_eq_true, Bool.not_eq_true', Option.isNone_iff_eq_none] at h
    exact ⟨rfl, h.1.1, h.1.2⟩
  · exact ⟨rfl, rfl, rfl⟩

/-- Where a section of the drain leaves the composition. -/
def Reached (r : Composition × List Out × Next) (y : Stage) : Prop :=
  match r.2.2 with
  | .goto pc => AtPc pc r.1 y ∧ r.1.launchWorker = .none
  | .done _ => Follows r.1 y

/-- Reaping makes the launched game follow the window. -/
theorem reap_follows (h : Follows s y) (wait : Wait)
    (hc : wait = .joined → s.launchWorker = .finished → ∀ task ∈ s.activeLaunch, task.result.ok = true →
      shows y task.context.gameSurface = true) :
    Reached (s.drainWorker wait) y ∧ ∀ o ∈ (s.drainWorker wait).2.1, (⟨y, o⟩ : Sighting).Good := by
  have hw := h.working
  unfold Composition.drainWorker
  split
  · rename_i hl
    exact ⟨⟨h, hl⟩, by simp⟩
  · exact ⟨h, by simp⟩
  · exact ⟨h, by simp⟩
  · exact ⟨h, by simp⟩
  · rename_i hl
    simp only [Working, hl] at hw
    obtain ⟨hp, hga, task, ht, hd⟩ := hw
    simp only [ht, Option.map_some, Option.getD_some, Composition.reapLocked]
    rcases hd with ⟨hok, c, hk, hr⟩ | ⟨hok, hk⟩
    · rw [if_neg (by simp [hok])]
      refine ⟨⟨⟨h.usable, h.retained, ?_⟩, rfl⟩, by simp⟩
      obtain ⟨v, hv, hgv⟩ := shows_iff.mp (hc rfl hl task ht hok)
      subst hv
      simp only [Working]
      refine ⟨trivial, trivial, Or.inr ⟨hok, c, hk, ?_⟩⟩
      rw [← hgv] at hr
      exact hr
    · rw [if_pos (by simp [hok])]
      refine ⟨⟨h.usable, h.retained, ?_⟩, by simp⟩
      simp only [Working]
      exact ⟨trivial, trivial, Or.inl ⟨hok, hk⟩⟩

theorem start_follows (h : Follows s y) (hl : s.launchWorker = .none) :
    Reached s.drainStart y ∧ ∀ o ∈ s.drainStart.2.1, (⟨y, o⟩ : Sighting).Good := by
  have hw := h.working
  simp only [Working, hl] at hw
  obtain ⟨ha, hp, hs⟩ := hw
  have hsame : ∀ st, Reached (s, [], .done st) y ∧ ∀ o ∈ ([] : List Out), (⟨y, o⟩ : Sighting).Good := fun _ => ⟨h, by simp⟩
  unfold Composition.drainStart
  split
  · exact hsame _
  split
  · exact hsame _
  split
  · exact hsame _
  rename_i hgame
  have hga : s.gameActive = false := by simpa using hgame
  have hk : s.controller.Free := by
    rcases hs with ⟨-, hk⟩ | ⟨hg, -⟩
    · exact hk
    · rw [hga] at hg; cases hg
  split
  · exact hsame _
  split
  · refine ⟨⟨h.usable, h.retained, ?_⟩, by simp⟩
    simp only [Working, hl]
    exact ⟨ha, hp, hs⟩
  · refine ⟨⟨⟨⟨h.usable, h.retained, ?_⟩, hl, hga, rfl, _, rfl, rfl⟩, hl⟩, by simp⟩
    simp only [Working, Composition.unlaunched, hl]
    exact ⟨trivial, trivial, Or.inl ⟨hga, hk⟩⟩

theorem launch_follows (h : Launching s y) (startError : Int)
    (hc : startError = 0 → isShown y = true) :
    Reached (s.drainLaunch startError) y ∧ ∀ o ∈ (s.drainLaunch startError).2.1, (⟨y, o⟩ : Sighting).Good := by
  obtain ⟨hf, hl, hga, hp, task, ht, hsurface⟩ := h
  have hw := hf.working
  simp only [Working, Composition.unlaunched, hl] at hw
  obtain ⟨-, -, hs⟩ := hw
  have hk : s.controller.Free := by
    rcases hs with ⟨-, hk⟩ | ⟨hg, -⟩
    · exact hk
    · exact absurd (hga.symm.trans hg) Bool.false_ne_true
  unfold Composition.drainLaunch
  split
  · rename_i hz
    have hsh := hc (by simpa using hz)
    cases y with
    | made v => cases hsh
    | gone g => cases hsh
    | shown v =>
      refine ⟨⟨hf.usable, hf.retained, hp, hga, hk, by rw [ht]; rfl⟩, fun o ho => ?_⟩
      have hr : task.context.gameSurface = gameSurface v := hsurface.trans (hf.retained v rfl)
      simp only [ht, Option.toList_some, List.map_cons, List.map_nil, List.mem_singleton] at ho
      subst ho
      refine ⟨?_, ?_⟩
      · simp [shows, hr]
      · rw [hr]
        exact hf.usable
  · refine ⟨⟨hf.usable, hf.retained, ?_⟩, by simp⟩
    simp only [Working, hl]
    exact ⟨trivial, trivial, Or.inl ⟨hga, hk⟩⟩

theorem section_follows {pc : Pc} (h : AtPc pc s y) (hl : s.launchWorker = .none)
    (external : Status) (startError : Int) (hc : pc = .launch → startError = 0 → isShown y = true) :
    let r := drainSection s { external := external, startError := startError } pc
    Reached r y ∧ ∀ o ∈ r.2.1, (⟨y, o⟩ : Sighting).Good := by
  by_cases hlaunch : pc = .launch
  · subst hlaunch
    exact launch_follows h startError (hc rfl)
  unfold AtPc at h
  rw [if_neg hlaunch] at h
  have hw := h.working
  simp only [Working, hl] at hw
  obtain ⟨ha, hp, hs⟩ := hw
  cases pc with
  | idle => exact ⟨h, by simp [drainSection]⟩
  | consume =>
    simp only [drainSection, Composition.drainConsume]
    split
    · exact ⟨⟨⟨h.usable, h.retained, h.working⟩, hl⟩, by simp⟩
    · exact ⟨⟨h, hl⟩, by simp⟩
  | observe =>
    have ho := observe_free s.controller
    simp only [drainSection, Composition.drainObserve, ho.1, Bool.not_true, Bool.false_eq_true, if_false]
    refine ⟨⟨⟨h.usable, h.retained, ?_⟩, hl⟩, by simp⟩
    simp only [Working, hl]
    exact ⟨ha, hp, Or.inl ⟨rfl, ho.2⟩⟩
  | external =>
    simp only [drainSection, Composition.drainExternal]
    split
    · exact ⟨h, by simp⟩
    split
    · exact ⟨h, by simp⟩
    · exact ⟨⟨h, hl⟩, by simp⟩
  | decide =>
    simp only [drainSection, Composition.drainDecide]
    split
    · exact ⟨h, by simp⟩
    split
    · exact ⟨h, by simp⟩
    split
    · exact ⟨⟨⟨h.usable, h.retained, h.working⟩, hl⟩, by simp⟩
    · exact ⟨⟨h, hl⟩, by simp⟩
  | leave =>
    obtain ⟨h1, h2⟩ := leave_follows h (fun hf => by rw [hl] at hf; cases hf)
    simp only [drainSection, Composition.drainLeave]
    split
    · exact ⟨⟨h1.usable, h1.retained, h1.working⟩, by simp⟩
    · exact ⟨h1, by simp⟩
  | start => exact start_follows h hl
  | launch => exact absurd rfl hlaunch

/-- The invariant of the screen: a running drain has no worker. -/
structure InStep (w : Screen) : Prop where
  follows : AtPc w.sys.pc w.sys.comp w.stage
  draining : w.sys.pc ≠ .idle → w.sys.comp.launchWorker = .none

variable {w : Screen}

theorem InStep.atIdle (h : InStep w) (hi : w.sys.pc = .idle) : Follows w.sys.comp w.stage := by
  have hf := h.follows
  unfold AtPc at hf
  rwa [hi, if_neg (by decide)] at hf

theorem conclude_inStep {r : Composition × List Out × Next} (hr : Reached r y)
    (ho : ∀ o ∈ r.2.1, (⟨y, o⟩ : Sighting).Good) :
    InStep ⟨(conclude r).1, y⟩ ∧ ∀ o ∈ (conclude r).2.map (Sighting.mk y), o.Good := by
  unfold conclude
  unfold Reached at hr
  cases hn : r.2.2 with
  | goto pc =>
    rw [hn] at hr
    exact ⟨⟨hr.1, fun _ => hr.2⟩, by simpa using ho⟩
  | done st =>
    rw [hn] at hr
    refine ⟨⟨hr, fun hi => absurd rfl hi⟩, ?_⟩
    simp only [List.map_append, List.mem_append, List.mem_map, List.map_cons, List.map_nil, List.mem_singleton]
    intro o hor
    rcases hor with ⟨a, ha, rfl⟩ | rfl
    · exact ho a ha
    · trivial

/-- What the other threads change is no part of the invariant. -/
theorem AtPc.same {pc : Pc} {s s' : Composition} (h : AtPc pc s y) (hreadiness : s'.readiness = s.readiness)
    (hcontroller : s'.controller = s.controller) (hlaunch : s'.activeLaunch = s.activeLaunch)
    (hworker : s'.launchWorker = s.launchWorker) (hprogress : s'.launchInProgress = s.launchInProgress)
    (hgame : s'.gameActive = s.gameActive) : AtPc pc s' y := by
  have hsame : ∀ {s s' : Composition}, Follows s y → s'.readiness = s.readiness → s'.controller = s.controller →
      s'.activeLaunch = s.activeLaunch → s'.launchWorker = s.launchWorker → s'.launchInProgress = s.launchInProgress →
      s'.gameActive = s.gameActive → Follows s' y := by
    intro s s' hf h1 h2 h3 h4 h5 h6
    refine ⟨hf.usable, by rw [h1]; exact hf.retained, ?_⟩
    have hw := hf.working
    unfold Working Session at hw ⊢
    rw [h2, h3, h4, h5, h6]
    exact hw
  unfold AtPc at h ⊢
  split
  · rename_i hpc
    rw [if_pos hpc] at h
    refine ⟨hsame h.follows hreadiness hcontroller rfl hworker rfl hgame, hworker.trans h.worker, hgame.trans h.inactive,
      hprogress.trans h.progress, ?_⟩
    rw [hlaunch, hreadiness]
    exact h.task
  · rename_i hpc
    rw [if_neg hpc] at h
    exact hsame h hreadiness hcontroller hlaunch hworker hprogress hgame

theorem worker_inStep (h : InStep w) (checks : Status) :
    InStep ⟨{ w.sys with comp := w.sys.comp.runActiveLaunch { checks := checks } }, w.stage⟩ := by
  by_cases hi : w.sys.pc = .idle
  · refine ⟨?_, fun hne => absurd hi hne⟩
    show AtPc w.sys.pc _ _
    rw [hi]
    exact worker_follows (h.atIdle hi) checks
  · -- the drain has no worker
    have hnone := h.draining hi
    have hstill : w.sys.comp.runActiveLaunch { checks := checks } = w.sys.comp := by
      unfold Composition.runActiveLaunch
      split
      · rename_i hr _; rw [hr] at hnone; cases hnone
      · rename_i hr _; rw [hr] at hnone; cases hnone
      · rfl
    rw [hstill]
    exact h

theorem screen_inStep {e : ScreenEv} (h : InStep w) (hc : Settled w [] e) :
    InStep (screen.step w e).1 ∧ ∀ o ∈ (screen.step w e).2, o.Good := by
  cases e with
  | dispatch r =>
    obtain ⟨requests, hd⟩ := w.sys.comp.dispatch_requests r
    refine ⟨⟨?_, fun hi => ?_⟩, by simp [screen, Screen.step, stepSys, ScreenEv.host]⟩
    · show AtPc w.sys.pc (w.sys.comp.dispatch r).1 w.stage
      rw [hd]
      exact h.follows.same rfl rfl rfl rfl rfl rfl
    · show (w.sys.comp.dispatch r).1.launchWorker = .none
      rw [hd]
      exact h.draining hi
  | notifyReturn =>
    obtain ⟨pending, hn⟩ := w.sys.comp.notify_pending
    refine ⟨⟨?_, fun hi => ?_⟩, by simp [screen, Screen.step, stepSys, ScreenEv.host]⟩
    · show AtPc w.sys.pc w.sys.comp.notifyLuaAppDidReturn w.stage
      rw [hn]
      exact h.follows.same rfl rfl rfl rfl rfl rfl
    · show w.sys.comp.notifyLuaAppDidReturn.launchWorker = .none
      rw [hn]
      exact h.draining hi
  | presented =>
    simp only [screen, Screen.step, ScreenEv.host, stepSys, Composition.publishPresentedPresence]
    split
    · split
      · exact ⟨h, by simp⟩
      · exact ⟨⟨h.follows.same rfl rfl rfl rfl rfl rfl, h.draining⟩, by simp⟩
    · exact ⟨h, by simp⟩
  | worker checks => exact ⟨worker_inStep h checks, by simp [screen, Screen.step, stepSys, ScreenEv.host]⟩
  | drain wait =>
    simp only [screen, Screen.step, ScreenEv.host, stepSys]
    split
    · rename_i hi
      obtain ⟨h1, h2⟩ := reap_follows (h.atIdle hi) wait (hc hi)
      exact conclude_inStep h1 h2
    · exact ⟨h, by simp⟩
  | resume external startError =>
    simp only [screen, Screen.step, ScreenEv.host, stepSys]
    split
    · exact ⟨h, by simp⟩
    · rename_i hi
      obtain ⟨h1, h2⟩ := section_follows h.follows (h.draining hi) external startError hc
      exact conclude_inStep h1 h2
  | leaveGame =>
    simp only [screen, Screen.step, ScreenEv.host, stepSys]
    split
    · rename_i hi
      obtain ⟨h1, h2⟩ := leave_follows (h.atIdle hi) (hc hi)
      refine ⟨⟨?_, fun hi' => absurd hi hi'⟩, by simp⟩
      show AtPc w.sys.pc _ _
      rw [hi]
      exact h1
    · exact ⟨h, by simp⟩
  | surface d =>
    simp only [screen, Screen.step, ScreenEv.host, stepSys]
    split
    · rename_i z hn
      split
      · rename_i hi
        obtain ⟨h1, h2, h3⟩ := surface_follows (h.atIdle hi) hn
        refine ⟨⟨?_, fun hi' => absurd hi hi'⟩, ?_⟩
        · show AtPc w.sys.pc _ _
          rw [hi]
          exact h1
        simp only [List.map_cons, List.map_nil, List.mem_singleton, forall_eq]
        cases hga : w.sys.comp.gameActive with
        | true => exact h2 hga
        | false => trivial
      · exact ⟨h, by simp⟩
    · exact ⟨h, by simp⟩

theorem inStep_followed (h : InStep w) : w.Followed := by
  intro hga
  have hf := h.follows
  unfold AtPc at hf
  split at hf
  · exact absurd (hf.inactive.symm.trans hga) Bool.false_ne_true
  have hw := hf.working
  unfold Working at hw
  split at hw
  · rcases hw.2.2 with ⟨hf, -⟩ | ⟨-, c, ⟨-, hrt⟩, ht⟩
    · rw [hf] at hga; cases hga
    rw [hrt]
    cases hy : w.stage with
    | shown v => rw [hy] at ht; exact ⟨ht.1, ht.2.2.2.1⟩
    | made v => trivial
    | gone g => rw [hy] at ht; exact ht.1
  · rw [hw.2.1] at hga; cases hga
  · rw [hw.2.1] at hga; cases hga

/-- After a successful `OnLuaAppReady` on a shown surface. -/
def onScreen (r : Readiness) (v : WindowSurfaceSnapshot) : Screen := ⟨ready { r with surface := gameSurface v }, .shown v⟩

/-! ## Every run -/

theorem launches_follow_surface (r : Readiness) (v : WindowSurfaceSnapshot)
    (hr : { r with surface := gameSurface v }.complete = true) (es : List ScreenEv)
    (hg : screen.Guarded Settled (onScreen r v) es) :
    (∀ o ∈ (screen.run (onScreen r v) es).2, o.Good) ∧ (screen.run (onScreen r v) es).1.Followed := by
  have h0 : InStep (onScreen r v) := by
    simp only [Readiness.complete, Bool.and_eq_true] at hr
    refine ⟨⟨?_, ?_, ?_⟩, fun hi => absurd rfl hi⟩
    · simp only [onScreen, Usable, validSurface, Bool.and_eq_true]
      exact ⟨⟨⟨hr.1.1.1.1.2, hr.1.1.1.2⟩, hr.1.1.2⟩, hr.1.2⟩
    · intro s hs
      cases hs
      rfl
    · exact ⟨rfl, rfl, Or.inl ⟨rfl, rfl, rfl⟩⟩
  have hrun := screen.run_induct_guarded (I := fun w t => InStep w ∧ ∀ o ∈ t, o.Good) ⟨h0, by simp⟩
    (fun w t e h hc => ?_) es hg
  · exact ⟨hrun.2, inStep_followed hrun.1⟩
  · obtain ⟨h1, h2⟩ := screen_inStep h.1 (e := e) hc
    refine ⟨h1, fun o ho => ?_⟩
    rcases List.mem_append.mp ho with ho | ho
    · exact h.2 o ho
    · exact h2 o ho

/-! ## Runs -/

instance (o : Sighting) : Decidable o.Good := by
  unfold Sighting.Good
  split <;> infer_instance

instance (w : Screen) : Decidable w.Followed := by
  unfold Screen.Followed
  split <;> infer_instance

instance (w : Screen) (t : List Sighting) : ∀ e, Decidable (Settled w t e)
  | .resume _ _ => by unfold Settled; infer_instance
  | .drain _ => by unfold Settled; infer_instance
  | .leaveGame => by unfold Settled; infer_instance
  | .dispatch _ | .notifyReturn | .presented | .worker _ | .surface _ => .isTrue trivial

def demoWindow (g width : Nat) : WindowSurfaceSnapshot :=
  { generation := g, available := true, nativeWindow := 1, width := width, height := 480, dpiScale := F32.one }

def demoPlayer : Readiness where
  principal := { kind := .authenticated, generation := 1, principalId := "1", baseUrl := "https://www.roblox.com/" }
  username := "guest"

def drainScreen : List ScreenEv :=
  .drain .joined :: List.replicate 5 (.resume Status.okStatus 0)

def requestGame (json : String) : List ScreenEv :=
  .dispatch { placeId := 1, canonicalJson := json } :: drainScreen

/-- A game is launched, follows a resize and a recreation of the window. -/
def demoRecreation : List ScreenEv :=
  requestGame "a" ++ [ScreenEv.worker Status.okStatus] ++ drainScreen ++
    [ScreenEv.surface ⟨.changed, demoWindow 1 800⟩, ScreenEv.surface ⟨.destroyed, demoWindow 1 800⟩,
      ScreenEv.surface ⟨.created, demoWindow 2 800⟩, ScreenEv.surface ⟨.changed, demoWindow 2 800⟩]

theorem launches_follow_surface_demo : (screen.run (onScreen demoPlayer (demoWindow 1 640)) demoRecreation).1.Followed :=
  (launches_follow_surface demoPlayer (demoWindow 1 640) (by decide) demoRecreation (by decide)).2

/-- The window is lost and its game left before the next game is launched. -/
def demoLoss : List ScreenEv :=
  requestGame "a" ++ [ScreenEv.worker Status.okStatus] ++ drainScreen ++
    [ScreenEv.surface ⟨.destroyed, demoWindow 1 640⟩, ScreenEv.leaveGame] ++ requestGame "b"

/-- The window is resized during a launch. -/
def demoResize : List ScreenEv :=
  requestGame "a" ++ [ScreenEv.surface ⟨.changed, demoWindow 1 800⟩, ScreenEv.worker Status.okStatus] ++ drainScreen

theorem launch_surface_lost :
    (¬ ∀ o ∈ (screen.run (onScreen demoPlayer (demoWindow 1 640)) demoLoss).2, o.Good) ∧
      ¬ (screen.run (onScreen demoPlayer (demoWindow 1 640)) demoResize).1.Followed := by
  constructor
  · decide
  · decide

end Mocktail.Experience
