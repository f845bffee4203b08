/-
  Mocktail.Window.SurfaceBridge — `WindowGameSurfaceBridge`
  (src/window/window_game_surface_bridge.cc) between a window's surface lifecycle and a
  consumer of its events.

  `Drain` polls until the queue is empty and hands each event to the consumer before the
  next one leaves the queue; a rejected event makes the bridge terminal. The bridge is
  generic in the consumer; `world` wires it to a `GameSessionCoordinator` whose capabilities
  return ok. `drain_tracks`: the three machines stay in step, so no drain fails and after
  each the game runs on the window's surface, or is paused while there is none.
-/

import Mocktail.Session.Tracking

namespace Mocktail.Window

open Mocktail.Lib Mocktail.Session

/-- `WindowGameSurfaceConsumer`, as functions of the consumer's state. -/
structure WindowGameSurfaceConsumer (γ : Type) where
  created : γ → Nat → γ × UpdateResult
  changed : γ → GameSurface → γ × UpdateResult
  destroyed : γ → Nat → γ × UpdateResult

structure Bridge where
  acceptedEvents : UInt64 := 0
  duplicateEvents : UInt64 := 0
  lastGeneration : Nat := 0
  lastEventType : WindowSurfaceEventType := .changed
  failed : Bool := false
  terminalStatus : Status := Status.okStatus
  deriving DecidableEq, Repr

structure DrainResult where
  status : Status := Status.okStatus
  drainedEvents : Nat := 0
  deriving DecidableEq, Repr

/-- What a drain leaves: the events still queued, the bridge and the consumer. -/
structure Drained (γ : Type) where
  queue : List WindowSurfaceEvent
  bridge : Bridge
  consumer : γ
  result : DrainResult

namespace Bridge

variable {γ : Type} (consumer : WindowGameSurfaceConsumer γ) (observer : Option (WindowSurfaceEvent → Status))

def validateEvent (e : WindowSurfaceEvent) : Status :=
  if e.surface.generation == 0 then Status.invalidArgument "window surface event has no generation"
  else
    match e.type with
    | .created => Status.okStatus
    | .changed =>
      if !e.surface.available || e.surface.nativeWindow == 0 || e.surface.width == 0 || e.surface.height == 0 then
        Status.invalidArgument "changed window surface requires an available handle and extent"
      else Status.okStatus
    | .destroyed => Status.okStatus

def dispatch (c : γ) (e : WindowSurfaceEvent) : γ × UpdateResult :=
  match e.type with
  | .created => consumer.created c e.surface.generation
  | .changed => consumer.changed c (gameSurface e.surface)
  | .destroyed => consumer.destroyed c e.surface.generation

def fail (b : Bridge) (status : Status) : Bridge := { b with terminalStatus := status, failed := true }

def rejection (update : UpdateResult) : Status :=
  Status.failedPrecondition
    (if update.cause.ok then "GAME lifecycle rejected surface event" else update.cause.message)

/-- The snapshot after a committed event. -/
def commit (b : Bridge) (e : WindowSurfaceEvent) (update : UpdateResult) : Bridge :=
  let b := { b with lastEventType := e.type, lastGeneration := e.surface.generation }
  if update.changed then { b with acceptedEvents := b.acceptedEvents + 1 }
  else { b with duplicateEvents := b.duplicateEvents + 1 }

def observed (e : WindowSurfaceEvent) : Status :=
  match observer with
  | some committed => committed e
  | none => Status.okStatus

/-- The loop of `Drain`: polling takes the head of the queue. -/
def drainLoop : List WindowSurfaceEvent → Bridge → γ → Nat → Drained γ
  | [], b, c, n => ⟨[], b, c, ⟨Status.okStatus, n⟩⟩
  | e :: queue, b, c, n =>
    let validation := validateEvent e
    if !validation.ok then ⟨queue, b.fail validation, c, ⟨validation, n + 1⟩⟩
    else
      let update := dispatch consumer c e
      if !update.2.ok then
        ⟨queue, b.fail (rejection update.2), update.1, ⟨rejection update.2, n + 1⟩⟩
      else
        let observeStatus := observed observer e
        if !observeStatus.ok then ⟨queue, b.fail observeStatus, update.1, ⟨observeStatus, n + 1⟩⟩
        else drainLoop queue (b.commit e update.2) update.1 (n + 1)

def drain (queue : List WindowSurfaceEvent) (b : Bridge) (c : γ) : Drained γ :=
  if !b.terminalStatus.ok then ⟨queue, b, c, ⟨b.terminalStatus, 0⟩⟩
  else drainLoop consumer observer queue b c 0

end Bridge

/-! ## The window, the bridge and a game session -/

structure World where
  window : Lifecycle
  bridge : Bridge := {}
  session : Coordinator
  deriving DecidableEq, Repr

inductive WorldEv where
  | observe (nativeWindow width height : Nat) (dpiScale : F32)
  | refresh
  | recreate
  | drain
  deriving DecidableEq, Repr

variable (cfg : Config) (observer : Option (WindowSurfaceEvent → Status))

/-- `MakeWindowGameSurfaceConsumer`, with every capability of the session returning ok. -/
def sessionConsumer : WindowGameSurfaceConsumer Coordinator where
  created c g := settle cfg c (.surfaceCreated g)
  changed c s := settle cfg c (.rebindSurface s)
  destroyed c g := settle cfg c (.surfaceDestroyed g)

def World.drained (w : World) : Drained Coordinator :=
  w.bridge.drain (sessionConsumer cfg) observer w.window.events w.session

/-- The three components as a machine; its output are the results of the drains. -/
def world : Machine World WorldEv DrainResult where
  step w
    | .observe nw wd ht d => ({ w with window := (w.window.observe nw wd ht d).1 }, [])
    | .refresh => ({ w with window := w.window.refresh.1 }, [])
    | .recreate => ({ w with window := w.window.recreate.1 }, [])
    | .drain =>
      let d := w.drained cfg observer
      ({ window := { w.window with events := d.queue }, bridge := d.bridge, session := d.consumer }, [d.result])

theorem dispatch_settle (c : Coordinator) (e : WindowSurfaceEvent) :
    Bridge.dispatch (sessionConsumer cfg) c e = settle cfg c (surfaceOp true e) := by
  unfold Bridge.dispatch surfaceOp
  cases e.type <;> rfl

/-- An event a tracked surface may show passes the bridge's validation. -/
theorem next_validates {c : Coordinator} {y z : Stage} {e : WindowSurfaceEvent} (h : Tracks c y)
    (hn : y.next e = some z) : (Bridge.validateEvent e).ok = true := by
  obtain ⟨t, s'⟩ := e
  have hgood : ∀ g, g ≠ 0 → Stage.carries s' g = true → ∀ t, (Bridge.validateEvent ⟨t, s'⟩).ok = true := by
    intro g hg hc t
    have hav : s'.available = true := by
      simp only [Stage.carries, Bool.and_eq_true] at hc; exact hc.1.2
    obtain ⟨h1, h2, -⟩ := carries_valid hc hg
    simp only [validSurface, gameSurface, Bool.and_eq_true, bne_iff_ne] at h2
    cases t <;> simp [Bridge.validateEvent, h2, hav]
  cases y with
  | shown s =>
    cases t with
    | created => cases hn
    | changed =>
      simp only [Stage.next] at hn
      split at hn
      · rename_i hc; exact hgood _ h.2.2.2.2 hc _
      · cases hn
    | destroyed =>
      simp only [Stage.next] at hn
      split at hn
      · rename_i hc
        have hg : s'.generation = s.generation := by simpa using hc
        simp [Bridge.validateEvent, hg, h.2.2.2.2]
      · cases hn
  | made s =>
    cases t with
    | changed =>
      simp only [Stage.next] at hn
      split at hn
      · rename_i hc; exact hgood _ h.2.2.2.2.2 hc _
      · cases hn
    | created => cases hn
    | destroyed => cases hn
  | gone g =>
    cases t with
    | created =>
      simp only [Stage.next] at hn
      split at hn
      · rename_i hc; exact hgood (g + 1) (by omega) hc _
      · cases hn
    | changed => cases hn
    | destroyed => cases hn

variable {observer}

theorem loop_tracks (hob : ∀ e, (Bridge.observed observer e).ok = true) (queue : List WindowSurfaceEvent) :
    ∀ (b : Bridge) (c : Coordinator) (n : Nat) (y z : Stage), b.terminalStatus.ok = true → Tracks c y →
      y.feed queue = some z →
      (Bridge.drainLoop (sessionConsumer cfg) observer queue b c n).queue = [] ∧
        (Bridge.drainLoop (sessionConsumer cfg) observer queue b c n).bridge.terminalStatus.ok = true ∧
        (Bridge.drainLoop (sessionConsumer cfg) observer queue b c n).result.status.ok = true ∧
        Tracks (Bridge.drainLoop (sessionConsumer cfg) observer queue b c n).consumer z := by
  induction queue with
  | nil =>
    intro b c n y z hb ht hf
    cases hf
    exact ⟨rfl, hb, rfl, ht⟩
  | cons e queue ih =>
    intro b c n y z hb ht hf
    have hf : (y.next e).bind (fun y' => y'.feed queue) = some z := by simpa [Stage.feed] using hf
    cases hn : y.next e with
    | none => rw [hn] at hf; cases hf
    | some y' =>
      rw [hn] at hf
      obtain ⟨ht', hok⟩ := tracks_next cfg ht true hn
      have hv := next_validates ht hn
      rw [← dispatch_settle] at ht' hok
      simp only [Bridge.drainLoop, hv, hok, hob e, Bool.not_true, Bool.false_eq_true, if_false]
      refine ih _ _ _ y' z ?_ ht' hf
      unfold Bridge.commit
      simp only
      split <;> exact hb

/-- The window's queue leads from the stage the session tracks to the window's snapshot. -/
structure InStep (w : World) : Prop where
  bridge : w.bridge.terminalStatus.ok = true
  session : ∃ y, Tracks w.session y ∧ Follows y w.window []

theorem drain_tracks (hob : ∀ e, (Bridge.observed observer e).ok = true) {w : World} (h : InStep w) :
    (w.drained cfg observer).queue = [] ∧ (w.drained cfg observer).bridge.terminalStatus.ok = true ∧
      (w.drained cfg observer).result.status.ok = true ∧
      Tracks (w.drained cfg observer).consumer (Stage.of w.window.current) := by
  obtain ⟨y, ht, hf⟩ := h.session
  unfold World.drained Bridge.drain
  rw [if_neg (by simp [h.bridge])]
  exact loop_tracks cfg hob w.window.events w.bridge w.session 0 y _ h.bridge ht hf.feed

theorem step_inStep (hob : ∀ e, (Bridge.observed observer e).ok = true) {w : World} (h : InStep w) (e : WorldEv) :
    InStep ((world cfg observer).step w e).1 ∧ ∀ r ∈ ((world cfg observer).step w e).2, r.status.ok = true := by
  obtain ⟨y, ht, hf⟩ := h.session
  cases e with
  | observe nw wd hg d => exact ⟨⟨h.bridge, y, ht, observe_follows hf nw wd hg d⟩, by simp [world]⟩
  | refresh => exact ⟨⟨h.bridge, y, ht, refresh_follows hf⟩, by simp [world]⟩
  | recreate => exact ⟨⟨h.bridge, y, ht, recreate_follows hf⟩, by simp [world]⟩
  | drain =>
    obtain ⟨hq, hb, hr, ht'⟩ := drain_tracks cfg hob h
    refine ⟨⟨hb, Stage.of w.window.current, ht', ?_, hf.usable⟩, by simpa [world] using hr⟩
    show (Stage.of w.window.current).feed ([] ++ (w.drained cfg observer).queue) = _
    rw [hq]; rfl

/-- The game runs on the window's surface, or is paused while there is none. -/
def OnSurface (c : Coordinator) (s : WindowSurfaceSnapshot) : Prop :=
  if s.available then c.state = .running ∧ c.activeSurface = gameSurface s else c.state = .paused

theorem tracks_onSurface {c : Coordinator} {s : WindowSurfaceSnapshot} (h : Tracks c (Stage.of s)) : OnSurface c s := by
  unfold Stage.of at h
  unfold OnSurface
  split
  · rename_i ha; rw [if_pos ha] at h; exact ⟨h.1, h.2.2.2.1⟩
  · rename_i ha; rw [if_neg ha] at h; exact h.1

theorem bridge_refines (hob : ∀ f, observer = some f → ∀ e, (f e).ok = true) {l : Lifecycle} {nw wd ht : Nat} {d : F32}
    (ha : (l.activate nw wd ht d).2.ok = true) {ses : List Ev}
    (hr : ((sys cfg).run fresh ses).1.c.state = .running)
    (hs : ((sys cfg).run fresh ses).1.c.activeSurface = gameSurface (l.activate nw wd ht d).1.snapshot)
    (es : List WorldEv) :
    let w₀ : World := { window := (l.activate nw wd ht d).1, session := ((sys cfg).run fresh ses).1.c }
    (∀ r ∈ ((world cfg observer).run w₀ es).2, r.status.ok = true) ∧
      OnSurface ((world cfg observer).run w₀ (es ++ [WorldEv.drain])).1.session
        ((world cfg observer).run w₀ (es ++ [WorldEv.drain])).1.window.snapshot := by
  intro w₀
  have hob' : ∀ e, (Bridge.observed observer e).ok = true := by
    intro e
    unfold Bridge.observed
    split
    · rename_i f; exact hob f rfl e
    · rfl
  have h0 : InStep w₀ := by
    refine ⟨rfl, .shown (l.activate nw wd ht d).1.current, ?_, activate_follows ha⟩
    have hph := (reach_inv cfg ses).phase
    simp only [Phase, hr] at hph
    refine ⟨hr, hph.1, hph.2, hs, ?_⟩
    rw [(activate_ok ha).2]
    simp
  have hrun : ∀ es, InStep ((world cfg observer).run w₀ es).1 ∧
      ∀ r ∈ ((world cfg observer).run w₀ es).2, r.status.ok = true := by
    refine (world cfg observer).run_induct (I := fun w t => InStep w ∧ ∀ r ∈ t, r.status.ok = true)
      ⟨h0, by simp⟩ fun w t e h => ?_
    obtain ⟨h1, h2⟩ := step_inStep cfg hob' h.1 e
    refine ⟨h1, fun r hr => ?_⟩
    rcases List.mem_append.mp hr with hr | hr
    · exact h.2 r hr
    · exact h2 r hr
  refine ⟨(hrun es).2, ?_⟩
  rw [Machine.run_snoc]
  exact tracks_onSurface (drain_tracks cfg hob' (hrun es).1).2.2.2

/-- The demo session on its window. -/
def demoWorld : World :=
  { window := (({} : Lifecycle).activate 1 640 480 F32.one).1, session := ((sys demoConfig).run fresh demoStart).1.c }

/-- The window is resized, drained, recreated and minimised. -/
def demoResizes : List WorldEv := [.observe 1 800 600 F32.one, .drain, .recreate, .observe 0 0 0 F32.one]

theorem bridge_refines_demo : OnSurface
    ((world demoConfig none).run demoWorld (demoResizes ++ [WorldEv.drain])).1.session
    ((world demoConfig none).run demoWorld (demoResizes ++ [WorldEv.drain])).1.window.snapshot :=
  (@bridge_refines demoConfig none (by simp) {} 1 640 480 F32.one (by decide) demoStart (by decide) (by decide)
    demoResizes).2

end Mocktail.Window
