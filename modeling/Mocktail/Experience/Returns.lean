/-
  Mocktail.Experience.Returns — whose return to LuaApp a notification reports.

  `NotifyLuaAppDidReturn` sets one flag; it does not say which game returned. `World` adds
  what only the native side knows: which game the controller's session belongs to, which
  games were left and owe a notification, and whose notifications the flag stands for.
  A game is left by `LeaveGame` or on its own (`nativeReturn`), and its one notification is
  emitted at any time after.

  `View` is what the attribution depends on; `step_view` says once what a step does to it.
-/

import Mocktail.Experience.Composition

namespace Mocktail.Experience

open Mocktail.Lib

/-! ## What a step does to the sessions -/

structure View where
  /-- The controller holds a session. -/
  session : Bool
  active : Bool
  /-- The request id of the launch in progress. -/
  launch : Option Nat
  deriving DecidableEq, Repr

def Composition.view (s : Composition) : View :=
  ⟨s.controller.runtime.isSome, s.gameActive, s.activeLaunch.map (·.context.requestId)⟩

/-- What a step does to the view, with the event that does it. -/
inductive Moves (s : Sys) : Ev → View → Prop
  | stays (e : Ev) : Moves s e s.comp.view
  | launched (o : LaunchOutcome) (n : Nat) : s.comp.view.session = false → s.comp.view.launch = some n →
      Moves s (.worker o) { s.comp.view with session := true }
  | reaped (w : Wait) (n : Nat) (ok : Bool) : s.pc = .idle → s.comp.view.launch = some n →
      Moves s (.drain w) { s.comp.view with launch := none, active := ok }
  | left (native : Native) : s.pc = .idle → s.comp.view.session = true →
      Moves s (.leaveGame native) { s.comp.view with session := false, active := false }
  | switched (i : DrainInput) : s.pc = .leave → s.comp.view.session = true →
      Moves s (.resume i) { s.comp.view with session := false, active := false }
  | observed (i : DrainInput) : s.pc = .observe →
      Moves s (.resume i) { s.comp.view with session := false, active := false }
  | starts (i : DrainInput) : s.pc = .start → s.comp.startsLaunch = true → s.comp.view.launch = none →
      s.comp.view.active = false → Moves s (.resume i) { s.comp.view with launch := some s.comp.nextRequestId }
  | abandoned (i : DrainInput) : s.pc = .launch → Moves s (.resume i) { s.comp.view with launch := none }

theorem surfaceEvent_session (k : Controller) (native : Native) (o : Session.Op) (m : String) :
    (k.surfaceEvent native o m).1.runtime.isSome = k.runtime.isSome := by
  unfold Controller.surfaceEvent
  split
  · rename_i h; simp [h]
  · rfl

theorem surface_view (s : Composition) (native : Native) (lua : Status) (e : Window.WindowSurfaceEvent) :
    (s.surfaceEvent native lua e).1.view = s.view := by
  unfold Composition.surfaceEvent
  split
  · unfold Composition.surfaceCreated
    split
    · simp only [Composition.view, Controller.surfaceCreated, surfaceEvent_session]
    · simp only
      split <;> rfl
  · unfold Composition.surfaceChanged
    split
    · simp only
      split <;> simp only [Composition.view, Controller.rebindSurface, surfaceEvent_session]
    · split <;> rfl
  · unfold Composition.surfaceDestroyed
    split
    · simp only [Composition.view, Controller.surfaceDestroyed, surfaceEvent_session]
    · simp only
      split <;> rfl

theorem dispatch_view (s : Composition) (r : LaunchRequest) : (s.dispatch r).1.view = s.view := by
  obtain ⟨requests, hd⟩ := s.dispatch_requests r
  rw [hd]
  rfl

theorem notify_view (s : Composition) : s.notifyLuaAppDidReturn.view = s.view := by
  obtain ⟨pending, hn⟩ := s.notify_pending
  rw [hn]
  rfl

/-- A launch that takes effect needs a free controller. -/
theorem launch_session (k : Controller) (r : LaunchRequest) (x : LaunchContext) (o : LaunchOutcome) :
    (k.launch r x o).1.runtime.isSome = k.runtime.isSome ∨
      k.runtime.isSome = false ∧ (k.launch r x o).1.runtime.isSome = true := by
  unfold Controller.launch
  split
  · exact Or.inl rfl
  split
  · exact Or.inl rfl
  rename_i h
  have hn : k.runtime.isSome = false := by
    simp only [Bool.or_eq_true, not_or, Bool.not_eq_true] at h
    exact h.1.2
  split
  · exact Or.inl rfl
  split
  · exact Or.inl rfl
  split
  · exact Or.inl rfl
  simp only
  split
  · exact Or.inl (by simp [hn])
  · exact Or.inr ⟨hn, rfl⟩

theorem leave_session (k : Controller) (native : Native) :
    (k.leave native).2.ok = false ∧ (k.leave native).1.runtime.isSome = k.runtime.isSome ∨
      (k.leave native).2.ok = true ∧ k.runtime.isSome = true ∧ (k.leave native).1.runtime.isSome = false := by
  unfold Controller.leave
  split
  · rename_i c ha hr
    simp only
    split
    · rename_i h
      left
      refine ⟨?_, by simp [hr]⟩
      have h : (perform native c .leaveGame).2.ok = false := by simpa using h
      simp only [resultStatus, h, Bool.false_eq_true, if_false]
      split
      · rfl
      · rename_i hc; simpa using hc
    · exact Or.inr ⟨rfl, by simp [hr], rfl⟩
  · exact Or.inl ⟨rfl, rfl⟩

theorem observe_session (k : Controller) : k.observeLuaAppReturn.2.ok = true ∧
    k.observeLuaAppReturn.1.runtime.isSome = false := by
  unfold Controller.observeLuaAppReturn
  split
  · rename_i h
    simp only [Bool.and_eq_true, Option.isNone_iff_eq_none] at h
    exact ⟨rfl, by simp [h.1.2]⟩
  · exact ⟨rfl, rfl⟩

theorem conclude_comp (r : Composition × List Out × Next) : (conclude r).1.comp = r.1 := by
  unfold conclude
  split <;> rfl

theorem worker_view (s : Sys) (o : LaunchOutcome) : Moves s (.worker o) (s.comp.runActiveLaunch o).view := by
  unfold Composition.runActiveLaunch
  split
  · exact .stays _
  · rename_i task hw ht
    simp only
    have hl : s.comp.view.launch = some task.context.requestId := by simp [Composition.view, ht]
    have hsame : ∀ k : Controller, ∀ result : Status, k.runtime.isSome = s.comp.controller.runtime.isSome →
        Composition.view { s.comp with controller := k, activeLaunch := some { task with result := result },
                                       launchWorker := .finished } = s.comp.view := by
      intro k result hk
      simp [Composition.view, hk, ht]
    split
    · rcases launch_session s.comp.controller task.request task.context o with h | ⟨h1, h2⟩
      · rw [hsame _ _ h]; exact .stays _
      · have hv := Moves.launched (s := s) o task.context.requestId h1 hl
        simpa [Composition.view, h2, ht] using hv
    · rw [hsame _ _ rfl]; exact .stays _
  · exact .stays _

theorem drain_view (s : Sys) (hp : s.pc = .idle) (w : Wait) : Moves s (.drain w) (s.comp.drainWorker w).1.view := by
  unfold Composition.drainWorker
  split
  · exact .stays _
  · exact .stays _
  · exact .stays _
  · exact .stays _
  · simp only
    have hreap : ∀ result, Moves s (.drain .joined) (s.comp.reapLocked result).view := by
      intro result
      unfold Composition.reapLocked
      simp only
      split
      · rename_i task ht
        have hv := Moves.reaped (s := s) .joined task.context.requestId result.ok hp
          (by simp [Composition.view]; exact ⟨task, ht, rfl⟩)
        exact hv
      · exact .stays _
    split
    · exact hreap _
    · exact hreap _

theorem leaveGame_view (s : Composition) (native : Native) :
    (s.leaveGame native).1.view = s.view ∨
      (s.leaveGame native).2.ok = true ∧ s.view.session = true ∧
        (s.leaveGame native).1.view = { s.view with session := false, active := false } := by
  unfold Composition.leaveGame
  rcases leave_session s.controller native with ⟨h1, h2⟩ | ⟨h1, h2, h3⟩
  · simp only [h1, Bool.false_eq_true, if_false]
    exact Or.inl (by simp [Composition.view, h2])
  · simp only [h1, if_true]
    exact Or.inr ⟨trivial, h2, by simp [Composition.view, h3]⟩

theorem start_view (s : Sys) (hp : s.pc = .start) (i : DrainInput) :
    Moves s (.resume i) s.comp.drainStart.1.view := by
  unfold Composition.drainStart
  split
  · exact .stays _
  rename_i h1
  split
  · exact .stays _
  rename_i h2
  split
  · exact .stays _
  rename_i h3
  split
  · exact .stays _
  rename_i request rest hpend
  split
  · exact .stays _
  rename_i h4
  simp only [Bool.or_eq_true, not_or, Bool.not_eq_true, Option.isSome_eq_false_iff, Option.isNone_iff_eq_none] at h2
  simp only [Bool.or_eq_true, beq_iff_eq, not_or] at h4
  have hl : s.comp.view.launch = none := by simp [Composition.view, h2.2]
  have ha : s.comp.view.active = false := by simpa [Composition.view] using h3
  have hst : s.comp.startsLaunch = true := by
    have h1 : s.comp.subscribed = true := by simpa using h1
    have h3 : s.comp.gameActive = false := by simpa using h3
    simp [Composition.startsLaunch, h1, h2.1, h2.2, h3, hpend, h4.1, h4.2]
  exact .starts (s := s) i hp hst hl ha

theorem launch_view (s : Sys) (hp : s.pc = .launch) (i : DrainInput) :
    Moves s (.resume i) (s.comp.drainLaunch i.startError).1.view := by
  unfold Composition.drainLaunch
  split
  · exact .stays _
  · exact .abandoned i hp

theorem step_view (s : Sys) (e : Ev) : Moves s e (stepSys s e).1.comp.view := by
  cases e with
  | dispatch r => simp only [stepSys, dispatch_view]; exact .stays _
  | notifyReturn => simp only [stepSys, notify_view]; exact .stays _
  | presented =>
    simp only [stepSys, Composition.publishPresentedPresence]
    split
    · split <;> exact .stays _
    · exact .stays _
  | worker o => exact worker_view s o
  | drain w =>
    simp only [stepSys]
    split
    · rename_i hp; rw [conclude_comp]; exact drain_view s hp w
    · exact .stays _
  | leaveGame native =>
    simp only [stepSys]
    split
    · rename_i hp
      rcases leaveGame_view s.comp native with h | ⟨-, h1, h2⟩
      · simp only [h]; exact .stays _
      · simp only [h2]; exact .left native hp h1
    · exact .stays _
  | surface e native lua =>
    simp only [stepSys]
    split
    · simp only [surface_view]; exact .stays _
    · exact .stays _
  | resume i =>
    simp only [stepSys]
    split
    · exact .stays _
    rw [conclude_comp]
    cases hp : s.pc with
    | idle => exact .stays _
    | consume =>
      simp only [drainSection, Composition.drainConsume]
      split <;> exact .stays _
    | observe =>
      have ho := observe_session s.comp.controller
      simp only [drainSection, Composition.drainObserve, ho.1, Bool.not_true, Bool.false_eq_true, if_false]
      have := Moves.observed (s := s) i hp
      simpa [Composition.view, ho.2] using this
    | external =>
      simp only [drainSection, Composition.drainExternal]
      split
      · exact .stays _
      split <;> exact .stays _
    | decide =>
      simp only [drainSection, Composition.drainDecide]
      split
      · exact .stays _
      split
      · exact .stays _
      split <;> exact .stays _
    | leave =>
      simp only [drainSection, Composition.drainLeave]
      rcases leaveGame_view s.comp i.native with h | ⟨ho, h1, h2⟩
      · split
        · have : Moves s (.resume i) (s.comp.leaveGame i.native).1.view := by rw [h]; exact .stays _
          exact this
        · simp only [h]; exact .stays _
      · simp only [ho, Bool.not_true, Bool.false_eq_true, if_false, h2]
        exact .switched i hp h1
    | start => exact start_view s hp i
    | launch => exact launch_view s hp i

theorem conclude_observe {r : Composition × List Out × Next} (h : (conclude r).1.pc = .observe) :
    r.2.2 = .goto .observe := by
  unfold conclude at h
  split at h
  · rename_i pc hr; rw [hr]; exact congrArg _ h
  · cases h

theorem section_observe {s : Composition} {i : DrainInput} {pc : Pc}
    (h : (drainSection s i pc).2.2 = .goto .observe) : pc = .consume ∧ s.view.launch = none := by
  cases pc with
  | consume =>
    simp only [drainSection, Composition.drainConsume] at h
    split at h
    · rename_i hc
      simp only [Bool.and_eq_true, Option.isNone_iff_eq_none] at hc
      exact ⟨rfl, by simp [Composition.view, hc.2]⟩
    · cases h
  | idle => cases h
  | observe =>
    simp only [drainSection, Composition.drainObserve] at h
    split at h <;> cases h
  | external =>
    simp only [drainSection, Composition.drainExternal] at h
    split at h
    · cases h
    · split at h <;> cases h
  | decide =>
    simp only [drainSection, Composition.drainDecide] at h
    split at h
    · cases h
    · split at h
      · cases h
      · split at h <;> cases h
  | leave =>
    simp only [drainSection, Composition.drainLeave] at h
    split at h <;> cases h
  | start =>
    simp only [drainSection, Composition.drainStart] at h
    repeat (first | cases h | split at h)
  | launch =>
    simp only [drainSection, Composition.drainLaunch] at h
    split at h <;> cases h

/-- A drain observes a return only with no launch in progress. -/
theorem pc_observe {s : Sys} {e : Ev} (h : (stepSys s e).1.pc = .observe) :
    s.pc = .observe ∧ (∀ i, e ≠ .resume i) ∨ s.pc = .consume ∧ (∃ i, e = .resume i) ∧ s.comp.view.launch = none := by
  cases e with
  | dispatch r | notifyReturn | presented | worker o => exact Or.inl ⟨h, by simp⟩
  | drain w =>
    simp only [stepSys] at h
    split at h
    · have := conclude_observe h
      unfold Composition.drainWorker at this
      split at this <;> try cases this
      simp only at this
      split at this <;> cases this
    · exact Or.inl ⟨h, by simp⟩
  | leaveGame native | surface e native lua =>
    simp only [stepSys] at h
    split at h <;> exact Or.inl ⟨h, by simp⟩
  | resume i =>
    simp only [stepSys] at h
    split at h
    · rename_i hi; rw [show s.pc = .observe from h] at hi; cases hi
    · obtain ⟨h1, h2⟩ := section_observe (conclude_observe h)
      exact Or.inr ⟨h1, ⟨i, rfl⟩, h2⟩

/-! ## The native side -/

/-- The composition, and the games behind its sessions and its flag, by their request ids. -/
structure World where
  sys : Sys
  /-- The game of the controller's session. -/
  game : Option Nat := none
  /-- That game has already returned to LuaApp on its own. -/
  departed : Bool := false
  /-- The game `game_active_` stands for. -/
  activeGame : Option Nat := none
  /-- Games that were left and still owe their notification. -/
  owed : List Nat := []
  /-- Games whose notification the pending flag stands for. -/
  posted : List Nat := []
  /-- Games whose notification the running drain has consumed. -/
  taken : List Nat := []
  deriving DecidableEq, Repr

/-- A consumed flag, with the sessions it is consumed against. -/
structure Consumption where
  notified : List Nat
  session : Option Nat
  active : Option Nat
  launching : Option Nat
  deriving DecidableEq, Repr

inductive WorldEv where
  | host (e : Ev)
  /-- The running game returns to LuaApp on its own. -/
  | nativeReturn
  /-- The notification of a game that was left. -/
  | notify (game : Nat)

namespace World

variable (w : World)

/-- The world after the composition went to `s'`. -/
def after (s' : Sys) : World where
  sys := s'
  game :=
    if !s'.comp.view.session then none
    else if !w.sys.comp.view.session then w.sys.comp.view.launch
    else w.game
  departed := w.departed && s'.comp.view.session
  activeGame :=
    if !s'.comp.view.active then none
    else if !w.sys.comp.view.active then w.sys.comp.view.launch
    else w.activeGame
  -- a session that ends outside the observing section was left by `LeaveGame`
  owed :=
    if w.sys.comp.view.session && !s'.comp.view.session && w.sys.pc != .observe && !w.departed then
      w.owed ++ w.game.toList
    else w.owed
  posted := if w.sys.pc == .consume && s'.pc == .observe then [] else w.posted
  taken :=
    if w.sys.pc == .consume && s'.pc == .observe then w.posted
    else if s'.pc == .observe then w.taken
    else []

def consumption (s' : Sys) : List Consumption :=
  if w.sys.pc == .observe && s'.pc != .observe then
    [⟨w.taken, w.game, w.activeGame, w.sys.comp.view.launch⟩]
  else []

def step : WorldEv → World × List Consumption
  -- a notification is always some game's
  | .host .notifyReturn => (w, [])
  | .host e => (w.after (stepSys w.sys e).1, w.consumption (stepSys w.sys e).1)
  | .nativeReturn =>
    match w.game with
    | some i => if w.departed then (w, []) else ({ w with owed := w.owed ++ [i], departed := true }, [])
    | none => (w, [])
  | .notify i =>
    if i ∈ w.owed then
      ({ w with owed := w.owed.erase i, posted := w.posted ++ [i], sys := (stepSys w.sys .notifyReturn).1 }, [])
    else (w, [])

end World

/-- The composition with the native side; its output are the consumed flags. -/
def world : Machine World WorldEv Consumption := ⟨World.step⟩

/-- No later game is launching or active when the flag is consumed. -/
def Consumption.Attributed (r : Consumption) : Prop :=
  ∀ i ∈ r.notified, ∀ j, r.session = some j ∨ r.active = some j ∨ r.launching = some j → j ≤ i

/-- A launch is started only when no notification is outstanding and the controller holds no session. -/
def NoEarlyLaunch (w : World) (_ : List Consumption) : WorldEv → Prop
  | .host (.resume _) => w.sys.pc = .start → w.sys.comp.startsLaunch = true →
      w.owed = [] ∧ w.posted = [] ∧ w.sys.comp.controller.runtime = none
  | _ => True

/-! ## The invariant -/

structure Attribution (w : World) : Prop where
  session : w.game.isSome = w.sys.comp.view.session
  active : w.activeGame.isSome = w.sys.comp.view.active
  launching : ∀ n, w.sys.comp.view.launch = some n → w.activeGame = none ∧ ∀ j, w.game = some j → j = n
  same : ∀ a j, w.activeGame = some a → w.game = some j → a = j
  bound : ∀ i ∈ w.owed ++ w.posted ++ w.taken, (∀ j, w.game = some j → j ≤ i) ∧ (∀ j, w.activeGame = some j → j ≤ i) ∧
    ∀ n, w.sys.comp.view.launch = some n → n ≤ i
  observing : w.sys.pc = .observe → w.sys.comp.view.launch = none
  taken : w.sys.pc ≠ .observe → w.taken = []

variable {s' : Sys} {i n : Nat}

theorem mem_after {w : World}
    (h : i ∈ (w.after s').owed ++ (w.after s').posted ++ (w.after s').taken) :
    i ∈ w.owed ++ w.posted ++ w.taken ∨ w.game = some i ∧ w.sys.comp.view.session = true ∧
      s'.comp.view.session = false := by
  simp only [World.after, List.mem_append] at h ⊢
  rcases h with (h | h) | h
  · split at h
    · rename_i hc
      simp only [Bool.and_eq_true, Bool.not_eq_true'] at hc
      rcases List.mem_append.mp h with h | h
      · exact Or.inl (Or.inl (Or.inl h))
      · exact Or.inr ⟨by simpa using h, hc.1.1.1, hc.1.1.2⟩
    · exact Or.inl (Or.inl (Or.inl h))
  · split at h
    · cases h
    · exact Or.inl (Or.inl (Or.inr h))
  · split at h
    · exact Or.inl (Or.inl (Or.inr h))
    · split at h
      · exact Or.inl (Or.inr h)
      · cases h

/-- The conditions of `Attribution` that depend on what the step did. -/
theorem attribution_after {w : World} (hs : (w.after s').game.isSome = s'.comp.view.session)
    (ha : (w.after s').activeGame.isSome = s'.comp.view.active)
    (hl : ∀ n, s'.comp.view.launch = some n → (w.after s').activeGame = none ∧ ∀ j, (w.after s').game = some j → j = n)
    (hsame : ∀ a j, (w.after s').activeGame = some a → (w.after s').game = some j → a = j)
    (hb : ∀ i, i ∈ w.owed ++ w.posted ++ w.taken ∨ w.game = some i ∧ w.sys.comp.view.session = true ∧
      s'.comp.view.session = false → (∀ j, (w.after s').game = some j → j ≤ i) ∧
        (∀ j, (w.after s').activeGame = some j → j ≤ i) ∧ ∀ n, s'.comp.view.launch = some n → n ≤ i)
    (ho : s'.pc = .observe → s'.comp.view.launch = none) : Attribution (w.after s') := by
  refine ⟨hs, ha, hl, hsame, fun i hi => hb i (mem_after hi), ho, fun hp => ?_⟩
  have hp : s'.pc ≠ .observe := hp
  simp [World.after, hp]

/-- A step that keeps or ends the launch, the session and the active game. -/
theorem attribution_shrink {w : World} (h : Attribution w)
    (hl : ∀ n, s'.comp.view.launch = some n → w.sys.comp.view.launch = some n)
    (hs : s'.comp.view.session = true → w.sys.comp.view.session = true)
    (ha : s'.comp.view.active = true → w.sys.comp.view.active = true)
    (hend : s'.comp.view.session = false → w.sys.comp.view.session = true → s'.comp.view.active = false)
    (ho : s'.pc = .observe → s'.comp.view.launch = none) : Attribution (w.after s') := by
  have hgame : (w.after s').game = if s'.comp.view.session then w.game else none := by
    cases hs' : s'.comp.view.session with
    | false => simp [World.after, hs']
    | true => simp [World.after, hs', hs hs']
  have hact : (w.after s').activeGame = if s'.comp.view.active then w.activeGame else none := by
    cases ha' : s'.comp.view.active with
    | false => simp [World.after, ha']
    | true => simp [World.after, ha', ha ha']
  have hgame' : ∀ j, (w.after s').game = some j → w.game = some j := by
    intro j hj
    rw [hgame] at hj
    split at hj
    · exact hj
    · cases hj
  have hact' : ∀ j, (w.after s').activeGame = some j → w.activeGame = some j := by
    intro j hj
    rw [hact] at hj
    split at hj
    · exact hj
    · cases hj
  refine attribution_after ?_ ?_ (fun n hn => ?_) (fun a j h1 h2 => h.same a j (hact' a h1) (hgame' j h2))
    (fun i hi => ?_) ho
  · rw [hgame]
    cases hs' : s'.comp.view.session with
    | false => rfl
    | true => rw [if_pos rfl, h.session]; exact hs hs'
  · rw [hact]
    cases ha' : s'.comp.view.active with
    | false => rfl
    | true => rw [if_pos rfl, h.active]; exact ha ha'
  · obtain ⟨h1, h2⟩ := h.launching n (hl n hn)
    refine ⟨?_, fun j hj => h2 j (hgame' j hj)⟩
    rw [hact, h1]; simp
  · rcases hi with hi | ⟨hg, hse, hse'⟩
    · obtain ⟨h1, h2, h3⟩ := h.bound i hi
      exact ⟨fun j hj => h1 j (hgame' j hj), fun j hj => h2 j (hact' j hj), fun n hn => h3 n (hl n hn)⟩
    · -- the game that was just left
      refine ⟨fun j hj => ?_, fun j hj => ?_, fun n hn => ?_⟩
      · rw [hgame, hse'] at hj; cases hj
      · rw [hact, hend hse' hse] at hj; cases hj
      · have := (h.launching n (hl n hn)).2 i hg
        omega

/-- The launch's game takes the controller's free session. -/
theorem launched_attribution {w : World} (h : Attribution w) (hse : w.sys.comp.view.session = false)
    (hl : w.sys.comp.view.launch = some n) (hv : s'.comp.view = { w.sys.comp.view with session := true })
    (ho : s'.pc ≠ .observe) : Attribution (w.after s') := by
  obtain ⟨ha, -⟩ := h.launching n hl
  have hac : w.sys.comp.view.active = false := by rw [← h.active, ha]; rfl
  have hgame : (w.after s').game = some n := by simp [World.after, hv, hse, hl]
  have hact : (w.after s').activeGame = none := by simp [World.after, hv, hac]
  have hlaunch : ∀ m, s'.comp.view.launch = some m → n = m := by
    intro m hm
    rw [hv] at hm
    exact Option.some.inj (hl.symm.trans hm)
  refine attribution_after (by rw [hgame, hv]; rfl) (by rw [hact, hv]; simp [hac]) (fun m hm => ⟨hact, fun j hj => ?_⟩)
    (fun a j h1 _ => by rw [hact] at h1; cases h1) (fun i hi => ?_) (fun hp => absurd hp ho)
  · rw [hgame] at hj
    cases hj
    exact hlaunch m hm
  · rcases hi with hi | ⟨-, hse', -⟩
    · refine ⟨fun j hj => ?_, fun j hj => ?_, fun m hm => ?_⟩
      · rw [hgame] at hj
        cases hj
        exact (h.bound i hi).2.2 n hl
      · rw [hact] at hj
        cases hj
      · rw [← hlaunch m hm]
        exact (h.bound i hi).2.2 n hl
    · rw [hse] at hse'
      cases hse'

/-- The launch ends and its game is the active one if it succeeded. -/
theorem reaped_attribution {w : World} (h : Attribution w) {ok : Bool}
    (hl : w.sys.comp.view.launch = some n) (hv : s'.comp.view = { w.sys.comp.view with launch := none, active := ok }) :
    Attribution (w.after s') := by
  obtain ⟨ha, hgn⟩ := h.launching n hl
  have hac : w.sys.comp.view.active = false := by rw [← h.active, ha]; rfl
  have hgame : (w.after s').game = w.game := by
    cases hse : w.sys.comp.view.session with
    | false =>
      have hg : w.game = none := by simpa [hse] using h.session
      simp [World.after, hv, hse, hg]
    | true => simp [World.after, hv, hse]
  have hact : (w.after s').activeGame = if ok then some n else none := by
    cases ok <;> simp [World.after, hv, hac, hl]
  have hactive : ∀ j, (w.after s').activeGame = some j → n = j := by
    intro j hj
    rw [hact] at hj
    split at hj
    · exact Option.some.inj hj
    · cases hj
  refine attribution_after (by rw [hgame, hv]; exact h.session) (by rw [hact, hv]; cases ok <;> rfl)
    (fun m hm => by rw [hv] at hm; cases hm) (fun a j h1 h2 => ?_) (fun i hi => ?_) (fun _ => by rw [hv])
  · rw [hgame] at h2
    rw [← hactive a h1]
    exact (hgn j h2).symm
  · rcases hi with hi | ⟨-, h1, h2⟩
    · refine ⟨fun j hj => ?_, fun j hj => ?_, fun m hm => ?_⟩
      · rw [hgame] at hj
        exact (h.bound i hi).1 j hj
      · rw [← hactive j hj]
        exact (h.bound i hi).2.2 n hl
      · rw [hv] at hm
        cases hm
    · rw [hv, h1] at h2
      cases h2

/-- Nothing is outstanding when a launch starts. -/
theorem starts_attribution {w : World} (h : Attribution w) (hp : w.sys.pc = .start)
    (hw : w.owed = []) (hpo : w.posted = []) (hse : w.sys.comp.view.session = false)
    (hac : w.sys.comp.view.active = false) (hv : s'.comp.view = { w.sys.comp.view with launch := some n })
    (ho : s'.pc ≠ .observe) : Attribution (w.after s') := by
  have htk := h.taken (by simp [hp])
  have hgame : (w.after s').game = none := by simp [World.after, hv, hse]
  have hact : (w.after s').activeGame = none := by simp [World.after, hv, hac]
  refine attribution_after (by rw [hgame, hv]; exact hse.symm) (by rw [hact, hv]; exact hac.symm)
    (fun m _ => ⟨hact, fun j hj => by rw [hgame] at hj; cases hj⟩) (fun a j h1 _ => by rw [hact] at h1; cases h1)
    (fun i hi => ?_) (fun hp' => absurd hp' ho)
  rcases hi with hi | ⟨-, h1, -⟩
  · simp [hw, hpo, htk] at hi
  · rw [hse] at h1
    cases h1

theorem host_attribution {w : World} {e : Ev} (h : Attribution w) (hg : NoEarlyLaunch w [] (.host e)) :
    Attribution (w.after (stepSys w.sys e).1) := by
  have hm := step_view w.sys e
  have ho : (stepSys w.sys e).1.pc = .observe → w.sys.comp.view.launch = none ∧ w.sys.pc ≠ .start := by
    intro hp
    rcases pc_observe hp with ⟨h1, -⟩ | ⟨h1, -, h2⟩
    · exact ⟨h.observing h1, by simp [h1]⟩
    · exact ⟨h2, by simp [h1]⟩
  generalize hs : (stepSys w.sys e).1 = s' at hm ho ⊢
  generalize hv : s'.comp.view = v' at hm
  cases hm with
  | stays =>
    exact attribution_shrink h (by rw [hv]; exact fun _ => id) (by rw [hv]; exact id) (by rw [hv]; exact id)
      (fun h1 h2 => by rw [hv, h2] at h1; cases h1) (fun hp => by rw [hv]; exact (ho hp).1)
  | left native hp hse | switched i hp hse | observed i hp =>
    exact attribution_shrink h (by rw [hv]; exact fun _ => id) (by rw [hv]; simp) (by rw [hv]; simp) (fun _ _ => by rw [hv])
      (fun hp => by rw [hv]; exact (ho hp).1)
  | launched o n hse hl =>
    refine launched_attribution h hse hl hv (fun hp => ?_)
    rw [(ho hp).1] at hl
    cases hl
  | reaped wt n ok hp hl => exact reaped_attribution h hl hv
  | starts i hp hst hl hac =>
    obtain ⟨hw, hpo, hr⟩ := hg hp hst
    have hse : w.sys.comp.view.session = false := by simp [Composition.view, hr]
    exact starts_attribution h hp hw hpo hse hac hv (fun hp' => (ho hp').2 hp)
  | abandoned i hp =>
    exact attribution_shrink h (by rw [hv]; simp) (by rw [hv]; exact id) (by rw [hv]; exact id)
      (fun h1 h2 => by rw [hv] at h1; rw [h2] at h1; cases h1) (fun hp => by rw [hv])

theorem native_attribution {w : World} (h : Attribution w) (hi : w.game = some i) :
    Attribution { w with owed := w.owed ++ [i], departed := true } := by
  refine ⟨h.session, h.active, h.launching, h.same, fun n hn => ?_, h.observing, h.taken⟩
  have hn : n ∈ w.owed ++ w.posted ++ w.taken ∨ n = i := by
    simp only [List.mem_append, List.mem_singleton] at hn ⊢
    rcases hn with ((hn | hn) | hn) | hn
    · exact Or.inl (Or.inl (Or.inl hn))
    · exact Or.inr hn
    · exact Or.inl (Or.inl (Or.inr hn))
    · exact Or.inl (Or.inr hn)
  rcases hn with hn | rfl
  · exact h.bound n hn
  · refine ⟨fun j hj => ?_, fun j hj => ?_, fun m hm => ?_⟩
    · rw [show w.game = some j from hj] at hi; cases hi; exact Nat.le_refl _
    · have := h.same j n hj hi
      omega
    · have := (h.launching m hm).2 n hi
      omega

theorem notify_attribution {w : World} (h : Attribution w) (hi : i ∈ w.owed) :
    Attribution { w with owed := w.owed.erase i, posted := w.posted ++ [i], sys := (stepSys w.sys .notifyReturn).1 } := by
  have hv : (stepSys w.sys .notifyReturn).1.comp.view = w.sys.comp.view := notify_view w.sys.comp
  refine ⟨by rw [hv]; exact h.session, by rw [hv]; exact h.active, by rw [hv]; exact h.launching, h.same,
    fun n hn => ?_, fun hp => by rw [hv]; exact h.observing hp, h.taken⟩
  have hn : n ∈ w.owed ++ w.posted ++ w.taken := by
    simp only [List.mem_append, List.mem_singleton] at hn ⊢
    rcases hn with (hn | hn | hn) | hn
    · exact Or.inl (Or.inl (List.mem_of_mem_erase hn))
    · exact Or.inl (Or.inr hn)
    · exact Or.inl (Or.inl (hn ▸ hi))
    · exact Or.inr hn
  rw [hv]
  exact h.bound n hn

theorem world_attribution {w : World} {e : WorldEv} (h : Attribution w) (hg : NoEarlyLaunch w [] e) :
    Attribution (world.step w e).1 ∧ ∀ r ∈ (world.step w e).2, r.Attributed := by
  simp only [world]
  unfold World.step
  split
  · exact ⟨h, by simp⟩
  · rename_i e _
    refine ⟨host_attribution h hg, fun r hr => ?_⟩
    simp only [World.consumption] at hr
    split at hr
    · simp only [List.mem_singleton] at hr
      subst hr
      intro i hi j hj
      obtain ⟨h1, h2, h3⟩ := h.bound i (List.mem_append_right _ hi)
      rcases hj with hj | hj | hj
      · exact h1 j hj
      · exact h2 j hj
      · exact h3 j hj
    · cases hr
  · split
    · rename_i i hi
      split
      · exact ⟨h, by simp⟩
      · exact ⟨native_attribution h hi, by simp⟩
    · exact ⟨h, by simp⟩
  · split
    · rename_i i hi; exact ⟨notify_attribution h hi, by simp⟩
    · exact ⟨h, by simp⟩

theorem returns_attributed (r : Readiness) (es : List WorldEv)
    (hg : world.Guarded NoEarlyLaunch { sys := ready r } es) :
    ∀ c ∈ (world.run { sys := ready r } es).2, c.Attributed := by
  have h0 : Attribution { sys := ready r } := by
    constructor <;> simp [ready, Composition.view]
  refine (world.run_induct_guarded (I := fun w t => Attribution w ∧ ∀ c ∈ t, c.Attributed) ⟨h0, by simp⟩
    (fun w t e h hc => ?_) es hg).2
  obtain ⟨h1, h2⟩ := world_attribution h.1 (e := e) hc
  refine ⟨h1, fun c hmem => ?_⟩
  rcases List.mem_append.mp hmem with hmem | hmem
  · exact h.2 c hmem
  · exact h2 c hmem

/-! ## Runs -/

instance (w : World) (t : List Consumption) : ∀ e, Decidable (NoEarlyLaunch w t e)
  | .host e => by cases e <;> (unfold NoEarlyLaunch; infer_instance)
  | .nativeReturn => .isTrue trivial
  | .notify _ => .isTrue trivial

def demoReadiness : Readiness where
  principal := { kind := .authenticated, generation := 1, principalId := "1", baseUrl := "https://www.roblox.com/" }
  surface := Session.demoSurface 1
  username := "guest"

def demoRequest (json : String) : LaunchRequest := { placeId := 1, canonicalJson := json }

/-- A whole drain: the worker's section and the sections after it. -/
def drainAll (sections : Nat) : List WorldEv :=
  .host (.drain .joined) :: List.replicate sections (.host (.resume {}))

/-- A request is dispatched, launched and its game becomes active. -/
def playGame (json : String) : List WorldEv :=
  WorldEv.host (.dispatch (demoRequest json)) :: drainAll 5 ++ [WorldEv.host (.worker {})]

/-- Two games; the first one's return is notified before the second is launched. -/
def demoReturns : List WorldEv :=
  playGame "a" ++ drainAll 4 ++ [WorldEv.host (.leaveGame allOk), WorldEv.notify 1] ++ drainAll 5 ++ playGame "b"

theorem returns_attributed_demo : (world.run { sys := ready demoReadiness } demoReturns).2 ≠ [] ∧
    ∀ c ∈ (world.run { sys := ready demoReadiness } demoReturns).2, c.Attributed :=
  ⟨by decide, returns_attributed demoReadiness demoReturns (by decide)⟩

/-- The first game is left by a direct call, the second launched, and the first one's return then
releases the second. -/
def demoLateReturn : List WorldEv :=
  playGame "a" ++ drainAll 4 ++ [WorldEv.host (.leaveGame allOk)] ++ playGame "b" ++ [WorldEv.notify 1] ++ drainAll 2

theorem return_reaches_next_game :
    ¬ ∀ c ∈ (world.run { sys := ready demoReadiness } demoLateReturn).2, c.Attributed := by
  intro h
  have hc : (⟨[1], some 2, some 2, none⟩ : Consumption) ∈ (world.run { sys := ready demoReadiness } demoLateReturn).2 := by
    decide
  have := h _ hc 1 (by simp) 2 (Or.inl rfl)
  omega

end Mocktail.Experience
