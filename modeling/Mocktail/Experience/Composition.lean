/-
  Mocktail.Experience.Composition — the launch queue of `RobloxExperienceComposition`
  (src/runtime/roblox_experience_composition.cc) after `OnLuaAppReady`.

  Threads. The main loop (src/legacy/legacy_runtime.cc) delivers the window's surface
  events, calls `LeaveGame` and calls `DrainLaunchRequests`, one after another. Requests
  are dispatched, the LuaApp return is notified, the launch worker runs and frames are
  presented on other threads at any time. `DrainLaunchRequests` gives up `mutex_` between
  its sections, so it is a program counter (`Pc`) with one step per section, and the other
  threads' steps may fall between two of them. The other methods are one step each: what
  their sections read is written by the main loop only.

  The external launch broker's dispatches are dispatches like any other; only the status of
  draining it is an argument. Presence notifications and finished calls are the output.
-/

import Mocktail.Experience.LaunchController
import Mocktail.Session.Tracking

namespace Mocktail.Experience

open Mocktail.Session Mocktail.Window Mocktail.Lib

def kMaxPendingLaunchRequests : Nat := 8

/-- `std::numeric_limits<uint64_t>::max()`. -/
def maxRequestId : Nat := 2 ^ 64 - 1

/-- `RobloxLuaAppExperienceReadiness`. -/
structure Readiness where
  principal : GameSessionPrincipal := {}
  surface : GameSurface := {}
  username : String := ""
  isUnder13 : Bool := false
  deriving DecidableEq, Repr

def Readiness.complete (r : Readiness) : Bool :=
  (r.principal.kind == .authenticated && r.principal.generation != 0 && !r.principal.principalId.isEmpty &&
    !r.principal.baseUrl.isEmpty) &&
    r.surface.generation != 0 && r.surface.nativeWindow != 0 && r.surface.width != 0 && r.surface.height != 0 &&
    !r.username.isEmpty

structure LaunchTask where
  request : LaunchRequest
  context : LaunchContext
  result : Status := Status.okStatus
  deriving DecidableEq, Repr

/-- `launch_worker_`: not joinable, running, or finished and still to be joined. -/
inductive Worker where
  | none
  | running
  | finished
  deriving DecidableEq, Repr

structure Composition where
  subscribed : Bool := false
  readiness : Readiness := {}
  controller : Controller := {}
  pendingLaunchRequests : List LaunchRequest := []
  activeLaunch : Option LaunchTask := none
  presenceRequest : Option LaunchRequest := none
  activeGameCanonicalJson : String := ""
  launchWorker : Worker := .none
  nextRequestId : Nat := 1
  launchInProgress : Bool := false
  gameActive : Bool := false
  playingPresencePublished : Bool := false
  luaAppReturnPending : Bool := false
  controlledSwitchWaitingForReturn : Bool := false
  luaAppSurfaceRecreationPending : Bool := false
  deriving DecidableEq, Repr

inductive PresencePhase where
  | browsing
  | joining
  | playing
  deriving DecidableEq, Repr

inductive Out where
  | presence (phase : PresencePhase) (request : Option LaunchRequest)
  /-- A launch was started. -/
  | launched (task : LaunchTask)
  /-- `DrainLaunchRequests` returned. -/
  | drained (status : Status)
  | dispatched (request : LaunchRequest) (status : Status)
  | left (status : Status)
  /-- A surface event was handled, by the game controller if `forwarded`. -/
  | surface (e : WindowSurfaceEvent) (forwarded : Bool) (r : UpdateResult)
  deriving DecidableEq, Repr

namespace Composition

variable (s : Composition)

/-! ## Other threads -/

def dispatch (request : LaunchRequest) : Composition × Status :=
  if !s.subscribed then (s, Status.failedPrecondition "experience composition is not subscribed")
  else if request.canonicalJson != "" &&
      (s.gameActive && request.canonicalJson == s.activeGameCanonicalJson ||
        s.activeLaunch.any (fun t => request.canonicalJson == t.request.canonicalJson) ||
        s.pendingLaunchRequests.any (fun p => request.canonicalJson == p.canonicalJson)) then
    -- duplicate launch already active or queued; request acknowledged
    (s, Status.okStatus)
  else if decide (kMaxPendingLaunchRequests ≤ s.pendingLaunchRequests.length) then
    (s, Status.unavailable "experience launch request queue is full")
  else ({ s with pendingLaunchRequests := s.pendingLaunchRequests ++ [request] }, Status.okStatus)

theorem dispatch_requests (request : LaunchRequest) :
    ∃ requests, (s.dispatch request).1 = { s with pendingLaunchRequests := requests } := by
  unfold dispatch
  split
  · exact ⟨_, rfl⟩
  split
  · exact ⟨_, rfl⟩
  split
  · exact ⟨_, rfl⟩
  · exact ⟨_, rfl⟩

def notifyLuaAppDidReturn : Composition :=
  if s.subscribed then { s with luaAppReturnPending := true } else s

theorem notify_pending : ∃ pending, s.notifyLuaAppDidReturn = { s with luaAppReturnPending := pending } := by
  unfold notifyLuaAppDidReturn
  split
  · exact ⟨_, rfl⟩
  · exact ⟨_, rfl⟩

def publishPresentedPresence : Composition × List Out :=
  match s.presenceRequest with
  | some request =>
    if !s.subscribed || s.playingPresencePublished then (s, [])
    else ({ s with playingPresencePublished := true }, [.presence .playing (some request)])
  | none => (s, [])

/-- `RunActiveLaunch`, to the end of the worker's thread. -/
def runActiveLaunch (o : LaunchOutcome) : Composition :=
  match s.launchWorker, s.activeLaunch with
  | .running, none => { s with launchWorker := .finished }
  | .running, some task =>
    let launched := if o.objects.ok then s.controller.launch task.request task.context o else (s.controller, o.objects)
    let result := if launched.2.ok && !o.release.ok then o.release else launched.2
    { s with controller := launched.1, activeLaunch := some { task with result := result }, launchWorker := .finished }
  | _, _ => s

/-! ## `LeaveGame` -/

def leaveGame (native : Native) : Composition × Status :=
  let r := s.controller.leave native
  if r.2.ok then
    ({ s with controller := r.1, gameActive := false, activeGameCanonicalJson := "" }, r.2)
  else ({ s with controller := r.1 }, r.2)

/-! ## Surface events -/

def acceptedLuaAppSurface (message : String) : UpdateResult := ⟨.applied, .created, Status.okStatus, message⟩

def rejectedLuaAppSurface (status : Status) : UpdateResult := ⟨.rejected, .failure, status, status.message⟩

def surfaceCreated (native : Native) (generation : Nat) : Composition × UpdateResult :=
  if s.gameActive then
    let r := s.controller.surfaceCreated native generation
    ({ s with controller := r.1 }, r.2)
  else
    let s :=
      if generation != 0 then
        { s with
          luaAppSurfaceRecreationPending := s.luaAppSurfaceRecreationPending || s.readiness.surface.generation != generation
          readiness := { s.readiness with surface := { s.readiness.surface with generation := generation } } }
      else s
    (s, acceptedLuaAppSurface "LuaApp surface generation retained")

/-- `lua` is the status of restarting or rebinding the LuaApp surface. -/
def surfaceChanged (native : Native) (lua : Status) (surface : GameSurface) : Composition × UpdateResult :=
  if s.gameActive then
    let r := s.controller.rebindSurface native surface
    let s := { s with controller := r.1 }
    if r.2.ok then ({ s with readiness := { s.readiness with surface := surface } }, r.2) else (s, r.2)
  else if !lua.ok then (s, rejectedLuaAppSurface lua)
  else
    ({ s with readiness := { s.readiness with surface := surface }, luaAppSurfaceRecreationPending := false },
      acceptedLuaAppSurface "LuaApp surface rebound")

def surfaceDestroyed (native : Native) (generation : Nat) : Composition × UpdateResult :=
  if s.gameActive then
    let r := s.controller.surfaceDestroyed native generation
    ({ s with controller := r.1 }, r.2)
  else
    let s :=
      if s.readiness.surface.generation == generation then
        { s with
          luaAppSurfaceRecreationPending := true
          readiness :=
            { s.readiness with surface := { s.readiness.surface with nativeWindow := 0, width := 0, height := 0 } } }
      else s
    (s, acceptedLuaAppSurface "LuaApp surface destruction retained")

/-- The consumer the window's bridge is wired to. -/
def surfaceEvent (native : Native) (lua : Status) (e : WindowSurfaceEvent) : Composition × UpdateResult :=
  match e.type with
  | .created => s.surfaceCreated native e.surface.generation
  | .changed => s.surfaceChanged native lua (gameSurface e.surface)
  | .destroyed => s.surfaceDestroyed native e.surface.generation

end Composition

/-! ## `DrainLaunchRequests` -/

/-- The next section of a running drain. -/
inductive Pc where
  | idle
  | consume
  | observe
  | external
  | decide
  | leave
  | start
  /-- A launch is set up; its worker's thread is still to be started. -/
  | launch
  deriving DecidableEq, Repr

inductive Wait where
  | timedOut
  | joined
  | error (platformError : Int)
  deriving DecidableEq, Repr

/-- A section goes on, or returns from the call. -/
inductive Next where
  | goto (pc : Pc)
  | done (status : Status)
  deriving DecidableEq, Repr

def joinRequestTypeFor (request : LaunchRequest) : Int :=
  if 0 < request.conversationId then 6
  else if 0 < request.userId then 1
  else if !request.accessCode.isEmpty || !request.linkCode.isEmpty then 2
  else if !request.gameInstanceId.isEmpty then 3
  else if !request.reservedServerAccessCode.isEmpty then 8
  else 0

namespace Composition

variable (s : Composition)

def notSubscribed : Status := Status.failedPrecondition "experience composition is not subscribed"

/-- The joined worker's launch becomes the active game. -/
def reapLocked (result : Status) : Composition :=
  let s := { s with launchWorker := .none, launchInProgress := false }
  match s.activeLaunch with
  | some task =>
    { s with gameActive := result.ok
             activeGameCanonicalJson := if result.ok then task.request.canonicalJson else ""
             activeLaunch := none }
  | none => s

def drainWorker (wait : Wait) : Composition × List Out × Next :=
  match s.launchWorker, wait with
  | .none, _ => (s, [], .goto .consume)
  | .running, .joined => (s, [], .done Status.okStatus)
  | _, .timedOut => (s, [], .done Status.okStatus)
  | _, .error n =>
    (s, [], .done (Status.platformError ("could not reap experience launch worker: " ++ toString n)))
  | .finished, .joined =>
    let result := (s.activeLaunch.map (·.result)).getD Status.okStatus
    let s' := s.reapLocked result
    if !result.ok then
      ({ s' with pendingLaunchRequests := [], presenceRequest := none, playingPresencePublished := false },
        [.presence .browsing none], .done result)
    else (s', [], .goto .consume)

def drainConsume : Composition × List Out × Next :=
  if s.luaAppReturnPending && !s.launchInProgress && s.activeLaunch.isNone then
    -- Consume first so a concurrent callback can set a new observation.
    ({ s with luaAppReturnPending := false }, [], .goto .observe)
  else (s, [], .goto .external)

def drainObserve : Composition × List Out × Next :=
  let r := s.controller.observeLuaAppReturn
  let s := { s with controller := r.1 }
  if !r.2.ok then ({ s with luaAppReturnPending := true, pendingLaunchRequests := [] }, [], .done r.2)
  else
    ({ s with gameActive := false, activeGameCanonicalJson := "", presenceRequest := none,
              playingPresencePublished := false, controlledSwitchWaitingForReturn := false },
      [.presence .browsing none], .goto .external)

/-- `DrainExternalLaunchRequests`; a full queue leaves the request at the broker. -/
def drainExternal (external : Status) : Composition × List Out × Next :=
  if !s.subscribed then (s, [], .done notSubscribed)
  else if !external.ok && external.code != .unavailable then (s, [], .done external)
  else (s, [], .goto .decide)

def drainDecide : Composition × List Out × Next :=
  if !s.subscribed then (s, [], .done notSubscribed)
  else if s.controlledSwitchWaitingForReturn then (s, [], .done Status.okStatus)
  else if !s.launchInProgress && s.activeLaunch.isNone && s.gameActive && !s.pendingLaunchRequests.isEmpty then
    -- Start the queued launch only after consuming this leave callback, so it cannot reach
    -- the next controller.
    ({ s with controlledSwitchWaitingForReturn := true }, [], .goto .leave)
  else (s, [], .goto .start)

def drainLeave (native : Native) : Composition × List Out × Next :=
  let r := s.leaveGame native
  if !r.2.ok then ({ r.1 with controlledSwitchWaitingForReturn := false }, [.left r.2], .done r.2)
  else (r.1, [.left r.2], .done r.2)

def makeTask (request : LaunchRequest) : LaunchTask where
  request := request
  context :=
    { requestId := s.nextRequestId
      principal := s.readiness.principal
      gameSurface := s.readiness.surface
      username := s.readiness.username
      isUnder13 := s.readiness.isUnder13
      joinRequestType := joinRequestTypeFor request }

def drainStart : Composition × List Out × Next :=
  if !s.subscribed then (s, [], .done notSubscribed)
  else if s.launchInProgress || s.activeLaunch.isSome then (s, [], .done Status.okStatus)
  else if s.gameActive then (s, [], .done Status.okStatus)
  else
    match s.pendingLaunchRequests with
    | [] => (s, [], .done Status.okStatus)
    | request :: rest =>
      if s.nextRequestId == 0 || s.nextRequestId == maxRequestId then
        ({ s with pendingLaunchRequests := [] }, [],
          .done (Status.failedPrecondition "experience launch request id space is exhausted"))
      else
        ({ s with pendingLaunchRequests := rest
                  activeLaunch := some (s.makeTask request)
                  nextRequestId := s.nextRequestId + 1
                  launchInProgress := true
                  presenceRequest := some request
                  playingPresencePublished := false },
          [.presence .joining (some request)], .goto .launch)

/-- The worker's thread is started; if that fails the launch and the queue are given up. -/
def drainLaunch (startError : Int) : Composition × List Out × Next :=
  if startError == 0 then
    ({ s with launchWorker := .running }, s.activeLaunch.toList.map .launched, .done Status.okStatus)
  else
    ({ s with launchInProgress := false, activeLaunch := none, presenceRequest := none,
              activeGameCanonicalJson := "", playingPresencePublished := false, pendingLaunchRequests := [] },
      [.presence .browsing none],
      .done (Status.platformError ("could not start experience launch worker: " ++ toString startError)))

/-- `drainStart` sets up a launch. -/
def startsLaunch : Bool :=
  s.subscribed && !s.launchInProgress && s.activeLaunch.isNone && !s.gameActive && !s.pendingLaunchRequests.isEmpty &&
    s.nextRequestId != 0 && s.nextRequestId != maxRequestId

end Composition

/-! ## The component -/

structure Sys where
  comp : Composition
  pc : Pc := .idle
  deriving DecidableEq, Repr

/-- What the sections of a drain are answered. -/
structure DrainInput where
  external : Status := Status.okStatus
  native : Native := allOk
  startError : Int := 0

inductive Ev where
  | dispatch (request : LaunchRequest)
  | notifyReturn
  | presented
  /-- The worker runs its launch to the end. -/
  | worker (o : LaunchOutcome)
  /-- The main loop calls `DrainLaunchRequests`. -/
  | drain (wait : Wait)
  /-- The running drain's next section. -/
  | resume (i : DrainInput)
  | leaveGame (native : Native)
  | surface (e : WindowSurfaceEvent) (native : Native) (lua : Status)

/-- A section of the drain. -/
def drainSection (s : Composition) (i : DrainInput) : Pc → Composition × List Out × Next
  | .idle => (s, [], .done Status.okStatus)
  | .consume => s.drainConsume
  | .observe => s.drainObserve
  | .external => s.drainExternal i.external
  | .decide => s.drainDecide
  | .leave => s.drainLeave i.native
  | .start => s.drainStart
  | .launch => s.drainLaunch i.startError

def conclude (r : Composition × List Out × Next) : Sys × List Out :=
  match r.2.2 with
  | .goto pc => (⟨r.1, pc⟩, r.2.1)
  | .done st => (⟨r.1, .idle⟩, r.2.1 ++ [Out.drained st])

def stepSys (s : Sys) : Ev → Sys × List Out
  | .dispatch r => ({ s with comp := (s.comp.dispatch r).1 }, [.dispatched r (s.comp.dispatch r).2])
  | .notifyReturn => ({ s with comp := s.comp.notifyLuaAppDidReturn }, [])
  | .presented => ({ s with comp := s.comp.publishPresentedPresence.1 }, s.comp.publishPresentedPresence.2)
  | .worker o => ({ s with comp := s.comp.runActiveLaunch o }, [])
  | .drain wait => if s.pc = .idle then conclude (s.comp.drainWorker wait) else (s, [])
  | .resume i => if s.pc = .idle then (s, []) else conclude (drainSection s.comp i s.pc)
  | .leaveGame native =>
    if s.pc = .idle then ({ s with comp := (s.comp.leaveGame native).1 }, [.left (s.comp.leaveGame native).2])
    else (s, [])
  | .surface e native lua =>
    if s.pc = .idle then
      ({ s with comp := (s.comp.surfaceEvent native lua e).1 },
        [.surface e s.comp.gameActive (s.comp.surfaceEvent native lua e).2])
    else (s, [])

def sys : Machine Sys Ev Out := ⟨stepSys⟩

/-- After a successful `OnLuaAppReady`. -/
def ready (r : Readiness) : Sys := ⟨{ subscribed := true, readiness := r }, .idle⟩

end Mocktail.Experience
