/-
  Mocktail.Session.Coordinator — `GameSessionCoordinator`
  (src/runtime/game_session_coordinator.cc).

  A lifecycle method takes `operation_mutex_` for its whole length and `mutex_` around the
  state; it calls at most one native capability, and releases `mutex_` while that call
  runs. So a method is two turns at the lock: `begin` runs it up to its return (`done`) or
  up to its capability call (`call`, with the locals the rest needs in a `Frame`), and
  `finish` runs the rest with the status the capability returned. `recordGamePresent` takes
  `mutex_` only, so it may come while a capability is running.

  `sys` is the whole component as a machine: a method starts when none is running (another
  caller waits on `operation_mutex_`, a step that changes nothing), the running capability
  returns with any status, and present evidence arrives at any time. Its observations are
  the capability calls, their returns and the results handed to the callers.

  Generations, handles and extents are unsigned machine words that are only compared here;
  they are `Nat`. The capability table is which entries are set.
-/

import Mocktail.Base.Status
import Mocktail.Lib.Trace

namespace Mocktail.Session

/-! ## Data -/

inductive PrincipalKind where
  | localGuest
  | authenticated
  deriving DecidableEq, Repr

structure GameSessionPrincipal where
  kind : PrincipalKind := .localGuest
  generation : Nat := 0
  principalId : String := ""
  baseUrl : String := ""
  deriving DecidableEq, Repr

structure GameJoinRequest where
  requestId : Nat := 0
  placeId : Int := 0
  launchParameters : String := ""
  deriving DecidableEq, Repr

structure GameSurface where
  generation : Nat := 0
  nativeWindow : Nat := 0
  width : Nat := 0
  height : Nat := 0
  dpiScale : F32 := F32.zero
  deriving DecidableEq, Repr

inductive GamePresentBackend where
  | unknown
  | vulkan
  | openGlEs
  deriving DecidableEq, Repr

structure GamePresentEvidence where
  surfaceGeneration : Nat := 0
  frameSerial : Nat := 0
  backend : GamePresentBackend := .unknown
  presentSucceeded : Bool := false
  deriving DecidableEq, Repr

/-- Which entries of the capability table are set. -/
structure GameSessionCapabilities where
  setGameForeground : Bool := false
  startGame : Bool := false
  updateSurface : Bool := false
  pauseGame : Bool := false
  resumeGame : Bool := false
  leaveGame : Bool := false
  shutdownRuntime : Bool := false
  deriving DecidableEq, Repr

def GameSessionCapabilities.complete (t : GameSessionCapabilities) : Bool :=
  t.setGameForeground && t.startGame && t.updateSurface && t.pauseGame && t.resumeGame && t.leaveGame &&
    t.shutdownRuntime

/-- The coordinator's two constants: `capabilities_` and `requirements_`. -/
structure Config where
  capabilities : GameSessionCapabilities
  requiredPresentBackend : GamePresentBackend := .vulkan
  deriving DecidableEq, Repr

inductive GameSessionState where
  | created
  | principalReady
  | joinRequestQueued
  | preparingSurface
  | surfaceCreated
  | surfaceAvailable
  | starting
  | running
  | updatingSurface
  | pausing
  | paused
  | resuming
  | leaving
  | returnedToLuaApp
  | failure
  | stopping
  | stopped
  deriving DecidableEq, Repr

def gameSessionStateName : GameSessionState → String
  | .created => "Created"
  | .principalReady => "PrincipalReady"
  | .joinRequestQueued => "JoinRequestQueued"
  | .preparingSurface => "PreparingSurface"
  | .surfaceCreated => "SurfaceCreated"
  | .surfaceAvailable => "SurfaceAvailable"
  | .starting => "Starting"
  | .running => "Running"
  | .updatingSurface => "UpdatingSurface"
  | .pausing => "Pausing"
  | .paused => "Paused"
  | .resuming => "Resuming"
  | .leaving => "Leaving"
  | .returnedToLuaApp => "ReturnedToLuaApp"
  | .failure => "Failure"
  | .stopping => "Stopping"
  | .stopped => "Stopped"

inductive UpdateStatus where
  | applied
  | duplicate
  | rejected
  deriving DecidableEq, Repr

structure UpdateResult where
  status : UpdateStatus := .rejected
  state : GameSessionState := .created
  cause : Status := Status.okStatus
  message : String := ""
  deriving DecidableEq, Repr

def UpdateResult.ok (r : UpdateResult) : Bool := r.status != .rejected

def UpdateResult.changed (r : UpdateResult) : Bool := r.status == .applied

structure Coordinator where
  state : GameSessionState := .created
  revision : UInt64 := 0
  principalReady : Bool := false
  joinRequestQueued : Bool := false
  surfaceCreated : Bool := false
  pendingSurfaceAvailable : Bool := false
  activeSurfaceAvailable : Bool := false
  initialStartCompleted : Bool := false
  gamePaused : Bool := false
  pendingPresent : Bool := false
  gamePresented : Bool := false
  returnedToLuaApp : Bool := false
  shutdownAttempted : Bool := false
  preparedSurfaceGeneration : Nat := 0
  lastDestroyedSurfaceGeneration : Nat := 0
  principal : GameSessionPrincipal := {}
  request : GameJoinRequest := {}
  pendingSurface : GameSurface := {}
  activeSurface : GameSurface := {}
  pendingPresentEvidence : GamePresentEvidence := {}
  firstPresentedFrame : Nat := 0
  failureReason : String := ""
  deriving DecidableEq, Repr

/-! ## Validity and sameness -/

def validPrincipal (p : GameSessionPrincipal) : Bool :=
  if p.generation == 0 || p.baseUrl.isEmpty then false
  else if p.kind == .authenticated then !p.principalId.isEmpty
  else p.kind == .localGuest && p.principalId.isEmpty

def validRequest (r : GameJoinRequest) : Bool :=
  r.requestId != 0 && decide (0 ≤ r.placeId) && !r.launchParameters.isEmpty

def validSurface (s : GameSurface) : Bool :=
  s.generation != 0 && s.nativeWindow != 0 && s.width != 0 && s.height != 0

def samePrincipal (a b : GameSessionPrincipal) : Bool :=
  a.kind == b.kind && a.generation == b.generation && a.principalId == b.principalId && a.baseUrl == b.baseUrl

def sameRequest (a b : GameJoinRequest) : Bool :=
  a.requestId == b.requestId && a.placeId == b.placeId && a.launchParameters == b.launchParameters

def sameSurface (a b : GameSurface) : Bool :=
  a.generation == b.generation && a.nativeWindow == b.nativeWindow && a.width == b.width &&
    a.height == b.height && a.dpiScale.feq b.dpiScale

/-! ## The helpers under the lock -/

namespace Coordinator

variable (c : Coordinator)

/-- `state_ = state; ++revision_`. -/
@[simp] def enter (state : GameSessionState) : Coordinator := { c with state := state, revision := c.revision + 1 }

@[simp] def applyLocked (state : GameSessionState) (message : String) : Coordinator × UpdateResult :=
  (c.enter state, ⟨.applied, state, Status.okStatus, message⟩)

@[simp] def duplicateLocked (message : String) : Coordinator × UpdateResult :=
  (c, ⟨.duplicate, c.state, Status.okStatus, message⟩)

def failureText (cause : Status) (message : String) : String :=
  if cause.message.isEmpty then message else message ++ ": " ++ cause.message

@[simp] def failLocked (cause : Status) (message : String) : Coordinator × UpdateResult :=
  ({ c.enter .failure with failureReason := failureText cause message },
    ⟨.rejected, .failure, cause, failureText cause message⟩)

@[simp] def rejectLocked (cause : Status) (message : String) : Coordinator × UpdateResult :=
  (c, ⟨.rejected, c.state, cause, message⟩)

@[simp] def rejectTerminalLocked (operation : String) : Coordinator × UpdateResult :=
  let message := operation ++ " rejected in state " ++ gameSessionStateName c.state
  c.rejectLocked (Status.failedPrecondition message) message

def preStartStateLocked : GameSessionState :=
  if c.pendingSurfaceAvailable then .surfaceAvailable
  else if c.joinRequestQueued then .joinRequestQueued
  else if c.surfaceCreated then .surfaceCreated
  else .principalReady

def isForwardTerminalLocked : Bool :=
  c.state == .failure || c.state == .returnedToLuaApp || c.state == .stopping || c.state == .stopped

def isPresentShapeValidLocked (cfg : Config) (e : GamePresentEvidence) : Bool :=
  e.presentSucceeded && e.frameSerial != 0 && e.surfaceGeneration != 0 && e.backend != .unknown &&
    (cfg.requiredPresentBackend == .unknown || e.backend == cfg.requiredPresentBackend)

@[simp] def discardPendingSurfaceLocked : Coordinator := { c with pendingSurfaceAvailable := false, pendingSurface := {} }

@[simp] def discardPendingPresentLocked : Coordinator := { c with pendingPresent := false, pendingPresentEvidence := {} }

@[simp] def promotePendingSurfaceLocked : Coordinator :=
  { c with activeSurface := c.pendingSurface, activeSurfaceAvailable := true }.discardPendingSurfaceLocked

/-- `game_presented_ = true; first_presented_frame_ = serial; ++revision_`. -/
@[simp] def markPresented (serial : Nat) : Coordinator :=
  { c with gamePresented := true, firstPresentedFrame := serial, revision := c.revision + 1 }

def commitPendingPresentLocked : Coordinator :=
  (if c.pendingPresent && !c.gamePresented then c.markPresented c.pendingPresentEvidence.frameSerial
  else c).discardPendingPresentLocked

end Coordinator

/-! ## Operations up to their capability call -/

/-- A capability call with the arguments it is passed. -/
inductive Call where
  | setGameForeground
  | startGame (principal : GameSessionPrincipal) (request : GameJoinRequest) (surface : GameSurface)
  | updateSurface (surface : GameSurface)
  | pauseGame
  | resumeGame (surface : GameSurface)
  | leaveGame
  | shutdownRuntime
  deriving DecidableEq, Repr

/-- A method inside its capability call, with the locals the rest of it reads. -/
inductive Frame where
  | creating (generation : Nat)
  | starting (principal : GameSessionPrincipal) (request : GameJoinRequest) (surface : GameSurface)
      (acceptedMessage : String)
  | updating (surface : GameSurface)
  | pausing
  | resuming (surface : GameSurface)
  | leaving
  | stopping
  deriving DecidableEq, Repr

def Frame.call : Frame → Call
  | .creating _ => .setGameForeground
  | .starting p r s _ => .startGame p r s
  | .updating s => .updateSurface s
  | .pausing => .pauseGame
  | .resuming s => .resumeGame s
  | .leaving => .leaveGame
  | .stopping => .shutdownRuntime

/-- What a method does before it gives up `mutex_`: return, or call a capability. -/
inductive Turn where
  | done (out : Coordinator × UpdateResult)
  | call (c : Coordinator) (f : Frame)

inductive Op where
  | setPrincipal (principal : GameSessionPrincipal)
  | queueJoinRequest (request : GameJoinRequest)
  | surfaceCreated (generation : Nat)
  | surfaceChanged (surface : GameSurface)
  | rebindSurface (surface : GameSurface)
  | surfaceDestroyed (generation : Nat)
  | leaveGame
  | shutdown
  deriving DecidableEq, Repr

variable (cfg : Config) (c : Coordinator)

def setPrincipal (principal : GameSessionPrincipal) : Turn :=
  if c.principalReady then
    if samePrincipal c.principal principal then .done (c.duplicateLocked "game-session principal already accepted")
    else if c.isForwardTerminalLocked then .done (c.rejectTerminalLocked "replace game-session principal")
    else .done (c.failLocked (Status.failedPrecondition "game-session principal replacement is forbidden")
      "conflicting game-session principal")
  else if c.isForwardTerminalLocked then .done (c.rejectTerminalLocked "set game-session principal")
  else if c.state != .created then
    .done (c.failLocked (Status.failedPrecondition "principal must be set first") "invalid principal order")
  else if !cfg.capabilities.complete then
    .done (c.failLocked (Status.unavailable "game-session capability table is incomplete")
      "cannot accept principal without complete native capabilities")
  else if !validPrincipal principal then
    .done (c.failLocked
      (Status.invalidArgument
        "principal generation and base URL are required; authenticated principals also require an ID")
      "invalid game-session principal")
  else
    .done ({ c with principal := principal, principalReady := true }.applyLocked .principalReady
      "game-session principal accepted")

def startIfReadyLocked (acceptedMessage : String) : Turn :=
  if !c.principalReady || !c.joinRequestQueued || !c.surfaceCreated || !c.pendingSurfaceAvailable ||
      c.initialStartCompleted then
    .done (c.failLocked (Status.failedPrecondition "initial StartGame prerequisites are incomplete")
      "internal start precondition rejected")
  else
    .call (c.enter .starting).discardPendingPresentLocked
      (.starting c.principal c.request c.pendingSurface acceptedMessage)

def queueJoinRequest (request : GameJoinRequest) : Turn :=
  if c.joinRequestQueued then
    if sameRequest c.request request then .done (c.duplicateLocked "game join request already queued")
    else if c.isForwardTerminalLocked then .done (c.rejectTerminalLocked "replace game join request")
    else .done (c.failLocked (Status.failedPrecondition "queued game join request is immutable")
      "conflicting game join request")
  else if c.isForwardTerminalLocked then .done (c.rejectTerminalLocked "queue game join request")
  else if !c.principalReady then
    .done (c.failLocked (Status.failedPrecondition "game-session principal is required before join")
      "game join request arrived before principal")
  else if !validRequest request then
    .done (c.failLocked (Status.invalidArgument "request ID and launch parameters are required")
      "invalid game join request")
  else if request.placeId != 0 && c.principal.kind != .authenticated then
    .done (c.failLocked
      (Status.failedPrecondition "authenticated principal is required for a network game join")
      "local guest attempted a non-local game join")
  else
    let c' := { c with request := request, joinRequestQueued := true }
    if !c.pendingSurfaceAvailable then
      .done (c'.applyLocked .joinRequestQueued "game join request queued; waiting for changed surface")
    else startIfReadyLocked c' "game join request completed start prerequisites"

def surfaceCreated (generation : Nat) : Turn :=
  if c.surfaceCreated && generation != 0 && generation == c.preparedSurfaceGeneration then
    .done (c.duplicateLocked "surface generation is already prepared")
  else if c.isForwardTerminalLocked then .done (c.rejectTerminalLocked "create game surface")
  else if !c.principalReady then
    .done (c.failLocked (Status.failedPrecondition "game-session principal is required before surface events")
      "SurfaceCreated arrived before principal")
  else if generation == 0 then
    .done (c.failLocked (Status.invalidArgument "surface generation is required") "invalid created surface")
  else if c.initialStartCompleted && c.state != .paused then
    .done (c.failLocked (Status.failedPrecondition "a new surface can be prepared only after the game pauses")
      "SurfaceCreated arrived while game was not paused")
  else if c.initialStartCompleted &&
      (generation == c.activeSurface.generation || generation == c.lastDestroyedSurfaceGeneration) then
    .done (c.failLocked (Status.invalidArgument "recreated surface requires a new lifetime generation")
      "paused game received stale SurfaceCreated generation")
  else if !c.initialStartCompleted && c.surfaceCreated then
    .done (c.failLocked
      (Status.failedPrecondition "current prepared surface must be destroyed before replacement")
      "conflicting SurfaceCreated generation")
  else .call (c.enter .preparingSurface) (.creating generation)

def updateSurface (surface : GameSurface) (forceRebind : Bool) : Turn :=
  if c.isForwardTerminalLocked then .done (c.rejectTerminalLocked "change game surface")
  else if !c.principalReady then
    .done (c.failLocked (Status.failedPrecondition "game-session principal is required before surface events")
      "SurfaceChanged arrived before principal")
  else if !validSurface surface then
    .done (c.failLocked (Status.invalidArgument "surface generation, native window and dimensions are required")
      "invalid changed surface")
  else if !c.surfaceCreated || surface.generation != c.preparedSurfaceGeneration then
    .done (c.failLocked
      (Status.failedPrecondition "SurfaceChanged requires a matching successful SurfaceCreated")
      "unprepared SurfaceChanged generation")
  else if !c.initialStartCompleted then
    if c.pendingSurfaceAvailable && sameSurface c.pendingSurface surface then
      .done (c.duplicateLocked "initial candidate surface already current")
    else
      let c' := { c with pendingSurface := surface, pendingSurfaceAvailable := true }
      if !c.joinRequestQueued then
        .done (c'.applyLocked .surfaceAvailable "changed surface accepted; waiting for join request")
      else startIfReadyLocked c' "changed surface completed start prerequisites"
  else if c.state == .paused then
    .call (({ c with pendingSurface := surface, pendingSurfaceAvailable := true }.discardPendingPresentLocked).enter
      .resuming) (.resuming surface)
  else if c.state != .running then
    .done (c.failLocked (Status.failedPrecondition "surface update requires a running game")
      "invalid SurfaceChanged order")
  else if !forceRebind && c.activeSurfaceAvailable && sameSurface c.activeSurface surface then
    .done (c.duplicateLocked "running game surface already current")
  else
    .call (({ c with pendingSurface := surface, pendingSurfaceAvailable := true }.discardPendingPresentLocked).enter
      .updatingSurface) (.updating surface)

def surfaceChanged (surface : GameSurface) : Turn := updateSurface c surface false

def rebindSurface (surface : GameSurface) : Turn := updateSurface c surface true

/-- The facts of a host destruction: no window of `generation` is left to render to. -/
@[simp] def Coordinator.forgetSurface (generation : Nat) : Coordinator :=
  ({ c with surfaceCreated := false, preparedSurfaceGeneration := 0,
            lastDestroyedSurfaceGeneration := generation }.discardPendingSurfaceLocked).discardPendingPresentLocked

def surfaceDestroyed (generation : Nat) : Turn :=
  if !c.surfaceCreated && !c.pendingSurfaceAvailable && !c.activeSurfaceAvailable && generation != 0 &&
      generation == c.lastDestroyedSurfaceGeneration then
    .done (c.duplicateLocked "surface generation is already destroyed")
  else if c.isForwardTerminalLocked then .done (c.rejectTerminalLocked "destroy game surface")
  else if generation == 0 then
    .done (c.failLocked (Status.invalidArgument "surface generation is required") "invalid destroyed surface")
  else if !c.initialStartCompleted then
    let matchesPrepared := c.surfaceCreated && generation == c.preparedSurfaceGeneration
    let matchesCandidate := c.pendingSurfaceAvailable && generation == c.pendingSurface.generation
    if !matchesPrepared && !matchesCandidate then
      .done (c.failLocked (Status.failedPrecondition "destroyed surface was never prepared")
        "unknown pre-start SurfaceDestroyed generation")
    else
      let c' := c.forgetSurface generation
      .done (c'.applyLocked c'.preStartStateLocked "unused pre-start surface destroyed")
  else if c.state != .running || !c.activeSurfaceAvailable then
    .done (c.failLocked (Status.failedPrecondition "SurfaceDestroyed requires an active running game")
      "invalid SurfaceDestroyed order")
  else if generation != c.activeSurface.generation then
    .done (c.failLocked (Status.failedPrecondition "destroyed surface is not the active surface")
      "conflicting SurfaceDestroyed generation")
  else .call (({ c with activeSurfaceAvailable := false }.forgetSurface generation).enter .pausing) .pausing

def leaveGame : Turn :=
  if c.returnedToLuaApp then .done (c.duplicateLocked "game already returned to LuaApp")
  else if c.isForwardTerminalLocked then .done (c.rejectTerminalLocked "leave game")
  else if !c.initialStartCompleted || (c.state != .running && c.state != .paused) then
    .done (c.failLocked (Status.failedPrecondition "LeaveGame requires a started game")
      "game leave arrived before initial start")
  else .call (c.enter .leaving) .leaving

def shutdown : Turn :=
  if c.state == .stopped then .done (c.duplicateLocked "game runtime is already stopped")
  else if c.shutdownAttempted then
    .done (c.rejectLocked
      (Status.failedPrecondition "a failed shutdown is not retried after possible side effects")
      "game runtime shutdown was already attempted")
  else if !cfg.capabilities.shutdownRuntime then
    .done (c.failLocked (Status.unavailable "ShutdownGameRuntime capability is missing")
      "cannot stop game runtime")
  else .call ({ c with shutdownAttempted := true }.enter .stopping) .stopping

def begin : Op → Turn
  | .setPrincipal p => setPrincipal cfg c p
  | .queueJoinRequest r => queueJoinRequest c r
  | .surfaceCreated g => surfaceCreated c g
  | .surfaceChanged s => surfaceChanged c s
  | .rebindSurface s => rebindSurface c s
  | .surfaceDestroyed g => surfaceDestroyed c g
  | .leaveGame => leaveGame c
  | .shutdown => shutdown cfg c

/-! ## Operations after their capability returned -/

/-- The reset `LeaveGame` and `Shutdown` share once their capability succeeded. -/
@[simp] def Coordinator.releaseSession : Coordinator :=
  ({ c with activeSurfaceAvailable := false, surfaceCreated := false, preparedSurfaceGeneration := 0,
            gamePaused := false }.discardPendingSurfaceLocked).discardPendingPresentLocked

@[simp] def Coordinator.discardPending : Coordinator := c.discardPendingSurfaceLocked.discardPendingPresentLocked

def finish (f : Frame) (status : Status) : Coordinator × UpdateResult :=
  match f with
  | .creating generation =>
    if !status.ok then c.failLocked status "ES.onSurfaceCreated foreground callback failed"
    else
      let c' := { c with surfaceCreated := true, preparedSurfaceGeneration := generation }
      c'.applyLocked (if c'.initialStartCompleted then .paused else c'.preStartStateLocked)
        "surface generation prepared and game foregrounded"
  | .starting _ _ _ acceptedMessage =>
    if !status.ok then c.discardPending.failLocked status "StartGame callback failed"
    else
      ({ c.promotePendingSurfaceLocked with initialStartCompleted := true,
                                            gamePaused := false }.commitPendingPresentLocked).applyLocked
        .running (acceptedMessage ++ "; initial game started without ResumeGame")
  | .resuming _ =>
    if !status.ok then c.discardPending.failLocked status "ResumeGame callback failed"
    else
      ({ c.promotePendingSurfaceLocked with gamePaused := false }.commitPendingPresentLocked).applyLocked .running
        "game resumed with recreated surface"
  | .updating _ =>
    if !status.ok then c.discardPending.failLocked status "UpdateSurfaceGame callback failed"
    else
      (c.promotePendingSurfaceLocked.commitPendingPresentLocked).applyLocked .running
        "running game surface updated"
  | .pausing =>
    if !status.ok then c.failLocked status "PauseGame callback failed"
    else { c with gamePaused := true }.applyLocked .paused "game paused after surface destruction"
  | .leaving =>
    if !status.ok then c.failLocked status "LeaveGame callback failed"
    else
      ({ c with returnedToLuaApp := true }.releaseSession).applyLocked .returnedToLuaApp
        "game returned to LuaApp; app runtime remains alive"
  | .stopping =>
    if !status.ok then c.failLocked status "ShutdownGameRuntime callback failed"
    else c.releaseSession.applyLocked .stopped "entire game app runtime stopped"

/-! ## Present evidence -/

def matchesPending (e : GamePresentEvidence) : Bool :=
  c.pendingSurfaceAvailable && e.surfaceGeneration == c.pendingSurface.generation

def matchesActive (e : GamePresentEvidence) : Bool :=
  c.activeSurface.generation != 0 && e.surfaceGeneration == c.activeSurface.generation

/-- `defer_until_native_success`. -/
def deferred (e : GamePresentEvidence) : Bool :=
  match c.state with
  | .starting | .resuming | .updatingSurface => matchesPending c e
  | _ => false

/-- `immediate_observation`. -/
def immediate (e : GamePresentEvidence) : Bool :=
  match c.state with
  -- A same-generation resize is still pending until UpdateSurface succeeds.
  | .updatingSurface => !matchesPending c e && matchesActive c e && c.activeSurfaceAvailable
  | .running => matchesActive c e && c.activeSurfaceAvailable
  -- A queued render-thread present can arrive after host destruction.
  | .pausing | .paused => matchesActive c e
  | _ => false

def recordGamePresent (e : GamePresentEvidence) : Coordinator × UpdateResult :=
  if !Coordinator.isPresentShapeValidLocked cfg e then
    c.rejectLocked (Status.invalidArgument "present must succeed with a serial and required backend")
      "malformed or unsupported game present evidence"
  else if !deferred c e && !immediate c e then
    c.rejectLocked (Status.failedPrecondition "present evidence does not match a current or pending surface")
      "stale game present evidence"
  else if c.gamePresented then c.duplicateLocked "real game frame was already presented"
  else if deferred c e then
    if c.pendingPresent then c.duplicateLocked "game present evidence is already pending"
    else
      ({ c with pendingPresent := true, pendingPresentEvidence := e, revision := c.revision + 1 },
        ⟨.applied, c.state, Status.okStatus, "game present evidence pending native transition success"⟩)
  else
    (c.markPresented e.frameSerial,
      ⟨.applied, c.state, Status.okStatus,
        if c.state == .paused then "late last-surface game frame observed while paused"
        else "first real game frame presented"⟩)

/-! ## The component -/

/-- The coordinator and the method inside its capability call, if one is. -/
structure Sys where
  c : Coordinator := {}
  running : Option (Op × Frame) := none
  deriving DecidableEq, Repr

inductive Ev where
  | op (o : Op)
  /-- The running capability returns. -/
  | ret (status : Status)
  | present (e : GamePresentEvidence)
  deriving DecidableEq, Repr

inductive Obs where
  | call (o : Op) (k : Call)
  | ret (o : Op) (k : Call) (status : Status)
  | result (o : Op) (r : UpdateResult)
  | present (e : GamePresentEvidence) (r : UpdateResult)
  deriving DecidableEq, Repr

def stepSys (s : Sys) : Ev → Sys × List Obs
  | .op o =>
    match s.running with
    | some _ => (s, [])
    | none =>
      match begin cfg s.c o with
      | .done out => (⟨out.1, none⟩, [.result o out.2])
      | .call c' f => (⟨c', some (o, f)⟩, [.call o f.call])
  | .ret status =>
    match s.running with
    | none => (s, [])
    | some (o, f) => (⟨(finish s.c f status).1, none⟩, [.ret o f.call status, .result o (finish s.c f status).2])
  | .present e =>
    ({ s with c := (recordGamePresent cfg s.c e).1 }, [.present e (recordGamePresent cfg s.c e).2])

/-- The coordinator as a machine. -/
def sys : Lib.Machine Sys Ev Obs := ⟨stepSys cfg⟩

def fresh : Sys := {}

/-- No lifecycle method is executing. -/
def Sys.Quiescent (s : Sys) : Prop := s.running = none

/-! ## A concrete session, for witnesses -/

def demoConfig : Config := { capabilities := ⟨true, true, true, true, true, true, true⟩ }

def demoSurface (g : Nat) : GameSurface :=
  { generation := g, nativeWindow := 1, width := 640, height := 480, dpiScale := F32.one }

/-- A started game on surface 1. -/
def demoStart : List Ev :=
  [.op (.setPrincipal { generation := 1, baseUrl := "https://www.roblox.com/" }),
    .op (.queueJoinRequest { requestId := 1, launchParameters := "local" }),
    .op (.surfaceCreated 1), .ret Status.okStatus, .op (.surfaceChanged (demoSurface 1)), .ret Status.okStatus]

end Mocktail.Session
