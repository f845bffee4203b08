/-
  Mocktail.Experience.LaunchController — `RobloxFreshGameLaunchController`
  (src/runtime/roblox_fresh_game_launch_controller.cc) and the `RobloxGameSessionRuntime`
  it owns (src/runtime/roblox_game_session_native_adapter.cc).

  The controller holds one game session at a time; each of its methods holds its mutex for
  its whole length, native calls included, so each is one step. What JNI and the native
  side answer is an argument: `LaunchOutcome` for a launch, a status per capability call
  (`Native`) for the rest. The controller's constants (environment, symbol table, present
  boundary, surface configuration) are complete: `OnLuaAppReady` checks them before it
  builds one. `last_snapshot_` is only read by `Snapshot()` and left out.
-/

import Mocktail.Session.Coordinator

namespace Mocktail.Experience

open Mocktail.Session

structure LaunchRequest where
  placeId : Int := 0
  userId : Int := 0
  conversationId : Int := 0
  referredByPlayerId : Int := 0
  gameInstanceId : String := ""
  reservedServerAccessCode : String := ""
  callId : String := ""
  referralPage : String := ""
  accessCode : String := ""
  linkCode : String := ""
  launchData : String := ""
  eventId : String := ""
  gameJoinContext : String := ""
  joinAttemptId : String := ""
  joinAttemptOrigin : String := ""
  isoContext : String := ""
  canonicalJson : String := ""
  deriving DecidableEq, Repr

/-- `RobloxFreshGameLaunchContext`; its JNI references are built before `Launch` is called. -/
structure LaunchContext where
  requestId : Nat := 0
  principal : GameSessionPrincipal := {}
  gameSurface : GameSurface := {}
  username : String := ""
  isUnder13 : Bool := false
  joinRequestType : Int := -1
  deriving DecidableEq, Repr

def LaunchContext.complete (x : LaunchContext) : Bool :=
  x.requestId != 0 &&
    (x.principal.kind == .authenticated && x.principal.generation != 0 && !x.principal.principalId.isEmpty &&
      !x.principal.baseUrl.isEmpty) &&
    x.gameSurface.generation != 0 && x.gameSurface.nativeWindow != 0 && x.gameSurface.width != 0 &&
    x.gameSurface.height != 0

def makeGameJoinRequest (requestId : Nat) (request : LaunchRequest) : GameJoinRequest :=
  ⟨requestId, request.placeId, request.canonicalJson⟩

/-- What each capability call returns. -/
abbrev Native := Call → Status

/-- Every native call returns ok. -/
def allOk : Native := fun _ => Status.okStatus

/-- What the outside answers during one launch. -/
structure LaunchOutcome where
  /-- `BuildLaunchObjects`. -/
  objects : Status := Status.okStatus
  /-- `ValidateRequest`, the JNI environment and `BuildFreshStartGameParams`. -/
  checks : Status := Status.okStatus
  /-- The present observer was registered. -/
  registered : Bool := true
  /-- `RobloxGameSessionNativeAdapter::Initialize`. -/
  adapter : Status := Status.okStatus
  native : Native := allOk
  /-- The JNI environment in which the launch objects are released. -/
  release : Status := Status.okStatus

/-! ## The session runtime -/

/-- The adapter's capability table is complete and a Vulkan present is required. -/
def gameConfig : Config := { capabilities := ⟨true, true, true, true, true, true, true⟩ }

/-- A lifecycle method with the native answers. -/
def perform (native : Native) (c : Coordinator) (o : Op) : Coordinator × UpdateResult :=
  match begin gameConfig c o with
  | .done out => out
  | .call c' f => finish c' f (native f.call)

def resultStatus (r : UpdateResult) : Status :=
  if r.ok then Status.okStatus
  else if r.cause.ok then Status.failedPrecondition r.message
  else r.cause

/-- Methods in order, up to the first that is rejected. -/
def performAll (native : Native) (c : Coordinator) : List Op → Coordinator × Status
  | [] => (c, Status.okStatus)
  | o :: ops =>
    let r := perform native c o
    if !(resultStatus r.2).ok then (r.1, resultStatus r.2) else performAll native r.1 ops

def initializeAndStart (o : LaunchOutcome) (principal : GameSessionPrincipal) (request : GameJoinRequest)
    (surface : GameSurface) : Coordinator × Status :=
  if !o.adapter.ok then ({}, o.adapter)
  else performAll o.native {} [.setPrincipal principal, .queueJoinRequest request, .surfaceCreated surface.generation,
    .surfaceChanged surface]

/-! ## The controller -/

structure Controller where
  runtime : Option Coordinator := none
  observerRegistered : Bool := false
  active : Bool := false
  appShutdown : Bool := false
  deriving DecidableEq, Repr

namespace Controller

variable (k : Controller)

def launch (request : LaunchRequest) (context : LaunchContext) (o : LaunchOutcome) : Controller × Status :=
  if k.appShutdown then
    (k, Status.failedPrecondition "fresh game launch is unavailable after app runtime shutdown")
  else if k.active || k.runtime.isSome || k.observerRegistered then
    (k, Status.failedPrecondition "a fresh game launch is already active")
  else if !context.complete then
    (k, Status.failedPrecondition "fresh game launch prerequisites are incomplete")
  else if !o.checks.ok then (k, o.checks)
  else if !o.registered then
    (k, Status.unavailable "could not register fresh-game host present observer")
  else
    let started := initializeAndStart o context.principal (makeGameJoinRequest context.requestId request)
      context.gameSurface
    if !started.2.ok then
      -- Shutdown may have had native side effects: the app runtime is never used again.
      ({ k with runtime := none, observerRegistered := false, appShutdown := true }, started.2)
    else ({ k with runtime := some started.1, observerRegistered := true, active := true }, Status.okStatus)

def leave (native : Native) : Controller × Status :=
  match k.active, k.runtime with
  | true, some c =>
    let r := perform native c .leaveGame
    if !r.2.ok then ({ k with runtime := some r.1 }, resultStatus r.2)
    else ({ k with runtime := none, observerRegistered := false, active := false }, Status.okStatus)
  | _, _ => (k, Status.failedPrecondition "no fresh game session is active")

/-- Records a native return to LuaApp that is already complete: nothing native is called. -/
def observeLuaAppReturn : Controller × Status :=
  if !k.active && k.runtime.isNone && !k.observerRegistered then (k, Status.okStatus)
  else ({ k with runtime := none, observerRegistered := false, active := false }, Status.okStatus)

def rejectSurfaceEvent (message : String) : UpdateResult :=
  ⟨.rejected, .created, Status.failedPrecondition message, message⟩

/-- The four surface methods: forwarded to an active session, rejected without one. -/
def surfaceEvent (native : Native) (o : Op) (message : String) : Controller × UpdateResult :=
  match k.active, k.runtime with
  | true, some c => ({ k with runtime := some (perform native c o).1 }, (perform native c o).2)
  | _, _ => (k, rejectSurfaceEvent message)

def surfaceCreated (native : Native) (generation : Nat) : Controller × UpdateResult :=
  k.surfaceEvent native (.surfaceCreated generation) "cannot create a surface without an active fresh game"

def rebindSurface (native : Native) (surface : GameSurface) : Controller × UpdateResult :=
  k.surfaceEvent native (.rebindSurface surface) "cannot rebind a surface without an active fresh game"

def surfaceDestroyed (native : Native) (generation : Nat) : Controller × UpdateResult :=
  k.surfaceEvent native (.surfaceDestroyed generation) "cannot destroy a surface without an active fresh game"

end Controller

end Mocktail.Experience
