/-
  Mocktail.Discord.Session — `DiscordRpcSession` (src/runtime/discord_rpc.cc).

  `Update` replaces a snapshot under the session's mutex; the worker takes the snapshot,
  waits for Discord and for the place's name, and publishes an activity. What `Update` keeps
  of a request (`redact`) has no access code, and nothing in it but the place and the instance
  reaches an activity, so
  - the redaction is invisible: the session publishes what it would without it;
  - two histories that differ in the codes publish the same (`presence_hides_secrets`).

  The worker's answers from outside (sockets, clocks, the Roblox API) come with its steps.
-/

import Mocktail.Discord.Activity

namespace Mocktail.Discord

open Mocktail.Lib Mocktail.Launch

/-! ## The session -/

def kDiscordActivityRateWindow : Nat := 20000

def kDiscordActivityRateLimit : Nat := 5

def kPlaceMetadataRetryBase : Nat := 10000

def kPlaceMetadataRetryMaximum : Nat := 300000

/-- What `Update` keeps of a request. -/
def redact (request : ExperienceLaunchRequest) : ExperienceLaunchRequest where
  placeId := request.placeId
  gameInstanceId := request.gameInstanceId
  reservedServerAccessCode := if request.reservedServerAccessCode = [] then [] else ascii "present"
  accessCode := if request.accessCode = [] then [] else ascii "present"
  linkCode := if request.linkCode = [] then [] else ascii "present"

/-- `next_attempt` on a clock that starts at zero. -/
structure CachedPlaceMetadata where
  name : Text := []
  iconUrl : Text := []
  nextAttempt : Nat := 0
  failures : Nat := 0
  deriving DecidableEq, Repr

structure ResolvedPlaceMetadata where
  name : Text := []
  iconUrl : Text := []
  deriving DecidableEq, Repr

structure Desired where
  phase : PresencePhase := .browsing
  request : ExperienceLaunchRequest := {}
  startedAt : Int := 0
  revision : Nat := 0
  deriving DecidableEq, Repr

/-- The locals of one turn of `Run`. -/
structure Turn where
  desired : Desired
  placeName : Text := []
  placeIconUrl : Text := []
  resolveMetadataAfterPublish : Bool := false
  deriving DecidableEq, Repr

/-- Where the worker is: at the loop's condition, before or after `Snapshot`, and so on. -/
inductive WorkerAt where
  | absent
  | check
  | snapshot
  | connect (turn : Turn)
  | reconnect
  | publish (turn : Turn)
  | rateLimited
  | resolve (desired : Desired)
  | recheck (desired : Desired) (changed : Bool)
  | poll
  | finish
  | ended
  deriving DecidableEq, Repr

structure Session where
  phase : PresencePhase := .browsing
  request : ExperienceLaunchRequest := {}
  sessionStartedAt : Int := 0
  revision : Nat := 0
  /-- `Start` is still creating the worker. -/
  starting : Bool := false
  started : Bool := false
  stopping : Bool := false
  placeMetadata : Int → CachedPlaceMetadata := fun _ => {}
  connected : Bool := false
  publishedRevision : Nat := 0
  nonce : Nat := 1
  activityUpdates : List Nat := []
  worker : WorkerAt := .absent
  /-- The activities of the SET_ACTIVITY frames; `none` clears it. -/
  sent : List (Option DiscordRpcActivity) := []

inductive Event where
  | start
  /-- `Start` is back from creating the worker. -/
  | startReturns
  | update (phase : PresencePhase) (request : Option ExperienceLaunchRequest) (now : Int)
  | stop
  | stopReturns
  | check
  | snapshot (now : Nat)
  | connect (connected ready : Bool)
  | waitForChange
  | publish (now later : Nat) (written : Bool)
  | resolve (metadata : ResolvedPlaceMetadata) (now : Nat)
  | recheck
  | poll (alive : Bool)
  | finish
  deriving DecidableEq, Repr

def inExperience (phase : PresencePhase) : Bool := phase == .joining || phase == .playing

def placeMetadataRetryDelay (failures : Nat) : Nat :=
  min (kPlaceMetadataRetryBase * 2 ^ min failures 5) kPlaceMetadataRetryMaximum

/-- What `Run` looks up before it connects. -/
def lookUp (placeMetadata : Int → CachedPlaceMetadata) (desired : Desired) (now : Nat) : Turn :=
  if inExperience desired.phase = true ∧ 0 < desired.request.placeId then
    let cached := placeMetadata desired.request.placeId
    { desired, placeName := cached.name, placeIconUrl := cached.iconUrl
      resolveMetadataAfterPublish := (cached.name == [] || cached.iconUrl == []) && decide (cached.nextAttempt ≤ now) }
  else { desired }

def waitForPlaceMetadata (turn : Turn) : Bool :=
  inExperience turn.desired.phase && decide (0 < turn.desired.request.placeId) && turn.placeName == []

/-- The cache after an answer of the Roblox API, and whether it changed what is shown. -/
def rememberMetadata (cached : CachedPlaceMetadata) (resolved : ResolvedPlaceMetadata) (now : Nat) :
    CachedPlaceMetadata × Bool :=
  let newName := resolved.name != [] && resolved.name != cached.name
  let newIcon := resolved.iconUrl != [] && resolved.iconUrl != cached.iconUrl
  let name := if newName then resolved.name else cached.name
  let iconUrl := if newIcon then resolved.iconUrl else cached.iconUrl
  let cached : CachedPlaceMetadata :=
    if name = [] ∨ iconUrl = [] then
      { name, iconUrl, nextAttempt := now + placeMetadataRetryDelay cached.failures, failures := cached.failures + 1 }
    else { name, iconUrl }
  (cached, newName || newIcon)

/-- The request `Run` hands to `BuildDiscordRpcActivity`. -/
def publishedRequest (desired : Desired) : Option ExperienceLaunchRequest :=
  if desired.phase = .browsing then none else some desired.request

section
variable (keep : ExperienceLaunchRequest → ExperienceLaunchRequest) (config : DiscordRpcConfig)

/-- `Update`, which keeps `keep` of a request. -/
def Session.update (s : Session) (phase : PresencePhase) (request : Option ExperienceLaunchRequest) (now : Int) : Session :=
  if s.started = false ∨ s.stopping = true then s
  else
    { s with phase, request := (request.map keep).getD {}
             sessionStartedAt := if phase = .playing then now else 0, revision := s.revision + 1 }

/-- The worker after the metadata question of a turn is settled. -/
def afterPublish (turn : Turn) : WorkerAt :=
  if turn.resolveMetadataAfterPublish then .resolve turn.desired else .poll

def Session.publish (s : Session) (turn : Turn) (now later : Nat) (written : Bool) : Session :=
  if s.publishedRevision ≠ turn.desired.revision ∧ waitForPlaceMetadata turn = false then
    let recent := s.activityUpdates.dropWhile fun time => decide (kDiscordActivityRateWindow ≤ now - time)
    if kDiscordActivityRateLimit ≤ recent.length then { s with activityUpdates := recent, worker := .rateLimited }
    else
      let activity := buildDiscordRpcActivity config turn.desired.phase (publishedRequest turn.desired) turn.placeName
        turn.desired.startedAt turn.placeIconUrl
      let s := { s with nonce := s.nonce + 1, sent := s.sent ++ [some activity] }
      if written then
        { s with activityUpdates := recent ++ [later], publishedRevision := turn.desired.revision
                 worker := afterPublish turn }
      else { s with activityUpdates := recent, connected := false, worker := .check }
  else { s with worker := afterPublish turn }

def Session.step (s : Session) : Event → Session
  | .start =>
    if config.enabled = true ∧ config.applicationId ≠ [] ∧ s.started = false ∧ (s.worker = .absent ∨ s.worker = .ended) then
      { s with phase := .browsing, request := {}, revision := 1, starting := true, stopping := false, connected := false
               publishedRevision := 0, nonce := 1, activityUpdates := [], worker := .check }
    else s
  | .startReturns => if s.starting then { s with starting := false, started := true } else s
  | .update phase request now => s.update keep phase request now
  | .stop =>
    if s.started = false ∧ (s.worker = .absent ∨ s.worker = .ended) then s else { s with stopping := true }
  | .stopReturns => if s.worker = .ended then { s with started := false } else s
  | .check =>
    match s.worker with
    | .check => { s with worker := if s.stopping then .finish else .snapshot }
    | _ => s
  | .snapshot now =>
    match s.worker with
    | .snapshot =>
      let turn := lookUp s.placeMetadata ⟨s.phase, s.request, s.sessionStartedAt, s.revision⟩ now
      { s with worker := if s.connected then .publish turn else .connect turn }
    | _ => s
  | .connect connected ready =>
    match s.worker with
    | .connect turn =>
      if connected && ready then { s with connected := true, publishedRevision := 0, worker := .publish turn }
      else { s with worker := .reconnect }
    | _ => s
  | .waitForChange =>
    match s.worker with
    | .reconnect => { s with worker := if s.stopping then .finish else .check }
    | .rateLimited => { s with worker := .check }
    | _ => s
  | .publish now later written =>
    match s.worker with
    | .publish turn => s.publish config turn now later written
    | _ => s
  | .resolve metadata now =>
    match s.worker with
    | .resolve desired =>
      let place := desired.request.placeId
      let (cached, changed) := rememberMetadata (s.placeMetadata place) metadata now
      { s with placeMetadata := fun id => if id = place then cached else s.placeMetadata id
               worker := .recheck desired changed }
    | _ => s
  | .recheck =>
    match s.worker with
    | .recheck desired changed =>
      if s.revision ≠ desired.revision then { s with worker := .check }
      else if changed = true ∧ inExperience desired.phase = true then
        { s with publishedRevision := 0, worker := .check }
      else { s with worker := .poll }
    | _ => s
  | .poll alive =>
    match s.worker with
    | .poll => { s with connected := alive, worker := .check }
    | _ => s
  | .finish =>
    match s.worker with
    | .finish =>
      { s with sent := if s.connected then s.sent ++ [none] else s.sent, connected := false, worker := .ended }
    | _ => s

def Session.run (s : Session) (events : List Event) : Session := events.foldl (Session.step keep config) s

end

/-! ## What an activity shows of a request -/

/-- The codes that make a server private. -/
def codes (request : ExperienceLaunchRequest) : List Text :=
  [request.reservedServerAccessCode, request.accessCode, request.linkCode]

/-- Requests for the same instance of the same place, with the same codes missing. -/
structure SameTarget (r r' : ExperienceLaunchRequest) : Prop where
  placeId : r.placeId = r'.placeId
  gameInstanceId : r.gameInstanceId = r'.gameInstanceId
  reserved : r.reservedServerAccessCode = [] ↔ r'.reservedServerAccessCode = []
  access : r.accessCode = [] ↔ r'.accessCode = []
  link : r.linkCode = [] ↔ r'.linkCode = []

theorem redact_sameTarget (request : ExperienceLaunchRequest) : SameTarget (redact request) request := by
  have hcode : ∀ code : Text, (if code = [] then [] else ascii "present") = [] ↔ code = [] := by
    intro code
    by_cases h : code = []
    · rw [if_pos h, h]
    · rw [if_neg h]
      exact ⟨fun hpresent => absurd hpresent (by decide), fun hnil => absurd hnil h⟩
  exact ⟨rfl, rfl, hcode _, hcode _, hcode _⟩

variable {r r' : ExperienceLaunchRequest}

theorem SameTarget.redact_eq (h : SameTarget r r') : redact r = redact r' := by
  unfold redact
  simp only [h.placeId, h.gameInstanceId, h.reserved, h.access, h.link]

theorem SameTarget.hasDiscordJoinTarget_eq (h : SameTarget r r') :
    hasDiscordJoinTarget r = hasDiscordJoinTarget r' := by
  unfold hasDiscordJoinTarget
  rw [h.placeId, h.gameInstanceId]

theorem SameTarget.isPublicDiscordJoin_eq (h : SameTarget r r') :
    isPublicDiscordJoin r = isPublicDiscordJoin r' := by
  have hcode : ∀ {c c' : Text}, (c = [] ↔ c' = []) → (c == []) = (c' == []) := by
    intro c c' hc
    rw [Bool.eq_iff_iff, beq_iff_eq, beq_iff_eq, hc]
  unfold isPublicDiscordJoin
  rw [h.hasDiscordJoinTarget_eq, hcode h.reserved, hcode h.access, hcode h.link]

theorem SameTarget.buildDiscordJoinUrl_eq (h : SameTarget r r') :
    buildDiscordJoinUrl r = buildDiscordJoinUrl r' := by
  unfold buildDiscordJoinUrl joinParameters
  rw [h.hasDiscordJoinTarget_eq, h.placeId, h.gameInstanceId]

variable {phase : PresencePhase}

/-- An activity depends on its request through the join button. -/
theorem activity_congr {config : DiscordRpcConfig} {r r' : Option ExperienceLaunchRequest}
    (h : joinButtonUrl config phase r = joinButtonUrl config phase r') (placeName : Text) (startedAt : Int)
    (placeIconUrl : Text) :
    buildDiscordRpcActivity config phase r placeName startedAt placeIconUrl =
      buildDiscordRpcActivity config phase r' placeName startedAt placeIconUrl := by
  unfold buildDiscordRpcActivity placeActivity
  rw [h]

/-- Nothing but the target of a request is shown. -/
theorem SameTarget.activity_eq (h : SameTarget r r') (config : DiscordRpcConfig)
    (phase : PresencePhase) (placeName : Text) (startedAt : Int) (placeIconUrl : Text) :
    buildDiscordRpcActivity config phase (some r) placeName startedAt placeIconUrl =
      buildDiscordRpcActivity config phase (some r') placeName startedAt placeIconUrl := by
  refine activity_congr ?_ _ _ _
  simp only [joinButtonUrl, h.isPublicDiscordJoin_eq, h.buildDiscordJoinUrl_eq]

variable {request : ExperienceLaunchRequest}

theorem activity_without_target (h : hasDiscordJoinTarget request = false)
    (config : DiscordRpcConfig) (phase : PresencePhase) (placeName : Text) (startedAt : Int) (placeIconUrl : Text) :
    buildDiscordRpcActivity config phase (some request) placeName startedAt placeIconUrl =
      buildDiscordRpcActivity config phase none placeName startedAt placeIconUrl := by
  have hurl : buildDiscordJoinUrl request = [] := by
    rw [buildDiscordJoinUrl, h]
    rfl
  refine activity_congr ?_ _ _ _
  simp only [joinButtonUrl, hurl, ite_self]

theorem private_has_no_url {config : DiscordRpcConfig} (hpublic : config.publicServersOnly = true)
    (hcode : ∃ code ∈ codes request, code ≠ []) (phase : PresencePhase)
    (placeName : Text) (startedAt : Int) (placeIconUrl : Text) :
    (buildDiscordRpcActivity config phase (some request) placeName startedAt placeIconUrl).buttonUrl = [] := by
  have hprivate : isPublicDiscordJoin request = false := by
    obtain ⟨code, hm, hne⟩ := hcode
    simp only [codes, List.mem_cons, List.not_mem_nil, or_false] at hm
    unfold isPublicDiscordJoin
    rcases hm with rfl | rfl | rfl <;> simp [hne]
  have hurl : joinButtonUrl config phase (some request) = [] := by
    rw [joinButtonUrl]
    simp [hpublic, hprivate]
  unfold buildDiscordRpcActivity
  by_cases hbrowsing : phase = .browsing
  · rw [if_pos hbrowsing]
  rw [if_neg hbrowsing]
  by_cases hjoining : placeName = [] ∧ phase = .joining
  · rw [if_pos hjoining]
  · rw [if_neg hjoining]
    exact hurl

/-! ## The redaction is invisible -/

def Desired.map (f : ExperienceLaunchRequest → ExperienceLaunchRequest) (desired : Desired) : Desired :=
  { desired with request := f desired.request }

def Turn.map (f : ExperienceLaunchRequest → ExperienceLaunchRequest) (turn : Turn) : Turn :=
  { turn with desired := turn.desired.map f }

def WorkerAt.map (f : ExperienceLaunchRequest → ExperienceLaunchRequest) : WorkerAt → WorkerAt
  | .connect turn => .connect (turn.map f)
  | .publish turn => .publish (turn.map f)
  | .resolve desired => .resolve (desired.map f)
  | .recheck desired changed => .recheck (desired.map f) changed
  | worker => worker

/-- The session with its requests changed. -/
def Session.map (f : ExperienceLaunchRequest → ExperienceLaunchRequest) (s : Session) : Session :=
  { s with request := f s.request, worker := s.worker.map f }

theorem lookUp_redact (placeMetadata : Int → CachedPlaceMetadata) (desired : Desired) (now : Nat) :
    lookUp placeMetadata (desired.map redact) now = (lookUp placeMetadata desired now).map redact := by
  unfold lookUp
  by_cases h : inExperience desired.phase = true ∧ 0 < desired.request.placeId
  · rw [if_pos h]
    exact if_pos h
  · rw [if_neg h]
    exact if_neg h

theorem publishedActivity_redact (config : DiscordRpcConfig) (desired : Desired) (placeName : Text) (placeIconUrl : Text) :
    buildDiscordRpcActivity config desired.phase (publishedRequest (desired.map redact)) placeName desired.startedAt
        placeIconUrl =
      buildDiscordRpcActivity config desired.phase (publishedRequest desired) placeName desired.startedAt placeIconUrl := by
  unfold publishedRequest
  by_cases h : desired.phase = .browsing
  · rw [if_pos h, if_pos (show (desired.map redact).phase = .browsing from h)]
  · rw [if_neg h, if_neg (show ¬ (desired.map redact).phase = .browsing from h)]
    exact (redact_sameTarget desired.request).activity_eq config _ _ _ _

theorem afterPublish_map (turn : Turn) : afterPublish (turn.map redact) = (afterPublish turn).map redact := by
  unfold afterPublish
  cases hresolve : turn.resolveMetadataAfterPublish with
  | false | true => simp [Turn.map, hresolve, WorkerAt.map]

theorem publish_map (config : DiscordRpcConfig) (s : Session) (turn : Turn) (now later : Nat) (written : Bool) :
    (s.map redact).publish config (turn.map redact) now later written =
      (s.publish config turn now later written).map redact := by
  have hactivity := publishedActivity_redact config turn.desired turn.placeName turn.placeIconUrl
  unfold Session.publish
  by_cases hdue : s.publishedRevision ≠ turn.desired.revision ∧ waitForPlaceMetadata turn = false
  · rw [if_pos hdue]
    refine (if_pos hdue).trans ?_
    simp only [Session.map, Turn.map, Desired.map] at hactivity ⊢
    simp only [hactivity]
    split
    · rfl
    · split
      · simp only [← afterPublish_map]
        rfl
      · rfl
  · rw [if_neg hdue]
    refine (if_neg hdue).trans ?_
    rw [afterPublish_map]
    rfl

theorem update_map (s : Session) (phase : PresencePhase) (request : Option ExperienceLaunchRequest) (now : Int) :
    (s.map redact).update redact phase request now = (s.update id phase request now).map redact := by
  unfold Session.update
  by_cases h : s.started = false ∨ s.stopping = true
  · rw [if_pos h]
    exact if_pos h
  · rw [if_neg h]
    refine (if_neg h).trans ?_
    cases request with
    | none => rfl
    | some request => rfl

/-- The worker's place in the loop does not show in its requests. -/
theorem gone_map (worker : WorkerAt) :
    (worker.map redact = .absent ∨ worker.map redact = .ended) ↔ (worker = .absent ∨ worker = .ended) := by
  cases worker <;> simp [WorkerAt.map]

theorem step_map (config : DiscordRpcConfig) (s : Session) (event : Event) :
    (s.map redact).step redact config event = (s.step id config event).map redact := by
  have hworker : (s.map redact).worker = s.worker.map redact := rfl
  cases event with
  | start =>
    have hgone := gone_map s.worker
    simp only [Session.step]
    by_cases h : config.enabled = true ∧ config.applicationId ≠ [] ∧ s.started = false ∧
        (s.worker = .absent ∨ s.worker = .ended)
    · rw [if_pos h]
      exact if_pos ⟨h.1, h.2.1, h.2.2.1, hgone.mpr h.2.2.2⟩
    · rw [if_neg h]
      exact if_neg fun h' => h ⟨h'.1, h'.2.1, h'.2.2.1, hgone.mp h'.2.2.2⟩
  | startReturns =>
    simp only [Session.step]
    by_cases h : s.starting = true
    · rw [if_pos h]
      exact if_pos h
    · rw [if_neg h]
      exact if_neg h
  | update phase request now => exact update_map s phase request now
  | stop =>
    have hgone := gone_map s.worker
    simp only [Session.step]
    by_cases h : s.started = false ∧ (s.worker = .absent ∨ s.worker = .ended)
    · rw [if_pos h]
      exact if_pos ⟨h.1, hgone.mpr h.2⟩
    · rw [if_neg h]
      exact if_neg fun h' => h ⟨h'.1, hgone.mp h'.2⟩
  | stopReturns =>
    have hended : s.worker.map redact = .ended ↔ s.worker = .ended := by
      cases s.worker <;> simp [WorkerAt.map]
    simp only [Session.step]
    by_cases h : s.worker = .ended
    · rw [if_pos h]
      exact if_pos (hended.mpr h)
    · rw [if_neg h]
      exact if_neg fun h' => h (hended.mp h')
  | check =>
    cases hat : s.worker <;> simp only [Session.step, hworker, hat, WorkerAt.map]
    by_cases h : s.stopping = true
    · simp [Session.map, h, WorkerAt.map]
    · simp [Session.map, h, WorkerAt.map]
  | snapshot now =>
    have hlook := lookUp_redact s.placeMetadata ⟨s.phase, s.request, s.sessionStartedAt, s.revision⟩ now
    cases hat : s.worker <;> simp only [Session.step, hworker, hat, WorkerAt.map]
    simp only [Desired.map] at hlook
    by_cases h : s.connected = true
    · simp [Session.map, h, WorkerAt.map, hlook]
    · simp [Session.map, h, WorkerAt.map, hlook]
  | connect connected ready =>
    cases hat : s.worker <;> simp only [Session.step, hworker, hat, WorkerAt.map]
    by_cases h : (connected && ready) = true
    · rw [if_pos h, if_pos h]
      rfl
    · rw [if_neg h, if_neg h]
      rfl
  | waitForChange =>
    cases hat : s.worker <;> simp only [Session.step, hworker, hat, WorkerAt.map]
    · by_cases h : s.stopping = true
      · simp [Session.map, h, WorkerAt.map]
      · simp [Session.map, h, WorkerAt.map]
    · rfl
  | publish now later written =>
    cases hat : s.worker <;> simp only [Session.step, hworker, hat, WorkerAt.map]
    exact publish_map config s _ now later written
  | resolve metadata now | poll alive | finish =>
    cases hat : s.worker <;> simp only [Session.step, hworker, hat, WorkerAt.map]
    rfl
  | recheck =>
    cases hat : s.worker with
    | recheck desired changed =>
      simp only [Session.step, hworker, hat, WorkerAt.map]
      by_cases hstale : s.revision ≠ desired.revision
      · rw [if_pos hstale]
        exact if_pos hstale
      rw [if_neg hstale]
      refine (if_neg hstale).trans ?_
      by_cases hchanged : changed = true ∧ inExperience desired.phase = true
      · rw [if_pos hchanged]
        exact if_pos hchanged
      · rw [if_neg hchanged]
        exact if_neg hchanged
    | _ => simp only [Session.step, hworker, hat, WorkerAt.map]

theorem run_map (config : DiscordRpcConfig) (s : Session) (events : List Event) :
    (s.map redact).run redact config events = (s.run id config events).map redact := by
  induction events generalizing s with
  | nil => rfl
  | cons event rest ih =>
    show ((s.map redact).step redact config event).run redact config rest = _
    rw [step_map, ih]
    rfl

/-! ## Every activity is that of a reported request -/

/-- What `Start` or an `Update` of the history said. -/
def Reported (events : List Event) (phase : PresencePhase) (request : Option ExperienceLaunchRequest) : Prop :=
  phase = .browsing ∧ request = none ∨ ∃ now, Event.update phase request now ∈ events

/-- A kept request is the redacted one of a report. -/
def Sourced (events : List Event) (phase : PresencePhase) (kept : ExperienceLaunchRequest) : Prop :=
  ∃ request, Reported events phase request ∧ kept = (request.map redact).getD {}

def WorkerAt.desired : WorkerAt → Option Desired
  | .connect turn => some turn.desired
  | .publish turn => some turn.desired
  | .resolve desired => some desired
  | .recheck desired _ => some desired
  | _ => none

structure Shown (config : DiscordRpcConfig) (events : List Event) (s : Session) : Prop where
  snapshot : Sourced events s.phase s.request
  turn : ∀ desired, s.worker.desired = some desired → Sourced events desired.phase desired.request
  sent : ∀ activity, some activity ∈ s.sent → ∃ phase request placeName startedAt placeIconUrl,
    Reported events phase request ∧ activity = buildDiscordRpcActivity config phase request placeName startedAt placeIconUrl

theorem Reported.mono {events more : List Event} {request : Option ExperienceLaunchRequest}
    (h : Reported events phase request) : Reported (events ++ more) phase request := by
  rcases h with h | ⟨now, h⟩
  · exact Or.inl h
  · exact Or.inr ⟨now, List.mem_append_left more h⟩

theorem Sourced.mono {events more : List Event} {kept : ExperienceLaunchRequest}
    (h : Sourced events phase kept) : Sourced (events ++ more) phase kept := by
  obtain ⟨request, hreported, hkept⟩ := h
  exact ⟨request, hreported.mono, hkept⟩

variable {s : Session}

theorem Shown.mono {config : DiscordRpcConfig} {events more : List Event} (h : Shown config events s) :
    Shown config (events ++ more) s := by
  refine ⟨h.snapshot.mono, fun desired hd => (h.turn desired hd).mono, ?_⟩
  intro activity ha
  obtain ⟨phase, request, placeName, startedAt, placeIconUrl, hreported, heq⟩ := h.sent activity ha
  exact ⟨phase, request, placeName, startedAt, placeIconUrl, hreported.mono, heq⟩

/-- Steps of the worker that neither take a snapshot nor send. -/
theorem Shown.move {config : DiscordRpcConfig} {events : List Event} {s t : Session} (h : Shown config events s)
    (hphase : t.phase = s.phase) (hrequest : t.request = s.request)
    (hsent : ∀ activity, some activity ∈ t.sent → some activity ∈ s.sent)
    (hturn : ∀ desired, t.worker.desired = some desired → s.worker.desired = some desired) : Shown config events t := by
  refine ⟨?_, fun desired hd => h.turn desired (hturn desired hd), fun activity ha => h.sent activity (hsent activity ha)⟩
  rw [hphase, hrequest]
  exact h.snapshot

/-- What is published is the activity of the report the snapshot was taken of. -/
theorem Sourced.activity {config : DiscordRpcConfig} {events : List Event} {desired : Desired}
    (h : Sourced events desired.phase desired.request) (placeName : Text) (placeIconUrl : Text) :
    ∃ request, Reported events desired.phase request ∧
      buildDiscordRpcActivity config desired.phase (publishedRequest desired) placeName desired.startedAt placeIconUrl =
        buildDiscordRpcActivity config desired.phase request placeName desired.startedAt placeIconUrl := by
  obtain ⟨request, hreported, hkept⟩ := h
  refine ⟨request, hreported, ?_⟩
  unfold publishedRequest
  by_cases hbrowsing : desired.phase = .browsing
  · rw [if_pos hbrowsing, hbrowsing]
    rfl
  rw [if_neg hbrowsing, hkept]
  cases request with
  | none => exact activity_without_target rfl config _ _ _ _
  | some request => exact (redact_sameTarget request).activity_eq config _ _ _ _

theorem afterPublish_desired {turn : Turn} {desired : Desired} (h : (afterPublish turn).desired = some desired) :
    turn.desired = desired := by
  unfold afterPublish at h
  by_cases hresolve : turn.resolveMetadataAfterPublish = true
  · rw [if_pos hresolve] at h
    exact Option.some.inj h
  · rw [if_neg hresolve] at h
    cases h

theorem Shown.publish {config : DiscordRpcConfig} {events : List Event} (h : Shown config events s) {turn : Turn}
    (hat : s.worker = .publish turn) (now later : Nat) (written : Bool) :
    Shown config events (s.publish config turn now later written) := by
  have hturn : s.worker.desired = some turn.desired := by rw [hat]; rfl
  have hsource := h.turn turn.desired hturn
  have hkeep : ∀ desired, (afterPublish turn).desired = some desired → s.worker.desired = some desired := by
    intro desired hd
    rw [hturn, afterPublish_desired hd]
  -- the one activity that is sent here
  have hsend : ∀ activity, some activity ∈ s.sent ++ [some (buildDiscordRpcActivity config turn.desired.phase
      (publishedRequest turn.desired) turn.placeName turn.desired.startedAt turn.placeIconUrl)] →
      ∃ phase request placeName startedAt placeIconUrl, Reported events phase request ∧
        activity = buildDiscordRpcActivity config phase request placeName startedAt placeIconUrl := by
    intro activity ha
    rcases List.mem_append.mp ha with ha | ha
    · exact h.sent activity ha
    · obtain ⟨request, hreported, heq⟩ := @Sourced.activity config events turn.desired hsource turn.placeName turn.placeIconUrl
      exact ⟨_, request, _, _, _, hreported, (Option.some.inj (List.mem_singleton.mp ha)).trans heq⟩
  unfold Session.publish
  by_cases hdue : s.publishedRevision ≠ turn.desired.revision ∧ waitForPlaceMetadata turn = false
  · rw [if_pos hdue]
    simp only
    split
    · exact h.move rfl rfl (fun _ ha => ha) fun _ hd => by cases hd
    · split
      · exact ⟨h.snapshot, fun desired hd => h.turn desired (hkeep desired hd), hsend⟩
      · exact ⟨h.snapshot, fun _ hd => (by cases hd), hsend⟩
  · rw [if_neg hdue]
    exact h.move rfl rfl (fun _ ha => ha) hkeep

theorem lookUp_desired (placeMetadata : Int → CachedPlaceMetadata) (desired : Desired) (now : Nat) :
    (lookUp placeMetadata desired now).desired = desired := by
  unfold lookUp
  split <;> rfl

theorem Shown.update {config : DiscordRpcConfig} {events : List Event} (h : Shown config events s)
    (phase : PresencePhase) (request : Option ExperienceLaunchRequest) (now : Int)
    (hevent : Event.update phase request now ∈ events) : Shown config events (s.update redact phase request now) := by
  unfold Session.update
  by_cases hoff : s.started = false ∨ s.stopping = true
  · rw [if_pos hoff]
    exact h
  · rw [if_neg hoff]
    exact ⟨⟨request, Or.inr ⟨now, hevent⟩, rfl⟩, h.turn, h.sent⟩

theorem Shown.step {config : DiscordRpcConfig} {events : List Event} (h : Shown config events s) {event : Event}
    (hevent : event ∈ events) : Shown config events (s.step redact config event) := by
  have hsame : ∀ {t : Session}, t.phase = s.phase → t.request = s.request → t.sent = s.sent →
      (∀ desired, t.worker.desired = some desired → s.worker.desired = some desired) → Shown config events t :=
    fun hphase hrequest hsent => h.move hphase hrequest (fun _ ha => hsent ▸ ha)
  cases event with
  | start =>
    simp only [Session.step]
    split
    · exact ⟨⟨none, Or.inl ⟨rfl, rfl⟩, rfl⟩, fun _ hd => (by cases hd), h.sent⟩
    · exact h
  | startReturns | stopReturns =>
    simp only [Session.step]
    split
    · exact hsame rfl rfl rfl fun _ hd => hd
    · exact h
  | update phase request now => exact h.update phase request now hevent
  | stop =>
    simp only [Session.step]
    split
    · exact h
    · exact hsame rfl rfl rfl fun _ hd => hd
  | check =>
    cases hat : s.worker <;> simp only [Session.step, hat] <;> try exact h
    refine hsame rfl rfl rfl fun desired hd => ?_
    by_cases hstop : s.stopping = true
    · simp [hstop, WorkerAt.desired] at hd
    · simp [hstop, WorkerAt.desired] at hd
  | snapshot now =>
    cases hat : s.worker <;> simp only [Session.step, hat] <;> try exact h
    refine ⟨h.snapshot, fun desired hd => ?_, h.sent⟩
    have hlook := lookUp_desired s.placeMetadata ⟨s.phase, s.request, s.sessionStartedAt, s.revision⟩ now
    have heq : desired = ⟨s.phase, s.request, s.sessionStartedAt, s.revision⟩ := by
      by_cases hconnected : s.connected = true
      · simp only [hconnected, if_true, WorkerAt.desired, hlook] at hd
        exact (Option.some.inj hd).symm
      · simp only [hconnected, WorkerAt.desired] at hd
        exact (Option.some.inj hd).symm.trans hlook
    rw [heq]
    exact h.snapshot
  | connect connected ready =>
    cases hat : s.worker <;> simp only [Session.step, hat] <;> try exact h
    split
    · refine hsame rfl rfl rfl fun desired hd => ?_
      rw [hat]
      exact hd
    · exact hsame rfl rfl rfl fun _ hd => by cases hd
  | waitForChange =>
    cases hat : s.worker <;> simp only [Session.step, hat] <;> try exact h
    · refine hsame rfl rfl rfl fun desired hd => ?_
      by_cases hstop : s.stopping = true
      · simp [hstop, WorkerAt.desired] at hd
      · simp [hstop, WorkerAt.desired] at hd
    · exact hsame rfl rfl rfl fun _ hd => by cases hd
  | publish now later written =>
    cases hat : s.worker <;> simp only [Session.step, hat] <;> try exact h
    exact h.publish hat now later written
  | resolve metadata now =>
    cases hat : s.worker <;> simp only [Session.step, hat] <;> try exact h
    refine hsame rfl rfl rfl fun desired hd => ?_
    rw [hat]
    exact hd
  | recheck =>
    cases hat : s.worker <;> simp only [Session.step, hat] <;> try exact h
    split
    · exact hsame rfl rfl rfl fun _ hd => by cases hd
    · split
      · exact hsame rfl rfl rfl fun _ hd => by cases hd
      · exact hsame rfl rfl rfl fun _ hd => by cases hd
  | poll alive =>
    cases hat : s.worker <;> simp only [Session.step, hat] <;> try exact h
    exact hsame rfl rfl rfl fun _ hd => by cases hd
  | finish =>
    cases hat : s.worker <;> simp only [Session.step, hat] <;> try exact h
    refine h.move rfl rfl (fun activity ha => ?_) fun _ hd => by cases hd
    by_cases hconnected : s.connected = true
    · simpa [hconnected] using ha
    · simpa [hconnected] using ha

theorem Shown.run {config : DiscordRpcConfig} {past : List Event} (h : Shown config past s) (events : List Event) :
    Shown config (past ++ events) (s.run redact config events) := by
  induction events generalizing past s with
  | nil =>
    rw [List.append_nil]
    exact h
  | cons event rest ih =>
    have hnext := ih (h.mono.step (List.mem_append_right past (List.mem_singleton_self event)))
    rw [List.append_assoc] at hnext
    exact hnext

/-! ## The session hides the codes -/

/-- Histories that differ at most in the codes of the requests. -/
inductive SameHistory : Event → Event → Prop where
  | same (event : Event) : SameHistory event event
  | update (phase : PresencePhase) {r r' : ExperienceLaunchRequest} (now : Int) (target : SameTarget r r') :
      SameHistory (.update phase (some r) now) (.update phase (some r') now)

theorem SameHistory.step_eq {config : DiscordRpcConfig} {event event' : Event} (h : SameHistory event event') (s : Session) :
    s.step redact config event = s.step redact config event' := by
  cases h with
  | same event => rfl
  | update phase now target =>
    simp only [Session.step, Session.update, Option.map_some, Option.getD_some, target.redact_eq]

theorem run_sameHistory {config : DiscordRpcConfig} {events events' : List Event} (h : List.Forall₂ SameHistory events events')
    (s : Session) : s.run redact config events = s.run redact config events' := by
  induction h generalizing s with
  | nil => rfl
  | cons hevent _ ih =>
    show (s.step redact config _).run redact config _ = (s.step redact config _).run redact config _
    rw [hevent.step_eq s, ih]

/-- The activity published for a redacted request is that of the request itself, and shows nothing of it but the place,
    the instance and which codes are missing. -/
theorem presence_hides_secrets (config : DiscordRpcConfig) :
    (∀ phase request placeName startedAt placeIconUrl revision,
      buildDiscordRpcActivity config phase (publishedRequest ⟨phase, redact request, startedAt, revision⟩) placeName startedAt
          placeIconUrl =
        buildDiscordRpcActivity config phase (some request) placeName startedAt placeIconUrl) ∧
    (∀ phase r r' placeName startedAt placeIconUrl, SameTarget r r' →
      buildDiscordRpcActivity config phase (some r) placeName startedAt placeIconUrl =
        buildDiscordRpcActivity config phase (some r') placeName startedAt placeIconUrl) ∧
    (∀ events, (({} : Session).run redact config events).sent = (({} : Session).run id config events).sent) ∧
    (∀ events events', List.Forall₂ SameHistory events events' →
      (({} : Session).run redact config events).sent = (({} : Session).run redact config events').sent) ∧
    ∀ events activity, some activity ∈ (({} : Session).run redact config events).sent →
      ∃ phase request placeName startedAt placeIconUrl, Reported events phase request ∧
        activity = buildDiscordRpcActivity config phase request placeName startedAt placeIconUrl ∧
        (config.publicServersOnly = true → (∃ r, request = some r ∧ ∃ code ∈ codes r, code ≠ []) → activity.buttonUrl = []) := by
  refine ⟨?_, ?_, ?_, ?_, ?_⟩
  · intro phase request placeName startedAt placeIconUrl revision
    by_cases hbrowsing : phase = .browsing
    · rw [hbrowsing]
      rfl
    · rw [publishedRequest, if_neg hbrowsing]
      exact (redact_sameTarget request).activity_eq config _ _ _ _
  · exact fun phase r r' placeName startedAt placeIconUrl h => h.activity_eq config phase placeName startedAt placeIconUrl
  · intro events
    have hinit : ({} : Session).map redact = {} := rfl
    have hrun := run_map config {} events
    rw [hinit] at hrun
    rw [hrun]
    rfl
  · exact fun events events' h => by rw [run_sameHistory h]
  · intro events activity ha
    have hinit : Shown config [] {} := ⟨⟨none, Or.inl ⟨rfl, rfl⟩, rfl⟩, fun _ hd => (by cases hd), fun _ ha =>
      absurd ha List.not_mem_nil⟩
    obtain ⟨phase, request, placeName, startedAt, placeIconUrl, hreported, heq⟩ := (hinit.run events).sent activity ha
    refine ⟨phase, request, placeName, startedAt, placeIconUrl, hreported, heq, ?_⟩
    rintro hpublic ⟨r, rfl, hcode⟩
    rw [heq]
    exact private_has_no_url hpublic hcode phase placeName startedAt placeIconUrl

/-- A private server, played with every server allowed: the button has the place, not the code. -/
theorem presence_hides_secrets_demo :
    let config : DiscordRpcConfig := { enabled := true, applicationId := ascii "1", publicServersOnly := false }
    let play (code : Text) : List Event :=
      [.start, .startReturns, .update .playing (some { publicServer with accessCode := code }) 7, .check, .snapshot 0,
       .connect true true, .publish 0 0 true, .resolve ⟨ascii "Place", []⟩ 1, .recheck, .check, .snapshot 2, .publish 2 2 true]
    (({} : Session).run redact config (play (ascii "secret"))).sent =
      (({} : Session).run redact config (play (ascii "other"))).sent ∧
      (({} : Session).run redact config (play (ascii "secret"))).sent.map (fun a => a.map fun a => (a.details, a.buttonUrl)) =
        [some (ascii "Place", buildDiscordJoinUrl publicServer)] := by
  refine ⟨(presence_hides_secrets _).2.2.2.1 _ _ ?_, by decide +kernel⟩
  refine .cons (.same _) (.cons (.same _) (.cons (.update _ _ ⟨rfl, rfl, Iff.rfl, by decide, Iff.rfl⟩) ?_))
  exact List.forall₂_same.mpr fun event _ => .same event

end Mocktail.Discord
