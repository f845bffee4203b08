/-
  Mocktail.Experience.LaunchQueue — what the launch queue of `RobloxExperienceComposition`
  keeps to.

  A request moves from the queue to the launch in progress and from there to the active
  game, in different sections of different calls, and some of them give the queue up.
  `Queue` is the part of the composition that this is about, `QueueMoves` lists what a step
  does to it and what is seen of it (`QueueObs`), and `QueueInv` is the invariant. Requests
  are compared by their canonical JSON, so those that are dispatched have one.
-/

import Mathlib.Data.List.Nodup
import Mathlib.Data.List.Pairwise
import Mocktail.Experience.Composition

namespace Mocktail.Experience

open Mocktail.Lib Mocktail.Session

/-! ## The queue -/

/-- A launch: its request and its request id. -/
structure Launch where
  request : LaunchRequest
  id : Nat
  deriving DecidableEq, Repr

def LaunchTask.launch (task : LaunchTask) : Launch := ⟨task.request, task.context.requestId⟩

structure Queue where
  pending : List LaunchRequest
  launch : Option Launch
  worker : Worker
  progress : Bool
  /-- The canonical JSON of the active game. -/
  game : Option String
  waiting : Bool
  nextId : Nat
  pc : Pc
  deriving DecidableEq, Repr

def Sys.queue (s : Sys) : Queue where
  pending := s.comp.pendingLaunchRequests
  launch := s.comp.activeLaunch.map LaunchTask.launch
  worker := s.comp.launchWorker
  progress := s.comp.launchInProgress
  game := if s.comp.gameActive then some s.comp.activeGameCanonicalJson else none
  waiting := s.comp.controlledSwitchWaitingForReturn
  nextId := s.comp.nextRequestId
  pc := s.pc

inductive QueueObs where
  /-- A dispatched request that is no duplicate got a place. -/
  | enqueued (request : LaunchRequest)
  /-- A launch was set up. -/
  | chosen (request : LaunchRequest)
  /-- Its worker runs. -/
  | started (launch : Launch)
  deriving DecidableEq, Repr

def Out.queueObs : Out → List QueueObs
  | .presence .joining (some request) => [.chosen request]
  | .launched task => [.started task.launch]
  | _ => []

/-- What a step shows of the queue. -/
def queueObs (s : Sys) (e : Ev) : List QueueObs :=
  (match e with
    | .dispatch request =>
      if (s.comp.dispatch request).1.pendingLaunchRequests = s.comp.pendingLaunchRequests then [] else [.enqueued request]
    | _ => []) ++ (stepSys s e).2.flatMap Out.queueObs

/-- The composition, seen at its queue. -/
def launchQueue : Machine Sys Ev QueueObs := ⟨fun s e => ((stepSys s e).1, queueObs s e)⟩

def enqueuedIn (t : List QueueObs) : List LaunchRequest := t.flatMap fun | .enqueued request => [request] | _ => []

def startedIn (t : List QueueObs) : List Launch := t.flatMap fun | .started launch => [launch] | _ => []

/-! ## What a step does -/

/-- The request is none of those that are active or queued. -/
def Queue.Fresh (q : Queue) (request : LaunchRequest) : Prop :=
  (∀ json ∈ q.game, request.canonicalJson ≠ json) ∧ (∀ l ∈ q.launch, request.canonicalJson ≠ l.request.canonicalJson) ∧
    ∀ p ∈ q.pending, request.canonicalJson ≠ p.canonicalJson

inductive QueueMoves (q : Queue) : Queue → List QueueObs → Prop
  | same : QueueMoves q q []
  | enqueued (request : LaunchRequest) : (request.canonicalJson ≠ "" → q.Fresh request) →
      q.pending.length < kMaxPendingLaunchRequests → QueueMoves q { q with pending := q.pending ++ [request] } [.enqueued request]
  | finished : q.worker = .running → QueueMoves q { q with worker := .finished } []
  | reaped : q.pc = .idle → q.worker = .finished →
      QueueMoves q { q with launch := none, worker := .none, progress := false, pc := .consume,
                            game := if q.launch.isSome then q.launch.map (·.request.canonicalJson) else q.game } []
  /-- The launch failed. -/
  | failed : q.pc = .idle → q.worker = .finished → q.launch.isSome = true →
      QueueMoves q { q with pending := [], launch := none, worker := .none, progress := false, game := none } []
  /-- The drain goes on, without a worker. -/
  | advanced (pc : Pc) : (q.pc = .idle → q.worker = .none) → q.pc ≠ .launch → pc ≠ .launch → (pc = .start → q.waiting = false) →
      QueueMoves q { q with pc := pc } []
  | observed : q.pc = .observe → QueueMoves q { q with game := none, waiting := false, pc := .external } []
  | unobserved : q.pc = .observe → QueueMoves q { q with pending := [], pc := .idle } []
  | switches : q.pc = .decide → q.launch = none → QueueMoves q { q with waiting := true, pc := .leave } []
  | switched : q.pc = .leave → QueueMoves q { q with game := none, pc := .idle } []
  | stayed : q.pc = .leave → QueueMoves q { q with waiting := false, pc := .idle } []
  | left : q.pc = .idle → QueueMoves q { q with game := none } []
  | exhausted : q.pc = .start → QueueMoves q { q with pending := [], pc := .idle } []
  | chosen (request : LaunchRequest) (rest : List LaunchRequest) : q.pc = .start → q.launch = none → q.game = none →
      q.pending = request :: rest →
      QueueMoves q { q with pending := rest, launch := some ⟨request, q.nextId⟩, progress := true, nextId := q.nextId + 1,
                            pc := .launch } [.chosen request]
  | started : q.pc = .launch → QueueMoves q { q with worker := .running, pc := .idle } (q.launch.toList.map .started)
  /-- The worker's thread did not start. -/
  | abandoned : q.pc = .launch →
      QueueMoves q { q with pending := [], launch := none, progress := false, game := q.game.map fun _ => "", pc := .idle } []

theorem dispatch_queue (s : Sys) (request : LaunchRequest) :
    QueueMoves s.queue (stepSys s (.dispatch request)).1.queue (queueObs s (.dispatch request)) := by
  have hkept : (s.comp.dispatch request).1 = s.comp →
      QueueMoves s.queue (stepSys s (.dispatch request)).1.queue (queueObs s (.dispatch request)) := by
    intro heq
    simp only [queueObs, stepSys, heq, if_true]
    exact .same
  by_cases hq : s.comp.subscribed = true
  swap
  · apply hkept
    unfold Composition.dispatch
    rw [if_pos (by simpa using hq)]
  by_cases hdup : (request.canonicalJson != "" &&
      (s.comp.gameActive && request.canonicalJson == s.comp.activeGameCanonicalJson ||
        s.comp.activeLaunch.any (fun t => request.canonicalJson == t.request.canonicalJson) ||
        s.comp.pendingLaunchRequests.any (fun p => request.canonicalJson == p.canonicalJson))) = true
  · apply hkept
    unfold Composition.dispatch
    rw [if_neg (by simp [hq]), if_pos hdup]
  by_cases hfull : kMaxPendingLaunchRequests ≤ s.comp.pendingLaunchRequests.length
  · apply hkept
    unfold Composition.dispatch
    rw [if_neg (by simp [hq]), if_neg hdup, if_pos (by simpa using hfull)]
  have heq : (s.comp.dispatch request).1 =
      { s.comp with pendingLaunchRequests := s.comp.pendingLaunchRequests ++ [request] } := by
    unfold Composition.dispatch
    rw [if_neg (by simp [hq]), if_neg hdup, if_neg (by simpa using hfull)]
  have hfresh : request.canonicalJson ≠ "" → s.queue.Fresh request := by
    intro hne
    simp only [Bool.and_eq_true, bne_iff_ne, ne_eq, hne, not_false_eq_true, true_and, Bool.or_eq_true, not_or, beq_iff_eq,
      not_and] at hdup
    obtain ⟨⟨hgame, hlaunch⟩, hpending⟩ := hdup
    refine ⟨fun json hjson => ?_, fun l hl => ?_, fun p hp heq => ?_⟩
    · have hjson : (if s.comp.gameActive = true then some s.comp.activeGameCanonicalJson else none) = some json := hjson
      split at hjson
      · rename_i hactive
        rw [← Option.some.inj hjson]
        exact hgame hactive
      · cases hjson
    · obtain ⟨task, htask, rfl⟩ := Option.map_eq_some_iff.mp hl
      rw [htask] at hlaunch
      simpa [LaunchTask.launch] using hlaunch
    · exact hpending (List.any_eq_true.mpr ⟨p, hp, by simpa using heq⟩)
  have hgrew : s.comp.pendingLaunchRequests ++ [request] ≠ s.comp.pendingLaunchRequests := by simp
  simp only [queueObs, stepSys, heq, hgrew, if_false]
  exact .enqueued request hfresh (Nat.not_le.mp hfull)

variable {s : Sys}

/-- Nothing else of the composition is part of the queue. -/
theorem queue_eq {c : Composition} (hpending : c.pendingLaunchRequests = s.comp.pendingLaunchRequests)
    (hlaunch : c.activeLaunch = s.comp.activeLaunch) (hworker : c.launchWorker = s.comp.launchWorker)
    (hprogress : c.launchInProgress = s.comp.launchInProgress) (hgame : c.gameActive = s.comp.gameActive)
    (hjson : c.activeGameCanonicalJson = s.comp.activeGameCanonicalJson)
    (hwaiting : c.controlledSwitchWaitingForReturn = s.comp.controlledSwitchWaitingForReturn)
    (hnext : c.nextRequestId = s.comp.nextRequestId) : Sys.queue { s with comp := c } = s.queue := by
  simp only [Sys.queue, hpending, hlaunch, hworker, hprogress, hgame, hjson, hwaiting, hnext]

theorem surface_queue (s : Sys) (native : Native) (lua : Status) (e : Window.WindowSurfaceEvent) :
    Sys.queue { s with comp := (s.comp.surfaceEvent native lua e).1 } = s.queue := by
  unfold Composition.surfaceEvent
  split
  · unfold Composition.surfaceCreated
    split
    · exact queue_eq rfl rfl rfl rfl rfl rfl rfl rfl
    · simp only
      split <;> exact queue_eq rfl rfl rfl rfl rfl rfl rfl rfl
  · unfold Composition.surfaceChanged
    split
    · simp only
      split <;> exact queue_eq rfl rfl rfl rfl rfl rfl rfl rfl
    · split <;> exact queue_eq rfl rfl rfl rfl rfl rfl rfl rfl
  · unfold Composition.surfaceDestroyed
    split
    · exact queue_eq rfl rfl rfl rfl rfl rfl rfl rfl
    · simp only
      split <;> exact queue_eq rfl rfl rfl rfl rfl rfl rfl rfl

theorem leaveGame_queue (s : Sys) (native : Native) :
    Sys.queue { s with comp := (s.comp.leaveGame native).1 } = s.queue ∧ (s.comp.leaveGame native).2.ok = false ∨
      Sys.queue { s with comp := (s.comp.leaveGame native).1 } = { s.queue with game := none } ∧
        (s.comp.leaveGame native).2.ok = true := by
  unfold Composition.leaveGame
  simp only
  split
  · rename_i hok
    exact Or.inr ⟨rfl, hok⟩
  · rename_i hok
    exact Or.inl ⟨rfl, by simpa using hok⟩

theorem worker_queue (s : Sys) (o : LaunchOutcome) :
    QueueMoves s.queue (Sys.queue { s with comp := s.comp.runActiveLaunch o }) [] := by
  unfold Composition.runActiveLaunch
  split
  · rename_i hw hl
    exact .finished hw
  · rename_i task hw hl
    have hmove := QueueMoves.finished (q := s.queue) hw
    have hqueue : ∀ (k : Controller) (result : Status),
        Sys.queue { s with comp := { s.comp with controller := k, activeLaunch := some { task with result := result },
                                                 launchWorker := .finished } } = { s.queue with worker := .finished } := by
      intro k result
      simp [Sys.queue, hl, LaunchTask.launch]
    rw [hqueue]
    exact hmove
  · exact .same

theorem conclude_obs (r : Composition × List Out × Next) : (conclude r).2.flatMap Out.queueObs = r.2.1.flatMap Out.queueObs := by
  unfold conclude
  split
  · rfl
  · rw [List.flatMap_append]
    exact List.append_nil _

theorem drain_queue (s : Sys) (hp : s.pc = .idle) (wait : Wait) :
    QueueMoves s.queue (conclude (s.comp.drainWorker wait)).1.queue ((s.comp.drainWorker wait).2.1.flatMap Out.queueObs) := by
  have hreturned : ∀ st, QueueMoves s.queue (conclude (s.comp, [], .done st)).1.queue [] := by
    intro st
    have hsame : (conclude (s.comp, [], .done st)).1.queue = s.queue := by
      show Sys.queue ⟨s.comp, .idle⟩ = s.queue
      rw [← hp]
    rw [hsame]
    exact .same
  unfold Composition.drainWorker
  split
  · rename_i hw
    exact .advanced .consume (fun _ => hw) (fun h => absurd (hp.symm.trans h) (by decide)) (by decide) nofun
  · exact hreturned _
  · exact hreturned _
  · exact hreturned _
  · rename_i hw
    cases hl : s.comp.activeLaunch with
    | none =>
      have hmove := QueueMoves.reaped (q := s.queue) hp hw
      simpa [Composition.reapLocked, hl, conclude, Sys.queue, Status.ok_okStatus] using hmove
    | some task =>
      cases hok : task.result.ok with
      | true =>
        have hmove := QueueMoves.reaped (q := s.queue) hp hw
        simpa [Composition.reapLocked, hl, hok, conclude, Sys.queue, LaunchTask.launch] using hmove
      | false =>
        have hmove := QueueMoves.failed (q := s.queue) hp hw (by simp [Sys.queue, hl])
        simpa [Composition.reapLocked, hl, hok, conclude, Sys.queue, Out.queueObs, hp] using hmove

theorem start_queue (s : Sys) (hp : s.pc = .start) :
    QueueMoves s.queue (conclude s.comp.drainStart).1.queue (s.comp.drainStart.2.1.flatMap Out.queueObs) := by
  have hreturned : ∀ st, QueueMoves s.queue (conclude (s.comp, [], .done st)).1.queue [] := fun st =>
    .advanced .idle (fun h => absurd (hp.symm.trans h) (by decide)) (fun h => absurd (hp.symm.trans h) (by decide)) (by decide)
      nofun
  unfold Composition.drainStart
  split
  · exact hreturned _
  split
  · exact hreturned _
  rename_i hbusy
  split
  · exact hreturned _
  rename_i hgame
  split
  · exact hreturned _
  rename_i request rest hpending
  split
  · exact .exhausted hp
  have hlaunch : s.queue.launch = none := by
    simp only [Bool.or_eq_true, not_or, Bool.not_eq_true, Option.isSome_eq_false_iff, Option.isNone_iff_eq_none] at hbusy
    simp [Sys.queue, hbusy.2]
  have hinactive : s.queue.game = none := if_neg hgame
  exact .chosen request rest hp hlaunch hinactive hpending

theorem launch_queue (s : Sys) (hp : s.pc = .launch) (startError : Int) :
    QueueMoves s.queue (conclude (s.comp.drainLaunch startError)).1.queue
      ((s.comp.drainLaunch startError).2.1.flatMap Out.queueObs) := by
  unfold Composition.drainLaunch
  split
  · have hmove := QueueMoves.started (q := s.queue) hp
    have hobs : (s.comp.activeLaunch.toList.map Out.launched).flatMap Out.queueObs = s.queue.launch.toList.map .started := by
      unfold Sys.queue
      cases s.comp.activeLaunch with
      | none => rfl
      | some task => rfl
    rw [hobs]
    exact hmove
  · have hmove := QueueMoves.abandoned (q := s.queue) hp
    have hgame : (s.queue.game.map fun _ => "") = if s.comp.gameActive then some "" else none := by
      unfold Sys.queue
      cases s.comp.gameActive with
      | true => rfl
      | false => rfl
    rw [hgame] at hmove
    exact hmove

theorem section_queue (s : Sys) (hp : s.pc ≠ .idle) (i : DrainInput) :
    QueueMoves s.queue (conclude (drainSection s.comp i s.pc)).1.queue
      ((drainSection s.comp i s.pc).2.1.flatMap Out.queueObs) := by
  have hadvanced : ∀ pc, s.pc ≠ .launch → pc ≠ .launch → (pc = .start → s.comp.controlledSwitchWaitingForReturn = false) →
      QueueMoves s.queue (Sys.queue ⟨s.comp, pc⟩) [] :=
    fun pc hnot hpc hstart => .advanced pc (fun h => absurd h hp) hnot hpc hstart
  cases hpc : s.pc with
  | idle => exact absurd hpc hp
  | consume =>
    simp only [drainSection, Composition.drainConsume]
    split
    · exact hadvanced .observe (by rw [hpc]; decide) (by decide) nofun
    · exact hadvanced .external (by rw [hpc]; decide) (by decide) nofun
  | observe =>
    simp only [drainSection, Composition.drainObserve]
    split
    · exact .unobserved hpc
    · exact .observed hpc
  | external =>
    simp only [drainSection, Composition.drainExternal]
    split
    · exact hadvanced .idle (by rw [hpc]; decide) (by decide) nofun
    split
    · exact hadvanced .idle (by rw [hpc]; decide) (by decide) nofun
    · exact hadvanced .decide (by rw [hpc]; decide) (by decide) nofun
  | decide =>
    simp only [drainSection, Composition.drainDecide]
    split
    · exact hadvanced .idle (by rw [hpc]; decide) (by decide) nofun
    split
    · exact hadvanced .idle (by rw [hpc]; decide) (by decide) nofun
    rename_i hwaiting
    split
    · rename_i hc
      simp only [Bool.and_eq_true, Option.isNone_iff_eq_none] at hc
      exact .switches hpc (by simp [Sys.queue, hc.1.1.2])
    · exact hadvanced .start (by rw [hpc]; decide) (by decide) (fun _ => by simpa using hwaiting)
  | leave =>
    simp only [drainSection, Composition.drainLeave]
    rcases leaveGame_queue s i.native with ⟨hq, hok⟩ | ⟨hq, hok⟩
    · rw [if_pos (by simp [hok])]
      have hmove := QueueMoves.stayed (q := s.queue) hpc
      have heq : Sys.queue ⟨{ (s.comp.leaveGame i.native).1 with controlledSwitchWaitingForReturn := false }, .idle⟩ =
          { s.queue with waiting := false, pc := .idle } := by
        rw [← hq]
        rfl
      rw [← heq] at hmove
      exact hmove
    · rw [if_neg (by simp [hok])]
      have hmove := QueueMoves.switched (q := s.queue) hpc
      have heq : Sys.queue ⟨(s.comp.leaveGame i.native).1, .idle⟩ = { s.queue with game := none, pc := .idle } :=
        congrArg (fun q : Queue => { q with pc := .idle }) hq
      rw [← heq] at hmove
      exact hmove
  | start => exact start_queue s hpc
  | launch => exact launch_queue s hpc i.startError

theorem step_queue (s : Sys) (e : Ev) : QueueMoves s.queue (stepSys s e).1.queue (queueObs s e) := by
  cases e with
  | dispatch request => exact dispatch_queue s request
  | notifyReturn =>
    obtain ⟨pending, hn⟩ := s.comp.notify_pending
    simp only [queueObs, stepSys, hn, List.flatMap_nil, List.append_nil]
    exact .same
  | presented =>
    simp only [queueObs, stepSys, Composition.publishPresentedPresence, List.nil_append]
    split
    · split
      · exact .same
      · exact .same
    · exact .same
  | worker o => exact worker_queue s o
  | drain wait =>
    simp only [queueObs, stepSys, List.nil_append]
    split
    · rename_i hp
      rw [conclude_obs]
      exact drain_queue s hp wait
    · exact .same
  | resume i =>
    simp only [queueObs, stepSys, List.nil_append]
    split
    · exact .same
    · rename_i hp
      rw [conclude_obs]
      exact section_queue s hp i
  | leaveGame native =>
    simp only [queueObs, stepSys, List.nil_append]
    split
    · rename_i hp
      rcases leaveGame_queue s native with ⟨hq, -⟩ | ⟨hq, -⟩
      · rw [hq]
        exact .same
      · rw [hq]
        exact .left hp
    · exact .same
  | surface e native lua =>
    simp only [queueObs, stepSys, List.nil_append]
    split
    · rw [surface_queue]
      exact .same
    · exact .same

/-! ## No request twice -/

/-- The queue is short, and no request is there twice or also launching or active. -/
structure Distinct (q : Queue) : Prop where
  bounded : q.pending.length ≤ kMaxPendingLaunchRequests
  nodup : (q.pending.map (·.canonicalJson)).Nodup
  launch : ∀ l ∈ q.launch, ∀ p ∈ q.pending, p.canonicalJson ≠ l.request.canonicalJson
  game : ∀ json ∈ q.game, ∀ p ∈ q.pending, p.canonicalJson ≠ json

theorem distinct_empty {q : Queue} (h : q.pending = []) : Distinct q := by
  refine ⟨?_, ?_, fun _ _ p hp => ?_, fun _ _ p hp => ?_⟩
  · rw [h]
    exact Nat.zero_le _
  · rw [h]
    exact List.nodup_nil
  · rw [h] at hp
    cases hp
  · rw [h] at hp
    cases hp

variable {obs : List QueueObs} {q q' : Queue}

theorem QueueMoves.distinct (hm : QueueMoves q q' obs) (h : Distinct q)
    (hjson : ∀ request, QueueObs.enqueued request ∈ obs → request.canonicalJson ≠ "") : Distinct q' := by
  cases hm with
  | same => exact h
  | enqueued request hfresh hroom =>
    obtain ⟨hgame, hlaunch, hpending⟩ := hfresh (hjson request (List.mem_singleton_self _))
    refine ⟨?_, ?_, fun l hl p hp => ?_, fun json hj p hp => ?_⟩
    · rw [List.length_append, List.length_singleton]
      exact hroom
    · rw [List.map_append, List.nodup_append]
      refine ⟨h.nodup, List.nodup_singleton _, fun json hmem json' hmem' => ?_⟩
      obtain ⟨p, hp, rfl⟩ := List.mem_map.mp hmem
      rw [List.map_singleton, List.mem_singleton] at hmem'
      rw [hmem']
      exact (hpending p hp).symm
    · rcases List.mem_append.mp hp with hp | hp
      · exact h.launch l hl p hp
      · rw [List.mem_singleton.mp hp]
        exact hlaunch l hl
    · rcases List.mem_append.mp hp with hp | hp
      · exact h.game json hj p hp
      · rw [List.mem_singleton.mp hp]
        exact hgame json hj
  | finished | advanced | switches | stayed | started => exact ⟨h.bounded, h.nodup, h.launch, h.game⟩
  | reaped =>
    refine ⟨h.bounded, h.nodup, fun l hl => (by cases hl), fun json hj p hp => ?_⟩
    -- the launch becomes the active game
    simp only at hj
    split at hj
    · obtain ⟨l, hl, rfl⟩ := Option.map_eq_some_iff.mp hj
      exact h.launch l hl p hp
    · exact h.game json hj p hp
  | failed | unobserved | exhausted | abandoned => exact distinct_empty rfl
  | observed | switched | left => exact ⟨h.bounded, h.nodup, h.launch, fun json hj => by cases hj⟩
  | chosen request rest hp hlaunch hgame hpending =>
    have hbounded := h.bounded
    have hnodup := h.nodup
    rw [hpending, List.length_cons] at hbounded
    rw [hpending, List.map_cons, List.nodup_cons] at hnodup
    refine ⟨Nat.le_of_succ_le hbounded, hnodup.2, fun l hl p hp => ?_, fun json hj => ?_⟩
    · -- the front of the queue becomes the launch
      cases hl
      intro heq
      exact hnodup.1 (List.mem_map.mpr ⟨p, hp, heq⟩)
    · rw [hgame] at hj
      cases hj

/-! ## One launch at a time -/

/-- Who may be at work when: a launch is set up or has a worker, and then no game is active and no
switch is waited for; a running drain has no worker. -/
structure Controlled (q : Queue) : Prop where
  progress : q.progress = q.launch.isSome
  settled : q.launch.isSome = true → q.game = none ∧ q.waiting = false
  draining : q.pc ≠ .idle → q.worker = .none
  working : q.worker ≠ .none → q.launch.isSome = true
  launching : q.launch.isSome = true → q.pc = .launch ∨ q.worker ≠ .none
  setUp : q.pc = .launch → q.launch.isSome = true
  starting : q.pc = .start → q.waiting = false

/-- A step of a drain that is not at `launch` leaves no launch behind. -/
theorem Controlled.none {q : Queue} (h : Controlled q) (hidle : q.pc ≠ .idle) (hlaunch : q.pc ≠ .launch) : q.launch = none := by
  cases hl : q.launch with
  | none => rfl
  | some l =>
    rcases h.launching (by rw [hl]; rfl) with hpc | hworker
    · exact absurd hpc hlaunch
    · exact absurd (h.draining hidle) hworker

/-- Without a launch and a worker there is little to say. -/
theorem controlled_free {q : Queue} (hprogress : q.progress = false) (hlaunch : q.launch = none) (hworker : q.worker = .none)
    (hpc : q.pc ≠ .launch) (hstarting : q.pc = .start → q.waiting = false) : Controlled q := by
  have hnone : ¬ q.launch.isSome = true := by rw [hlaunch]; exact Bool.false_ne_true
  exact ⟨by rw [hprogress, hlaunch]; rfl, fun h => absurd h hnone, fun _ => hworker, fun h => absurd hworker h,
    fun h => absurd h hnone, fun h => absurd h hpc, hstarting⟩

theorem Controlled.free {q : Queue} (h : Controlled q) (hidle : q.pc ≠ .idle) (hlaunch : q.pc ≠ .launch) :
    q.progress = false ∧ q.launch = Option.none ∧ q.worker = .none := by
  have hnone := h.none hidle hlaunch
  refine ⟨?_, hnone, h.draining hidle⟩
  rw [h.progress, hnone]
  rfl

theorem QueueMoves.controlled (hm : QueueMoves q q' obs) (h : Controlled q) : Controlled q' := by
  cases hm with
  | same => exact h
  | enqueued => exact ⟨h.progress, h.settled, h.draining, h.working, h.launching, h.setUp, h.starting⟩
  | finished hw =>
    have hbusy : q.worker ≠ .none := by rw [hw]; decide
    have hidle : q.pc = .idle := by
      by_contra hpc
      exact hbusy (h.draining hpc)
    exact ⟨h.progress, h.settled, fun hpc => absurd hidle hpc, fun _ => h.working hbusy, fun _ => Or.inr nofun, h.setUp,
      h.starting⟩
  | reaped => exact controlled_free rfl rfl rfl nofun nofun
  | failed hp => exact controlled_free rfl rfl rfl (by rw [hp]; decide) (fun hs => absurd (hp.symm.trans hs) (by decide))
  | advanced pc hidle hpc hpc' hstart =>
    by_cases hat : q.pc = .idle
    · have hnone : q.launch = none := by
        cases hl : q.launch with
        | none => rfl
        | some l =>
          rcases h.launching (by rw [hl]; rfl) with hlaunch | hworker
          · exact absurd hlaunch hpc
          · exact absurd (hidle hat) hworker
      exact controlled_free (by rw [h.progress, hnone]; rfl) hnone (hidle hat) hpc' hstart
    · obtain ⟨hprogress, hnone, hworker⟩ := h.free hat hpc
      exact controlled_free hprogress hnone hworker hpc' hstart
  | observed hp | unobserved hp | switches hp | switched hp | stayed hp | exhausted hp =>
    obtain ⟨hprogress, hnone, hworker⟩ := h.free (by rw [hp]; decide) (by rw [hp]; decide)
    exact controlled_free hprogress hnone hworker nofun nofun
  | left => exact ⟨h.progress, fun hl => ⟨rfl, (h.settled hl).2⟩, h.draining, h.working, h.launching, h.setUp, h.starting⟩
  | chosen request rest hp hlaunch hgame =>
    have hworker := h.draining (by rw [hp]; decide)
    exact ⟨rfl, fun _ => ⟨hgame, h.starting hp⟩, fun _ => hworker, fun _ => rfl, fun _ => Or.inl rfl, fun _ => rfl, nofun⟩
  | started hp =>
    have hsome := h.setUp hp
    exact ⟨h.progress, h.settled, fun hpc => absurd rfl hpc, fun _ => hsome, fun _ => Or.inr nofun, nofun, nofun⟩
  | abandoned hp => exact controlled_free rfl rfl (h.draining (by rw [hp]; decide)) nofun nofun

/-- A launch is set up or started without a worker, an active game and a switch that is waited for. -/
theorem QueueMoves.starts (hm : QueueMoves q q' obs) (h : Controlled q)
    (hstarts : ∃ o ∈ obs, ∀ request, o ≠ .enqueued request) : q.worker = .none ∧ q.game = none ∧ q.waiting = false := by
  obtain ⟨o, ho, hnot⟩ := hstarts
  cases hm with
  | enqueued request => exact absurd (List.mem_singleton.mp ho) (hnot request)
  | chosen request rest hp hlaunch hgame => exact ⟨h.draining (by rw [hp]; decide), hgame, h.starting hp⟩
  | started hp =>
    obtain ⟨hgame, hwaiting⟩ := h.settled (h.setUp hp)
    exact ⟨h.draining (by rw [hp]; decide), hgame, hwaiting⟩
  | _ => cases ho

/-! ## In order -/

/-- The request of a launch that is set up. -/
def Queue.toStart (q : Queue) : List LaunchRequest := if q.pc = .launch then q.launch.toList.map (·.request) else []

/-- The launches started so far, the one that is set up and the queue are in the order of dispatch,
and their ids ascend. -/
structure Ordered (q : Queue) (t : List QueueObs) : Prop where
  below : ∀ l ∈ startedIn t, l.id < q.nextId
  current : q.pc = .launch → ∀ l ∈ q.launch, l.id < q.nextId ∧ ∀ l' ∈ startedIn t, l'.id < l.id
  sorted : ((startedIn t).map (·.id)).Pairwise (· < ·)
  order : ((startedIn t).map (·.request) ++ q.toStart ++ q.pending).Sublist (enqueuedIn t)

@[simp] theorem enqueuedIn_append (t u : List QueueObs) : enqueuedIn (t ++ u) = enqueuedIn t ++ enqueuedIn u := by
  simp [enqueuedIn]

/-- A step that shows nothing only takes requests away. -/
theorem Ordered.shrink {t : List QueueObs} (h : Ordered q t) (hnext : q'.nextId = q.nextId)
    (hpc : q'.pc = .launch → q.pc = .launch ∧ q'.launch = q.launch) (hpending : q'.pending.Sublist q.pending) :
    Ordered q' (t ++ []) := by
  rw [List.append_nil]
  have hto : q'.toStart.Sublist q.toStart := by
    unfold Queue.toStart
    by_cases hat : q'.pc = .launch
    · obtain ⟨hat', hlaunch⟩ := hpc hat
      rw [if_pos hat, if_pos hat', hlaunch]
    · rw [if_neg hat]
      exact List.nil_sublist _
  refine ⟨by rw [hnext]; exact h.below, fun hat l hl => ?_, h.sorted, ?_⟩
  · obtain ⟨hat', hlaunch⟩ := hpc hat
    rw [hnext]
    exact h.current hat' l (hlaunch ▸ hl)
  · exact ((List.Sublist.refl _).append hto).append hpending |>.trans h.order

theorem QueueMoves.ordered {t obs : List QueueObs} (hm : QueueMoves q q' obs) (h : Ordered q t) :
    Ordered q' (t ++ obs) := by
  cases hm with
  | same | finished | left => exact h.shrink rfl (fun hat => ⟨hat, rfl⟩) (List.Sublist.refl _)
  | enqueued request =>
    refine ⟨?_, ?_, ?_, ?_⟩
    · simpa [startedIn] using h.below
    · simpa [startedIn] using h.current
    · simpa [startedIn] using h.sorted
    · have hto : Queue.toStart { q with pending := q.pending ++ [request] } = q.toStart := rfl
      have hlonger := h.order.append (List.Sublist.refl [request])
      rw [hto]
      simpa [startedIn, enqueuedIn] using hlonger
  | reaped | observed | switches | switched | stayed => exact h.shrink rfl nofun (List.Sublist.refl _)
  | failed hp => exact h.shrink rfl (fun hat => absurd (hp.symm.trans hat) (by decide)) (List.nil_sublist _)
  | advanced pc hidle hpc hpc' => exact h.shrink rfl (fun hat => absurd hat hpc') (List.Sublist.refl _)
  | unobserved | exhausted | abandoned => exact h.shrink rfl nofun (List.nil_sublist _)
  | chosen request rest hp hlaunch hgame hpending =>
    have hstarted : startedIn (t ++ [QueueObs.chosen request]) = startedIn t := by simp [startedIn]
    have henqueued : enqueuedIn (t ++ [QueueObs.chosen request]) = enqueuedIn t := by simp [enqueuedIn]
    have hto : q.toStart = [] := by
      unfold Queue.toStart
      rw [if_neg (by rw [hp]; decide)]
    have horder := h.order
    rw [hto, hpending] at horder
    refine ⟨fun l hl => ?_, fun _ l hl => ?_, by rw [hstarted]; exact h.sorted, ?_⟩
    · rw [hstarted] at hl
      exact Nat.lt_succ_of_lt (h.below l hl)
    · cases hl
      rw [hstarted]
      exact ⟨Nat.lt_succ_self _, h.below⟩
    · rw [hstarted, henqueued]
      simpa [Queue.toStart] using horder
  | started hp =>
    cases hl : q.launch with
    | none =>
      rw [Option.toList_none, List.map_nil]
      exact h.shrink rfl nofun (List.Sublist.refl _)
    | some l =>
      obtain ⟨hid, hlast⟩ := h.current hp l hl
      have hstarted : startedIn (t ++ (some l).toList.map .started) = startedIn t ++ [l] := by simp [startedIn]
      have henqueued : enqueuedIn (t ++ (some l).toList.map .started) = enqueuedIn t := by simp [enqueuedIn]
      have hto : q.toStart = [l.request] := by
        unfold Queue.toStart
        rw [if_pos hp, hl]
        rfl
      have horder := h.order
      rw [hto] at horder
      refine ⟨fun l' hl' => ?_, nofun, ?_, ?_⟩
      · rw [hstarted] at hl'
        rcases List.mem_append.mp hl' with hl' | hl'
        · exact h.below l' hl'
        · rw [List.mem_singleton.mp hl']
          exact hid
      · rw [hstarted, List.map_append, List.pairwise_append]
        refine ⟨h.sorted, List.pairwise_singleton _ _, fun id hmem id' hmem' => ?_⟩
        obtain ⟨l', hl', rfl⟩ := List.mem_map.mp hmem
        rw [List.map_singleton, List.mem_singleton] at hmem'
        rw [hmem']
        exact hlast l' hl'
      · rw [hstarted, henqueued]
        simpa [Queue.toStart] using horder

/-! ## Every run -/

/-- All three together. -/
structure QueueInv (s : Sys) (t : List QueueObs) : Prop where
  distinct : Distinct s.queue
  controlled : Controlled s.queue
  ordered : Ordered s.queue t

/-- A dispatched request has a canonical JSON. -/
def Ev.canonical : Ev → Prop
  | .dispatch request => request.canonicalJson ≠ ""
  | _ => True

theorem out_not_enqueued (o : Out) (request : LaunchRequest) : QueueObs.enqueued request ∉ o.queueObs := by
  unfold Out.queueObs
  split <;> simp

theorem enqueued_canonical {e : Ev} (h : e.canonical) :
    ∀ request, QueueObs.enqueued request ∈ queueObs s e → request.canonicalJson ≠ "" := by
  intro request hmem
  have hout : QueueObs.enqueued request ∉ (stepSys s e).2.flatMap Out.queueObs := by
    intro hmem
    obtain ⟨o, -, ho⟩ := List.mem_flatMap.mp hmem
    exact out_not_enqueued o request ho
  cases e with
  | dispatch dispatched =>
    rcases List.mem_append.mp hmem with hmem | hmem
    · simp only at hmem
      split at hmem
      · cases hmem
      · cases List.mem_singleton.mp hmem
        exact h
    · exact absurd hmem hout
  | _ => exact absurd hmem hout

theorem queueInv_step {t : List QueueObs} {e : Ev} (h : QueueInv s t) (he : e.canonical) :
    QueueInv (launchQueue.step s e).1 (t ++ (launchQueue.step s e).2) := by
  have hm := step_queue s e
  exact ⟨hm.distinct h.distinct (enqueued_canonical he), hm.controlled h.controlled, hm.ordered h.ordered⟩

theorem queueInv_run (r : Readiness) {es : List Ev} (hes : ∀ e ∈ es, e.canonical) :
    QueueInv (launchQueue.run (ready r) es).1 (launchQueue.run (ready r) es).2 := by
  induction es using List.reverseRecOn with
  | nil =>
    refine ⟨distinct_empty rfl, controlled_free rfl rfl rfl nofun nofun, fun l hl => (by cases hl), fun hpc => ?_,
      List.Pairwise.nil, List.Sublist.refl _⟩
    cases hpc
  | append_singleton es e ih =>
    rw [Machine.run_snoc]
    exact queueInv_step (ih fun e' he' => hes e' (List.mem_append_left _ he'))
      (hes e (List.mem_append_right _ (List.mem_singleton_self e)))

/-- The requests dispatched, in order. -/
def dispatchedIn (es : List Ev) : List LaunchRequest := es.flatMap fun | .dispatch request => [request] | _ => []

theorem enqueued_sublist (r : Readiness) (es : List Ev) :
    (enqueuedIn (launchQueue.run (ready r) es).2).Sublist (dispatchedIn es) := by
  induction es using List.reverseRecOn with
  | nil => exact List.Sublist.refl _
  | append_singleton es e ih =>
    have hstep : ∀ s, (enqueuedIn (queueObs s e)).Sublist (dispatchedIn [e]) := by
      intro s
      have hout : enqueuedIn ((stepSys s e).2.flatMap Out.queueObs) = [] := by
        refine List.flatMap_eq_nil_iff.mpr fun o ho => ?_
        obtain ⟨out, -, ho⟩ := List.mem_flatMap.mp ho
        cases o with
        | enqueued request => exact absurd ho (out_not_enqueued out request)
        | chosen request => rfl
        | started launch => rfl
      unfold queueObs
      rw [enqueuedIn_append, hout, List.append_nil]
      cases e with
      | dispatch request =>
        simp only
        split
        · exact List.nil_sublist _
        · exact List.Sublist.refl _
      | _ => exact List.nil_sublist _
    rw [Machine.run_snoc]
    show (enqueuedIn (_ ++ queueObs _ e)).Sublist _
    rw [enqueuedIn_append]
    have hsplit : dispatchedIn (es ++ [e]) = dispatchedIn es ++ dispatchedIn [e] := by simp [dispatchedIn]
    rw [hsplit]
    exact ih.append (hstep _)

/-- The launch queue, in every run of the composition and of the threads around it. -/
theorem launch_queue_kept (r : Readiness) (es : List Ev)
    (hes : ∀ request, Ev.dispatch request ∈ es → request.canonicalJson ≠ "") :
    let s := (launchQueue.run (ready r) es).1.comp
    let t := (launchQueue.run (ready r) es).2
    -- the queue is short, and no request is there twice or also launching or active
    s.pendingLaunchRequests.length ≤ kMaxPendingLaunchRequests ∧
      (s.pendingLaunchRequests.map (·.canonicalJson)).Nodup ∧
      (∀ p ∈ s.pendingLaunchRequests, (∀ task ∈ s.activeLaunch, p.canonicalJson ≠ task.request.canonicalJson) ∧
        (s.gameActive = true → p.canonicalJson ≠ s.activeGameCanonicalJson)) ∧
      -- a launch is in progress exactly when there is one, and only it has a worker
      s.launchInProgress = s.activeLaunch.isSome ∧
      (s.launchWorker ≠ .none → s.activeLaunch.isSome = true) ∧
      -- whenever a launch is set up or started, no other runs, no game is active and no switch is waited for
      (∀ pre e post, es = pre ++ e :: post →
        (∃ o ∈ queueObs (launchQueue.run (ready r) pre).1 e, ∀ request, o ≠ .enqueued request) →
        (launchQueue.run (ready r) pre).1.comp.launchWorker = .none ∧
          (launchQueue.run (ready r) pre).1.comp.gameActive = false ∧
          (launchQueue.run (ready r) pre).1.comp.controlledSwitchWaitingForReturn = false) ∧
      -- request ids ascend, and launches are started in the order of dispatch
      ((startedIn t).map (·.id)).Pairwise (· < ·) ∧
      ((startedIn t).map (·.request)).Sublist (enqueuedIn t) ∧ (enqueuedIn t).Sublist (dispatchedIn es) := by
  have hcanonical : ∀ e ∈ es, e.canonical := by
    intro e he
    cases e with
    | dispatch request => exact hes request he
    | _ => trivial
  intro s t
  obtain ⟨hdistinct, hcontrolled, hordered⟩ := queueInv_run r hcanonical
  refine ⟨hdistinct.bounded, hdistinct.nodup, fun p hp => ⟨fun task htask => ?_, fun hactive => ?_⟩, ?_, fun hworker => ?_, ?_,
    hordered.sorted, ?_, enqueued_sublist r es⟩
  · exact hdistinct.launch task.launch (Option.mem_map_of_mem _ htask) p hp
  · exact hdistinct.game _ (if_pos hactive) p hp
  · have hprogress := hcontrolled.progress
    simpa [Sys.queue] using hprogress
  · have hworking := hcontrolled.working hworker
    simpa [Sys.queue] using hworking
  · intro pre e post hsplit hstarts
    have hpre : QueueInv (launchQueue.run (ready r) pre).1 (launchQueue.run (ready r) pre).2 := by
      refine queueInv_run r fun e' he' => hcanonical e' ?_
      rw [hsplit]
      exact List.mem_append_left _ he'
    obtain ⟨hworker, hgame, hwaiting⟩ := (step_queue _ e).starts hpre.controlled hstarts
    refine ⟨hworker, ?_, hwaiting⟩
    by_contra hactive
    have hsome : (launchQueue.run (ready r) pre).1.queue.game =
        some (launchQueue.run (ready r) pre).1.comp.activeGameCanonicalJson :=
      if_pos (by simpa using hactive)
    rw [hsome] at hgame
    cases hgame
  · have hstarted : ((startedIn t).map (·.request)).Sublist
        ((startedIn t).map (·.request) ++ (launchQueue.run (ready r) es).1.queue.toStart ++ s.pendingLaunchRequests) := by
      rw [List.append_assoc]
      exact List.sublist_append_left _ _
    exact hstarted.trans hordered.order

/-- Two requests, the first one again, and a drain that starts it. -/
def twoRequests : List Ev :=
  [.dispatch { placeId := 1, canonicalJson := "a" }, .dispatch { placeId := 2, canonicalJson := "b" },
    .dispatch { placeId := 1, canonicalJson := "a" }, .drain .joined, .resume {}, .resume {}, .resume {}, .resume {}, .resume {}]

theorem launch_queue_kept_demo :
    (startedIn (launchQueue.run (ready {}) twoRequests).2).map (·.id) = [1] ∧
      ((launchQueue.run (ready {}) twoRequests).1.comp.pendingLaunchRequests.map (·.canonicalJson)) = ["b"] ∧
      ((launchQueue.run (ready {}) twoRequests).1.comp.pendingLaunchRequests.map (·.canonicalJson)).Nodup := by
  refine ⟨by decide, by decide, (launch_queue_kept {} twoRequests ?_).2.1⟩
  intro request hmem
  simp only [twoRequests, List.mem_cons, Ev.dispatch.injEq, reduceCtorEq, List.not_mem_nil, or_false] at hmem
  rcases hmem with rfl | rfl | rfl
  · decide
  · decide
  · decide

end Mocktail.Experience
