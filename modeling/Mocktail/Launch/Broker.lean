/-
  Mocktail.Launch.Broker — the external launch broker (src/runtime/external_launch_broker.cc).

  Three locks. `queue_mutex_` guards `pending_` for one section at a time, so each section
  is a step. `drain_mutex_` is held by one `Drain` from its check of `stopping_` to its
  return, over the unlocked calls of the sink, and by `Shutdown` from the moment it sets
  `stopping_`. `lifecycle_mutex_` is held by one `Shutdown`. A call that waits for a lock is
  a step that changes nothing.

  `QueueInitial` callers and the worker both go through `QueueNormalized`: a look at
  `stopping_` without a lock (`arriving`), then the section that looks again and appends.

  An accepted request is an `Entry`, numbered in the order of acceptance. The ledger
  (`Ledger.balance`) says where each is: the entries settled so far (dispatched ok, or given
  up by a `Shutdown`), the one in the hands of the current `Drain`, and the pending ones, in
  this order, are exactly the accepted ones in theirs. `broker_delivers` reads everything
  off it.
-/

import Mathlib.Data.List.Nodup
import Mathlib.Data.List.Range
import Mocktail.Lib.Trace
import Mocktail.Launch.ExperienceLaunch

namespace Mocktail.Launch

open Mocktail.Lib

structure Entry where
  /-- How many requests were accepted before it. -/
  id : Nat
  request : ExperienceLaunchRequest
  deriving DecidableEq, Repr

/-- Where the holder of `drain_mutex_` is in `Drain`. -/
inductive DrainPhase where
  /-- Before a turn of the loop, with turns left. -/
  | turn (left : Nat)
  /-- Inside `sink.dispatch`. -/
  | dispatching (left : Nat) (entry : Entry)
  deriving DecidableEq, Repr

/-- Where the holder of `lifecycle_mutex_` is in `Shutdown`. -/
inductive ShutdownPhase where
  | idle
  /-- Waits for `drain_mutex_`. -/
  | locked
  /-- `stopping_` is set; waits for the worker. -/
  | stopping
  | joined
  | cleared
  deriving DecidableEq, Repr

structure Broker where
  maximumPending : Nat
  pending : List Entry := []
  stopping : Bool := true
  started : Bool := false
  accepted : Nat := 0
  /-- Requests past the first look at `stopping_`. -/
  arriving : List ExperienceLaunchRequest := []
  drain : Option DrainPhase := none
  shutdown : ShutdownPhase := .idle
  deriving DecidableEq, Repr

inductive BrokerAct where
  /-- A `Start` whose socket and worker come up. -/
  | start (initial : Option ExperienceLaunchRequest)
  | queueInitial (request : ExperienceLaunchRequest)
  /-- A packet of a peer, with the outcome of the credential check. -/
  | handlePeer (sameUser : Bool) (packet : Text)
  /-- The `k`-th arriving request gets `queue_mutex_`. -/
  | queueNormalized (k : Nat)
  | drain (maximumRequests : Nat)
  | drainTurn
  | dispatchReturn (status : Status)
  | shutdown
  | shutdownStop
  | shutdownWait (joined : Bool)
  | shutdownClear
  | shutdownReturn
  deriving DecidableEq, Repr

inductive BrokerObs where
  | started
  | accepted (entry : Entry)
  | dispatching (entry : Entry)
  | dispatched (entry : Entry) (ok : Bool)
  | stopping
  | cleared (entries : List Entry)
  | stopped
  deriving DecidableEq, Repr

def kMaximumConfiguredPendingLaunches : Nat := 64

def kWirePrefix : Text := ascii "MOCKTAIL-EXTERNAL-LAUNCH/1\n"

variable (lib : JsonLibrary)

def normalizeRequest (request : ExperienceLaunchRequest) : Result ExperienceLaunchRequest :=
  if request.canonicalJson = [] then invalid "external-launch canonical JSON is empty"
  else
    match parseRobloxExperienceLaunchJson lib request.canonicalJson with
    | .ok normalized => .ok normalized
    | .error (.status _) => invalid "external-launch canonical JSON is invalid"
    | .error .exception => .error .exception

/-- The checks of `HandlePeer` before it queues; `none` is a reply that refuses the packet. -/
def readPacket (sameUser : Bool) (packet : Text) : Option ExperienceLaunchRequest :=
  if !sameUser then none
  else if packet.length ≤ kWirePrefix.length ∨
      kWirePrefix.length + kMaximumExperienceLaunchJsonBytes < packet.length ∨
      packet.take kWirePrefix.length ≠ kWirePrefix then
    none
  else (parseRobloxExperienceLaunchJson lib (packet.drop kWirePrefix.length)).toOption

namespace Broker

variable (b : Broker)

/-- `drain_mutex_` is free. -/
def drainFree : Bool :=
  b.drain == none && (b.shutdown == .idle || b.shutdown == .locked)

/-- The first look of `QueueNormalized` at `stopping_`. -/
def arrive (request : Option ExperienceLaunchRequest) : Broker :=
  match request with
  | some normalized => if b.stopping then b else { b with arriving := b.arriving ++ [normalized] }
  | none => b

def pushBack (request : ExperienceLaunchRequest) : Broker :=
  { b with pending := b.pending ++ [⟨b.accepted, request⟩], accepted := b.accepted + 1 }

/-- `Start`: the initial request is queued before anything can fail. -/
def start (initial : Option ExperienceLaunchRequest) : Broker × List BrokerObs :=
  if b.started ∨ b.shutdown ≠ .idle ∨ b.maximumPending = 0 ∨ kMaximumConfiguredPendingLaunches < b.maximumPending then
    (b, [])
  else
    match initial with
    | none => ({ b with stopping := false, started := true }, [BrokerObs.started])
    | some request =>
      match normalizeRequest lib request with
      | .ok normalized =>
        ({ b.pushBack normalized with stopping := false, started := true },
          [BrokerObs.started, BrokerObs.accepted ⟨b.accepted, normalized⟩])
      | .error _ => (b, [])

/-- The locked section of `QueueNormalized`. -/
def queueNormalized (k : Nat) : Broker × List BrokerObs :=
  match b.arriving[k]? with
  | none => (b, [])
  | some request =>
    let b := { b with arriving := b.arriving.eraseIdx k }
    if b.stopping then (b, [])
    else if b.maximumPending ≤ b.pending.length then (b, [])
    else (b.pushBack request, [BrokerObs.accepted ⟨b.accepted, request⟩])

/-- One turn of the loop of `Drain`, to the call of the sink. -/
def drainTurn : Broker × List BrokerObs :=
  match b.drain with
  | some (.turn 0) => ({ b with drain := none }, [])
  | some (.turn (left + 1)) =>
    match b.pending with
    | [] => ({ b with drain := none }, [])
    | entry :: rest =>
      ({ b with pending := rest, drain := some (.dispatching left entry) }, [BrokerObs.dispatching entry])
  | _ => (b, [])

/-- The sink returns. -/
def dispatchReturn (status : Status) : Broker × List BrokerObs :=
  match b.drain with
  | some (.dispatching left entry) =>
    if status.ok then ({ b with drain := some (.turn left) }, [BrokerObs.dispatched entry true])
    else ({ b with pending := entry :: b.pending, drain := none }, [BrokerObs.dispatched entry false])
  | _ => (b, [])

def step : BrokerAct → Broker × List BrokerObs
  | .start initial => b.start lib initial
  | .queueInitial request => (b.arrive (normalizeRequest lib request).toOption, [])
  | .handlePeer sameUser packet => (b.arrive (readPacket lib sameUser packet), [])
  | .queueNormalized k => b.queueNormalized k
  | .drain maximumRequests =>
    if b.drainFree ∧ !b.stopping then ({ b with drain := some (.turn maximumRequests) }, []) else (b, [])
  | .drainTurn => b.drainTurn
  | .dispatchReturn status => b.dispatchReturn status
  | .shutdown => if b.shutdown = .idle ∧ b.started then ({ b with shutdown := .locked }, []) else (b, [])
  | .shutdownStop =>
    if b.shutdown = .locked ∧ b.drain = none then
      ({ b with shutdown := .stopping, stopping := true }, [BrokerObs.stopping])
    else (b, [])
  | .shutdownWait joined =>
    if b.shutdown = .stopping then ({ b with shutdown := if joined then .joined else .idle }, []) else (b, [])
  | .shutdownClear =>
    if b.shutdown = .joined then ({ b with shutdown := .cleared, pending := [] }, [BrokerObs.cleared b.pending])
    else (b, [])
  | .shutdownReturn =>
    if b.shutdown = .cleared then ({ b with shutdown := .idle, started := false }, [BrokerObs.stopped]) else (b, [])

end Broker

def broker : Machine Broker BrokerAct BrokerObs where
  step b a := b.step lib a

def newBroker (maximumPending : Nat) : Broker := { maximumPending }

/-! ## What a trace tells -/

@[simp] def BrokerObs.acceptedEntry : BrokerObs → List Entry
  | .accepted entry => [entry]
  | _ => []

@[simp] def BrokerObs.deliveredEntry : BrokerObs → List Entry
  | .dispatched entry true => [entry]
  | _ => []

@[simp] def BrokerObs.givenUp : BrokerObs → List Entry
  | .cleared entries => entries
  | _ => []

/-- The accepted entries, in the order of acceptance. -/
def acceptedIn (t : List BrokerObs) : List Entry := t.flatMap BrokerObs.acceptedEntry

/-- The entries dispatched with success, in order. -/
def deliveredIn (t : List BrokerObs) : List Entry := t.flatMap BrokerObs.deliveredEntry

/-- The entries that were pending when a `Shutdown` cleared the queue. -/
def givenUpIn (t : List BrokerObs) : List Entry := t.flatMap BrokerObs.givenUp

/-- Both kinds, in order. -/
def settledIn (t : List BrokerObs) : List Entry := t.flatMap fun o => o.deliveredEntry ++ o.givenUp

/-- Started, and no `Shutdown` has returned ok since. -/
def runningAfter (t : List BrokerObs) : Bool :=
  t.foldl (fun r o => match o with | .started => true | .stopped => false | _ => r) false

/-- A `Shutdown` has set `stopping_` since the last start. -/
def stopSetAfter (t : List BrokerObs) : Bool :=
  t.foldl (fun r o => match o with | .started => false | .stopping => true | _ => r) false

/-- The entry in the hands of the current `Drain`. -/
def Broker.held (b : Broker) : List Entry :=
  match b.drain with
  | some (.dispatching _ entry) => [entry]
  | _ => []

/-- A call of the sink needs a running broker, and entries are given up only by a `Shutdown`
that has set `stopping_`. -/
def BrokerRule (before : List BrokerObs) : BrokerObs → Prop
  | .dispatching _ => runningAfter before = true
  | .cleared _ => stopSetAfter before = true
  | _ => True

/-! ## The ledger -/

structure Ledger (b : Broker) (t : List BrokerObs) : Prop where
  balance : settledIn t ++ b.held ++ b.pending = acceptedIn t
  ids : (acceptedIn t).map Entry.id = List.range b.accepted
  running : runningAfter t = b.started
  /-- A broker that is not started holds nothing. -/
  rests : b.started = false → b.stopping = true ∧ b.pending = [] ∧ b.shutdown = .idle
  /-- `Drain` keeps `drain_mutex_`, so `stopping_` is not set under it. -/
  drains : b.drain ≠ none → b.stopping = false ∧ (b.shutdown = .idle ∨ b.shutdown = .locked)
  stops : b.shutdown = .stopping ∨ b.shutdown = .joined ∨ b.shutdown = .cleared →
    b.stopping = true ∧ stopSetAfter t = true
  clears : b.shutdown = .cleared → b.pending = []
  rule : Always BrokerRule t

@[simp] theorem acceptedIn_append (t u : List BrokerObs) : acceptedIn (t ++ u) = acceptedIn t ++ acceptedIn u := by
  simp [acceptedIn]

@[simp] theorem settledIn_append (t u : List BrokerObs) : settledIn (t ++ u) = settledIn t ++ settledIn u := by
  simp [settledIn]

@[simp] theorem runningAfter_snoc (t : List BrokerObs) (o : BrokerObs) :
    runningAfter (t ++ [o]) = match o with | .started => true | .stopped => false | _ => runningAfter t := by
  simp [runningAfter]

@[simp] theorem stopSetAfter_snoc (t : List BrokerObs) (o : BrokerObs) :
    stopSetAfter (t ++ [o]) = match o with | .started => false | .stopping => true | _ => stopSetAfter t := by
  simp [stopSetAfter]

@[simp] theorem acceptedIn_single (o : BrokerObs) : acceptedIn [o] = o.acceptedEntry := by simp [acceptedIn]

@[simp] theorem settledIn_single (o : BrokerObs) : settledIn [o] = o.deliveredEntry ++ o.givenUp := by simp [settledIn]

variable {lib} {b : Broker} {t : List BrokerObs}

theorem Ledger.init (maximumPending : Nat) : Ledger (newBroker maximumPending) [] where
  balance := rfl
  ids := rfl
  running := rfl
  rests := fun _ => ⟨rfl, rfl, rfl⟩
  drains := fun h => absurd rfl h
  stops := by rintro (h | h | h) <;> cases h
  clears := by intro h; cases h
  rule := always_nil _

/-- A step that neither moves an entry nor starts, stops or locks anything. -/
theorem Ledger.arriving (h : Ledger b t) (requests : List ExperienceLaunchRequest) :
    Ledger { b with arriving := requests } t :=
  ⟨h.balance, h.ids, h.running, h.rests, h.drains, h.stops, h.clears, h.rule⟩

theorem Ledger.arrive (h : Ledger b t) (request : Option ExperienceLaunchRequest) : Ledger (b.arrive request) t := by
  unfold Broker.arrive
  split
  · split
    · exact h
    · exact h.arriving _
  · exact h

/-- An accepted request goes to the end of the ledger; a drain may be running meanwhile. -/
theorem Ledger.pushBack (h : Ledger b t) (hs : b.stopping = false) (request : ExperienceLaunchRequest) :
    Ledger (b.pushBack request) (t ++ [BrokerObs.accepted ⟨b.accepted, request⟩]) where
  balance := by
    show settledIn _ ++ b.held ++ (b.pending ++ [⟨b.accepted, request⟩]) = _
    rw [settledIn_append, acceptedIn_append, ← h.balance]
    simp
  ids := by
    show _ = List.range (b.accepted + 1)
    rw [acceptedIn_append, List.map_append, h.ids, List.range_succ]
    simp
  running := by rw [runningAfter_snoc]; exact h.running
  rests := fun hr => by have := (h.rests hr).1; rw [hs] at this; cases this
  drains := h.drains
  stops := fun hp => by have := (h.stops hp).1; rw [hs] at this; cases this
  clears := fun hp => by have := (h.stops (Or.inr (Or.inr hp))).1; rw [hs] at this; cases this
  rule := always_snoc.mpr ⟨h.rule, trivial⟩

theorem Ledger.queueNormalized (h : Ledger b t) (k : Nat) :
    Ledger (b.queueNormalized k).1 (t ++ (b.queueNormalized k).2) := by
  unfold Broker.queueNormalized
  split
  · rw [List.append_nil]; exact h
  · have h' := h.arriving (b.arriving.eraseIdx k)
    simp only
    split
    · rw [List.append_nil]; exact h'
    · rename_i hs
      split
      · rw [List.append_nil]; exact h'
      · exact h'.pushBack (by simpa using hs) _

/-- A started broker is empty when it starts. -/
theorem Ledger.opened (h : Ledger b t) (hs : b.started = false) :
    Ledger { b with stopping := false, started := true } (t ++ [BrokerObs.started]) where
  balance := by
    show settledIn _ ++ b.held ++ b.pending = _
    rw [settledIn_append, acceptedIn_append, ← h.balance]
    simp
  ids := by simpa using h.ids
  running := by rw [runningAfter_snoc]
  rests := fun hr => by cases hr
  drains := fun hd => by
    have h1 := (h.drains hd).1
    rw [(h.rests hs).1] at h1
    cases h1
  stops := fun hp => by
    have h1 := (h.rests hs).2.2
    rcases hp with hp | hp | hp <;> exact absurd (h1.symm.trans hp) (by decide)
  clears := fun hp => absurd ((h.rests hs).2.2.symm.trans hp) (by decide)
  rule := always_snoc.mpr ⟨h.rule, trivial⟩

theorem Ledger.start (h : Ledger b t) (initial : Option ExperienceLaunchRequest) :
    Ledger (b.start lib initial).1 (t ++ (b.start lib initial).2) := by
  unfold Broker.start
  split
  · rw [List.append_nil]; exact h
  · rename_i hc
    have hs : b.started = false := by
      rw [not_or] at hc
      exact eq_false_of_ne_true hc.1
    split
    · exact h.opened hs
    · split
      · rename_i normalized _
        have h' := (h.opened hs).pushBack rfl normalized
        rw [List.append_assoc] at h'
        exact h'
      · rw [List.append_nil]; exact h

theorem Ledger.drainTurn (h : Ledger b t) : Ledger b.drainTurn.1 (t ++ b.drainTurn.2) := by
  have hend : (∀ left entry, b.drain ≠ some (.dispatching left entry)) → Ledger { b with drain := none } t := by
    intro hd
    have hheld : b.held = [] := by
      unfold Broker.held
      split
      · rename_i he
        exact absurd he (hd _ _)
      · rfl
    have hb := h.balance
    rw [hheld] at hb
    exact ⟨hb, h.ids, h.running, h.rests, fun hn => absurd rfl hn, h.stops, h.clears, h.rule⟩
  unfold Broker.drainTurn
  split
  · rename_i hd
    rw [List.append_nil]
    exact hend fun left entry he => by rw [hd] at he; cases he
  · rename_i left hd
    split
    · rw [List.append_nil]
      exact hend fun left entry he => by rw [hd] at he; cases he
    · rename_i entry rest hp
      -- the front of the queue moves to the hands of the drain
      have hheld : b.held = [] := by unfold Broker.held; rw [hd]
      obtain ⟨hstop, hphase⟩ := h.drains (by rw [hd]; simp)
      have hstart : b.started = true := by
        by_contra hc
        have := (h.rests (by simpa using hc)).1
        rw [hstop] at this
        cases this
      have hb := h.balance
      rw [hheld, hp] at hb
      refine ⟨?_, ?_, ?_, ?_, fun _ => ⟨hstop, hphase⟩, ?_, ?_, ?_⟩
      · show settledIn _ ++ [entry] ++ rest = _
        rw [settledIn_append, acceptedIn_append, ← hb]
        simp
      · simpa using h.ids
      · rw [runningAfter_snoc]; exact h.running
      · intro hr
        rw [hstart] at hr
        cases hr
      · intro hs
        rw [stopSetAfter_snoc]
        exact h.stops hs
      · intro hs
        have := h.clears hs
        rw [hp] at this
        cases this
      · refine always_snoc.mpr ⟨h.rule, ?_⟩
        show runningAfter t = true
        rw [h.running]
        exact hstart
  · rw [List.append_nil]; exact h

theorem Ledger.dispatchReturn (h : Ledger b t) (status : Status) :
    Ledger (b.dispatchReturn status).1 (t ++ (b.dispatchReturn status).2) := by
  unfold Broker.dispatchReturn
  split
  · rename_i left entry hd
    have hheld : b.held = [entry] := by unfold Broker.held; rw [hd]
    obtain ⟨hstop, hphase⟩ := h.drains (by rw [hd]; simp)
    have hb := h.balance
    rw [hheld] at hb
    have hids : ∀ ok, (acceptedIn (t ++ [BrokerObs.dispatched entry ok])).map Entry.id = List.range b.accepted := by
      intro ok
      simpa using h.ids
    have hclear : b.shutdown ≠ .cleared := by
      intro hc
      rcases hphase with hp | hp <;> rw [hc] at hp <;> cases hp
    split
    · refine ⟨?_, hids true, ?_, h.rests, fun _ => ⟨hstop, hphase⟩, ?_, fun hc => absurd hc hclear, ?_⟩
      · show settledIn _ ++ [] ++ b.pending = _
        rw [settledIn_append, acceptedIn_append, ← hb]
        simp
      · rw [runningAfter_snoc]; exact h.running
      · intro hs
        rw [stopSetAfter_snoc]
        exact h.stops hs
      · exact always_snoc.mpr ⟨h.rule, trivial⟩
    · refine ⟨?_, hids false, ?_, ?_, fun hn => absurd rfl hn, ?_, fun hc => absurd hc hclear, ?_⟩
      · show settledIn _ ++ [] ++ (entry :: b.pending) = _
        rw [settledIn_append, acceptedIn_append, ← hb]
        simp
      · rw [runningAfter_snoc]; exact h.running
      · intro hr
        have := (h.rests hr).1
        rw [hstop] at this
        cases this
      · intro hs
        rw [stopSetAfter_snoc]
        exact h.stops hs
      · exact always_snoc.mpr ⟨h.rule, trivial⟩
  · rw [List.append_nil]; exact h

/-- Once `stopping_` is set under `drain_mutex_` no drain holds an entry. -/
theorem Ledger.noDrain (h : Ledger b t) (hp : b.shutdown = .stopping ∨ b.shutdown = .joined ∨ b.shutdown = .cleared) :
    b.drain = none := by
  by_contra hd
  have := (h.drains hd).1
  rw [(h.stops hp).1] at this
  cases this

/-- A `Shutdown` in progress is of a started broker. -/
theorem Ledger.startedOf (h : Ledger b t) (hp : b.shutdown ≠ .idle) : b.started = true := by
  by_contra hc
  exact hp (h.rests (by simpa using hc)).2.2

theorem Ledger.drainBegin (h : Ledger b t) (hf : b.drainFree = true) (hs : b.stopping = false) (maximumRequests : Nat) :
    Ledger { b with drain := some (.turn maximumRequests) } t := by
  simp only [Broker.drainFree, Bool.and_eq_true, beq_iff_eq, Bool.or_eq_true] at hf
  have hheld : b.held = [] := by unfold Broker.held; rw [hf.1]
  have hb := h.balance
  rw [hheld] at hb
  exact ⟨hb, h.ids, h.running, h.rests, fun _ => ⟨hs, hf.2⟩, h.stops, h.clears, h.rule⟩

theorem Ledger.shutdownStop (h : Ledger b t) (hl : b.shutdown = .locked) (hd : b.drain = none) :
    Ledger { b with shutdown := .stopping, stopping := true } (t ++ [BrokerObs.stopping]) where
  balance := by
    show settledIn _ ++ b.held ++ b.pending = _
    rw [settledIn_append, acceptedIn_append, ← h.balance]
    simp
  ids := by simpa using h.ids
  running := by rw [runningAfter_snoc]; exact h.running
  rests := fun hr => by
    rw [show b.started = true from h.startedOf (by rw [hl]; decide)] at hr
    cases hr
  drains := fun hn => absurd hd hn
  stops := fun _ => ⟨rfl, by rw [stopSetAfter_snoc]⟩
  clears := fun hc => by cases hc
  rule := always_snoc.mpr ⟨h.rule, trivial⟩

theorem Ledger.shutdownWait (h : Ledger b t) (hp : b.shutdown = .stopping) (joined : Bool) :
    Ledger { b with shutdown := if joined then .joined else .idle } t := by
  have hd := h.noDrain (Or.inl hp)
  have hstart := h.startedOf (by rw [hp]; decide)
  refine ⟨h.balance, h.ids, h.running, ?_, fun hn => absurd hd hn, fun _ => h.stops (Or.inl hp), ?_, h.rule⟩
  · intro hr
    rw [show b.started = true from hstart] at hr
    cases hr
  · intro hc
    cases joined <;> cases hc

theorem Ledger.shutdownClear (h : Ledger b t) (hp : b.shutdown = .joined) :
    Ledger { b with shutdown := .cleared, pending := [] } (t ++ [BrokerObs.cleared b.pending]) := by
  have hd := h.noDrain (Or.inr (Or.inl hp))
  have hstart := h.startedOf (by rw [hp]; decide)
  obtain ⟨hstop, hset⟩ := h.stops (Or.inr (Or.inl hp))
  have hheld : b.held = [] := by unfold Broker.held; rw [hd]
  have hb := h.balance
  rw [hheld] at hb
  refine ⟨?_, ?_, ?_, ?_, fun hn => absurd hd hn, fun _ => ⟨hstop, ?_⟩, fun _ => rfl, always_snoc.mpr ⟨h.rule, hset⟩⟩
  · show settledIn _ ++ b.held ++ [] = _
    rw [hheld, settledIn_append, acceptedIn_append, ← hb]
    simp
  · simpa using h.ids
  · rw [runningAfter_snoc]; exact h.running
  · intro hr
    rw [show b.started = true from hstart] at hr
    cases hr
  · rw [stopSetAfter_snoc]; exact hset

theorem Ledger.shutdownReturn (h : Ledger b t) (hp : b.shutdown = .cleared) :
    Ledger { b with shutdown := .idle, started := false } (t ++ [BrokerObs.stopped]) where
  balance := by
    show settledIn _ ++ b.held ++ b.pending = _
    rw [settledIn_append, acceptedIn_append, ← h.balance]
    simp
  ids := by simpa using h.ids
  running := by rw [runningAfter_snoc]
  rests := fun _ => ⟨(h.stops (Or.inr (Or.inr hp))).1, h.clears hp, rfl⟩
  drains := fun hn => absurd (h.noDrain (Or.inr (Or.inr hp))) hn
  stops := fun hc => by rcases hc with hc | hc | hc <;> cases hc
  clears := fun hc => by cases hc
  rule := always_snoc.mpr ⟨h.rule, trivial⟩

theorem Ledger.step (h : Ledger b t) (a : BrokerAct) : Ledger (b.step lib a).1 (t ++ (b.step lib a).2) := by
  cases a with
  | start initial => exact h.start initial
  | queueInitial request | handlePeer sameUser packet =>
    show Ledger _ (t ++ [])
    rw [List.append_nil]
    exact h.arrive _
  | queueNormalized k => exact h.queueNormalized k
  | drain maximumRequests =>
    simp only [Broker.step]
    split
    · rename_i hc
      rw [List.append_nil]
      exact h.drainBegin hc.1 (by simpa using hc.2) maximumRequests
    · rw [List.append_nil]; exact h
  | drainTurn => exact h.drainTurn
  | dispatchReturn status => exact h.dispatchReturn status
  | shutdown =>
    simp only [Broker.step]
    split
    · rename_i hc
      rw [List.append_nil]
      refine ⟨h.balance, h.ids, h.running, ?_, fun hn => ⟨(h.drains hn).1, Or.inr rfl⟩, ?_, ?_, h.rule⟩
      · intro hr
        rw [show b.started = true from hc.2] at hr
        cases hr
      · rintro (hs | hs | hs) <;> cases hs
      · intro hs; cases hs
    · rw [List.append_nil]; exact h
  | shutdownStop =>
    simp only [Broker.step]
    split
    · rename_i hc
      exact h.shutdownStop hc.1 hc.2
    · rw [List.append_nil]; exact h
  | shutdownWait joined =>
    simp only [Broker.step]
    split
    · rename_i hc
      rw [List.append_nil]
      exact h.shutdownWait hc joined
    · rw [List.append_nil]; exact h
  | shutdownClear =>
    simp only [Broker.step]
    split
    · rename_i hc
      exact h.shutdownClear hc
    · rw [List.append_nil]; exact h
  | shutdownReturn =>
    simp only [Broker.step]
    split
    · rename_i hc
      exact h.shutdownReturn hc
    · rw [List.append_nil]; exact h

theorem ledger_run (lib : JsonLibrary) (maximumPending : Nat) (acts : List BrokerAct) :
    Ledger ((broker lib).run (newBroker maximumPending) acts).1 ((broker lib).run (newBroker maximumPending) acts).2 :=
  (broker lib).run_induct (Ledger.init maximumPending) (fun _ _ a h => h.step a) acts

/-! ## Delivery -/

theorem deliveredIn_sublist (t : List BrokerObs) : (deliveredIn t).Sublist (settledIn t) := by
  induction t with
  | nil => exact List.Sublist.refl _
  | cons o t ih =>
    show (o.deliveredEntry ++ deliveredIn t).Sublist (o.deliveredEntry ++ o.givenUp ++ settledIn t)
    rw [List.append_assoc]
    exact (List.Sublist.refl _).append (ih.trans (List.sublist_append_right _ _))

theorem mem_settledIn {t : List BrokerObs} {e : Entry} (h : e ∈ settledIn t) : e ∈ deliveredIn t ∨ e ∈ givenUpIn t := by
  obtain ⟨o, ho, he⟩ := List.mem_flatMap.mp h
  rcases List.mem_append.mp he with he | he
  · exact Or.inl (List.mem_flatMap.mpr ⟨o, ho, he⟩)
  · exact Or.inr (List.mem_flatMap.mpr ⟨o, ho, he⟩)

theorem stopping_of_stopSetAfter {t : List BrokerObs} (h : stopSetAfter t = true) : BrokerObs.stopping ∈ t := by
  induction t using List.reverseRecOn with
  | nil => cases h
  | append_singleton t o ih =>
    rw [stopSetAfter_snoc] at h
    cases o with
    | stopping => exact List.mem_append_right _ (by simp)
    | started => cases h
    | accepted _ | dispatching _ | dispatched _ _ | cleared _ | stopped => exact List.mem_append_left _ (ih h)

/-- Entries are given up only after a `Shutdown` set `stopping_`. -/
theorem Ledger.keeps (h : Ledger b t) (hs : BrokerObs.stopping ∉ t) (e : Entry) : e ∉ givenUpIn t := by
  intro he
  obtain ⟨o, ho, he⟩ := List.mem_flatMap.mp he
  cases o with
  | cleared entries =>
    obtain ⟨pre, post, rfl⟩ := List.append_of_mem ho
    have hset : stopSetAfter pre = true := h.rule pre _ post rfl
    exact hs (List.mem_append_left _ (stopping_of_stopSetAfter hset))
  | _ => simp at he

theorem Ledger.accounted (h : Ledger b t) {e : Entry} (he : e ∈ acceptedIn t) :
    e ∈ deliveredIn t ∨ e ∈ b.held ∨ e ∈ b.pending ∨ e ∈ givenUpIn t := by
  rw [← h.balance] at he
  rcases List.mem_append.mp he with he | he
  · rcases List.mem_append.mp he with he | he
    · rcases mem_settledIn he with he | he
      · exact Or.inl he
      · exact Or.inr (Or.inr (Or.inr he))
    · exact Or.inr (Or.inl he)
  · exact Or.inr (Or.inr (Or.inl he))

theorem Ledger.nodup (h : Ledger b t) : (acceptedIn t).Nodup := by
  have hn : ((acceptedIn t).map Entry.id).Nodup := by
    rw [h.ids]
    exact List.nodup_range
  exact List.Nodup.of_map _ hn

theorem Ledger.delivered_sublist (h : Ledger b t) : (deliveredIn t).Sublist (acceptedIn t) := by
  rw [← h.balance, List.append_assoc]
  exact (deliveredIn_sublist t).trans (List.sublist_append_left _ _)

/-- Whatever the interleaving: accepted requests are distinct entries; those dispatched ok
are dispatched once and in the order of acceptance; each is delivered, in the hands of the
drain, pending, or given up by a `Shutdown`, and before `Shutdown` sets `stopping_` none is
given up; and from the return of `Shutdown` to the next start nothing is pending and the sink
is not called. -/
theorem broker_delivers (lib : JsonLibrary) (maximumPending : Nat) (acts : List BrokerAct) (b : Broker)
    (t : List BrokerObs) (hrun : (broker lib).run (newBroker maximumPending) acts = (b, t)) :
    (acceptedIn t).Nodup ∧ (deliveredIn t).Nodup ∧ (deliveredIn t).Sublist (acceptedIn t) ∧
    (∀ e ∈ acceptedIn t, e ∈ deliveredIn t ∨ e ∈ b.held ∨ e ∈ b.pending ∨ e ∈ givenUpIn t) ∧
    (BrokerObs.stopping ∉ t → ∀ e ∈ acceptedIn t, e ∈ deliveredIn t ∨ e ∈ b.held ∨ e ∈ b.pending) ∧
    (runningAfter t = false → b.pending = [] ∧ b.held = []) ∧ Always BrokerRule t := by
  have h : Ledger b t := by
    have h := ledger_run lib maximumPending acts
    rwa [hrun] at h
  refine ⟨h.nodup, h.nodup.sublist h.delivered_sublist, h.delivered_sublist, fun e he => h.accounted he, ?_, ?_, h.rule⟩
  · intro hs e he
    rcases h.accounted he with he | he | he | he
    · exact Or.inl he
    · exact Or.inr (Or.inl he)
    · exact Or.inr (Or.inr he)
    · exact absurd he (h.keeps hs e)
  · intro hr
    obtain ⟨hstop, hpend, -⟩ := h.rests (by rw [← h.running]; exact hr)
    refine ⟨hpend, ?_⟩
    have hd : b.drain = none := by
      by_contra hd
      rw [(h.drains hd).1] at hstop
      cases hstop
    unfold Broker.held
    rw [hd]

/-- A click at the start and one from a peer; the sink refuses the first at first. -/
def twoClicks : List BrokerAct :=
  [.start (some { canonicalJson := launchText [0x41] }), .handlePeer true (kWirePrefix ++ launchText [0x41]), .drain 4,
    .drainTurn, .queueNormalized 0, .dispatchReturn (Status.unavailable "busy"), .drain 4, .drainTurn,
    .dispatchReturn Status.okStatus, .drainTurn, .dispatchReturn Status.okStatus]

theorem broker_delivers_twoClicks :
    (deliveredIn ((broker (oneDocument (launchText [0x41]) (launchMembers [0x41]))).run (newBroker 8) twoClicks).2).map
      Entry.id = [0, 1] ∧
    (deliveredIn ((broker (oneDocument (launchText [0x41]) (launchMembers [0x41]))).run (newBroker 8) twoClicks).2).Nodup :=
  ⟨by decide +kernel, (broker_delivers _ 8 twoClicks _ _ rfl).2.1⟩

end Mocktail.Launch
