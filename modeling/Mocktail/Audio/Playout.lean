/-
  Mocktail.Audio.Playout — the playout sessions of the WebRTC bridge
  (src/audio/webrtc_jni_audio_bridge.cc): `InitPlayout`, `StartPlayout`, `StopPlayout`,
  `ClosePlayout`, `Shutdown` and the data callback `OnPlayoutDataNeeded`.

  A session belongs to the shared pointers that point to it: the entries of
  `playout_sessions` and the locals of the running calls (`Holder`). The session is freed,
  and its sink with it, by the thread that drops the last of them. A call is cut where it
  takes or leaves a mutex or drops a pointer (`Call`); what it does under one mutex is one
  step. SDL runs the callback of a sink on one thread at a time (`busy`), and neither the
  sink's `Shutdown` nor its destructor gets past a callback that runs on another thread; on
  the callback's own thread both do.

  `ClosePlayoutSession` leaves the sink of a session alone when the callback's own thread
  calls it and relies on the session to stay in the context. `StopPlayout` keeps it there.
  `InitPlayout` and `Shutdown` have moved it out into a local, and drop it.

  `StopPlayout` and `Shutdown` stop what they find in the map. They do not find a session that
  another call has taken out, and return while that call is still at stopping it.
-/

import Mocktail.Lib.Pointers
import Mocktail.Lib.Slots
import Mocktail.Lib.Trace

namespace Mocktail.Audio.Playout

open Mocktail.Lib

/-! ## Data -/

structure PlayoutSession where
  running : Bool := false
  stopRequested : Bool := false
  inDataCallback : Bool := false
  dataCallbackThread : Option Nat := none
  /-- The sink is not null. -/
  sink : Bool := false
  /-- The thread that holds `operation_mutex`. -/
  operation : Option Nat := none
  /-- The thread on which SDL runs the callback of the sink. -/
  busy : Option Nat := none
  deriving DecidableEq, Repr

/-- The shared pointers to sessions: the map's, and the locals of a thread. -/
inductive Holder (I : Type) where
  | entry (identity : I)
  | previous (thread : Nat)
  | session (thread : Nat)
  /-- `Shutdown`'s own map. -/
  | swapped (thread : Nat) (identity : I)
  deriving DecidableEq, Repr

/-- How far `OnPlayoutDataNeeded` got: called by SDL, past its first look at the session, inside `data_callback`. -/
inductive Stage where
  | entered
  | passed
  | data
  deriving DecidableEq, Repr

/-- What `ClosePlayoutSession` does next. -/
inductive Close where
  | lock
  | mark
  | shutdown
  | unlock
  deriving DecidableEq, Repr

/-- The caller of `ClosePlayoutSession`. -/
inductive Caller (I : Type) where
  /-- `InitPlayout`, of the session it found. -/
  | create (identity : I)
  /-- `InitPlayout`, of its new session. -/
  | reject
  /-- `StopPlayout`, for all these sessions. -/
  | stop (all : List Nat)
  /-- `Shutdown`, with the sessions still to close, for all. -/
  | shutdown (rest all : List Nat)
  deriving DecidableEq, Repr

/-- What a thread's call does next. -/
inductive Call (I : Type) where
  | idle
  | initTake (identity : I)
  | initCreate (identity : I)
  | initPublish (identity : I)
  | startFind (identity : I)
  | startCheck
  | startLock
  | startMark
  | startResume
  | stopFind (identity : I)
  | shutdownSwap
  | shutdownNext (rest all : List Nat)
  | closing (session : Nat) (stage : Close) (caller : Caller I)
  /-- Returns: drops these locals. The call was to stop these sessions. -/
  | leave (locals : List (Holder I)) (stopped : List Nat)
  deriving DecidableEq, Repr

structure Thread (I : Type) where
  callback : Option (Nat × Stage) := none
  call : Call I := .idle

structure Bridge (I : Type) where
  pointers : List (Holder I × Nat) := []
  shuttingDown : Bool := false
  sessions : Nat → PlayoutSession := fun _ => {}
  /-- The next new session. -/
  next : Nat := 0
  threads : Nat → Thread I := fun _ => {}
  /-- Ghost: the sessions that were put into the map so far, under their identities. -/
  published : List (I × Nat) := []

inductive Entry (I : Type) where
  | initPlayout (identity : I)
  | startPlayout (identity : I)
  | stopPlayout (identity : I)
  | closePlayout (identity : I)
  | shutdown
  deriving DecidableEq, Repr

/-- What the world decides at a step: whether an allocation and an SDL call succeed, and which
    session `Shutdown`'s loop comes to next. -/
inductive Answer where
  | ok
  | noMemory
  | fails
  | pick (session : Nat)
  deriving DecidableEq, Repr

inductive Act (I : Type) where
  | call (thread : Nat) (entry : Entry I)
  | advance (thread : Nat) (answer : Answer)
  /-- SDL calls `OnPlayoutDataNeeded` for the session. -/
  | enter (thread session : Nat)
  | gate (thread : Nat)
  | begin (thread : Nat)
  /-- `data_callback` returned; SDL asks for more at once or leaves the callback. -/
  | finish (thread : Nat) (again : Bool)
  deriving DecidableEq, Repr

inductive Obs where
  /-- `data_callback` of the session is called on the thread. -/
  | begins (session thread : Nat)
  /-- The sink of the session is shut down and destroyed on the thread. -/
  | shut (session thread : Nat)
  | freed (session thread : Nat)
  /-- A call returned that was to stop these sessions: `StopPlayout` and `ClosePlayout` all that were published under
      their identity before they looked into the map, `Shutdown` all that were published before. -/
  | returned (stopped : List Nat)
  deriving DecidableEq, Repr

/-! ## Steps -/

variable {I : Type} [DecidableEq I]

namespace Bridge

def goto (b : Bridge I) (t : Nat) (c : Call I) : Bridge I :=
  { b with threads := upd b.threads t { b.threads t with call := c } }

def setCallback (b : Bridge I) (t : Nat) (cb : Option (Nat × Stage)) : Bridge I :=
  { b with threads := upd b.threads t { b.threads t with callback := cb } }

def modify (b : Bridge I) (s : Nat) (f : PlayoutSession → PlayoutSession) : Bridge I :=
  { b with sessions := upd b.sessions s (f (b.sessions s)) }

/-- SDL runs the callback of session `s` on thread `t`. -/
def Executing (b : Bridge I) (t s : Nat) : Prop := (b.threads t).callback.map (·.1) = some s

instance (b : Bridge I) (t s : Nat) : Decidable (b.Executing t s) := inferInstanceAs (Decidable (_ = _))

/-- SDL runs no callback of the session that thread `t` would have to wait for. -/
def free (b : Bridge I) (t s : Nat) : Bool := decide ((b.sessions s).busy = none ∨ (b.sessions s).busy = some t)

def calledFromCallback (b : Bridge I) (t s : Nat) : Bool :=
  (b.sessions s).inDataCallback && decide ((b.sessions s).dataCallbackThread = some t)

/-- Thread `t` made the pointers `p` of the bridge's and so dropped a reference to `o`. The last one frees the
    session: its sink is destroyed, which waits for a callback on another thread. -/
def drop (b : Bridge I) (t : Nat) (p : List (Holder I × Nat)) (o : Option Nat) : Option (Bridge I × List Obs) :=
  match o with
  | none => some ({ b with pointers := p }, [])
  | some s =>
    if Held p s then some ({ b with pointers := p }, [])
    else if (b.sessions s).sink then
      if b.free t s then
        some ({ b with pointers := p }.modify s fun x => { x with sink := false }, [.shut s t, .freed s t])
      else none
    else some ({ b with pointers := p }, [.freed s t])

/-- The entries of `playout_sessions`, handed over to the local map of thread `t`. -/
def swap (t : Nat) : Holder I → Option (Holder I)
  | .entry i => some (.swapped t i)
  | _ => none

def entrySessions (b : Bridge I) : List Nat :=
  b.pointers.filterMap fun x => match x.1 with
    | .entry _ => target b.pointers x.1
    | _ => none

/-- The sessions of an identity, also those that are no longer in the map. -/
def publishedAs (b : Bridge I) (i : I) : List Nat := b.published.filterMap fun x => if x.1 = i then some x.2 else none

def swappedLocals (b : Bridge I) (t : Nat) : List (Holder I) :=
  (b.pointers.map (·.1)).filter fun v => match v with
    | .swapped u _ => decide (u = t)
    | _ => false

/-- Back in the caller of `ClosePlayoutSession`. -/
def closed (t : Nat) : Caller I → Call I
  | .create i => .initCreate i
  | .reject => .leave [.session t, .previous t] []
  | .stop all => .leave [.session t] all
  | .shutdown rest all => .shutdownNext rest all

def close (b : Bridge I) (t s : Nat) (caller : Caller I) : Close → Option (Bridge I × List Obs)
  | .lock =>
    if (b.sessions s).operation = none then
      some ((b.modify s fun x => { x with operation := some t }).goto t (.closing s .mark caller), [])
    else none
  | .mark =>
    let b' := b.modify s fun x => { x with running := false, stopRequested := true }
    if b.calledFromCallback t s || !(b.sessions s).sink then some (b'.goto t (.closing s .unlock caller), [])
    else some (b'.goto t (.closing s .shutdown caller), [])
  | .shutdown =>
    if b.free t s then
      some ((b.modify s fun x => { x with sink := false }).goto t (.closing s .unlock caller), [.shut s t])
    else none
  | .unlock => some ((b.modify s fun x => { x with operation := none }).goto t (closed t caller), [])

def advance (b : Bridge I) (t : Nat) (answer : Answer) : Option (Bridge I × List Obs) :=
  match (b.threads t).call with
  | .idle => none
  | .initTake i =>
    if b.shuttingDown then some (b.goto t (.leave [] []), [])
    else
      match target b.pointers (.entry i) with
      | none => some (b.goto t (.initCreate i), [])
      | some s =>
        some ({ b with pointers := point (unpoint b.pointers (.entry i)) (.previous t) s }.goto t
          (.closing s .lock (.create i)), [])
  | .initCreate i =>
    match answer with
    | .ok =>
      some ({ b with pointers := point b.pointers (.session t) b.next, next := b.next + 1 }.modify b.next
        (fun x => { x with sink := true }) |>.goto t (.initPublish i), [])
    | .fails =>
      some ({ b with pointers := point b.pointers (.session t) b.next, next := b.next + 1 }.goto t
        (.leave [.session t, .previous t] []), [])
    | _ => some (b.goto t (.leave [.previous t] []), [])
  | .initPublish i =>
    match target b.pointers (.session t) with
    | none => none
    | some s =>
      if b.shuttingDown then some (b.goto t (.closing s .lock .reject), [])
      else
        (b.drop t (point b.pointers (.entry i) s) (target b.pointers (.entry i))).map fun r =>
          ({ r.1 with published := (i, s) :: r.1.published }.goto t (.leave [.session t, .previous t] []), r.2)
  | .startFind i =>
    if b.shuttingDown then some (b.goto t (.leave [] []), [])
    else
      match target b.pointers (.entry i) with
      | none => some (b.goto t (.leave [] []), [])
      | some s => some ({ b with pointers := point b.pointers (.session t) s }.goto t .startCheck, [])
  | .startCheck =>
    match target b.pointers (.session t) with
    | none => none
    | some s =>
      if (b.sessions s).sink then some (b.goto t .startLock, [])
      else some (b.goto t (.leave [.session t] []), [])
  | .startLock =>
    match target b.pointers (.session t) with
    | none => none
    | some s =>
      if (b.sessions s).operation = none then
        some ((b.modify s fun x => { x with operation := some t }).goto t .startMark, [])
      else none
  | .startMark =>
    match target b.pointers (.session t) with
    | none => none
    | some s =>
      if (b.sessions s).running || (b.sessions s).stopRequested then
        some ((b.modify s fun x => { x with operation := none }).goto t (.leave [.session t] []), [])
      else some ((b.modify s fun x => { x with running := true }).goto t .startResume, [])
  | .startResume =>
    match target b.pointers (.session t) with
    | none => none
    | some s =>
      match answer with
      | .ok => some ((b.modify s fun x => { x with operation := none }).goto t (.leave [.session t] []), [])
      | _ =>
        some ((b.modify s fun x => { x with running := false, operation := none }).goto t (.leave [.session t] []), [])
  | .stopFind i =>
    match target b.pointers (.entry i) with
    | none => some (b.goto t (.leave [] (b.publishedAs i)), [])
    | some s =>
      let p := if b.calledFromCallback t s then b.pointers else unpoint b.pointers (.entry i)
      some ({ b with pointers := point p (.session t) s }.goto t (.closing s .lock (.stop (b.publishedAs i))), [])
  | .shutdownSwap =>
    some ({ b with shuttingDown := true, pointers := move (swap t) b.pointers }.goto t
      (.shutdownNext b.entrySessions (b.published.map Prod.snd)), [])
  | .shutdownNext rest all =>
    match rest with
    | [] => some (b.goto t (.leave (b.swappedLocals t) all), [])
    | first :: _ =>
      let s := match answer with
        | .pick s => if s ∈ rest then s else first
        | _ => first
      some (b.goto t (.closing s .lock (.shutdown (rest.erase s) all)), [])
  | .closing s stage caller => b.close t s caller stage
  | .leave [] stopped => some (b.goto t .idle, [.returned stopped])
  | .leave (v :: locals) stopped =>
    (b.drop t (unpoint b.pointers v) (target b.pointers v)).map fun r => (r.1.goto t (.leave locals stopped), r.2)

/-- The first step of a call. `ClosePlayout` is `StopPlayout`. -/
def entered : Entry I → Call I
  | .initPlayout i => .initTake i
  | .startPlayout i => .startFind i
  | .stopPlayout i => .stopFind i
  | .closePlayout i => .stopFind i
  | .shutdown => .shutdownSwap

def step (b : Bridge I) : Act I → Bridge I × List Obs
  | .call t e =>
    -- A thread calls from outside any callback, or from inside `data_callback`.
    match (b.threads t).callback, (b.threads t).call with
    | none, .idle => (b.goto t (entered e), [])
    | some (_, .data), .idle => (b.goto t (entered e), [])
    | _, _ => (b, [])
  | .advance t answer => (b.advance t answer).getD (b, [])
  | .enter t s =>
    match (b.threads t).callback, (b.threads t).call with
    | none, .idle =>
      if (b.sessions s).sink && decide ((b.sessions s).busy = none) then
        ((b.modify s fun x => { x with busy := some t }).setCallback t (some (s, .entered)), [])
      else (b, [])
    | _, _ => (b, [])
  | .gate t =>
    match (b.threads t).callback with
    | some (s, .entered) =>
      if !(b.sessions s).running || (b.sessions s).stopRequested then
        ((b.modify s fun x => { x with busy := none }).setCallback t none, [])
      else
        ((b.modify s fun x => { x with inDataCallback := true, dataCallbackThread := some t }).setCallback t
          (some (s, .passed)), [])
    | _ => (b, [])
  | .begin t =>
    match (b.threads t).callback with
    | some (s, .passed) => (b.setCallback t (some (s, .data)), [.begins s t])
    | _ => (b, [])
  | .finish t again =>
    match (b.threads t).callback, (b.threads t).call with
    | some (s, .data), .idle =>
      let ready := (b.sessions s).running && !(b.sessions s).stopRequested
      if ready && again then
        ((b.modify s fun x => { x with inDataCallback := false, dataCallbackThread := none }).setCallback t
          (some (s, .entered)), [])
      else
        ((b.modify s fun x => { x with inDataCallback := false, dataCallbackThread := none, busy := none }).setCallback t
          none, [])
    | _, _ => (b, [])

end Bridge

def machine (I : Type) [DecidableEq I] : Machine (Bridge I) (Act I) Obs := ⟨Bridge.step⟩

/-! ## The condition -/

/-- The thread a pointer is a local of. -/
def Holder.owner : Holder I → Option Nat
  | .entry _ => none
  | .previous t => some t
  | .session t => some t
  | .swapped t _ => some t

/-- The session is marked as stopped or has no sink, and no callback of it is past its first look. -/
def Bridge.Quiet (b : Bridge I) (s : Nat) : Prop :=
  ((b.sessions s).stopRequested = true ∨ (b.sessions s).sink = false) ∧
    ∀ t ∈ (b.sessions s).busy, (b.threads t).callback ≠ some (s, .passed)

instance (b : Bridge I) (s : Nat) : Decidable (b.Quiet s) := inferInstanceAs (Decidable (_ ∧ _))

/-- No session is taken out of the context on the thread that executes its callback: `InitPlayout` finds no such
    session, `Shutdown` none at all, and the publishing step replaces no session whose callback's thread is its own or
    holds on to it in a local. And no call looks for the sessions of an identity, or for all, while one that has left
    the map is not quiet yet. -/
def Careful (b : Bridge I) : Act I → Prop
  | .advance t _ =>
    match (b.threads t).call with
    | .initTake i => b.shuttingDown = false → ∀ s ∈ target b.pointers (.entry i), ¬ b.Executing t s
    | .initPublish i =>
      b.shuttingDown = false → ∀ s ∈ target b.pointers (.entry i), ∀ u ∈ (b.sessions s).busy,
        u ≠ t ∧ ∀ x ∈ b.pointers, x.1.owner = some u → target b.pointers x.1 ≠ some s
    | .stopFind i => ∀ s ∈ b.publishedAs i, target b.pointers (.entry i) = some s ∨ b.Quiet s
    | .shutdownSwap =>
      (∀ s ∈ b.entrySessions, ¬ b.Executing t s) ∧ ∀ x ∈ b.published, x.2 ∈ b.entrySessions ∨ b.Quiet x.2
    | _ => True
  | _ => True

instance (b : Bridge I) (a : Act I) : Decidable (Careful b a) := by
  unfold Careful
  split
  · split <;> infer_instance
  · infer_instance

/-- The step shuts down or destroys a sink, or frees a session, on the thread that executes the session's callback. -/
def TornDownInside (b : Bridge I) (a : Act I) : Prop :=
  ∃ o ∈ (b.step a).2, match o with
    | .shut s t => b.Executing t s
    | .freed s t => b.Executing t s
    | _ => False

instance (b : Bridge I) (a : Act I) : Decidable (TornDownInside b a) :=
  @List.decidableBEx _ _ (fun o => by cases o <;> infer_instance) _

/-- A session whose callback begins is none that a call was to stop which has returned before. -/
def NotStopped (pre : List Obs) : Obs → Prop
  | .begins s _ => ¬ Occurs (fun o => match o with
    | .returned stopped => decide (s ∈ stopped)
    | _ => false) pre
  | _ => True

instance (pre : List Obs) (o : Obs) : Decidable (NotStopped pre o) := by
  unfold NotStopped
  split <;> infer_instance

def initial (I : Type) : Bridge I := {}

end Mocktail.Audio.Playout
