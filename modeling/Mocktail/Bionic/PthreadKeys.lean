/-
  Mocktail.Bionic.PthreadKeys — the guest's pthread keys (`bionic_pthread_key_runtime.cc`).

  A slot has a sequence number, odd while a key uses it, and a destructor; an odd number is one
  incarnation of the slot. Each thread keeps, for each slot, a value and the incarnation it was
  set under. `Create` and `Delete` run under a mutex; `Get`, `Set` and the cleaning at thread
  exit do not take it. Cleaning reads the destructor between two reads of the sequence number.

  One step of the machine is one operation on shared memory, together with what the thread then
  does to its own data. A destructor is guest code: while it runs its thread may make any call,
  until it returns (`leave`). Values and destructors are of any type, null is `none`. Sequence
  numbers do not wrap.

  The trace says what the calls did: which incarnation began with which destructor, which
  ended, what was set, got and taken, under which incarnation.

  Proved:
  - `inv_run`: the incarnation in a slot has the destructor it was created with, and a thread's
    value is the last it set under the incarnation it is dated with.
  - `cleaning_advances`: every step of a cleaning comes nearer to its end, whatever the other
    threads and the destructors do.
  - `keys_sound`: every observation is one the keys may make (`Allowed`), and cleaning ends,
    after at most four rounds.
-/

import Mathlib.Data.Fin.Basic
import Mocktail.Bionic.Semaphore

namespace Mocktail.Bionic.PthreadKeys

open Mocktail.Lib

/-! ## Keys and slots -/

def kSequenceInUseBit : Nat := 1
def kBionicDestructorIterations : Nat := 4
def kBionicPthreadKeyCount : Nat := 130
def kBionicPthreadKeyValidFlag : BitVec 32 := 1#32 <<< 31

abbrev Index := Fin kBionicPthreadKeyCount

structure KeySlot (D : Type) where
  sequence : Nat
  destructor : Option D

structure KeyValue (V : Type) where
  sequence : Nat
  value : Option V

def isInUse (sequence : Nat) : Bool := sequence &&& kSequenceInUseBit != 0

def decodeKey (key : BitVec 32) : Option Index :=
  if key &&& kBionicPthreadKeyValidFlag = 0#32 then none
  else
    let candidate := key &&& ~~~kBionicPthreadKeyValidFlag
    if h : candidate.toNat < kBionicPthreadKeyCount then some ⟨candidate.toNat, h⟩ else none

def encodeKey (index : Index) : BitVec 32 := kBionicPthreadKeyValidFlag ||| BitVec.ofNat 32 index

/-! ## Threads -/

/-- Where a thread is in a call. Guest code, a running destructor included, is `guest`. -/
inductive Point (D : Type) where
  | guest
  | createLock (destructor : Option D)
  | createScan (destructor : Option D) (index : Nat)
  | createDestructor (destructor : Option D) (index : Index) (sequence : Nat)
  | createPublish (destructor : Option D) (index : Index) (sequence : Nat)
  | deleteLock (index : Index)
  | deleteLoad (index : Index)
  | deleteStore (index : Index) (sequence : Nat)
  | deleteClear (index : Index)
  | unlock
  /-- `Clean` before the first load of a slot's sequence. -/
  | cleanSlot
  | cleanDestructor (index : Index) (sequence : Nat)
  | cleanConfirm (index : Index) (sequence : Nat) (destructor : Option D)

/-- How far a cleaning has come: `called` counts the destructors of this round. -/
structure Frame where
  round : Nat
  index : Nat
  called : Nat
  deriving DecidableEq, Repr

inductive Move (V D : Type) where
  /-- `out` is false for a null key pointer. -/
  | create (out : Bool) (destructor : Option D)
  | delete (key : BitVec 32)
  | get (key : BitVec 32)
  | set (key : BitVec 32) (value : Option V)
  /-- The thread exits: its values are cleaned. -/
  | exit
  /-- The destructor that cleaning called returns. -/
  | leave
  /-- The next operation of the call the thread is in. -/
  | go

inductive Observation (T V D : Type) where
  | created (t : T) (key : BitVec 32) (index : Index) (sequence : Nat) (destructor : Option D)
  | deleted (t : T) (index : Index) (sequence : Nat)
  | stored (t : T) (index : Index) (sequence : Nat) (value : Option V)
  /-- `Get` saw the sequence number and returned the value. -/
  | got (t : T) (index : Index) (sequence : Nat) (value : Option V)
  /-- Cleaning calls the destructor with the value. -/
  | took (t : T) (index : Index) (sequence : Nat) (value : Option V) (destructor : D)
  | cleaned (t : T) (rounds : Nat)
  | failed (t : T) (errno : Errno)

structure State (T V D : Type) where
  holder : Option T
  slots : Index → KeySlot D
  values : T → Index → KeyValue V
  points : T → Point D
  frames : T → Option Frame

section
variable {T V D : Type}

/-- Two slots are reserved before any key is created. -/
def State.init : State T V D where
  holder := none
  slots index := { sequence := if index.val < 2 then kSequenceInUseBit else 0, destructor := none }
  values _ _ := { sequence := 0, value := none }
  points _ := .guest
  frames _ := none

variable [DecidableEq T]

def State.goto (s : State T V D) (t : T) (p : Point D) : State T V D :=
  { s with points := Function.update s.points t p }

def State.setSlot (s : State T V D) (index : Index) (slot : KeySlot D) : State T V D :=
  { s with slots := Function.update s.slots index slot }

def State.setValue (s : State T V D) (t : T) (index : Index) (value : KeyValue V) : State T V D :=
  { s with values := Function.update s.values t (Function.update (s.values t) index value) }

def State.setFrame (s : State T V D) (t : T) (frame : Option Frame) : State T V D :=
  { s with frames := Function.update s.frames t frame }

@[simp] theorem goto_points (s : State T V D) (t : T) (p : Point D) :
    (s.goto t p).points = Function.update s.points t p := rfl
@[simp] theorem goto_frames (s : State T V D) (t : T) (p : Point D) : (s.goto t p).frames = s.frames := rfl
@[simp] theorem goto_values (s : State T V D) (t : T) (p : Point D) : (s.goto t p).values = s.values := rfl
omit [DecidableEq T] in
@[simp] theorem setSlot_points (s : State T V D) (i : Index) (slot : KeySlot D) : (s.setSlot i slot).points = s.points := rfl
omit [DecidableEq T] in
@[simp] theorem setSlot_frames (s : State T V D) (i : Index) (slot : KeySlot D) : (s.setSlot i slot).frames = s.frames := rfl
@[simp] theorem setValue_points (s : State T V D) (t : T) (i : Index) (value : KeyValue V) :
    (s.setValue t i value).points = s.points := rfl
@[simp] theorem setValue_frames (s : State T V D) (t : T) (i : Index) (value : KeyValue V) :
    (s.setValue t i value).frames = s.frames := rfl
@[simp] theorem setFrame_points (s : State T V D) (t : T) (frame : Option Frame) :
    (s.setFrame t frame).points = s.points := rfl
@[simp] theorem setFrame_frames (s : State T V D) (t : T) (frame : Option Frame) :
    (s.setFrame t frame).frames = Function.update s.frames t frame := rfl
@[simp] theorem setFrame_values (s : State T V D) (t : T) (frame : Option Frame) :
    (s.setFrame t frame).values = s.values := rfl

/-! ## The calls -/

def lock (s : State T V D) (t : T) (p : Point D) : State T V D :=
  if s.holder.isNone then { s with holder := some t }.goto t p else s

/-- One round of the scan of `Create`. -/
def createScan (s : State T V D) (t : T) (destructor : Option D) (index : Nat) :
    State T V D × List (Observation T V D) :=
  if h : index < kBionicPthreadKeyCount then
    let sequence := (s.slots ⟨index, h⟩).sequence
    if isInUse sequence then (s.goto t (.createScan destructor (index + 1)), [])
    else (s.goto t (.createDestructor destructor ⟨index, h⟩ sequence), [])
  else (s.goto t .unlock, [.failed t .eagain])

def deleteLoad (s : State T V D) (t : T) (index : Index) : State T V D × List (Observation T V D) :=
  let sequence := (s.slots index).sequence
  if !isInUse sequence then (s.goto t .unlock, [.failed t .einval])
  else (s.goto t (.deleteStore index sequence), [])

def get (s : State T V D) (t : T) (key : BitVec 32) : State T V D × List (Observation T V D) :=
  match decodeKey key with
  | none => (s, [])
  | some index =>
    let sequence := (s.slots index).sequence
    let value := s.values t index
    if isInUse sequence && value.sequence == sequence then (s, [.got t index sequence value.value])
    else (s.setValue t index { value with value := none }, [.got t index sequence none])

def set (s : State T V D) (t : T) (key : BitVec 32) (value : Option V) : State T V D × List (Observation T V D) :=
  match decodeKey key with
  | none => (s, [.failed t .einval])
  | some index =>
    let sequence := (s.slots index).sequence
    if !isInUse sequence then (s, [.failed t .einval])
    else (s.setValue t index { sequence, value }, [.stored t index sequence value])

/-- The end of a round, or the first look at a slot. -/
def cleanSlot (s : State T V D) (t : T) (frame : Frame) : State T V D × List (Observation T V D) :=
  if h : frame.index < kBionicPthreadKeyCount then
    let sequence := (s.slots ⟨frame.index, h⟩).sequence
    let value := s.values t ⟨frame.index, h⟩
    if !isInUse sequence || value.sequence != sequence || value.value.isNone then
      (s.setFrame t (some { frame with index := frame.index + 1 }), [])
    else (s.goto t (.cleanDestructor ⟨frame.index, h⟩ sequence), [])
  else if frame.called = 0 || frame.round + 1 = kBionicDestructorIterations then
    ((s.setFrame t none).goto t .guest, [.cleaned t (frame.round + 1)])
  else (s.setFrame t (some { round := frame.round + 1, index := 0, called := 0 }), [])

/-- The second look at the sequence: the destructor is called, or the slot left alone. -/
def cleanConfirm (s : State T V D) (t : T) (frame : Frame) (index : Index) (sequence : Nat) :
    Option D → State T V D × List (Observation T V D)
  | none => ((s.setFrame t (some { frame with index := frame.index + 1 })).goto t .cleanSlot, [])
  | some destructor =>
    if sequence ≠ (s.slots index).sequence then
      ((s.setFrame t (some { frame with index := frame.index + 1 })).goto t .cleanSlot, [])
    else
      (((s.setValue t index { s.values t index with value := none }).setFrame t
        (some { frame with index := frame.index + 1, called := frame.called + 1 })).goto t .guest,
        [.took t index sequence (s.values t index).value destructor])

/-- The operation a thread is at. -/
def advance (s : State T V D) (t : T) : Point D → State T V D × List (Observation T V D)
  | .guest => (s, [])
  | .createLock destructor => (lock s t (.createScan destructor 0), [])
  | .createScan destructor index => createScan s t destructor index
  | .createDestructor destructor index sequence =>
    ((s.setSlot index { s.slots index with destructor }).goto t (.createPublish destructor index sequence), [])
  | .createPublish destructor index sequence =>
    ((s.setSlot index { s.slots index with sequence := sequence + 1 }).goto t .unlock,
      [.created t (encodeKey index) index (sequence + 1) destructor])
  | .deleteLock index => (lock s t (.deleteLoad index), [])
  | .deleteLoad index => deleteLoad s t index
  | .deleteStore index sequence =>
    ((s.setSlot index { s.slots index with sequence := sequence + 1 }).goto t (.deleteClear index),
      [.deleted t index sequence])
  | .deleteClear index => ((s.setSlot index { s.slots index with destructor := none }).goto t .unlock, [])
  | .unlock => ({ s with holder := none }.goto t .guest, [])
  | .cleanSlot =>
    match s.frames t with
    | some frame => cleanSlot s t frame
    | none => (s, [])
  | .cleanDestructor index sequence => (s.goto t (.cleanConfirm index sequence (s.slots index).destructor), [])
  | .cleanConfirm index sequence destructor =>
    match s.frames t with
    | some frame => cleanConfirm s t frame index sequence destructor
    | none => (s, [])

/-- A call from guest code. -/
def call (s : State T V D) (t : T) : Move V D → State T V D × List (Observation T V D)
  | .create out destructor => if out then (s.goto t (.createLock destructor), []) else (s, [.failed t .einval])
  | .delete key =>
    match decodeKey key with
    | none => (s, [.failed t .einval])
    | some index => (s.goto t (.deleteLock index), [])
  | .get key => get s t key
  | .set key value => set s t key value
  | .exit =>
    if (s.frames t).isNone then ((s.setFrame t (some { round := 0, index := 0, called := 0 })).goto t .cleanSlot, [])
    else (s, [])
  | .leave => if (s.frames t).isSome then (s.goto t .cleanSlot, []) else (s, [])
  | .go => (s, [])

/-- Whether a thread runs guest code. -/
def Point.isGuest : Point D → Bool
  | .guest => true
  | _ => false

def step (s : State T V D) : T × Move V D → State T V D × List (Observation T V D)
  | (t, move) => if (s.points t).isGuest then call s t move else advance s t (s.points t)

def machine (T V D : Type) [DecidableEq T] : Machine (State T V D) (T × Move V D) (Observation T V D) where
  step := step

/-! ## What the trace says -/

/-- Whether a key uses the slot after an observation. -/
def liveAfter (index : Index) (live : Bool) : Observation T V D → Bool
  | .created _ _ i _ _ => if i = index then true else live
  | .deleted _ i _ => if i = index then false else live
  | _ => live

/-- A key uses the slot: one was created there and not deleted since. -/
def live (trace : List (Observation T V D)) (index : Index) : Bool :=
  trace.foldl (liveAfter index) (index.val < 2)

/-- The incarnation was created with the destructor. -/
def Registered (trace : List (Observation T V D)) (index : Index) (sequence : Nat) (destructor : Option D) : Prop :=
  ∃ t key, .created t key index sequence destructor ∈ trace

def lastSetAfter (t : T) (index : Index) (sequence : Nat) (value : Option V) : Observation T V D → Option V
  | .stored u i n v => if u = t ∧ i = index ∧ n = sequence then v else value
  | .took u i n _ _ => if u = t ∧ i = index ∧ n = sequence then none else value
  | _ => value

/-- What the thread last set in the slot under the incarnation, unless cleaning has taken it. -/
def lastSet (trace : List (Observation T V D)) (t : T) (index : Index) (sequence : Nat) : Option V :=
  trace.foldl (lastSetAfter t index sequence) none

/-- What the keys may do after a trace. -/
def Allowed (trace : List (Observation T V D)) : Observation T V D → Prop
  | .got t index sequence value => value = lastSet trace t index sequence
  | .created _ key index _ _ => live trace index = false ∧ decodeKey key = some index
  | .took t index sequence value destructor =>
    value ≠ none ∧ lastSet trace t index sequence = value ∧ Registered trace index sequence (some destructor) ∧
      ∀ other, Registered trace index sequence other → other = some destructor
  | .cleaned _ rounds => rounds ≤ kBionicDestructorIterations
  | _ => True

omit [DecidableEq T] in
@[simp] theorem live_snoc (trace : List (Observation T V D)) (o : Observation T V D) (index : Index) :
    live (trace ++ [o]) index = liveAfter index (live trace index) o := by simp [live]

@[simp] theorem lastSet_snoc (trace : List (Observation T V D)) (o : Observation T V D) (t : T) (index : Index)
    (sequence : Nat) :
    lastSet (trace ++ [o]) t index sequence = lastSetAfter t index sequence (lastSet trace t index sequence) o := by
  simp [lastSet]

/-! ## The invariant -/

/-- Between taking and releasing the mutex. -/
def Point.Critical : Point D → Prop
  | .createScan _ _ => True
  | .createDestructor _ _ _ => True
  | .createPublish _ _ _ => True
  | .deleteLoad _ => True
  | .deleteStore _ _ => True
  | .deleteClear _ => True
  | .unlock => True
  | _ => False

/-- What a thread knows at its point. -/
def Local (s : State T V D) (t : T) : Point D → Prop
  | .createDestructor _ index sequence => (s.slots index).sequence = sequence ∧ isInUse sequence = false
  | .createPublish destructor index sequence =>
    s.slots index = { sequence, destructor } ∧ isInUse sequence = false
  | .deleteStore index sequence => (s.slots index).sequence = sequence ∧ isInUse sequence = true
  | .deleteClear index => isInUse (s.slots index).sequence = false
  | .cleanDestructor index sequence =>
    isInUse sequence = true ∧ (s.values t index).sequence = sequence ∧ (s.values t index).value ≠ none
  | .cleanConfirm index sequence destructor =>
    isInUse sequence = true ∧ (s.values t index).sequence = sequence ∧ (s.values t index).value ≠ none ∧
      ((s.slots index).sequence = sequence → (s.slots index).destructor = destructor)
  | _ => True

/-- The slots against the trace. -/
structure SlotsInv (slots : Index → KeySlot D) (trace : List (Observation T V D)) : Prop where
  live : ∀ i, live trace i = isInUse (slots i).sequence
  registered : ∀ i, isInUse (slots i).sequence = true →
    (slots i).destructor = none ∨ Registered trace i (slots i).sequence (slots i).destructor
  dated : ∀ i n d, Registered trace i n d → n ≤ (slots i).sequence
  unique : ∀ i n d e, Registered trace i n d → Registered trace i n e → d = e

/-- A thread's values against the slots and the trace. -/
structure ValuesInv (slots : Index → KeySlot D) (values : T → Index → KeyValue V) (trace : List (Observation T V D)) :
    Prop where
  behind : ∀ t i, (values t i).sequence ≤ (slots i).sequence
  latest : ∀ t i, (values t i).sequence = (slots i).sequence →
    lastSet trace t i (slots i).sequence = (values t i).value
  unset : ∀ t i n, (values t i).sequence < n → lastSet trace t i n = none
  odd : ∀ t i n, isInUse n = false → lastSet trace t i n = none

structure Inv (s : State T V D) (trace : List (Observation T V D)) : Prop where
  mutex : ∀ t, (s.points t).Critical → s.holder = some t
  locals : ∀ t, Local s t (s.points t)
  slots : SlotsInv s.slots trace
  values : ValuesInv s.slots s.values trace
  allowed : Always Allowed trace

variable {n : Nat}

theorem isInUse_iff : isInUse n = true ↔ n % 2 = 1 := by
  simp [isInUse, kSequenceInUseBit, Nat.and_one_is_mod]

theorem isInUse_succ (n : Nat) : isInUse (n + 1) = !isInUse n := by
  have h := isInUse_iff (n := n)
  have h' := isInUse_iff (n := n + 1)
  cases hn : isInUse n <;> cases hn' : isInUse (n + 1) <;> simp_all <;> omega

theorem decodeKey_encodeKey (index : Index) : decodeKey (encodeKey index) = some index := by
  revert index
  decide

variable {trace : List (Observation T V D)} {i : Index}

omit [DecidableEq T] in
theorem registered_snoc {o : Observation T V D} {d : Option D} :
    Registered (trace ++ [o]) i n d ↔ Registered trace i n d ∨ ∃ t key, o = .created t key i n d := by
  simp only [Registered, List.mem_append, List.mem_singleton]
  constructor
  · intro h
    obtain ⟨t, key, h | h⟩ := h
    · exact .inl ⟨t, key, h⟩
    · exact .inr ⟨t, key, h.symm⟩
  · intro h
    rcases h with ⟨t, key, h⟩ | ⟨t, key, h⟩
    · exact ⟨t, key, .inl h⟩
    · exact ⟨t, key, .inr h.symm⟩

/-- An observation that creates and deletes nothing. -/
def Unslotted (o : Observation T V D) : Prop :=
  (∀ i b, liveAfter i b o = b) ∧ ∀ t key i n d, o ≠ .created t key i n d

variable {slots : Index → KeySlot D}

omit [DecidableEq T] in
theorem SlotsInv.unslotted {o : Observation T V D}
    (h : SlotsInv slots trace) (ho : Unslotted o) : SlotsInv slots (trace ++ [o]) := by
  have hreg : ∀ i n d, Registered (trace ++ [o]) i n d ↔ Registered trace i n d := by
    intro i n d
    rw [registered_snoc]
    exact ⟨fun hex => hex.elim id fun ⟨t, key, he⟩ => absurd he (ho.2 t key i n d), .inl⟩
  refine ⟨?_, ?_, ?_, ?_⟩
  · intro i
    rw [live_snoc, ho.1, h.live]
  · intro i hu
    rw [hreg]
    exact h.registered i hu
  · intro i n d hr
    exact h.dated i n d ((hreg i n d).mp hr)
  · intro i n d e hd he
    exact h.unique i n d e ((hreg i n d).mp hd) ((hreg i n e).mp he)

variable {values : T → Index → KeyValue V}

theorem ValuesInv.silent
    {o : Observation T V D} (h : ValuesInv slots values trace)
    (ho : ∀ t i n v, lastSetAfter t i n v o = v) : ValuesInv slots values (trace ++ [o]) := by
  refine ⟨h.behind, ?_, ?_, ?_⟩
  · intro t i he
    rw [lastSet_snoc, ho]
    exact h.latest t i he
  · intro t i n hn
    rw [lastSet_snoc, ho]
    exact h.unset t i n hn
  · intro t i n hn
    rw [lastSet_snoc, ho]
    exact h.odd t i n hn

omit [DecidableEq T] in
theorem slots_init : SlotsInv (State.init : State T V D).slots ([] : List (Observation T V D)) := by
  refine ⟨?_, fun i _ => .inl rfl, ?_, ?_⟩
  · intro i
    simp only [live, List.foldl_nil, State.init]
    by_cases hi : i.val < 2
    · simp [hi, isInUse, kSequenceInUseBit]
    · simp [hi, isInUse, kSequenceInUseBit]
  · intro i n d h
    simp [Registered] at h
  · intro i n d e h
    simp [Registered] at h

theorem init_inv : Inv (State.init : State T V D) [] := by
  refine ⟨fun t h => h.elim, fun t => trivial, slots_init, ⟨?_, ?_, ?_, ?_⟩, always_nil _⟩
  · intro t i
    exact Nat.zero_le _
  · intro t i _
    rfl
  · intro t i n _
    rfl
  · intro t i n _
    rfl

/-! ## Steps that leave the slots and the values alone -/

variable {s : State T V D}

/-- A thread moves; the mutex may change hands, if nobody else is inside. -/
theorem moved_inv (h : Inv s trace) (t : T) (p : Point D)
    (holder : Option T) (frames : T → Option Frame) (hl : Local s t p) (ht : p.Critical → holder = some t)
    (ho : ∀ u ≠ t, (s.points u).Critical → holder = some u) :
    Inv ({ s with holder, frames }.goto t p) trace := by
  refine ⟨?_, ?_, h.slots, h.values, h.allowed⟩
  · intro u hu
    by_cases hut : u = t
    · subst hut
      exact ht (by simpa [State.goto] using hu)
    · exact ho u hut (by simpa [State.goto, hut] using hu)
  · intro u
    by_cases hut : u = t
    · subst hut
      simp only [State.goto, Function.update_self]
      cases p <;> exact hl
    · have hu := h.locals u
      simp only [State.goto, Function.update_of_ne hut]
      cases hp : s.points u <;> simp only [hp] at hu <;> exact hu

variable {p : Point D} {t : T}

theorem goto_inv (h : Inv s trace)
    (hl : Local s t p) (ht : p.Critical → (s.points t).Critical) : Inv (s.goto t p) trace :=
  moved_inv h t p s.holder s.frames hl (fun hp => h.mutex t (ht hp)) (fun u _ hu => h.mutex u hu)

theorem framed_inv (h : Inv s trace)
    (frame : Option Frame) (hl : Local s t p) (ht : ¬ p.Critical) : Inv ((s.setFrame t frame).goto t p) trace :=
  moved_inv h t p s.holder _ hl (fun hp => absurd hp ht) (fun u _ hu => h.mutex u hu)

theorem setFrame_inv (h : Inv s trace) (t : T)
    (frame : Option Frame) : Inv (s.setFrame t frame) trace := by
  refine ⟨h.mutex, ?_, h.slots, h.values, h.allowed⟩
  intro u
  have hu := h.locals u
  simp only [State.setFrame]
  cases hp : s.points u <;> simp only [hp] at hu <;> exact hu

/-- Observations that say nothing about slots or values. -/
theorem Inv.observe {o : Observation T V D} (h : Inv s trace)
    (hs : Unslotted o) (hv : ∀ t i n v, lastSetAfter t i n v o = v) (ha : Allowed trace o) : Inv s (trace ++ [o]) :=
  ⟨h.mutex, h.locals, h.slots.unslotted hs, h.values.silent hv, always_snoc.mpr ⟨h.allowed, ha⟩⟩

theorem Inv.failed (h : Inv s trace) (t : T) (errno : Errno) :
    Inv s (trace ++ [Observation.failed t errno]) :=
  h.observe ⟨fun _ _ => rfl, fun _ _ _ _ _ => by simp⟩ (fun _ _ _ _ => rfl) trivial

theorem lock_inv (h : Inv s trace)
    (hl : Local s t p) : Inv (lock s t p) trace := by
  unfold lock
  split
  · rename_i hnone
    refine moved_inv h t p (some t) s.frames hl (fun _ => rfl) ?_
    intro u _ hu
    have := h.mutex u hu
    simp [this] at hnone
  · exact h

theorem unlock_inv (h : Inv s trace)
    (hp : s.points t = .unlock) : Inv ({ s with holder := none }.goto t .guest) trace := by
  have ht := h.mutex t (by rw [hp]; trivial)
  refine moved_inv h t .guest none s.frames trivial (fun hc => hc.elim) ?_
  intro u hut hu
  have hu' := h.mutex u hu
  rw [ht] at hu'
  exact absurd (Option.some.inj hu').symm hut

/-! ## Steps on a slot -/

/-- What may happen to a slot: its destructor changes only while no key uses it. -/
def SlotStep (slot slot' : KeySlot D) : Prop :=
  (slot'.sequence = slot.sequence ∧ isInUse slot.sequence = false) ∨ slot'.sequence = slot.sequence + 1

theorem Inv.alone (h : Inv s trace) {t u : T}
    (ht : (s.points t).Critical) (hut : u ≠ t) : ¬ (s.points u).Critical := by
  intro hu
  have hholder := h.mutex t ht
  rw [h.mutex u hu] at hholder
  exact hut (Option.some.inj hholder)

variable {slot : KeySlot D}

/-- A thread outside the mutex keeps what it knows when a slot changes. -/
theorem local_setSlot (h : Inv s trace) {u : T}
    (hs : SlotStep (s.slots i) slot) (hu : ¬ (s.points u).Critical) (points : T → Point D) :
    Local { s with slots := Function.update s.slots i slot, points } u (s.points u) := by
  have hlocal := h.locals u
  cases hp : s.points u with
  | cleanConfirm index sequence destructor =>
    rw [hp] at hlocal
    obtain ⟨huse, hseq, hvalue, hd⟩ := hlocal
    refine ⟨huse, hseq, hvalue, ?_⟩
    by_cases hi : index = i
    · subst hi
      have hbehind := h.values.behind u index
      simp only [Function.update_self]
      intro hslot
      rcases hs with ⟨hsame, heven⟩ | hnext
      · rw [← hsame, hslot, huse] at heven
        cases heven
      · omega
    · simpa only [Function.update_of_ne hi] using hd
  | cleanDestructor index sequence =>
    rw [hp] at hlocal
    exact hlocal
  | guest => trivial
  | createLock destructor => trivial
  | deleteLock index => trivial
  | cleanSlot => trivial
  | _ =>
    rw [hp] at hu
    exact absurd trivial hu

theorem slot_inv {trace' : List (Observation T V D)}
    (h : Inv s trace) (ht : (s.points t).Critical) (hs : SlotStep (s.slots i) slot)
    (hp : Local ((s.setSlot i slot).goto t p) t p)
    (hslots : SlotsInv (Function.update s.slots i slot) trace')
    (hvalues : ValuesInv (Function.update s.slots i slot) s.values trace')
    (hallowed : Always Allowed trace') : Inv ((s.setSlot i slot).goto t p) trace' := by
  refine ⟨?_, ?_, hslots, hvalues, hallowed⟩
  · intro u hu
    by_cases hut : u = t
    · subst hut
      exact h.mutex u ht
    · exact absurd (by simpa [State.goto, State.setSlot, hut] using hu) (h.alone ht hut)
  · intro u
    by_cases hut : u = t
    · subst hut
      simp only [State.goto, Function.update_self]
      exact hp
    · simp only [State.goto, Function.update_of_ne hut]
      exact local_setSlot h hs (h.alone ht hut) _

/-- A slot's sequence number only grows, so its values stay behind and dated. -/
theorem ValuesInv.grow (h : ValuesInv slots values trace)
    (hs : slot.sequence = (slots i).sequence ∨ slot.sequence = (slots i).sequence + 1) :
    ValuesInv (Function.update slots i slot) values trace := by
  refine ⟨?_, ?_, h.unset, h.odd⟩
  · intro t j
    have hb := h.behind t j
    by_cases hj : j = i
    · subst hj
      rw [Function.update_self]
      omega
    · rwa [Function.update_of_ne hj]
  · intro t j
    have hb := h.behind t j
    by_cases hj : j = i
    · subst hj
      rw [Function.update_self]
      intro he
      rcases hs with hsame | hnext
      · rw [hsame]
        exact h.latest t j (he.trans hsame)
      · omega
    · rw [Function.update_of_ne hj]
      exact h.latest t j

omit [DecidableEq T] in
/-- The destructor of an unused slot changes. -/
theorem SlotsInv.destructor (h : SlotsInv slots trace) (hs : slot.sequence = (slots i).sequence)
    (hfree : isInUse (slots i).sequence = false) : SlotsInv (Function.update slots i slot) trace := by
  have hseq : ∀ j, (Function.update slots i slot j).sequence = (slots j).sequence := by
    intro j
    by_cases hj : j = i
    · subst hj
      rwa [Function.update_self]
    · rw [Function.update_of_ne hj]
  refine ⟨?_, ?_, ?_, h.unique⟩
  · intro j
    rw [hseq, h.live]
  · intro j hu
    by_cases hj : j = i
    · subst hj
      rw [hseq, hfree] at hu
      cases hu
    · rw [Function.update_of_ne hj] at hu ⊢
      exact h.registered j hu
  · intro j n d hr
    rw [hseq]
    exact h.dated j n d hr

omit [DecidableEq T] in
theorem SlotsInv.create {key : BitVec 32}
    {d : Option D} (h : SlotsInv slots trace) (hs : slots i = { sequence := n, destructor := d })
    (hfree : isInUse n = false) :
    SlotsInv (Function.update slots i { slots i with sequence := n + 1 }) (trace ++ [Observation.created t key i (n + 1) d]) := by
  have hn : (slots i).sequence = n := by rw [hs]
  have hsucc : isInUse (n + 1) = true := by rw [isInUse_succ, hfree]; rfl
  -- the new incarnation is later than every one the trace has
  have hfresh : ∀ e, ¬ Registered trace i (n + 1) e := by
    intro e he
    have := h.dated i (n + 1) e he
    omega
  have hreg : ∀ j m e, Registered (trace ++ [.created t key i (n + 1) d]) j m e →
      Registered trace j m e ∨ j = i ∧ m = n + 1 ∧ e = d := by
    intro j m e hr
    rcases registered_snoc.mp hr with hr | ⟨u, k, he⟩
    · exact .inl hr
    · injection he with _ _ hj hm hd
      exact .inr ⟨hj.symm, hm.symm, hd.symm⟩
  refine ⟨?_, ?_, ?_, ?_⟩
  · intro j
    rw [live_snoc]
    simp only [liveAfter]
    by_cases hj : j = i
    · subst hj
      simp [hsucc]
    · rw [if_neg (fun he => hj he.symm), Function.update_of_ne hj, h.live]
  · intro j hu
    by_cases hj : j = i
    · subst hj
      simp only [Function.update_self, hs]
      exact .inr (registered_snoc.mpr (.inr ⟨t, key, rfl⟩))
    · rw [Function.update_of_ne hj] at hu ⊢
      exact (h.registered j hu).imp id fun hr => registered_snoc.mpr (.inl hr)
  · intro j m e hr
    rcases hreg j m e hr with hr | ⟨rfl, rfl, -⟩
    · have := h.dated j m e hr
      by_cases hj : j = i
      · subst hj
        rw [Function.update_self]
        dsimp only
        omega
      · rwa [Function.update_of_ne hj]
    · rw [Function.update_self]
  · intro j m e f he hf
    rcases hreg j m e he with hold | ⟨rfl, rfl, rfl⟩
    · rcases hreg j m f hf with hold' | ⟨rfl, rfl, -⟩
      · exact h.unique j m e f hold hold'
      · exact absurd hold (hfresh e)
    · rcases hreg j _ f hf with hold | ⟨-, -, rfl⟩
      · exact absurd hold (hfresh f)
      · rfl

omit [DecidableEq T] in
theorem SlotsInv.delete (h : SlotsInv slots trace) (hs : (slots i).sequence = n) (hused : isInUse n = true) :
    SlotsInv (Function.update slots i { slots i with sequence := n + 1 }) (trace ++ [Observation.deleted t i n]) := by
  have hsucc : isInUse (n + 1) = false := by rw [isInUse_succ, hused]; rfl
  have hreg : ∀ j m e, Registered (trace ++ [Observation.deleted t i n]) j m e ↔ Registered trace j m e := by
    intro j m e
    rw [registered_snoc]
    simp
  refine ⟨?_, ?_, ?_, ?_⟩
  · intro j
    rw [live_snoc]
    simp only [liveAfter]
    by_cases hj : j = i
    · subst hj
      simp [hsucc]
    · rw [if_neg (fun he => hj he.symm), Function.update_of_ne hj, h.live]
  · intro j hu
    by_cases hj : j = i
    · subst hj
      rw [Function.update_self, hsucc] at hu
      cases hu
    · rw [Function.update_of_ne hj] at hu ⊢
      rw [hreg]
      exact h.registered j hu
  · intro j m e hr
    have := h.dated j m e ((hreg j m e).mp hr)
    by_cases hj : j = i
    · subst hj
      rw [Function.update_self]
      dsimp only
      omega
    · rwa [Function.update_of_ne hj]
  · intro j m e f he hf
    exact h.unique j m e f ((hreg j m e).mp he) ((hreg j m f).mp hf)

/-! ## Steps on a thread's own value -/

@[simp] theorem setValue_values_self (s : State T V D) (t : T) (i : Index) (value : KeyValue V) :
    (s.setValue t i value).values t i = value := by simp [State.setValue]

theorem setValue_values_of_ne (s : State T V D) {t u : T} {i j : Index} (value : KeyValue V) (h : ¬ (u = t ∧ j = i)) :
    (s.setValue t i value).values u j = s.values u j := by
  by_cases hu : u = t
  · subst hu
    have hj : j ≠ i := fun hj => h ⟨rfl, hj⟩
    simp [State.setValue, hj]
  · simp [State.setValue, hu]

/-- A step of a thread on its own value of a slot. -/
theorem value_inv {trace' : List (Observation T V D)}
    {value : KeyValue V} (frames : T → Option Frame) (h : Inv s trace) (ht : ¬ p.Critical)
    (hp : Local ((s.setValue t i value).goto t p) t p) (hslots : SlotsInv s.slots trace')
    (hvalues : ValuesInv s.slots (s.setValue t i value).values trace') (hallowed : Always Allowed trace') :
    Inv ({ s.setValue t i value with frames }.goto t p) trace' := by
  refine ⟨?_, ?_, hslots, hvalues, hallowed⟩
  · intro u hu
    by_cases hut : u = t
    · subst hut
      exact absurd (by simpa [State.goto] using hu) ht
    · exact h.mutex u (by simpa [State.goto, State.setValue, hut] using hu)
  · intro u
    by_cases hut : u = t
    · subst hut
      simp only [State.goto, Function.update_self]
      cases p <;> exact hp
    · have hu := h.locals u
      have hv : ∀ j, (s.setValue t i value).values u j = s.values u j :=
        fun j => setValue_values_of_ne s value (fun he => hut he.1)
      simp only [State.goto, Function.update_of_ne hut]
      change Local _ u (s.points u)
      cases hpoint : s.points u with
      | cleanDestructor index sequence | cleanConfirm index sequence destructor =>
        rw [hpoint] at hu
        simp only [Local, hv]
        exact hu
      | _ =>
        rw [hpoint] at hu
        exact hu

/-- Where the value is not current, the trace has none for the incarnation in the slot. -/
theorem ValuesInv.stale (h : ValuesInv slots values trace)
    (hs : ¬ (isInUse (slots i).sequence = true ∧ (values t i).sequence = (slots i).sequence)) :
    lastSet trace t i (slots i).sequence = none := by
  by_cases hu : isInUse (slots i).sequence = true
  · have hb := h.behind t i
    have hne : (values t i).sequence ≠ (slots i).sequence := fun he => hs ⟨hu, he⟩
    exact h.unset t i _ (by omega)
  · exact h.odd t i _ (by simpa using hu)

/-- `Get` drops a value that is not current. -/
theorem ValuesInv.drop (h : ValuesInv s.slots s.values trace)
    (hs : ¬ (isInUse (s.slots i).sequence = true ∧ (s.values t i).sequence = (s.slots i).sequence)) :
    ValuesInv s.slots (s.setValue t i { s.values t i with value := none }).values trace := by
  have hseq : ∀ u j, ((s.setValue t i { s.values t i with value := none }).values u j).sequence = (s.values u j).sequence := by
    intro u j
    by_cases he : u = t ∧ j = i
    · obtain ⟨rfl, rfl⟩ := he
      rw [setValue_values_self]
    · rw [setValue_values_of_ne s _ he]
  refine ⟨?_, ?_, ?_, h.odd⟩
  · intro u j
    rw [hseq]
    exact h.behind u j
  · intro u j hcur
    rw [hseq] at hcur
    by_cases he : u = t ∧ j = i
    · obtain ⟨rfl, rfl⟩ := he
      rw [setValue_values_self]
      exact h.stale hs
    · rw [setValue_values_of_ne s _ he]
      exact h.latest u j hcur
  · intro u j n hn
    rw [hseq] at hn
    exact h.unset u j n hn

variable {value : Option V}

theorem ValuesInv.set (h : ValuesInv s.slots s.values trace) (hu : isInUse (s.slots i).sequence = true) :
    ValuesInv s.slots (s.setValue t i { sequence := (s.slots i).sequence, value }).values
      (trace ++ [Observation.stored t i (s.slots i).sequence value]) := by
  refine ⟨?_, ?_, ?_, ?_⟩
  · intro u j
    by_cases he : u = t ∧ j = i
    · obtain ⟨rfl, rfl⟩ := he
      rw [setValue_values_self]
    · rw [setValue_values_of_ne s _ he]
      exact h.behind u j
  · intro u j hcur
    rw [lastSet_snoc]
    by_cases he : u = t ∧ j = i
    · obtain ⟨rfl, rfl⟩ := he
      simp [lastSetAfter]
    · rw [setValue_values_of_ne s _ he] at hcur ⊢
      rw [lastSetAfter, if_neg (fun hc => he ⟨hc.1.symm, hc.2.1.symm⟩)]
      exact h.latest u j hcur
  · intro u j n hn
    rw [lastSet_snoc]
    by_cases he : u = t ∧ j = i
    · obtain ⟨rfl, rfl⟩ := he
      rw [setValue_values_self] at hn
      change (s.slots j).sequence < n at hn
      have hb := h.behind u j
      rw [lastSetAfter, if_neg (fun hc => by omega)]
      exact h.unset u j n (by omega)
    · rw [setValue_values_of_ne s _ he] at hn
      rw [lastSetAfter, if_neg (fun hc => he ⟨hc.1.symm, hc.2.1.symm⟩)]
      exact h.unset u j n hn
  · intro u j n hn
    rw [lastSet_snoc, lastSetAfter, if_neg]
    · exact h.odd u j n hn
    · intro hc
      obtain ⟨-, rfl, rfl⟩ := hc
      rw [hu] at hn
      cases hn

theorem ValuesInv.take
    {d : D} (h : ValuesInv s.slots s.values trace) (hcur : (s.values t i).sequence = (s.slots i).sequence) :
    ValuesInv s.slots (s.setValue t i { s.values t i with value := none }).values
      (trace ++ [Observation.took t i (s.slots i).sequence value d]) := by
  refine ⟨?_, ?_, ?_, ?_⟩
  · intro u j
    by_cases he : u = t ∧ j = i
    · obtain ⟨rfl, rfl⟩ := he
      rw [setValue_values_self]
      exact h.behind u j
    · rw [setValue_values_of_ne s _ he]
      exact h.behind u j
  · intro u j hseq
    rw [lastSet_snoc]
    by_cases he : u = t ∧ j = i
    · obtain ⟨rfl, rfl⟩ := he
      simp [lastSetAfter]
    · rw [setValue_values_of_ne s _ he] at hseq ⊢
      rw [lastSetAfter, if_neg (fun hc => he ⟨hc.1.symm, hc.2.1.symm⟩)]
      exact h.latest u j hseq
  · intro u j n hn
    rw [lastSet_snoc, lastSetAfter]
    split
    · rfl
    · by_cases he : u = t ∧ j = i
      · obtain ⟨rfl, rfl⟩ := he
        rw [setValue_values_self] at hn
        exact h.unset u j n hn
      · rw [setValue_values_of_ne s _ he] at hn
        exact h.unset u j n hn
  · intro u j n hn
    rw [lastSet_snoc, lastSetAfter]
    split
    · rfl
    · exact h.odd u j n hn

/-! ## One step -/

theorem createScan_inv {d : Option D} {index : Nat} (h : Inv s trace) (hp : s.points t = .createScan d index) :
    Inv (createScan s t d index).1 (trace ++ (createScan s t d index).2) := by
  have hc : (s.points t).Critical := by rw [hp]; trivial
  unfold createScan
  dsimp only
  split
  · split
    · simpa using goto_inv (t := t) (p := .createScan d (index + 1)) h trivial fun _ => hc
    · rename_i hi hfree
      simpa using goto_inv (t := t) (p := .createDestructor d ⟨index, hi⟩ _) h ⟨rfl, by simpa using hfree⟩ fun _ => hc
  · exact (goto_inv (t := t) (p := .unlock) h trivial fun _ => hc).failed t .eagain

theorem deleteLoad_inv (h : Inv s trace) (hp : s.points t = .deleteLoad i) :
    Inv (deleteLoad s t i).1 (trace ++ (deleteLoad s t i).2) := by
  have hc : (s.points t).Critical := by rw [hp]; trivial
  unfold deleteLoad
  dsimp only
  split
  · exact (goto_inv (t := t) (p := .unlock) h trivial fun _ => hc).failed t .einval
  · rename_i hused
    simpa using goto_inv (t := t) (p := .deleteStore i _) h ⟨rfl, by simpa using hused⟩ fun _ => hc

theorem createDestructor_inv {d : Option D} (h : Inv s trace) (hp : s.points t = .createDestructor d i n) :
    Inv ((s.setSlot i { s.slots i with destructor := d }).goto t (.createPublish d i n)) trace := by
  have hl := h.locals t
  rw [hp] at hl
  obtain ⟨hseq, hfree⟩ := hl
  have hslot : isInUse (s.slots i).sequence = false := by rw [hseq, hfree]
  refine slot_inv h (by rw [hp]; trivial) (.inl ⟨rfl, hslot⟩) ⟨?_, hfree⟩ (h.slots.destructor rfl hslot)
    (h.values.grow (.inl rfl)) h.allowed
  simp [State.goto, State.setSlot, hseq]

theorem createPublish_inv {d : Option D} (h : Inv s trace) (hp : s.points t = .createPublish d i n) :
    Inv ((s.setSlot i { s.slots i with sequence := n + 1 }).goto t .unlock)
      (trace ++ [Observation.created t (encodeKey i) i (n + 1) d]) := by
  have hl := h.locals t
  rw [hp] at hl
  obtain ⟨hslot, hfree⟩ := hl
  have hseq : (s.slots i).sequence = n := by rw [hslot]
  refine slot_inv h (by rw [hp]; trivial) (.inr (by rw [hseq])) trivial (h.slots.create hslot hfree) ?_ ?_
  · exact (h.values.grow (.inr (by rw [hseq]))).silent fun _ _ _ _ => rfl
  · refine always_snoc.mpr ⟨h.allowed, ?_, decodeKey_encodeKey i⟩
    rw [h.slots.live, hseq, hfree]

theorem deleteStore_inv (h : Inv s trace) (hp : s.points t = .deleteStore i n) :
    Inv ((s.setSlot i { s.slots i with sequence := n + 1 }).goto t (.deleteClear i)) (trace ++ [Observation.deleted t i n]) := by
  have hl := h.locals t
  rw [hp] at hl
  obtain ⟨hseq, hused⟩ := hl
  refine slot_inv h (by rw [hp]; trivial) (.inr (by rw [hseq])) ?_ (h.slots.delete hseq hused) ?_ ?_
  · simp [Local, State.goto, State.setSlot, isInUse_succ, hused]
  · exact (h.values.grow (.inr (by rw [hseq]))).silent fun _ _ _ _ => rfl
  · exact always_snoc.mpr ⟨h.allowed, trivial⟩

theorem deleteClear_inv (h : Inv s trace) (hp : s.points t = .deleteClear i) :
    Inv ((s.setSlot i { s.slots i with destructor := none }).goto t .unlock) trace := by
  have hfree := h.locals t
  rw [hp] at hfree
  exact slot_inv h (by rw [hp]; trivial) (.inl ⟨rfl, hfree⟩) trivial (h.slots.destructor rfl hfree)
    (h.values.grow (.inl rfl)) h.allowed

variable {frame : Frame}

theorem cleanSlot_inv (h : Inv s trace) (hround : frame.round < kBionicDestructorIterations) :
    Inv (cleanSlot s t frame).1 (trace ++ (cleanSlot s t frame).2) := by
  unfold cleanSlot
  dsimp only
  split
  · rename_i hi
    split
    · simpa using setFrame_inv h t _
    · rename_i hready
      simp only [Bool.or_eq_true, Bool.not_eq_true', bne_iff_ne, ne_eq, Option.isNone_iff_eq_none, not_or] at hready
      obtain ⟨⟨hused, hseq⟩, hvalue⟩ := hready
      rw [List.append_nil]
      exact goto_inv h ⟨by simpa using hused, by simpa using hseq, hvalue⟩ fun hc => hc.elim
  · split
    · refine (framed_inv (t := t) (p := .guest) h none trivial id).observe ⟨fun _ _ => rfl, fun _ _ _ _ _ => by simp⟩
        (fun _ _ _ _ => rfl) ?_
      simp only [Allowed]
      omega
    · simpa using setFrame_inv h t _

theorem cleanConfirm_inv
    {d : Option D} (h : Inv s trace) (hp : s.points t = .cleanConfirm i n d) :
    Inv (cleanConfirm s t frame i n d).1 (trace ++ (cleanConfirm s t frame i n d).2) := by
  have hl := h.locals t
  rw [hp] at hl
  obtain ⟨hused, hseq, hvalue, hdestructor⟩ := hl
  cases d with
  | none => simpa [cleanConfirm] using framed_inv (t := t) (p := .cleanSlot) h _ trivial id
  | some d =>
    simp only [cleanConfirm]
    split
    · simpa using framed_inv (t := t) (p := .cleanSlot) h _ trivial id
    · rename_i hslot
      obtain rfl : n = (s.slots i).sequence := by simpa using hslot
      have hd : (s.slots i).destructor = some d := hdestructor rfl
      refine value_inv (p := .guest) _ h id trivial ?_ (h.values.take hseq) (always_snoc.mpr ⟨h.allowed, ?_⟩)
      · exact h.slots.unslotted ⟨fun _ _ => rfl, fun _ _ _ _ _ => by simp⟩
      · have hreg : Registered trace i (s.slots i).sequence (some d) := by
          rcases h.slots.registered i hused with hnone | hreg
          · rw [hd] at hnone
            cases hnone
          · rwa [hd] at hreg
        exact ⟨hvalue, h.values.latest t i hseq, hreg, fun e he => h.slots.unique i _ e (some d) he hreg⟩

theorem get_inv {key : BitVec 32} (h : Inv s trace)
    (hp : s.points t = .guest) : Inv (get s t key).1 (trace ++ (get s t key).2) := by
  unfold get
  cases decodeKey key with
  | none => simpa using h
  | some i =>
    dsimp only
    split
    · rename_i hcur
      obtain ⟨hused, hseq⟩ : isInUse (s.slots i).sequence = true ∧ (s.values t i).sequence = (s.slots i).sequence := by
        simpa using hcur
      exact h.observe ⟨fun _ _ => rfl, fun _ _ _ _ _ => by simp⟩ (fun _ _ _ _ => rfl) (h.values.latest t i hseq).symm
    · rename_i hcur
      have hstale : ¬ (isInUse (s.slots i).sequence = true ∧ (s.values t i).sequence = (s.slots i).sequence) := by
        simpa using hcur
      have hpoints : s.points = Function.update s.points t .guest := by rw [← hp, Function.update_eq_self]
      have hdrop := value_inv (p := .guest) s.frames h id trivial h.slots (h.values.drop hstale) h.allowed
      have heq : ({ s.setValue t i { s.values t i with value := none } with frames := s.frames }.goto t .guest : State T V D) =
          s.setValue t i { s.values t i with value := none } := by
        simp only [State.goto, State.setValue, ← hpoints]
      rw [heq] at hdrop
      exact hdrop.observe ⟨fun _ _ => rfl, fun _ _ _ _ _ => by simp⟩ (fun _ _ _ _ => rfl) (h.values.stale hstale).symm

theorem set_inv {key : BitVec 32}
    (h : Inv s trace) (hp : s.points t = .guest) : Inv (set s t key value).1 (trace ++ (set s t key value).2) := by
  unfold set
  cases decodeKey key with
  | none => exact h.failed t .einval
  | some i =>
    dsimp only
    split
    · exact h.failed t .einval
    · rename_i hused
      have hpoints : s.points = Function.update s.points t .guest := by rw [← hp, Function.update_eq_self]
      have hset := value_inv (p := .guest) s.frames h id trivial
        (h.slots.unslotted (o := .stored t i (s.slots i).sequence value) ⟨fun _ _ => rfl, fun _ _ _ _ _ => by simp⟩)
        (h.values.set (t := t) (by simpa using hused)) (always_snoc.mpr ⟨h.allowed, trivial⟩)
      have heq : ({ s.setValue t i { sequence := (s.slots i).sequence, value } with frames := s.frames }.goto t .guest :
          State T V D) = s.setValue t i { sequence := (s.slots i).sequence, value } := by
        simp only [State.goto, State.setValue, ← hpoints]
      rwa [heq] at hset

/-! ## How far a cleaning has come -/

/-- The points of `Clean` itself. -/
def Point.isCleaning : Point D → Bool
  | .cleanSlot => true
  | .cleanDestructor _ _ => true
  | .cleanConfirm _ _ _ => true
  | _ => false

/-- A thread's frame fits its point. -/
def FrameOk (p : Point D) : Option Frame → Prop
  | none => p.isCleaning = false
  | some frame =>
    frame.round < kBionicDestructorIterations ∧ frame.index ≤ kBionicPthreadKeyCount ∧
      match p with
      | .cleanDestructor index _ => frame.index = index
      | .cleanConfirm index _ _ => frame.index = index
      | _ => True

def FramesOk (s : State T V D) : Prop := ∀ t, FrameOk (s.points t) (s.frames t)

def phase : Point D → Nat
  | .cleanConfirm _ _ _ => 0
  | .cleanDestructor _ _ => 1
  | .cleanSlot => 2
  | _ => 3

/-- How many steps of cleaning there are from a point, at most. -/
def left (p : Point D) : Option Frame → Nat
  | none => 0
  | some frame => ((3 - frame.round) * 131 + (130 - frame.index)) * 4 + phase p + 1

def remaining (s : State T V D) (t : T) : Nat := left (s.points t) (s.frames t)

omit [DecidableEq T] in
theorem remaining_le (s : State T V D) (t : T) : remaining s t ≤ 2096 := by
  have hphase : phase (s.points t) ≤ 3 := by cases s.points t <;> simp [phase]
  unfold remaining
  cases s.frames t with
  | none => exact Nat.zero_le _
  | some frame =>
    simp only [left]
    omega

/-- Where a thread is and what it cleans. -/
@[simp] def place (s : State T V D) (t : T) : Point D × Option Frame := (s.points t, s.frames t)

theorem call_other {t u : T} (hut : u ≠ t) (move : Move V D) :
    place (call s t move).1 u = place s u := by
  cases move with
  | create out d => cases out <;> simp [call, hut]
  | delete key => cases hk : decodeKey key <;> simp [call, hk, hut]
  | get key =>
    cases hk : decodeKey key with
    | none => simp [call, get, hk]
    | some i =>
      simp only [call, get, hk]
      split <;> simp
  | set key value =>
    cases hk : decodeKey key with
    | none => simp [call, set, hk]
    | some i =>
      simp only [call, set, hk]
      split <;> simp
  | exit | leave =>
    simp only [call]
    split <;> simp [hut]
  | go => rfl

theorem advance_other {t u : T} (hut : u ≠ t) (p : Point D) :
    place (advance s t p).1 u = place s u := by
  cases p with
  | guest => rfl
  | createLock d | deleteLock i =>
    simp only [advance, lock]
    split <;> simp [hut]
  | createScan d i =>
    simp only [advance, createScan]
    split_ifs <;> simp [hut]
  | createDestructor d i n | createPublish d i n | deleteStore i n | deleteClear i | unlock
  | cleanDestructor i n => simp [advance, hut]
  | deleteLoad i =>
    simp only [advance, deleteLoad]
    split_ifs <;> simp [hut]
  | cleanSlot =>
    cases hf : s.frames t with
    | none => simp [advance, hf]
    | some frame =>
      simp only [advance, hf, cleanSlot]
      split_ifs <;> simp [hut]
  | cleanConfirm i n d =>
    cases hf : s.frames t with
    | none => simp [advance, hf]
    | some frame =>
      cases d with
      | none => simp [advance, hf, cleanConfirm, hut]
      | some d =>
        simp only [advance, hf, cleanConfirm]
        split_ifs <;> simp [hut]

theorem place_other {t u : T} (hut : u ≠ t) (move : Move V D) :
    place (step s (t, move)).1 u = place s u := by
  change place (if (s.points t).isGuest then call s t move else advance s t (s.points t)).1 u = _
  split
  · exact call_other hut move
  · exact advance_other hut _

/-- What a step does to where its own thread is; the flag tells the steps of cleaning. -/
inductive PlaceStep (p : Point D) : Option Frame → Bool → Point D × Option Frame → Prop where
  | work (frame : Option Frame) (q : Point D) : p.isCleaning = false → q.isCleaning = false →
      PlaceStep p frame false (q, frame)
  | exit : p.isCleaning = false → PlaceStep p none false (.cleanSlot, some { round := 0, index := 0, called := 0 })
  | leave (frame : Frame) : p.isGuest = true → PlaceStep p (some frame) true (.cleanSlot, some frame)
  | look (frame : Frame) (h : frame.index < kBionicPthreadKeyCount) (n : Nat) : p = .cleanSlot →
      PlaceStep p (some frame) true (.cleanDestructor ⟨frame.index, h⟩ n, some frame)
  | read (frame : Frame) (i : Index) (n : Nat) (d : Option D) : p = .cleanDestructor i n →
      PlaceStep p (some frame) true (.cleanConfirm i n d, some frame)
  | next (frame : Frame) (called : Nat) (q : Point D) : p.isCleaning = true →
      frame.index < kBionicPthreadKeyCount → (q = .cleanSlot ∨ q = .guest) →
      PlaceStep p (some frame) true (q, some { frame with index := frame.index + 1, called })
  | round (frame : Frame) : p = .cleanSlot → kBionicPthreadKeyCount ≤ frame.index →
      frame.round + 1 ≠ kBionicDestructorIterations →
      PlaceStep p (some frame) true (.cleanSlot, some { round := frame.round + 1, index := 0, called := 0 })
  | done (frame : Frame) : p = .cleanSlot → PlaceStep p (some frame) true (.guest, none)

/-- Whether the step is one of the thread's cleaning. -/
def cleans (s : State T V D) (t : T) : Move V D → Bool
  | .leave => (s.points t).isCleaning || (s.points t).isGuest && (s.frames t).isSome
  | _ => (s.points t).isCleaning

theorem isGuest_iff : p.isGuest = true ↔ p = .guest := by cases p <;> simp [Point.isGuest]

theorem call_place (move : Move V D) (hp : s.points t = .guest) :
    PlaceStep (s.points t) (s.frames t) (cleans s t move) (place (call s t move).1 t) := by
  have hclean : (s.points t).isCleaning = false := by rw [hp]; rfl
  have hguest : (s.points t).isGuest = true := by rw [hp]; rfl
  have hcleans : ∀ other : Move V D, other ≠ .leave → cleans s t other = false := by
    intro other ho
    cases other <;> first | exact hclean | exact absurd rfl ho
  have stay : PlaceStep (s.points t) (s.frames t) false (place s t) := .work _ _ hclean hclean
  have go : ∀ q : Point D, q.isCleaning = false →
      PlaceStep (s.points t) (s.frames t) false (place (s.goto t q) t) := by
    intro q hq
    have := PlaceStep.work (s.frames t) q hclean hq
    simpa using this
  cases move with
  | create out d =>
    rw [hcleans _ (by simp)]
    cases out with
    | false => exact stay
    | true => exact go _ rfl
  | delete key =>
    rw [hcleans _ (by simp)]
    cases hk : decodeKey key with
    | none => simpa [call, hk] using stay
    | some i => simpa [call, hk] using go (.deleteLock i) rfl
  | get key =>
    rw [hcleans _ (by simp)]
    cases hk : decodeKey key with
    | none => simpa [call, get, hk] using stay
    | some i =>
      simp only [call, get, hk]
      split
      · exact stay
      · simpa using stay
  | set key value =>
    rw [hcleans _ (by simp)]
    cases hk : decodeKey key with
    | none => simpa [call, set, hk] using stay
    | some i =>
      simp only [call, set, hk]
      split
      · exact stay
      · simpa using stay
  | exit =>
    rw [hcleans _ (by simp)]
    cases hf : s.frames t with
    | none =>
      have := PlaceStep.exit hclean
      simpa [call, hf] using this
    | some frame => simpa [call, hf] using stay
  | leave =>
    cases hf : s.frames t with
    | none => simpa [cleans, hclean, call, hf] using stay
    | some frame =>
      have := PlaceStep.leave frame hguest
      simpa [cleans, hguest, call, hf] using this
  | go =>
    rw [hcleans _ (by simp)]
    exact stay

theorem advance_work (hc : (s.points t).isCleaning = false) :
    PlaceStep (s.points t) (s.frames t) false (place (advance s t (s.points t)).1 t) := by
  have stay : PlaceStep (s.points t) (s.frames t) false (place s t) := .work _ _ hc hc
  have go : ∀ q : Point D, q.isCleaning = false → PlaceStep (s.points t) (s.frames t) false (q, s.frames t) :=
    fun q hq => .work _ q hc hq
  cases hp : s.points t with
  | guest => simpa [advance, hp] using stay
  | createLock d =>
    simp only [advance, lock]
    split
    · simpa [hp] using go (.createScan d 0) rfl
    · simpa [hp] using stay
  | createScan d i =>
    simp only [advance, createScan]
    split_ifs with hi
    · simpa [hp] using go (.createScan d (i + 1)) rfl
    · simpa [hp] using go (.createDestructor d ⟨i, hi⟩ _) rfl
    · simpa [hp] using go .unlock rfl
  | createDestructor d i n => simpa [advance, hp] using go (.createPublish d i n) rfl
  | createPublish d i n | deleteClear i => simpa [advance, hp] using go .unlock rfl
  | deleteLock i =>
    simp only [advance, lock]
    split
    · simpa [hp] using go (.deleteLoad i) rfl
    · simpa [hp] using stay
  | deleteLoad i =>
    simp only [advance, deleteLoad]
    split_ifs
    · simpa [hp] using go .unlock rfl
    · simpa [hp] using go (.deleteStore i _) rfl
  | deleteStore i n => simpa [advance, hp] using go (.deleteClear i) rfl
  | unlock => simpa [advance, hp] using go .guest rfl
  | cleanSlot | cleanDestructor i n | cleanConfirm i n d => rw [hp] at hc; cases hc

/-- `Clean` itself. -/
theorem advance_clean (h : FramesOk s) (hc : (s.points t).isCleaning = true) :
    PlaceStep (s.points t) (s.frames t) true (place (advance s t (s.points t)).1 t) := by
  have hok := h t
  cases hf : s.frames t with
  | none =>
    rw [hf] at hok
    rw [hok] at hc
    cases hc
  | some frame =>
    rw [hf] at hok
    cases hp : s.points t with
    | cleanSlot =>
      simp only [advance, hf, cleanSlot]
      split_ifs with hi _ hlast
      · simpa [hp] using PlaceStep.next frame frame.called .cleanSlot rfl hi (.inl rfl)
      · simpa [hf] using PlaceStep.look frame hi _ rfl
      · simpa using PlaceStep.done frame rfl
      · simp only [Bool.or_eq_true, decide_eq_true_eq, not_or] at hlast
        simpa [hp] using PlaceStep.round frame rfl (by omega) hlast.2
    | cleanDestructor i n => simpa [advance, hf] using PlaceStep.read frame i n _ rfl
    | cleanConfirm i n d =>
      rw [hp] at hok
      have hi : frame.index < kBionicPthreadKeyCount := hok.2.2 ▸ i.isLt
      have skip : PlaceStep (.cleanConfirm i n d) (some frame) true
          (.cleanSlot, some { frame with index := frame.index + 1 }) :=
        .next frame frame.called .cleanSlot rfl hi (.inl rfl)
      cases d with
      | none => simpa [advance, hf, cleanConfirm] using skip
      | some d =>
        simp only [advance, hf, cleanConfirm]
        split_ifs
        · simpa using skip
        · simpa using PlaceStep.next frame (frame.called + 1) .guest (p := .cleanConfirm i n (some d)) rfl hi (.inr rfl)
    | _ => rw [hp] at hc; cases hc

theorem step_place (h : FramesOk s) (move : Move V D) :
    PlaceStep (s.points t) (s.frames t) (cleans s t move) (place (step s (t, move)).1 t) := by
  change PlaceStep _ _ _ (place (if (s.points t).isGuest then call s t move else advance s t (s.points t)).1 t)
  by_cases hg : (s.points t).isGuest = true
  · rw [if_pos hg]
    exact call_place move (isGuest_iff.mp hg)
  · rw [if_neg hg]
    have hcleans : cleans s t move = (s.points t).isCleaning := by cases move <;> simp [cleans, hg]
    rw [hcleans]
    cases hc : (s.points t).isCleaning with
    | false => exact advance_work hc
    | true => exact advance_clean h hc

variable {next : Point D × Option Frame}

theorem PlaceStep.frameOk {frame : Option Frame} {b : Bool}
    (h : PlaceStep p frame b next) (hok : FrameOk p frame) : FrameOk next.1 next.2 := by
  cases h with
  | work _ q hp hq =>
    cases frame with
    | none => exact hq
    | some frame =>
      refine ⟨hok.1, hok.2.1, ?_⟩
      cases q <;> trivial
  | exit _ => exact ⟨by decide, by decide, trivial⟩
  | leave frame _ => exact ⟨hok.1, hok.2.1, trivial⟩
  | look frame hi n _ => exact ⟨hok.1, hok.2.1, rfl⟩
  | read frame i n d hp =>
    subst hp
    exact hok
  | next frame called q _ hi hq =>
    refine ⟨hok.1, hi, ?_⟩
    rcases hq with rfl | rfl <;> trivial
  | round frame _ _ hround =>
    have := hok.1
    exact ⟨by dsimp only; omega, Nat.zero_le _, trivial⟩
  | done frame _ => rfl

theorem step_framesOk (h : FramesOk s) (e : T × Move V D) : FramesOk (step s e).1 := by
  obtain ⟨t, move⟩ := e
  intro u
  by_cases hut : u = t
  · subst hut
    exact (step_place h move).frameOk (h u)
  · have hplace := place_other (s := s) hut move
    have hpoint := congrArg Prod.fst hplace
    have hframe := congrArg Prod.snd hplace
    simp only [place] at hpoint hframe
    rw [hpoint, hframe]
    exact h u

/-! ## Runs -/

theorem advance_inv (h : Inv s trace) (hf : FramesOk s) (t : T) :
    Inv (advance s t (s.points t)).1 (trace ++ (advance s t (s.points t)).2) := by
  cases hp : s.points t with
  | guest => simpa [advance] using h
  | createLock d => simpa [advance] using lock_inv (p := .createScan d 0) h trivial
  | createScan d i => exact createScan_inv h hp
  | createDestructor d i n => simpa [advance] using createDestructor_inv h hp
  | createPublish d i n => exact createPublish_inv h hp
  | deleteLock i => simpa [advance] using lock_inv (p := .deleteLoad i) h trivial
  | deleteLoad i => exact deleteLoad_inv h hp
  | deleteStore i n => exact deleteStore_inv h hp
  | deleteClear i => simpa [advance] using deleteClear_inv h hp
  | unlock => simpa [advance] using unlock_inv h hp
  | cleanSlot =>
    cases hframe : s.frames t with
    | none => simpa [advance, hframe] using h
    | some frame =>
      have hok := hf t
      rw [hframe] at hok
      simpa only [advance, hframe] using cleanSlot_inv h hok.1
  | cleanDestructor i n =>
    have hl := h.locals t
    rw [hp] at hl
    have hgoto := goto_inv (t := t) (p := .cleanConfirm i n (s.slots i).destructor) h
      ⟨hl.1, hl.2.1, hl.2.2, fun _ => rfl⟩ (fun hc => hc.elim)
    simpa [advance] using hgoto
  | cleanConfirm i n d =>
    cases hframe : s.frames t with
    | none => simpa [advance, hframe] using h
    | some frame => simpa only [advance, hframe] using cleanConfirm_inv h hp

theorem call_inv (h : Inv s trace) (move : Move V D)
    (hp : s.points t = .guest) : Inv (call s t move).1 (trace ++ (call s t move).2) := by
  cases move with
  | create out d =>
    cases out with
    | false => exact h.failed t .einval
    | true => simpa [call] using goto_inv (t := t) (p := .createLock d) h trivial (fun hc => hc.elim)
  | delete key =>
    cases hk : decodeKey key with
    | none => simpa [call, hk] using h.failed t .einval
    | some i => simpa [call, hk] using goto_inv (t := t) (p := .deleteLock i) h trivial (fun hc => hc.elim)
  | get key => exact get_inv h hp
  | set key value => exact set_inv h hp
  | exit =>
    simp only [call]
    split
    · simpa using framed_inv (t := t) (p := .cleanSlot) h (some { round := 0, index := 0, called := 0 }) trivial id
    · simpa using h
  | leave =>
    simp only [call]
    split
    · simpa using goto_inv (t := t) (p := .cleanSlot) h trivial (fun hc => hc.elim)
    · simpa using h
  | go => simpa [call] using h

theorem step_inv (h : Inv s trace) (hf : FramesOk s)
    (e : T × Move V D) : Inv (step s e).1 (trace ++ (step s e).2) := by
  obtain ⟨t, move⟩ := e
  change Inv (if (s.points t).isGuest then call s t move else advance s t (s.points t)).1
    (trace ++ (if (s.points t).isGuest then call s t move else advance s t (s.points t)).2)
  split
  · rename_i hg
    exact call_inv h move (isGuest_iff.mp hg)
  · exact advance_inv h hf t

theorem inv_run (moves : List (T × Move V D)) :
    Inv ((machine T V D).run State.init moves).1 ((machine T V D).run State.init moves).2 ∧
      FramesOk ((machine T V D).run State.init moves).1 :=
  (machine T V D).run_induct (I := fun s trace => Inv s trace ∧ FramesOk s) ⟨init_inv, fun _ => rfl⟩
    (fun _ _ e h => ⟨step_inv h.1 h.2 e, step_framesOk h.2 e⟩) moves

/-- The steps of a cleaning come nearer to its end. -/
theorem PlaceStep.nearer {frame : Option Frame}
    (h : PlaceStep p frame true next) (hok : FrameOk p frame) : left next.1 next.2 < left p frame := by
  cases h with
  | leave frame hp =>
    rw [isGuest_iff] at hp
    subst hp
    simp only [left, phase]
    omega
  | look frame hi n hp | read frame i n d hp =>
    subst hp
    simp only [left, phase]
    omega
  | next frame called q _ hi hq =>
    have hq : phase q ≤ 3 := by rcases hq with rfl | rfl <;> simp [phase]
    simp only [left, kBionicPthreadKeyCount] at hi ⊢
    omega
  | round frame hp hi hround =>
    have hlt := hok.1
    subst hp
    simp only [left, phase, kBionicPthreadKeyCount, kBionicDestructorIterations] at hi hround hlt ⊢
    omega
  | done frame hp => simp [left]

theorem PlaceStep.same (h : PlaceStep p (some frame) false next) : left next.1 next.2 = left p (some frame) := by
  cases h with
  | work _ q hp hq =>
    have hphase : ∀ r : Point D, r.isCleaning = false → phase r = 3 := by
      intro r hr
      cases r <;> first | rfl | cases hr
    simp only [left, hphase p hp, hphase q hq]

theorem cleaning_advances (h : FramesOk s) (t u : T) (move : Move V D) :
    remaining (step s (u, move)).1 t < remaining s t ∧ u = t ∧ cleans s t move = true ∨
      ¬ (u = t ∧ cleans s t move = true) ∧
        (s.frames t ≠ none → remaining (step s (u, move)).1 t = remaining s t) := by
  by_cases hut : u = t
  · subst hut
    have hplace := step_place (t := u) h move
    cases hc : cleans s u move with
    | true =>
      rw [hc] at hplace
      exact .inl ⟨hplace.nearer (h u), rfl, rfl⟩
    | false =>
      rw [hc] at hplace
      refine .inr ⟨by simp, ?_⟩
      intro hf
      cases hframe : s.frames u with
      | none => exact absurd hframe hf
      | some frame =>
        rw [hframe] at hplace
        have hsame := hplace.same
        rw [← hframe] at hsame
        exact hsame
  · have hplace := place_other (s := s) (fun he => hut he.symm) move (u := t)
    refine .inr ⟨fun hc => hut hc.1, fun _ => ?_⟩
    unfold remaining
    have hpoint := congrArg Prod.fst hplace
    have hframe := congrArg Prod.snd hplace
    simp only [place] at hpoint hframe
    rw [hpoint, hframe]

/-- The destructor is called with the value already cleared. -/
theorem took_cleared {e : T × Move V D} {d : D} (h : .took t i n value d ∈ (step s e).2) :
    ((step s e).1.values t i).value = none ∧ value = (s.values t i).value := by
  obtain ⟨u, move⟩ := e
  change .took t i n value d ∈ (if (s.points u).isGuest then call s u move else advance s u (s.points u)).2 at h
  change (((if (s.points u).isGuest then call s u move else advance s u (s.points u)).1).values t i).value = none ∧ _
  split at h
  · cases move with
    | create out d => cases out <;> simp [call] at h
    | delete key => cases hk : decodeKey key <;> simp [call, hk] at h
    | get key =>
      cases hk : decodeKey key with
      | none => simp [call, get, hk] at h
      | some i =>
        simp only [call, get, hk] at h
        split at h <;> simp at h
    | set key value =>
      cases hk : decodeKey key with
      | none => simp [call, set, hk] at h
      | some i =>
        simp only [call, set, hk] at h
        split at h <;> simp at h
    | exit | leave =>
      simp only [call] at h
      split at h <;> simp at h
    | go => simp [call] at h
  · rename_i hg
    rw [if_neg hg]
    cases hp : s.points u with
    | createScan d i =>
      simp only [hp, advance, createScan] at h
      split_ifs at h <;> simp at h
    | deleteLoad i =>
      simp only [hp, advance, deleteLoad] at h
      split_ifs at h <;> simp at h
    | cleanSlot =>
      cases hf : s.frames u with
      | none => simp [hp, advance, hf] at h
      | some frame =>
        simp only [hp, advance, hf, cleanSlot] at h
        split_ifs at h <;> simp at h
    | cleanConfirm j m e =>
      cases hf : s.frames u with
      | none => simp [hp, advance, hf] at h
      | some frame =>
        cases e with
        | none => simp [hp, advance, hf, cleanConfirm] at h
        | some e =>
          simp only [hp, advance, hf, cleanConfirm] at h ⊢
          split_ifs at h with hm
          · simp at h
          · obtain ⟨rfl, rfl, -, rfl, -⟩ : t = u ∧ i = j ∧ n = m ∧ value = (s.values u j).value ∧ d = e := by
              simpa using h
            rw [if_neg hm]
            simp
    | _ => simp [hp, advance] at h

/-! ## What the keys promise -/

structure KeysSound (s : State T V D) (trace : List (Observation T V D)) : Prop where
  allowed : Always Allowed trace
  /-- A destructor is called with the thread's value, which is cleared by then. -/
  cleared : ∀ e t i n value d, .took t i n value d ∈ (step s e).2 →
    ((step s e).1.values t i).value = none ∧ value = (s.values t i).value
  bounded : ∀ t, remaining s t ≤ 2096
  /-- Every step of a thread's cleaning comes nearer to its end, and no other step of anybody
      takes it further away. -/
  advances : ∀ t u move, remaining (step s (u, move)).1 t < remaining s t ∧ u = t ∧ cleans s t move = true ∨
    ¬ (u = t ∧ cleans s t move = true) ∧ (s.frames t ≠ none → remaining (step s (u, move)).1 t = remaining s t)

theorem keys_sound (moves : List (T × Move V D)) :
    KeysSound ((machine T V D).run State.init moves).1 ((machine T V D).run State.init moves).2 := by
  obtain ⟨hinv, hframes⟩ := inv_run moves
  exact ⟨hinv.allowed, fun _ _ _ _ _ _ h => took_cleared h, remaining_le _, cleaning_advances hframes⟩

end

end Mocktail.Bionic.PthreadKeys
