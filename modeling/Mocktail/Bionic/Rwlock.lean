/-
  Mocktail.Bionic.Rwlock — the guest's read-write locks (`bionic_rwlock_runtime.cc`).

  The state word has the writer's ownership in bit 31, the number of readers in bits 30 to 2
  and a flag each for pending writers and readers below. A second word records the writer's
  thread id. A thread is named by what `gettid` returns for it: a number of its own, never 0.
  One step of the machine is one atomic operation of one thread, together with the tests the
  code makes before its next one; a call begins with its first atomic operation. A
  compare-exchange may fail spuriously and a parked thread may wake on its own.

  `readers` and `writers` are not in the program: they list who has acquired the lock and not
  yet released it, a thread once for each of its read holds. A hold begins with the
  compare-exchange that takes the lock and ends with the operation that gives it back.

  Proved, for the runs in which only holders unlock, or others while somebody else writes:
  - `inv_run`: the word is the writers and readers there are, at most one writer and never
    with readers, and the recorded id is 0 or the writer's.
  - `rwlock_sound`: exclusion, the reader count, refused unlocks, no lost wake-up.
-/

import Mathlib.Data.List.Basic
import Mathlib.Data.Nat.Bitwise
import Mocktail.Bionic.Semaphore

namespace Mocktail.Bionic.Rwlock

open Mocktail.Lib

/-! ## The state word -/

def kRwlockWriterFlag : BitVec 32 := 1#32 <<< 31
def kRwlockPendingWritersFlag : BitVec 32 := 1#32 <<< 1
def kRwlockPendingReadersFlag : BitVec 32 := 1#32 <<< 0
def kRwlockReaderStep : BitVec 32 := 1#32 <<< 2

def ownedByWriter (state : BitVec 32) : Bool := state.toInt < 0

def ownedByReaders (state : BitVec 32) : Bool := state.toInt ≥ kRwlockReaderStep.toInt

/-- Bits 30 to 2. -/
def readerCount (state : BitVec 32) : Nat := state.toNat % 2 ^ 31 / 4

/-! ## Threads -/

structure Thread where
  tid : BitVec 32
  named : tid ≠ 0#32
  deriving DecidableEq

inductive Mode where
  | read
  | write
  deriving DecidableEq, Repr

/-- Where a thread is in `rdlock`, `wrlock` or `unlock`; `first` marks the attempt before the
    loop. -/
inductive Point where
  | idle
  /-- `TryRdlock` or `TryWrlock` before its load. -/
  | attempt (mode : Mode) (first : Bool)
  /-- The same with `old_state` in hand, before the compare-exchange. -/
  | exchange (mode : Mode) (first : Bool) (old : BitVec 32)
  /-- `TryWrlock` owns the lock and has still to record itself. -/
  | record
  | reload (mode : Mode)
  /-- Before the compare-exchange that sets the pending flag. -/
  | pend (mode : Mode) (old : BitVec 32)
  | futexWait (mode : Mode) (pending : BitVec 32)
  | parked (mode : Mode)
  /-- `unlock` of a lock that a writer owns, before it looks who. -/
  | checkWriter
  | clearWriter
  | releaseWrite
  | releaseRead
  | futexWake
  deriving DecidableEq, Repr

inductive Move where
  | rdlock
  | wrlock
  | unlock
  /-- The thread's next atomic operation. -/
  | go
  /-- Its compare-exchange fails, or its futex wait ends, for no reason. -/
  | spurious
  deriving DecidableEq, Repr

/-- A call has returned: `none` is 0. -/
structure Returned where
  thread : Thread
  result : Option Errno
  deriving DecidableEq

structure Lock where
  state : BitVec 32
  writerTid : BitVec 32
  points : Thread → Point
  readers : List Thread
  writers : List Thread

/-- A lock after `pthread_rwlock_init`, or zero-initialised. -/
def Lock.init : Lock := { state := 0#32, writerTid := 0#32, points := fun _ => .idle, readers := [], writers := [] }

def parking : Parking Point where
  resume
    | .parked mode => some (.attempt mode false)
    | _ => none
  wakes
    | .futexWake => true
    | _ => false
  awake p q h := by
    cases p <;> simp at h
    subst h
    rfl

def Lock.goto (s : Lock) (t : Thread) (p : Point) : Lock := { s with points := Function.update s.points t p }

/-! ## The calls -/

def Lock.returns (s : Lock) (t : Thread) (result : Option Errno) : Lock × List Returned :=
  (s.goto t .idle, [⟨t, result⟩])

/-- After EBUSY: the loop comes after the first attempt, the pending flag after the others. -/
def busy (mode : Mode) (first : Bool) : Point := if first then .attempt mode false else .reload mode

/-- One round of the loop of `TryRdlock`, and what `rdlock` does with its result. -/
def tryRdlock (s : Lock) (t : Thread) (first : Bool) (old : BitVec 32) (succeeds : Bool) : Lock × List Returned :=
  if ownedByWriter old then (s.goto t (busy .read first), [])
  else
    let new := old + kRwlockReaderStep
    if !ownedByReaders new then
      if first then (s.goto t (.attempt .read false), []) else s.returns t (some .eagain)
    else if succeeds && s.state == old then { s with state := new, readers := t :: s.readers }.returns t none
    else (s.goto t (.exchange .read first s.state), [])

/-- One round of the loop of `TryWrlock`. -/
def tryWrlock (s : Lock) (t : Thread) (first : Bool) (old : BitVec 32) (succeeds : Bool) : Lock × List Returned :=
  if !ownedByWriter old && !ownedByReaders old then
    if succeeds && s.state == old then
      ({ s with state := old ||| kRwlockWriterFlag, writers := t :: s.writers }.goto t .record, [])
    else (s.goto t (.exchange .write first s.state), [])
  else (s.goto t (busy .write first), [])

/-- What keeps the mode's callers out. -/
def blocks : Mode → BitVec 32 → Bool
  | .read, state => ownedByWriter state
  | .write, state => ownedByWriter state || ownedByReaders state

def pendingFlag : Mode → BitVec 32
  | .read => kRwlockPendingReadersFlag
  | .write => kRwlockPendingWritersFlag

/-- The compare-exchange that sets the pending flag. -/
def setPending (s : Lock) (t : Thread) (mode : Mode) (old : BitVec 32) (succeeds : Bool) : Lock :=
  if succeeds && s.state == old then
    { s with state := old ||| pendingFlag mode }.goto t (.futexWait mode (old ||| pendingFlag mode))
  else s.goto t (.attempt mode false)

/-- The reader's `fetch_sub`: the last reader wakes. -/
def releaseRead (s : Lock) (t : Thread) : Lock × List Returned :=
  let old := s.state
  let s := { s with state := old - kRwlockReaderStep, readers := s.readers.erase t }
  if old.sshiftRight 2 ≠ 1#32 then s.returns t none else (s.goto t .futexWake, [])

/-- The load and the test of `unlock`. -/
def unlock (s : Lock) (t : Thread) : Lock × List Returned :=
  if ownedByWriter s.state then (s.goto t .checkWriter, [])
  else if ownedByReaders s.state then (s.goto t .releaseRead, [])
  else s.returns t (some .eperm)

/-- The atomic operation a thread is at. -/
def advance (s : Lock) (t : Thread) : Point → Lock × List Returned
  | .idle => (s, [])
  | .attempt mode first => (s.goto t (.exchange mode first s.state), [])
  | .exchange .read first old => tryRdlock s t first old true
  | .exchange .write first old => tryWrlock s t first old true
  | .record => { s with writerTid := t.tid }.returns t none
  | .reload mode => (s.goto t (if blocks mode s.state then .pend mode s.state else .attempt mode false), [])
  | .pend mode old => (setPending s t mode old true, [])
  | .futexWait mode pending => (s.goto t (if s.state = pending then .parked mode else .attempt mode false), [])
  | .parked _ => (s, [])
  | .checkWriter => if s.writerTid ≠ t.tid then s.returns t (some .eperm) else (s.goto t .clearWriter, [])
  | .clearWriter => ({ s with writerTid := 0#32 }.goto t .releaseWrite, [])
  | .releaseWrite =>
    ({ s with state := s.state &&& ~~~kRwlockWriterFlag, writers := s.writers.erase t }.goto t .futexWake, [])
  | .releaseRead => releaseRead s t
  | .futexWake => { s with points := parking.unparkAll s.points }.returns t none

/-- The same where the compare-exchange fails, or the wait ends, for no reason. -/
def stumble (s : Lock) (t : Thread) : Point → Lock × List Returned
  | .exchange .read first old => tryRdlock s t first old false
  | .exchange .write first old => tryWrlock s t first old false
  | .pend mode old => (setPending s t mode old false, [])
  | .futexWait mode _ => (s.goto t (.attempt mode false), [])
  | .parked mode => (s.goto t (.attempt mode false), [])
  | _ => (s, [])

/-- The first atomic operation of a call. -/
def call (s : Lock) (t : Thread) : Move → Lock × List Returned
  | .rdlock => (s.goto t (.exchange .read true s.state), [])
  | .wrlock => if s.writerTid = t.tid then s.returns t (some .edeadlk) else (s.goto t (.attempt .write true), [])
  | .unlock => unlock s t
  | _ => (s, [])

def step (s : Lock) : Thread × Move → Lock × List Returned
  | (t, .go) => advance s t (s.points t)
  | (t, .spurious) => stumble s t (s.points t)
  | (t, move) => if s.points t = .idle then call s t move else (s, [])

def machine : Machine Lock (Thread × Move) Returned where
  step := step

/-! ## The word -/

variable {state : BitVec 32}

theorem ownedByWriter_iff : ownedByWriter state = true ↔ 2 ^ 31 ≤ state.toNat := by
  have h := state.isLt
  simp only [ownedByWriter, decide_eq_true_eq, BitVec.toInt_eq_toNat_cond]
  split <;> omega

theorem ownedByReaders_iff :
    ownedByReaders state = true ↔ 4 ≤ state.toNat ∧ state.toNat < 2 ^ 31 := by
  have h := state.isLt
  have hstep : kRwlockReaderStep.toInt = 4 := by decide
  simp only [ownedByReaders, hstep, ge_iff_le, decide_eq_true_eq, BitVec.toInt_eq_toNat_cond]
  split <;> omega

/-- Somebody holds the lock. -/
def Owned (state : BitVec 32) : Prop := blocks .write state = true

theorem owned_iff : Owned state ↔ 4 ≤ state.toNat := by
  simp only [Owned, blocks, Bool.or_eq_true, ownedByWriter_iff, ownedByReaders_iff]
  omega

variable {mode : Mode}

theorem owned_of_blocks (h : blocks mode state = true) : Owned state := by
  cases mode with
  | read => simp_all [Owned, blocks]
  | write => exact h

theorem pending_div (mode : Mode) (state : BitVec 32) : (state ||| pendingFlag mode).toNat / 4 = state.toNat / 4 := by
  have h : ∀ flag, flag < 4 → (state.toNat ||| flag) / 4 = state.toNat / 4 := by
    intro flag hflag
    have hdiv := Nat.shiftRight_or_distrib (a := state.toNat) (b := flag) (i := 2)
    simp only [Nat.shiftRight_eq_div_pow] at hdiv
    rw [hdiv, Nat.div_eq_of_lt hflag, Nat.or_zero]
  rw [BitVec.toNat_or]
  cases mode with
  | read => exact h 1 (by decide)
  | write => exact h 2 (by decide)

theorem owned_pending (h : Owned state) : Owned (state ||| pendingFlag mode) := by
  have hdiv := pending_div mode state
  rw [owned_iff] at h ⊢
  omega

theorem writerFlag_toNat (h : state.toNat < 4) :
    (state ||| kRwlockWriterFlag).toNat = 2 ^ 31 + state.toNat := by
  have hflag : kRwlockWriterFlag.toNat = 2 ^ 31 := by decide
  have hor := Nat.two_pow_add_eq_or_of_lt (show state.toNat < 2 ^ 31 by omega) 1
  rw [BitVec.toNat_or, hflag, Nat.or_comm]
  simpa using hor.symm

theorem release_toNat (state : BitVec 32) : (state &&& ~~~kRwlockWriterFlag).toNat = state.toNat % 2 ^ 31 := by
  have hmask : (~~~kRwlockWriterFlag).toNat = 2 ^ 31 - 1 := by decide
  rw [BitVec.toNat_and, hmask, Nat.and_two_pow_sub_one_eq_mod]

theorem step_toNat : kRwlockReaderStep.toNat = 4 := by decide

theorem lastReader_iff (h : state.toNat < 2 ^ 31) :
    state.sshiftRight 2 = 1#32 ↔ state.toNat / 4 = 1 := by
  have hmsb : state.msb = false := by
    rw [BitVec.msb_eq_false_iff_two_mul_lt]
    omega
  rw [BitVec.sshiftRight_eq_of_msb_false hmsb, ← BitVec.toNat_inj]
  simp [Nat.shiftRight_eq_div_pow]

/-! ## What a step does -/

/-- Points that promise nothing about the holders. -/
def Point.Calm : Point → Prop
  | .idle => True
  | .attempt _ _ => True
  | .exchange _ _ _ => True
  | .reload _ => True
  | .pend _ old => Owned old
  | .checkWriter => True
  | _ => False

/-- Everything a step of a thread can do to the lock. -/
inductive Effect (s : Lock) (t : Thread) : Lock → Prop where
  | none : Effect s t s
  | walk (p : Point) : p.Calm → s.points t ≠ .futexWake → Effect s t (s.goto t p)
  | park (mode : Mode) (pending : BitVec 32) : s.points t = .futexWait mode pending → s.state = pending →
      Effect s t (s.goto t (.parked mode))
  | share : ownedByWriter s.state = false → ownedByReaders (s.state + kRwlockReaderStep) = true →
      Effect s t ({ s with state := s.state + kRwlockReaderStep, readers := t :: s.readers }.goto t .idle)
  | own : ¬ Owned s.state →
      Effect s t ({ s with state := s.state ||| kRwlockWriterFlag, writers := t :: s.writers }.goto t .record)
  | record : s.points t = .record → Effect s t ({ s with writerTid := t.tid }.goto t .idle)
  | pend (mode : Mode) : s.points t = .pend mode s.state →
      Effect s t ({ s with state := s.state ||| pendingFlag mode }.goto t (.futexWait mode (s.state ||| pendingFlag mode)))
  | check : s.points t = .checkWriter → s.writerTid = t.tid → Effect s t (s.goto t .clearWriter)
  | clear : s.points t = .clearWriter → Effect s t ({ s with writerTid := 0#32 }.goto t .releaseWrite)
  | releaseWrite : s.points t = .releaseWrite →
      Effect s t ({ s with state := s.state &&& ~~~kRwlockWriterFlag, writers := s.writers.erase t }.goto t .futexWake)
  | enter : s.points t = .idle → ownedByWriter s.state = false → ownedByReaders s.state = true →
      Effect s t (s.goto t .releaseRead)
  | releaseRead : s.points t = .releaseRead →
      Effect s t ({ s with state := s.state - kRwlockReaderStep, readers := s.readers.erase t }.goto t
        (if s.state.sshiftRight 2 ≠ 1#32 then .idle else .futexWake))
  | wake : s.points t = .futexWake → Effect s t ({ s with points := parking.unparkAll s.points }.goto t .idle)

theorem calm_busy (mode : Mode) (first : Bool) : (busy mode first).Calm := by cases first <;> trivial

variable {t : Thread} {s : Lock} {old : BitVec 32}

theorem tryRdlock_effect {first : Bool} (succeeds : Bool)
    (h : s.points t = .exchange .read first old) : Effect s t (tryRdlock s t first old succeeds).1 := by
  have hw : s.points t ≠ .futexWake := by simp [h]
  unfold tryRdlock
  dsimp only
  split
  · exact .walk _ (calm_busy _ _) hw
  · rename_i hwriter
    split
    · split
      · exact .walk _ trivial hw
      · exact .walk _ trivial hw
    · rename_i hreaders
      split
      · rename_i hcas
        obtain rfl : s.state = old := by simp at hcas; exact hcas.2
        exact .share (by simpa using hwriter) (by simpa using hreaders)
      · exact .walk _ trivial hw

theorem tryWrlock_effect {first : Bool} (succeeds : Bool)
    (h : s.points t = .exchange .write first old) : Effect s t (tryWrlock s t first old succeeds).1 := by
  have hw : s.points t ≠ .futexWake := by simp [h]
  unfold tryWrlock
  split
  · rename_i hfree
    split
    · rename_i hcas
      obtain rfl : s.state = old := by simp at hcas; exact hcas.2
      exact .own (by simpa [Owned, blocks] using hfree)
    · exact .walk _ trivial hw
  · exact .walk _ (calm_busy _ _) hw

theorem setPending_effect (succeeds : Bool)
    (h : s.points t = .pend mode old) : Effect s t (setPending s t mode old succeeds) := by
  unfold setPending
  split
  · rename_i hcas
    obtain rfl : s.state = old := by simp at hcas; exact hcas.2
    exact .pend mode h
  · exact .walk _ trivial (by simp [h])

theorem advance_effect (s : Lock) (t : Thread) : Effect s t (advance s t (s.points t)).1 := by
  cases hp : s.points t with
  | idle => exact .none
  | attempt mode first => exact .walk _ trivial (by simp [hp])
  | exchange mode first old =>
    cases mode with
    | read => exact tryRdlock_effect true hp
    | write => exact tryWrlock_effect true hp
  | record => exact .record hp
  | reload mode =>
    by_cases hb : blocks mode s.state = true
    · simp only [advance, hb, if_true]
      exact .walk _ (owned_of_blocks hb) (by simp [hp])
    · simp only [advance, hb]
      exact .walk _ trivial (by simp [hp])
  | pend mode old => exact setPending_effect true hp
  | futexWait mode pending =>
    by_cases hs : s.state = pending
    · simp only [advance, hs, if_true]
      exact .park mode pending hp hs
    · simp only [advance, hs, if_false]
      exact .walk _ trivial (by simp [hp])
  | parked mode => exact .none
  | checkWriter =>
    by_cases ht : s.writerTid = t.tid
    · simp only [advance, ht, ne_eq, not_true, if_false]
      exact .check hp ht
    · simp only [advance, ht, ne_eq, not_false_eq_true, if_true]
      exact .walk _ trivial (by simp [hp])
  | clearWriter => exact .clear hp
  | releaseWrite => exact .releaseWrite hp
  | releaseRead =>
    have he := Effect.releaseRead hp
    by_cases hl : s.state.sshiftRight 2 ≠ 1#32
    · rw [if_pos hl] at he
      simp only [advance, releaseRead, if_pos hl]
      exact he
    · rw [if_neg hl] at he
      simp only [advance, releaseRead, if_neg hl]
      exact he
  | futexWake => exact .wake hp

theorem stumble_effect (s : Lock) (t : Thread) : Effect s t (stumble s t (s.points t)).1 := by
  cases hp : s.points t with
  | exchange mode first old =>
    cases mode with
    | read => exact tryRdlock_effect false hp
    | write => exact tryWrlock_effect false hp
  | pend mode old => exact setPending_effect false hp
  | futexWait mode pending => exact .walk _ trivial (by simp [hp])
  | parked mode => exact .walk _ trivial (by simp [hp])
  | _ => exact .none

theorem unlock_effect (hp : s.points t = .idle) : Effect s t (unlock s t).1 := by
  have hw : s.points t ≠ .futexWake := by simp [hp]
  unfold unlock
  split
  · exact .walk _ trivial hw
  · rename_i hwriter
    split
    · rename_i hreaders
      exact .enter hp (by simpa using hwriter) hreaders
    · exact .walk _ trivial hw

theorem call_effect (move : Move) (hp : s.points t = .idle) :
    Effect s t (call s t move).1 := by
  have hw : s.points t ≠ .futexWake := by simp [hp]
  cases move with
  | rdlock => exact .walk _ trivial hw
  | wrlock =>
    simp only [call]
    split
    · exact .walk _ trivial hw
    · exact .walk _ trivial hw
  | unlock => exact unlock_effect hp
  | go => exact .none
  | spurious => exact .none

theorem step_effect (s : Lock) (t : Thread) (move : Move) : Effect s t (step s (t, move)).1 := by
  have hcall : Effect s t (if s.points t = .idle then call s t move else (s, [])).1 := by
    split
    · rename_i hp
      exact call_effect move hp
    · exact .none
  cases move with
  | go => exact advance_effect s t
  | spurious => exact stumble_effect s t
  | rdlock => exact hcall
  | wrlock => exact hcall
  | unlock => exact hcall

/-! ## The invariant -/

/-- What a thread's point says about the holders and about the words it has in hand. -/
def Local (s : Lock) (t : Thread) : Point → Prop
  | .record => t ∈ s.writers
  | .clearWriter => t ∈ s.writers
  | .releaseWrite => t ∈ s.writers ∧ s.writerTid = 0#32
  | .releaseRead => t ∈ s.readers
  | .pend _ old => Owned old
  | .futexWait _ pending => Owned pending
  | _ => True

structure Inv (s : Lock) : Prop where
  word : s.state.toNat / 4 = 2 ^ 29 * s.writers.length + s.readers.length
  few : s.readers.length < 2 ^ 29
  exclusive : s.writers = [] ∨ ∃ w, s.writers = [w] ∧ s.readers = []
  recorded : s.writerTid = 0#32 ∨ ∃ w ∈ s.writers, s.writerTid = w.tid
  locals : ∀ t, Local s t (s.points t)
  served : parking.Served s.points (Owned s.state)

/-- The others' holds after a step of `t`. -/
structure Keeps (s s' : Lock) (t : Thread) : Prop where
  readers : ∀ u ≠ t, u ∈ s.readers → u ∈ s'.readers
  writers : ∀ u ≠ t, u ∈ s.writers → u ∈ s'.writers
  cleared : ∀ u ≠ t, u ∈ s.writers → s.writerTid = 0#32 → s'.writerTid = 0#32

variable {p : Point}

theorem local_mono {s s' : Lock} {t u : Thread} (h : Local s u p) (hk : Keeps s s' t) (hu : u ≠ t) :
    Local s' u p := by
  cases p with
  | record => exact hk.writers u hu h
  | clearWriter => exact hk.writers u hu h
  | releaseWrite => exact ⟨hk.writers u hu h.1, hk.cleared u hu h.1 h.2⟩
  | releaseRead => exact hk.readers u hu h
  | _ => exact h

theorem local_calm (h : p.Calm) : Local s t p := by
  cases p <;> first | exact trivial | exact h | exact h.elim

theorem locals_goto {s s' : Lock} (h : Inv s) (hk : Keeps s s' t)
    (hp : s'.points = Function.update s.points t p) (ht : Local s' t p) (u : Thread) : Local s' u (s'.points u) := by
  rw [hp]
  by_cases hu : u = t
  · subst hu
    rwa [Function.update_self]
  · rw [Function.update_of_ne hu]
    exact local_mono (h.locals u) hk hu

theorem Inv.here (h : Inv s) (hp : s.points t = p) : Local s t p :=
  hp ▸ h.locals t

theorem Inv.free (h : Inv s) (hfree : ¬ Owned s.state) : s.writers = [] ∧ s.readers = [] := by
  have hword := h.word
  rw [owned_iff] at hfree
  constructor
  · apply List.eq_nil_of_length_eq_zero
    omega
  · apply List.eq_nil_of_length_eq_zero
    omega

theorem Inv.unwritten (h : Inv s) (hw : ownedByWriter s.state = false) : s.writers = [] := by
  have hword := h.word
  have hlt : ¬ 2 ^ 31 ≤ s.state.toNat := by
    rw [← ownedByWriter_iff, hw]
    decide
  apply List.eq_nil_of_length_eq_zero
  omega

theorem Inv.owner (h : Inv s) (ht : t ∈ s.writers) : s.writers = [t] ∧ s.readers = [] := by
  rcases h.exclusive with hnil | ⟨w, hw, hr⟩
  · simp [hnil] at ht
  · rw [hw, List.mem_singleton] at ht
    subst ht
    exact ⟨hw, hr⟩

theorem Inv.sharer (h : Inv s) (ht : t ∈ s.readers) : s.writers = [] := by
  rcases h.exclusive with hnil | ⟨w, hw, hr⟩
  · exact hnil
  · simp [hr] at ht

/-- A thread finds itself recorded only while it writes. -/
theorem Inv.recorded_self (h : Inv s) (ht : s.writerTid = t.tid) : t ∈ s.writers := by
  rcases h.recorded with hzero | ⟨w, hw, htid⟩
  · exact absurd (ht.symm.trans hzero) t.named
  · obtain rfl : w = t := by
      cases w
      cases t
      simp_all
    exact hw

theorem init_inv : Inv Lock.init := by
  refine ⟨rfl, by decide, .inl rfl, .inl rfl, fun _ => trivial, ?_⟩
  apply Parking.served_of_unparked
  intro t
  simp [Lock.init, Parking.Parked, parking]

theorem calm_unparked (h : p.Calm) : ¬ parking.Parked p := by
  cases p <;> simp_all [Point.Calm, Parking.Parked, parking]

theorem wakes_iff : parking.wakes p = true ↔ p = .futexWake := by
  cases p <;> simp [parking]

@[simp] theorem goto_state (s : Lock) (t : Thread) (p : Point) : (s.goto t p).state = s.state := rfl
@[simp] theorem goto_writerTid (s : Lock) (t : Thread) (p : Point) : (s.goto t p).writerTid = s.writerTid := rfl
@[simp] theorem goto_readers (s : Lock) (t : Thread) (p : Point) : (s.goto t p).readers = s.readers := rfl
@[simp] theorem goto_writers (s : Lock) (t : Thread) (p : Point) : (s.goto t p).writers = s.writers := rfl
@[simp] theorem goto_points (s : Lock) (t : Thread) (p : Point) : (s.goto t p).points = Function.update s.points t p := rfl

/-- A step that moves one thread and leaves the words and the holders alone. -/
theorem goto_inv (h : Inv s) (hl : Local s t p)
    (hp : ¬ parking.Parked p ∨ Owned s.state) (hw : s.points t ≠ .futexWake) : Inv (s.goto t p) := by
  refine ⟨h.word, h.few, h.exclusive, h.recorded,
    locals_goto h ⟨fun _ _ => id, fun _ _ => id, fun _ _ _ => id⟩ rfl ?_, ?_⟩
  · cases p <;> exact hl
  · rcases hp with hp | hown
    · exact Parking.served_update h.served id hp (fun hpt => absurd (wakes_iff.mp hpt) hw)
    · exact Parking.served_blocked hown

theorem share_inv (h : Inv s) (hw : ownedByWriter s.state = false)
    (hr : ownedByReaders (s.state + kRwlockReaderStep) = true) :
    Inv ({ s with state := s.state + kRwlockReaderStep, readers := t :: s.readers }.goto t .idle) := by
  have hnil := h.unwritten hw
  have hword := h.word
  have hfew := h.few
  have hlt : ¬ 2 ^ 31 ≤ s.state.toNat := by
    rw [← ownedByWriter_iff, hw]
    decide
  rw [ownedByReaders_iff] at hr
  have hadd : (s.state + kRwlockReaderStep).toNat = s.state.toNat + 4 := by
    rw [BitVec.toNat_add, step_toNat]
    omega
  rw [hnil, List.length_nil] at hword
  refine ⟨?_, ?_, .inl hnil, h.recorded, locals_goto h ⟨?_, fun _ _ => id, fun _ _ _ => id⟩ rfl trivial,
    Parking.served_blocked ?_⟩
  · simp only [goto_state, goto_writers, goto_readers, hadd, hnil, List.length_nil, List.length_cons]
    omega
  · simp only [goto_readers, List.length_cons]
    omega
  · intro u _ hu
    exact List.mem_cons_of_mem t hu
  · rw [owned_iff]
    exact hr.1

theorem own_inv (h : Inv s) (hfree : ¬ Owned s.state) :
    Inv ({ s with state := s.state ||| kRwlockWriterFlag, writers := t :: s.writers }.goto t .record) := by
  obtain ⟨hw, hr⟩ := h.free hfree
  rw [owned_iff] at hfree
  have hflag := @writerFlag_toNat s.state (by omega)
  refine ⟨?_, h.few, .inr ⟨t, by simp [hw], hr⟩, ?_,
    locals_goto h ⟨fun _ _ => id, ?_, fun _ _ _ => id⟩ rfl (List.mem_cons_self ..), Parking.served_blocked ?_⟩
  · have hword := h.word
    rw [hw, hr] at hword
    simp only [goto_state, goto_writers, goto_readers, hflag, hw, hr, List.length_nil, List.length_cons]
    omega
  · rcases h.recorded with hzero | ⟨w, hmem, -⟩
    · exact .inl hzero
    · simp [hw] at hmem
  · intro u _ hu
    exact List.mem_cons_of_mem t hu
  · rw [owned_iff]
    simp only [goto_state, hflag]
    omega

theorem record_inv (h : Inv s) (hp : s.points t = .record) :
    Inv ({ s with writerTid := t.tid }.goto t .idle) := by
  have ht : t ∈ s.writers := h.here hp
  refine ⟨h.word, h.few, h.exclusive, .inr ⟨t, ht, rfl⟩,
    locals_goto h ⟨fun _ _ => id, fun _ _ => id, ?_⟩ rfl trivial, ?_⟩
  · intro u hu hmem _
    rw [(h.owner ht).1, List.mem_singleton] at hmem
    exact absurd hmem hu
  · exact Parking.served_update h.served id (by decide) (fun hpt => by simp [hp, parking] at hpt)

theorem pend_inv (h : Inv s) (hp : s.points t = .pend mode s.state) :
    Inv ({ s with state := s.state ||| pendingFlag mode }.goto t (.futexWait mode (s.state ||| pendingFlag mode))) := by
  have hown : Owned (s.state ||| pendingFlag mode) := owned_pending (h.here hp)
  refine ⟨?_, h.few, h.exclusive, h.recorded,
    locals_goto h ⟨fun _ _ => id, fun _ _ => id, fun _ _ _ => id⟩ rfl hown, Parking.served_blocked hown⟩
  simp only [goto_state, goto_writers, goto_readers, pending_div]
  exact h.word

theorem clear_inv (h : Inv s) (hp : s.points t = .clearWriter) :
    Inv ({ s with writerTid := 0#32 }.goto t .releaseWrite) := by
  have ht : t ∈ s.writers := h.here hp
  refine ⟨h.word, h.few, h.exclusive, .inl rfl,
    locals_goto h ⟨fun _ _ => id, fun _ _ => id, fun _ _ _ _ => rfl⟩ rfl ⟨ht, rfl⟩, ?_⟩
  exact Parking.served_update h.served id (by decide) (fun hpt => by simp [hp, parking] at hpt)

theorem releaseWrite_inv (h : Inv s) (hp : s.points t = .releaseWrite) :
    Inv ({ s with state := s.state &&& ~~~kRwlockWriterFlag, writers := s.writers.erase t }.goto t .futexWake) := by
  obtain ⟨ht, hzero⟩ : t ∈ s.writers ∧ s.writerTid = 0#32 := h.here hp
  obtain ⟨hw, hr⟩ := h.owner ht
  have hnil : s.writers.erase t = [] := by simp [hw]
  have hword := h.word
  have hlt := s.state.isLt
  rw [hw, hr] at hword
  simp only [List.length_cons, List.length_nil] at hword
  refine ⟨?_, h.few, .inl hnil, .inl hzero,
    locals_goto h ⟨fun _ _ => id, ?_, fun _ _ _ => id⟩ rfl trivial, Parking.served_wakes rfl⟩
  · simp only [goto_state, goto_writers, goto_readers, release_toNat, hnil, hr, List.length_nil]
    omega
  · intro u hu hmem
    exact (List.mem_erase_of_ne hu).mpr hmem

theorem releaseRead_inv (h : Inv s) (hp : s.points t = .releaseRead) :
    Inv ({ s with state := s.state - kRwlockReaderStep, readers := s.readers.erase t }.goto t
      (if s.state.sshiftRight 2 ≠ 1#32 then .idle else .futexWake)) := by
  have ht : t ∈ s.readers := h.here hp
  have hnil := h.sharer ht
  have hlen := List.length_erase_of_mem ht
  have hpos := List.length_pos_of_mem ht
  have hword := h.word
  have hfew := h.few
  rw [hnil, List.length_nil] at hword
  have hsub : (s.state - kRwlockReaderStep).toNat = s.state.toNat - 4 := by
    rw [BitVec.toNat_sub, step_toNat]
    omega
  refine ⟨?_, ?_, .inl hnil, h.recorded, locals_goto h ⟨?_, fun _ _ => id, fun _ _ _ => id⟩ rfl ?_, ?_⟩
  · simp only [goto_state, goto_writers, goto_readers, hsub, hnil, hlen, List.length_nil]
    omega
  · simp only [goto_readers, hlen]
    omega
  · intro u hu hmem
    exact (List.mem_erase_of_ne hu).mpr hmem
  · split <;> trivial
  · by_cases hlast : s.state.sshiftRight 2 ≠ 1#32
    · -- not the last reader: the word stays owned
      have hone : s.state.toNat / 4 ≠ 1 := fun hone => hlast ((lastReader_iff (by omega)).mpr hone)
      apply Parking.served_blocked
      rw [owned_iff]
      simp only [goto_state, hsub]
      omega
    · rw [if_neg hlast]
      exact Parking.served_wakes rfl

theorem wake_inv (h : Inv s) :
    Inv ({ s with points := parking.unparkAll s.points }.goto t .idle) := by
  refine ⟨h.word, h.few, h.exclusive, h.recorded, ?_, Parking.served_of_unparked ?_⟩
  · intro u
    by_cases hu : u = t
    · subst hu
      simp only [goto_points, Function.update_self]
      trivial
    · have hl := h.locals u
      simp only [goto_points, Function.update_of_ne hu, Parking.unparkAll]
      cases hpoint : s.points u <;> simp only [hpoint] at hl <;> exact hl
  · intro u
    by_cases hu : u = t
    · subst hu
      simp [Parking.Parked, parking]
    · simpa [hu] using Parking.not_parked_unparkAll s.points u

/-! ## Runs -/

/-- Unlock is called by a holder, or while somebody else writes. -/
def UnlockAllowed (s : Lock) (t : Thread) (move : Move) : Prop :=
  move = .unlock → s.points t = .idle → t ∈ s.readers ∨ t ∈ s.writers ∨ ∃ u ∈ s.writers, u ≠ t

instance (s : Lock) (t : Thread) (move : Move) : Decidable (UnlockAllowed s t move) :=
  inferInstanceAs (Decidable (_ → _))

/-- Only `unlock` sets out to release a read hold. -/
theorem enter_unlock {move : Move} (hp : s.points t = .idle)
    (h : (step s (t, move)).1 = s.goto t .releaseRead) : move = .unlock := by
  have hpoint : (step s (t, move)).1.points t = .releaseRead := by simp [h]
  cases move with
  | unlock => rfl
  | go => simp [step, hp, advance] at hpoint
  | spurious => simp [step, hp, stumble] at hpoint
  | rdlock => simp [step, hp, call] at hpoint
  | wrlock =>
    simp only [step, hp, if_true, call] at hpoint
    split at hpoint <;> simp [Lock.returns] at hpoint

theorem effect_inv {s s' : Lock} (h : Inv s) (he : Effect s t s')
    (henter : s.points t = .idle → s' = s.goto t .releaseRead →
      t ∈ s.readers ∨ t ∈ s.writers ∨ ∃ u ∈ s.writers, u ≠ t) : Inv s' := by
  cases he with
  | none => exact h
  | walk p hp hw => exact goto_inv h (local_calm hp) (.inl (calm_unparked hp)) hw
  | park mode pending hp hs =>
    have hown : Owned pending := h.here hp
    exact goto_inv h trivial (.inr (hs ▸ hown)) (by simp [hp])
  | share hw hr => exact share_inv h hw hr
  | own hfree => exact own_inv h hfree
  | record hp => exact record_inv h hp
  | pend mode hp => exact pend_inv h hp
  | check hp ht => exact goto_inv h (h.recorded_self ht) (.inl (by decide)) (by simp [hp])
  | clear hp => exact clear_inv h hp
  | releaseWrite hp => exact releaseWrite_inv h hp
  | enter hp hw hr =>
    have ht : t ∈ s.readers := by
      have hnil := h.unwritten hw
      rcases henter hp rfl with ht | ht | ⟨u, hu, -⟩
      · exact ht
      · simp [hnil] at ht
      · simp [hnil] at hu
    exact goto_inv h ht (.inl (by decide)) (by simp [hp])
  | releaseRead hp => exact releaseRead_inv h hp
  | wake hp => exact wake_inv h

theorem step_inv {e : Thread × Move} (h : Inv s) (hc : UnlockAllowed s e.1 e.2) : Inv (step s e).1 := by
  obtain ⟨t, move⟩ := e
  refine effect_inv h (step_effect s t move) ?_
  intro hp hs
  exact hc (enter_unlock hp hs) hp

theorem inv_run {moves : List (Thread × Move)}
    (hg : machine.Guarded (fun s _ e => UnlockAllowed s e.1 e.2) Lock.init moves) : Inv (machine.run Lock.init moves).1 :=
  machine.run_induct_guarded (I := fun s _ => Inv s) init_inv (fun _ _ _ h hc => step_inv h hc) moves hg

/-! ## Refused unlocks -/

/-- What the steps of other threads leave of a thread at its check. -/
theorem effect_checkWriter {s s' : Lock} {t u : Thread} (hut : u ≠ t) (hp : s.points t = .checkWriter)
    (hw : s.writerTid ≠ t.tid) (he : Effect s u s') : s'.points t = .checkWriter ∧ s'.writerTid ≠ t.tid := by
  have hgoto : ∀ p, Function.update s.points u p t = .checkWriter := by
    intro p
    rw [Function.update_of_ne (Ne.symm hut), hp]
  cases he with
  | none => exact ⟨hp, hw⟩
  | record _ =>
    refine ⟨hgoto _, ?_⟩
    intro htid
    apply hut
    cases u
    cases t
    simpa using htid
  | clear _ => exact ⟨hgoto _, fun hzero => t.named hzero.symm⟩
  | wake _ =>
    refine ⟨?_, hw⟩
    simp only [goto_points, Function.update_of_ne (Ne.symm hut), Parking.unparkAll, hp]
    rfl
  | _ => exact ⟨hgoto _, hw⟩

theorem others_checkWriter (hp : s.points t = .checkWriter) (hw : s.writerTid ≠ t.tid)
    (others : List (Thread × Move)) (ho : ∀ e ∈ others, e.1 ≠ t) :
    (machine.run s others).1.points t = .checkWriter ∧ (machine.run s others).1.writerTid ≠ t.tid := by
  induction others using List.reverseRecOn with
  | nil => exact ⟨hp, hw⟩
  | append_singleton others e ih =>
    obtain ⟨hp', hw'⟩ := ih (fun a ha => ho a (by simp [ha]))
    rw [Machine.run_snoc]
    exact effect_checkWriter (ho e (by simp)) hp' hw' (step_effect _ e.1 e.2)

/-! ## What the lock promises -/

structure Sound (s : Lock) : Prop where
  exclusive : ∀ w ∈ s.writers, s.writers = [w] ∧ s.readers = []
  counted : readerCount s.state = s.readers.length
  /-- A thread that is not the recorded writer and calls unlock while the lock is write-held
      gets EPERM, whatever the others do meanwhile; both its steps change nothing else. -/
  refused : ∀ t, s.points t = .idle → ownedByWriter s.state = true → s.writerTid ≠ t.tid →
    step s (t, .unlock) = (s.goto t .checkWriter, []) ∧
      ∀ others : List (Thread × Move), (∀ e ∈ others, e.1 ≠ t) →
        step (machine.run (s.goto t .checkWriter) others).1 (t, .go) =
          ((machine.run (s.goto t .checkWriter) others).1.goto t .idle, [⟨t, some .eperm⟩])
  /-- Nobody sleeps on a free lock unless an unlocker has still to wake. -/
  served : ownedByWriter s.state = false → ownedByReaders s.state = false → (∀ t, s.points t ≠ .futexWake) →
    ∀ t mode, s.points t ≠ .parked mode

theorem unlock_refused (hp : s.points t = .idle) (ho : ownedByWriter s.state = true)
    (hw : s.writerTid ≠ t.tid) (others : List (Thread × Move)) (hothers : ∀ e ∈ others, e.1 ≠ t) :
    step s (t, .unlock) = (s.goto t .checkWriter, []) ∧
      step (machine.run (s.goto t .checkWriter) others).1 (t, .go) =
        ((machine.run (s.goto t .checkWriter) others).1.goto t .idle, [⟨t, some .eperm⟩]) := by
  constructor
  · simp [step, hp, call, unlock, ho]
  · obtain ⟨hp', hw'⟩ := others_checkWriter (s := s.goto t .checkWriter) (by simp) (by simpa using hw) others hothers
    simp only [step, hp', advance, ne_eq, hw', not_false_eq_true, if_true]
    rfl

theorem Inv.sound (h : Inv s) : Sound s := by
  refine ⟨fun w hw => h.owner hw, ?_, ?_, ?_⟩
  · have hword := h.word
    have hfew := h.few
    unfold readerCount
    rcases h.exclusive with hnil | ⟨w, hw, hr⟩
    · rw [hnil, List.length_nil] at hword
      omega
    · rw [hw, hr] at hword
      simp only [List.length_cons, List.length_nil] at hword
      rw [hr, List.length_nil]
      have := s.state.isLt
      omega
  · intro t hp ho hw
    exact ⟨(unlock_refused hp ho hw [] (by simp)).1, fun others hothers => (unlock_refused hp ho hw others hothers).2⟩
  · intro hw hr hwake t mode hp
    rcases h.served t (by rw [hp]; rfl) with hown | ⟨u, hu⟩
    · simp [Owned, blocks, hw, hr] at hown
    · exact hwake u (wakes_iff.mp hu)

theorem rwlock_sound {moves : List (Thread × Move)}
    (hg : machine.Guarded (fun s _ e => UnlockAllowed s e.1 e.2) Lock.init moves) :
    Sound (machine.run Lock.init moves).1 :=
  (inv_run hg).sound

def writerThread : Thread := ⟨1#32, by decide⟩
def readerThread : Thread := ⟨2#32, by decide⟩
def strangerThread : Thread := ⟨3#32, by decide⟩

/-- A reader parks behind a writer, a stranger's unlock is refused, the writer lets the reader
    in. -/
def handover : List (Thread × Move) :=
  [(writerThread, .wrlock), (writerThread, .go), (writerThread, .go), (writerThread, .go),
    (readerThread, .rdlock), (readerThread, .go), (readerThread, .go), (readerThread, .go), (readerThread, .go),
    (readerThread, .go), (readerThread, .go),
    (strangerThread, .unlock), (strangerThread, .go),
    (writerThread, .unlock), (writerThread, .go), (writerThread, .go), (writerThread, .go), (writerThread, .go),
    (readerThread, .go), (readerThread, .go)]

theorem rwlock_sound_handover :
    (machine.run Lock.init handover).2 =
        [⟨writerThread, none⟩, ⟨strangerThread, some .eperm⟩, ⟨writerThread, none⟩, ⟨readerThread, none⟩] ∧
      (machine.run Lock.init handover).1.readers = [readerThread] ∧ Sound (machine.run Lock.init handover).1 :=
  ⟨by decide +kernel, by decide +kernel, rwlock_sound (by decide +kernel)⟩

end Mocktail.Bionic.Rwlock
