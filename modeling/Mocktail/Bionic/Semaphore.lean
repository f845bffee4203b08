/-
  Mocktail.Bionic.Semaphore — the guest's semaphores (`bionic_semaphore_runtime.cc`).

  The count word holds a signed value in its bits 31 to 1 and the process-shared flag in bit 0;
  the value is -1 while waiters may be parked. One step of the machine is one atomic
  operation of one thread, together with the tests the code makes before its next one:
  a call's first step is its load. A compare-exchange may fail spuriously (`spurious`), and a
  parked thread may wake on its own. `FUTEX_WAIT` compares the word and parks in one step,
  `FUTEX_WAKE` unparks every parked thread.

  A wait or post is counted when its compare-exchange succeeds.

  Proved:
  - `counted_run`: as long as the field never overflows, the word holds
    initial + posts - waits, or -1 for none, and no wake-up is lost.
  - `semaphore_conserves_iff`: that is exactly when the semaphore does what it promises.
  As built the field holds values below 2^30 only, while `sem_init` and the overflow test
  of `SemInc` go by the host's SEM_VALUE_MAX of 2^31 - 1:
  - `overfull_semaphore_loses`: an accepted initial value, or a post at 2^30 - 1, makes the
    value negative, and the next post starts over at 1.
-/

import Mathlib.Algebra.Ring.Int.Defs
import Mathlib.Algebra.Ring.Nat
import Mathlib.Data.List.Count
import Mocktail.Lib.Parking
import Mocktail.Lib.Trace

namespace Mocktail.Bionic

open Mocktail.Lib

inductive Errno where
  | eperm
  | eagain
  | ebusy
  | einval
  | edeadlk
  | eoverflow
  deriving DecidableEq, Repr

namespace Semaphore

/-! ## The count word -/

def kSemValueMask : BitVec 32 := 0xfffffffe#32
def kSemValueShift : Nat := 1
def kSemOne : BitVec 32 := 1#32 <<< kSemValueShift
def kSemMinusOne : BitVec 32 := kSemValueMask

/-- The host's constant: `<semaphore.h>` has it as INT_MAX. -/
def semValueMax : Int := 2147483647

def semValue (encoded : BitVec 32) : Int := (encoded.sshiftRight kSemValueShift).toInt

def semEncode (value : BitVec 32) : BitVec 32 := (value <<< kSemValueShift) &&& kSemValueMask

/-- `mocktail_bionic_sem_init`: the count word it stores. `none` is a null semaphore. -/
def semInit (semaphore : Option (BitVec 32)) (processShared : Int) (value : BitVec 32) : Except Errno (BitVec 32) :=
  if semaphore.isNone || processShared ≠ 0 then .error .einval
  else if (value.toNat : Int) > semValueMax then .error .einval
  else .ok (semEncode value)

/-! ## Threads -/

/-- Where a thread is in `sem_wait` or `sem_post`. -/
inductive Point where
  | idle
  /-- `SemDec` before its compare-exchange, with `old_value` in hand. -/
  | dec (old : BitVec 32)
  | futexWait
  | parked
  /-- `SemDec` before its load: the loop of `sem_wait` after the first round. -/
  | decLoad
  /-- `SemInc` before its compare-exchange. -/
  | inc (old : BitVec 32)
  | futexWake
  deriving DecidableEq, Repr

inductive Move where
  | wait
  | post
  /-- The thread's next atomic operation. -/
  | go
  /-- Its compare-exchange fails, or its futex wait ends, for no reason. -/
  | spurious
  deriving DecidableEq, Repr

/-- What has taken effect. -/
inductive Observation where
  | waited
  | posted
  | overflowed
  deriving DecidableEq, Repr

structure State (T : Type) where
  count : BitVec 32
  points : T → Point

def parking : Parking Point where
  resume
    | .parked => some .decLoad
    | _ => none
  wakes
    | .futexWake => true
    | _ => false
  awake p q h := by
    cases p <;> simp at h
    subst h
    rfl

section
variable {T : Type} [DecidableEq T]

def State.start (count : BitVec 32) : State T := { count, points := fun _ => .idle }

def State.goto (s : State T) (t : T) (p : Point) : State T := { s with points := Function.update s.points t p }

/-- One round of the loop of `SemDec`, and what `sem_wait` does with its result. -/
def semDec (s : State T) (t : T) (old : BitVec 32) (succeeds : Bool) : State T × List Observation :=
  if semValue old < 0 then (s.goto t .futexWait, [])
  else if succeeds && s.count == old then
    let s := { s with count := (old - kSemOne) &&& kSemValueMask }
    if semValue old > 0 then (s.goto t .idle, [.waited]) else (s.goto t .futexWait, [])
  else (s.goto t (.dec s.count), [])

/-- One round of the loop of `SemInc`, and what `sem_post` does with its result. -/
def semInc (s : State T) (t : T) (old : BitVec 32) (succeeds : Bool) : State T × List Observation :=
  if semValue old = semValueMax then (s.goto t .idle, [.overflowed])
  else if succeeds && s.count == old then
    if semValue old < 0 then ({ s with count := kSemOne }.goto t .futexWake, [.posted])
    else ({ s with count := (old + kSemOne) &&& kSemValueMask }.goto t .idle, [.posted])
  else (s.goto t (.inc s.count), [])

/-- The atomic operation a thread is at. -/
def advance (s : State T) (t : T) : Point → State T × List Observation
  | .idle => (s, [])
  | .dec old => semDec s t old true
  | .futexWait => (s.goto t (if s.count = kSemMinusOne then .parked else .decLoad), [])
  | .parked => (s, [])
  | .decLoad => (s.goto t (.dec s.count), [])
  | .inc old => semInc s t old true
  | .futexWake => ({ s with points := parking.unparkAll s.points }.goto t .idle, [])

/-- The same where the compare-exchange fails, or the wait ends, for no reason. -/
def stumble (s : State T) (t : T) : Point → State T × List Observation
  | .dec old => semDec s t old false
  | .inc old => semInc s t old false
  | .futexWait => (s.goto t .decLoad, [])
  | .parked => (s.goto t .decLoad, [])
  | _ => (s, [])

def step (s : State T) : T × Move → State T × List Observation
  | (t, .wait) => if s.points t = .idle then (s.goto t (.dec s.count), []) else (s, [])
  | (t, .post) => if s.points t = .idle then (s.goto t (.inc s.count), []) else (s, [])
  | (t, .go) => advance s t (s.points t)
  | (t, .spurious) => stumble s t (s.points t)

def machine (T : Type) [DecidableEq T] : Machine (State T) (T × Move) Observation where
  step := step

end

/-! ## The word -/

theorem kSemValueMask_eq : kSemValueMask = BitVec.allOnes 32 <<< kSemValueShift := by decide

theorem semEncode_eq (value : BitVec 32) : semEncode value = value <<< kSemValueShift := by
  rw [semEncode, kSemValueMask_eq, ← BitVec.shiftLeft_and_distrib, BitVec.and_allOnes]

theorem semEncode_ofNat (n : Nat) : semEncode (BitVec.ofNat 32 n) = BitVec.ofNat 32 (2 * n) := by
  rw [semEncode_eq]
  apply BitVec.eq_of_toNat_eq
  simp only [kSemValueShift, BitVec.toNat_shiftLeft, BitVec.toNat_ofNat, Nat.shiftLeft_eq]
  omega

theorem semValue_semEncode {n : Nat} (h : n < 2 ^ 30) : semValue (semEncode (BitVec.ofNat 32 n)) = n := by
  rw [semEncode_ofNat, semValue, BitVec.toInt_sshiftRight, BitVec.toInt_ofNat']
  simp only [kSemValueShift, Int.shiftRight_eq_div_pow, Int.bmod_def]
  omega

theorem semValue_minusOne : semValue kSemMinusOne = -1 := by decide

theorem dec_semEncode (n : Nat) :
    (semEncode (BitVec.ofNat 32 (n + 1)) - kSemOne) &&& kSemValueMask = semEncode (BitVec.ofNat 32 n) := by
  have h : semEncode (BitVec.ofNat 32 (n + 1)) - kSemOne = semEncode (BitVec.ofNat 32 n) := by
    simp only [semEncode_ofNat, kSemOne, kSemValueShift]
    apply BitVec.eq_of_toNat_eq
    simp
    omega
  rw [h, semEncode_eq, kSemValueMask_eq, ← BitVec.shiftLeft_and_distrib, BitVec.and_allOnes]

theorem inc_semEncode (n : Nat) :
    (semEncode (BitVec.ofNat 32 n) + kSemOne) &&& kSemValueMask = semEncode (BitVec.ofNat 32 (n + 1)) := by
  have h : semEncode (BitVec.ofNat 32 n) + kSemOne = semEncode (BitVec.ofNat 32 (n + 1)) := by
    simp only [semEncode_ofNat, kSemOne, kSemValueShift]
    apply BitVec.eq_of_toNat_eq
    simp
    omega
  rw [h, semEncode_eq, kSemValueMask_eq, ← BitVec.shiftLeft_and_distrib, BitVec.and_allOnes]

theorem semValue_lt (word : BitVec 32) : semValue word < 2 ^ 30 := by
  have h := BitVec.toInt_lt (x := word)
  rw [semValue, BitVec.toInt_sshiftRight]
  simp only [kSemValueShift, Int.shiftRight_eq_div_pow]
  omega

/-! ## What a step does -/

section
variable {T : Type} [DecidableEq T]

/-- Everything a step of a thread can do. -/
inductive Effect (s : State T) (t : T) : State T → List Observation → Prop where
  | none : Effect s t s []
  | walk (p : Point) : ¬ parking.Parked p → s.points t ≠ .futexWake → Effect s t (s.goto t p) []
  | park : s.count = kSemMinusOne → Effect s t (s.goto t .parked) []
  | wake : Effect s t ({ s with points := parking.unparkAll s.points }.goto t .idle) []
  | take : 0 < semValue s.count → s.points t = .dec s.count →
      Effect s t ({ s with count := (s.count - kSemOne) &&& kSemValueMask }.goto t .idle) [.waited]
  | drain : semValue s.count = 0 → s.points t = .dec s.count →
      Effect s t ({ s with count := (s.count - kSemOne) &&& kSemValueMask }.goto t .futexWait) []
  | put : 0 ≤ semValue s.count → s.points t = .inc s.count →
      Effect s t ({ s with count := (s.count + kSemOne) &&& kSemValueMask }.goto t .idle) [.posted]
  | raise : semValue s.count < 0 → s.points t = .inc s.count →
      Effect s t ({ s with count := kSemOne }.goto t .futexWake) [.posted]

theorem not_parked_dec (old : BitVec 32) : ¬ parking.Parked (.dec old) := by simp [Parking.Parked, parking]

theorem not_parked_inc (old : BitVec 32) : ¬ parking.Parked (.inc old) := by simp [Parking.Parked, parking]

variable {s : State T} {t : T}

theorem semDec_effect {old : BitVec 32} (succeeds : Bool) (h : s.points t = .dec old) :
    Effect s t (semDec s t old succeeds).1 (semDec s t old succeeds).2 := by
  have hw : s.points t ≠ .futexWake := by simp [h]
  unfold semDec
  split
  · exact .walk .futexWait (by decide) hw
  · rename_i hneg
    split
    · rename_i hcas
      obtain rfl : s.count = old := by simp at hcas; exact hcas.2
      by_cases hpos : semValue s.count > 0
      · simp only [hpos, if_true]
        exact .take hpos h
      · simp only [hpos, if_false]
        exact .drain (by omega) h
    · exact .walk (.dec s.count) (not_parked_dec _) hw

theorem semValue_ne_max (word : BitVec 32) : semValue word ≠ semValueMax := by
  have h := semValue_lt word
  simp only [semValueMax]
  omega

theorem semInc_effect {old : BitVec 32} (succeeds : Bool) (h : s.points t = .inc old) :
    Effect s t (semInc s t old succeeds).1 (semInc s t old succeeds).2 := by
  have hw : s.points t ≠ .futexWake := by simp [h]
  rw [semInc, if_neg (semValue_ne_max old)]
  split
  · rename_i hcas
    obtain rfl : s.count = old := by simp at hcas; exact hcas.2
    by_cases hneg : semValue s.count < 0
    · simp only [hneg, if_true]
      exact .raise hneg h
    · simp only [hneg, if_false]
      exact .put (by omega) h
  · exact .walk (.inc s.count) (not_parked_inc _) hw

theorem advance_effect (s : State T) (t : T) :
    Effect s t (advance s t (s.points t)).1 (advance s t (s.points t)).2 := by
  cases hp : s.points t with
  | idle => exact .none
  | dec old => exact semDec_effect true hp
  | futexWait =>
    by_cases hc : s.count = kSemMinusOne
    · simp only [advance, hc, if_true]
      exact .park hc
    · simp only [advance, hc, if_false]
      exact .walk .decLoad (by decide) (by simp [hp])
  | parked => exact .none
  | decLoad => exact .walk (.dec s.count) (not_parked_dec _) (by simp [hp])
  | inc old => exact semInc_effect true hp
  | futexWake => exact .wake

theorem stumble_effect (s : State T) (t : T) :
    Effect s t (stumble s t (s.points t)).1 (stumble s t (s.points t)).2 := by
  cases hp : s.points t with
  | dec old => exact semDec_effect false hp
  | inc old => exact semInc_effect false hp
  | futexWait | parked => exact .walk .decLoad (by decide) (by simp [hp])
  | idle => exact .none
  | decLoad => exact .none
  | futexWake => exact .none

theorem step_effect (s : State T) (t : T) (move : Move) : Effect s t (step s (t, move)).1 (step s (t, move)).2 := by
  cases move with
  | wait =>
    simp only [step]
    split
    · rename_i hp
      exact .walk (.dec s.count) (not_parked_dec _) (by simp [hp])
    · exact .none
  | post =>
    simp only [step]
    split
    · rename_i hp
      exact .walk (.inc s.count) (not_parked_inc _) (by simp [hp])
    · exact .none
  | go => exact advance_effect s t
  | spurious => exact stumble_effect s t

@[simp] theorem goto_count (s : State T) (t : T) (p : Point) : (s.goto t p).count = s.count := rfl

@[simp] theorem goto_points (s : State T) (t : T) (p : Point) : (s.goto t p).points = Function.update s.points t p := rfl

/-! ## Counting -/

/-- What was there and was posted, less what was waited for. -/
def balance (initial : Nat) (trace : List Observation) : Int :=
  initial + trace.count .posted - trace.count .waited

/-- The word holds a count of `n`: -1 stands for 0 with waiters. -/
def Holds (n : Int) (word : BitVec 32) : Prop :=
  (∃ k : Nat, n = k ∧ k < 2 ^ 30 ∧ word = semEncode (BitVec.ofNat 32 k)) ∨ n = 0 ∧ word = kSemMinusOne

structure Counted (initial : Nat) (s : State T) (trace : List Observation) : Prop where
  holds : Holds (balance initial trace) s.count
  served : parking.Served s.points (s.count = kSemMinusOne)

variable {word : BitVec 32} {n : Int}

theorem Holds.of_pos (h : Holds n word) (hv : 0 ≤ semValue word) :
    ∃ k : Nat, n = k ∧ k < 2 ^ 30 ∧ word = semEncode (BitVec.ofNat 32 k) ∧ semValue word = k := by
  rcases h with ⟨k, hn, hk, hw⟩ | ⟨hn, hw⟩
  · exact ⟨k, hn, hk, hw, by rw [hw, semValue_semEncode hk]⟩
  · rw [hw, semValue_minusOne] at hv
    omega

theorem Holds.of_neg (h : Holds n word) (hv : semValue word < 0) :
    n = 0 ∧ word = kSemMinusOne := by
  rcases h with ⟨k, hn, hk, hw⟩ | h
  · rw [hw, semValue_semEncode hk] at hv
    omega
  · exact h

theorem Holds.value (h : Holds n word) : max 0 (semValue word) = n := by
  by_cases hv : 0 ≤ semValue word
  · obtain ⟨k, hn, -, -, hk⟩ := h.of_pos hv
    omega
  · have hn := (h.of_neg (by omega)).1
    omega

theorem balance_waited (initial : Nat) (trace : List Observation) :
    balance initial (trace ++ [.waited]) = balance initial trace - 1 := by
  simp [balance]
  omega

theorem balance_posted (initial : Nat) (trace : List Observation) :
    balance initial (trace ++ [.posted]) = balance initial trace + 1 := by
  simp [balance]
  omega

/-- The step is the exchange of a post that finds the field full. -/
def Overfills (s : State T) (t : T) (move : Move) : Prop :=
  move = .go ∧ s.points t = .inc s.count ∧ semValue s.count = 2 ^ 30 - 1

instance (s : State T) (t : T) (move : Move) : Decidable (Overfills s t move) := inferInstanceAs (Decidable (_ ∧ _))

omit [DecidableEq T] in
theorem start_counted {value : BitVec 32} (h : value.toNat < 2 ^ 30) :
    Counted value.toNat (State.start (semEncode value) : State T) [] := by
  refine ⟨.inl ⟨value.toNat, by simp [balance], h, by simp [State.start]⟩, ?_⟩
  apply Parking.served_of_unparked
  intro t
  simp [State.start, Parking.Parked, parking]

/-- A count that is not the last one the field holds can be raised. -/
theorem put_holds (h : Holds n word) (hv : 0 ≤ semValue word)
    (hfull : semValue word ≠ 2 ^ 30 - 1) : Holds (n + 1) ((word + kSemOne) &&& kSemValueMask) := by
  obtain ⟨k, hn, hk, hw, hvk⟩ := h.of_pos hv
  refine .inl ⟨k + 1, by omega, by omega, ?_⟩
  rw [hw, inc_semEncode]

theorem take_holds (h : Holds n word) (hv : 0 < semValue word) :
    Holds (n - 1) ((word - kSemOne) &&& kSemValueMask) := by
  obtain ⟨k, hn, hk, hw, hvk⟩ := h.of_pos (by omega)
  obtain ⟨j, rfl⟩ : ∃ j, k = j + 1 := ⟨k - 1, by omega⟩
  refine .inl ⟨j, by omega, by omega, ?_⟩
  rw [hw, dec_semEncode]

theorem drain_holds (h : Holds n word) (hv : semValue word = 0) :
    n = 0 ∧ (word - kSemOne) &&& kSemValueMask = kSemMinusOne := by
  obtain ⟨k, hn, hk, hw, hvk⟩ := h.of_pos (by omega)
  obtain rfl : k = 0 := by omega
  exact ⟨by omega, by rw [hw]; decide⟩

theorem ne_minusOne (h : 0 ≤ semValue word) : word ≠ kSemMinusOne := by
  intro hw
  rw [hw, semValue_minusOne] at h
  omega

variable {initial : Nat}

theorem effect_counted {s s' : State T} {trace new : List Observation}
    (h : Counted initial s trace) (he : Effect s t s' new)
    (hfull : new = [.posted] → semValue s.count ≠ 2 ^ 30 - 1) : Counted initial s' (trace ++ new) := by
  cases he with
  | none => simpa using h
  | walk p hp hw =>
    refine ⟨by simpa using h.holds, Parking.served_update h.served id hp ?_⟩
    intro hpt
    cases hpoint : s.points t <;> simp_all [parking]
  | park hc => exact ⟨by simpa using h.holds, Parking.served_blocked hc⟩
  | wake =>
    refine ⟨by simpa using h.holds, Parking.served_of_unparked ?_⟩
    intro u
    by_cases hu : u = t
    · subst hu
      simp [Parking.Parked, parking]
    · simpa [hu] using Parking.not_parked_unparkAll s.points u
  | take hv hp =>
    refine ⟨?_, Parking.served_update h.served (fun hc => absurd hc (ne_minusOne (by omega))) (by decide) ?_⟩
    · rw [balance_waited]
      exact take_holds h.holds hv
    · simp [hp, parking]
  | drain hv hp =>
    obtain ⟨hn, hw⟩ := drain_holds h.holds hv
    refine ⟨.inr ⟨by simpa using hn, by simpa using hw⟩, Parking.served_blocked (by simpa using hw)⟩
  | put hv hp =>
    refine ⟨?_, Parking.served_update h.served (fun hc => absurd hc (ne_minusOne hv)) (by decide) ?_⟩
    · rw [balance_posted]
      exact put_holds h.holds hv (hfull rfl)
    · simp [hp, parking]
  | raise hv hp =>
    have hn := (h.holds.of_neg hv).1
    refine ⟨.inl ⟨1, ?_, by decide, by simp; decide⟩, Parking.served_wakes rfl⟩
    rw [balance_posted, hn]
    rfl

theorem semInc_unposted (s : State T) (t : T) (old : BitVec 32) : (semInc s t old false).2 ≠ [.posted] := by
  unfold semInc
  split_ifs <;> simp_all

/-- Only a compare-exchange that succeeds posts. -/
theorem posted_inv {move : Move} (h : (step s (t, move)).2 = [.posted]) :
    move = .go ∧ s.points t = .inc s.count := by
  have he := step_effect s t move
  rw [h] at he
  have hp : s.points t = .inc s.count := by
    generalize (step s (t, move)).1 = s' at he
    cases he <;> assumption
  refine ⟨?_, hp⟩
  cases move with
  | go => rfl
  | wait => simp [step, hp] at h
  | post => simp [step, hp] at h
  | spurious =>
    change (stumble s t (s.points t)).2 = _ at h
    rw [hp] at h
    exact absurd h (semInc_unposted s t s.count)

variable {trace : List Observation}

theorem step_counted {e : T × Move}
    (h : Counted initial s trace) (hc : ¬ Overfills s e.1 e.2) :
    Counted initial (step s e).1 (trace ++ (step s e).2) := by
  obtain ⟨t, move⟩ := e
  refine effect_counted h (step_effect s t move) ?_
  intro hnew hfull
  obtain ⟨hm, hp⟩ := posted_inv hnew
  exact hc ⟨hm, hp, hfull⟩

theorem counted_run {value : BitVec 32} (hv : value.toNat < 2 ^ 30) {moves : List (T × Move)}
    (hg : (machine T).Guarded (fun s _ e => ¬ Overfills s e.1 e.2) (State.start (semEncode value)) moves) :
    Counted value.toNat ((machine T).run (State.start (semEncode value)) moves).1
      ((machine T).run (State.start (semEncode value)) moves).2 :=
  (machine T).run_induct_guarded (I := Counted value.toNat) (start_counted hv)
    (fun _ _ _ h hc => step_counted h hc) moves hg

/-! ## What the semaphore promises -/

structure Conserves (initial : Nat) (s : State T) (trace : List Observation) : Prop where
  waits : trace.count .waited ≤ initial + trace.count .posted
  value : max 0 (semValue s.count) = balance initial trace
  /-- A post that would exceed SEM_VALUE_MAX fails and leaves the word alone. -/
  overflow : ∀ t, s.points t = .inc s.count → balance initial trace + 1 > semValueMax →
    step s (t, .go) = (s.goto t .idle, [.overflowed])
  /-- Nobody sleeps on a positive value unless a poster has still to wake. -/
  served : 0 < semValue s.count → (∀ t, s.points t ≠ .futexWake) → ∀ t, s.points t ≠ .parked

theorem Counted.conserves (h : Counted initial s trace) :
    Conserves initial s trace := by
  have hv := h.holds.value
  have hlt := semValue_lt s.count
  have hb : balance initial trace = initial + trace.count .posted - trace.count .waited := rfl
  refine ⟨by omega, hv, ?_, ?_⟩
  · intro t _ hmax
    simp only [semValueMax] at hmax
    omega
  · intro hpos hwake t ht
    rcases h.served t (by rw [ht]; rfl) with hc | ⟨u, hu⟩
    · exact ne_minusOne (by omega) hc
    · apply hwake u
      cases hpoint : s.points u <;> simp_all [parking]

/-- The field is 31 bits wide: a post at its last value is not one that conserves. -/
theorem overfills_lossy {move : Move}
    (h : Conserves initial s trace) (hf : Overfills s t move) :
    ¬ Conserves initial (step s (t, move)).1 (trace ++ (step s (t, move)).2) := by
  obtain ⟨rfl, hp, hv⟩ := hf
  have hstep : (step s (t, .go)).2 = [.posted] := by
    simp only [step, hp, advance, semInc, if_neg (semValue_ne_max _)]
    simp [hv]
  intro hc
  have hv' := hc.value
  rw [hstep, balance_posted, ← h.value, hv] at hv'
  have := semValue_lt (step s (t, .go)).1.count
  omega

theorem semInit_ok {semaphore : Option (BitVec 32)} {processShared : Int} {value word : BitVec 32}
    (h : semInit semaphore processShared value = .ok word) : word = semEncode value := by
  unfold semInit at h
  split at h
  · cases h
  · split at h
    · cases h
    · simpa using h.symm

theorem semaphore_conserves_iff {semaphore : Option (BitVec 32)} {processShared : Int} {value word : BitVec 32}
    (hinit : semInit semaphore processShared value = .ok word) (moves : List (T × Move)) :
    (∀ pre post, moves = pre ++ post → Conserves value.toNat ((machine T).run (State.start word) pre).1
        ((machine T).run (State.start word) pre).2) ↔
      value.toNat < 2 ^ 30 ∧
        (machine T).Guarded (fun s _ e => ¬ Overfills s e.1 e.2) (State.start word) moves := by
  obtain rfl := semInit_ok hinit
  constructor
  · intro h
    constructor
    · have h0 := (h [] moves rfl).value
      have hlt := semValue_lt (semEncode value)
      simp [State.start, balance] at h0
      omega
    · intro pre e post hp hf
      have hpre := h pre (e :: post) hp
      apply overfills_lossy hpre hf
      have hstep := h (pre ++ [e]) post (by simpa using hp)
      rwa [Machine.run_snoc] at hstep
  · intro hex pre post hp
    obtain ⟨hv, hg⟩ := hex
    subst hp
    exact (counted_run hv ((machine T).guarded_append hg).1).conserves

end

/-- A waiter parks at 0 and takes what the other thread posts. -/
def handover : List (Bool × Move) :=
  [(false, .wait), (false, .go), (false, .go), (true, .post), (true, .go), (true, .go), (false, .go), (false, .go)]

theorem semaphore_conserves_handover :
    semInit (some 0#32) 0 0#32 = .ok 0#32 ∧
      Conserves 0 ((machine Bool).run (State.start 0#32) handover).1 ((machine Bool).run (State.start 0#32) handover).2 := by
  have hinit : semInit (some 0#32) 0 0#32 = .ok 0#32 := by decide
  exact ⟨hinit, (semaphore_conserves_iff hinit handover).mpr ⟨by decide, by decide⟩ handover [] (by simp)⟩

/-- An initial value of 2^30 is accepted, and one post takes the semaphore to 1; one post at
    2^30 - 1 takes it below zero. -/
theorem overfull_semaphore_loses :
    (semInit (some 0#32) 0 (BitVec.ofNat 32 (2 ^ 30)) = .ok (BitVec.ofNat 32 (2 ^ 31)) ∧
      semValue ((machine Unit).run (State.start (BitVec.ofNat 32 (2 ^ 31))) [((), .post), ((), .go)]).1.count = 1 ∧
      ¬ Conserves (2 ^ 30) ((machine Unit).run (State.start (BitVec.ofNat 32 (2 ^ 31))) [((), .post), ((), .go)]).1
        ((machine Unit).run (State.start (BitVec.ofNat 32 (2 ^ 31))) [((), .post), ((), .go)]).2) ∧
    (semInit (some 0#32) 0 (BitVec.ofNat 32 (2 ^ 30 - 1)) = .ok (BitVec.ofNat 32 (2 ^ 31 - 2)) ∧
      semValue ((machine Unit).run (State.start (BitVec.ofNat 32 (2 ^ 31 - 2))) [((), .post), ((), .go)]).1.count < 0 ∧
      ¬ Conserves (2 ^ 30 - 1) ((machine Unit).run (State.start (BitVec.ofNat 32 (2 ^ 31 - 2))) [((), .post), ((), .go)]).1
        ((machine Unit).run (State.start (BitVec.ofNat 32 (2 ^ 31 - 2))) [((), .post), ((), .go)]).2) := by
  refine ⟨⟨by decide, by decide, fun h => ?_⟩, by decide, by decide, fun h => ?_⟩
  · exact absurd h.value (by decide)
  · exact absurd h.value (by decide)

end Semaphore

end Mocktail.Bionic
