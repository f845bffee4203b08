/-
  Mocktail.Update.AssetWorkers — the threads of `HashAssetTree`.

  Each worker takes the next index, looks at the first error under the lock, hashes the file
  and stores the digest, or records the error under the lock and ends. One turn of the
  machine is one such step of one worker, so a list of workers is an interleaving. Reading a
  file has a fixed outcome.

  As long as no error is recorded or about to be, every index that has been taken is stored
  or in a worker's hands (`PoolInv.placed`), so when all workers have ended without an error
  no digest is missing (`workers_agree`). Every turn of a worker that has not ended makes
  `remaining` smaller (`turns_bounded`).
-/

import Mathlib.Data.Nat.Cast.Basic
import Mocktail.Lib.Slots
import Mocktail.Lib.Trace
import Mocktail.Lib.Weights
import Mocktail.Update.PayloadIntegrity

namespace Mocktail.Update

open Mocktail.Lib Mocktail.Launch

inductive Worker where
  | fetch
  | check (index : Nat)
  | hash (index : Nat)
  | record (failure : Text)
  | store (index : Nat) (digest : Text)
  | finished
  deriving DecidableEq, Repr

structure Pool (m : Nat) where
  nextIndex : Nat
  firstError : Option Text
  digests : Nat → Text
  workers : Fin m → Worker

def Pool.start (m : Nat) : Pool m := { nextIndex := 0, firstError := none, digests := fun _ => [], workers := fun _ => .fetch }

/-- How many threads hash: at most 8, at most one for each file. -/
def workerCount (hardwareConcurrency files : Nat) : Nat :=
  min (min (if hardwareConcurrency = 0 then 1 else hardwareConcurrency) 8) (files % 2 ^ 32)

section
variable {m : Nat} (read : Nat → Except Text Text) (n : Nat)

/-- One step of one worker. -/
def turn (pool : Pool m) (i : Fin m) : Pool m :=
  match pool.workers i with
  | .fetch =>
    { pool with
      nextIndex := pool.nextIndex + 1
      workers := Function.update pool.workers i (if n ≤ pool.nextIndex then .finished else .check pool.nextIndex) }
  | .check index =>
    { pool with workers := Function.update pool.workers i (if pool.firstError.isSome then .finished else .hash index) }
  | .hash index =>
    { pool with
      workers := Function.update pool.workers i (match read index with
        | .error failure => .record failure
        | .ok digest => .store index digest) }
  | .record failure =>
    { pool with
      firstError := some (pool.firstError.getD failure)
      workers := Function.update pool.workers i .finished }
  | .store index digest =>
    { pool with digests := upd pool.digests index digest, workers := Function.update pool.workers i .fetch }
  | .finished => pool

def workerMachine (m : Nat) : Machine (Pool m) (Fin m) Unit where
  step pool i := (turn read n pool i, [])

/-- The pool after an interleaving. -/
def poolAfter (m : Nat) (schedule : List (Fin m)) : Pool m := ((workerMachine read n m).run (Pool.start m) schedule).1

end

def Pool.Done {m : Nat} (pool : Pool m) : Prop := ∀ i, pool.workers i = .finished

/-- What `HashAssetTree` makes of the pool once all threads have been joined. -/
def poolResult (sha256 : Sha256) {m : Nat} (files : List (Text × FileState)) (pool : Pool m) : Except Text (Text × Nat) :=
  match pool.firstError with
  | some failure => .error failure
  | none => foldDigests sha256 (files.mapIdx fun index file => (pool.digests index, file.1))

/-- What hashing the file at an index comes to. -/
def readAt (sha256 : Sha256) (root : Text) (files : List (Text × FileState)) (index : Nat) : Except Text Text :=
  match files[index]? with
  | some (path, file) => hashRegularFile sha256 (assetPath root path) file
  | none => .error (ascii "no such file")

/-! ## The invariant -/

section
variable {m : Nat} {read : Nat → Except Text Text} {n : Nat}

/-- The index in a worker's hands. -/
def Worker.Holds (index : Nat) : Worker → Prop
  | .check i => i = index
  | .hash i => i = index
  | .store i _ => i = index
  | _ => False

/-- What is true of one worker. -/
def WorkerOk (read : Nat → Except Text Text) (n : Nat) (pool : Pool m) : Worker → Prop
  | .fetch => True
  | .check index => index < n
  | .hash index => index < n
  | .record failure => ∃ index < n, read index = .error failure
  | .store index digest => index < n ∧ read index = .ok digest
  | .finished => n ≤ pool.nextIndex ∨ pool.firstError.isSome

/-- An error is recorded, or in the hands of a worker that will record it. -/
def Troubled (pool : Pool m) : Prop := pool.firstError.isSome ∨ ∃ i failure, pool.workers i = .record failure

structure PoolInv (read : Nat → Except Text Text) (n : Nat) (pool : Pool m) : Prop where
  workers : ∀ i, WorkerOk read n pool (pool.workers i)
  failed : ∀ failure, pool.firstError = some failure → ∃ index < n, read index = .error failure
  placed : Troubled pool ∨ ∀ index < n, index < pool.nextIndex →
    read index = .ok (pool.digests index) ∨ ∃ i, (pool.workers i).Holds index

variable {w : Worker} {i : Fin m}

theorem workerOk_update {pool pool' : Pool m} (h : PoolInv read n pool)
    (hworkers : pool'.workers = Function.update pool.workers i w) (hnext : pool.nextIndex ≤ pool'.nextIndex)
    (herror : pool.firstError.isSome → pool'.firstError.isSome) (hw : WorkerOk read n pool' w) :
    ∀ j, WorkerOk read n pool' (pool'.workers j) := by
  intro j
  rw [hworkers]
  by_cases hj : j = i
  · subst hj
    rw [Function.update_self]
    exact hw
  · rw [Function.update_of_ne hj]
    have hold := h.workers j
    cases hpc : pool.workers j with
    | finished =>
      rw [hpc] at hold
      rcases hold with hdone | hfailed
      · exact .inl (Nat.le_trans hdone hnext)
      · exact .inr (herror hfailed)
    | _ =>
      rw [hpc] at hold
      exact hold

theorem troubled_update {pool pool' : Pool m} (h : Troubled pool)
    (hworkers : pool'.workers = Function.update pool.workers i w) (herror : pool.firstError.isSome → pool'.firstError.isSome)
    (hnot : ∀ failure, pool.workers i ≠ .record failure) : Troubled pool' := by
  rcases h with hsome | ⟨j, failure, hj⟩
  · exact .inl (herror hsome)
  · refine .inr ⟨j, failure, ?_⟩
    have hne : j ≠ i := by
      intro heq
      subst heq
      exact hnot failure hj
    rw [hworkers, Function.update_of_ne hne]
    exact hj

variable {pool : Pool m}

/-- An index in another worker's hands stays there. -/
theorem holds_update {i j : Fin m} {index : Nat} (h : (pool.workers j).Holds index)
    (hw : j = i → w.Holds index) : ∃ k, (Function.update pool.workers i w k).Holds index := by
  refine ⟨j, ?_⟩
  by_cases hj : j = i
  · subst hj
    rw [Function.update_self]
    exact hw rfl
  · rw [Function.update_of_ne hj]
    exact h

theorem turn_inv (h : PoolInv read n pool) (i : Fin m) : PoolInv read n (turn read n pool i) := by
  have hself := h.workers i
  unfold turn
  cases hpc : pool.workers i with
  | fetch =>
    dsimp only
    refine ⟨workerOk_update h rfl (Nat.le_succ _) id ?_, h.failed, ?_⟩
    · by_cases hall : n ≤ pool.nextIndex
      · rw [if_pos hall]
        exact .inl (Nat.le_succ_of_le hall)
      · rw [if_neg hall]
        exact Nat.lt_of_not_le hall
    · rcases h.placed with htrouble | hplaced
      · exact .inl (troubled_update htrouble rfl id (by simp [hpc]))
      · right
        intro index hn hnext
        rcases Nat.lt_succ_iff_lt_or_eq.mp hnext with hnext | heq
        · rcases hplaced index hn hnext with hstored | ⟨j, hj⟩
          · exact .inl hstored
          · refine .inr (holds_update hj ?_)
            intro hji
            rw [hji, hpc] at hj
            exact hj.elim
        · -- the index that has just been taken
          subst heq
          refine .inr ⟨i, ?_⟩
          dsimp only
          rw [Function.update_self, if_neg (by omega)]
          exact rfl
  | check index =>
    dsimp only
    rw [hpc] at hself
    refine ⟨workerOk_update h rfl (Nat.le_refl _) id ?_, h.failed, ?_⟩
    · by_cases hsome : pool.firstError.isSome
      · rw [if_pos hsome]
        exact .inr hsome
      · rw [if_neg hsome]
        exact hself
    · rcases h.placed with htrouble | hplaced
      · exact .inl (troubled_update htrouble rfl id (by simp [hpc]))
      · by_cases hsome : pool.firstError.isSome
        · exact .inl (.inl hsome)
        · right
          intro other hn hnext
          rcases hplaced other hn hnext with hstored | ⟨j, hj⟩
          · exact .inl hstored
          · refine .inr (holds_update hj ?_)
            intro hji
            rw [hji, hpc] at hj
            rw [if_neg hsome]
            exact hj
  | hash index =>
    dsimp only
    rw [hpc] at hself
    refine ⟨workerOk_update h rfl (Nat.le_refl _) id ?_, h.failed, ?_⟩
    · cases hread : read index with
      | error failure => exact ⟨index, hself, hread⟩
      | ok digest => exact ⟨hself, hread⟩
    · rcases h.placed with htrouble | hplaced
      · exact .inl (troubled_update htrouble rfl id (by simp [hpc]))
      · cases hread : read index with
        | error failure => exact .inl (.inr ⟨i, failure, by simp⟩)
        | ok digest =>
          right
          intro other hn hnext
          rcases hplaced other hn hnext with hstored | ⟨j, hj⟩
          · exact .inl hstored
          · refine .inr (holds_update hj ?_)
            intro hji
            rw [hji, hpc] at hj
            exact hj
  | record failure =>
    dsimp only
    rw [hpc] at hself
    refine ⟨workerOk_update h rfl (Nat.le_refl _) (fun _ => rfl) (.inr rfl), ?_, .inl (.inl rfl)⟩
    intro found hfound
    cases herror : pool.firstError with
    | none =>
      rw [herror] at hfound
      cases hfound
      exact hself
    | some first =>
      rw [herror] at hfound
      cases hfound
      exact h.failed first herror
  | store index digest =>
    dsimp only
    rw [hpc] at hself
    refine ⟨workerOk_update h rfl (Nat.le_refl _) id trivial, h.failed, ?_⟩
    rcases h.placed with htrouble | hplaced
    · exact .inl (troubled_update htrouble rfl id (by simp [hpc]))
    · right
      intro other hn hnext
      dsimp only
      by_cases hother : other = index
      · subst hother
        rw [upd_same]
        exact .inl hself.2
      · rw [upd_ne _ _ hother]
        rcases hplaced other hn hnext with hstored | ⟨j, hj⟩
        · exact .inl hstored
        · refine .inr (holds_update hj ?_)
          intro hji
          rw [hji, hpc] at hj
          exact absurd hj.symm hother
  | finished => exact h

theorem start_inv : PoolInv read n (Pool.start m) := by
  refine ⟨fun _ => trivial, ?_, .inr ?_⟩
  · intro failure hfailure
    cases hfailure
  · intro index _ hnext
    exact absurd hnext (Nat.not_lt_zero _)

theorem poolAfter_inv (schedule : List (Fin m)) : PoolInv read n (poolAfter read n m schedule) :=
  (workerMachine read n m).run_induct (I := fun pool _ => PoolInv read n pool) start_inv (fun _ _ i h => turn_inv h i) schedule

/-- Once all have ended: an error that a file gave, or every digest. -/
theorem done_cases (h : PoolInv read n pool) (hm : 0 < m ∨ n = 0) (hdone : pool.Done) :
    (∃ failure, pool.firstError = some failure ∧ ∃ index < n, read index = .error failure) ∨
      pool.firstError = none ∧ ∀ index < n, read index = .ok (pool.digests index) := by
  cases herror : pool.firstError with
  | some failure => exact .inl ⟨failure, rfl, h.failed failure herror⟩
  | none =>
    refine .inr ⟨rfl, ?_⟩
    intro index hindex
    have hall : n ≤ pool.nextIndex := by
      rcases hm with hm | hm
      · have hfirst := h.workers ⟨0, hm⟩
        rw [hdone] at hfirst
        rcases hfirst with hall | hsome
        · exact hall
        · rw [herror] at hsome
          cases hsome
      · omega
    rcases h.placed with htrouble | hplaced
    · rcases htrouble with hsome | ⟨i, failure, hi⟩
      · rw [herror] at hsome
        cases hsome
      · rw [hdone i] at hi
        cases hi
    · rcases hplaced index hindex (by omega) with hstored | ⟨i, hi⟩
      · exact hstored
      · rw [hdone i] at hi
        exact hi.elim

/-! ## Against one after the other -/

variable {files : List (Text × FileState)} {sha256 : Sha256} {root : Text}

theorem hashFiles_of_all {digests : Nat → Text}
    (h : ∀ index < files.length, readAt sha256 root files index = .ok (digests index)) :
    hashFiles sha256 root files = .ok (files.mapIdx fun index file => (digests index, file.1)) := by
  induction files generalizing digests with
  | nil => rfl
  | cons file files ih =>
    obtain ⟨path, state⟩ := file
    have hfirst : hashRegularFile sha256 (assetPath root path) state = .ok (digests 0) := h 0 (by simp)
    have hrest : hashFiles sha256 root files = .ok (files.mapIdx fun index file => (digests (index + 1), file.1)) := by
      apply ih
      intro index hindex
      exact h (index + 1) (by simpa using hindex)
    simp only [hashFiles, hfirst, hrest, List.mapIdx_cons]

theorem hashFiles_of_error {index : Nat} {failure : Text}
    (hindex : index < files.length) (h : readAt sha256 root files index = .error failure) :
    ∃ e, hashFiles sha256 root files = .error e := by
  induction files generalizing index with
  | nil => exact absurd hindex (Nat.not_lt_zero _)
  | cons file files ih =>
    obtain ⟨path, state⟩ := file
    unfold hashFiles
    cases index with
    | zero =>
      have hfirst : hashRegularFile sha256 (assetPath root path) state = .error failure := h
      rw [hfirst]
      exact ⟨failure, rfl⟩
    | succ index =>
      cases hfirst : hashRegularFile sha256 (assetPath root path) state with
      | error e => exact ⟨e, rfl⟩
      | ok digest =>
        obtain ⟨e, he⟩ := ih (Nat.lt_of_succ_lt_succ hindex) h
        simp only [he]
        exact ⟨e, rfl⟩

/-- Whatever the interleaving, the pool's result is that of hashing one after the other. -/
theorem workers_agree (hm : 0 < m ∨ files = [])
    {schedule : List (Fin m)} (hdone : (poolAfter (readAt sha256 root files) files.length m schedule).Done) :
    (poolResult sha256 files (poolAfter (readAt sha256 root files) files.length m schedule)).toOption =
      (hashFiles sha256 root files >>= foldDigests sha256).toOption := by
  have hinv : PoolInv _ _ (poolAfter (readAt sha256 root files) files.length m schedule) := poolAfter_inv schedule
  rcases done_cases hinv (hm.imp id fun h => by rw [h]; rfl) hdone with ⟨failure, hfirst, index, hindex, hread⟩ | ⟨hnone, hall⟩
  · obtain ⟨e, he⟩ := hashFiles_of_error hindex hread
    simp only [poolResult, hfirst, he]
    rfl
  · simp only [poolResult, hnone, hashFiles_of_all hall]
    rfl

/-! ## No interleaving goes on for ever -/

def Worker.weight : Worker → Nat
  | .finished => 0
  | .fetch => 1
  | .record _ => 1
  | .store _ _ => 2
  | .hash _ => 3
  | .check _ => 4

/-- What the workers have left to do. -/
def remaining (n : Nat) (pool : Pool m) : Nat := 4 * (n - pool.nextIndex) + ∑ i, (pool.workers i).weight

theorem turn_remaining (hlive : pool.workers i ≠ .finished) :
    remaining n (turn read n pool i) < remaining n pool := by
  have hsum (w : Worker) := sum_update Worker.weight pool.workers i w
  unfold turn remaining
  cases hpc : pool.workers i with
  | finished => exact absurd hpc hlive
  | fetch =>
    by_cases hall : n ≤ pool.nextIndex
    · have hs := hsum .finished
      simp only [if_pos hall, hpc, Worker.weight] at hs ⊢
      omega
    · have hs := hsum (.check pool.nextIndex)
      simp only [if_neg hall, hpc, Worker.weight] at hs ⊢
      omega
  | check index =>
    by_cases hsome : pool.firstError.isSome
    · have hs := hsum .finished
      simp only [if_pos hsome, hpc, Worker.weight] at hs ⊢
      omega
    · have hs := hsum (.hash index)
      simp only [if_neg hsome, hpc, Worker.weight] at hs ⊢
      omega
  | hash index =>
    cases hread : read index with
    | error failure =>
      have hs := hsum (.record failure)
      simp only [hread, hpc, Worker.weight] at hs ⊢
      omega
    | ok digest =>
      have hs := hsum (.store index digest)
      simp only [hread, hpc, Worker.weight] at hs ⊢
      omega
  | record failure =>
    have hs := hsum .finished
    simp only [hpc, Worker.weight] at hs ⊢
    omega
  | store index digest =>
    have hs := hsum .fetch
    simp only [hpc, Worker.weight] at hs ⊢
    omega

/-- The turns of workers that have not ended are at most so many. -/
theorem turns_bounded {schedule : List (Fin m)}
    (h : (workerMachine read n m).Guarded (fun pool _ i => pool.workers i ≠ .finished) (Pool.start m) schedule) :
    schedule.length ≤ 4 * n + m := by
  have hstep : schedule.length + remaining n (poolAfter read n m schedule) ≤ remaining n (Pool.start m) := by
    induction schedule using List.reverseRecOn with
    | nil => exact Nat.le_of_eq (Nat.zero_add _)
    | append_singleton schedule i ih =>
      obtain ⟨hpre, hlive⟩ := (workerMachine read n m).guarded_snoc h
      have hless : remaining n (turn read n (poolAfter read n m schedule) i) < remaining n (poolAfter read n m schedule) :=
        turn_remaining hlive
      have hsofar := ih hpre
      have hrun : poolAfter read n m (schedule ++ [i]) = turn read n (poolAfter read n m schedule) i := by
        unfold poolAfter
        rw [Machine.run_snoc]
        rfl
      rw [hrun, List.length_append, List.length_singleton]
      omega
  have hstart : remaining n (Pool.start m) = 4 * n + m := by
    simp [remaining, Pool.start, Worker.weight]
  omega

end

end Mocktail.Update
