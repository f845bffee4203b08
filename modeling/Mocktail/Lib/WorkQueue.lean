/-
  Mocktail.Lib.WorkQueue — threads that share a list of jobs through a counter.

  Each job is a list of stores. A worker takes the next index with one atomic increment, makes
  the stores of that job one by one and comes back for another; when the jobs have run out it
  ends. Worker 0 is the caller, which then waits until all the others have signed off
  (`left`). One turn is one such step of one worker, so a list of workers is an interleaving.

  Where different jobs store to different addresses:
  - `memory_of_returned`: when the caller returns the memory is the one that the jobs leave
    when they are done one after the other;
  - `turn_work`, `exists_turn`: no turn makes the work that is left larger, and until the
    caller returns there is a turn that makes it smaller, so the queue is always emptied.
-/

import Mathlib.Algebra.Order.BigOperators.Group.Finset
import Mocktail.Lib.Stores
import Mocktail.Lib.Trace
import Mocktail.Lib.Weights

namespace Mocktail.Lib

inductive QueueWorker (β : Type) where
  | fetch
  /-- The job and the stores it has still to make. -/
  | busy (job : Nat) (pending : List (Nat × β))
  | finishing
  | gone

structure WorkQueue (β : Type) (helpers : Nat) where
  next : Nat
  memory : Nat → β
  /-- The helpers that have not signed off. -/
  left : Nat
  workers : Fin (helpers + 1) → QueueWorker β

section
variable {β : Type} {helpers : Nat}

def WorkQueue.start (helpers : Nat) (memory : Nat → β) : WorkQueue β helpers :=
  { next := 0, memory, left := helpers, workers := fun _ => .fetch }

def WorkQueue.Returned (q : WorkQueue β helpers) : Prop := q.workers 0 = .gone

variable (jobs : List (List (Nat × β)))

def job (j : Nat) : List (Nat × β) := jobs.getD j []

/-- One step of one worker. -/
def queueTurn (q : WorkQueue β helpers) (i : Fin (helpers + 1)) : WorkQueue β helpers :=
  match q.workers i with
  | .fetch =>
    { q with
      next := q.next + 1
      workers := Function.update q.workers i
        (if jobs.length ≤ q.next then .finishing else .busy q.next (job jobs q.next)) }
  | .busy _ [] => { q with workers := Function.update q.workers i .fetch }
  | .busy j (store :: pending) =>
    { q with memory := upd q.memory store.1 store.2, workers := Function.update q.workers i (.busy j pending) }
  | .finishing =>
    if i = 0 then
      if q.left = 0 then { q with workers := Function.update q.workers i .gone } else q
    else { q with left := q.left - 1, workers := Function.update q.workers i .gone }
  | .gone => q

def queueMachine (helpers : Nat) : Machine (WorkQueue β helpers) (Fin (helpers + 1)) Unit where
  step q i := (queueTurn jobs q i, [])

def queueAfter (helpers : Nat) (memory : Nat → β) (schedule : List (Fin (helpers + 1))) : WorkQueue β helpers :=
  ((queueMachine jobs helpers).run (WorkQueue.start helpers memory) schedule).1

/-! ## The invariant -/

/-- `done` are the stores each job has made. -/
structure QueueInv (memory : Nat → β) (done : Nat → List (Nat × β)) (q : WorkQueue β helpers) : Prop where
  memory : q.memory = storeAll memory ((List.range jobs.length).flatMap done)
  parts : ∀ j, ∃ rest, done j ++ rest = job jobs j
  unstarted : ∀ j, q.next ≤ j → done j = []
  busy : ∀ i j pending, q.workers i = .busy j pending →
    j < jobs.length ∧ j < q.next ∧ done j ++ pending = job jobs j
  alone : ∀ i i' j pending pending', q.workers i = .busy j pending → q.workers i' = .busy j pending' → i = i'
  complete : ∀ j, j < jobs.length → j < q.next → (∀ i pending, q.workers i ≠ .busy j pending) → done j = job jobs j
  ended : ∀ i, q.workers i = .finishing ∨ q.workers i = .gone → jobs.length ≤ q.next

/-- Jobs that store to different addresses. -/
def DisjointJobs : Prop := jobs.Pairwise fun a b => ∀ s ∈ a, ∀ t ∈ b, s.1 ≠ t.1

variable {jobs}

theorem disjoint_jobs (h : DisjointJobs jobs) {j k : Nat} (hjk : j < k) {s t : Nat × β} (hs : s ∈ job jobs j)
    (ht : t ∈ job jobs k) : s.1 ≠ t.1 := by
  by_cases hk : k < jobs.length
  · have hj : j < jobs.length := by omega
    have hpair := List.pairwise_iff_getElem.mp h j k hj hk hjk
    simp only [job, List.getD_eq_getElem?_getD, List.getElem?_eq_getElem hj, List.getElem?_eq_getElem hk,
      Option.getD_some] at hs ht
    exact hpair s hs t ht
  · simp only [job, List.getD_eq_getElem?_getD, List.getElem?_eq_none (Nat.le_of_not_lt hk), Option.getD_none] at ht
    cases ht

theorem start_inv (memory : Nat → β) : QueueInv jobs memory (fun _ => []) (WorkQueue.start helpers memory) := by
  refine ⟨?_, fun j => ⟨job jobs j, rfl⟩, fun _ _ => rfl, ?_, ?_, ?_, ?_⟩
  · rw [List.flatMap_eq_nil_iff.mpr (fun _ _ => rfl)]
    rfl
  · intro i j pending h
    cases h
  · intro i i' j pending pending' h
    cases h
  · intro j _ h
    cases h
  · intro i h
    rcases h with h | h <;> cases h

/-- The stores of the jobs up to one, of that one, and of those after it. -/
theorem flatMap_range_split {α : Type} (f : Nat → List α) {j n : Nat} (h : j < n) :
    (List.range n).flatMap f =
      (List.range j).flatMap f ++ (f j ++ (List.range' (j + 1) (n - (j + 1))).flatMap f) := by
  have hrange : List.range n = List.range j ++ j :: List.range' (j + 1) (n - (j + 1)) := by
    have hn : n = j + (n - (j + 1) + 1) := by omega
    rw [← List.range'_succ, List.range_eq_range', List.range_eq_range', hn, ← List.range'_append_1]
    simp
    omega
  rw [hrange]
  simp

variable {done : Nat → List (Nat × β)} {i : Fin (helpers + 1)} {memory : Nat → β} {w : QueueWorker β}

/-- A worker that is not busy before or after its step. -/
theorem idle_inv {q q' : WorkQueue β helpers}
    (h : QueueInv jobs memory done q) (hmemory : q'.memory = q.memory)
    (hnext : q'.next = q.next) (hworkers : q'.workers = Function.update q.workers i w)
    (hw : ∀ j pending, w ≠ .busy j pending)
    (hfree : ∀ j, j < jobs.length → (∃ pending, q.workers i = .busy j pending) → done j = job jobs j)
    (hended : w = .finishing ∨ w = .gone → jobs.length ≤ q.next) : QueueInv jobs memory done q' := by
  have hother : ∀ k j pending, q'.workers k = .busy j pending → k ≠ i ∧ q.workers k = .busy j pending := by
    intro k j pending hk
    rw [hworkers] at hk
    by_cases hki : k = i
    · subst hki
      rw [Function.update_self] at hk
      exact absurd hk (hw j pending)
    · rw [Function.update_of_ne hki] at hk
      exact ⟨hki, hk⟩
  refine ⟨by rw [hmemory, h.memory], h.parts, by rw [hnext]; exact h.unstarted, ?_, ?_, ?_, ?_⟩
  · intro k j pending hk
    rw [hnext]
    exact h.busy k j pending (hother k j pending hk).2
  · intro k k' j pending pending' hk hk'
    exact h.alone k k' j pending pending' (hother k j pending hk).2 (hother k' j pending' hk').2
  · intro j hj hlt hnone
    rw [hnext] at hlt
    by_cases hi : ∃ pending, q.workers i = .busy j pending
    · exact hfree j hj hi
    · apply h.complete j hj hlt
      intro k pending hk
      by_cases hki : k = i
      · subst hki
        exact hi ⟨pending, hk⟩
      · apply hnone k pending
        rw [hworkers, Function.update_of_ne hki, hk]
  · intro k hk
    rw [hnext]
    rw [hworkers] at hk
    by_cases hki : k = i
    · subst hki
      rw [Function.update_self] at hk
      exact hended hk
    · rw [Function.update_of_ne hki] at hk
      exact h.ended k hk

variable {q : WorkQueue β helpers}

theorem fetch_inv
    (h : QueueInv jobs memory done q) (hi : q.workers i = .fetch) :
    QueueInv jobs memory done
      { q with
        next := q.next + 1
        workers := Function.update q.workers i
          (if jobs.length ≤ q.next then .finishing else .busy q.next (job jobs q.next)) } := by
  have hnotbusy : ∀ k j pending, q.workers k = .busy j pending → k ≠ i := by
    intro k j pending hk hki
    subst hki
    rw [hi] at hk
    cases hk
  refine ⟨h.memory, h.parts, ?_, ?_, ?_, ?_, ?_⟩
  · intro j hj
    exact h.unstarted j (by dsimp only at hj; omega)
  · intro k j pending hk
    dsimp only at hk ⊢
    by_cases hki : k = i
    · subst hki
      rw [Function.update_self] at hk
      split at hk
      · cases hk
      · rename_i hlen
        injection hk with hj hp
        subst hj hp
        rw [h.unstarted q.next (Nat.le_refl _)]
        exact ⟨by omega, by omega, rfl⟩
    · rw [Function.update_of_ne hki] at hk
      obtain ⟨hlen, hlt, hdone⟩ := h.busy k j pending hk
      exact ⟨hlen, by omega, hdone⟩
  · intro k k' j pending pending' hk hk'
    dsimp only at hk hk'
    -- the job that has just been taken is in nobody else's hands
    have hfresh : ∀ m p, m ≠ i → q.workers m = .busy q.next p → False := by
      intro m p _ hm
      have := (h.busy m q.next p hm).2.1
      omega
    by_cases hki : k = i
    · by_cases hki' : k' = i
      · rw [hki, hki']
      · subst hki
        rw [Function.update_self] at hk
        rw [Function.update_of_ne hki'] at hk'
        split at hk
        · cases hk
        · injection hk with hj _
          subst hj
          exact (hfresh k' pending' hki' hk').elim
    · rw [Function.update_of_ne hki] at hk
      by_cases hki' : k' = i
      · subst hki'
        rw [Function.update_self] at hk'
        split at hk'
        · cases hk'
        · injection hk' with hj _
          subst hj
          exact (hfresh k pending hki hk).elim
      · rw [Function.update_of_ne hki'] at hk'
        exact h.alone k k' j pending pending' hk hk'
  · intro j hj hlt hnone
    dsimp only at hlt hnone
    by_cases hlast : j = q.next
    · subst hlast
      have := hnone i (job jobs q.next)
      rw [Function.update_self, if_neg (by omega)] at this
      exact absurd rfl this
    · apply h.complete j hj (by omega)
      intro k pending hk
      apply hnone k pending
      rw [Function.update_of_ne (hnotbusy k j pending hk), hk]
  · intro k hk
    dsimp only at hk ⊢
    by_cases hki : k = i
    · subst hki
      rw [Function.update_self] at hk
      split at hk
      · omega
      · rcases hk with hk | hk <;> cases hk
    · rw [Function.update_of_ne hki] at hk
      have := h.ended k hk
      omega

theorem store_inv (hd : DisjointJobs jobs)
    {j : Nat} {store : Nat × β} {pending : List (Nat × β)} (h : QueueInv jobs memory done q)
    (hi : q.workers i = .busy j (store :: pending)) :
    QueueInv jobs memory (upd done j (done j ++ [store]))
      { q with memory := upd q.memory store.1 store.2, workers := Function.update q.workers i (.busy j pending) } := by
  obtain ⟨hj, hlt, hparts⟩ := h.busy i j _ hi
  have hmem : store ∈ job jobs j := by
    rw [← hparts]
    simp
  have hsame : ∀ k, k ≠ j → upd done j (done j ++ [store]) k = done k := fun k hk => upd_ne _ _ hk
  have hworker : ∀ k m p, Function.update q.workers i (.busy j pending) k = .busy m p →
      ∃ p', q.workers k = .busy m p' ∧ (k = i → m = j ∧ p = pending) := by
    intro k m p hk
    by_cases hki : k = i
    · subst hki
      rw [Function.update_self] at hk
      injection hk with hm hp
      subst hm hp
      exact ⟨_, hi, fun _ => ⟨rfl, rfl⟩⟩
    · rw [Function.update_of_ne hki] at hk
      exact ⟨p, hk, fun he => absurd he hki⟩
  refine ⟨?_, ?_, ?_, ?_, ?_, ?_, ?_⟩
  · -- the stores made so far of later jobs are to other addresses
    have hlater : ∀ other ∈ (List.range' (j + 1) (jobs.length - (j + 1))).flatMap done, other.1 ≠ store.1 := by
      intro other ho
      obtain ⟨k, hk, ho⟩ := List.mem_flatMap.mp ho
      have hk' := List.mem_range'_1.mp hk
      obtain ⟨rest, hrest⟩ := h.parts k
      have hin : other ∈ job jobs k := by
        rw [← hrest]
        exact List.mem_append_left _ ho
      exact Ne.symm (disjoint_jobs hd (by omega) hmem hin)
    have hearly := storeAll_early memory ((List.range j).flatMap done ++ done j) _ store hlater
    have hrange : (List.range j).flatMap (upd done j (done j ++ [store])) = (List.range j).flatMap done := by
      apply List.flatMap_congr
      intro k hk
      exact hsame k (by have := List.mem_range.mp hk; omega)
    have hrange' : (List.range' (j + 1) (jobs.length - (j + 1))).flatMap (upd done j (done j ++ [store])) =
        (List.range' (j + 1) (jobs.length - (j + 1))).flatMap done := by
      apply List.flatMap_congr
      intro k hk
      exact hsame k (by have := List.mem_range'_1.mp hk; omega)
    dsimp only
    rw [h.memory, flatMap_range_split _ hj, flatMap_range_split _ hj, hrange, hrange', upd_same]
    simp only [List.append_assoc, List.singleton_append] at hearly ⊢
    exact hearly.symm
  · intro k
    by_cases hk : k = j
    · subst hk
      rw [upd_same]
      exact ⟨pending, by simpa using hparts⟩
    · rw [hsame k hk]
      exact h.parts k
  · intro k hk
    dsimp only at hk
    rw [hsame k (by omega)]
    exact h.unstarted k hk
  · intro k m p hk
    obtain ⟨p', hold, hown⟩ := hworker k m p hk
    obtain ⟨hm, hmlt, hdone⟩ := h.busy k m p' hold
    refine ⟨hm, hmlt, ?_⟩
    by_cases hki : k = i
    · obtain ⟨rfl, rfl⟩ := hown hki
      rw [upd_same]
      simpa using hparts
    · have hmj : m ≠ j := by
        intro hmj
        subst hmj
        exact hki (h.alone k i m _ _ hold hi)
      dsimp only at hk
      rw [Function.update_of_ne hki, hold] at hk
      injection hk with _ hp
      rw [hsame m hmj, ← hp]
      exact hdone
  · intro k k' m p p' hk hk'
    obtain ⟨_, hold, -⟩ := hworker k m p hk
    obtain ⟨_, hold', -⟩ := hworker k' m p' hk'
    exact h.alone k k' m _ _ hold hold'
  · intro m hm hmlt hnone
    by_cases hmj : m = j
    · subst hmj
      exact absurd (by simp) (hnone i pending)
    · rw [hsame m hmj]
      apply h.complete m hm hmlt
      intro k p hk
      by_cases hki : k = i
      · subst hki
        rw [hi] at hk
        injection hk with hj' _
        exact hmj hj'.symm
      · apply hnone k p
        dsimp only
        rw [Function.update_of_ne hki, hk]
  · intro k hk
    dsimp only at hk ⊢
    by_cases hki : k = i
    · subst hki
      rw [Function.update_self] at hk
      rcases hk with hk | hk <;> cases hk
    · rw [Function.update_of_ne hki] at hk
      exact h.ended k hk

theorem turn_inv (hd : DisjointJobs jobs)
    (h : QueueInv jobs memory done q) (i : Fin (helpers + 1)) : ∃ done', QueueInv jobs memory done' (queueTurn jobs q i) := by
  unfold queueTurn
  cases hi : q.workers i with
  | fetch => exact ⟨done, fetch_inv h hi⟩
  | busy j pending =>
    cases pending with
    | nil =>
      refine ⟨done, idle_inv h rfl rfl rfl (by simp) ?_ (by simp)⟩
      intro m _ hm
      obtain ⟨p, hp⟩ := hm
      rw [hi] at hp
      injection hp with hj hp
      subst hj hp
      simpa using (h.busy i j [] hi).2.2
    | cons store pending => exact ⟨_, store_inv hd h hi⟩
  | finishing =>
    have hnot : ∀ j, j < jobs.length → (∃ pending, q.workers i = .busy j pending) → done j = job jobs j := by
      intro j _ hbusy
      obtain ⟨p, hp⟩ := hbusy
      rw [hi] at hp
      cases hp
    have hlen := h.ended i (.inl hi)
    refine ⟨done, ?_⟩
    dsimp only
    split_ifs
    · exact idle_inv h rfl rfl rfl (by simp) hnot (fun _ => hlen)
    · exact h
    · exact idle_inv h rfl rfl rfl (by simp) hnot (fun _ => hlen)
  | gone => exact ⟨done, h⟩

/-! ## The helpers that are left -/

def QueueWorker.present : QueueWorker β → Nat
  | .gone => 0
  | _ => 1

open scoped BigOperators in
/-- The count is that of the helpers still there, and the caller has left last. -/
structure LeftInv (q : WorkQueue β helpers) : Prop where
  count : q.left + (q.workers 0).present = ∑ i, (q.workers i).present
  last : q.workers 0 = .gone → q.left = 0

theorem present_update (q : WorkQueue β helpers)
    (hw : w.present = (q.workers i).present) :
    ∑ k, (Function.update q.workers i w k).present = ∑ k, (q.workers k).present := by
  have h := sum_update QueueWorker.present q.workers i w
  omega

theorem leftInv_same {q q' : WorkQueue β helpers} (h : LeftInv q)
    (hleft : q'.left = q.left) (hworkers : q'.workers = Function.update q.workers i w)
    (hw : w.present = 1) (hi : (q.workers i).present = 1) : LeftInv q' := by
  have hsum := present_update q (i := i) (w := w) (by rw [hw, hi])
  have hzero : (q'.workers 0).present = (q.workers 0).present := by
    rw [hworkers]
    by_cases h0 : (0 : Fin (helpers + 1)) = i
    · subst h0
      rw [Function.update_self, hw, hi]
    · rw [Function.update_of_ne h0]
  constructor
  · rw [hleft, hzero, h.count, hworkers, hsum]
  · intro hgone
    rw [hleft]
    apply h.last
    rw [hworkers] at hgone
    by_cases h0 : (0 : Fin (helpers + 1)) = i
    · subst h0
      rw [Function.update_self] at hgone
      rw [hgone] at hw
      cases hw
    · rwa [Function.update_of_ne h0] at hgone

theorem turn_left (h : LeftInv q) (i : Fin (helpers + 1)) : LeftInv (queueTurn jobs q i) := by
  unfold queueTurn
  cases hi : q.workers i with
  | fetch => exact leftInv_same h rfl rfl (by split <;> rfl) (by rw [hi]; rfl)
  | busy j pending =>
    cases pending with
    | nil | cons store pending => exact leftInv_same h rfl rfl rfl (by rw [hi]; rfl)
  | finishing =>
    have hone : (QueueWorker.finishing : QueueWorker β).present = 1 := rfl
    have hnone : (QueueWorker.gone : QueueWorker β).present = 0 := rfl
    have hsum := sum_update QueueWorker.present q.workers i .gone
    rw [hi, hone, hnone] at hsum
    have hcount := h.count
    dsimp only
    split_ifs with h0 hleft
    · subst h0
      rw [hi, hleft, hone] at hcount
      constructor
      · simp only [Function.update_self, hnone]
        omega
      · intro _
        exact hleft
    · exact h
    · have hne : (0 : Fin (helpers + 1)) ≠ i := fun he => h0 he.symm
      -- the helper itself is one of those the count has
      have hpos : (q.workers 0).present + (q.workers i).present ≤ ∑ k, (q.workers k).present := by
        rw [← Finset.add_sum_erase _ _ (Finset.mem_univ (0 : Fin (helpers + 1)))]
        apply Nat.add_le_add_left
        exact Finset.single_le_sum (f := fun k => (q.workers k).present) (fun _ _ => Nat.zero_le _)
          (Finset.mem_erase.mpr ⟨Ne.symm hne, Finset.mem_univ i⟩)
      rw [hi, hone] at hpos
      constructor
      · simp only [Function.update_of_ne hne]
        omega
      · simp only [Function.update_of_ne hne]
        intro hgone
        have := h.last hgone
        omega
  | gone => exact h

theorem start_left (memory : Nat → β) : LeftInv (WorkQueue.start helpers memory) := by
  constructor
  · simp [WorkQueue.start, QueueWorker.present]
  · intro h
    cases h

theorem queueAfter_inv (hd : DisjointJobs jobs) (memory : Nat → β) (schedule : List (Fin (helpers + 1))) :
    (∃ done, QueueInv jobs memory done (queueAfter jobs helpers memory schedule)) ∧
      LeftInv (queueAfter jobs helpers memory schedule) := by
  refine (queueMachine jobs helpers).run_induct
    (I := fun q _ => (∃ done, QueueInv jobs memory done q) ∧ LeftInv q) ?_ ?_ schedule
  · exact ⟨⟨_, start_inv memory⟩, start_left memory⟩
  · intro q _ i h
    obtain ⟨⟨done, hinv⟩, hleft⟩ := h
    exact ⟨turn_inv hd hinv i, turn_left hleft i⟩

theorem flatMap_job (jobs : List (List (Nat × β))) : (List.range jobs.length).flatMap (job jobs) = jobs.flatten := by
  induction jobs with
  | nil => rfl
  | cons a jobs ih =>
    rw [List.length_cons, List.range_succ_eq_map, List.flatMap_cons, List.flatMap_map, List.flatten_cons, ← ih]
    rfl

/-- When the caller returns every job has been done, as if one after the other. -/
theorem memory_of_returned (hd : DisjointJobs jobs) {schedule : List (Fin (helpers + 1))}
    (h : (queueAfter jobs helpers memory schedule).Returned) :
    (queueAfter jobs helpers memory schedule).memory = storeAll memory jobs.flatten := by
  obtain ⟨⟨done, hinv⟩, hleft⟩ := queueAfter_inv hd memory schedule
  generalize queueAfter jobs helpers memory schedule = q at h hinv hleft
  have hcount := hleft.count
  rw [hleft.last h, h] at hcount
  have hgone : ∀ i, (q.workers i).present = 0 := by
    intro i
    have := Finset.sum_eq_zero_iff.mp hcount.symm i (Finset.mem_univ i)
    exact this
  have hlen := hinv.ended 0 (.inr h)
  rw [hinv.memory, ← flatMap_job]
  congr 1
  apply List.flatMap_congr
  intro j hj
  have hj' := List.mem_range.mp hj
  apply hinv.complete j hj' (by omega)
  intro i pending hi
  have := hgone i
  rw [hi] at this
  cases this

/-! ## The work that is left -/

variable (jobs)

def QueueWorker.work : QueueWorker β → Nat
  | .fetch => 2
  | .busy _ pending => pending.length + 3
  | .finishing => 1
  | .gone => 0

/-- The work of the jobs that nobody has taken. -/
def untaken (n : Nat) : Nat := ((jobs.drop n).map fun stores => stores.length + 2).sum

open scoped BigOperators in
def queueWork (q : WorkQueue β helpers) : Nat := untaken jobs q.next + ∑ i, (q.workers i).work

variable {jobs}

theorem untaken_succ {n : Nat} (h : n < jobs.length) : untaken jobs n = (job jobs n).length + 2 + untaken jobs (n + 1) := by
  rw [untaken, List.drop_eq_getElem_cons h, List.map_cons, List.sum_cons, untaken]
  simp [job, h]

theorem untaken_le (n : Nat) : untaken jobs (n + 1) ≤ untaken jobs n := by
  by_cases h : n < jobs.length
  · rw [untaken_succ h]
    omega
  · rw [untaken, List.drop_eq_nil_of_le (by omega)]
    exact Nat.zero_le _

/-- Every turn comes nearer to the end, but those of a worker that has gone and of the caller
    while it waits. -/
theorem turn_work (q : WorkQueue β helpers) (i : Fin (helpers + 1)) :
    queueWork jobs (queueTurn jobs q i) < queueWork jobs q ∨
      queueTurn jobs q i = q ∧ (q.workers i = .gone ∨ i = 0 ∧ q.workers i = .finishing ∧ q.left ≠ 0) := by
  have hsum : ∀ w, ∑ k, (Function.update q.workers i w k).work + (q.workers i).work = ∑ k, (q.workers k).work + w.work :=
    fun w => sum_update QueueWorker.work q.workers i w
  unfold queueTurn
  cases hi : q.workers i with
  | fetch =>
    left
    have hle := @untaken_le _ jobs q.next
    simp only [queueWork]
    by_cases hlen : jobs.length ≤ q.next
    · have hs := hsum .finishing
      rw [hi] at hs
      simp only [if_pos hlen]
      have h2 : (QueueWorker.fetch : QueueWorker β).work = 2 := rfl
      have h1 : (QueueWorker.finishing : QueueWorker β).work = 1 := rfl
      omega
    · have hs := hsum (.busy q.next (job jobs q.next))
      rw [hi] at hs
      simp only [if_neg hlen]
      have h2 : (QueueWorker.fetch : QueueWorker β).work = 2 := rfl
      have h3 : (QueueWorker.busy q.next (job jobs q.next)).work = (job jobs q.next).length + 3 := rfl
      have huntaken := @untaken_succ _ jobs _ (Nat.lt_of_not_le hlen)
      omega
  | busy j pending =>
    left
    cases pending with
    | nil =>
      have hs := hsum .fetch
      rw [hi] at hs
      have h2 : (QueueWorker.fetch : QueueWorker β).work = 2 := rfl
      have h3 : (QueueWorker.busy j [] : QueueWorker β).work = 3 := rfl
      simp only [queueWork]
      omega
    | cons store pending =>
      have hs := hsum (.busy j pending)
      rw [hi] at hs
      have h2 : (QueueWorker.busy j pending).work = pending.length + 3 := rfl
      have h3 : (QueueWorker.busy j (store :: pending)).work = pending.length + 1 + 3 := rfl
      simp only [queueWork]
      omega
  | finishing =>
    have hs := hsum .gone
    rw [hi] at hs
    have h1 : (QueueWorker.finishing : QueueWorker β).work = 1 := rfl
    have h0 : (QueueWorker.gone : QueueWorker β).work = 0 := rfl
    dsimp only
    split_ifs with hcaller hleft
    · left
      simp only [queueWork]
      omega
    · exact .inr ⟨rfl, .inr ⟨hcaller, rfl, hleft⟩⟩
    · left
      simp only [queueWork]
      omega
  | gone => exact .inr ⟨rfl, .inl rfl⟩

/-- Until the caller returns somebody has something to do. -/
theorem exists_turn (h : LeftInv q) (hq : ¬ q.Returned) :
    ∃ i, queueWork jobs (queueTurn jobs q i) < queueWork jobs q := by
  rcases @turn_work _ _ jobs q 0 with hlt | ⟨-, hgone | ⟨-, -, hleft⟩⟩
  · exact ⟨0, hlt⟩
  · exact absurd hgone hq
  · -- the caller waits for a helper, and that one can go on
    have hcount := h.count
    obtain ⟨i, hi, hpresent⟩ : ∃ i : Fin (helpers + 1), i ≠ 0 ∧ (q.workers i).present ≠ 0 := by
      by_contra hnone
      have hzero : ∑ i ∈ Finset.univ.erase (0 : Fin (helpers + 1)), (q.workers i).present = 0 := by
        apply Finset.sum_eq_zero
        intro i hi
        by_contra hne
        exact hnone ⟨i, Finset.ne_of_mem_erase hi, hne⟩
      rw [← Finset.add_sum_erase _ _ (Finset.mem_univ (0 : Fin (helpers + 1))), hzero] at hcount
      omega
    refine ⟨i, ?_⟩
    rcases @turn_work _ _ jobs q i with hlt | ⟨-, hgone | ⟨h0, -⟩⟩
    · exact hlt
    · rw [hgone] at hpresent
      exact absurd rfl hpresent
    · exact absurd h0 hi

/-- So there is a schedule to the end from wherever the queue has come. -/
theorem exists_returned (hd : DisjointJobs jobs) (memory : Nat → β) (schedule : List (Fin (helpers + 1))) :
    ∃ more, (queueAfter jobs helpers memory (schedule ++ more)).Returned := by
  induction hwork : queueWork jobs (queueAfter jobs helpers memory schedule) using Nat.strong_induction_on
    generalizing schedule with
  | _ n ih =>
    by_cases hq : (queueAfter jobs helpers memory schedule).Returned
    · exact ⟨[], by simpa using hq⟩
    · obtain ⟨i, hi⟩ := @exists_turn _ _ jobs _ (queueAfter_inv hd memory schedule).2 hq
      have hstep : queueAfter jobs helpers memory (schedule ++ [i]) =
          queueTurn jobs (queueAfter jobs helpers memory schedule) i := by
        rw [queueAfter, Machine.run_snoc]
        rfl
      rw [← hstep, hwork] at hi
      obtain ⟨more, hmore⟩ := ih _ hi (schedule ++ [i]) rfl
      exact ⟨i :: more, by simpa using hmore⟩

end

end Mocktail.Lib
