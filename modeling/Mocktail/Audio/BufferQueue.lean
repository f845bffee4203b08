/-
  Mocktail.Audio.BufferQueue — the OpenSL buffer queue over an audio sink
  (src/audio/opensl_simple_buffer_queue.cc).

  Every section under `mutex` is one step. `Enqueue`, `Clear` and the sink's part of
  `Shutdown` hold `sink_operation_mutex` from their first section to their last; `operation`
  is its holder, and a caller that finds it held waits, which is a step that changes nothing.

  The sink is the environment. A buffer it takes (`sinkTakes`) is `owed` until the sink
  issues its one release (`releaseRead`, which reads the ticket's state pointer without the
  lock) and that release gets the lock (`release`); both may come at any time, from any
  thread, whatever `Clear` and `Shutdown` did meanwhile. A buffer it refuses is never
  released.

  A release knows its buffer only as the ticket. `Clear` recycles every ticket at once, so a
  later buffer may get a ticket whose old release is still owed:
  - `accounting_of_fresh_tickets`: in the runs where no ticket is handed out while a release
    on it is owed, and `Shutdown` ends with nothing pending, the accounts hold in every
    state and a release acts on its own buffer only.
  - `a_late_release_takes_the_next_buffer`: the release of a cleared buffer consumes the
    buffer enqueued after it.
-/

import Mocktail.Lib.Trace
import Mocktail.Lib.Slots
import Mocktail.Base.Status

namespace Mocktail.Audio

open Mocktail.Lib

/-- `ReleaseTicket`; `hasState` tells a set `state` pointer. -/
structure Ticket where
  hasState : Bool := false
  id : Nat := 0
  generation : Nat := 0
  inUse : Bool := false
  deriving DecidableEq, Repr

/-- A buffer as its release names it: the ticket's slot, and the id the ticket had then. -/
structure Loan where
  slot : Nat
  id : Nat
  size : Nat
  deriving DecidableEq, Repr

/-- Who holds `sink_operation_mutex`. -/
inductive Operation where
  /-- Before the sink's answer. -/
  | enqueue (loan : Loan)
  /-- The sink took the buffer and has not returned yet. -/
  | taken
  | clear
  | shutdown
  deriving DecidableEq, Repr

structure Queue where
  maxBuffers : Nat
  tickets : Nat → Ticket := fun _ => {}
  freeTickets : List Nat
  pendingCount : Nat := 0
  /-- Whether a callback is registered, and the jobs that wait for it. -/
  callback : Bool := false
  callbackJobs : Nat := 0
  lastStatus : Status := Status.okStatus
  nextId : Nat := 1
  generation : Nat := 1
  processedBuffers : Nat := 0
  submittedBuffers : Nat := 0
  consumedBuffers : Nat := 0
  discardedBuffers : Nat := 0
  consumedBytes : Nat := 0
  stopping : Bool := false
  shutdownStarted : Bool := false
  /-- The sink's `Shutdown` has returned. -/
  sinkStopped : Bool := false
  shutdownComplete : Bool := false
  operation : Option Operation := none
  /-- Buffers the sink has taken and not released. -/
  owed : List Loan := []
  /-- Releases between reading the ticket and taking the lock. -/
  releasing : List Loan := []

/-- The constructor: every ticket is free, the lowest on top. -/
def create (maxBuffers : Nat) : Queue := { maxBuffers, freeTickets := (List.range maxBuffers).reverse }

inductive Act where
  | enqueue (size : Nat)
  | sinkTakes
  | enqueueReturn (status : Status)
  | clear
  | clearReturn (status : Status)
  /-- The sink issues the release of the `k`-th buffer it owes. -/
  | releaseRead (k : Nat)
  /-- The `k`-th issued release gets the lock. -/
  | release (k : Nat)
  | shutdown
  | shutdownSink
  | shutdownSinkReturn
  | shutdownEnd
  | registerCallback (registered : Bool)
  | runCallback
  deriving DecidableEq, Repr

namespace Queue

variable (s : Queue)

/-- A ticket goes back to the free list. -/
def recycle (slot : Nat) : Queue :=
  { s with
    tickets := upd s.tickets slot { s.tickets slot with inUse := false, hasState := false }
    freeTickets := s.freeTickets ++ [slot]
    pendingCount := if 0 < s.pendingCount then s.pendingCount - 1 else s.pendingCount }

/-- The first section of `AbiEnqueue`. -/
def enqueue (size : Nat) : Queue :=
  if size = 0 then s
  else if s.stopping then s
  else if s.maxBuffers ≤ s.pendingCount then s
  else
    match s.freeTickets.getLast? with
    | none => s
    | some slot =>
      { s with
        freeTickets := s.freeTickets.dropLast
        nextId := s.nextId + 1
        tickets := upd s.tickets slot ⟨true, s.nextId, s.generation, true⟩
        pendingCount := s.pendingCount + 1
        submittedBuffers := s.submittedBuffers + 1
        operation := some (.enqueue ⟨slot, s.nextId, size⟩) }

/-- The last section of `AbiEnqueue`, after a failed sink call. -/
def enqueueFailed (loan : Loan) (status : Status) : Queue :=
  let s := { s with lastStatus := status, operation := none }
  if (s.tickets loan.slot).inUse ∧ (s.tickets loan.slot).id = loan.id then
    let s := s.recycle loan.slot
    { s with submittedBuffers := if 0 < s.submittedBuffers then s.submittedBuffers - 1 else s.submittedBuffers }
  else s

/-- The first section of `AbiClear`. -/
def clear : Queue :=
  if s.stopping then s
  else
    { s with
      generation := s.generation + 1
      freeTickets := (List.range s.maxBuffers).reverse
      tickets := fun slot =>
        if (s.tickets slot).inUse then { s.tickets slot with inUse := false, hasState := false } else s.tickets slot
      discardedBuffers := s.discardedBuffers + used s.maxBuffers fun slot => (s.tickets slot).inUse
      pendingCount := 0
      operation := some .clear }

/-- The locked section of `ReleaseBuffer`. -/
def releaseBuffer (loan : Loan) : Queue :=
  if (s.tickets loan.slot).inUse then
    let ticket := s.tickets loan.slot
    let s := s.recycle loan.slot
    if !s.stopping ∧ ticket.generation = s.generation then
      { s with
        processedBuffers := s.processedBuffers + 1
        consumedBuffers := s.consumedBuffers + 1
        consumedBytes := s.consumedBytes + loan.size
        callbackJobs := if s.callback then s.callbackJobs + 1 else s.callbackJobs }
    else { s with discardedBuffers := s.discardedBuffers + 1 }
  else s

/-- The first section of `Shutdown`. -/
def shutdown : Queue :=
  if s.shutdownStarted then s
  else
    { s with
      shutdownStarted := true
      stopping := true
      generation := s.generation + 1
      callback := false
      callbackJobs := 0 }

/-- The last section of `Shutdown`. -/
def shutdownEnd : Queue :=
  let s := { s with shutdownComplete := true }
  if 0 < s.pendingCount then
    { s with
      lastStatus := Status.platformError "audio sink did not release all borrowed OpenSL buffers"
      tickets := fun slot => { s.tickets slot with inUse := false, hasState := false }
      pendingCount := 0 }
  else s

/-- One step; an act that is not enabled changes nothing. -/
def step : Act → Queue
  | .enqueue size => if s.operation = none then s.enqueue size else s
  | .sinkTakes =>
    match s.operation with
    | some (.enqueue loan) => { s with operation := some .taken, owed := s.owed ++ [loan] }
    | _ => s
  | .enqueueReturn status =>
    match s.operation with
    | some .taken => { s with operation := none }
    | some (.enqueue loan) => if status.ok then s else s.enqueueFailed loan status
    | _ => s
  | .clear => if s.operation = none then s.clear else s
  | .clearReturn status =>
    if s.operation = some .clear then
      { s with operation := none, lastStatus := if status.ok then s.lastStatus else status }
    else s
  | .releaseRead k =>
    match s.owed[k]? with
    | some loan =>
      let s := { s with owed := s.owed.eraseIdx k }
      if (s.tickets loan.slot).hasState then { s with releasing := s.releasing ++ [loan] } else s
    | none => s
  | .release k =>
    match s.releasing[k]? with
    | some loan => Queue.releaseBuffer { s with releasing := s.releasing.eraseIdx k } loan
    | none => s
  | .shutdown => s.shutdown
  | .shutdownSink =>
    if s.operation = none ∧ s.shutdownStarted ∧ !s.sinkStopped then { s with operation := some .shutdown } else s
  | .shutdownSinkReturn =>
    if s.operation = some .shutdown then { s with operation := none, sinkStopped := true } else s
  | .shutdownEnd => if s.sinkStopped ∧ !s.shutdownComplete then s.shutdownEnd else s
  | .registerCallback registered => if s.stopping then s else { s with callback := registered }
  | .runCallback =>
    if s.stopping then { s with callbackJobs := 0 } else { s with callbackJobs := s.callbackJobs - 1 }

end Queue

def queue : Machine Queue Act Unit where
  step s a := (s.step a, [])

/-! ## The accounts -/

def Queue.inUse (s : Queue) (slot : Nat) : Bool := (s.tickets slot).inUse

/-- The tables of the pool agree. -/
structure Queue.Pool (s : Queue) : Prop where
  pending : s.pendingCount = used s.maxBuffers s.inUse
  free : FreeList s.maxBuffers s.inUse s.freeTickets
  inPool : ∀ slot, s.inUse slot = true → slot < s.maxBuffers

structure Queue.Accounts (s : Queue) : Prop where
  balance : s.submittedBuffers = s.consumedBuffers + s.discardedBuffers + s.pendingCount
  pending : s.pendingCount = used s.maxBuffers s.inUse
  bound : s.pendingCount ≤ s.maxBuffers
  free : FreeList s.maxBuffers s.inUse s.freeTickets

/-- The buffers with a release to come. -/
def Queue.loans (s : Queue) : List Loan := s.owed ++ s.releasing

/-- A release changes no ticket of another buffer, and nothing at all when its own buffer is
no longer in use. -/
def Queue.ActsOnOwn (s : Queue) (loan : Loan) (t : Queue) : Prop :=
  (∀ slot, s.inUse slot = true → (s.tickets slot).id ≠ loan.id → t.tickets slot = s.tickets slot) ∧
  ((∀ slot, s.inUse slot = true → (s.tickets slot).id ≠ loan.id) →
    t.tickets = s.tickets ∧ t.freeTickets = s.freeTickets ∧ t.pendingCount = s.pendingCount ∧
    t.submittedBuffers = s.submittedBuffers ∧ t.consumedBuffers = s.consumedBuffers ∧
    t.discardedBuffers = s.discardedBuffers ∧ t.consumedBytes = s.consumedBytes)

/-- The ticket that an act hands out. -/
def handsOut (s : Queue) : Act → Option Nat
  | .enqueue size =>
    if s.operation = none ∧ size ≠ 0 ∧ !s.stopping ∧ s.pendingCount < s.maxBuffers then s.freeTickets.getLast? else none
  | _ => none

/-- No ticket is handed out while a release on it is to come, and `Shutdown` ends with
nothing pending. -/
def FreshTickets (s : Queue) (_ : List Unit) (a : Act) : Prop :=
  (∀ slot ∈ handsOut s a, ∀ loan ∈ s.loans, loan.slot ≠ slot) ∧
  (a = .shutdownEnd → s.sinkStopped = true → s.shutdownComplete = false → s.pendingCount = 0)

instance (s : Queue) (t : List Unit) (a : Act) : Decidable (FreshTickets s t a) := inferInstanceAs (Decidable (_ ∧ _))

/-! ## One step -/

structure Inv (s : Queue) : Prop where
  pool : s.Pool
  balance : s.submittedBuffers = s.consumedBuffers + s.discardedBuffers + s.pendingCount
  /-- A ticket in use whose release is to come is that release's own. -/
  own : ∀ loan ∈ s.loans, s.inUse loan.slot = true → (s.tickets loan.slot).id = loan.id
  /-- The buffer the sink is asked to take holds its ticket alone. -/
  asked : ∀ loan, s.operation = some (.enqueue loan) →
    s.inUse loan.slot = true ∧ (s.tickets loan.slot).id = loan.id ∧ ∀ other ∈ s.loans, other.slot ≠ loan.slot

variable {s : Queue}

theorem Inv.accounts (h : Inv s) : s.Accounts where
  balance := h.balance
  pending := h.pool.pending
  bound := by rw [h.pool.pending]; exact used_le _ _
  free := h.pool.free

theorem inUse_recycle (slot j : Nat) : (s.recycle slot).inUse j = if j = slot then false else s.inUse j := by
  unfold Queue.inUse Queue.recycle upd
  by_cases h : j = slot
  · subst h; simp
  · simp [h]

variable {k size slot : Nat}

theorem Queue.Pool.recycle (h : s.Pool) (hu : s.inUse slot = true) :
    (s.recycle slot).Pool ∧ (s.recycle slot).pendingCount + 1 = s.pendingCount := by
  have hlt := h.inPool slot hu
  have hself : (s.recycle slot).inUse slot = false := by rw [inUse_recycle, if_pos rfl]
  have hothers : ∀ j ≠ slot, (s.recycle slot).inUse j = s.inUse j := fun j hj => by rw [inUse_recycle, if_neg hj]
  have hcount : used s.maxBuffers s.inUse = used s.maxBuffers (s.recycle slot).inUse + 1 :=
    used_add hlt hself hu fun j hj => (hothers j hj).symm
  have hp : (s.recycle slot).pendingCount + 1 = s.pendingCount := by
    have hpos : 0 < s.pendingCount := by rw [h.pending]; exact used_pos hlt hu
    show (if 0 < s.pendingCount then s.pendingCount - 1 else s.pendingCount) + 1 = s.pendingCount
    rw [if_pos hpos]
    omega
  refine ⟨⟨?_, h.free.give hlt hu hself hothers, fun j hj => ?_⟩, hp⟩
  · have := h.pending
    show (s.recycle slot).pendingCount = used s.maxBuffers (s.recycle slot).inUse
    omega
  · by_cases hj' : j = slot
    · rw [hj']
      exact hlt
    · exact h.inPool j (by rw [← hothers j hj']; exact hj)

/-- A step that leaves pool and counters alone, adds no release and asks for no buffer. -/
theorem Inv.frame (h : Inv s) {t : Queue} (ht : t.tickets = s.tickets) (hm : t.maxBuffers = s.maxBuffers)
    (hf : t.freeTickets = s.freeTickets) (hp : t.pendingCount = s.pendingCount)
    (hs : t.submittedBuffers = s.submittedBuffers) (hc : t.consumedBuffers = s.consumedBuffers)
    (hd : t.discardedBuffers = s.discardedBuffers) (hl : ∀ loan ∈ t.loans, loan ∈ s.loans)
    (ho : ∀ loan, t.operation = some (.enqueue loan) → s.operation = some (.enqueue loan)) : Inv t := by
  have hu : t.inUse = s.inUse := by
    funext slot
    unfold Queue.inUse
    rw [ht]
  refine ⟨⟨?_, ?_, ?_⟩, ?_, ?_, ?_⟩
  · rw [hp, hm, hu]; exact h.pool.pending
  · rw [hm, hu, hf]; exact h.pool.free
  · rw [hm, hu]; exact h.pool.inPool
  · rw [hs, hc, hd, hp]; exact h.balance
  · intro loan hloan
    rw [hu, ht]
    exact h.own loan (hl loan hloan)
  · intro loan hop
    obtain ⟨h1, h2, h3⟩ := h.asked loan (ho loan hop)
    rw [hu, ht]
    exact ⟨h1, h2, fun other hother => h3 other (hl other hother)⟩

theorem handsOut_enqueue (hop : s.operation = none) (h0 : size ≠ 0) (hst : s.stopping = false)
    (hp : s.pendingCount < s.maxBuffers) (hlast : s.freeTickets.getLast? = some slot) :
    slot ∈ handsOut s (.enqueue size) := by
  simp only [handsOut]
  rw [if_pos ⟨hop, h0, by simp [hst], hp⟩]
  exact hlast

theorem enqueue_inv (h : Inv s) (hop : s.operation = none) (hg : FreshTickets s [] (.enqueue size)) :
    Inv (s.enqueue size) := by
  unfold Queue.enqueue
  by_cases h0 : size = 0
  · rw [if_pos h0]; exact h
  rw [if_neg h0]
  by_cases hst : s.stopping = true
  · rw [if_pos hst]; exact h
  rw [if_neg hst]
  by_cases hp : s.maxBuffers ≤ s.pendingCount
  · rw [if_pos hp]; exact h
  rw [if_neg hp]
  cases hlast : s.freeTickets.getLast? with
  | none => exact h
  | some slot =>
    -- the ticket is free, and by the guard no release on it is to come
    have hfree : s.freeTickets.dropLast ++ [slot] = s.freeTickets := List.dropLast_append_getLast? slot hlast
    have hnone : ∀ loan ∈ s.loans, loan.slot ≠ slot :=
      hg.1 slot (handsOut_enqueue hop h0 (by simpa using hst) (by omega) hlast)
    obtain ⟨hlt, hunused⟩ := (h.pool.free.mem slot).mp (List.mem_of_getLast? hlast)
    have hself : (upd s.tickets slot ⟨true, s.nextId, s.generation, true⟩ slot).inUse = true := by rw [upd_same]
    have hothers : ∀ j ≠ slot, (upd s.tickets slot ⟨true, s.nextId, s.generation, true⟩ j).inUse = s.inUse j :=
      fun j hj => by rw [upd_ne _ _ hj]; rfl
    refine ⟨⟨?_, ?_, ?_⟩, ?_, ?_, ?_⟩
    · show s.pendingCount + 1 = used s.maxBuffers fun j => (upd s.tickets slot _ j).inUse
      rw [used_add hlt hunused hself hothers, h.pool.pending]
    · exact FreeList.take (by rw [hfree]; exact h.pool.free) hself hothers
    · intro j hj
      by_cases hj' : j = slot
      · rw [hj']; exact hlt
      · exact h.pool.inPool j (by rw [← hothers j hj']; exact hj)
    · have := h.balance
      show s.submittedBuffers + 1 = s.consumedBuffers + s.discardedBuffers + (s.pendingCount + 1)
      omega
    · intro loan hloan hu
      have hne := hnone loan hloan
      show (upd s.tickets slot _ loan.slot).id = loan.id
      rw [upd_ne _ _ hne]
      exact h.own loan hloan (by rw [← hothers loan.slot hne]; exact hu)
    · intro loan hloan
      obtain rfl : loan = ⟨slot, s.nextId, size⟩ := by simpa using hloan.symm
      refine ⟨hself, ?_, hnone⟩
      show (upd s.tickets slot _ slot).id = _
      rw [upd_same]

theorem recycle_own (h : Inv s) (slot : Nat) :
    ∀ loan ∈ s.loans, (s.recycle slot).inUse loan.slot = true → ((s.recycle slot).tickets loan.slot).id = loan.id := by
  intro loan hloan hu
  rw [inUse_recycle] at hu
  split at hu
  · cases hu
  · rename_i hne
    show (upd s.tickets slot _ loan.slot).id = loan.id
    rw [upd_ne _ _ hne]
    exact h.own loan hloan hu

variable {loan : Loan}

theorem enqueueFailed_inv (h : Inv s) (hop : s.operation = some (.enqueue loan)) (status : Status) :
    Inv (s.enqueueFailed loan status) := by
  obtain ⟨hu, hid, -⟩ := h.asked loan hop
  have h' : Inv { s with lastStatus := status, operation := none } :=
    h.frame rfl rfl rfl rfl rfl rfl rfl (fun _ hl => hl) (fun _ ho => by cases ho)
  obtain ⟨hpool, hpend⟩ := h'.pool.recycle hu
  have hown := recycle_own h' loan.slot
  have hbal := h.balance
  simp only [Queue.enqueueFailed]
  rw [if_pos ⟨hu, hid⟩]
  refine ⟨⟨hpool.pending, hpool.free, hpool.inPool⟩, ?_, hown, fun _ ho => by cases ho⟩
  have hpend : (Queue.recycle { s with lastStatus := status, operation := none } loan.slot).pendingCount + 1 =
    s.pendingCount := hpend
  show (if 0 < s.submittedBuffers then s.submittedBuffers - 1 else s.submittedBuffers) = s.consumedBuffers +
    s.discardedBuffers + (Queue.recycle { s with lastStatus := status, operation := none } loan.slot).pendingCount
  rw [if_pos (by omega)]
  omega

theorem clear_inv (h : Inv s) : Inv s.clear := by
  unfold Queue.clear
  split
  · exact h
  · have hunused : ∀ slot, (if (s.tickets slot).inUse then ({ s.tickets slot with inUse := false, hasState := false } : Ticket)
        else s.tickets slot).inUse = false := by
      intro slot
      split
      · rfl
      · exact eq_false_of_ne_true ‹_›
    refine ⟨⟨?_, freeList_all fun j _ => hunused j, fun j hj => ?_⟩, ?_, ?_, fun _ ho => by cases ho⟩
    · exact (used_none fun j _ => hunused j).symm
    · have hj := (hunused j).symm.trans hj
      cases hj
    · have hb := h.balance
      have hp := h.pool.pending
      show s.submittedBuffers = s.consumedBuffers + (s.discardedBuffers + used s.maxBuffers s.inUse) + 0
      omega
    · intro loan _ hu
      have hu := (hunused loan.slot).symm.trans hu
      cases hu

theorem releaseBuffer_inv (h : Inv s) (loan : Loan)
    (hne : ∀ asked, s.operation = some (.enqueue asked) → asked.slot ≠ loan.slot) :
    Inv (s.releaseBuffer loan) := by
  unfold Queue.releaseBuffer
  by_cases hu : (s.tickets loan.slot).inUse = true
  · rw [if_pos hu]
    obtain ⟨hpool, hpend⟩ := h.pool.recycle hu
    have hown := recycle_own h loan.slot
    have hbal := h.balance
    have hasked : ∀ asked, s.operation = some (.enqueue asked) → (s.recycle loan.slot).inUse asked.slot = true ∧
        ((s.recycle loan.slot).tickets asked.slot).id = asked.id ∧ ∀ other ∈ s.loans, other.slot ≠ asked.slot := by
      intro asked ho
      obtain ⟨h1, h2, h3⟩ := h.asked asked ho
      have hs := hne asked ho
      refine ⟨by rw [inUse_recycle, if_neg hs]; exact h1, ?_, h3⟩
      show (upd s.tickets loan.slot _ asked.slot).id = asked.id
      rw [upd_ne _ _ hs]
      exact h2
    simp only
    split
    · refine ⟨⟨hpool.pending, hpool.free, hpool.inPool⟩, ?_, hown, hasked⟩
      show s.submittedBuffers = s.consumedBuffers + 1 + s.discardedBuffers + (s.recycle loan.slot).pendingCount
      omega
    · refine ⟨⟨hpool.pending, hpool.free, hpool.inPool⟩, ?_, hown, hasked⟩
      show s.submittedBuffers = s.consumedBuffers + (s.discardedBuffers + 1) + (s.recycle loan.slot).pendingCount
      omega
  · rw [if_neg hu]
    exact h

theorem mem_loans_eraseOwed (h : loan ∈ s.owed.eraseIdx k ++ s.releasing) : loan ∈ s.loans := by
  rcases List.mem_append.mp h with h | h
  · exact List.mem_append_left _ (List.mem_of_mem_eraseIdx h)
  · exact List.mem_append_right _ h

theorem mem_loans_eraseReleasing (h : loan ∈ s.owed ++ s.releasing.eraseIdx k) :
    loan ∈ s.loans := by
  rcases List.mem_append.mp h with h | h
  · exact List.mem_append_left _ h
  · exact List.mem_append_right _ (List.mem_of_mem_eraseIdx h)

theorem step_inv (h : Inv s) {a : Act} (hg : FreshTickets s [] a) : Inv (s.step a) := by
  cases a with
  | enqueue size =>
    simp only [Queue.step]
    split
    · rename_i hop
      exact enqueue_inv h hop hg
    · exact h
  | sinkTakes =>
    simp only [Queue.step]
    split
    · rename_i loan hop
      obtain ⟨hu, hid, hnone⟩ := h.asked loan hop
      refine ⟨⟨h.pool.pending, h.pool.free, h.pool.inPool⟩, h.balance, ?_, fun _ ho => by cases ho⟩
      intro other hother hu'
      rcases List.mem_append.mp hother with ho | ho
      · rcases List.mem_append.mp ho with ho | ho
        · exact h.own other (List.mem_append_left _ ho) hu'
        · obtain rfl := List.mem_singleton.mp ho
          exact hid
      · exact h.own other (List.mem_append_right _ ho) hu'
    · exact h
  | enqueueReturn status =>
    simp only [Queue.step]
    split
    · exact h.frame rfl rfl rfl rfl rfl rfl rfl (fun _ hl => hl) (fun _ ho => by cases ho)
    · rename_i loan hop
      split
      · exact h
      · exact enqueueFailed_inv h hop status
    · exact h
  | clear =>
    simp only [Queue.step]
    split
    · exact clear_inv h
    · exact h
  | clearReturn status | shutdownSink | shutdownSinkReturn =>
    simp only [Queue.step]
    split
    · exact h.frame rfl rfl rfl rfl rfl rfl rfl (fun _ hl => hl) (fun _ ho => by cases ho)
    · exact h
  | releaseRead k =>
    simp only [Queue.step]
    split
    · rename_i loan hk
      split
      · refine h.frame rfl rfl rfl rfl rfl rfl rfl (fun other ho => ?_) (fun _ ho => ho)
        rcases List.mem_append.mp ho with ho | ho
        · exact List.mem_append_left _ (List.mem_of_mem_eraseIdx ho)
        · rcases List.mem_append.mp ho with ho | ho
          · exact List.mem_append_right _ ho
          · obtain rfl := List.mem_singleton.mp ho
            exact List.mem_append_left _ (List.mem_of_getElem? hk)
      · exact h.frame rfl rfl rfl rfl rfl rfl rfl (fun _ ho => mem_loans_eraseOwed ho) (fun _ ho => ho)
    · exact h
  | release k =>
    simp only [Queue.step]
    split
    · rename_i loan hk
      have hmem : loan ∈ s.loans := List.mem_append_right _ (List.mem_of_getElem? hk)
      have h' : Inv { s with releasing := s.releasing.eraseIdx k } :=
        h.frame rfl rfl rfl rfl rfl rfl rfl (fun _ ho => mem_loans_eraseReleasing ho) (fun _ ho => ho)
      exact releaseBuffer_inv h' loan fun asked ho => Ne.symm ((h.asked asked ho).2.2 loan hmem)
    · exact h
  | shutdown =>
    simp only [Queue.step, Queue.shutdown]
    split
    · exact h
    · exact h.frame rfl rfl rfl rfl rfl rfl rfl (fun _ hl => hl) (fun _ ho => ho)
  | shutdownEnd =>
    simp only [Queue.step]
    split
    · rename_i hc
      have h0 := hg.2 rfl hc.1 (by simpa using hc.2)
      unfold Queue.shutdownEnd
      rw [if_neg (by simp [h0])]
      exact h.frame rfl rfl rfl rfl rfl rfl rfl (fun _ hl => hl) (fun _ ho => ho)
    · exact h
  | registerCallback registered =>
    simp only [Queue.step]
    split
    · exact h
    · exact h.frame rfl rfl rfl rfl rfl rfl rfl (fun _ hl => hl) (fun _ ho => ho)
  | runCallback =>
    simp only [Queue.step]
    split <;> exact h.frame rfl rfl rfl rfl rfl rfl rfl (fun _ hl => hl) (fun _ ho => ho)

theorem create_inv (maxBuffers : Nat) : Inv (create maxBuffers) := by
  refine ⟨⟨?_, freeList_all fun _ _ => rfl, fun j hj => by cases hj⟩, rfl, ?_, fun _ ho => by cases ho⟩
  · exact (used_none fun _ _ => rfl).symm
  · intro loan hloan
    cases hloan

/-! ## Whole runs -/

theorem run_inv (maxBuffers : Nat) (acts : List Act) (hg : queue.Guarded FreshTickets (create maxBuffers) acts) :
    Inv (queue.run (create maxBuffers) acts).1 :=
  queue.run_induct_guarded (I := fun s _ => Inv s) (create_inv maxBuffers) (fun _ _ _ h hc => step_inv h hc) acts hg

theorem release_actsOnOwn (h : Inv s) (hk : s.releasing[k]? = some loan) :
    s.ActsOnOwn loan (s.step (.release k)) := by
  have hmem : loan ∈ s.loans := List.mem_append_right _ (List.mem_of_getElem? hk)
  have hstep : s.step (.release k) = Queue.releaseBuffer { s with releasing := s.releasing.eraseIdx k } loan := by
    simp only [Queue.step, hk]
  rw [hstep]
  unfold Queue.releaseBuffer
  by_cases hu : (s.tickets loan.slot).inUse = true
  · have hid := h.own loan hmem hu
    rw [if_pos hu]
    refine ⟨fun slot _ hne => ?_, fun hnone => absurd hid (hnone loan.slot hu)⟩
    have hslot : slot ≠ loan.slot := by
      intro heq
      subst heq
      exact hne hid
    simp only
    split
    · exact upd_ne _ _ hslot
    · exact upd_ne _ _ hslot
  · rw [if_neg hu]
    exact ⟨fun _ _ _ => rfl, fun _ => ⟨rfl, rfl, rfl, rfl, rfl, rfl, rfl⟩⟩

/-- In a run that hands out no ticket with a release to come, and in which `Shutdown` ends
with nothing pending, the accounts hold in every state and each release acts on its own
buffer. -/
theorem accounting_of_fresh_tickets (maxBuffers : Nat) (acts : List Act)
    (hg : queue.Guarded FreshTickets (create maxBuffers) acts) :
    (queue.run (create maxBuffers) acts).1.Accounts ∧
    ∀ k loan, (queue.run (create maxBuffers) acts).1.releasing[k]? = some loan →
      (queue.run (create maxBuffers) acts).1.ActsOnOwn loan ((queue.run (create maxBuffers) acts).1.step (.release k)) :=
  ⟨(run_inv maxBuffers acts hg).accounts, fun _ _ hk => release_actsOnOwn (run_inv maxBuffers acts hg) hk⟩

/-- A buffer is enqueued and cleared, its release comes, and then the next one is enqueued. -/
def clearedInOrder : List Act :=
  [.enqueue 64, .sinkTakes, .enqueueReturn Status.okStatus, .clear, .clearReturn Status.okStatus, .releaseRead 0,
    .enqueue 32, .sinkTakes, .enqueueReturn Status.okStatus, .releaseRead 0]

theorem accounting_clearedInOrder :
    (queue.run (create 1) clearedInOrder).1.Accounts ∧ (queue.run (create 1) clearedInOrder).1.releasing ≠ [] :=
  ⟨(accounting_of_fresh_tickets 1 clearedInOrder (by decide +kernel)).1, by decide +kernel⟩

/-- The same calls with the release after the second buffer. -/
def clearedLate : List Act :=
  [.enqueue 64, .sinkTakes, .enqueueReturn Status.okStatus, .clear, .clearReturn Status.okStatus,
    .enqueue 32, .sinkTakes, .enqueueReturn Status.okStatus, .releaseRead 0]

/-- The release of buffer 1 takes the ticket of buffer 2, which the sink still holds. -/
theorem a_late_release_takes_the_next_buffer :
    (queue.run (create 1) clearedLate).1.releasing[0]? = some ⟨0, 1, 64⟩ ∧
    (queue.run (create 1) clearedLate).1.owed = [⟨0, 2, 32⟩] ∧
    (queue.run (create 1) clearedLate).1.tickets 0 = ⟨true, 2, 2, true⟩ ∧
    ((queue.run (create 1) clearedLate).1.step (.release 0)).tickets 0 = ⟨false, 2, 2, false⟩ ∧
    ((queue.run (create 1) clearedLate).1.step (.release 0)).consumedBuffers = 1 ∧
    ¬ (queue.run (create 1) clearedLate).1.ActsOnOwn ⟨0, 1, 64⟩ ((queue.run (create 1) clearedLate).1.step (.release 0)) := by
  refine ⟨by decide +kernel, by decide +kernel, by decide +kernel, by decide +kernel, by decide +kernel, fun h => ?_⟩
  have hsame := h.1 0 (by decide +kernel) (by decide +kernel)
  revert hsame
  decide +kernel

end Mocktail.Audio
