/-
  Mocktail.Launch.BrokerQueue — how long the queue of the external launch broker gets.

  `QueueNormalized` compares the queue with `maximum_pending_launches`. `Drain` takes an
  entry out before it calls the sink and puts it back when the sink refuses it, without a
  comparison. `Queues` lists what a step makes of the queue; it keeps to the maximum exactly
  when every refused entry finds room (`pending_bounded_iff`).
-/

import Mocktail.Launch.Broker

namespace Mocktail.Launch

open Mocktail.Lib

variable {lib : JsonLibrary} {b : Broker} {t : List BrokerObs}

/-! ## Steps -/

/-- A refused entry finds room when it goes back to the front. `QueueNormalized` does not count it
while it is in the hands of the drain. -/
def Broker.requeueFits (b : Broker) : BrokerAct → Bool
  | .dispatchReturn status => status.ok || b.held == [] || decide (b.pending.length < b.maximumPending)
  | _ => true

/-- What a step makes of the queue: nothing, a new entry that was tested for room or is the first,
one entry fewer, an entry back at the front, or no entry. -/
inductive Queues (b : Broker) (a : BrokerAct) (b' : Broker) : Prop where
  | same : b'.pending = b.pending → b'.held = b.held → Queues b a b'
  | pushed (e : Entry) : b.pending.length < b.maximumPending → b'.pending = b.pending ++ [e] → b'.held = b.held → Queues b a b'
  | taken (e : Entry) : b.held = [] → b.pending = e :: b'.pending → b'.held = [e] → Queues b a b'
  | delivered : b'.pending = b.pending → b'.held = [] → Queues b a b'
  | returned (e : Entry) (status : Status) : a = .dispatchReturn status → status.ok = false → b.held = [e] →
      b'.pending = e :: b.pending → b'.held = [] → Queues b a b'
  | cleared : b'.pending = [] → b'.held = b.held → Queues b a b'

theorem step_queues (lib : JsonLibrary) (h : Ledger b t) (a : BrokerAct) :
    (b.step lib a).1.maximumPending = b.maximumPending ∧ Queues b a (b.step lib a).1 := by
  have hsame : b.maximumPending = b.maximumPending ∧ Queues b a b := ⟨rfl, .same rfl rfl⟩
  have harrive : ∀ request, (b.arrive request).maximumPending = b.maximumPending ∧ Queues b a (b.arrive request) := by
    intro request
    unfold Broker.arrive
    split
    · split
      · exact hsame
      · exact ⟨rfl, .same rfl rfl⟩
    · exact hsame
  cases a with
  | start initial =>
    simp only [Broker.step, Broker.start]
    split
    · exact hsame
    rename_i hc
    simp only [not_or] at hc
    have hpending := (h.rests (eq_false_of_ne_true hc.1)).2.1
    have hroom : b.pending.length < b.maximumPending := by
      rw [hpending]
      exact Nat.pos_of_ne_zero hc.2.2.1
    split
    · exact ⟨rfl, .same rfl rfl⟩
    · split
      · exact ⟨rfl, .pushed _ hroom rfl rfl⟩
      · exact hsame
  | queueInitial request => exact harrive _
  | handlePeer sameUser packet => exact harrive _
  | queueNormalized k =>
    simp only [Broker.step, Broker.queueNormalized]
    split
    · exact hsame
    split
    · exact ⟨rfl, .same rfl rfl⟩
    split
    · exact ⟨rfl, .same rfl rfl⟩
    · rename_i hroom
      exact ⟨rfl, .pushed _ (Nat.not_le.mp hroom) rfl rfl⟩
  | drain maximumRequests =>
    simp only [Broker.step]
    split
    · rename_i hc
      have hfree : b.drain = none := by
        have := hc.1
        simp only [Broker.drainFree, Bool.and_eq_true, beq_iff_eq] at this
        exact this.1
      exact ⟨rfl, .same rfl (by simp [Broker.held, hfree])⟩
    · exact hsame
  | drainTurn =>
    simp only [Broker.step, Broker.drainTurn]
    split
    · rename_i hd
      exact ⟨rfl, .same rfl (by simp [Broker.held, hd])⟩
    · rename_i left hd
      split
      · exact ⟨rfl, .same rfl (by simp [Broker.held, hd])⟩
      · rename_i entry rest hp
        exact ⟨rfl, .taken entry (by simp [Broker.held, hd]) hp rfl⟩
    · exact hsame
  | dispatchReturn status =>
    simp only [Broker.step, Broker.dispatchReturn]
    split
    · rename_i left entry hd
      split
      · exact ⟨rfl, .delivered rfl rfl⟩
      · rename_i hfailed
        exact ⟨rfl, .returned entry status rfl (by simpa using hfailed) (by simp [Broker.held, hd]) rfl rfl⟩
    · exact hsame
  | shutdown | shutdownStop | shutdownWait joined | shutdownReturn =>
    simp only [Broker.step]
    split
    · exact ⟨rfl, .same rfl rfl⟩
    · exact hsame
  | shutdownClear =>
    simp only [Broker.step]
    split
    · exact ⟨rfl, .cleared rfl rfl⟩
    · exact hsame

/-! ## Lengths -/

theorem Queues.bounded {b' : Broker} {a : BrokerAct} (hq : Queues b a b') (hfits : b.requeueFits a = true)
    (h : b.pending.length ≤ b.maximumPending) : b'.pending.length ≤ b.maximumPending := by
  cases hq with
  | same hp => rw [hp]; exact h
  | pushed e hroom hp =>
    rw [hp, List.length_append, List.length_singleton]
    omega
  | taken e hh hp =>
    rw [hp, List.length_cons] at h
    omega
  | delivered hp => rw [hp]; exact h
  | returned e status ha hfailed hh hp =>
    rw [ha] at hfits
    simp only [Broker.requeueFits, hfailed, hh, Bool.false_or, Bool.or_eq_true, decide_eq_true_eq, beq_iff_eq, reduceCtorEq,
      false_or] at hfits
    rw [hp, List.length_cons]
    omega
  | cleared hp =>
    rw [hp]
    exact Nat.zero_le _

/-- A refused entry that finds a full queue makes it too long. -/
theorem dispatchReturn_overflows (lib : JsonLibrary) {a : BrokerAct} (hfits : ¬ b.requeueFits a = true) :
    b.maximumPending < (b.step lib a).1.pending.length := by
  cases a with
  | dispatchReturn status =>
    simp only [Broker.requeueFits, Bool.or_eq_true, decide_eq_true_eq, not_or, beq_iff_eq] at hfits
    obtain ⟨⟨hfailed, hheld⟩, hfull⟩ := hfits
    have hfull : b.maximumPending ≤ b.pending.length := Nat.not_lt.mp hfull
    simp only [Broker.step, Broker.dispatchReturn]
    split
    · rw [if_neg hfailed]
      exact Nat.lt_succ_of_le hfull
    · rename_i hnone
      refine absurd ?_ hheld
      unfold Broker.held
      split
      · rename_i left entry hd
        exact absurd hd (hnone left entry)
      · rfl
  | _ => exact absurd rfl hfits

/-! ## Every run -/

/-- The queue keeps its bound in every state of a run exactly when every refused entry finds room. -/
theorem pending_bounded_iff (lib : JsonLibrary) (maximumPending : Nat) (acts : List BrokerAct) :
    (∀ pre, pre <+: acts → ((broker lib).run (newBroker maximumPending) pre).1.pending.length ≤ maximumPending) ↔
      (broker lib).Guarded (fun b _ a => b.requeueFits a = true) (newBroker maximumPending) acts := by
  have hmaximum : ∀ pre, ((broker lib).run (newBroker maximumPending) pre).1.maximumPending = maximumPending := by
    intro pre
    have hrun := (broker lib).run_induct (s := newBroker maximumPending)
      (I := fun b t => Ledger b t ∧ b.maximumPending = maximumPending) ⟨Ledger.init maximumPending, rfl⟩
      (fun b t a h => ⟨h.1.step a, (step_queues lib h.1 a).1.trans h.2⟩) pre
    exact hrun.2
  constructor
  · intro h pre a post hsplit
    by_contra hfits
    have hafter := h (pre ++ [a]) ⟨post, by rw [hsplit]; simp⟩
    have hover := dispatchReturn_overflows lib hfits
    rw [hmaximum pre] at hover
    rw [Machine.run_snoc] at hafter
    exact absurd hafter (Nat.not_le.mpr hover)
  · intro h pre hex
    obtain ⟨post, rfl⟩ := hex
    have hpre : (broker lib).Guarded (fun b _ a => b.requeueFits a = true) (newBroker maximumPending) pre :=
      ((broker lib).guarded_append h).1
    have hrun := (broker lib).run_induct_guarded (C := fun b _ a => b.requeueFits a = true)
      (I := fun b t => Ledger b t ∧ b.maximumPending = maximumPending ∧ b.pending.length ≤ b.maximumPending)
      ⟨Ledger.init maximumPending, rfl, Nat.zero_le _⟩
      (fun b t a hi hfits => by
        obtain ⟨hledger, hmax, hbound⟩ := hi
        obtain ⟨hmax', hq⟩ := step_queues lib hledger a
        exact ⟨hledger.step a, hmax'.trans hmax, hmax'.symm ▸ hq.bounded hfits hbound⟩) pre hpre
    have hbound := hrun.2.2
    rw [hmaximum pre] at hbound
    exact hbound

/-- The queue of one: the drain takes its entry to a sink that is busy, a peer's takes the place. -/
theorem requeue_overflows :
    ¬ ∀ acts, ((broker (oneDocument (launchText [0x41]) (launchMembers [0x41]))).run (newBroker 1) acts).1.pending.length ≤
      1 := by
  intro h
  have hrun := h [.start (some { canonicalJson := launchText [0x41] }), .drain 1, .drainTurn,
    .handlePeer true (kWirePrefix ++ launchText [0x41]), .queueNormalized 0, .dispatchReturn (Status.unavailable "busy")]
  exact absurd hrun (by decide +kernel)

end Mocktail.Launch
