/-
  Mocktail.Window.CommandGate — the callback that drains commands on the main thread
  (`main_thread_command_gate.h`).

  One thread invokes the callback, possibly from within it; any thread may register and clear
  one. What is done under the mutex is one step. An `Invoke` looks at `registered_` first, takes
  the callback under the mutex, runs it and counts itself out. A `Clear` takes the callback away
  and waits until no invocation is in flight, unless it is called from within one. A thread has a
  stack of the calls it is in; it makes a new call where it is in none or runs a callback.

  A registration has a number, in the order they were made, and `revoked` is the first number
  that no `Clear` has seen; the program keeps neither.

  Proved (`gate_quiescent`): when a `Clear` from outside returns no invocation of a callback it
  has seen is in progress, and none starts later; a `Clear` from within a callback does not
  wait, and no invocation of what it has seen starts later. A `Clear` that waits can return once
  the invoking thread is out of its calls (`clear_never_stuck`).
-/

import Mathlib.Data.List.Basic
import Mathlib.Order.Nat

namespace Mocktail.Window.CommandGate

abbrev Thread := Nat

structure Registration where
  callback : Nat
  context : Nat
  number : Nat
  deriving DecidableEq, Repr

/-- A call that a thread is in. -/
inductive Frame where
  /-- `Invoke` behind the fast path. -/
  | invoking
  /-- The callback runs. -/
  | calling (registration : Registration)
  /-- The callback has returned. -/
  | finishing
  /-- `Clear` waits; `bound` is the next number when it began. -/
  | clearing (bound : Nat) (deactivate : Bool)
  /-- `Deactivate` behind its `Clear`. -/
  | deactivating
  deriving DecidableEq, Repr

structure Gate where
  registered : Bool := false
  callback : Option Registration := none
  inFlight : Nat := 0
  /-- `invoking_thread_`, where `has_invoking_thread_`. -/
  invokingThread : Option Thread := none
  active : Bool := false
  calls : Thread → List Frame := fun _ => []
  next : Nat := 0
  revoked : Nat := 0

inductive Event where
  | activate (t : Thread)
  | register (t : Thread) (callback context : Nat)
  | invoke (t : Thread)
  /-- `Invoke` takes the callback. -/
  | take (t : Thread)
  /-- The callback returns. -/
  | back (t : Thread)
  /-- `Invoke` counts itself out. -/
  | finish (t : Thread)
  | clear (t : Thread) (deactivate : Bool)
  /-- A waiting `Clear` finds nothing in flight. -/
  | wake (t : Thread)
  | deactivated (t : Thread)

namespace Gate

variable (g : Gate)

/-- The thread can make a call. -/
def free (t : Thread) : Bool :=
  match g.calls t with
  | [] => true
  | .calling _ :: _ => true
  | _ => false

def setCalls (t : Thread) (frames : List Frame) : Gate := { g with calls := Function.update g.calls t frames }

/-- The return of a `Clear`, in `Deactivate` or by itself. -/
def cleared (t : Thread) (rest : List Frame) (deactivate : Bool) : Gate :=
  g.setCalls t (if deactivate then .deactivating :: rest else rest)

/-- The first section of `Clear`. -/
def revoke : Gate := { g with registered := false, callback := none, revoked := g.next }

variable (invoker : Thread)

def step : Event → Option Gate
  | .activate t => if g.free t then some { g with active := true } else none
  | .register t callback context =>
    if ¬ g.free t then none
    else if callback = 0 ∨ context = 0 ∨ g.active = false ∨ g.callback ≠ none then some g
    else some { g with callback := some ⟨callback, context, g.next⟩, registered := true, next := g.next + 1 }
  | .invoke t =>
    if ¬ g.free t ∨ t ≠ invoker then none
    else if g.registered then some (g.setCalls t (.invoking :: g.calls t)) else some g
  | .take t =>
    match g.calls t with
    | .invoking :: rest =>
      match g.callback with
      | some registration =>
        if g.active then some { g.setCalls t (.calling registration :: rest) with
          invokingThread := some t, inFlight := g.inFlight + 1 }
        else some (g.setCalls t rest)
      | none => some (g.setCalls t rest)
    | _ => none
  | .back t =>
    match g.calls t with
    | .calling _ :: rest => some (g.setCalls t (.finishing :: rest))
    | _ => none
  | .finish t =>
    match g.calls t with
    | .finishing :: rest =>
      some { g.setCalls t rest with
        inFlight := g.inFlight - 1, invokingThread := if g.inFlight - 1 = 0 then none else g.invokingThread }
    | _ => none
  | .clear t deactivate =>
    if ¬ g.free t then none
    else if g.invokingThread = some t ∨ g.inFlight = 0 then some (g.revoke.cleared t (g.calls t) deactivate)
    else some (g.revoke.setCalls t (.clearing g.next deactivate :: g.calls t))
  | .wake t =>
    match g.calls t with
    | .clearing _ deactivate :: rest => if g.inFlight = 0 then some (g.cleared t rest deactivate) else none
    | _ => none
  | .deactivated t =>
    match g.calls t with
    | .deactivating :: rest => some { g.setCalls t rest with active := false }
    | _ => none

end Gate

section
variable (invoker : Thread)

inductive Later (g : Gate) : Gate → Prop
  | refl : Later g g
  | step {h h' : Gate} {event : Event} (hl : Later g h) (hs : h.step invoker event = some h') : Later g h'

def Reached (g : Gate) : Prop := Later invoker {} g

end

/-- A `Clear` from outside the callback returns; the registrations below the number are those
    made before it. -/
def clearReturns (g : Gate) : Event → Option Nat
  | .clear t _ => if g.invokingThread ≠ some t ∧ g.inFlight = 0 then some g.next else none
  | .wake t =>
    match g.calls t with
    | .clearing bound _ :: _ => some bound
    | _ => none
  | _ => none

/-- The invocation that an event starts. -/
def starts (g : Gate) : Event → Option Registration
  | .take t =>
    match g.calls t with
    | .invoking :: _ => if g.active then g.callback else none
    | _ => none
  | _ => none

def InProgress (g : Gate) (registration : Registration) : Prop := ∃ t, .calling registration ∈ g.calls t

/-- No registration below the number is invoked from here on. -/
def NeverStarts (invoker : Thread) (g : Gate) (bound : Nat) : Prop :=
  ∀ h h' event registration, Later invoker g h → h.step invoker event = some h' → starts h event = some registration →
    bound ≤ registration.number

/-! ## The invariant -/

/-- The call counts as in flight. -/
def Frame.flying : Frame → Bool
  | .calling _ => true
  | .finishing => true
  | _ => false

/-- A call that every thread can be in. -/
def Frame.Shared (f : Frame) : Prop := f ≠ .invoking ∧ f.flying = false

structure Inv (invoker : Thread) (g : Gate) : Prop where
  count : g.inFlight = (g.calls invoker).countP Frame.flying
  others : ∀ t, t ≠ invoker → ∀ f ∈ g.calls t, f.Shared
  thread : g.invokingThread = if g.inFlight = 0 then none else some invoker
  current : ∀ registration, g.callback = some registration → g.revoked ≤ registration.number
  revoked : g.revoked ≤ g.next
  waiting : ∀ t bound deactivate, .clearing bound deactivate ∈ g.calls t → bound ≤ g.revoked

variable {invoker t : Thread} {g g' h : Gate} {event : Event} {frames rest : List Frame} {f : Frame}

theorem Inv.start : Inv invoker {} := by
  refine ⟨rfl, ?_, rfl, ?_, le_rfl, ?_⟩
  · exact fun t _ f hf => absurd hf List.not_mem_nil
  · exact fun _ hr => nomatch hr
  · exact fun t bound deactivate hf => absurd hf List.not_mem_nil

theorem calls_setCalls (g : Gate) (t u : Thread) (frames : List Frame) :
    (g.setCalls t frames).calls u = if u = t then frames else g.calls u := by
  rw [Gate.setCalls]
  exact Function.update_apply _ _ _ _

/-- A thread's stack with as many calls in flight as before. -/
theorem Inv.setCalls (hi : Inv invoker g) (hcount : t = invoker → frames.countP Frame.flying = (g.calls t).countP Frame.flying)
    (hothers : t ≠ invoker → ∀ f ∈ frames, f.Shared)
    (hwaiting : ∀ bound deactivate, .clearing bound deactivate ∈ frames → bound ≤ g.revoked) :
    Inv invoker (g.setCalls t frames) where
  count := by
    rw [calls_setCalls]
    split
    · rename_i heq
      rw [hcount heq.symm, ← heq]
      exact hi.count
    · exact hi.count
  others u hu f hf := by
    rw [calls_setCalls] at hf
    split at hf
    · rename_i heq
      exact hothers (heq ▸ hu) f hf
    · exact hi.others u hu f hf
  thread := hi.thread
  current := hi.current
  revoked := hi.revoked
  waiting u bound deactivate hf := by
    rw [calls_setCalls] at hf
    split at hf
    · exact hwaiting bound deactivate hf
    · exact hi.waiting u bound deactivate hf

/-- Only the invoking thread has calls of `Invoke`. -/
theorem Inv.invoker_of_not_shared (hi : Inv invoker g) (hf : f ∈ g.calls t) (hs : ¬ f.Shared) : t = invoker := by
  by_contra hne
  exact hs (hi.others t hne f hf)

theorem Inv.tail (hi : Inv invoker g) (hc : g.calls t = f :: rest) :
    (t ≠ invoker → ∀ f ∈ rest, f.Shared) ∧ ∀ bound deactivate, .clearing bound deactivate ∈ rest → bound ≤ g.revoked :=
  ⟨fun hne f' hf => hi.others t hne f' (hc ▸ List.mem_cons_of_mem _ hf),
    fun bound deactivate hf => hi.waiting t bound deactivate (hc ▸ List.mem_cons_of_mem _ hf)⟩

/-- A call that is not in flight ends, or is followed by another one. -/
theorem Inv.pop (hi : Inv invoker g) (hc : g.calls t = f :: rest) (hf : f.flying = false) : Inv invoker (g.setCalls t rest) := by
  obtain ⟨hothers, hwaiting⟩ := hi.tail hc
  refine hi.setCalls (fun _ => ?_) hothers hwaiting
  rw [hc, List.countP_cons_of_neg (by simp [hf])]

theorem Inv.push (hi : Inv invoker g) (hf : f.flying = false) (hshared : t ≠ invoker → f.Shared)
    (hwaiting : ∀ bound deactivate, f = .clearing bound deactivate → bound ≤ g.revoked) :
    Inv invoker (g.setCalls t (f :: g.calls t)) := by
  refine hi.setCalls (fun _ => List.countP_cons_of_neg (by simp [hf]))
    (fun hne => List.forall_mem_cons.mpr ⟨hshared hne, hi.others t hne⟩) ?_
  intro bound deactivate hmem
  rcases List.mem_cons.mp hmem with heq | hmem
  · exact hwaiting bound deactivate heq.symm
  · exact hi.waiting t bound deactivate hmem

theorem Inv.revoke (hi : Inv invoker g) : Inv invoker g.revoke where
  count := hi.count
  others := hi.others
  thread := hi.thread
  current _ hr := nomatch hr
  revoked := le_rfl
  waiting t bound deactivate hf := (hi.waiting t bound deactivate hf).trans hi.revoked

theorem shared_deactivating : Frame.Shared .deactivating := ⟨nofun, rfl⟩

theorem Inv.cleared (hi : Inv invoker (g.setCalls t rest)) (deactivate : Bool) : Inv invoker (g.cleared t rest deactivate) := by
  unfold Gate.cleared
  cases deactivate with
  | false => exact hi
  | true =>
    have hpush := @Inv.push invoker t _ .deactivating hi rfl (fun _ => shared_deactivating) nofun
    rw [calls_setCalls, if_pos rfl] at hpush
    rwa [show (g.setCalls t rest).setCalls t (.deactivating :: rest) = g.setCalls t (.deactivating :: rest) by
      simp [Gate.setCalls]] at hpush

theorem setCalls_self (g : Gate) (t : Thread) : g.setCalls t (g.calls t) = g := by
  simp [Gate.setCalls]

/-! ## Steps -/

theorem Inv.take (hi : Inv invoker g) (hc : g.calls t = .invoking :: rest) (registration : Registration) :
    Inv invoker { g.setCalls t (.calling registration :: rest) with invokingThread := some t, inFlight := g.inFlight + 1 } := by
  obtain rfl := hi.invoker_of_not_shared (hc ▸ List.mem_cons_self) fun hs => hs.1 rfl
  have hpop := hi.pop hc rfl
  refine ⟨?_, ?_, ?_, hi.current, hi.revoked, ?_⟩
  · have hcount := hpop.count
    rw [calls_setCalls, if_pos rfl] at hcount
    show g.inFlight + 1 = ((g.setCalls t (.calling registration :: rest)).calls t).countP Frame.flying
    rw [calls_setCalls, if_pos rfl, List.countP_cons_of_pos rfl]
    exact congrArg (· + 1) hcount
  · intro u hu f hf
    have hother := hpop.others u hu f
    rw [calls_setCalls, if_neg hu] at hother
    replace hf : f ∈ (g.setCalls t (.calling registration :: rest)).calls u := hf
    rw [calls_setCalls, if_neg hu] at hf
    exact hother hf
  · show some t = if g.inFlight + 1 = 0 then none else some t
    rw [if_neg (Nat.succ_ne_zero _)]
  · intro u bound deactivate hf
    replace hf : Frame.clearing bound deactivate ∈ (g.setCalls t (.calling registration :: rest)).calls u := hf
    rw [calls_setCalls] at hf
    split at hf
    · rcases List.mem_cons.mp hf with heq | hf
      · cases heq
      · exact (hi.tail hc).2 bound deactivate hf
    · exact hi.waiting u bound deactivate hf

theorem Inv.finish (hi : Inv invoker g) (hc : g.calls t = .finishing :: rest) :
    Inv invoker { g.setCalls t rest with
      inFlight := g.inFlight - 1, invokingThread := if g.inFlight - 1 = 0 then none else g.invokingThread } := by
  obtain rfl := hi.invoker_of_not_shared (hc ▸ List.mem_cons_self) fun hs => Bool.noConfusion hs.2
  have hcount := hi.count
  rw [hc, List.countP_cons_of_pos rfl] at hcount
  refine ⟨?_, ?_, ?_, hi.current, hi.revoked, ?_⟩
  · show g.inFlight - 1 = ((g.setCalls t rest).calls t).countP Frame.flying
    rw [calls_setCalls, if_pos rfl, hcount, Nat.add_sub_cancel]
  · intro u hu f hf
    replace hf : f ∈ (g.setCalls t rest).calls u := hf
    rw [calls_setCalls, if_neg hu] at hf
    exact hi.others u hu f hf
  · show (if g.inFlight - 1 = 0 then none else g.invokingThread) = if g.inFlight - 1 = 0 then none else some t
    rw [hi.thread, if_neg (by omega : g.inFlight ≠ 0)]
  · intro u bound deactivate hf
    replace hf : Frame.clearing bound deactivate ∈ (g.setCalls t rest).calls u := hf
    rw [calls_setCalls] at hf
    split at hf
    · exact (hi.tail hc).2 bound deactivate hf
    · exact hi.waiting u bound deactivate hf

theorem Inv.back {registration : Registration} (hi : Inv invoker g) (hc : g.calls t = .calling registration :: rest) :
    Inv invoker (g.setCalls t (.finishing :: rest)) := by
  have ht := hi.invoker_of_not_shared (hc ▸ List.mem_cons_self) fun hs => Bool.noConfusion hs.2
  refine hi.setCalls (fun _ => ?_) (fun hne => absurd ht hne) ?_
  · rw [hc, List.countP_cons_of_pos rfl, List.countP_cons_of_pos rfl]
  · intro bound deactivate hf
    rcases List.mem_cons.mp hf with heq | hf
    · cases heq
    · exact (hi.tail hc).2 bound deactivate hf

/-- Every step keeps the invariant. -/
theorem Inv.step (hi : Inv invoker g) (hs : g.step invoker event = some g') : Inv invoker g' := by
  unfold Gate.step at hs
  cases event with
  | activate t =>
    dsimp only at hs
    split at hs <;> cases hs
    exact ⟨hi.count, hi.others, hi.thread, hi.current, hi.revoked, hi.waiting⟩
  | register t callback context =>
    dsimp only at hs
    split at hs
    · cases hs
    · split at hs <;> cases hs
      · exact hi
      · refine ⟨hi.count, hi.others, hi.thread, ?_, hi.revoked.trans (Nat.le_succ _), hi.waiting⟩
        intro registration hr
        obtain rfl := Option.some.inj hr
        exact hi.revoked
  | invoke t =>
    dsimp only at hs
    split at hs
    · cases hs
    · rename_i hguard
      split at hs <;> cases hs
      · exact hi.push rfl (fun hne => absurd hne (not_not.mp (not_or.mp hguard).2 |> not_not.mpr)) nofun
      · exact hi
  | take t =>
    dsimp only at hs
    split at hs
    · rename_i rest hc
      split at hs
      · split at hs <;> cases hs
        · exact hi.take hc _
        · exact hi.pop hc rfl
      · cases hs
        exact hi.pop hc rfl
    · cases hs
  | back t =>
    dsimp only at hs
    split at hs
    · rename_i rest hc
      cases hs
      exact hi.back hc
    · cases hs
  | finish t =>
    dsimp only at hs
    split at hs
    · rename_i rest hc
      cases hs
      exact hi.finish hc
    · cases hs
  | clear t deactivate =>
    dsimp only at hs
    split at hs
    · cases hs
    · split at hs <;> cases hs
      · refine Inv.cleared ?_ deactivate
        rw [show g.revoke.setCalls t (g.calls t) = g.revoke from setCalls_self g.revoke t]
        exact hi.revoke
      · refine hi.revoke.push rfl (fun _ => ⟨nofun, rfl⟩) ?_
        rintro bound _ ⟨⟩
        exact le_rfl
  | wake t =>
    dsimp only at hs
    split at hs
    · rename_i bound deactivate rest hc
      split at hs <;> cases hs
      exact (hi.pop hc rfl).cleared deactivate
    · cases hs
  | deactivated t =>
    dsimp only at hs
    split at hs
    · rename_i rest hc
      cases hs
      have hpop := hi.pop hc rfl
      exact ⟨hpop.count, hpop.others, hpop.thread, hpop.current, hpop.revoked, hpop.waiting⟩
    · cases hs

theorem Inv.later (hi : Inv invoker g) (hl : Later invoker g h) : Inv invoker h := by
  induction hl with
  | refl => exact hi
  | step _ hs ih => exact ih.step hs

/-- What has been revoked stays so. -/
theorem revoked_step (hi : Inv invoker g) (hs : g.step invoker event = some g') : g.revoked ≤ g'.revoked := by
  unfold Gate.step at hs
  cases event <;> dsimp only at hs
  case clear t deactivate =>
    split at hs
    · cases hs
    · split at hs <;> cases hs
      · exact hi.revoked
      · exact hi.revoked
  all_goals
    repeat' split at hs
    all_goals cases hs <;> exact le_rfl

theorem revoked_later (hi : Inv invoker g) (hl : Later invoker g h) : g.revoked ≤ h.revoked := by
  induction hl with
  | refl => exact le_rfl
  | step hl hs ih => exact ih.trans (revoked_step (hi.later hl) hs)

/-! ## Quiescence -/

theorem Inv.neverStarts (hi : Inv invoker g) {bound : Nat} (hb : bound ≤ g.revoked) : NeverStarts invoker g bound := by
  intro h h' event registration hl _ hstart
  have hcurrent : h.callback = some registration := by
    unfold starts at hstart
    split at hstart
    · split at hstart
      · split at hstart
        · exact hstart
        · cases hstart
      · cases hstart
    · cases hstart
  exact (hb.trans (revoked_later hi hl)).trans ((hi.later hl).current registration hcurrent)

/-- With nothing in flight no callback runs. -/
theorem Inv.not_inProgress (hi : Inv invoker g) (hzero : g.inFlight = 0) (registration : Registration) :
    ¬ InProgress g registration := by
  rintro ⟨t, ht⟩
  obtain rfl := hi.invoker_of_not_shared ht fun hs => Bool.noConfusion hs.2
  have hpos : 0 < (g.calls t).countP Frame.flying := List.countP_pos_iff.mpr ⟨_, ht, rfl⟩
  rw [← hi.count] at hpos
  omega

/-- Where a `Clear` from outside returns, everything before it is revoked and nothing is in
    flight. -/
theorem Inv.returned (hi : Inv invoker g) (hs : g.step invoker event = some g') {bound : Nat}
    (hr : clearReturns g event = some bound) :
    g'.inFlight = 0 ∧ bound ≤ g'.revoked := by
  unfold clearReturns at hr
  unfold Gate.step at hs
  split at hr
  · rename_i t deactivate
    split at hr
    · rename_i hout
      obtain rfl := Option.some.inj hr
      dsimp only at hs
      split at hs
      · cases hs
      · rw [if_pos (.inr hout.2)] at hs
        cases hs
        exact ⟨hout.2, le_rfl⟩
    · cases hr
  · rename_i t
    split at hr
    · rename_i bound' deactivate rest hc
      obtain rfl := Option.some.inj hr
      dsimp only at hs
      rw [hc] at hs
      dsimp only at hs
      split at hs
      · rename_i hzero
        cases hs
        exact ⟨hzero, hi.waiting t bound' deactivate (hc ▸ List.mem_cons_self)⟩
      · cases hs
    · cases hr
  · cases hr

/-- Every interleaving of the calls of all threads. -/
theorem gate_quiescent {invoker : Thread} {g : Gate} (hg : Reached invoker g) :
    (∀ event g' bound, g.step invoker event = some g' → clearReturns g event = some bound →
      (∀ registration, InProgress g' registration → bound ≤ registration.number) ∧ NeverStarts invoker g' bound) ∧
    (∀ t registration rest, g.calls t = .calling registration :: rest →
      ∃ g', g.step invoker (.clear t false) = some g' ∧ g'.calls t = g.calls t ∧ NeverStarts invoker g' g.next) := by
  have hi : Inv invoker g := Inv.start.later hg
  constructor
  · intro event g' bound hs hr
    obtain ⟨hzero, hbound⟩ := hi.returned hs hr
    have hi' := hi.step hs
    exact ⟨fun registration hp => absurd hp (hi'.not_inProgress hzero registration), hi'.neverStarts hbound⟩
  · intro t registration rest hc
    have hfree : g.free t = true := by rw [Gate.free, hc]
    obtain rfl := hi.invoker_of_not_shared (hc ▸ List.mem_cons_self) fun hs => Bool.noConfusion hs.2
    have hflying : g.inFlight ≠ 0 := by
      rw [hi.count, hc, List.countP_cons_of_pos rfl]
      exact Nat.succ_ne_zero _
    have hs : g.step t (.clear t false) = some (g.revoke.cleared t (g.calls t) false) := by
      unfold Gate.step
      dsimp only
      rw [if_neg (not_not.mpr hfree), if_pos (.inl (by rw [hi.thread, if_neg hflying]))]
    refine ⟨_, hs, ?_, (hi.step hs).neverStarts le_rfl⟩
    show (g.revoke.setCalls t (g.calls t)).calls t = g.calls t
    rw [calls_setCalls, if_pos rfl]

/-- A callback on thread 0 that is cleared from thread 1. -/
theorem gate_quiescent_waiting :
    ∃ g : Gate, Reached 0 g ∧ g.inFlight = 1 ∧
      ∃ g', g.step 0 (.clear 0 false) = some g' ∧ g'.calls 0 = g.calls 0 ∧ NeverStarts 0 g' g.next := by
  let run : List Event := [.activate 1, .register 1 5 6, .invoke 0, .take 0, .clear 1 false]
  have hrun : ∀ (events : List Event) (g g' : Gate), Reached 0 g → events.foldlM (Gate.step · 0) g = some g' → Reached 0 g' := by
    intro events
    induction events with
    | nil =>
      intro g g' hg hs
      obtain rfl := Option.some.inj hs
      exact hg
    | cons event events ih =>
      intro g g' hg hs
      rw [List.foldlM_cons] at hs
      obtain ⟨h, hh, hs⟩ := Option.bind_eq_some_iff.mp hs
      exact ih h g' (.step hg hh) hs
  have hsome : (run.foldlM (Gate.step · 0) {}).map (fun g => (g.inFlight, g.calls 0)) = some (1, [.calling ⟨5, 6, 0⟩]) := by
    decide
  obtain ⟨g, hg, hfields⟩ := Option.map_eq_some_iff.mp hsome
  obtain ⟨hflying, hcalls⟩ := Prod.mk.inj hfields
  have hreached := hrun run {} g .refl hg
  exact ⟨g, hreached, hflying, (gate_quiescent hreached).2 0 _ [] hcalls⟩

/-! ## Progress -/

/-- What takes a thread further in the call it is in. -/
@[simp] def Frame.next (t : Thread) : Frame → Event
  | .invoking => .take t
  | .calling _ => .back t
  | .finishing => .finish t
  | .clearing .. => .wake t
  | .deactivating => .deactivated t

/-- The invoking thread goes on with its calls and makes no new one. -/
inductive Unwinds (invoker : Thread) : Gate → Gate → Prop
  | refl (g : Gate) : Unwinds invoker g g
  | step {g h h' : Gate} {f : Frame} {rest : List Frame} (hc : g.calls invoker = f :: rest)
      (hs : g.step invoker (f.next invoker) = some h) (hu : Unwinds invoker h h') : Unwinds invoker g h'

@[simp] def weight : List Frame → Nat
  | [] => 0
  | .invoking :: rest => 3 + weight rest
  | .calling _ :: rest => 2 + weight rest
  | _ :: rest => 1 + weight rest

def Awake (t : Thread) (g : Gate) : Prop := ∀ bound deactivate, .clearing bound deactivate ∉ g.calls t

/-- A `Clear` of the invoking thread finds nothing in flight, or itself. -/
theorem awake_step (hi : Inv invoker g) (ha : Awake invoker g) (hs : g.step invoker event = some g') : Awake invoker g' := by
  have hthread := hi.thread
  have hrevoke : g.revoke.calls = g.calls := rfl
  unfold Gate.step at hs
  unfold Awake at ha ⊢
  cases event <;> dsimp only at hs
  all_goals
    repeat' split at hs
    all_goals cases hs <;> grind [Gate.cleared, calls_setCalls]

theorem next_step (hc : g.calls t = f :: rest) (hf : ∀ bound deactivate, f ≠ .clearing bound deactivate) :
    ∃ frames, weight frames < weight (f :: rest) ∧
      (g.step invoker (f.next t)).map Gate.calls = some (Function.update g.calls t frames) := by
  cases f with
  | invoking =>
    refine ⟨if g.active then g.callback.toList.map .calling ++ rest else rest, ?_, ?_⟩
    · cases g.active <;> cases g.callback <;> simp
    · cases hactive : g.active <;> cases hcallback : g.callback <;> simp [Gate.step, Gate.setCalls, hc, hactive, hcallback]
  | calling => exact ⟨.finishing :: rest, by simp, by simp [Gate.step, Gate.setCalls, hc]⟩
  | finishing | deactivating => exact ⟨rest, by simp, by simp [Gate.step, Gate.setCalls, hc]⟩
  | clearing bound deactivate => exact absurd rfl (hf bound deactivate)

theorem unwinds (hi : Inv invoker g) (ha : Awake invoker g) :
    ∃ g', Unwinds invoker g g' ∧ g'.inFlight = 0 ∧ ∀ t, t ≠ invoker → g'.calls t = g.calls t := by
  induction hw : weight (g.calls invoker) using Nat.strong_induction_on generalizing g with
  | _ n ih =>
    cases hc : g.calls invoker with
    | nil => exact ⟨g, .refl g, by rw [hi.count, hc]; rfl, fun _ _ => rfl⟩
    | cons f rest =>
      obtain ⟨frames, hless, hstep⟩ := next_step hc fun bound deactivate heq =>
        ha bound deactivate (hc ▸ heq ▸ List.mem_cons_self)
      obtain ⟨h, hs, hcalls⟩ := Option.map_eq_some_iff.mp hstep
      have hlt : weight (h.calls invoker) < n := by rwa [hcalls, Function.update_self, ← hw, hc]
      obtain ⟨g', hu, hzero, hsame⟩ := ih _ hlt (hi.step hs) (awake_step hi ha hs) rfl
      refine ⟨g', .step hc hs hu, hzero, fun t ht => ?_⟩
      rw [hsame t ht, hcalls, Function.update_of_ne ht]

/-- A waiting `Clear` can return when the invoking thread has come out of its calls. -/
theorem clear_never_stuck {bound : Nat} {deactivate : Bool} (hg : Reached invoker g)
    (hc : g.calls t = .clearing bound deactivate :: rest) :
    ∃ g' g'', Unwinds invoker g g' ∧ g'.step invoker (.wake t) = some g'' := by
  have ha : Awake invoker g := by
    clear hc
    induction hg with
    | refl => exact fun _ _ => List.not_mem_nil
    | step hl hs ih => exact awake_step (Inv.start.later hl) ih hs
  obtain ⟨g', hu, hzero, hcalls⟩ := unwinds (Inv.start.later hg) ha
  have ht : t ≠ invoker := by
    rintro rfl
    exact ha bound deactivate (hc ▸ List.mem_cons_self)
  exact ⟨g', _, hu, by simp [Gate.step, hcalls t ht, hc, hzero]; rfl⟩

/-- Thread 1 waits while thread 0 is in a callback. -/
theorem clear_never_stuck_waiting :
    ∃ g : Gate, g.calls 1 = [.clearing 1 false] ∧ ∃ g' g'', Unwinds 0 g g' ∧ g'.step 0 (.wake 1) = some g'' := by
  have hg := @Later.step 0 {} _ _ (.clear 1 false) (@Later.step 0 {} _ _ (.take 0) (@Later.step 0 {} _ _ (.invoke 0)
    (@Later.step 0 {} _ _ (.register 1 5 6) (@Later.step 0 {} _ _ (.activate 1) .refl rfl) rfl) rfl) rfl) rfl
  exact ⟨_, rfl, clear_never_stuck hg rfl⟩

end Mocktail.Window.CommandGate
