/-
  Mocktail.Audio.PlayoutTeardown — no playout session is torn down from its own callback, in the
  runs that take none out of the context there.

  A thread that makes a call from inside the callback of session `s` may hold `s` in a local. As
  long as some other pointer outlives that local, dropping it frees nothing. `anchored` is this
  pointer: the map's entry, or a local of another thread that is about to shut the sink of `s` down
  and has to wait for the callback first.

  A call that is to stop the sessions of an identity stops the one in the map; the others have to
  be quiet when it looks (`Careful`), and stay so (`HasStopped`).
-/

import Mocktail.Audio.PlayoutCallbacks

namespace Mocktail.Audio.Playout

open Mocktail.Lib

variable {I : Type} [DecidableEq I]

/-! ## What a call holds and still has to do -/

/-- The locals that may be set at this point. -/
def Caller.alive : Caller I → Holder I → Bool
  | .create _, .previous _ => true
  | .reject, .previous _ => true
  | .reject, .session _ => true
  | .stop _, .session _ => true
  | .shutdown _ _, .swapped _ _ => true
  | _, _ => false

def Call.alive : Call I → Holder I → Bool
  | .initCreate _, .previous _ => true
  | .initPublish _, .previous _ => true
  | .initPublish _, .session _ => true
  | .startCheck, .session _ => true
  | .startLock, .session _ => true
  | .startMark, .session _ => true
  | .startResume, .session _ => true
  | .shutdownNext _ _, .swapped _ _ => true
  | .closing _ _ caller, v => caller.alive v
  | .leave locals _, v => decide (v ∈ locals)
  | _, _ => false

variable {v : Holder I} {caller : Caller I}

/-- Back in its caller, the call has the same locals. -/
theorem Caller.alive_closed {t : Nat} (hv : v.owner = some t) (h : caller.alive v = true) :
    (Bridge.closed t caller).alive v = true := by
  cases caller with
  | create i =>
    cases v with
    | previous u => rfl
    | _ => cases h
  | reject =>
    cases v with
    | previous u | session u =>
      cases hv
      simp [Bridge.closed, Call.alive]
    | _ => cases h
  | stop all =>
    cases v with
    | session u =>
      cases hv
      simp [Bridge.closed, Call.alive]
    | _ => cases h
  | shutdown rest all =>
    cases v with
    | swapped u i => rfl
    | _ => cases h

def Caller.rest : Caller I → List Nat
  | .shutdown rest _ => rest
  | _ => []

def Caller.all : Caller I → List Nat
  | .stop all => all
  | .shutdown _ all => all
  | _ => []

/-- The call is going to shut the sink of the session down, or to find it gone. -/
def Call.Closes : Call I → Nat → Prop
  | .closing s' stage caller, s => (s = s' ∧ stage ≠ .unlock) ∨ s ∈ caller.rest
  | .shutdownNext rest _, s => s ∈ rest
  | _, _ => False

attribute [local simp] Call.Closes

/-- The call is to stop the session, and it is stopped. -/
def Call.HasStopped : Call I → Nat → Prop
  | .closing s' stage caller, s => (s = s' ∧ stage = .unlock) ∨ (s ∈ caller.all ∧ s ∉ caller.rest ∧ s ≠ s')
  | .shutdownNext rest all, s => s ∈ all ∧ s ∉ rest
  | .leave _ stopped, s => s ∈ stopped
  | _, _ => False

namespace Bridge

def InContext (b : Bridge I) (s : Nat) : Prop := ∃ i, target b.pointers (.entry i) = some s

/-- Thread `t` has a local that points to the session. -/
def Holds (b : Bridge I) (t s : Nat) : Prop := ∃ v : Holder I, v.owner = some t ∧ target b.pointers v = some s

/-- What the calls keep of the pointers. -/
structure Owned (b : Bridge I) : Prop where
  alive : ∀ (v : Holder I) t s, v.owner = some t → target b.pointers v = some s → (b.threads t).call.alive v = true
  locals : ∀ t locals stopped, (b.threads t).call = .leave locals stopped → ∀ v ∈ locals, v.owner = some t
  holds : ∀ t s, (b.threads t).call.Closes s → b.Holds t s
  quiet : ∀ t s caller, (b.threads t).call = .closing s .shutdown caller →
    ¬ b.Executing t s ∧ (b.sessions s).stopRequested = true
  stopped : ∀ t s, (b.threads t).call.HasStopped s → b.Stopped s
  anchored : ∀ t s, b.Executing t s → b.Holds t s → b.InContext s ∨ ∃ u, u ≠ t ∧ (b.threads u).call.Closes s
  made : ∀ s, Held b.pointers s → s < b.next

variable {b b' : Bridge I} {t s : Nat}

/-- A step of thread `t` among the pointers: the other threads' locals are as before, and a session that left the
    context or the hands of `t` is executed by no other thread that holds it, or is now in the hands of `t`. -/
theorem Owned.advance (h : b.Owned) (hc : Calm b b') (hcall : ∀ u, u ≠ t → (b'.threads u).call = (b.threads u).call)
    (hheld : ∀ s, Held b'.pointers s → Held b.pointers s ∨ s < b'.next)
    (hother : ∀ (v : Holder I) u, v.owner = some u → u ≠ t → target b'.pointers v = target b.pointers v)
    (halive : ∀ (v : Holder I) s, v.owner = some t → target b'.pointers v = some s → (b'.threads t).call.alive v = true)
    (hlocals : ∀ locals stopped, (b'.threads t).call = .leave locals stopped → ∀ v ∈ locals, v.owner = some t)
    (hholds : ∀ s, (b'.threads t).call.Closes s → b'.Holds t s)
    (hquiet : ∀ s caller, (b'.threads t).call = .closing s .shutdown caller →
      ¬ b.Executing t s ∧ (b'.sessions s).stopRequested = true)
    (hstopped : ∀ s, (b'.threads t).call.HasStopped s → b'.Stopped s)
    (hlost : ∀ s, b.InContext s ∨ (b.threads t).call.Closes s →
      b'.InContext s ∨ (b'.threads t).call.Closes s ∨ ∀ u, u ≠ t → b.Executing u s → ¬ b.Holds u s)
    (hown : ∀ s, b.Executing t s → b'.Holds t s → b'.InContext s ∨ ∃ u, u ≠ t ∧ (b.threads u).call.Closes s) :
    b'.Owned where
  alive v u s hv ht := by
    by_cases hu : u = t
    · subst hu
      exact halive v s hv ht
    · rw [hcall u hu]
      exact h.alive v u s hv ((hother v u hv hu).symm.trans ht)
  locals u ls stopped hl := by
    by_cases hu : u = t
    · subst hu
      exact hlocals ls stopped hl
    · exact h.locals u ls stopped ((hcall u hu).symm.trans hl)
  holds u s hs := by
    by_cases hu : u = t
    · subst hu
      exact hholds s hs
    · rw [hcall u hu] at hs
      obtain ⟨v, hv, ht⟩ := h.holds u s hs
      exact ⟨v, hv, (hother v u hv hu).trans ht⟩
  quiet u s caller hq := by
    rw [hc.executing]
    by_cases hu : u = t
    · subst hu
      exact hquiet s caller hq
    · obtain ⟨hn, hr⟩ := h.quiet u s caller ((hcall u hu).symm.trans hq)
      exact ⟨hn, hc.stop s hr⟩
  stopped u s hs := by
    by_cases hu : u = t
    · subst hu
      exact hstopped s hs
    · rw [hcall u hu] at hs
      exact hc.stopped (h.stopped u s hs)
  anchored u s he hh := by
    rw [hc.executing] at he
    by_cases hu : u = t
    · subst hu
      rcases hown s he hh with hi | ⟨w, hw, hs⟩
      · exact .inl hi
      · exact .inr ⟨w, hw, by rw [hcall w hw]; exact hs⟩
    · obtain ⟨v, hv, ht⟩ := hh
      have hh : b.Holds u s := ⟨v, hv, (hother v u hv hu).symm.trans ht⟩
      -- What was lost by the step goes to `t` or to nobody who would need it.
      have hkeep : b.InContext s ∨ (b.threads t).call.Closes s → b'.InContext s ∨ ∃ w, w ≠ u ∧ (b'.threads w).call.Closes s := by
        intro hor
        rcases hlost s hor with hi | hs | hn
        · exact .inl hi
        · exact .inr ⟨t, Ne.symm hu, hs⟩
        · exact absurd hh (hn u hu he)
      rcases h.anchored u s he hh with hi | ⟨w, hw, hs⟩
      · exact hkeep (.inl hi)
      · by_cases hwt : w = t
        · subst hwt
          exact hkeep (.inr hs)
        · exact .inr ⟨w, hw, by rw [hcall w hwt]; exact hs⟩
  made s hs := by
    rcases hheld s hs with hs | hs
    · exact Nat.lt_of_lt_of_le (h.made s hs) hc.next
    · exact hs

/-- A step of thread `t` that leaves the pointers alone. -/
theorem Owned.inner (h : b.Owned) (hc : Calm b b') (hcall : ∀ u, u ≠ t → (b'.threads u).call = (b.threads u).call)
    (hp : b'.pointers = b.pointers)
    (halive : ∀ (v : Holder I) s, v.owner = some t → target b.pointers v = some s → (b.threads t).call.alive v = true →
      (b'.threads t).call.alive v = true)
    (hlocals : ∀ locals stopped, (b'.threads t).call = .leave locals stopped → ∀ v ∈ locals, v.owner = some t)
    (hholds : ∀ s, (b'.threads t).call.Closes s → b.Holds t s)
    (hquiet : ∀ s caller, (b'.threads t).call = .closing s .shutdown caller →
      ¬ b.Executing t s ∧ (b'.sessions s).stopRequested = true)
    (hstopped : ∀ s, (b'.threads t).call.HasStopped s → b'.Stopped s)
    (hlost : ∀ s, (b.threads t).call.Closes s → (b'.threads t).call.Closes s ∨ ∀ u, u ≠ t → ¬ b.Executing u s) :
    b'.Owned := by
  have hin : ∀ s, b.InContext s → b'.InContext s := fun s hi => by rwa [InContext, hp]
  refine h.advance hc hcall (fun s hs => .inl (hp ▸ hs)) (fun v u _ _ => by rw [hp]) (fun v s hv ht => ?_) hlocals
    (fun s hs => ?_) hquiet hstopped (fun s hor => ?_) (fun s he hh => ?_)
  · rw [hp] at ht
    exact halive v s hv ht (h.alive v t s hv ht)
  · rw [Holds, hp]
    exact hholds s hs
  · rcases hor with hi | hs
    · exact .inl (hin s hi)
    · rcases hlost s hs with hs | hn
      · exact .inr (.inl hs)
      · exact .inr (.inr fun u hu he => absurd he (hn u hu))
  · rw [Holds, hp] at hh
    rcases h.anchored t s he hh with hi | hs
    · exact .inl (hin s hi)
    · exact .inr hs

/-! ## One step of a call -/

/-- What an observation of a step from `b` may say. -/
def Clean (b : Bridge I) : Obs → Prop
  | .begins s _ => ¬ b.Stopped s
  | .shut s t => ¬ b.Executing t s
  | .freed s t => ¬ b.Executing t s
  | .returned stopped => ∀ s ∈ stopped, b.Stopped s

structure Kept (b : Bridge I) (r : Bridge I × List Obs) : Prop where
  calm : Calm b r.1
  owned : r.1.Owned
  clean : ∀ o ∈ r.2, b.Clean o

variable {b1 : Bridge I} {obs : List Obs} {c : Call I}

/-- A step that touches no pointer and comes to `c`. -/
theorem Owned.kept_goto (h : b.Owned) (hi : (b.threads t).call ≠ .idle) (h1 : Calm b b1)
    (hth : b1.threads = b.threads) (hp : b1.pointers = b.pointers)
    (hobs : ∀ o ∈ obs, b.Clean o)
    (halive : ∀ (v : Holder I) s, v.owner = some t → target b.pointers v = some s → (b.threads t).call.alive v = true →
      c.alive v = true)
    (hlocals : ∀ locals stopped, c = .leave locals stopped → ∀ v ∈ locals, v.owner = some t)
    (hholds : ∀ s, c.Closes s → b.Holds t s)
    (hquiet : ∀ s caller, c = .closing s .shutdown caller → ¬ b.Executing t s ∧ (b1.sessions s).stopRequested = true)
    (hstopped : ∀ s, c.HasStopped s → b1.Stopped s)
    (hlost : ∀ s, (b.threads t).call.Closes s → c.Closes s ∨ ∀ u, u ≠ t → ¬ b.Executing u s) :
    b.Kept (b1.goto t c, obs) := by
  have h2 : Calm b1 (b1.goto t c) := calm_goto c (by rw [hth]; exact hi)
  refine ⟨h1.trans h2, ?_, hobs⟩
  refine h.inner (h1.trans h2) (fun u hu => by rw [goto_call_ne c hu, hth]) hp ?_ ?_ ?_ ?_ ?_ ?_
  · rw [goto_call]
    exact halive
  · rw [goto_call]
    exact hlocals
  · rw [goto_call]
    exact hholds
  · rw [goto_call]
    exact hquiet
  · rw [goto_call]
    exact fun s hs => h2.stopped (hstopped s hs)
  · rw [goto_call]
    exact hlost

/-- A step to the end of the call: the locals that may be set are dropped there. -/
theorem Owned.kept_leave (h : b.Owned) (hi : (b.threads t).call ≠ .idle) (h1 : Calm b b1)
    (hth : b1.threads = b.threads) (hp : b1.pointers = b.pointers) {ls : List (Holder I)} {l : List Nat}
    (ha : ∀ v : Holder I, v.owner = some t → (b.threads t).call.alive v = true → v ∈ ls) (hls : ∀ v ∈ ls, v.owner = some t)
    (hl : ∀ s ∈ l, b1.Stopped s) (hn : ∀ s, ¬ (b.threads t).call.Closes s) :
    b.Kept (b1.goto t (.leave ls l), []) := by
  refine h.kept_goto hi h1 hth hp (by simp) (fun v s hv _ hx => by simpa [Call.alive] using ha v hv hx) ?_ ?_ ?_ hl ?_
  · intro ls' stopped he
    cases he
    exact hls
  · intro s hs
    exact hs.elim
  · intro s caller he
    cases he
  · intro s hs
    exact absurd hs (hn s)

variable {r : Bridge I × List Obs}

theorem Owned.kept_start (h : b.Owned) (answer : Answer)
    (hc : (b.threads t).call = .startCheck ∨ (b.threads t).call = .startLock ∨ (b.threads t).call = .startMark ∨
      (b.threads t).call = .startResume)
    (hr : b.advance t answer = some r) : b.Kept r := by
  have hi : (b.threads t).call ≠ .idle := by rcases hc with hc | hc | hc | hc <;> rw [hc] <;> simp
  have ha : ∀ v : Holder I, v.owner = some t → (b.threads t).call.alive v = true → v = .session t := by
    intro v hv hx
    cases v with
    | session u =>
      cases hv
      rfl
    | _ => rcases hc with hc | hc | hc | hc <;> rw [hc] at hx <;> cases hx
  have hn : ∀ s, ¬ (b.threads t).call.Closes s := by
    intro s
    rcases hc with hc | hc | hc | hc <;> rw [hc] <;> simp
  have hleave : ∀ b1 : Bridge I, Calm b b1 → b1.threads = b.threads → b1.pointers = b.pointers →
      b.Kept (b1.goto t (.leave [.session t] []), []) := fun b1 h1 hth hp =>
    h.kept_leave hi h1 hth hp (fun v hv hx => by simp [ha v hv hx]) (by simp [Holder.owner]) (by simp) hn
  have hgoto : ∀ (b1 : Bridge I) (c : Call I), Calm b b1 → b1.threads = b.threads → b1.pointers = b.pointers →
      c = .startLock ∨ c = .startMark ∨ c = .startResume → b.Kept (b1.goto t c, []) := fun b1 c h1 hth hp hc' => by
    refine h.kept_goto hi h1 hth hp (by simp) (fun v s hv _ hx => ?_) ?_ ?_ ?_ ?_ (fun s hs => absurd hs (hn s))
    · rw [ha v hv hx]
      rcases hc' with rfl | rfl | rfl <;> rfl
    · rcases hc' with rfl | rfl | rfl <;> simp
    · rcases hc' with rfl | rfl | rfl <;> simp
    · rcases hc' with rfl | rfl | rfl <;> simp
    · rcases hc' with rfl | rfl | rfl <;> simp [Call.HasStopped]
  rw [advance.eq_def] at hr
  cases hs : target b.pointers (.session t) with
  | none => rcases hc with hc | hc | hc | hc <;> simp [hc, hs] at hr
  | some s =>
    -- The changes of the session are of `running` and of `operation_mutex` only.
    rcases hc with hc | hc | hc | hc <;> simp only [hc, hs] at hr
    · split at hr <;> cases hr
      · exact hgoto _ _ calm_refl rfl rfl (.inl rfl)
      · exact hleave _ calm_refl rfl rfl
    · split at hr <;> cases hr
      exact hgoto _ _ (calm_operation s (some t)) rfl rfl (.inr (.inl rfl))
    · split at hr <;> cases hr
      · exact hleave _ (calm_operation s none) rfl rfl
      · exact hgoto _ _ (calm_modify (fun _ => rfl) (fun _ => ⟨rfl, rfl⟩) (fun _ h => h) (.inl rfl)) rfl rfl (.inr (.inr rfl))
    · split at hr <;> cases hr
      · exact hleave _ (calm_operation s none) rfl rfl
      · exact hleave _ (calm_modify (fun _ => rfl) (fun _ => ⟨rfl, rfl⟩) (fun _ h => h) (.inl rfl)) rfl rfl

/-- `ClosePlayoutSession` goes on to `stage'`. -/
theorem Owned.kept_closing (h : b.Owned) {stage stage' : Close}
    (hc : (b.threads t).call = .closing s stage caller) (h1 : Calm b b1) (hth : b1.threads = b.threads)
    (hp : b1.pointers = b.pointers) (hobs : ∀ o ∈ obs, b.Clean o) (hstage : stage ≠ .unlock)
    (hq : stage' = .shutdown → ¬ b.Executing t s ∧ (b1.sessions s).stopRequested = true)
    (hu : stage' = .unlock → b1.Stopped s ∧ ∀ u, u ≠ t → ¬ b.Executing u s) :
    b.Kept (b1.goto t (.closing s stage' caller), obs) := by
  have hcl : ∀ x, (b.threads t).call.Closes x ↔ x = s ∨ x ∈ caller.rest := fun x => by
    rw [hc]
    simp [hstage]
  refine h.kept_goto (by rw [hc]; simp) h1 hth hp hobs (fun v x _ _ hx => ?_) (fun ls l he => ?_) (fun x hx => ?_)
    (fun x caller' he => ?_) (fun x hx => ?_) (fun x hx => ?_)
  · rw [hc] at hx
    exact hx
  · cases he
  · refine h.holds t x ((hcl x).mpr ?_)
    rcases hx with ⟨rfl, -⟩ | hx
    · exact .inl rfl
    · exact .inr hx
  · cases he
    exact hq rfl
  · rcases hx with ⟨rfl, he⟩ | hx
    · exact (hu he).1
    · exact h1.stopped (h.stopped t x (by rw [hc]; exact .inr hx))
  · rcases (hcl x).mp hx with rfl | hx
    · by_cases he : stage' = .unlock
      · exact .inr (hu he).2
      · exact .inl (.inl ⟨rfl, he⟩)
    · exact .inl (.inr hx)

theorem Owned.kept_close (hs : b.Sound) (h : b.Owned) {stage : Close}
    (hc : (b.threads t).call = .closing s stage caller) (hr : b.close t s caller stage = some r) :
    b.Kept r := by
  have hi : (b.threads t).call ≠ .idle := by rw [hc]; simp
  cases stage with
  | lock =>
    simp only [close] at hr
    split at hr <;> cases hr
    refine h.kept_closing hc (calm_operation s (some t)) rfl rfl ?_ ?_ ?_ ?_ <;> simp
  | mark =>
    have h1 : Calm b (b.modify s fun x => { x with running := false, stopRequested := true }) :=
      calm_modify (fun _ => rfl) (fun _ => ⟨rfl, rfl⟩) (fun _ _ => rfl) (.inl rfl)
    have hreq : ((b.modify s fun x => { x with running := false, stopRequested := true }).sessions s).stopRequested = true := by
      simp [modify]
    simp only [close] at hr
    split at hr <;> cases hr
    · rename_i hor
      have hor : b.calledFromCallback t s = true ∨ (b.sessions s).sink = false := by simpa using hor
      refine h.kept_closing hc h1 rfl rfl (by simp) (by simp) (by simp) fun _ => ⟨?_, fun u hu => hs.not_executing_other hor hu⟩
      rcases hor with hcall | hsink
      · exact (h1.sound hs).stopped_inside hreq (by rw [h1.flag]; exact hcall) hi
      · exact stopped_outside hreq fun u hu => hs.idle_of_sink hsink u (h1.executing.mp hu)
    · rename_i hor
      refine h.kept_closing hc h1 rfl rfl (by simp) (by simp) (fun _ => ⟨fun he => hor ?_, hreq⟩) (by simp)
      rw [hs.flag_of_executing hi he]
      rfl
  | shutdown =>
    simp only [close] at hr
    split at hr <;> cases hr
    rename_i hfree
    obtain ⟨hq, hreq⟩ := h.quiet t s caller hc
    have hn : ∀ u, ¬ b.Executing u s := by
      intro u hu
      have hbusy := (hs.busy s u).mpr hu
      rw [free, hbusy] at hfree
      have htu : u = t := by simpa using hfree
      rw [htu] at hu
      exact hq hu
    have h1 : Calm b (b.modify s fun x => { x with sink := false }) := calm_reset hn
    refine h.kept_closing hc h1 rfl rfl (fun o ho => ?_) (by simp) (by simp) fun _ =>
      ⟨h1.stopped (stopped_outside hreq hn), fun u _ => hn u⟩
    rw [List.mem_singleton.mp ho]
    exact hq
  | unlock =>
    simp only [close, Option.some.injEq] at hr
    subst hr
    have h1 : Calm b (b.modify s fun x => { x with operation := none }) := calm_operation s none
    have hst : b.Stopped s := h.stopped t s (by rw [hc]; exact .inl ⟨rfl, rfl⟩)
    have hcl : ∀ x, (b.threads t).call.Closes x → x ∈ caller.rest := by
      intro x hx
      rw [hc] at hx
      rcases hx with ⟨-, hx⟩ | hx
      · exact absurd rfl hx
      · exact hx
    have hal : ∀ v : Holder I, v.owner = some t → (b.threads t).call.alive v = true → caller.alive v = true := by
      intro v _ hv
      rwa [hc] at hv
    have hclosed : ∀ v : Holder I, v.owner = some t → (b.threads t).call.alive v = true → (closed t caller).alive v = true :=
      fun v hv hx => Caller.alive_closed hv (hal v hv hx)
    cases caller with
    | create i =>
      exact h.kept_goto hi h1 rfl rfl (by simp) (fun v _ hv _ hx => hclosed v hv hx)
        (by simp [closed]) (fun _ => False.elim) (by simp [closed]) (fun _ => False.elim)
        (fun x hx => absurd (hcl x hx) List.not_mem_nil)
    | reject =>
      exact h.kept_leave hi h1 rfl rfl (fun v hv hx => of_decide_eq_true (hclosed v hv hx)) (by simp [Holder.owner]) (by simp)
        (fun x hx => absurd (hcl x hx) List.not_mem_nil)
    | stop all =>
      refine h.kept_leave hi h1 rfl rfl (fun v hv hx => of_decide_eq_true (hclosed v hv hx)) (by simp [Holder.owner])
        (fun x hx => ?_) (fun x hx => absurd (hcl x hx) List.not_mem_nil)
      by_cases hxs : x = s
      · rw [hxs]
        exact h1.stopped hst
      · exact h1.stopped (h.stopped t x (by rw [hc]; exact .inr ⟨hx, List.not_mem_nil, hxs⟩))
    | shutdown rest all =>
      refine h.kept_goto hi h1 rfl rfl (by simp) (fun v _ hv _ hx => hclosed v hv hx) (by simp [closed]) (fun x hx => ?_)
        (by simp [closed]) (fun x hx => ?_) (fun x hx => .inl (hcl x hx))
      · exact h.holds t x (by rw [hc]; exact .inr hx)
      · by_cases hxs : x = s
        · rw [hxs]
          exact h1.stopped hst
        · exact h1.stopped (h.stopped t x (by rw [hc]; exact .inr ⟨hx.1, hx.2, hxs⟩))

/-! ## Steps that move a pointer -/

/-- A step that moves pointers and comes to `c`. -/
theorem Owned.kept_move (h : b.Owned) (hi : (b.threads t).call ≠ .idle) (h1 : Calm b b1)
    (hth : b1.threads = b.threads) (hobs : ∀ o ∈ obs, b.Clean o)
    (hheld : ∀ s, Held b1.pointers s → Held b.pointers s ∨ s < b1.next)
    (hother : ∀ (v : Holder I) u, v.owner = some u → u ≠ t → target b1.pointers v = target b.pointers v)
    (halive : ∀ (v : Holder I) s, v.owner = some t → target b1.pointers v = some s → c.alive v = true)
    (hlocals : ∀ locals stopped, c = .leave locals stopped → ∀ v ∈ locals, v.owner = some t)
    (hholds : ∀ s, c.Closes s → b1.Holds t s)
    (hquiet : ∀ s caller, c ≠ .closing s .shutdown caller)
    (hstopped : ∀ s, c.HasStopped s → b.Stopped s)
    (hlost : ∀ s, b.InContext s ∨ (b.threads t).call.Closes s →
      b1.InContext s ∨ c.Closes s ∨ ∀ u, u ≠ t → b.Executing u s → ¬ b.Holds u s)
    (hown : ∀ s, b.Executing t s → b1.Holds t s → b1.InContext s ∨ ∃ u, u ≠ t ∧ (b.threads u).call.Closes s) :
    b.Kept (b1.goto t c, obs) := by
  have h2 : Calm b1 (b1.goto t c) := calm_goto c (by rw [hth]; exact hi)
  refine ⟨h1.trans h2, ?_, hobs⟩
  refine h.advance (h1.trans h2) (fun u hu => by rw [goto_call_ne c hu, hth]) hheld hother ?_ ?_ ?_ ?_ ?_ ?_ hown
  · rw [goto_call]
    exact halive
  · rw [goto_call]
    exact hlocals
  · rw [goto_call]
    exact hholds
  · rw [goto_call]
    exact fun s caller he => absurd he (hquiet s caller)
  · rw [goto_call]
    exact fun s hs => (h1.trans h2).stopped (hstopped s hs)
  · rw [goto_call]
    exact hlost

variable {p : List (Holder I × Nat)}

/-- The targets after `t` set one of its own variables. -/
theorem target_own {w : Holder I} (hw : w.owner = some t) (s : Nat) {u : Nat}
    (hv : v.owner = some u) (hu : u ≠ t) : target (point p w s) v = target p v := by
  refine target_point_ne fun he => hu ?_
  rw [he, hw] at hv
  exact (Option.some.inj hv).symm

variable {i : I}

theorem target_entry {u : Nat} (hv : v.owner = some u) :
    target (unpoint p (.entry i)) v = target p v := by
  refine target_unpoint_ne fun he => ?_
  rw [he] at hv
  cases hv

theorem target_of_unpoint {w : Holder I} (h : target (unpoint p w) v = some s) : target p v = some s := by
  by_cases hv : v = w
  · rw [hv, target_unpoint] at h
    cases h
  · rwa [target_unpoint_ne hv] at h

/-- Thread `t` takes a session into its local `w`. A session that leaves the context so is one that `t` does not
    execute and is going to close. -/
theorem Owned.kept_take (h : b.Owned) (hi : (b.threads t).call ≠ .idle) (h1 : Calm b b1)
    (hth : b1.threads = b.threads) {w : Holder I} (hp1 : b1.pointers = point p w s)
    (hw : w.owner = some t) (hp : ∀ (v : Holder I) u, v.owner = some u → target p v = target b.pointers v)
    (hheld : ∀ v x, target p v = some x → target b.pointers v = some x) (hnew : Held b.pointers s ∨ s < b1.next)
    (halive : c.alive w = true) (hmono : ∀ v : Holder I, v.owner = some t → (b.threads t).call.alive v = true → c.alive v = true)
    (hlocals : ∀ locals stopped, c = .leave locals stopped → ∀ v ∈ locals, v.owner = some t)
    (hcl : ∀ x, c.Closes x → x = s) (hquiet : ∀ s caller, c ≠ .closing s .shutdown caller)
    (hstopped : ∀ x, c.HasStopped x → b.Stopped x)
    (hold : ∀ x, ¬ (b.threads t).call.Closes x)
    (hentry : ∀ i x, target b.pointers (.entry i) = some x →
      target p (.entry i) = some x ∨ x = s ∧ c.Closes s ∧ ¬ b.Executing t s)
    (hself : b.Executing t s → ∃ i, target p (.entry i) = some s) :
    b.Kept (b1.goto t c, []) := by
  have hcontext : ∀ i x, target p (.entry i) = some x → b1.InContext x := by
    intro i x hx
    refine ⟨i, ?_⟩
    rw [hp1, target_point_ne fun he => ?_]
    · exact hx
    · rw [← he] at hw
      cases hw
  refine h.kept_move hi h1 hth nofun (fun x hx => ?_) (fun v u hv hu => ?_) (fun v x hv hx => ?_) hlocals (fun x hx => ?_)
    hquiet hstopped (fun x hor => ?_) (fun x he hh => ?_)
  · obtain ⟨v, hx⟩ := hx
    rw [hp1] at hx
    by_cases hvw : v = w
    · rw [hvw, target_point] at hx
      cases hx
      exact hnew
    · rw [target_point_ne hvw] at hx
      exact .inl ⟨v, hheld v x hx⟩
  · rw [hp1, target_own hw s hv hu, hp v u hv]
  · by_cases hvw : v = w
    · rw [hvw]
      exact halive
    · rw [hp1, target_point_ne hvw, hp v t hv] at hx
      exact hmono v hv (h.alive v t x hv hx)
  · refine ⟨w, hw, ?_⟩
    rw [hp1, hcl x hx, target_point]
  · rcases hor with ⟨i, hx⟩ | hx
    · rcases hentry i x hx with hx | ⟨rfl, hx, -⟩
      · exact .inl (hcontext i x hx)
      · exact .inr (.inl hx)
    · exact absurd hx (hold x)
  · obtain ⟨v, hv, hx⟩ := hh
    rw [hp1] at hx
    by_cases hvw : v = w
    · rw [hvw, target_point] at hx
      cases hx
      obtain ⟨i, hx⟩ := hself he
      exact .inl (hcontext i _ hx)
    · rw [target_point_ne hvw, hp v t hv] at hx
      rcases h.anchored t x he ⟨v, hv, hx⟩ with ⟨i, hi⟩ | hcl
      · rcases hentry i x hi with hx | ⟨rfl, -, hn⟩
        · exact .inl (hcontext i x hx)
        · exact absurd he hn
      · exact .inr hcl

theorem Owned.kept_initTake (h : b.Owned) (hc : (b.threads t).call = .initTake i)
    (hcare : ∀ s ∈ target b.pointers (.entry i), ¬ b.Executing t s) (hs : target b.pointers (.entry i) = some s) :
    b.Kept ({ b with pointers := point (unpoint b.pointers (.entry i)) (.previous t) s }.goto t
      (.closing s .lock (.create i)), []) := by
  have h1 : Calm b { b with pointers := point (unpoint b.pointers (.entry i)) (.previous t) s } :=
    calm_pointers _ b.shuttingDown
  refine h.kept_take (by rw [hc]; simp) h1 rfl rfl rfl (fun v u hv => target_entry hv) (fun v x => target_of_unpoint)
    (.inl ⟨_, hs⟩) rfl (fun v _ hv => ?_) nofun (fun x hx => ?_) nofun (fun x hx => ?_) (fun x hx => ?_) (fun j x hx => ?_)
    (fun he => absurd he (hcare s hs))
  · rw [hc] at hv
    cases hv
  · simpa [Caller.rest] using hx
  · simp [Call.HasStopped, Caller.all] at hx
  · rw [hc] at hx
    exact hx
  · by_cases hj : j = i
    · rw [hj, hs] at hx
      cases hx
      exact .inr ⟨rfl, .inl ⟨rfl, by simp⟩, hcare s hs⟩
    · left
      rw [target_unpoint_ne (by simpa using hj)]
      exact hx

/-- The new session of `InitPlayout`, with its sink or without. -/
theorem Owned.kept_initCreate (hs : b.Sound) (h : b.Owned) (hc : (b.threads t).call = .initCreate i)
    (h1 : Calm b b1) (hth : b1.threads = b.threads) (hp : b1.pointers = point b.pointers (.session t) b.next)
    (hnext : b.next < b1.next)
    (hcc : c = .initPublish i ∨ c = .leave [.session t, .previous t] []) : b.Kept (b1.goto t c, []) := by
  refine h.kept_take (by rw [hc]; simp) h1 hth hp rfl (fun _ _ _ => rfl) (fun _ _ hx => hx) (.inr hnext) ?_ (fun v hv hx => ?_)
    ?_ ?_ ?_ ?_ (fun x hx => ?_) (fun _ _ hx => .inl hx) (fun he => ?_)
  · rcases hcc with rfl | rfl
    · rfl
    · simp [Call.alive]
  · rw [hc] at hx
    rcases hcc with rfl | rfl <;> cases v <;> simp_all [Call.alive, Holder.owner]
  · rcases hcc with rfl | rfl <;> simp [Holder.owner]
  · rcases hcc with rfl | rfl <;> simp
  · rcases hcc with rfl | rfl <;> simp
  · rcases hcc with rfl | rfl <;> simp [Call.HasStopped]
  · rw [hc] at hx
    exact hx
  · exact absurd (hs.made _ (hs.sink _ _ he)) (Nat.lt_irrefl _)

theorem Owned.kept_startFind (h : b.Owned) (hc : (b.threads t).call = .startFind i)
    (hs : target b.pointers (.entry i) = some s) :
    b.Kept ({ b with pointers := point b.pointers (.session t) s }.goto t .startCheck, []) := by
  have h1 : Calm b { b with pointers := point b.pointers (.session t) s } := calm_pointers _ b.shuttingDown
  refine h.kept_take (by rw [hc]; simp) h1 rfl rfl rfl (fun _ _ _ => rfl) (fun _ _ hx => hx) (.inl ⟨_, hs⟩) rfl (fun v _ hv => ?_)
    nofun nofun nofun nofun (fun x hx => ?_) (fun _ _ hx => .inl hx) (fun _ => ⟨i, hs⟩)
  · rw [hc] at hv
    cases hv
  · rw [hc] at hx
    exact hx

/-- A session of the identity that is not in the map is stopped if it is quiet. -/
theorem Sound.stopped_missed (hb : b.Sound) (hs : s ∈ b.publishedAs i) (hq : b.Quiet s) : b.Stopped s := by
  obtain ⟨x, hx, he⟩ := List.mem_filterMap.mp hs
  split at he
  · cases he
    exact hb.stopped_of_quiet (hb.listed x hx) hq
  · cases he

theorem Owned.kept_stopFind (hb : b.Sound) (h : b.Owned) (hc : (b.threads t).call = .stopFind i)
    (hcare : ∀ s ∈ b.publishedAs i, target b.pointers (.entry i) = some s ∨ b.Quiet s)
    (hs : target b.pointers (.entry i) = some s)
    (hp : p = if b.calledFromCallback t s then b.pointers else unpoint b.pointers (.entry i)) :
    b.Kept ({ b with pointers := point p (.session t) s }.goto t (.closing s .lock (.stop (b.publishedAs i))), []) := by
  have hi : (b.threads t).call ≠ .idle := by rw [hc]; simp
  have h1 : Calm b { b with pointers := point p (.session t) s } := calm_pointers _ b.shuttingDown
  refine h.kept_take hi h1 rfl rfl rfl (fun v u hv => ?_) (fun v x hx => ?_) (.inl ⟨_, hs⟩) rfl (fun v _ hv => ?_) nofun
    (fun x hx => ?_) nofun (fun x hx => ?_) (fun x hx => ?_) (fun j x hx => ?_) (fun he => ?_)
  · rw [hp]
    split
    · rfl
    · exact target_entry hv
  · rw [hp] at hx
    split at hx
    · exact hx
    · exact target_of_unpoint hx
  · rw [hc] at hv
    cases hv
  · simpa [Caller.rest] using hx
  · rcases hx with ⟨-, hx⟩ | ⟨hx, -, hne⟩
    · cases hx
    · exact hb.stopped_missed hx ((hcare x hx).resolve_left fun he => hne (Option.some.inj (he.symm.trans hs)))
  · rw [hc] at hx
    exact hx
  · by_cases hf : b.calledFromCallback t s = true
    · rw [hp, if_pos hf]
      exact .inl hx
    · rw [hp, if_neg hf]
      by_cases hj : j = i
      · rw [hj, hs] at hx
        cases hx
        exact .inr ⟨rfl, .inl ⟨rfl, by simp⟩, fun he => hf (hb.flag_of_executing hi he)⟩
      · left
        rw [target_unpoint_ne (by simpa using hj)]
        exact hx
  · rw [hp, if_pos (hb.flag_of_executing hi he)]
    exact ⟨i, hs⟩

/-! ## Steps that drop a pointer -/

theorem drop_spec (hs : b.Sound) {o : Option Nat}
    (hr : b.drop t p o = some r) (hn : ∀ s, o = some s → ¬ Held p s → ¬ b.Executing t s) :
    Calm b r.1 ∧ r.1.threads = b.threads ∧ r.1.pointers = p ∧ ∀ x ∈ r.2, b.Clean x := by
  have hp : Calm b { b with pointers := p } := calm_pointers _ b.shuttingDown
  cases o with
  | none =>
    cases hr
    exact ⟨hp, rfl, rfl, nofun⟩
  | some s =>
    simp only [drop] at hr
    by_cases hh : Held p s
    · rw [if_pos hh] at hr
      cases hr
      exact ⟨hp, rfl, rfl, nofun⟩
    · rw [if_neg hh] at hr
      have hne := hn s rfl hh
      by_cases hk : (b.sessions s).sink = true
      · rw [if_pos hk] at hr
        by_cases hf : b.free t s = true
        · rw [if_pos hf] at hr
          cases hr
          -- No other thread runs the callback: the destructor has waited for it.
          have hno : ∀ u, ¬ b.Executing u s := by
            intro u hu
            rw [free, (hs.busy s u).mpr hu] at hf
            have htu : u = t := by simpa using hf
            rw [htu] at hu
            exact hne hu
          have hno1 : ∀ u, ¬ { b with pointers := p }.Executing u s := hno
          refine ⟨hp.trans (calm_reset hno1), rfl, rfl, fun x hx => ?_⟩
          rcases List.mem_cons.mp hx with rfl | hx
          · exact hne
          · rw [List.mem_singleton.mp hx]
            exact hne
        · rw [if_neg hf] at hr
          cases hr
      · rw [if_neg hk] at hr
        cases hr
        refine ⟨hp, rfl, rfl, fun x hx => ?_⟩
        rw [List.mem_singleton.mp hx]
        exact hne

/-- A local that is dropped is not the last pointer to a session its own thread executes. -/
theorem Owned.held_unpoint (h : b.Owned) (hv : v.owner = some t) (hx : target b.pointers v = some s)
    (he : b.Executing t s) : Held (unpoint b.pointers v) s := by
  rcases h.anchored t s he ⟨v, hv, hx⟩ with ⟨i, hi⟩ | ⟨u, hu, hc⟩
  · refine ⟨.entry i, ?_⟩
    rw [target_unpoint_ne fun he => ?_]
    · exact hi
    · rw [← he] at hv
      cases hv
  · obtain ⟨w, hw, hx⟩ := h.holds u s hc
    refine ⟨w, ?_⟩
    rw [target_unpoint_ne fun he => ?_]
    · exact hx
    · rw [he, hv] at hw
      exact hu (Option.some.inj hw).symm

theorem Owned.kept_drop (hs : b.Sound) (h : b.Owned) {ls : List (Holder I)} {l : List Nat}
    (hc : (b.threads t).call = .leave (v :: ls) l)
    (hr : b.drop t (unpoint b.pointers v) (target b.pointers v) = some r) : b.Kept (r.1.goto t (.leave ls l), r.2) := by
  have hv : v.owner = some t := h.locals t _ _ hc v List.mem_cons_self
  obtain ⟨h1, hth, hp, hobs⟩ := drop_spec hs hr fun s hx hn he => hn (h.held_unpoint hv hx he)
  have hsame : ∀ w x, target r.1.pointers w = some x → w ≠ v ∧ target b.pointers w = some x := by
    intro w x hx
    rw [hp] at hx
    by_cases hw : w = v
    · rw [hw, target_unpoint] at hx
      cases hx
    · rw [target_unpoint_ne hw] at hx
      exact ⟨hw, hx⟩
  have hentry : ∀ x, b.InContext x → r.1.InContext x := by
    intro x hex
    obtain ⟨i, hx⟩ := hex
    refine ⟨i, ?_⟩
    rw [hp, target_unpoint_ne fun he => ?_]
    · exact hx
    · rw [← he] at hv
      cases hv
  refine h.kept_move (by rw [hc]; simp) h1 hth hobs (fun x hx => .inl (hx.imp fun w hw => (hsame w x hw).2))
    (fun w u hw hu => ?_) (fun w x hw hx => ?_) (fun ls' l' he => ?_) nofun nofun (fun x hx => ?_) (fun x hor => ?_)
      (fun x he hh => ?_)
  · rw [hp, target_unpoint_ne fun he => hu ?_]
    rw [he, hv] at hw
    exact (Option.some.inj hw).symm
  · obtain ⟨hne, hx⟩ := hsame w x hx
    have hal := h.alive w t x hw hx
    rw [hc] at hal
    have hmem : w ∈ v :: ls := by simpa [Call.alive] using hal
    rcases List.mem_cons.mp hmem with hwv | hmem
    · exact absurd hwv hne
    · simpa [Call.alive] using hmem
  · cases he
    exact fun w hw => h.locals t _ _ hc w (List.mem_cons_of_mem _ hw)
  · exact h.stopped t x (by rw [hc]; exact hx)
  · rcases hor with hi | hx
    · exact .inl (hentry x hi)
    · rw [hc] at hx
      exact hx.elim
  · obtain ⟨w, hw, hx⟩ := hh
    rcases h.anchored t x he ⟨w, hw, (hsame w x hx).2⟩ with hi | hcl
    · exact .inl (hentry x hi)
    · exact .inr hcl

/-- `playout_sessions[identity] = session`: the session that was there before is in nobody's hands who executes it. -/
theorem Owned.kept_publish (hb : b.Sound) (h : b.Owned) (hc : (b.threads t).call = .initPublish i)
    (hcare : ∀ s ∈ target b.pointers (.entry i), ∀ u ∈ (b.sessions s).busy,
      u ≠ t ∧ ∀ x ∈ b.pointers, x.1.owner = some u → target b.pointers x.1 ≠ some s)
    (hs : target b.pointers (.session t) = some s)
    (hr : b.drop t (point b.pointers (.entry i) s) (target b.pointers (.entry i)) = some r) :
    b.Kept ({ r.1 with published := (i, s) :: r.1.published }.goto t (.leave [.session t, .previous t] []), r.2) := by
  obtain ⟨h1, hth, hp, hobs⟩ := drop_spec hb hr fun x hx _ he => ((hcare x hx t ((hb.busy x t).mpr he)).1 rfl).elim
  have h2 : Calm b { r.1 with published := (i, s) :: r.1.published } :=
    h1.trans (calm_published (Nat.lt_of_lt_of_le (h.made s ⟨_, hs⟩) h1.next))
  have hother : ∀ (v : Holder I) u, v.owner = some u → target r.1.pointers v = target b.pointers v := by
    intro v u hv
    rw [hp, target_point_ne fun he => ?_]
    rw [he] at hv
    cases hv
  have hentry : ∀ x, b.InContext x → r.1.InContext x ∨ target b.pointers (.entry i) = some x := by
    intro x hex
    obtain ⟨j, hx⟩ := hex
    by_cases hj : j = i
    · rw [hj] at hx
      exact .inr hx
    · refine .inl ⟨j, ?_⟩
      rw [hp, target_point_ne (by simpa using hj)]
      exact hx
  refine h.kept_move (by rw [hc]; simp) h2 hth hobs (fun x hx => .inl ?_) (fun v u hv _ => hother v u hv) (fun v x hv hx => ?_)
    (fun ls l he => ?_) nofun nofun nofun (fun x hor => ?_) (fun x he hh => ?_)
  · obtain ⟨v, hx⟩ : Held r.1.pointers x := hx
    rw [hp] at hx
    by_cases hv : v = .entry i
    · rw [hv, target_point] at hx
      cases hx
      exact ⟨_, hs⟩
    · rw [target_point_ne hv] at hx
      exact ⟨v, hx⟩
  · rw [hother v t hv] at hx
    have hal := h.alive v t x hv hx
    rw [hc] at hal
    cases v with
    | previous u =>
      cases hv
      simp [Call.alive]
    | session u =>
      cases hv
      simp [Call.alive]
    | _ => cases hal
  · cases he
    simp [Holder.owner]
  · rcases hor with hi | hx
    · rcases hentry x hi with hi | hx
      · exact .inl hi
      · refine .inr (.inr fun u hu he hh => ?_)
        obtain ⟨v, hv, ht⟩ := hh
        exact (hcare x hx u ((hb.busy x u).mpr he)).2 (v, x) (mem_of_target ht) hv ht
    · rw [hc] at hx
      exact hx.elim
  · obtain ⟨v, hv, hx⟩ := hh
    rw [hother v t hv] at hx
    rcases h.anchored t x he ⟨v, hv, hx⟩ with hi | hcl
    · rcases hentry x hi with hi | hx
      · exact .inl hi
      · exact ((hcare x hx t ((hb.busy x t).mpr he)).1 rfl).elim
    · exact .inr hcl

/-! ## Shutdown -/

theorem mem_entrySessions : s ∈ b.entrySessions ↔ b.InContext s := by
  rw [entrySessions, List.mem_filterMap]
  constructor
  · intro hex
    obtain ⟨⟨v, x⟩, -, hx⟩ := hex
    cases v with
    | entry i => exact ⟨i, hx⟩
    | previous u => cases hx
    | session u => cases hx
    | swapped u i => cases hx
  · intro hex
    obtain ⟨i, hx⟩ := hex
    exact ⟨(.entry i, s), mem_of_target hx, hx⟩

theorem Owned.kept_shutdownSwap (hb : b.Sound) (h : b.Owned) (hc : (b.threads t).call = .shutdownSwap)
    (hcare : ∀ s ∈ b.entrySessions, ¬ b.Executing t s)
    (hquiet : ∀ x ∈ b.published, x.2 ∈ b.entrySessions ∨ b.Quiet x.2) :
    b.Kept ({ b with shuttingDown := true, pointers := move (swap t) b.pointers }.goto t
      (.shutdownNext b.entrySessions (b.published.map Prod.snd)), []) := by
  have h1 : Calm b { b with shuttingDown := true, pointers := move (swap t) b.pointers } := calm_pointers _ true
  have hnone : ∀ v : Holder I, v.owner = some t → target b.pointers v = none := by
    intro v hv
    cases hx : target b.pointers v with
    | none => rfl
    | some s =>
      have hal := h.alive v t s hv hx
      rw [hc] at hal
      cases hal
  have hinj : ∀ i (v : Holder I), swap t v = some (.swapped t i) → v = .entry i := by
    intro i v hv
    cases v <;> simp_all [swap]
  have hswap : ∀ i, target (move (swap t) b.pointers) (.swapped t i) = target b.pointers (.entry i) := fun i =>
    target_move rfl (hinj i) (hnone _ rfl)
  have hsame : ∀ (v : Holder I) u, v.owner = some u → (∀ i, v ≠ .swapped t i) →
      target (move (swap t) b.pointers) v = target b.pointers v := by
    intro v u hv hne
    refine target_move_same (fun w hw => ?_) ?_
    · cases w <;> simp only [swap, Option.some.injEq, reduceCtorEq] at hw
      exact hne _ hw.symm
    · cases v with
      | entry i => cases hv
      | _ => rfl
  -- The locals of `t` are the swapped entries.
  have hlocal : ∀ (v : Holder I) x, v.owner = some t → target (move (swap t) b.pointers) v = some x →
      ∃ i, v = .swapped t i ∧ target b.pointers (.entry i) = some x := by
    intro v x hv hx
    by_cases he : ∃ i, v = .swapped t i
    · obtain ⟨i, rfl⟩ := he
      exact ⟨i, rfl, (hswap i).symm.trans hx⟩
    · rw [hsame v t hv (fun i hi => he ⟨i, hi⟩), hnone v hv] at hx
      cases hx
  refine h.kept_move (by rw [hc]; simp) h1 rfl (by simp) (fun x hx => .inl (held_of_move hx)) (fun v u hv hu => ?_)
    (fun v x hv hx => ?_) (by simp) (fun x hx => ?_) (by simp) (fun x hx => ?_) (fun x hor => ?_) (fun x he hh => ?_)
  · refine hsame v u hv fun i hi => hu ?_
    rw [hi] at hv
    exact (Option.some.inj hv).symm
  · obtain ⟨i, rfl, -⟩ := hlocal v x hv hx
    rfl
  · obtain ⟨i, hi⟩ := mem_entrySessions.mp hx
    exact ⟨.swapped t i, rfl, (hswap i).trans hi⟩
  · obtain ⟨y, hy, rfl⟩ := List.mem_map.mp hx.1
    exact hb.stopped_of_quiet (hb.listed y hy) ((hquiet y hy).resolve_left hx.2)
  · rcases hor with hi | hx
    · exact .inr (.inl (mem_entrySessions.mpr hi))
    · rw [hc] at hx
      exact hx.elim
  · obtain ⟨v, hv, hx⟩ := hh
    obtain ⟨i, -, hi⟩ := hlocal v x hv hx
    exact absurd he (hcare x (mem_entrySessions.mpr ⟨i, hi⟩))

theorem Owned.kept_shutdownNext (h : b.Owned) {rest all : List Nat} (hc : (b.threads t).call = .shutdownNext rest all)
    (hs : s ∈ rest) : b.Kept (b.goto t (.closing s .lock (.shutdown (rest.erase s) all)), []) := by
  have hmem : ∀ x, (b.threads t).call.Closes x ↔ x = s ∨ x ∈ rest.erase s := by
    intro x
    rw [hc]
    by_cases hx : x = s
    · subst hx
      simpa using hs
    · simp [hx, List.mem_erase_of_ne hx]
  refine h.kept_goto (by rw [hc]; simp) calm_refl rfl rfl nofun (fun v x _ _ hx => ?_) nofun (fun x hx => ?_) nofun
    (fun x hx => ?_) (fun x hx => ?_)
  · rw [hc] at hx
    cases v <;> simp_all [Call.alive, Caller.alive]
  · refine h.holds t x ((hmem x).mpr ?_)
    rcases hx with ⟨hx, -⟩ | hx
    · exact .inl hx
    · exact .inr hx
  · rcases hx with ⟨-, hx⟩ | ⟨ha, hr, hne⟩
    · cases hx
    · refine h.stopped t x ?_
      rw [hc]
      exact ⟨ha, fun hx => hr ((List.mem_erase_of_ne hne).mpr hx)⟩
  · rcases (hmem x).mp hx with rfl | hx
    · exact .inl (.inl ⟨rfl, by simp⟩)
    · exact .inl (.inr hx)

theorem Owned.kept_shutdownDone (h : b.Owned) {all : List Nat} (hc : (b.threads t).call = .shutdownNext [] all) :
    b.Kept (b.goto t (.leave (b.swappedLocals t) all), []) := by
  refine h.kept_goto (by rw [hc]; simp) calm_refl rfl rfl nofun (fun v x hv hx hal => ?_) (fun ls l he v hv => ?_) nofun nofun
    (fun x hx => ?_) (fun x hx => ?_)
  · rw [hc] at hal
    cases v with
    | swapped u i =>
      have hmem : Holder.swapped u i ∈ b.swappedLocals t := by
        rw [swappedLocals, List.mem_filter]
        refine ⟨List.mem_map.mpr ⟨_, mem_of_target hx, rfl⟩, ?_⟩
        simpa [Holder.owner] using hv
      simpa [Call.alive] using hmem
    | entry i => cases hv
    | previous u => cases hal
    | session u => cases hal
  · cases he
    have hv := (List.mem_filter.mp hv).2
    cases v <;> simp_all [Holder.owner]
  · refine h.stopped t x ?_
    rw [hc]
    exact ⟨hx, List.not_mem_nil⟩
  · rw [hc] at hx
    cases hx

/-! ## Every step -/

theorem Owned.kept_nothing (h : b.Owned) (hi : (b.threads t).call ≠ .idle)
    (ha : ∀ v : Holder I, (b.threads t).call.alive v = false) (hn : ∀ x, ¬ (b.threads t).call.Closes x) {l : List Nat}
    (hl : ∀ s ∈ l, b.Stopped s) : b.Kept (b.goto t (.leave [] l), []) := by
  refine h.kept_leave hi calm_refl rfl rfl (fun v _ hv => ?_) nofun hl hn
  rw [ha v] at hv
  cases hv

theorem Owned.kept_noMemory (h : b.Owned) (hc : (b.threads t).call = .initCreate i) :
    b.Kept (b.goto t (.leave [.previous t] []), []) := by
  refine h.kept_leave (by rw [hc]; simp) calm_refl rfl rfl (fun v hv hx => ?_) (by simp [Holder.owner]) nofun (fun x hx => ?_)
  · rw [hc] at hx
    cases v <;> simp_all [Call.alive, Holder.owner]
  · rw [hc] at hx
    exact hx

/-- The bridge is shutting down: `InitPlayout` closes its own new session. -/
theorem Owned.kept_reject (h : b.Owned) (hc : (b.threads t).call = .initPublish i)
    (hs : target b.pointers (.session t) = some s) : b.Kept (b.goto t (.closing s .lock .reject), []) := by
  refine h.kept_goto (by rw [hc]; simp) calm_refl rfl rfl nofun (fun v _ _ _ hx => ?_) nofun (fun x hx => ?_) nofun
    (fun x hx => ?_) (fun x hx => ?_)
  · rw [hc] at hx
    cases v <;> simp_all [Call.alive, Caller.alive]
  · have hx : x = s := by simpa [Caller.rest] using hx
    rw [hx]
    exact ⟨.session t, rfl, hs⟩
  · simp [Call.HasStopped, Caller.all] at hx
  · rw [hc] at hx
    exact hx.elim

theorem Owned.kept_returned (h : b.Owned) {stopped : List Nat} (hc : (b.threads t).call = .leave [] stopped) :
    b.Kept (b.goto t .idle, [.returned stopped]) := by
  refine h.kept_goto (by rw [hc]; simp) calm_refl rfl rfl (fun o ho => ?_) (fun v _ _ _ hx => ?_) nofun nofun nofun nofun
    (fun x hx => ?_)
  · rw [List.mem_singleton.mp ho]
    exact fun x hx => h.stopped t x (by rw [hc]; exact hx)
  · rw [hc] at hx
    simp [Call.alive] at hx
  · rw [hc] at hx
    exact hx.elim

theorem kept_advance (hs : b.Sound) (h : b.Owned) {answer : Answer} (hcare : Careful b (.advance t answer))
    (hr : b.advance t answer = some r) : b.Kept r := by
  have hr' := hr
  rw [advance.eq_def] at hr
  simp only [Careful] at hcare
  cases hc : (b.threads t).call with
  | idle => simp [hc] at hr
  | initTake i =>
    have hi : (b.threads t).call ≠ .idle := by rw [hc]; simp
    simp only [hc] at hr hcare
    by_cases hd : b.shuttingDown = true
    · rw [if_pos hd] at hr
      cases hr
      exact h.kept_nothing hi (fun v => by rw [hc]; rfl) (fun x => by rw [hc]; exact id) (by simp)
    · rw [if_neg hd] at hr
      cases hx : target b.pointers (.entry i) with
      | none =>
        simp only [hx, Option.some.injEq] at hr
        subst hr
        refine h.kept_goto hi calm_refl rfl rfl (by simp) (fun v _ _ _ hv => ?_) (by simp) (fun _ => False.elim) (by simp)
          (fun _ => False.elim) (fun x hx => ?_)
        · rw [hc] at hv
          cases hv
        · rw [hc] at hx
          cases hx
      | some s =>
        simp only [hx, Option.some.injEq] at hr
        subst hr
        exact h.kept_initTake hc (hcare (by simpa using hd)) hx
  | initCreate i =>
    simp only [hc] at hr
    cases answer with
    | ok =>
      cases hr
      exact h.kept_initCreate hs hc (calm_created (point b.pointers (.session t) b.next)) rfl rfl (Nat.lt_succ_self _) (.inl rfl)
    | fails =>
      cases hr
      exact h.kept_initCreate hs hc (calm_allocated (point b.pointers (.session t) b.next)) rfl rfl (Nat.lt_succ_self _)
        (.inr rfl)
    | noMemory | pick n =>
      cases hr
      exact h.kept_noMemory hc
  | initPublish i =>
    simp only [hc] at hr hcare
    cases hx : target b.pointers (.session t) with
    | none => simp [hx] at hr
    | some s =>
      simp only [hx] at hr
      by_cases hd : b.shuttingDown = true
      · rw [if_pos hd] at hr
        cases hr
        exact h.kept_reject hc hx
      · rw [if_neg hd] at hr
        obtain ⟨r', hdrop, rfl⟩ := Option.map_eq_some_iff.mp hr
        exact h.kept_publish hs hc (hcare (by simpa using hd)) hx hdrop
  | startFind i =>
    have hi : (b.threads t).call ≠ .idle := by rw [hc]; simp
    have hnothing := h.kept_nothing hi (fun v => by rw [hc]; rfl) (fun x => by rw [hc]; exact id) (l := []) (by simp)
    simp only [hc] at hr
    by_cases hd : b.shuttingDown = true
    · rw [if_pos hd] at hr
      cases hr
      exact hnothing
    · rw [if_neg hd] at hr
      cases hx : target b.pointers (.entry i) with
      | none =>
        simp only [hx, Option.some.injEq] at hr
        subst hr
        exact hnothing
      | some s =>
        simp only [hx, Option.some.injEq] at hr
        subst hr
        exact h.kept_startFind hc hx
  | startCheck => exact h.kept_start answer (.inl hc) hr'
  | startLock => exact h.kept_start answer (.inr (.inl hc)) hr'
  | startMark => exact h.kept_start answer (.inr (.inr (.inl hc))) hr'
  | startResume => exact h.kept_start answer (.inr (.inr (.inr hc))) hr'
  | stopFind i =>
    have hi : (b.threads t).call ≠ .idle := by rw [hc]; simp
    simp only [hc] at hr hcare
    cases hx : target b.pointers (.entry i) with
    | none =>
      simp only [hx, Option.some.injEq] at hr
      subst hr
      refine h.kept_nothing hi (fun v => by rw [hc]; rfl) (fun x => by rw [hc]; exact id) fun s hmem => ?_
      exact hs.stopped_missed hmem ((hcare s hmem).resolve_left (by simp [hx]))
    | some s =>
      simp only [hx, Option.some.injEq] at hr
      subst hr
      exact h.kept_stopFind hs hc hcare hx rfl
  | shutdownSwap =>
    simp only [hc] at hr hcare
    cases hr
    exact h.kept_shutdownSwap hs hc hcare.1 hcare.2
  | shutdownNext rest all =>
    simp only [hc] at hr
    cases rest with
    | nil =>
      cases hr
      exact h.kept_shutdownDone hc
    | cons first rest' =>
      simp only [Option.some.injEq] at hr
      subst hr
      refine h.kept_shutdownNext hc ?_
      split
      · split
        · assumption
        · exact List.mem_cons_self
      · exact List.mem_cons_self
  | closing s stage caller =>
    simp only [hc] at hr
    exact h.kept_close hs hc hr
  | leave locals stopped =>
    simp only [hc] at hr
    cases locals with
    | nil =>
      cases hr
      exact h.kept_returned hc
    | cons v ls =>
      obtain ⟨r', hdrop, rfl⟩ := Option.map_eq_some_iff.mp hr
      exact h.kept_drop hs hc hdrop

/-! ## Steps of a callback -/

/-- A step of a callback does not change what the calls hold, as long as only a thread without a call enters one. -/
theorem Turns.owned (h : Turns b b' t s) (ho : b.Owned)
    (hexec : ∀ x, b'.Executing t x → b.Executing t x ∨ (b.threads t).call = .idle)
    (hstop : ∀ x, b.Stopped x → b'.Stopped x) : b'.Owned := by
  have hexec' : ∀ u x, b'.Executing u x → b.Executing u x ∨ (b.threads u).call = .idle := by
    intro u x he
    by_cases hu : u = t
    · rw [hu] at he ⊢
      exact hexec x he
    · rw [Executing, h.threads u hu] at he
      exact .inl he
  constructor
  · intro v u x hv hx
    rw [h.call_eq]
    rw [h.pointers] at hx
    exact ho.alive v u x hv hx
  · intro u ls l hc
    rw [h.call_eq] at hc
    exact ho.locals u ls l hc
  · intro u x hc
    rw [h.call_eq] at hc
    rw [Holds, h.pointers]
    exact ho.holds u x hc
  · intro u x caller hc
    rw [h.call_eq] at hc
    obtain ⟨hn, hr⟩ := ho.quiet u x caller hc
    refine ⟨fun he => ?_, by rw [h.stop_eq]; exact hr⟩
    rcases hexec' u x he with he | hi
    · exact hn he
    · rw [hi] at hc
      cases hc
  · intro u x hc
    rw [h.call_eq] at hc
    exact hstop x (ho.stopped u x hc)
  · intro u x he hh
    rw [InContext]
    rw [Holds] at hh
    rw [h.pointers] at hh ⊢
    rcases hexec' u x he with he | hi
    · rcases ho.anchored u x he hh with hin | ⟨w, hw, hc⟩
      · exact .inl hin
      · exact .inr ⟨w, hw, by rw [h.call_eq]; exact hc⟩
    · obtain ⟨v, hv, hx⟩ := hh
      have hal := ho.alive v u x hv hx
      rw [hi] at hal
      cases hal
  · rw [h.pointers, h.next]
    exact ho.made

/-- What every step keeps. -/
structure Keeps (b : Bridge I) (r : Bridge I × List Obs) : Prop where
  sound : r.1.Sound
  owned : r.1.Owned
  stopped : ∀ s, b.Stopped s → r.1.Stopped s
  clean : ∀ o ∈ r.2, b.Clean o

theorem Kept.keeps (h : b.Kept r) (hs : b.Sound) : b.Keeps r :=
  ⟨h.calm.sound hs, h.owned, fun _ hx => h.calm.stopped hx, h.clean⟩

theorem keeps_refl (hs : b.Sound) (h : b.Owned) : b.Keeps (b, []) := ⟨hs, h, fun _ hx => hx, nofun⟩

theorem keeps_call (hs : b.Sound) (h : b.Owned) (hi : (b.threads t).call = .idle) (hm : b.MayCall t) (e : Entry I) :
    b.Keeps (b.goto t (entered e), []) := by
  have h1 : Calm b (b.goto t (entered e)) := calm_goto_of _ (.inr hm)
  refine ⟨h1.sound hs, ?_, fun _ hx => h1.stopped hx, nofun⟩
  refine h.inner h1 (fun u hu => goto_call_ne _ hu) rfl (fun v _ _ _ hv => ?_) ?_ ?_ ?_ ?_ (fun x hx => ?_)
  · rw [hi] at hv
    cases hv
  all_goals rw [goto_call]
  · cases e <;> nofun
  · cases e <;> nofun
  · cases e <;> nofun
  · cases e <;> nofun
  · rw [hi] at hx
    exact hx.elim

/-- A step of the callback that thread `t` executes. -/
theorem keeps_turn {b' : Bridge I} (hs : b.Sound) (h : b.Owned) (ht : Turns b b' t s) {stage : Stage}
    (hc : (b.threads t).callback = some (s, stage))
    (hcb : (b'.threads t).callback = none ∨ ∃ stage, (b'.threads t).callback = some (s, stage))
    (hbusy : (b'.sessions s).busy = (b'.threads t).callback.map fun _ => t)
    (hflag : ∀ u, b'.calledFromCallback u s = true ↔
      u = t ∧ ((b'.threads t).callback = some (s, .passed) ∨ (b'.threads t).callback = some (s, .data)))
    (hcalls : (b.threads t).call ≠ .idle → b'.MayCall t)
    (hpass : (b'.threads t).callback = some (s, .passed) → (b.sessions s).stopRequested = false)
    (hobs : ∀ o ∈ obs, b.Clean o) : b.Keeps (b', obs) := by
  have he : b.Executing t s := executing_iff.mpr ⟨stage, hc⟩
  have hhere : ∀ x, b.Executing t x → x = s := by
    intro x hx
    rw [Executing, hc] at hx
    exact (Option.some.inj hx).symm
  have hstop : ∀ x, b.Stopped x → b'.Stopped x := by
    intro x hx
    refine ht.stopped hx fun hu => ?_
    rcases hcb with hn | ⟨stage', hn⟩
    · rw [hn] at hu
      cases hu
    · rw [hn] at hu
      cases hu
      rcases hx.1 with hreq | ⟨hk, -⟩
      · rw [hpass hn] at hreq
        cases hreq
      · rw [hs.sink _ t he] at hk
        cases hk
  refine ⟨ht.sound hs (fun u hu => hs.unique hu he) hhere hcb hbusy (fun _ => hs.sink s t he) hflag hcalls, ?_, hstop, hobs⟩
  refine ht.owned h (fun x hx => .inl ?_) hstop
  rcases hcb with hn | ⟨stage', hn⟩
  · rw [Executing, hn] at hx
    cases hx
  · rw [Executing, hn] at hx
    cases hx
    exact he

attribute [local simp] setCallback modify calledFromCallback

theorem keeps_enter (hs : b.Sound) (h : b.Owned) (hcb : (b.threads t).callback = none) (hi : (b.threads t).call = .idle)
    (hsink : (b.sessions s).sink = true) (hbusy : (b.sessions s).busy = none) :
    b.Keeps ((b.modify s fun x => { x with busy := some t }).setCallback t (some (s, .entered)), []) := by
  have ht : Turns b ((b.modify s fun x => { x with busy := some t }).setCallback t (some (s, .entered))) t s := by
    refine turns_modify ?_ ?_ <;> exact fun _ => rfl
  have hnone : ∀ u, ¬ b.Executing u s := by
    intro u hu
    rw [(hs.busy s u).mpr hu] at hbusy
    cases hbusy
  have hnew : (((b.modify s fun x => { x with busy := some t }).setCallback t (some (s, .entered))).threads t).callback =
      some (s, .entered) := by simp
  have hstop : ∀ x, b.Stopped x →
      ((b.modify s fun x => { x with busy := some t }).setCallback t (some (s, .entered))).Stopped x := by
    intro x hx
    refine ht.stopped hx ?_
    rw [hnew]
    simp
  refine ⟨ht.sound hs (fun u hu => absurd hu (hnone u)) (fun x hx => ?_) (.inr ⟨_, hnew⟩) ?_ (fun _ => hsink) (fun u => ?_)
    (fun hc => absurd hi hc), ht.owned h (fun x _ => .inr hi) hstop, hstop, by simp⟩
  · rw [Executing, hcb] at hx
    cases hx
  · rw [hnew]
    simp
  · rw [hnew]
    have hold : b.calledFromCallback u s = false := by
      cases hf : b.calledFromCallback u s with
      | false => rfl
      | true =>
        rcases (hs.flag s u).mp hf with hp | hd
        · exact absurd (executing_iff.mpr ⟨_, hp⟩) (hnone u)
        · exact absurd (executing_iff.mpr ⟨_, hd⟩) (hnone u)
    have hsame : ((b.modify s fun x => { x with busy := some t }).setCallback t (some (s, .entered))).calledFromCallback u s =
        b.calledFromCallback u s := by simp
    rw [hsame, hold]
    simp

theorem keeps_gate (hs : b.Sound) (h : b.Owned) (t : Nat) : b.Keeps (b.step (.gate t)) := by
  simp only [step]
  split
  · rename_i s hc
    have hbusy : (b.sessions s).busy = some t := (hs.busy s t).mpr (executing_iff.mpr ⟨_, hc⟩)
    have hidle : (b.threads t).call = .idle := by
      by_contra hi
      rcases hs.calls t hi with hn | ⟨x, hd⟩
      · rw [hn] at hc
        cases hc
      · rw [hd] at hc
        cases hc
    have hflag := hs.flag_iff hc
    split
    · refine keeps_turn hs h ?_ hc (.inl ?_) ?_ (fun u => ?_) (fun hi => absurd hidle hi) ?_ ?_
      · refine turns_modify ?_ ?_ <;> exact fun _ => rfl
      · simp
      · simp
      · have hu := hflag u
        simp only [calledFromCallback] at hu
        simp [hu]
      · simp
      · simp
    · rename_i hrun
      refine keeps_turn hs h ?_ hc (.inr ⟨.passed, ?_⟩) ?_ (fun u => ?_) (fun hi => absurd hidle hi) (fun _ => ?_) ?_
      · refine turns_modify ?_ ?_ <;> exact fun _ => rfl
      · simp
      · simpa using hbusy
      · simp [eq_comm]
      · simp only [Bool.or_eq_true, not_or] at hrun
        simpa using hrun.2
      · simp
  · exact keeps_refl hs h

theorem keeps_begin (hs : b.Sound) (h : b.Owned) (t : Nat) : b.Keeps (b.step (.begin t)) := by
  simp only [step]
  split
  · rename_i s hc
    have ht : Turns b (b.setCallback t (some (s, .data))) t s :=
      ⟨fun u hu => upd_ne _ _ hu, by simp, fun _ _ => rfl, rfl, rfl, rfl, rfl, rfl⟩
    have hnew : ((b.setCallback t (some (s, .data))).threads t).callback = some (s, .data) := by simp
    refine keeps_turn hs h ht hc (.inr ⟨_, hnew⟩) ?_ (fun u => ?_) (fun _ => .inr ⟨s, hnew⟩) (fun hp => ?_) (fun o ho => ?_)
    · rw [hnew]
      exact (hs.busy s t).mpr (executing_iff.mpr ⟨_, hc⟩)
    · rw [hnew]
      refine (hs.flag_iff hc u).trans ?_
      simp
    · rw [hnew] at hp
      cases hp
    · rw [List.mem_singleton.mp ho]
      exact fun hst => hst.2 t hc
  · exact keeps_refl hs h

theorem keeps_finish (hs : b.Sound) (h : b.Owned) (t : Nat) (again : Bool) : b.Keeps (b.step (.finish t again)) := by
  simp only [step]
  split
  · rename_i s hc hidle
    have hbusy : (b.sessions s).busy = some t := (hs.busy s t).mpr (executing_iff.mpr ⟨_, hc⟩)
    split
    · refine keeps_turn hs h ?_ hc (.inr ⟨.entered, ?_⟩) ?_ (fun u => ?_) (fun hi => absurd hidle hi) ?_ ?_
      · refine turns_modify ?_ ?_ <;> exact fun _ => rfl
      · simp
      · simpa using hbusy
      · simp
      · simp
      · simp
    · refine keeps_turn hs h ?_ hc (.inl ?_) ?_ (fun u => ?_) (fun hi => absurd hidle hi) ?_ ?_
      · refine turns_modify ?_ ?_ <;> exact fun _ => rfl
      · simp
      · simp
      · simp
      · simp
      · simp
  · exact keeps_refl hs h

theorem keeps_step (hs : b.Sound) (h : b.Owned) {a : Act I} (hcare : Careful b a) : b.Keeps (b.step a) := by
  cases a with
  | call t e =>
    simp only [step]
    split
    · rename_i hcb hi
      exact keeps_call hs h hi (.inl hcb) e
    · rename_i s hcb hi
      exact keeps_call hs h hi (.inr ⟨s, hcb⟩) e
    · exact keeps_refl hs h
  | advance t answer =>
    simp only [step]
    cases hr : b.advance t answer with
    | none => exact keeps_refl hs h
    | some r => exact (kept_advance hs h hcare hr).keeps hs
  | enter t s =>
    simp only [step]
    split
    · rename_i hcb hi
      split
      · rename_i hand
        have hand : (b.sessions s).sink = true ∧ (b.sessions s).busy = none := by simpa using hand
        exact keeps_enter hs h hcb hi hand.1 hand.2
      · exact keeps_refl hs h
    · exact keeps_refl hs h
  | gate t => exact keeps_gate hs h t
  | begin t => exact keeps_begin hs h t
  | finish t again => exact keeps_finish hs h t again

end Bridge

/-! ## Every run -/

/-- What a careful run keeps of the bridge and of its trace. -/
structure Inv (b : Bridge I) (trace : List Obs) : Prop where
  sound : b.Sound
  owned : b.Owned
  stopped : ∀ l, .returned l ∈ trace → ∀ s ∈ l, b.Stopped s
  always : Always NotStopped trace

theorem inv_initial : Inv (initial I) [] where
  sound := by constructor <;> simp [initial, Bridge.Executing, Bridge.calledFromCallback]
  owned := by constructor <;> simp [initial, Bridge.Executing, Call.HasStopped, Held]
  stopped := by simp
  always := always_nil _

theorem inv_step (b : Bridge I) (trace : List Obs) (a : Act I) (h : Inv b trace) (hcare : Careful b a) :
    Inv ((machine I).step b a).1 (trace ++ ((machine I).step b a).2) := by
  have hk : b.Keeps (b.step a) := Bridge.keeps_step h.sound h.owned hcare
  have hstopped : ∀ l, .returned l ∈ trace ++ (b.step a).2 → ∀ s ∈ l, b.Stopped s := by
    intro l hl s hs
    rcases List.mem_append.mp hl with hl | hl
    · exact h.stopped l hl s hs
    · exact hk.clean _ hl s hs
  refine ⟨hk.sound, hk.owned, fun l hl s hs => hk.stopped s (hstopped l hl s hs), ?_⟩
  refine always_append.mpr ⟨h.always, fun pre o post hp => ?_⟩
  have hp : (b.step a).2 = pre ++ o :: post := hp
  have ho : b.Clean o := hk.clean o (by rw [hp]; simp)
  cases o with
  | begins s t =>
    intro hocc
    obtain ⟨x, hx, hs⟩ := hocc
    cases x with
    | returned l =>
      refine ho (hstopped l ?_ s (by simpa using hs))
      rw [hp]
      rcases List.mem_append.mp hx with hx | hx
      · exact List.mem_append_left _ hx
      · exact List.mem_append_right _ (List.mem_append_left _ hx)
    | begins s' t' => cases hs
    | shut s' t' => cases hs
    | freed s' t' => cases hs
  | shut s t => trivial
  | freed s t => trivial
  | returned l => trivial

/-- In a run that takes no session out of the context on the thread that executes its callback, and looks for no session
    that another call has taken out and not stopped yet, no session is torn down on the thread of its callback, and none
    begins a callback after a call for its identity has returned. -/
theorem sessions_outlive_callbacks (acts : List (Act I))
    (hg : (machine I).Guarded (fun b _ a => Careful b a) (initial I) acts) :
    (machine I).Guarded (fun b _ a => ¬ TornDownInside b a) (initial I) acts ∧
    Always NotStopped ((machine I).run (initial I) acts).2 := by
  have hinv : ∀ es, (machine I).Guarded (fun b _ a => Careful b a) (initial I) es →
      Inv ((machine I).run (initial I) es).1 ((machine I).run (initial I) es).2 := fun es hes =>
    (machine I).run_induct_guarded inv_initial (fun b t a h hc => inv_step b t a h hc) es hes
  refine ⟨fun pre a post hp => ?_, (hinv acts hg).always⟩
  have hpre := hinv pre (by rw [hp] at hg; exact ((machine I).guarded_append hg).1)
  intro hex
  obtain ⟨o, ho, ht⟩ := hex
  have hclean := (Bridge.keeps_step hpre.sound hpre.owned (hg pre a post hp)).clean o ho
  cases o with
  | begins s t => exact ht
  | shut s t => exact hclean ht
  | freed s t => exact hclean ht
  | returned l => exact ht

/-- Session 0 of identity 5 is made and started on thread 0, and its callback runs on thread 1. -/
def playing : List (Act Nat) :=
  (.call 0 (.initPlayout 5) :: List.replicate 6 (.advance 0 .ok) : List (Act Nat)) ++
  (.call 0 (.startPlayout 5) :: List.replicate 7 (.advance 0 .ok) : List (Act Nat)) ++
  ([.enter 1 0, .gate 1, .begin 1] : List (Act Nat))

/-- The callback stops its own session; later, thread 0 makes a new one, frees the old and stops the new one. -/
theorem sessions_outlive_callbacks_demo :
    let acts : List (Act Nat) := playing ++ (.call 1 (.stopPlayout 5) :: List.replicate 6 (.advance 1 .ok) : List (Act Nat)) ++
      (.finish 1 true :: .call 0 (.initPlayout 5) :: List.replicate 10 (.advance 0 .ok) : List (Act Nat)) ++
      (.call 0 (.stopPlayout 5) :: List.replicate 7 (.advance 0 .ok) : List (Act Nat))
    (Obs.freed 0 0 ∈ ((machine Nat).run (initial Nat) acts).2 ∧ Obs.returned [1, 0] ∈ ((machine Nat).run (initial Nat) acts).2) ∧
    (machine Nat).Guarded (fun b _ a => ¬ TornDownInside b a) (initial Nat) acts ∧
    Always NotStopped ((machine Nat).run (initial Nat) acts).2 :=
  ⟨by decide +kernel, sessions_outlive_callbacks _ (by decide +kernel)⟩

/-- The callback calls `InitPlayout` for its own identity: it moves the session out of the context, leaves its sink alone,
    and frees both when it returns. And a `StopPlayout` on thread 2 returns while the one on thread 0 has taken the session
    out of the map and not marked it yet: the callback goes on. -/
theorem reinit_and_missed_stop :
    let reinit : List (Act Nat) := playing ++ (.call 1 (.initPlayout 5) :: List.replicate 8 (.advance 1 .ok) : List (Act Nat))
    let missed : List (Act Nat) := playing ++ ([.call 0 (.stopPlayout 5), .advance 0 .ok, .call 2 (.stopPlayout 5),
      .advance 2 .ok, .advance 2 .ok, .finish 1 true, .gate 1, .begin 1] : List (Act Nat))
    ¬ (machine Nat).Guarded (fun b _ a => ¬ TornDownInside b a) (initial Nat) reinit ∧
    ¬ Always NotStopped ((machine Nat).run (initial Nat) missed).2 := by
  decide +kernel

end Mocktail.Audio.Playout
