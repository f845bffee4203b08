/-
  Mocktail.Window.ResizeReadiness — `WindowResizeReadinessGate`
  (src/window/window_resize_readiness_gate.cc), the evidence of one real resize.

  Every method holds `mutex_` for its whole length, so a run is a sequence of calls, whatever
  threads make them. The trace keeps each call with its answer.

  What the gate is for: when `RecordStopped` accepts, the trace shows a first present, a taken
  resize request after it, the committed target extent on the same surface, and a later
  present, with no surface created or destroyed since the request (`Presented`). The gate
  looks at Created and Destroyed events while it waits for the extent and at no event after
  that: it holds in the runs that commit none of them while the gate waits for the later
  present (`stopped_evidence`), and a surface that is recreated there goes unnoticed
  (`recreated_surface_accepted`).
-/

import Mocktail.Window.SurfaceLifecycle

namespace Mocktail.Window

open Mocktail.Lib

inductive ResizeReadinessState where
  | disabled
  | waitingForFirstPresent
  | readyToRequestResize
  | resizeRequested
  | surfaceCommitted
  | postRebindPresented
  | stopped
  | failed
  deriving DecidableEq, Repr

structure ResizeReadinessConfig where
  enabled : Bool := false
  targetWidth : Nat := 0
  targetHeight : Nat := 0
  deriving DecidableEq, Repr

structure ResizeRequest where
  width : Nat := 0
  height : Nat := 0
  deriving DecidableEq, Repr

/-- The gate is its `WindowResizeReadinessSnapshot`. -/
structure ResizeGate where
  state : ResizeReadinessState := .disabled
  surfaceGeneration : Nat := 0
  firstPresentSerial : Nat := 0
  postRebindPresentSerial : Nat := 0
  targetWidth : Nat := 0
  targetHeight : Nat := 0
  failureReason : String := ""
  deriving DecidableEq, Repr

/-! ## The methods -/

namespace ResizeGate

variable (g : ResizeGate)

def failLocked (reason : String) : ResizeGate × Status :=
  ({ g with state := .failed, failureReason := reason }, Status.failedPrecondition reason)

/-- The answer of a gate that failed or stopped before. -/
def refusal (message : String) : Status :=
  Status.failedPrecondition (if g.failureReason.isEmpty then message else g.failureReason)

def activate (config : ResizeReadinessConfig) (surface : WindowSurfaceSnapshot) : ResizeGate × Status :=
  if g.state != .disabled || g.surfaceGeneration != 0 then
    (g, Status.failedPrecondition "window resize readiness gate is already active")
  else if !config.enabled then (g, Status.okStatus)
  else if !surface.available || surface.generation == 0 || surface.nativeWindow == 0 || surface.width == 0 ||
      surface.height == 0 then
    (g, Status.invalidArgument "window resize readiness gate requires an available initial surface")
  else if config.targetWidth == 0 || config.targetHeight == 0 then
    (g, Status.invalidArgument "window resize target must have a positive extent")
  else if config.targetWidth == surface.width && config.targetHeight == surface.height then
    (g, Status.invalidArgument "window resize target must differ from initial extent")
  else
    ({ g with state := .waitingForFirstPresent, surfaceGeneration := surface.generation,
              targetWidth := config.targetWidth, targetHeight := config.targetHeight }, Status.okStatus)

def recordPresent (frameSerial : Nat) : ResizeGate × Status :=
  if g.state == .disabled then (g, Status.okStatus)
  else if g.state == .failed || g.state == .stopped then
    (g, g.refusal "window resize readiness gate cannot accept a present")
  else if frameSerial == 0 then g.failLocked "resize readiness received a zero present serial"
  else if g.state == .waitingForFirstPresent then
    ({ g with firstPresentSerial := frameSerial, state := .readyToRequestResize }, Status.okStatus)
  else if g.state == .surfaceCommitted then
    if frameSerial ≤ g.firstPresentSerial then
      g.failLocked "post-rebind present serial does not follow the first present"
    else ({ g with postRebindPresentSerial := frameSerial, state := .postRebindPresented }, Status.okStatus)
  else (g, Status.okStatus)

/-- The request it writes, where it returns true; `hasOutput` is false for a null pointer. -/
def takeResizeRequest (hasOutput : Bool) : ResizeGate × Option ResizeRequest :=
  if !hasOutput then (g, none)
  else if g.state != .readyToRequestResize then (g, none)
  else ({ g with state := .resizeRequested }, some ⟨g.targetWidth, g.targetHeight⟩)

def recordCommittedSurfaceEvent (event : WindowSurfaceEvent) : ResizeGate × Status :=
  if g.state == .disabled then (g, Status.okStatus)
  else if g.state == .failed || g.state == .stopped then
    (g, g.refusal "window resize readiness gate cannot accept a surface event")
  else if g.state != .resizeRequested then (g, Status.okStatus)
  else if event.type == .created || event.type == .destroyed then
    g.failLocked "resize recreated the surface instead of preserving its generation"
  else if event.surface.generation != g.surfaceGeneration then
    g.failLocked "resize committed a different surface generation"
  else if !event.surface.available || event.surface.nativeWindow == 0 then
    g.failLocked "resize committed an unavailable surface"
  -- Window managers may emit intermediate configure events: only the exact target is evidence.
  else if event.surface.width != g.targetWidth || event.surface.height != g.targetHeight then (g, Status.okStatus)
  else ({ g with state := .surfaceCommitted }, Status.okStatus)

def recordStopped : ResizeGate × Status :=
  if g.state == .disabled then (g, Status.okStatus)
  else if g.state == .failed then (g, Status.failedPrecondition g.failureReason)
  else if g.state != .postRebindPresented then
    g.failLocked "runtime stopped before resize rebind produced a later present"
  else ({ g with state := .stopped }, Status.okStatus)

end ResizeGate

/-! ## Runs -/

inductive GateCall where
  | present (frameSerial : Nat)
  | takeResize (hasOutput : Bool)
  | commit (event : WindowSurfaceEvent)
  | stopped
  deriving DecidableEq, Repr

/-- A call with what it returned. -/
structure GateRecord where
  call : GateCall
  ok : Bool
  deriving DecidableEq, Repr

def stepGate (g : ResizeGate) (call : GateCall) : ResizeGate × List GateRecord :=
  match call with
  | .present serial => ((g.recordPresent serial).1, [⟨call, (g.recordPresent serial).2.ok⟩])
  | .takeResize out => ((g.takeResizeRequest out).1, [⟨call, (g.takeResizeRequest out).2.isSome⟩])
  | .commit event => ((g.recordCommittedSurfaceEvent event).1, [⟨call, (g.recordCommittedSurfaceEvent event).2.ok⟩])
  | .stopped => (g.recordStopped.1, [⟨call, g.recordStopped.2.ok⟩])

def resizeGate : Machine ResizeGate GateCall GateRecord := ⟨stepGate⟩

/-! ## The evidence -/

def GateCall.presents : GateCall → Bool
  | .present _ => true
  | _ => false

/-- The surface is created or destroyed. -/
def GateCall.recreates : GateCall → Bool
  | .commit event => event.type == .created || event.type == .destroyed
  | _ => false

def Unbroken (t : List GateRecord) : Prop := ∀ r ∈ t, r.call.recreates = false

/-- The trace has a first present, of serial `s`. -/
def FirstPresent (s : Nat) (t : List GateRecord) : Prop :=
  ∃ before after, t = before ++ ⟨.present s, true⟩ :: after ∧ ∀ r ∈ before, r.call.presents = false

/-- A resize request was taken after the first present, and the surface stayed. -/
def Requested (s : Nat) (t : List GateRecord) : Prop :=
  ∃ before after, t = before ++ ⟨.takeResize true, true⟩ :: after ∧ FirstPresent s before ∧ Unbroken after

/-- The committed event shows the target extent on the surface of the activation. -/
structure ShowsTarget (config : ResizeReadinessConfig) (surface : WindowSurfaceSnapshot) (event : WindowSurfaceEvent) :
    Prop where
  type : event.type = .changed
  generation : event.surface.generation = surface.generation
  width : event.surface.width = config.targetWidth
  height : event.surface.height = config.targetHeight

variable {config : ResizeReadinessConfig} {surface : WindowSurfaceSnapshot} {s : Nat} {t : List GateRecord}

/-- The target extent was committed after the request, and the surface stayed. -/
def Committed (config : ResizeReadinessConfig) (surface : WindowSurfaceSnapshot) (s : Nat) (t : List GateRecord) : Prop :=
  ∃ before event after, t = before ++ ⟨.commit event, true⟩ :: after ∧ Requested s before ∧
    ShowsTarget config surface event ∧ Unbroken after

/-- A present of a later serial followed the commit. -/
def Presented (config : ResizeReadinessConfig) (surface : WindowSurfaceSnapshot) (s : Nat) (t : List GateRecord) : Prop :=
  ∃ before serial after, t = before ++ ⟨.present serial, true⟩ :: after ∧ Committed config surface s before ∧ s < serial

theorem unbroken_snoc {r : GateRecord} (h : Unbroken t) (hr : r.call.recreates = false) : Unbroken (t ++ [r]) := by
  intro q hq
  rcases List.mem_append.mp hq with hq | hq
  · exact h q hq
  · rw [List.mem_singleton.mp hq]
    exact hr

theorem FirstPresent.snoc (h : FirstPresent s t) (r : GateRecord) : FirstPresent s (t ++ [r]) := by
  obtain ⟨before, after, rfl, hquiet⟩ := h
  exact ⟨before, after ++ [r], by simp, hquiet⟩

theorem Requested.snoc (h : Requested s t) {r : GateRecord} (hr : r.call.recreates = false) : Requested s (t ++ [r]) := by
  obtain ⟨before, after, rfl, hfirst, hkept⟩ := h
  exact ⟨before, after ++ [r], by simp, hfirst, unbroken_snoc hkept hr⟩

theorem Committed.snoc (h : Committed config surface s t) {r : GateRecord} (hr : r.call.recreates = false) :
    Committed config surface s (t ++ [r]) := by
  obtain ⟨before, event, after, rfl, hrequested, hshows, hkept⟩ := h
  exact ⟨before, event, after ++ [r], by simp, hrequested, hshows, unbroken_snoc hkept hr⟩

theorem Presented.snoc (h : Presented config surface s t) (r : GateRecord) : Presented config surface s (t ++ [r]) := by
  obtain ⟨before, serial, after, rfl, hcommitted, hlater⟩ := h
  exact ⟨before, serial, after ++ [r], by simp, hcommitted, hlater⟩

/-- The surface is kept from the request to the later present. -/
theorem Presented.unbroken (h : Presented config surface s t) :
    ∃ before between serial after,
      t = before ++ ⟨.takeResize true, true⟩ :: (between ++ ⟨.present serial, true⟩ :: after) ∧ Unbroken between := by
  obtain ⟨-, serial, later, rfl, ⟨-, event, held, rfl, ⟨before, waited, rfl, -, hwaited⟩, hshows, hheld⟩, -⟩ := h
  refine ⟨before, waited ++ ⟨.commit event, true⟩ :: held, serial, later, by simp, ?_⟩
  intro r hr
  rcases List.mem_append.mp hr with hr | hr
  · exact hwaited r hr
  rcases List.mem_cons.mp hr with rfl | hr
  · simp [GateCall.recreates, hshows.type]
  · exact hheld r hr

/-! ## The invariant -/

/-- What the trace shows in each state. -/
def Shows (config : ResizeReadinessConfig) (surface : WindowSurfaceSnapshot) (serial : Nat) (t : List GateRecord) :
    ResizeReadinessState → Prop
  | .disabled => False
  | .waitingForFirstPresent => ∀ r ∈ t, r.call.presents = false
  | .readyToRequestResize => FirstPresent serial t
  | .resizeRequested => Requested serial t
  | .surfaceCommitted => Committed config surface serial t
  | .postRebindPresented => Presented config surface serial t
  | .stopped => Presented config surface serial t
  | .failed => True

structure GateInv (config : ResizeReadinessConfig) (surface : WindowSurfaceSnapshot) (g : ResizeGate) (t : List GateRecord) :
    Prop where
  generation : g.surfaceGeneration = surface.generation
  width : g.targetWidth = config.targetWidth
  height : g.targetHeight = config.targetHeight
  shows : Shows config surface g.firstPresentSerial t g.state

/-- No surface is created or destroyed while the gate waits for the later present. -/
def KeepsSurface (g : ResizeGate) (call : GateCall) : Prop := g.state = .surfaceCommitted → call.recreates = false

instance (g : ResizeGate) (call : GateCall) : Decidable (KeepsSurface g call) := inferInstanceAs (Decidable (_ → _))

variable {g : ResizeGate}

theorem GateInv.failed (h : GateInv config surface g t) (reason : String) (t' : List GateRecord) :
    GateInv config surface (g.failLocked reason).1 t' :=
  ⟨h.generation, h.width, h.height, trivial⟩

/-- A call that leaves the gate alone. In `waitingForFirstPresent` it is no present, in
`resizeRequested` and `surfaceCommitted` it recreates no surface. -/
theorem GateInv.snoc (h : GateInv config surface g t) {r : GateRecord}
    (hwaiting : g.state = .waitingForFirstPresent → r.call.presents = false)
    (hkept : g.state = .resizeRequested ∨ g.state = .surfaceCommitted → r.call.recreates = false) :
    GateInv config surface g (t ++ [r]) := by
  refine ⟨h.generation, h.width, h.height, ?_⟩
  have hshows := h.shows
  cases hstate : g.state with
  | disabled => rw [hstate] at hshows; exact hshows
  | waitingForFirstPresent =>
    rw [hstate] at hshows
    intro q hq
    rcases List.mem_append.mp hq with hq | hq
    · exact hshows q hq
    · rw [List.mem_singleton.mp hq]
      exact hwaiting hstate
  | readyToRequestResize | postRebindPresented | stopped => rw [hstate] at hshows; exact hshows.snoc r
  | resizeRequested => rw [hstate] at hshows; exact hshows.snoc (hkept (Or.inl hstate))
  | surfaceCommitted => rw [hstate] at hshows; exact hshows.snoc (hkept (Or.inr hstate))
  | failed => trivial

theorem recordPresent_inv (h : GateInv config surface g t) (serial : Nat) :
    GateInv config surface (g.recordPresent serial).1 (t ++ [⟨.present serial, (g.recordPresent serial).2.ok⟩]) := by
  have hshows := h.shows
  unfold ResizeGate.recordPresent
  split
  · rename_i hoff
    rw [beq_iff_eq.mp hoff] at hshows
    exact hshows.elim
  split
  · rename_i hover
    refine h.snoc (fun hstate => ?_) fun _ => rfl
    rw [hstate] at hover
    cases hover
  split
  · exact h.failed _ _
  split
  · rename_i hwaiting
    rw [beq_iff_eq.mp hwaiting] at hshows
    exact ⟨h.generation, h.width, h.height, t, [], rfl, hshows⟩
  rename_i hwaiting
  split
  · rename_i hcommitted
    rw [beq_iff_eq.mp hcommitted] at hshows
    split
    · exact h.failed _ _
    · rename_i hlater
      exact ⟨h.generation, h.width, h.height, t, serial, [], rfl, hshows, Nat.lt_of_not_le hlater⟩
  · exact h.snoc (fun hstate => absurd (beq_iff_eq.mpr hstate) hwaiting) fun _ => rfl

theorem takeResizeRequest_inv (h : GateInv config surface g t) (out : Bool) :
    GateInv config surface (g.takeResizeRequest out).1
      (t ++ [⟨.takeResize out, (g.takeResizeRequest out).2.isSome⟩]) := by
  have hshows := h.shows
  unfold ResizeGate.takeResizeRequest
  split
  · exact h.snoc (fun _ => rfl) fun _ => rfl
  rename_i hout
  obtain rfl : out = true := by simpa using hout
  split
  · exact h.snoc (fun _ => rfl) fun _ => rfl
  · rename_i hready
    have hready : g.state = .readyToRequestResize := by simpa using hready
    rw [hready] at hshows
    exact ⟨h.generation, h.width, h.height, t, [], rfl, hshows, by simp [Unbroken]⟩

theorem recordCommittedSurfaceEvent_inv (h : GateInv config surface g t) (event : WindowSurfaceEvent)
    (hkeeps : KeepsSurface g (.commit event)) :
    GateInv config surface (g.recordCommittedSurfaceEvent event).1
      (t ++ [⟨.commit event, (g.recordCommittedSurfaceEvent event).2.ok⟩]) := by
  have hshows := h.shows
  unfold ResizeGate.recordCommittedSurfaceEvent
  split
  · rename_i hoff
    rw [beq_iff_eq.mp hoff] at hshows
    exact hshows.elim
  split
  · rename_i hover
    refine h.snoc (fun _ => rfl) fun hstate => ?_
    rcases hstate with hstate | hstate <;> rw [hstate] at hover <;> cases hover
  split
  · -- Any event is ignored here, also one that recreates the surface.
    rename_i hother
    refine h.snoc (fun _ => rfl) fun hstate => ?_
    rcases hstate with hstate | hstate
    · rw [hstate] at hother
      cases hother
    · exact hkeeps hstate
  rename_i hrequested
  have hrequested : g.state = .resizeRequested := by simpa using hrequested
  rw [hrequested] at hshows
  split
  · exact h.failed _ _
  rename_i htype
  split
  · exact h.failed _ _
  rename_i hgeneration
  split
  · exact h.failed _ _
  split
  · exact h.snoc (fun _ => rfl) fun _ => Bool.eq_false_iff.mpr htype
  · rename_i hextent
    simp only [bne_iff_ne, ne_eq, Bool.or_eq_true, not_or, not_not] at hextent hgeneration
    have hchanged : event.type = .changed := by
      cases hty : event.type with
      | created => simp [hty] at htype
      | changed => rfl
      | destroyed => simp [hty] at htype
    exact ⟨h.generation, h.width, h.height, t, event, [], rfl, hshows,
      ⟨hchanged, hgeneration.trans h.generation, hextent.1.trans h.width, hextent.2.trans h.height⟩, by simp [Unbroken]⟩

theorem recordStopped_inv (h : GateInv config surface g t) :
    GateInv config surface g.recordStopped.1 (t ++ [⟨.stopped, g.recordStopped.2.ok⟩]) := by
  have hshows := h.shows
  unfold ResizeGate.recordStopped
  split
  · exact h.snoc (fun _ => rfl) fun _ => rfl
  split
  · exact h.snoc (fun _ => rfl) fun _ => rfl
  split
  · exact h.failed _ _
  · rename_i hlater
    have hlater : g.state = .postRebindPresented := by simpa using hlater
    rw [hlater] at hshows
    exact ⟨h.generation, h.width, h.height, hshows.snoc _⟩

theorem step_gate (h : GateInv config surface g t) (call : GateCall) (hkeeps : KeepsSurface g call) :
    GateInv config surface (stepGate g call).1 (t ++ (stepGate g call).2) := by
  cases call with
  | present serial => exact recordPresent_inv h serial
  | takeResize out => exact takeResizeRequest_inv h out
  | commit event => exact recordCommittedSurfaceEvent_inv h event hkeeps
  | stopped => exact recordStopped_inv h

/-! ## The gate -/

/-- An enabled gate that was activated waits for the first present. -/
theorem activate_inv (henabled : config.enabled = true)
    (hok : (ResizeGate.activate {} config surface).2.ok = true) :
    GateInv config surface (ResizeGate.activate {} config surface).1 [] := by
  unfold ResizeGate.activate at hok ⊢
  rw [if_neg (by decide), if_neg (by simp [henabled])] at hok ⊢
  split at hok
  · cases hok
  rename_i havailable
  rw [if_neg havailable]
  split at hok
  · cases hok
  rename_i hpositive
  rw [if_neg hpositive]
  split at hok
  · cases hok
  rename_i hdiffers
  rw [if_neg hdiffers]
  exact ⟨rfl, rfl, rfl, by simp [Shows]⟩

/-- Only the last state of the evidence is accepted. -/
theorem recordStopped_presented (h : GateInv config surface g t) (hok : g.recordStopped.2.ok = true) :
    Presented config surface g.firstPresentSerial t := by
  have hshows := h.shows
  unfold ResizeGate.recordStopped at hok
  split at hok
  · rename_i hoff
    rw [beq_iff_eq.mp hoff] at hshows
    exact hshows.elim
  split at hok
  · cases hok
  split at hok
  · cases hok
  · rename_i hlater
    have hlater : g.state = .postRebindPresented := by simpa using hlater
    rw [hlater] at hshows
    exact hshows

theorem stopped_evidence (config : ResizeReadinessConfig) (surface : WindowSurfaceSnapshot) (henabled : config.enabled = true)
    (hactivated : (ResizeGate.activate {} config surface).2.ok = true) (calls : List GateCall)
    (hkeeps : resizeGate.Guarded (fun g _ call => KeepsSurface g call) (ResizeGate.activate {} config surface).1 calls)
    (hstopped : ((resizeGate.run (ResizeGate.activate {} config surface).1 calls).1.recordStopped).2.ok = true) :
    ∃ s, Presented config surface s (resizeGate.run (ResizeGate.activate {} config surface).1 calls).2 := by
  have hinv : GateInv config surface (resizeGate.run (ResizeGate.activate {} config surface).1 calls).1
      (resizeGate.run (ResizeGate.activate {} config surface).1 calls).2 :=
    resizeGate.run_induct_guarded (I := GateInv config surface) (activate_inv henabled hactivated)
      (fun _ _ call h hcall => step_gate h call hcall) calls hkeeps
  exact ⟨_, recordStopped_presented hinv hstopped⟩

/-- A window of 1280 by 720 that is to become 1600 by 900. -/
def demoResize : ResizeReadinessConfig := ⟨true, 1600, 900⟩

def demoSurface : WindowSurfaceSnapshot :=
  { generation := 1, nativeWindow := 0x44, width := 1280, height := 720, available := true }

def demoCommit (type : WindowSurfaceEventType) (width height : Nat) : GateCall :=
  .commit ⟨type, { demoSurface with width := width, height := height }⟩

/-- An intermediate extent comes first. -/
def demoCalls : List GateCall :=
  [.present 4, .takeResize true, demoCommit .changed 1500 850, demoCommit .changed 1600 900, .present 5]

theorem stopped_evidence_demo :
    ((resizeGate.run (ResizeGate.activate {} demoResize demoSurface).1 demoCalls).1.recordStopped).2.ok = true ∧
      ∃ s, Presented demoResize demoSurface s (resizeGate.run (ResizeGate.activate {} demoResize demoSurface).1 demoCalls).2 :=
  ⟨by decide, stopped_evidence demoResize demoSurface rfl (by decide) demoCalls (by decide) (by decide)⟩

/-- The surface is destroyed and created again between the commit and the later present. -/
def recreatedCalls : List GateCall :=
  [.present 4, .takeResize true, demoCommit .changed 1600 900, demoCommit .destroyed 1600 900, demoCommit .created 1600 900,
    .present 5]

/-- The gate accepts the run although the surface was recreated. The request is the trace's
only one, so no reading of the trace is evidence. -/
theorem recreated_surface_accepted :
    (ResizeGate.activate {} demoResize demoSurface).2.ok = true ∧
      ((resizeGate.run (ResizeGate.activate {} demoResize demoSurface).1 recreatedCalls).1.recordStopped).2.ok = true ∧
      ¬ ∃ s, Presented demoResize demoSurface s
        (resizeGate.run (ResizeGate.activate {} demoResize demoSurface).1 recreatedCalls).2 := by
  refine ⟨by decide, by decide, ?_⟩
  rintro ⟨s, hpresented⟩
  obtain ⟨before, between, serial, after, htrace, hkept⟩ := hpresented.unbroken
  have hrun : (resizeGate.run (ResizeGate.activate {} demoResize demoSurface).1 recreatedCalls).2 =
      recreatedCalls.map fun call => ⟨call, true⟩ := by decide
  rw [hrun] at htrace
  rcases before with _ | ⟨first, _ | ⟨second, before⟩⟩
  · simp [recreatedCalls] at htrace
  · rcases between with _ | ⟨extent, _ | ⟨destroyed, between⟩⟩
    · simp [recreatedCalls, demoCommit] at htrace
    · simp [recreatedCalls, demoCommit] at htrace
    · have hdestroyed : destroyed = ⟨demoCommit .destroyed 1600 900, true⟩ := by
        simp only [recreatedCalls, List.map_cons, List.cons_append, List.nil_append, List.cons.injEq] at htrace
        exact htrace.2.2.2.1.symm
      have hquiet := hkept destroyed (by simp)
      rw [hdestroyed] at hquiet
      cases hquiet
  · have htaken : (⟨.takeResize true, true⟩ : GateRecord) ∈ (recreatedCalls.map fun call => ⟨call, true⟩).drop 2 := by
      rw [htrace]
      simp
    exact absurd htaken (by decide)

end Mocktail.Window
