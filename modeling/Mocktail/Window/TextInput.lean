/-
  Mocktail.Window.TextInput — `WindowTextInputOwner` (src/window/window_text_input_owner.cc),
  the handoff of text-input requests from the guest's threads to the window's main thread.

  Only the requests come from other threads; every other method is the main thread's, and its
  own fields (`active_`, `focused_`, ...) are read by it alone. A request decides under the
  mutex: it is one step (where its first look at `enabled_` refuses it, that look is the
  step). A method of the main thread that writes `enabled_` or takes the pending command and
  goes on after it has two steps, with any requests between them: `Main` is what it still has
  to do. The rest of a method touches nothing a request can see, so it is one step.

  Only the last command is kept. What a command does to (active, generation, area) is
  `TextInputCommand.act`; an overwritten command makes no difference to it
  (`act_overwritten`), so the owner that pumped is where it would be had it executed each
  accepted request at once (`Steady.pumped`).
-/

import Mathlib.Data.List.Chain
import Mocktail.Base.Status
import Mocktail.Lib.Trace

namespace Mocktail.Window

open Mocktail.Lib

/-! ## Data -/

structure TextInputArea where
  x : Int := 0
  y : Int := 0
  width : Int := 0
  height : Int := 0
  cursor : Int := 0
  deriving DecidableEq, Repr

def TextInputArea.valid (area : TextInputArea) : Bool := decide (0 < area.width) && decide (0 < area.height)

def kSafeDefaultArea : TextInputArea := ⟨0, 0, 1, 1, 0⟩

structure TextInputOptions where
  robloxTextInputType : Int := 0
  multiline : Bool := false
  deriving DecidableEq, Repr

inductive TextInputCommandType where
  | show
  | hide
  deriving DecidableEq, Repr

structure TextInputCommand where
  type : TextInputCommandType := .hide
  generation : Nat := 0
  area : TextInputArea := {}
  options : TextInputOptions := {}
  deriving DecidableEq, Repr

/-- What a method of the main thread has to do after its first step. -/
inductive Main where
  | idle
  /-- `SetEnabled` changed `enabled_` to this value. -/
  | toggled (enabled : Bool)
  /-- `Shutdown` cleared `enabled_`. -/
  | closing
  /-- `Pump` took this command. -/
  | executing (command : TextInputCommand)
  deriving DecidableEq, Repr

structure TextInputOwner where
  /-- The backend is not null. -/
  backend : Bool := true
  enabled : Bool := false
  pending : Option TextInputCommand := none
  acceptedGeneration : Nat := 0
  active : Bool := false
  activeGeneration : Nat := 0
  activeArea : TextInputArea := {}
  focused : Bool := true
  main : Main := .idle
  deriving DecidableEq, Repr

/-- What the backend's calls return in one step; each is made at most once there, save a
second `ClearArea` whose answer nothing reads. -/
structure BackendAnswers where
  setArea : Bool := true
  clearArea : Bool := true
  start : Bool := true
  stop : Bool := true
  deriving DecidableEq, Repr

/-- What a step shows: the calls of the backend, and a request that was accepted. -/
inductive TextInputEvent where
  | setArea (area : TextInputArea)
  | clearArea
  | start (options : TextInputOptions) (ok : Bool)
  | stop
  | flushTextEvents
  | accepted (command : TextInputCommand)
  deriving DecidableEq, Repr

/-! ## The methods -/

namespace TextInputOwner

variable (o : TextInputOwner) (a : BackendAnswers)

/-- `StopAndClear`, with what it returns. -/
def stopAndClear : TextInputOwner × List TextInputEvent × Bool :=
  ({ o with active := false, activeGeneration := 0, activeArea := {} },
    if o.backend then [.stop, .clearArea, .flushTextEvents] else [],
    if o.backend then a.clearArea && a.stop else true)

/-- How `SetEnabled(false)`, `OnFocusLost` and `Shutdown` end. -/
def quit : TextInputOwner × List TextInputEvent :=
  if o.active then ((o.stopAndClear a).1, (o.stopAndClear a).2.1)
  else (o, if o.backend then [.flushTextEvents] else [])

/-- Accepted requests replace the pending command. -/
def queue (command : TextInputCommand) : TextInputOwner × List TextInputEvent × Bool :=
  ({ o with acceptedGeneration := command.generation, pending := some command }, [.accepted command], true)

def requestShowTextInput (generation : Nat) (area : TextInputArea) (options : TextInputOptions) :
    TextInputOwner × List TextInputEvent × Bool :=
  if !o.enabled || generation == 0 then (o, [], false)
  else if generation < o.acceptedGeneration then (o, [], false)
  else o.queue ⟨.show, generation, if area.valid then area else kSafeDefaultArea, options⟩

def requestHideTextInput (generation : Nat) : TextInputOwner × List TextInputEvent × Bool :=
  if !o.enabled || generation == 0 then (o, [], false)
  else if generation != o.acceptedGeneration then (o, [], false)
  else o.queue ⟨.hide, generation, {}, {}⟩

/-- The first part of `SetEnabled`: the exchange. -/
def setEnabled (enabled : Bool) : TextInputOwner :=
  { o with enabled := enabled, main := if enabled != o.enabled then .toggled enabled else .idle }

/-- The first part of `Shutdown`: the store. -/
def shutdown : TextInputOwner := { o with enabled := false, main := .closing }

/-- The first part of `Pump`: the pending command is taken. -/
def pump : TextInputOwner :=
  if !o.enabled || !o.backend then o
  else
    match o.pending with
    | none => o
    | some command => { o with pending := none, main := .executing command }

/-- The second part of `Pump`, with what it returns. -/
def execute (command : TextInputCommand) : TextInputOwner × List TextInputEvent × Bool :=
  if !o.focused then (o, [], true)
  else if command.type == .hide then
    -- A hide can replace both a pending show and the hide of the previous editor. It must also
    -- stop that older editor if the new show was never pumped.
    if !o.active || decide (command.generation < o.activeGeneration) then (o, [], true)
    else o.stopAndClear a
  else
    let previous : TextInputOwner × List TextInputEvent × Bool :=
      if o.active && o.activeGeneration != command.generation then o.stopAndClear a else (o, [], true)
    if !previous.2.2 then previous
    else if previous.1.active then
      ({ previous.1 with activeArea := command.area }, previous.2.1 ++ [TextInputEvent.setArea command.area], a.setArea)
    else if !a.setArea then (previous.1, previous.2.1 ++ [TextInputEvent.flushTextEvents, .setArea command.area], false)
    else if !a.start then
      (previous.1, previous.2.1 ++ [TextInputEvent.flushTextEvents, .setArea command.area, .start command.options false,
        .clearArea], false)
    else
      ({ previous.1 with active := true, activeGeneration := command.generation, activeArea := command.area },
        previous.2.1 ++ [TextInputEvent.flushTextEvents, .setArea command.area, .start command.options true], true)

def onViewportChanged : List TextInputEvent := if !o.active || !o.backend then [] else [.setArea o.activeArea]

def onFocusGained : TextInputOwner := { o with focused := true }

def onFocusLost : TextInputOwner × List TextInputEvent := { o with focused := false, pending := none }.quit a

/-- The main thread goes on with its method. -/
def resume : TextInputOwner × List TextInputEvent :=
  match o.main with
  | .idle => (o, [])
  | .toggled true => ({ o with pending := none, acceptedGeneration := 0, main := .idle }, [])
  | .toggled false => { o with pending := none, acceptedGeneration := 0, main := .idle }.quit a
  | .closing => { o with pending := none, main := .idle }.quit a
  | .executing command => (({ o with main := .idle }.execute a command).1, ({ o with main := .idle }.execute a command).2.1)

end TextInputOwner

/-! ## Runs -/

inductive TextInputOp where
  | requestShow (generation : Nat) (area : TextInputArea) (options : TextInputOptions)
  | requestHide (generation : Nat)
  | setEnabled (enabled : Bool)
  | shutdown
  | pump
  | viewportChanged
  | focusGained
  | focusLost (answers : BackendAnswers)
  | resume (answers : BackendAnswers)
  deriving DecidableEq, Repr

/-- The main thread starts a method when it is in none. -/
def stepTextInput (o : TextInputOwner) (op : TextInputOp) : TextInputOwner × List TextInputEvent :=
  match op with
  | .requestShow generation area options =>
    ((o.requestShowTextInput generation area options).1, (o.requestShowTextInput generation area options).2.1)
  | .requestHide generation => ((o.requestHideTextInput generation).1, (o.requestHideTextInput generation).2.1)
  | .resume a => o.resume a
  | .setEnabled enabled => if o.main == .idle then (o.setEnabled enabled, []) else (o, [])
  | .shutdown => if o.main == .idle then (o.shutdown, []) else (o, [])
  | .pump => if o.main == .idle then (o.pump, []) else (o, [])
  | .viewportChanged => if o.main == .idle then (o, o.onViewportChanged) else (o, [])
  | .focusGained => if o.main == .idle then (o.onFocusGained, []) else (o, [])
  | .focusLost a => if o.main == .idle then o.onFocusLost a else (o, [])

def textInput : Machine TextInputOwner TextInputOp TextInputEvent := ⟨stepTextInput⟩

/-- The successful starts (true) and the stops (false) of a trace. -/
def switches (t : List TextInputEvent) : List Bool :=
  t.filterMap fun
    | .start _ true => some true
    | .stop => some false
    | _ => none

def acceptedRequests (t : List TextInputEvent) : List TextInputCommand :=
  t.filterMap fun
    | .accepted command => some command
    | _ => none

/-! ## Starts and stops -/

/-- Successful starts and stops take turns, the first being a start, and leave the backend
running or not. -/
structure Alternating (t : List TextInputEvent) (running : Bool) : Prop where
  turns : (false :: switches t).IsChain (· ≠ ·)
  last : (false :: switches t).getLast? = some running

theorem alternating_nil : Alternating [] false := ⟨List.isChain_singleton _, rfl⟩

theorem switches_append (t es : List TextInputEvent) : switches (t ++ es) = switches t ++ switches es :=
  List.filterMap_append

theorem Alternating.append {t es : List TextInputEvent} {running after : Bool} (h : Alternating t running)
    (hturns : (running :: switches es).IsChain (· ≠ ·)) (hlast : (running :: switches es).getLast? = some after) :
    Alternating (t ++ es) after := by
  have hsplit : false :: switches (t ++ es) = (false :: switches t) ++ switches es := by rw [switches_append, List.cons_append]
  refine ⟨?_, ?_⟩
  · rw [hsplit, List.isChain_append]
    refine ⟨h.turns, hturns.tail, fun x hx y hy => ?_⟩
    obtain rfl : running = x := by
      rw [h.last] at hx
      exact Option.some_inj.mp hx
    rcases hes : switches es with _ | ⟨z, zs⟩
    · rw [hes] at hy
      cases hy
    · rw [hes] at hy hturns
      obtain rfl : z = y := Option.some_inj.mp hy
      exact hturns.rel
  · rw [hsplit, List.getLast?_append, h.last]
    rcases hes : switches es with _ | ⟨z, zs⟩
    · rw [hes] at hlast
      simpa using hlast
    · rw [hes, List.getLast?_cons_cons] at hlast
      rw [hlast]
      rfl

/-- Events without a successful start and without a stop. -/
theorem Alternating.quiet {t es : List TextInputEvent} {running : Bool} (h : Alternating t running) (hes : switches es = []) :
    Alternating (t ++ es) running :=
  h.append (by rw [hes]; exact List.isChain_singleton _) (by rw [hes]; rfl)

/-! ## The view -/

/-- What the window shows of the owner. -/
structure TextInputView where
  active : Bool := false
  generation : Nat := 0
  area : TextInputArea := {}
  deriving DecidableEq, Repr

def TextInputOwner.view (o : TextInputOwner) : TextInputView := ⟨o.active, o.activeGeneration, o.activeArea⟩

/-- What a command does to the view where the backend succeeds. -/
def TextInputCommand.act (command : TextInputCommand) (v : TextInputView) : TextInputView :=
  match command.type with
  | .show => ⟨true, command.generation, command.area⟩
  | .hide => if v.active = false ∨ command.generation < v.generation then v else {}

/-- A view that no request after generation `g` is older than. -/
structure TextInputView.Upto (v : TextInputView) (g : Nat) : Prop where
  off : v.active = false → v = {}
  le : v.generation ≤ g

theorem TextInputCommand.act_upto {command : TextInputCommand} {v : TextInputView} {g : Nat} (h : v.Upto g)
    (hle : command.generation ≤ g) : (command.act v).Upto g := by
  unfold TextInputCommand.act
  split
  · refine ⟨fun hoff => ?_, hle⟩
    cases hoff
  split
  · exact h
  · exact ⟨fun _ => rfl, Nat.zero_le g⟩

/-- A command that is overwritten makes no difference: the later one is a show, or a hide of the
same generation or a later one. -/
theorem act_overwritten {first second : TextInputCommand} {v : TextInputView} (h : v.Upto second.generation)
    (hle : first.generation ≤ second.generation) : second.act (first.act v) = second.act v := by
  unfold TextInputCommand.act
  cases second.type with
  | «show» => rfl
  | hide =>
    have hclears : ∀ w : TextInputView, w.Upto second.generation →
        (if w.active = false ∨ second.generation < w.generation then w else {}) = {} := by
      intro w hw
      split
      · rename_i hor
        rcases hor with hoff | hlt
        · exact hw.off hoff
        · exact absurd hw.le (Nat.not_le_of_lt hlt)
      · rfl
    have hfirst : (first.act v).Upto _ := TextInputCommand.act_upto h hle
    unfold TextInputCommand.act at hfirst
    simp only
    rw [hclears _ hfirst, hclears v h]

/-- With a backend that succeeds, the second part of `Pump` is the command's action. -/
theorem execute_view (o : TextInputOwner) (hfocused : o.focused = true) (command : TextInputCommand) :
    (o.execute {} command).1.view = command.act o.view := by
  unfold TextInputOwner.execute TextInputCommand.act
  rw [if_neg (by simp [hfocused])]
  cases htype : command.type with
  | hide =>
    rw [if_pos (by decide)]
    by_cases hstale : o.active = false ∨ command.generation < o.activeGeneration
    · rw [if_pos (by simpa using hstale)]
      exact (if_pos hstale).symm
    · rw [if_neg (by simpa using hstale)]
      exact (if_neg hstale).symm
  | «show» =>
    rw [if_neg (by decide)]
    simp only
    by_cases hother : (o.active && o.activeGeneration != command.generation) = true
    · rw [if_pos hother]
      cases hb : o.backend <;> simp [TextInputOwner.stopAndClear, hb, TextInputOwner.view]
    · rw [if_neg hother]
      cases hactive : o.active with
      | false => simp [TextInputOwner.view]
      | true =>
        have hsame : o.activeGeneration = command.generation := by simpa [hactive] using hother
        simp [TextInputOwner.view, hsame]

/-! ## Every history -/

structure OwnerInv (o : TextInputOwner) (t : List TextInputEvent) : Prop where
  upto : o.view.Upto o.acceptedGeneration
  /-- An active owner is focused, and enabled or about to stop. -/
  focused : o.active = true → o.focused = true
  enabled : o.active = true → o.enabled = true ∨ o.main = .toggled false ∨ o.main = .closing
  enabling : o.main = .toggled true → o.active = false
  pending : ∀ command, o.pending = some command → command.generation = o.acceptedGeneration
  executing : ∀ command, o.main = .executing command →
    o.enabled = true ∧ o.backend = true ∧ command.generation ≤ o.acceptedGeneration
  alternating : o.backend = true → Alternating t o.active
  /-- Without a backend nothing is ever started. -/
  unbacked : o.backend = false → o.active = false ∧ switches t = []

variable {o : TextInputOwner} {t : List TextInputEvent} {a : BackendAnswers}

/-- The owner stops: what `quit` and `StopAndClear` leave. -/
theorem OwnerInv.stopped (h : OwnerInv o t) {o' : TextInputOwner} (hbackend : o'.backend = o.backend)
    (hview : o'.view = {}) (hpending : ∀ command, o'.pending = some command → command.generation = o'.acceptedGeneration)
    (hmain : o'.main = .idle) {es : List TextInputEvent}
    (hes : o.backend = true → (o.active :: switches es).IsChain (· ≠ ·) ∧ (o.active :: switches es).getLast? = some false)
    (hnone : o.backend = false → switches es = []) : OwnerInv o' (t ++ es) := by
  have hoff : o'.active = false := congrArg TextInputView.active hview
  refine ⟨by rw [hview]; exact ⟨fun _ => rfl, Nat.zero_le _⟩, ?_, ?_, fun _ => hoff, hpending, ?_, ?_, ?_⟩
  · intro hactive
    rw [hoff] at hactive
    cases hactive
  · intro hactive
    rw [hoff] at hactive
    cases hactive
  · intro command hexecuting
    rw [hmain] at hexecuting
    cases hexecuting
  · intro hb
    rw [hbackend] at hb
    rw [hoff]
    exact (h.alternating hb).append (hes hb).1 (hes hb).2
  · intro hb
    rw [hbackend] at hb
    refine ⟨hoff, ?_⟩
    rw [switches_append, (h.unbacked hb).2, hnone hb]
    rfl

/-- The common end of the methods that stop the owner, from a state that differs in the pending
command, the accepted generation and the main thread's place. -/
theorem quit_inv (h : OwnerInv o t) {o₁ : TextInputOwner} (hbackend : o₁.backend = o.backend) (hview : o₁.view = o.view)
    (hpending : o₁.pending = none) (hmain : o₁.main = .idle) : OwnerInv (o₁.quit a).1 (t ++ (o₁.quit a).2) := by
  have hactive : o₁.active = o.active := congrArg TextInputView.active hview
  unfold TextInputOwner.quit
  split
  · rename_i hon
    rw [hactive] at hon
    have hstopped : (o₁.stopAndClear a).1.backend = o.backend := hbackend
    refine h.stopped hstopped rfl (fun command hc => ?_) hmain (fun hb => ?_) fun hb => ?_
    · have hc : o₁.pending = some command := hc
      rw [hpending] at hc
      cases hc
    · have hes : (o₁.stopAndClear a).2.1 = [.stop, .clearArea, .flushTextEvents] := if_pos (hbackend.trans hb)
      simp only [hes, hon]
      exact ⟨by decide, rfl⟩
    · have hes : (o₁.stopAndClear a).2.1 = [] := if_neg (by simp [hbackend, hb])
      simp only [hes]
      rfl
  · rename_i hoff
    have hoff : o.active = false := by simpa [hactive] using hoff
    have hes : switches (if o₁.backend = true then [TextInputEvent.flushTextEvents] else []) = [] := by split <;> rfl
    refine h.stopped hbackend ?_ (fun command hc => ?_) hmain (fun _ => ?_) fun _ => hes
    · exact hview.trans (h.upto.off hoff)
    · rw [hpending] at hc
      cases hc
    · simp only [hes, hoff]
      exact ⟨List.isChain_singleton _, rfl⟩

/-- A step that shows nothing of the backend and leaves the view alone. -/
theorem OwnerInv.same (h : OwnerInv o t) {o' : TextInputOwner} {es : List TextInputEvent} (hbackend : o'.backend = o.backend)
    (hview : o'.view = o.view) (hes : switches es = []) (hupto : o'.view.Upto o'.acceptedGeneration)
    (hfocused : o'.active = true → o'.focused = true)
    (henabled : o'.active = true → o'.enabled = true ∨ o'.main = .toggled false ∨ o'.main = .closing)
    (henabling : o'.main = .toggled true → o'.active = false)
    (hpending : ∀ command, o'.pending = some command → command.generation = o'.acceptedGeneration)
    (hexecuting : ∀ command, o'.main = .executing command →
      o'.enabled = true ∧ o'.backend = true ∧ command.generation ≤ o'.acceptedGeneration) : OwnerInv o' (t ++ es) := by
  have hactive : o'.active = o.active := congrArg TextInputView.active hview
  refine ⟨hupto, hfocused, henabled, henabling, hpending, hexecuting, ?_, ?_⟩
  · intro hb
    rw [hbackend] at hb
    rw [hactive]
    exact (h.alternating hb).quiet hes
  · intro hb
    rw [hbackend] at hb
    rw [hactive, switches_append, hes, List.append_nil]
    exact h.unbacked hb

theorem queue_inv (h : OwnerInv o t) (command : TextInputCommand) (hle : o.acceptedGeneration ≤ command.generation) :
    OwnerInv (o.queue command).1 (t ++ (o.queue command).2.1) := by
  refine h.same rfl rfl rfl ⟨h.upto.off, le_trans h.upto.le hle⟩ h.focused h.enabled h.enabling ?_ ?_
  · intro queued hqueued
    obtain rfl : command = queued := Option.some_inj.mp hqueued
    rfl
  · intro taken htaken
    obtain ⟨henabled, hbackend, htle⟩ := h.executing taken htaken
    exact ⟨henabled, hbackend, le_trans htle hle⟩

theorem OwnerInv.quiet (h : OwnerInv o t) : OwnerInv o (t ++ []) := by
  rw [List.append_nil]
  exact h

theorem requestShowTextInput_inv (h : OwnerInv o t) (generation : Nat) (area : TextInputArea) (options : TextInputOptions) :
    OwnerInv (o.requestShowTextInput generation area options).1 (t ++ (o.requestShowTextInput generation area options).2.1) := by
  unfold TextInputOwner.requestShowTextInput
  split
  · exact h.quiet
  split
  · exact h.quiet
  · rename_i hle
    exact queue_inv h _ (Nat.le_of_not_lt hle)

theorem requestHideTextInput_inv (h : OwnerInv o t) (generation : Nat) :
    OwnerInv (o.requestHideTextInput generation).1 (t ++ (o.requestHideTextInput generation).2.1) := by
  unfold TextInputOwner.requestHideTextInput
  split
  · exact h.quiet
  split
  · exact h.quiet
  · rename_i heq
    have heq : generation = o.acceptedGeneration := by simpa using heq
    exact queue_inv h _ (le_of_eq heq.symm)

theorem setEnabled_inv (h : OwnerInv o t) (hidle : o.main = .idle) (enabled : Bool) :
    OwnerInv (o.setEnabled enabled) (t ++ []) := by
  have hon : o.active = true → o.enabled = true := by
    intro hactive
    rcases h.enabled hactive with hon | hmain | hmain
    · exact hon
    · rw [hidle] at hmain
      cases hmain
    · rw [hidle] at hmain
      cases hmain
  refine h.same rfl rfl rfl h.upto h.focused (fun hactive => ?_) (fun hmain => ?_) h.pending fun command hmain => ?_
  · have hwas := hon hactive
    cases enabled with
    | true => exact Or.inl rfl
    | false =>
      refine Or.inr (Or.inl ?_)
      show (if (false != o.enabled) = true then Main.toggled false else Main.idle) = _
      rw [hwas]
      rfl
  · cases henabled : o.enabled with
    | false =>
      show o.active = false
      by_contra hactive
      exact absurd ((hon (by simpa using hactive)).symm.trans henabled) (by decide)
    | true =>
      have hmain : (if (enabled != o.enabled) = true then Main.toggled enabled else Main.idle) = .toggled true := hmain
      rw [henabled] at hmain
      cases enabled <;> cases hmain
  · have hmain : (if (enabled != o.enabled) = true then Main.toggled enabled else Main.idle) = .executing command := hmain
    split at hmain <;> cases hmain

theorem shutdown_inv (h : OwnerInv o t) : OwnerInv o.shutdown (t ++ []) := by
  refine h.same rfl rfl rfl h.upto h.focused (fun _ => Or.inr (Or.inr rfl)) (fun hmain => ?_) h.pending fun command hmain => ?_
  · cases hmain
  · cases hmain

theorem pump_inv (h : OwnerInv o t) : OwnerInv o.pump (t ++ []) := by
  unfold TextInputOwner.pump
  split
  · exact h.quiet
  rename_i hready
  have hready : o.enabled = true ∧ o.backend = true := by simpa using hready
  cases hpending : o.pending with
  | none => exact h.quiet
  | some command =>
    refine h.same rfl rfl rfl h.upto h.focused (fun _ => Or.inl hready.1) (fun hmain => ?_) (fun queued hqueued => ?_)
      fun taken htaken => ?_
    · cases hmain
    · cases hqueued
    · obtain rfl : command = taken := Main.executing.inj htaken
      exact ⟨hready.1, hready.2, le_of_eq (h.pending command hpending)⟩

/-- What the second part of `Pump` can do: the owner after it, and the starts and stops. -/
inductive Executed (o : TextInputOwner) (command : TextInputCommand) : TextInputOwner → List Bool → Prop where
  | kept : Executed o command o []
  | stopped : o.active = true → Executed o command { o with active := false, activeGeneration := 0, activeArea := {} } [false]
  | moved : o.active = true → o.activeGeneration = command.generation →
      Executed o command { o with activeArea := command.area } []
  | started : o.active = false → o.focused = true →
      Executed o command { o with active := true, activeGeneration := command.generation, activeArea := command.area } [true]
  | restarted : o.active = true → o.focused = true →
      Executed o command { o with active := true, activeGeneration := command.generation, activeArea := command.area }
        [false, true]

theorem stopAndClear_events (o : TextInputOwner) (a : BackendAnswers) (hb : o.backend = true) :
    (o.stopAndClear a).2.1 = [.stop, .clearArea, .flushTextEvents] := if_pos hb

theorem execute_executed (o : TextInputOwner) (a : BackendAnswers) (command : TextInputCommand) (hb : o.backend = true) :
    Executed o command (o.execute a command).1 (switches (o.execute a command).2.1) := by
  unfold TextInputOwner.execute
  split
  · exact .kept
  rename_i hfocused
  have hfocused : o.focused = true := by simpa using hfocused
  split
  · split
    · exact .kept
    · rename_i hstops
      rw [stopAndClear_events o a hb]
      exact .stopped (by simp only [Bool.or_eq_true, not_or, Bool.not_eq_true', Bool.not_eq_false] at hstops; exact hstops.1)
  by_cases hother : (o.active && o.activeGeneration != command.generation) = true
  · -- The editor of another generation is stopped first.
    have hactive : o.active = true := by
      rw [Bool.and_eq_true] at hother
      exact hother.1
    simp only [if_pos hother, switches_append, stopAndClear_events o a hb, apply_ite Prod.fst, apply_ite Prod.snd,
      apply_ite switches]
    split
    · exact .stopped hactive
    split
    · rename_i hon
      cases hon
    split
    · exact .stopped hactive
    split
    · exact .stopped hactive
    · exact .restarted hactive hfocused
  · simp only [if_neg hother, List.nil_append]
    split
    · exact .kept
    split
    · rename_i hactive
      have hsame : o.activeGeneration = command.generation := by simpa [hactive] using hother
      exact .moved hactive hsame
    rename_i hactive
    have hactive : o.active = false := by simpa using hactive
    split
    · exact .kept
    split
    · exact .kept
    · exact .started hactive hfocused

theorem execute_rest (o : TextInputOwner) (a : BackendAnswers) (command : TextInputCommand) (hb : o.backend = true) :
    (o.execute a command).1 =
      { o with
        active := (o.execute a command).1.active
        activeGeneration := (o.execute a command).1.activeGeneration
        activeArea := (o.execute a command).1.activeArea } := by
  have hexecuted := execute_executed o a command hb
  generalize o.execute a command = r at hexecuted ⊢
  obtain ⟨o', es, result⟩ := r
  simp only at hexecuted ⊢
  generalize switches es = sw at hexecuted
  cases hexecuted <;> rfl

theorem execute_inv (h : OwnerInv o t) {command : TextInputCommand} (hmain : o.main = .executing command) :
    OwnerInv ({ o with main := .idle }.execute a command).1 (t ++ ({ o with main := .idle }.execute a command).2.1) := by
  obtain ⟨henabled, hb, hle⟩ := h.executing command hmain
  have hexecuted := execute_executed { o with main := .idle } a command hb
  generalize ({ o with main := .idle } : TextInputOwner).execute a command = r at hexecuted ⊢
  obtain ⟨o', es, result⟩ := r
  simp only at hexecuted ⊢
  have halternating := h.alternating hb
  have hturn : ∀ after : Bool, (o.active :: switches es).IsChain (· ≠ ·) → (o.active :: switches es).getLast? = some after →
      Alternating (t ++ es) after := fun after => halternating.append
  obtain ⟨sw, hsw⟩ : ∃ sw, sw = switches es := ⟨_, rfl⟩
  rw [← hsw] at hexecuted hturn
  have hidle : ∀ c, Main.idle = .executing c → o.enabled = true ∧ o.backend = true ∧ c.generation ≤ o.acceptedGeneration := by
    intro c hc
    cases hc
  have hbacked : ∀ active : Bool, o.backend = false → active = false ∧ switches (t ++ es) = [] := by
    intro active hno
    rw [hb] at hno
    cases hno
  cases hexecuted with
  | kept =>
    exact ⟨h.upto, h.focused, fun _ => Or.inl henabled, nofun, h.pending, hidle,
      fun _ => hturn _ (List.isChain_singleton _) rfl, hbacked _⟩
  | stopped hactive =>
    have hactive : o.active = true := hactive
    refine ⟨⟨fun _ => rfl, Nat.zero_le _⟩, nofun, nofun, fun _ => rfl, h.pending, hidle,
      fun _ => hturn _ ?_ ?_, hbacked _⟩
    · rw [hactive]; decide
    · rw [hactive]; rfl
  | moved hactive hsame =>
    have hactive : o.active = true := hactive
    refine ⟨⟨fun hoff => ?_, h.upto.le⟩, h.focused, fun _ => Or.inl henabled, nofun, h.pending, hidle,
      fun _ => hturn _ (List.isChain_singleton _) rfl, hbacked _⟩
    have hoff : o.active = false := hoff
    rw [hactive] at hoff
    cases hoff
  | started hactive hfocused =>
    have hactive : o.active = false := hactive
    refine ⟨⟨nofun, hle⟩, fun _ => hfocused, fun _ => Or.inl henabled, nofun, h.pending, hidle,
      fun _ => hturn _ ?_ ?_, hbacked _⟩
    · rw [hactive]; decide
    · rw [hactive]; rfl
  | restarted hactive hfocused =>
    have hactive : o.active = true := hactive
    refine ⟨⟨nofun, hle⟩, fun _ => hfocused, fun _ => Or.inl henabled, nofun, h.pending, hidle,
      fun _ => hturn _ ?_ ?_, hbacked _⟩
    · rw [hactive]; decide
    · rw [hactive]; rfl

theorem resume_inv (h : OwnerInv o t) (a : BackendAnswers) : OwnerInv (o.resume a).1 (t ++ (o.resume a).2) := by
  unfold TextInputOwner.resume
  split
  · exact h.quiet
  · rename_i hmain
    have hoff := h.enabling hmain
    refine h.same rfl rfl rfl ⟨h.upto.off, ?_⟩ h.focused (fun hactive => ?_) nofun nofun nofun
    · show o.activeGeneration ≤ 0
      exact le_of_eq (congrArg TextInputView.generation (h.upto.off hoff))
    · have hactive : o.active = true := hactive
      rw [hoff] at hactive
      cases hactive
  · exact quit_inv h rfl rfl rfl rfl
  · exact quit_inv h rfl rfl rfl rfl
  · rename_i command hmain
    exact execute_inv h hmain

theorem onFocusLost_inv (h : OwnerInv o t) (hidle : o.main = .idle) (a : BackendAnswers) :
    OwnerInv (o.onFocusLost a).1 (t ++ (o.onFocusLost a).2) :=
  quit_inv h rfl rfl rfl hidle

theorem onViewportChanged_inv (h : OwnerInv o t) : OwnerInv o (t ++ o.onViewportChanged) := by
  have hes : switches o.onViewportChanged = [] := by
    unfold TextInputOwner.onViewportChanged
    split <;> rfl
  exact h.same rfl rfl hes h.upto h.focused h.enabled h.enabling h.pending h.executing

theorem onFocusGained_inv (h : OwnerInv o t) : OwnerInv o.onFocusGained (t ++ []) :=
  h.same rfl rfl rfl h.upto (fun _ => rfl) h.enabled h.enabling h.pending h.executing

theorem step_owner (h : OwnerInv o t) (op : TextInputOp) : OwnerInv (stepTextInput o op).1 (t ++ (stepTextInput o op).2) := by
  -- A method of the main thread starts only where it is in none.
  have hstart : ∀ r : TextInputOwner × List TextInputEvent, (o.main = .idle → OwnerInv r.1 (t ++ r.2)) →
      OwnerInv (if (o.main == .idle) = true then r else (o, [])).1
        (t ++ (if (o.main == .idle) = true then r else (o, [])).2) := by
    intro r hr
    split
    · rename_i hidle
      exact hr (beq_iff_eq.mp hidle)
    · exact h.quiet
  cases op with
  | requestShow generation area options => exact requestShowTextInput_inv h generation area options
  | requestHide generation => exact requestHideTextInput_inv h generation
  | setEnabled enabled => exact hstart _ fun hidle => setEnabled_inv h hidle enabled
  | shutdown => exact hstart _ fun _ => shutdown_inv h
  | pump => exact hstart _ fun _ => pump_inv h
  | viewportChanged => exact hstart _ fun _ => onViewportChanged_inv h
  | focusGained => exact hstart _ fun _ => onFocusGained_inv h
  | focusLost a => exact hstart _ fun hidle => onFocusLost_inv h hidle a
  | resume a => exact resume_inv h a

/-- A constructed owner. -/
def newOwner (backend : Bool) : TextInputOwner := { backend := backend }

theorem newOwner_inv (backend : Bool) : OwnerInv (newOwner backend) [] :=
  ⟨⟨fun _ => rfl, le_rfl⟩, nofun, nofun, nofun, nofun, nofun, fun _ => alternating_nil, fun _ => ⟨rfl, rfl⟩⟩

theorem run_owner (backend : Bool) (ops : List TextInputOp) :
    OwnerInv (textInput.run (newOwner backend) ops).1 (textInput.run (newOwner backend) ops).2 :=
  textInput.run_induct (I := OwnerInv) (newOwner_inv backend) (fun _ _ op h => step_owner h op) ops

theorem quit_backend (o : TextInputOwner) (a : BackendAnswers) : (o.quit a).1.backend = o.backend := by
  unfold TextInputOwner.quit
  split <;> rfl

/-- The backend is the one the owner was built with. -/
theorem step_backend (h : OwnerInv o t) (op : TextInputOp) : (stepTextInput o op).1.backend = o.backend := by
  have hstart : ∀ r : TextInputOwner × List TextInputEvent, r.1.backend = o.backend →
      (if (o.main == .idle) = true then r else (o, [])).1.backend = o.backend := by
    intro r hr
    split
    · exact hr
    · rfl
  cases op with
  | requestShow generation area options =>
    show (o.requestShowTextInput generation area options).1.backend = _
    unfold TextInputOwner.requestShowTextInput
    split
    · rfl
    split <;> rfl
  | requestHide generation =>
    show (o.requestHideTextInput generation).1.backend = _
    unfold TextInputOwner.requestHideTextInput
    split
    · rfl
    split <;> rfl
  | setEnabled enabled | shutdown | viewportChanged | focusGained => exact hstart _ rfl
  | pump =>
    refine hstart _ ?_
    show o.pump.backend = _
    unfold TextInputOwner.pump
    split
    · rfl
    split <;> rfl
  | focusLost a => exact hstart _ (quit_backend _ a)
  | resume a =>
    show (o.resume a).1.backend = _
    unfold TextInputOwner.resume
    split
    · rfl
    · rfl
    · exact quit_backend _ a
    · exact quit_backend _ a
    · rename_i command hmain
      show ({ o with main := .idle }.execute a command).1.backend = _
      rw [execute_rest { o with main := .idle } a command (h.executing command hmain).2.1]

theorem run_backend (backend : Bool) (ops : List TextInputOp) : (textInput.run (newOwner backend) ops).1.backend = backend := by
  have hboth : (textInput.run (newOwner backend) ops).1.backend = backend ∧
      OwnerInv (textInput.run (newOwner backend) ops).1 (textInput.run (newOwner backend) ops).2 :=
    textInput.run_induct (I := fun o t => o.backend = backend ∧ OwnerInv o t) ⟨rfl, newOwner_inv backend⟩
      (fun _ _ op h => ⟨(step_backend h.2 op).trans h.1, step_owner h.2 op⟩) ops
  exact hboth.1

/-! ## While enabled and focused -/

/-- The owner stays enabled and focused, and the backend succeeds. -/
def TextInputOp.steady : TextInputOp → Bool
  | .requestShow _ _ _ => true
  | .requestHide _ => true
  | .setEnabled enabled => enabled
  | .shutdown => false
  | .pump => true
  | .viewportChanged => true
  | .focusGained => true
  | .focusLost _ => false
  | .resume a => a == {}

/-- Each command executed at once, as `Pump` executes it. -/
def eagerly (o : TextInputOwner) (commands : List TextInputCommand) : TextInputOwner :=
  commands.foldl (fun o command => (o.execute {} command).1) o

/-- The view once the taken command and the pending one are executed. -/
def TextInputOwner.settled (o : TextInputOwner) : TextInputView :=
  let base := match o.main with
    | .executing command => command.act o.view
    | _ => o.view
  match o.pending with
  | some command => command.act base
  | none => base

/-- The enabled owner `o₀` has come to `o`, and `t` is the trace since then. -/
structure Steady (o₀ o : TextInputOwner) (t : List TextInputEvent) : Prop where
  inv : ∃ before, OwnerInv o before
  enabled : o.enabled = true
  focused : o.focused = true
  backend : o.backend = true
  main : o.main = .idle ∨ ∃ command, o.main = .executing command
  settled : o.settled = (acceptedRequests t).foldl (fun v command => command.act v) o₀.settled
  accepted : ∀ command, (acceptedRequests t).getLast? = some command → command.generation = o.acceptedGeneration

theorem eagerly_view (commands : List TextInputCommand) (o : TextInputOwner) (hfocused : o.focused = true)
    (hb : o.backend = true) :
    (eagerly o commands).view = commands.foldl (fun v command => command.act v) o.view := by
  induction commands generalizing o with
  | nil => rfl
  | cons command commands ih =>
    have hrest := execute_rest o {} command hb
    show (eagerly (o.execute {} command).1 commands).view = _
    rw [ih _ (by rw [hrest]; exact hfocused) (by rw [hrest]; exact hb), execute_view o hfocused]
    rfl

variable {o₀ : TextInputOwner}

theorem base_upto (h : OwnerInv o t) : (match o.main with
    | .executing command => command.act o.view
    | _ => o.view).Upto o.acceptedGeneration := by
  split
  · rename_i command hmain
    exact TextInputCommand.act_upto h.upto (h.executing command hmain).2.2
  · exact h.upto

theorem queue_steady (h : Steady o₀ o t) (command : TextInputCommand) (hle : o.acceptedGeneration ≤ command.generation) :
    Steady o₀ (o.queue command).1 (t ++ (o.queue command).2.1) := by
  obtain ⟨before, hinv⟩ := h.inv
  have hsnoc : acceptedRequests (t ++ (o.queue command).2.1) = acceptedRequests t ++ [command] := List.filterMap_append
  refine ⟨⟨_, queue_inv hinv command hle⟩, h.enabled, h.focused, h.backend, h.main, ?_, ?_⟩
  · rw [hsnoc, List.foldl_append, ← h.settled]
    show command.act _ = command.act o.settled
    unfold TextInputOwner.settled
    have hbase := base_upto hinv
    cases hpending : o.pending with
    | none => rfl
    | some first =>
      have hfirst := hinv.pending first hpending
      refine (act_overwritten ⟨hbase.off, le_trans hbase.le hle⟩ ?_).symm
      rw [hfirst]
      exact hle
  · intro last hlast
    rw [hsnoc, List.getLast?_append] at hlast
    obtain rfl : command = last := by simpa using hlast
    rfl

theorem Steady.quiet (h : Steady o₀ o t) : Steady o₀ o (t ++ []) := by
  rw [List.append_nil]
  exact h

theorem requestShowTextInput_steady (h : Steady o₀ o t) (generation : Nat) (area : TextInputArea) (options : TextInputOptions) :
    Steady o₀ (o.requestShowTextInput generation area options).1
      (t ++ (o.requestShowTextInput generation area options).2.1) := by
  unfold TextInputOwner.requestShowTextInput
  split
  · exact h.quiet
  split
  · exact h.quiet
  · rename_i hle
    exact queue_steady h _ (Nat.le_of_not_lt hle)

theorem requestHideTextInput_steady (h : Steady o₀ o t) (generation : Nat) :
    Steady o₀ (o.requestHideTextInput generation).1 (t ++ (o.requestHideTextInput generation).2.1) := by
  unfold TextInputOwner.requestHideTextInput
  split
  · exact h.quiet
  split
  · exact h.quiet
  · rename_i heq
    have heq : generation = o.acceptedGeneration := by simpa using heq
    exact queue_steady h _ (le_of_eq heq.symm)

theorem pump_steady (h : Steady o₀ o t) (hidle : o.main = .idle) : Steady o₀ o.pump (t ++ []) := by
  obtain ⟨before, hinv⟩ := h.inv
  have hpump := pump_inv hinv
  unfold TextInputOwner.pump at hpump ⊢
  rw [if_neg (by simp [h.enabled, h.backend])] at hpump ⊢
  rw [List.append_nil] at hpump ⊢
  cases hpending : o.pending with
  | none => exact h
  | some command =>
    rw [hpending] at hpump
    refine ⟨⟨before, hpump⟩, h.enabled, h.focused, h.backend, Or.inr ⟨command, rfl⟩, ?_, h.accepted⟩
    rw [← h.settled]
    unfold TextInputOwner.settled
    rw [hidle, hpending]
    rfl

theorem acceptedRequests_append (t es : List TextInputEvent) :
    acceptedRequests (t ++ es) = acceptedRequests t ++ acceptedRequests es := List.filterMap_append

/-- No event of the second part of `Pump` is a request. -/
theorem acceptedRequests_execute (o : TextInputOwner) (a : BackendAnswers) (command : TextInputCommand) :
    acceptedRequests (o.execute a command).2.1 = [] := by
  have hstop : acceptedRequests (o.stopAndClear a).2.1 = [] := by
    show acceptedRequests (if o.backend = true then _ else _) = []
    split <;> rfl
  unfold TextInputOwner.execute
  split
  · rfl
  split
  · split
    · rfl
    · exact hstop
  by_cases hother : (o.active && o.activeGeneration != command.generation) = true
  · simp only [if_pos hother, apply_ite Prod.snd, apply_ite Prod.fst, apply_ite acceptedRequests, acceptedRequests_append, hstop]
    simp [acceptedRequests]
  · simp only [if_neg hother, apply_ite Prod.snd, apply_ite Prod.fst, apply_ite acceptedRequests, acceptedRequests_append]
    simp [acceptedRequests]

theorem resume_steady (h : Steady o₀ o t) : Steady o₀ (o.resume {}).1 (t ++ (o.resume {}).2) := by
  obtain ⟨before, hinv⟩ := h.inv
  have hresume := resume_inv hinv {}
  unfold TextInputOwner.resume at hresume ⊢
  rcases h.main with hidle | ⟨command, hmain⟩
  · simp only [hidle]
    exact h.quiet
  · simp only [hmain] at hresume ⊢
    have hquiet : acceptedRequests (t ++ ({ o with main := .idle }.execute {} command).2.1) = acceptedRequests t := by
      rw [acceptedRequests_append, acceptedRequests_execute, List.append_nil]
    have hrest := execute_rest { o with main := .idle } {} command h.backend
    have hview := execute_view { o with main := .idle } h.focused command
    generalize ({ o with main := .idle } : TextInputOwner).execute {} command = r at hresume hquiet hrest hview ⊢
    refine ⟨⟨_, hresume⟩, by rw [hrest]; exact h.enabled, by rw [hrest]; exact h.focused, by rw [hrest]; exact h.backend,
      Or.inl (by rw [hrest]), ?_, ?_⟩
    · rw [hquiet, ← h.settled]
      have hmain' : r.1.main = .idle := by rw [hrest]
      have hpending : r.1.pending = o.pending := by rw [hrest]
      unfold TextInputOwner.settled
      rw [hmain, hmain', hpending, hview]
      rfl
    · rw [hquiet, hrest]
      exact h.accepted

theorem step_steady (h : Steady o₀ o t) (op : TextInputOp) (hop : op.steady = true) :
    Steady o₀ (stepTextInput o op).1 (t ++ (stepTextInput o op).2) := by
  have hstart : ∀ r : TextInputOwner × List TextInputEvent, (o.main = .idle → Steady o₀ r.1 (t ++ r.2)) →
      Steady o₀ (if (o.main == .idle) = true then r else (o, [])).1
        (t ++ (if (o.main == .idle) = true then r else (o, [])).2) := by
    intro r hr
    split
    · rename_i hidle
      exact hr (beq_iff_eq.mp hidle)
    · exact h.quiet
  cases op with
  | requestShow generation area options => exact requestShowTextInput_steady h generation area options
  | requestHide generation => exact requestHideTextInput_steady h generation
  | setEnabled enabled =>
    obtain rfl : enabled = true := hop
    refine hstart _ fun hidle => ?_
    have hsame : o.setEnabled true = o := by
      unfold TextInputOwner.setEnabled
      rw [h.enabled, if_neg (by decide), ← h.enabled, ← hidle]
    rw [hsame]
    exact h.quiet
  | shutdown => cases hop
  | pump => exact hstart _ fun hidle => pump_steady h hidle
  | viewportChanged =>
    refine hstart _ fun _ => ?_
    have hnone : acceptedRequests o.onViewportChanged = [] := by
      unfold TextInputOwner.onViewportChanged
      split <;> rfl
    have hsame : acceptedRequests (t ++ o.onViewportChanged) = acceptedRequests t := by
      rw [acceptedRequests_append, hnone, List.append_nil]
    exact ⟨h.inv, h.enabled, h.focused, h.backend, h.main, by rw [hsame]; exact h.settled, by rw [hsame]; exact h.accepted⟩
  | focusGained =>
    refine hstart _ fun _ => ?_
    have hsame : o.onFocusGained = o := by
      unfold TextInputOwner.onFocusGained
      rw [← h.focused]
    rw [hsame]
    exact h.quiet
  | focusLost a => cases hop
  | resume a =>
    obtain rfl : a = {} := beq_iff_eq.mp hop
    exact resume_steady h

theorem run_steady (h : Steady o₀ o₀ []) (ops : List TextInputOp) (hops : ∀ op ∈ ops, op.steady = true) :
    Steady o₀ (textInput.run o₀ ops).1 (textInput.run o₀ ops).2 := by
  refine textInput.run_induct_guarded (C := fun _ _ op => op.steady = true) (I := Steady o₀) h
    (fun _ _ op hsteady hop => step_steady hsteady op hop) ops ?_
  intro pre op post hsplit
  exact hops op (by rw [hsplit]; simp)

/-- A pump that leaves nothing pending has the owner where the accepted requests, each executed at
once, would have it. -/
theorem Steady.pumped (h : Steady o₀ o t) (hstart : o₀.main = .idle) (hfocused : o₀.focused = true) (hb : o₀.backend = true)
    (hidle : o.main = .idle) (hpending : o.pending = none) :
    o.view = (eagerly o₀ (o₀.pending.toList ++ acceptedRequests t)).view := by
  have hsettled := h.settled
  unfold TextInputOwner.settled at hsettled
  rw [hidle, hpending, hstart] at hsettled
  rw [eagerly_view _ o₀ hfocused hb, List.foldl_append]
  refine hsettled.trans ?_
  cases o₀.pending <;> rfl

/-- Requests from other threads come at any time. `o₀` is the owner when it is enabled and focused
and the main thread is in no method, after any history. -/
theorem textInput_coalesces :
    (∀ before ops : List TextInputOp,
      let o₀ := (textInput.run (newOwner true) before).1
      let run := textInput.run o₀ ops
      o₀.main = .idle → o₀.enabled = true → o₀.focused = true → (∀ op ∈ ops, op.steady = true) →
        (run.1.main = .idle → run.1.pending = none →
          run.1.view = (eagerly o₀ (o₀.pending.toList ++ acceptedRequests run.2)).view) ∧
        Alternating (textInput.run (newOwner true) (before ++ ops)).2 run.1.active ∧
        run.1.activeGeneration ≤ run.1.acceptedGeneration ∧
        ∀ command, (acceptedRequests run.2).getLast? = some command → command.generation = run.1.acceptedGeneration) ∧
    ∀ (backend : Bool) (ops : List TextInputOp),
      let run := textInput.run (newOwner backend) ops
      run.1.main = .idle → run.1.focused = false ∨ run.1.enabled = false → run.1.active = false ∧ Alternating run.2 false := by
  constructor
  · intro before ops o₀ run hidle henabled hfocused hops
    have hbefore := run_owner true before
    have hwhole := run_owner true (before ++ ops)
    have hend : (textInput.run (newOwner true) (before ++ ops)).1 = run.1 := by rw [Machine.run_append]
    have hbackend : o₀.backend = true := run_backend true before
    have hstart : Steady o₀ o₀ [] := ⟨⟨_, hbefore⟩, henabled, hfocused, hbackend, Or.inl hidle, rfl, nofun⟩
    have hsteady := run_steady hstart ops hops
    rw [hend] at hwhole
    exact ⟨hsteady.pumped hidle hfocused hbackend, hwhole.alternating hsteady.backend, hwhole.upto.le, hsteady.accepted⟩
  · intro backend ops run hidle hquit
    have hinv := run_owner backend ops
    have hoff : run.1.active = false := by
      by_contra hactive
      have hactive : run.1.active = true := by simpa using hactive
      rcases hquit with hfocus | hdisabled
      · exact absurd ((hinv.focused hactive).symm.trans hfocus) (by decide)
      · rcases hinv.enabled hactive with hon | hmain | hmain
        · exact absurd (hon.symm.trans hdisabled) (by decide)
        · rw [hidle] at hmain
          cases hmain
        · rw [hidle] at hmain
          cases hmain
    refine ⟨hoff, ?_⟩
    cases hb : run.1.backend with
    | true =>
      have halternating := hinv.alternating hb
      rw [hoff] at halternating
      exact halternating
    | false =>
      have hnone := (hinv.unbacked hb).2
      exact ⟨by rw [hnone]; exact List.isChain_singleton _, by rw [hnone]; rfl⟩

/-- A chat editor of generation 3 is shown; then it is hidden, and another TextBox is shown and
hidden before the next pump. The last show comes between the two parts of a pump. -/
def demoRequests : List TextInputOp :=
  [.requestShow 3 ⟨10, 20, 300, 40, 25⟩ {}, .pump, .resume {}, .requestHide 3, .requestShow 4 {} {}, .requestHide 4, .pump,
    .requestShow 5 ⟨10, 20, 300, 40, 0⟩ {}, .resume {}, .pump, .resume {}]

theorem textInput_coalesces_demo :
    (textInput.run (textInput.run (newOwner true) [.setEnabled true, .resume {}]).1 demoRequests).1.view =
        (eagerly (textInput.run (newOwner true) [.setEnabled true, .resume {}]).1
          (acceptedRequests (textInput.run (textInput.run (newOwner true) [.setEnabled true, .resume {}]).1
            demoRequests).2)).view ∧
      (textInput.run (newOwner true) [.setEnabled true, .resume {}, .requestShow 3 {} {}, .pump, .resume {},
        .focusLost {}]).1.active =
        false :=
  ⟨(textInput_coalesces.1 [.setEnabled true, .resume {}] demoRequests (by decide) (by decide) (by decide) (by decide)).1
      (by decide) (by decide),
    (textInput_coalesces.2 true [.setEnabled true, .resume {}, .requestShow 3 {} {}, .pump, .resume {}, .focusLost {}] (by decide)
      (by decide)).1⟩

end Mocktail.Window
