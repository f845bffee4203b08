/-
  Mocktail.Window.SurfaceLifecycle — `WindowSurfaceLifecycle`
  (src/window/window_surface_lifecycle.cc).

  The component turns observed facts of the host window into surface lifetimes and queues
  one event per fact; consecutive Changed events of one generation are merged in the queue.
  Every method holds `mutex_` for its whole length, so a run is a sequence of calls.

  `Stage` is what the component is for: a surface is shown, announced but not yet changed,
  or gone, and `Stage.next` says which event may follow. `run_follows`: the events polled so
  far and those still queued always lead from the activation to the current snapshot.
  `surface_word` reads that as the words over (type, generation) and as the fold of the
  events over the activation snapshot.
-/

import Mathlib.Data.List.Basic
import Mocktail.Base.Status
import Mocktail.Lib.Trace

namespace Mocktail.Window

open Mocktail.Lib

inductive WindowSurfaceEventType where
  | created
  | changed
  | destroyed
  deriving DecidableEq, Repr

structure WindowSurfaceSnapshot where
  generation : Nat := 0
  nativeWindow : Nat := 0
  width : Nat := 0
  height : Nat := 0
  available : Bool := false
  dpiScale : F32 := F32.one
  deriving DecidableEq, Repr

structure WindowSurfaceEvent where
  type : WindowSurfaceEventType := .changed
  surface : WindowSurfaceSnapshot := {}
  deriving DecidableEq, Repr

def kMinimumWindowWidth : Nat := 160

def kMinimumWindowHeight : Nat := 120

/-- `std::numeric_limits<uint64_t>::max()`. -/
def maxGeneration : Nat := 2 ^ 64 - 1

structure Lifecycle where
  active : Bool := false
  current : WindowSurfaceSnapshot := {}
  events : List WindowSurfaceEvent := []
  deriving DecidableEq, Repr

def validAvailableSurface (nativeWindow width height : Nat) (dpiScale : F32) : Bool :=
  nativeWindow != 0 && decide (kMinimumWindowWidth ≤ width) && decide (kMinimumWindowHeight ≤ height) && dpiScale.gtZero

/-! ## The methods -/

namespace Lifecycle

variable (l : Lifecycle)

/-- A Changed event of the generation at the end of the queue replaces that event. -/
def queueLocked (type : WindowSurfaceEventType) (surface : WindowSurfaceSnapshot) : Lifecycle :=
  match l.events.getLast? with
  | some back =>
    if type == .changed && back.type == .changed && back.surface.generation == surface.generation then
      { l with events := l.events.dropLast ++ [{ back with surface := surface }] }
    else { l with events := l.events ++ [⟨type, surface⟩] }
  | none => { l with events := l.events ++ [⟨type, surface⟩] }

def activate (nativeWindow width height : Nat) (dpiScale : F32) : Lifecycle × Status :=
  if l.active then (l, Status.failedPrecondition "window surface lifecycle is already active")
  else if !validAvailableSurface nativeWindow width height dpiScale then
    (l, Status.invalidArgument "initial window surface requires a native handle, dimensions and DPI scale")
  else ({ l with events := [], current := ⟨1, nativeWindow, width, height, true, dpiScale⟩, active := true }, Status.okStatus)

def deactivate : Lifecycle := { l with active := false, events := [], current := {} }

def restoreLocked (nativeWindow width height : Nat) (dpiScale : F32) : Lifecycle × Status :=
  if l.current.generation == maxGeneration then (l, Status.failedPrecondition "window surface generation overflowed")
  else
    let current : WindowSurfaceSnapshot := ⟨l.current.generation + 1, nativeWindow, width, height, true, dpiScale⟩
    (({ l with current := current }.queueLocked .created current).queueLocked .changed current, Status.okStatus)

/-- The handle is lost: the surface's destruction is queued and the snapshot becomes unavailable. -/
def loseLocked : Lifecycle :=
  let l' := l.queueLocked .destroyed { l.current with available := false }
  { l' with current := { l'.current with nativeWindow := 0, available := false } }

def observe (nativeWindow width height : Nat) (dpiScale : F32) : Lifecycle × Status :=
  if !l.active then (l, Status.failedPrecondition "window surface lifecycle is not active")
  else if nativeWindow == 0 then
    if l.current.available then (l.loseLocked, Status.okStatus) else (l, Status.okStatus)
  else if !dpiScale.gtZero then
    (l, Status.invalidArgument "observed window surface requires a DPI scale")
  -- Compositors can report extents below the minimum: the last usable extent is retained.
  else if decide (width < kMinimumWindowWidth) || decide (height < kMinimumWindowHeight) then
    if l.current.available && nativeWindow != l.current.nativeWindow then (l.loseLocked, Status.okStatus)
    else (l, Status.okStatus)
  else if !l.current.available then l.restoreLocked nativeWindow width height dpiScale
  else if nativeWindow != l.current.nativeWindow then
    l.loseLocked.restoreLocked nativeWindow width height dpiScale
  else if width == l.current.width && height == l.current.height && dpiScale.feq l.current.dpiScale then
    (l, Status.okStatus)
  else
    let current := { l.current with width := width, height := height, dpiScale := dpiScale }
    ({ l with current := current }.queueLocked .changed current, Status.okStatus)

/-- The snapshot is one `Refresh` and `Recreate` accept. -/
def usable : Bool :=
  l.current.available &&
    validAvailableSurface l.current.nativeWindow l.current.width l.current.height l.current.dpiScale

def refresh : Lifecycle × Status :=
  if !l.active then (l, Status.failedPrecondition "window surface lifecycle is not active")
  else if !l.usable then (l, Status.failedPrecondition "window surface is unavailable for refresh")
  else (l.queueLocked .changed l.current, Status.okStatus)

def recreate : Lifecycle × Status :=
  if !l.active then (l, Status.failedPrecondition "window surface lifecycle is not active")
  else if !l.usable then (l, Status.failedPrecondition "window surface is unavailable for recreation")
  else if l.current.generation == maxGeneration then
    (l, Status.failedPrecondition "window surface generation overflowed")
  else
    let l' := l.queueLocked .destroyed { l.current with available := false }
    let current := { l.current with generation := l.current.generation + 1 }
    (({ l' with current := current }.queueLocked .created current).queueLocked .changed current, Status.okStatus)

def poll : Lifecycle × Option WindowSurfaceEvent :=
  match l.events with
  | [] => (l, none)
  | e :: rest => ({ l with events := rest }, some e)

def snapshot : WindowSurfaceSnapshot := l.current

end Lifecycle

inductive LifecycleEv where
  | observe (nativeWindow width height : Nat) (dpiScale : F32)
  | refresh
  | recreate
  | poll
  deriving DecidableEq, Repr

/-- The lifecycle as a machine; its output are the polled events. -/
def lifecycle : Machine Lifecycle LifecycleEv WindowSurfaceEvent where
  step l
    | .observe nw w h d => ((l.observe nw w h d).1, [])
    | .refresh => (l.refresh.1, [])
    | .recreate => (l.recreate.1, [])
    | .poll => (l.poll.1, l.poll.2.toList)

/-! ## Lifetimes of a surface -/

inductive Stage where
  /-- Available. -/
  | shown (s : WindowSurfaceSnapshot)
  /-- Created, its Changed event still to come. -/
  | made (s : WindowSurfaceSnapshot)
  | gone (generation : Nat)
  deriving DecidableEq, Repr

variable {y z : Stage}

namespace Stage

/-- The event an available surface may carry. -/
def carries (s : WindowSurfaceSnapshot) (g : Nat) : Bool :=
  s.generation == g && s.available && validAvailableSurface s.nativeWindow s.width s.height s.dpiScale

def next : Stage → WindowSurfaceEvent → Option Stage
  | .shown s, ⟨.changed, s'⟩ => if carries s' s.generation then some (.shown s') else none
  | .shown s, ⟨.destroyed, s'⟩ => if s'.generation == s.generation then some (.gone s.generation) else none
  | .made s, ⟨.changed, s'⟩ => if carries s' s.generation then some (.shown s') else none
  | .gone g, ⟨.created, s'⟩ => if carries s' (g + 1) then some (.made s') else none
  | _, _ => none

def feed (x : Stage) (es : List WindowSurfaceEvent) : Option Stage := es.foldlM next x

theorem feed_snoc (x : Stage) (es : List WindowSurfaceEvent) (e : WindowSurfaceEvent) :
    x.feed (es ++ [e]) = (x.feed es).bind fun y => y.next e := by
  simp [feed, List.foldlM_append]

/-- A merged Changed event leads where the two events led. -/
theorem next_merge {w : Stage} {a b : WindowSurfaceSnapshot} (h1 : w.next ⟨.changed, a⟩ = some y)
    (h2 : y.next ⟨.changed, b⟩ = some z) : w.next ⟨.changed, b⟩ = some z := by
  cases w with
  | gone g => cases h1
  | shown s | made s =>
    simp only [next] at h1
    split at h1
    · rename_i hc
      cases h1
      simp only [carries, Bool.and_eq_true, beq_iff_eq] at hc
      simpa [next, hc.1.1] using h2
    · cases h1

/-- The stage a snapshot describes. -/
def of (s : WindowSurfaceSnapshot) : Stage := if s.available then .shown s else .gone s.generation

end Stage

/-! ## The queue follows the lifetimes -/

theorem queue_feed {l : Lifecycle} {x : Stage} {polled : List WindowSurfaceEvent} {type : WindowSurfaceEventType}
    {surface : WindowSurfaceSnapshot} (h : x.feed (polled ++ l.events) = some y)
    (hn : y.next ⟨type, surface⟩ = some z) : x.feed (polled ++ (l.queueLocked type surface).events) = some z := by
  have hpush : x.feed (polled ++ (l.events ++ [⟨type, surface⟩])) = some z := by
    rw [← List.append_assoc, Stage.feed_snoc, h]
    exact hn
  unfold Lifecycle.queueLocked
  cases hl : l.events.getLast? with
  | none => exact hpush
  | some back =>
    simp only
    split
    · rename_i hc
      simp only [Bool.and_eq_true, beq_iff_eq] at hc
      obtain ⟨⟨rfl, hb⟩, hg⟩ := hc
      -- the queue ends in `back`, a Changed event of this generation
      obtain ⟨t, s⟩ := back
      obtain rfl : t = .changed := hb
      have hev : l.events = l.events.dropLast ++ [⟨.changed, s⟩] := (List.dropLast_append_getLast? _ hl).symm
      rw [hev, ← List.append_assoc, Stage.feed_snoc] at h
      show x.feed (polled ++ (l.events.dropLast ++ [⟨.changed, surface⟩])) = some z
      rw [← List.append_assoc, Stage.feed_snoc]
      cases hw : x.feed (polled ++ l.events.dropLast) with
      | none => rw [hw] at h; cases h
      | some w =>
        rw [hw] at h
        exact Stage.next_merge h hn
    · exact hpush

theorem queue_current (l : Lifecycle) (type : WindowSurfaceEventType) (s : WindowSurfaceSnapshot) :
    (l.queueLocked type s).current = l.current ∧ (l.queueLocked type s).active = l.active := by
  unfold Lifecycle.queueLocked
  cases l.events.getLast? with
  | none => exact ⟨rfl, rfl⟩
  | some back =>
    simp only
    split <;> exact ⟨rfl, rfl⟩

/-- History and snapshot agree, and an available snapshot is usable. -/
structure Follows (x : Stage) (l : Lifecycle) (polled : List WindowSurfaceEvent) : Prop where
  feed : x.feed (polled ++ l.events) = some (Stage.of l.current)
  usable : l.current.available = true →
    validAvailableSurface l.current.nativeWindow l.current.width l.current.height l.current.dpiScale = true

variable {x : Stage} {l : Lifecycle} {polled : List WindowSurfaceEvent}

theorem lose_follows (h : Follows x l polled) (ha : l.current.available = true) : Follows x l.loseLocked polled := by
  have hs : Stage.of l.current = .shown l.current := if_pos ha
  have hd : (Stage.shown l.current).next ⟨.destroyed, { l.current with available := false }⟩ =
      some (.gone l.current.generation) := by simp [Stage.next]
  refine ⟨?_, fun h' => by cases h'⟩
  have := queue_feed (hs ▸ h.feed) hd
  simpa [Lifecycle.loseLocked, Stage.of, (queue_current _ _ _).1] using this

variable {s : WindowSurfaceSnapshot}

/-- Creating and changing `s` after generation `g` is gone. -/
theorem create_feed {g : Nat} (h : x.feed (polled ++ l.events) = some (.gone g))
    (hs : Stage.carries s (g + 1) = true) :
    x.feed (polled ++ ((l.queueLocked .created s).queueLocked .changed s).events) = some (.shown s) := by
  have hc : s.generation = g + 1 := by
    simp only [Stage.carries, Bool.and_eq_true, beq_iff_eq] at hs
    exact hs.1.1
  have h1 : (Stage.gone g).next ⟨.created, s⟩ = some (.made s) := by simp [Stage.next, hs]
  have h2 : (Stage.made s).next ⟨.changed, s⟩ = some (.shown s) := by simp [Stage.next, hc, hs]
  exact queue_feed (queue_feed h h1) h2

variable {nw w ht : Nat} {d : F32}

theorem restore_follows (h : Follows x l polled) (ha : l.current.available = false)
    (hv : validAvailableSurface nw w ht d = true) : Follows x (l.restoreLocked nw w ht d).1 polled := by
  have hs : Stage.of l.current = .gone l.current.generation := if_neg (by simp [ha])
  unfold Lifecycle.restoreLocked
  split
  · exact h
  · let current : WindowSurfaceSnapshot := ⟨l.current.generation + 1, nw, w, ht, true, d⟩
    have hc : Stage.carries current (l.current.generation + 1) = true := by simp [Stage.carries, current, hv]
    have hf : x.feed (polled ++ Lifecycle.events { l with current := current }) = some (.gone l.current.generation) :=
      hs ▸ h.feed
    have hcur : ((Lifecycle.queueLocked { l with current := current } .created current).queueLocked .changed
        current).current = current := by rw [(queue_current _ _ _).1, (queue_current _ _ _).1]
    refine ⟨?_, fun _ => ?_⟩
    · show x.feed _ = some (Stage.of (Lifecycle.current _))
      rw [hcur]
      exact create_feed hf hc
    · show validAvailableSurface (Lifecycle.current _).nativeWindow (Lifecycle.current _).width
        (Lifecycle.current _).height (Lifecycle.current _).dpiScale = true
      rw [hcur]
      exact hv

theorem change_follows (h : Follows x l polled) (ha : l.current.available = true)
    (hs : Stage.carries s l.current.generation = true) :
    Follows x (Lifecycle.queueLocked { l with current := s } .changed s) polled := by
  have hsh : Stage.of l.current = .shown l.current := if_pos ha
  have hn : (Stage.shown l.current).next ⟨.changed, s⟩ = some (.shown s) := by simp [Stage.next, hs]
  have hf : x.feed (polled ++ Lifecycle.events { l with current := s }) = some (.shown l.current) := hsh ▸ h.feed
  have hq := queue_feed hf hn
  simp only [Stage.carries, Bool.and_eq_true] at hs
  refine ⟨?_, fun _ => ?_⟩
  · rw [(queue_current _ _ _).1]
    exact hq.trans (by simp [Stage.of, hs.1.2])
  · rw [(queue_current _ _ _).1]
    exact hs.2

theorem observe_follows (h : Follows x l polled) (nw w ht : Nat) (d : F32) :
    Follows x (l.observe nw w ht d).1 polled := by
  unfold Lifecycle.observe
  split
  · exact h
  split
  · split
    · rename_i ha; exact lose_follows h ha
    · exact h
  rename_i hnw
  split
  · exact h
  rename_i hd
  split
  · split
    · rename_i hc
      exact lose_follows h ((Bool.and_eq_true _ _).mp hc).1
    · exact h
  rename_i hsz
  have hv : validAvailableSurface nw w ht d = true := by
    simp only [Bool.or_eq_true, decide_eq_true_eq, not_or, Nat.not_lt] at hsz
    simp only [beq_iff_eq] at hnw
    simp only [Bool.not_eq_true', Bool.not_eq_false] at hd
    simp [validAvailableSurface, hnw, hd, hsz.1, hsz.2]
  split
  · rename_i ha; exact restore_follows h (by simpa using ha) hv
  rename_i ha
  have ha : l.current.available = true := by simpa using ha
  split
  · refine restore_follows (lose_follows h ha) ?_ hv
    rfl
  rename_i hnc
  split
  · exact h
  · have hc : Stage.carries { l.current with width := w, height := ht, dpiScale := d } l.current.generation = true := by
      have hnc : nw = l.current.nativeWindow := by simpa using hnc
      subst hnc
      simp only [Stage.carries, ha, hv]
      simp
    exact change_follows h ha hc

theorem refresh_follows (h : Follows x l polled) : Follows x l.refresh.1 polled := by
  unfold Lifecycle.refresh
  split
  · exact h
  split
  · exact h
  · rename_i hu
    have hu : l.usable = true := by simpa using hu
    simp only [Lifecycle.usable, Bool.and_eq_true] at hu
    exact change_follows h hu.1 (by simp [Stage.carries, hu.1, hu.2])

theorem recreate_follows (h : Follows x l polled) : Follows x l.recreate.1 polled := by
  unfold Lifecycle.recreate
  split
  · exact h
  split
  · exact h
  rename_i hu
  split
  · exact h
  have hu : l.usable = true := by simpa using hu
  simp only [Lifecycle.usable, Bool.and_eq_true] at hu
  have hs : Stage.of l.current = .shown l.current := if_pos hu.1
  have hd : (Stage.shown l.current).next ⟨.destroyed, { l.current with available := false }⟩ =
      some (.gone l.current.generation) := by simp [Stage.next]
  have hgone : x.feed (polled ++ Lifecycle.events
      { l.queueLocked .destroyed { l.current with available := false } with
        current := { l.current with generation := l.current.generation + 1 } }) =
      some (.gone l.current.generation) := queue_feed (hs ▸ h.feed) hd
  have hc : Stage.carries { l.current with generation := l.current.generation + 1 } (l.current.generation + 1) = true := by
    simp [Stage.carries, hu.1, hu.2]
  refine ⟨?_, fun _ => ?_⟩
  · rw [(queue_current _ _ _).1, (queue_current _ _ _).1]
    refine (create_feed hgone hc).trans ?_
    simp [Stage.of, hu.1]
  · rw [(queue_current _ _ _).1, (queue_current _ _ _).1]
    exact hu.2

theorem poll_follows (h : Follows x l polled) : Follows x l.poll.1 (polled ++ l.poll.2.toList) := by
  unfold Lifecycle.poll
  cases he : l.events with
  | nil => simpa using h
  | cons e rest =>
    refine ⟨?_, h.usable⟩
    have := h.feed
    rw [he] at this
    simpa using this

theorem step_follows (h : Follows x l polled) (e : LifecycleEv) :
    Follows x (lifecycle.step l e).1 (polled ++ (lifecycle.step l e).2) := by
  cases e with
  | observe nw w ht d => simpa [lifecycle] using observe_follows h nw w ht d
  | refresh => simpa [lifecycle] using refresh_follows h
  | recreate => simpa [lifecycle] using recreate_follows h
  | poll => exact poll_follows h

/-- A successful activation leaves an empty queue and an available snapshot of generation 1. -/
theorem activate_ok (h : (l.activate nw w ht d).2.ok = true) :
    validAvailableSurface nw w ht d = true ∧
      (l.activate nw w ht d).1 = ⟨true, ⟨1, nw, w, ht, true, d⟩, []⟩ := by
  unfold Lifecycle.activate at h ⊢
  split at h
  · cases h
  split at h
  · cases h
  · rename_i h1 h2
    exact ⟨by simpa using h2, by simp [h1, h2]⟩

theorem activate_follows (h : (l.activate nw w ht d).2.ok = true) :
    Follows (.shown (l.activate nw w ht d).1.current) (l.activate nw w ht d).1 [] := by
  obtain ⟨hv, he⟩ := activate_ok h
  rw [he]
  exact ⟨rfl, fun _ => hv⟩

theorem run_follows (h : Follows x l []) (es : List LifecycleEv) :
    Follows x (lifecycle.run l es).1 (lifecycle.run l es).2 :=
  lifecycle.run_induct (I := Follows x) h (fun _ _ e h => step_follows h e) es

/-! ## The words of a history -/

def WindowSurfaceEvent.label (e : WindowSurfaceEvent) : WindowSurfaceEventType × Nat := (e.type, e.surface.generation)

/-- Complete lifetimes from generation `g` on, the `i`-th with `ks[i] + 1` changes. -/
def lives (g : Nat) : List Nat → List (WindowSurfaceEventType × Nat)
  | [] => []
  | k :: ks => (.created, g) :: List.replicate (k + 1) (.changed, g) ++ (.destroyed, g) :: lives (g + 1) ks

/-- Changed*(1) Destroyed(1), then complete lifetimes from generation 2 on. -/
def word (k : Nat) (ks : List Nat) : List (WindowSurfaceEventType × Nat) :=
  List.replicate k (WindowSurfaceEventType.changed, 1) ++ (WindowSurfaceEventType.destroyed, 1) :: lives 2 ks

theorem lives_snoc (g : Nat) (ks : List Nat) (k : Nat) : lives g (ks ++ [k]) = lives g ks ++
    (WindowSurfaceEventType.created, g + ks.length) :: List.replicate (k + 1) (.changed, g + ks.length) ++
    [(WindowSurfaceEventType.destroyed, g + ks.length)] := by
  induction ks generalizing g with
  | nil => simp [lives]
  | cons j ks ih =>
    have hg : g + 1 + ks.length = g + (ks.length + 1) := by omega
    simp [lives, ih, hg]

theorem word_snoc (k : Nat) (ks : List Nat) (j : Nat) : word k (ks ++ [j]) = word k ks ++
    (WindowSurfaceEventType.created, ks.length + 2) :: List.replicate (j + 1) (.changed, ks.length + 2) ++
    [(WindowSurfaceEventType.destroyed, ks.length + 2)] := by
  have hg : 2 + ks.length = ks.length + 2 := by omega
  simp [word, lives_snoc, hg]

/-- The labels of a history that starts with generation 1 shown. -/
def Spells (ls : List (WindowSurfaceEventType × Nat)) : Stage → Prop
  | .shown s => s.generation = 1 ∧ (∃ k, ls = List.replicate k (.changed, 1)) ∨
      ∃ k ks j, s.generation = ks.length + 2 ∧
        ls = word k ks ++ (.created, ks.length + 2) :: List.replicate (j + 1) (.changed, ks.length + 2)
  | .made s => ∃ k ks, s.generation = ks.length + 2 ∧ ls = word k ks ++ [(.created, ks.length + 2)]
  | .gone g => ∃ k ks, g = ks.length + 1 ∧ ls = word k ks

variable {ls : List (WindowSurfaceEventType × Nat)}

theorem spells_extends (h : Spells ls y) :
    ∃ k ks, ls <+: word k ks := by
  cases y with
  | shown s =>
    rcases h with ⟨-, k, rfl⟩ | ⟨k, ks, j, -, rfl⟩
    · exact ⟨k, [], (.destroyed, 1) :: lives 2 [], rfl⟩
    · refine ⟨k, ks ++ [j], [(.destroyed, ks.length + 2)], ?_⟩
      rw [word_snoc]
  | made s =>
    obtain ⟨k, ks, -, rfl⟩ := h
    refine ⟨k, ks ++ [0], [(.changed, ks.length + 2), (.destroyed, ks.length + 2)], ?_⟩
    rw [word_snoc]; simp
  | gone g =>
    obtain ⟨k, ks, -, rfl⟩ := h
    exact ⟨k, ks, List.prefix_rfl⟩

theorem next_spells {e : WindowSurfaceEvent}
    (h : Spells ls y) (hn : y.next e = some z) : Spells (ls ++ [e.label]) z := by
  obtain ⟨t, s'⟩ := e
  cases y with
  | shown s =>
    cases t with
    | created => cases hn
    | changed =>
      simp only [Stage.next] at hn
      split at hn
      · rename_i hc
        cases hn
        simp only [Stage.carries, Bool.and_eq_true, beq_iff_eq] at hc
        have hg := hc.1.1
        rcases h with ⟨h1, k, rfl⟩ | ⟨k, ks, j, h1, rfl⟩
        · refine Or.inl ⟨hg.trans h1, k + 1, ?_⟩
          simp [WindowSurfaceEvent.label, hg, h1, List.replicate_succ']
        · refine Or.inr ⟨k, ks, j + 1, hg.trans h1, ?_⟩
          simp [WindowSurfaceEvent.label, hg, h1, List.replicate_succ']
      · cases hn
    | destroyed =>
      simp only [Stage.next] at hn
      split at hn
      · rename_i hc
        cases hn
        have hg : s'.generation = s.generation := by simpa using hc
        rcases h with ⟨h1, k, rfl⟩ | ⟨k, ks, j, h1, rfl⟩
        · exact ⟨k, [], h1, by simp [WindowSurfaceEvent.label, hg, h1, word, lives]⟩
        · exact ⟨k, ks ++ [j], by simpa using h1, by rw [word_snoc]; simp [WindowSurfaceEvent.label, hg, h1]⟩
      · cases hn
  | made s =>
    cases t with
    | changed =>
      simp only [Stage.next] at hn
      split at hn
      · rename_i hc
        cases hn
        simp only [Stage.carries, Bool.and_eq_true, beq_iff_eq] at hc
        obtain ⟨k, ks, h1, rfl⟩ := h
        refine Or.inr ⟨k, ks, 0, hc.1.1.trans h1, ?_⟩
        simp [WindowSurfaceEvent.label, hc.1.1, h1]
      · cases hn
    | created => cases hn
    | destroyed => cases hn
  | gone g =>
    cases t with
    | created =>
      simp only [Stage.next] at hn
      split at hn
      · rename_i hc
        cases hn
        simp only [Stage.carries, Bool.and_eq_true, beq_iff_eq] at hc
        obtain ⟨k, ks, h1, rfl⟩ := h
        subst h1
        exact ⟨k, ks, hc.1.1, by simp [WindowSurfaceEvent.label, hc.1.1]⟩
      · cases hn
    | changed => cases hn
    | destroyed => cases hn

/-- What a consumer that applies the events holds. -/
def WindowSurfaceSnapshot.apply (s : WindowSurfaceSnapshot) (e : WindowSurfaceEvent) : WindowSurfaceSnapshot :=
  match e.type with
  | .destroyed => { s with available := false }
  | _ => e.surface

/-- The fold's result, by the stage reached. -/
def Holds (s : WindowSurfaceSnapshot) : Stage → Prop
  | .shown s' => s = s'
  | .made s' => s = s'
  | .gone g => s.generation = g ∧ s.available = false

theorem next_holds {e : WindowSurfaceEvent} (h : Holds s y)
    (hn : y.next e = some z) : Holds (s.apply e) z := by
  obtain ⟨t, s'⟩ := e
  cases y <;> cases t <;> simp only [Stage.next] at hn <;> try cases hn
  all_goals
    split at hn
    · cases hn
      first | rfl | exact ⟨(congrArg WindowSurfaceSnapshot.generation (show s = _ from h) : s.generation = _), rfl⟩
    · cases hn

theorem feed_spells (hs : s.generation = 1) (es : List WindowSurfaceEvent)
    (h : (Stage.shown s).feed es = some y) :
    Spells (es.map WindowSurfaceEvent.label) y ∧ Holds (es.foldl WindowSurfaceSnapshot.apply s) y := by
  induction es using List.reverseRecOn generalizing y with
  | nil =>
    cases h
    exact ⟨Or.inl ⟨hs, 0, rfl⟩, rfl⟩
  | append_singleton es e ih =>
    rw [Stage.feed_snoc] at h
    cases hf : (Stage.shown s).feed es with
    | none => rw [hf] at h; cases h
    | some w =>
      rw [hf] at h
      obtain ⟨h1, h2⟩ := ih hf
      refine ⟨?_, ?_⟩
      · simpa using next_spells h1 h
      · simpa using next_holds h2 h

/-- Equal as far as a consumer can tell. -/
structure Agree (a b : WindowSurfaceSnapshot) : Prop where
  generation : a.generation = b.generation
  available : a.available = b.available
  surface : a.available = true →
    a.nativeWindow = b.nativeWindow ∧ a.width = b.width ∧ a.height = b.height ∧ a.dpiScale = b.dpiScale

theorem holds_agree {s current : WindowSurfaceSnapshot} (h : Holds s (Stage.of current)) : Agree s current := by
  unfold Stage.of at h
  split at h
  · obtain rfl : s = current := h
    exact ⟨rfl, rfl, fun _ => ⟨rfl, rfl, rfl, rfl⟩⟩
  · rename_i ha
    obtain ⟨hg, hs⟩ := h
    exact ⟨hg, by rw [hs]; simpa using ha, fun h' => by rw [hs] at h'; cases h'⟩

theorem surface_word {nw w ht : Nat} {d : F32} (h : (l.activate nw w ht d).2.ok = true) (es : List LifecycleEv) :
    let l₁ := (l.activate nw w ht d).1
    let history := (lifecycle.run l₁ es).2 ++ (lifecycle.run l₁ es).1.events
    (∃ k ks, history.map WindowSurfaceEvent.label <+: word k ks) ∧
      Agree (history.foldl WindowSurfaceSnapshot.apply l₁.snapshot) (lifecycle.run l₁ es).1.snapshot := by
  intro l₁ history
  have hf := (run_follows (activate_follows h) es).feed
  have hg : l₁.current.generation = 1 := by
    show (l.activate nw w ht d).1.current.generation = 1
    rw [(activate_ok h).2]
  obtain ⟨h1, h2⟩ := feed_spells hg history hf
  exact ⟨spells_extends h1, holds_agree h2⟩

/-- A resize, a poll and a recreation after an activation. -/
theorem surface_word_demo : ∃ k ks,
    ((lifecycle.run (({} : Lifecycle).activate 1 640 480 F32.one).1 [.observe 1 800 600 F32.one, .poll, .recreate]).2 ++
      (lifecycle.run (({} : Lifecycle).activate 1 640 480 F32.one).1 [.observe 1 800 600 F32.one, .poll, .recreate]).1.events).map
      WindowSurfaceEvent.label <+: word k ks :=
  (surface_word (by decide) _).1

end Mocktail.Window
