/-
  Mocktail.Session.Presents — what makes `game_presented_` true.

  `accepted t` is the running capability call with the evidence the coordinator accepted
  since it began; `activated t` is the surface of the latest successful start, update or
  resume. Both are read off the trace. `Evidence` ties the parked evidence and the active
  surface to them, so each flip of the flag has a cause in the trace, and evidence parked
  during a call that fails has none.
-/

import Mocktail.Session.Surfaces

namespace Mocktail.Session

open Mocktail.Lib

def Obs.activates? : Obs → Option GameSurface
  | .ret _ k st => if st.ok then k.surface? else none
  | _ => none

def activated (t : List Obs) : Option GameSurface := (t.filterMap Obs.activates?).getLast?

theorem activated_snoc (t : List Obs) (a : Obs) : activated (t ++ [a]) = a.activates?.or (activated t) := by
  unfold activated
  cases h : a.activates? <;> simp [h]

def acceptStep (r : Option (Call × List GamePresentEvidence)) : Obs → Option (Call × List GamePresentEvidence)
  | .call _ k => some (k, [])
  | .ret .. => none
  | .result .. => none
  | .present e out => if out.changed then r.map fun x => (x.1, x.2 ++ [e]) else r

def accepted (t : List Obs) : Option (Call × List GamePresentEvidence) := t.foldl acceptStep none

theorem accepted_snoc (t : List Obs) (a : Obs) : accepted (t ++ [a]) = acceptStep (accepted t) a := by
  simp [accepted]

structure Evidence (cfg : Config) (s : Sys) (t : List Obs) : Prop where
  /-- A call with a candidate surface has accepted at most the parked evidence. -/
  parked : ∀ o f, s.running = some (o, f) → f.parks = true →
    accepted t = some (f.call, if s.c.pendingPresent then [s.c.pendingPresentEvidence] else [])
  call : ∀ o f, s.running = some (o, f) → (accepted t).map Prod.fst = some f.call
  quiet : s.running = none → accepted t = none
  shape : s.c.pendingPresent = true → Coordinator.isPresentShapeValidLocked cfg s.c.pendingPresentEvidence = true ∧
    s.c.pendingPresentEvidence.surfaceGeneration = s.c.pendingSurface.generation ∧ s.c.gamePresented = false
  active : s.c.initialStartCompleted = true → activated t = some s.c.activeSurface
  presented : s.c.gamePresented = true → s.c.firstPresentedFrame ≠ 0

variable (cfg : Config) {c : Coordinator} {o : Op}

/-- A first turn never touches the presented frame. -/
theorem begin_presented {t : Turn} (h : Begins cfg c o t) :
    (t.sys o).c.gamePresented = c.gamePresented ∧ (t.sys o).c.firstPresentedFrame = c.firstPresentedFrame ∧
      (t.sys o).c.initialStartCompleted = c.initialStartCompleted ∧ (t.sys o).c.activeSurface = c.activeSurface := by
  cases h <;> exact ⟨rfl, rfl, rfl, rfl⟩

variable {f : Frame}

/-- Nor does it park evidence: a call with a candidate surface begins with none. -/
theorem call_unparked {c c' : Coordinator} (hv : Inv ⟨c, none⟩) (h : Begins cfg c o (.call c' f)) :
    c'.pendingPresent = false := by
  have hv' : Inv ⟨c', some (o, f)⟩ := begin_inv cfg hv h
  cases hf : f.parks with
  | false => exact frame_unparked hv' hf
  | true =>
    generalize ht : Turn.call c' f = t at h
    cases h <;> cases ht <;> first | rfl | cases hf

variable {out : Coordinator × UpdateResult}

theorem done_unparked (hv : Inv ⟨c, none⟩)
    (h : Begins cfg c o (.done out)) : out.1.pendingPresent = false := by
  have hv' : Inv ⟨out.1, none⟩ := begin_inv cfg hv h
  cases hp : out.1.pendingPresent with
  | false => rfl
  | true =>
    have h1 := hv'.parked hp
    have h2 := hv'.quiet rfl
    revert h1 h2
    cases out.1.state <;> simp [GameSessionState.busy, GameSessionState.parks]

variable {u : List Obs}

theorem evidence_begin {t : Turn} {a : Obs} (h : Evidence cfg ⟨c, none⟩ u)
    (hb : Begins cfg c o t) (hp : (t.sys o).c.pendingPresent = false) (ha : a.activates? = none)
    (hk : ∀ o' f, (t.sys o).running = some (o', f) → accepted (u ++ [a]) = some (f.call, []))
    (hq : (t.sys o).running = none → accepted (u ++ [a]) = none) : Evidence cfg (t.sys o) (u ++ [a]) := by
  obtain ⟨hg, hf, hi, hs⟩ := begin_presented cfg hb
  refine ⟨fun o' f hr _ => ?_, fun o' f hr => ?_, hq, fun h' => ?_, fun h' => ?_, fun h' => ?_⟩
  · rw [hk o' f hr, hp]; rfl
  · rw [hk o' f hr]; rfl
  · rw [hp] at h'; cases h'
  · rw [activated_snoc, ha, hs]
    exact h.active (hi ▸ h')
  · rw [hf]; exact h.presented (hg ▸ h')

/-! ## Second turns -/

variable {st : Status}

/-- What a completed call does to the fields evidence is about. -/
theorem finish_presented
    (hv : Inv ⟨c, some (o, f)⟩) (h : Finishes c f st out) :
    (f.parks && st.ok) = false ∧ out.1.gamePresented = c.gamePresented ∧
        out.1.firstPresentedFrame = c.firstPresentedFrame ∧
        out.1.initialStartCompleted = c.initialStartCompleted ∧ out.1.activeSurface = c.activeSurface ∨
      (f.parks && st.ok) = true ∧ out.1.gamePresented = (c.gamePresented || c.pendingPresent) ∧
        out.1.firstPresentedFrame = (if c.pendingPresent && !c.gamePresented then c.pendingPresentEvidence.frameSerial
          else c.firstPresentedFrame) ∧
        out.1.initialStartCompleted = true ∧ out.1.activeSurface = c.pendingSurface := by
  have hfr : FrameInv c o f := hv.frame o f rfl
  have hph : Phase c := hv.phase
  cases h with
  | failed f st m hk hst => exact Or.inl ⟨by simp [hk], rfl, rfl, rfl, rfl⟩
  | dropped f st m hk hst => exact Or.inl ⟨by simp [hst], rfl, rfl, rfl, rfl⟩
  | created g st m hst | paused m st hst | left m st hst | stopped m st hst =>
    exact Or.inl ⟨rfl, rfl, rfl, rfl, rfl⟩
  | started p r s a m st hst =>
    rw [commit_eq]
    exact Or.inr ⟨by simp [Frame.parks, hst], rfl, rfl, rfl, rfl⟩
  | resumed s m st hst | updated s m st hst =>
    simp only [Phase, hfr.1] at hph
    rw [commit_eq]
    exact Or.inr ⟨by simp [Frame.parks, hst], rfl, rfl, hph.1.started, rfl⟩

theorem frame_surface (h : FrameInv c o f) :
    f.call.surface? = if f.parks then some c.pendingSurface else none := by
  cases f with
  | starting p r s a | updating s | resuming s => rw [← h.2.1]; rfl
  | _ => rfl

variable {e : GamePresentEvidence}

theorem shape_serial (h : Coordinator.isPresentShapeValidLocked cfg e = true) :
    e.frameSerial ≠ 0 := by
  simp only [Coordinator.isPresentShapeValidLocked, Bool.and_eq_true, bne_iff_ne] at h
  exact h.1.1.1.2

theorem evidence_ret
    (hv : Inv ⟨c, some (o, f)⟩) (h : Evidence cfg ⟨c, some (o, f)⟩ u) (hf : Finishes c f st out) :
    Evidence cfg ⟨out.1, none⟩ (u ++ [Obs.ret o f.call st] ++ [Obs.result o out.2]) := by
  have hs := frame_surface (hv.frame o f rfl)
  have hpp : out.1.pendingPresent = false := by
    cases hp : out.1.pendingPresent with
    | false => rfl
    | true =>
      have hv' : Inv ⟨out.1, none⟩ := finish_inv hv hf
      have h1 : out.1.state.parks = true := hv'.parked hp
      have h2 : out.1.state.busy = false := hv'.quiet rfl
      revert h1 h2
      cases out.1.state <;> simp [GameSessionState.busy, GameSessionState.parks]
  refine ⟨fun o f hr => (by cases hr), fun o f hr => (by cases hr), fun _ => ?_, fun h' => ?_, fun h' => ?_,
    fun h' => ?_⟩
  · rw [accepted_snoc]; rfl
  · rw [show out.1.pendingPresent = true from h'] at hpp; cases hpp
  · simp only [activated_snoc, Obs.activates?, Option.none_or, hs]
    rcases finish_presented hv hf with ⟨hk, -, -, hi, ha⟩ | ⟨hk, -, -, -, ha⟩
    · have hact := h.active (hi ▸ h')
      rw [ha]
      cases hst : st.ok <;> cases hpk : f.parks <;> simp_all
    · simp only [Bool.and_eq_true] at hk
      simp [hk.1, hk.2, ha]
  · rcases finish_presented hv hf with ⟨-, hg, hfr, -, -⟩ | ⟨-, hg, hfr, -, -⟩
    · rw [hfr]; exact h.presented (hg ▸ h')
    · rw [hfr]
      split
      · rename_i hc
        simp only [Bool.and_eq_true] at hc
        exact shape_serial cfg (h.shape hc.1).1
      · rename_i hc
        refine h.presented ?_
        have h' : (c.gamePresented || c.pendingPresent) = true := hg ▸ h'
        cases hgp : c.gamePresented <;> simp_all

/-! ## Presents -/

/-- An immediate observation needs a state that parks nothing: while a surface of the active generation is updated,
the evidence matches the candidate too. -/
theorem immediate_unparked (hp : Phase c) (h : immediate c e = true) :
    c.state.parks = false := by
  unfold immediate at h
  unfold Phase at hp
  cases hs : c.state <;> simp only [hs] at h hp <;> try rfl
  case updatingSurface =>
    obtain ⟨hpl, hca⟩ := hp
    simp [matchesPending, matchesActive, hca.available, hca.prepared, hpl.prepared] at h
    exact absurd h.1.2.2 h.1.1
  all_goals cases h

theorem frame_parks (h : FrameInv c o f) : c.state.parks = f.parks := by
  cases f <;> simp [FrameInv] at h <;> simp [h, GameSessionState.parks, Frame.parks]

theorem evidence_record {r : Option (Op × Frame)}
    (hv : Inv ⟨c, r⟩) (h : Evidence cfg ⟨c, r⟩ u)
    (hr : Records cfg c e out) : Evidence cfg ⟨out.1, r⟩ (u ++ [Obs.present e out.2]) := by
  have hact : activated (u ++ [Obs.present e out.2]) = activated u := by rw [activated_snoc]; rfl
  have hq : r = none → accepted (u ++ [Obs.present e out.2]) = none := by
    intro hr'
    rw [accepted_snoc, h.quiet hr']
    simp [acceptStep]
  have hc : ∀ o f, r = some (o, f) → (accepted (u ++ [Obs.present e out.2])).map Prod.fst = some f.call := by
    intro o f hr'
    have hold := h.call o f hr'
    rw [accepted_snoc]
    simp only [acceptStep]
    split
    · rw [Option.map_map]; exact hold
    · exact hold
  cases hr with
  | idle x hx =>
    have hacc : accepted (u ++ [Obs.present e x]) = accepted u := by
      rw [accepted_snoc]
      simp [acceptStep, UpdateResult.changed, hx]
    exact ⟨fun o f hr hf => hacc ▸ h.parked o f hr hf, hc, hq, h.shape, fun h' => hact ▸ h.active h', h.presented⟩
  | parks x hs hd hg hp hx =>
    obtain ⟨hpk, hav, hgen⟩ := deferred_parks hd
    refine ⟨fun o f hr hf => ?_, hc, hq, fun _ => ⟨hs, hgen, hg⟩, fun h' => hact ▸ h.active h', h.presented⟩
    have hacc := h.parked o f hr hf
    rw [accepted_snoc, hacc, show (Sys.c ⟨c, r⟩).pendingPresent = false from hp]
    simp [acceptStep, UpdateResult.changed, hx]
  | observes x hs hi hg hx =>
    refine ⟨fun o f hr hf => ?_, hc, hq, fun h' => ?_, fun h' => hact ▸ h.active h', fun _ => shape_serial cfg hs⟩
    · have := immediate_unparked hv.phase hi
      rw [frame_parks (hv.frame o f hr), hf] at this
      cases this
    · have h1 : c.state.parks = true := hv.parked h'
      have h2 : c.state.parks = false := immediate_unparked hv.phase hi
      rw [h1] at h2; cases h2

theorem run_evidence (es : List Ev) : Evidence cfg ((sys cfg).run fresh es).1 ((sys cfg).run fresh es).2 := by
  refine reach_rule cfg (I := Evidence cfg) ?_ ?_ ?_ ?_ ?_ es
  · exact ⟨fun o f hr => (by cases hr), fun o f hr => (by cases hr), fun _ => rfl, fun h => (by cases h),
      fun h => (by cases h), fun h => (by cases h)⟩
  · intro c o out t hv h hb
    exact evidence_begin cfg h hb (done_unparked cfg hv hb) rfl (fun o' f hr => by cases hr)
      (fun _ => by rw [accepted_snoc]; rfl)
  · intro c c' o f t hv h hb
    refine evidence_begin cfg h hb (call_unparked cfg hv hb) rfl (fun o' f' hr => ?_) (fun hr => by cases hr)
    obtain ⟨rfl, rfl⟩ : o = o' ∧ f = f' := by simpa [Turn.sys] using hr
    rw [accepted_snoc]; rfl
  · intro c o f st out t hv h hf
    exact evidence_ret cfg hv h hf
  · intro c r e out t hv h hr
    exact evidence_record cfg hv h hr

/-! ## The flag -/

/-- Why the step `e` from trace `t` to `t'` made the flag true. -/
structure CountedBy (t t' : List Obs) (e : Ev) (c' : Coordinator) (ev : GamePresentEvidence) : Prop where
  succeeded : ev.presentSucceeded = true
  serial : ev.frameSerial ≠ 0
  backend : ev.backend ≠ .unknown ∧
    (cfg.requiredPresentBackend ≠ .unknown → ev.backend = cfg.requiredPresentBackend)
  frame : c'.firstPresentedFrame = ev.frameSerial
  surface : ∃ s, activated t' = some s ∧ ev.surfaceGeneration = s.generation
  source : e = .present ev ∨ ∃ st k evs, e = .ret st ∧ st.ok = true ∧ accepted t = some (k, evs) ∧ ev ∈ evs ∧
    k.surface?.isSome = true

theorem shape_fields {ev : GamePresentEvidence} (h : Coordinator.isPresentShapeValidLocked cfg ev = true) :
    ev.presentSucceeded = true ∧ ev.backend ≠ .unknown ∧
      (cfg.requiredPresentBackend ≠ .unknown → ev.backend = cfg.requiredPresentBackend) := by
  simp only [Coordinator.isPresentShapeValidLocked, Bool.and_eq_true, bne_iff_ne, Bool.or_eq_true, beq_iff_eq] at h
  obtain ⟨⟨⟨⟨h1, -⟩, -⟩, h4⟩, h5⟩ := h
  exact ⟨h1, h4, fun hr => h5.resolve_left hr⟩

variable {s : Sys}

theorem flip_counted {t : List Obs} (hv : Inv s) (h : Evidence cfg s t) (e : Ev)
    (h0 : s.c.gamePresented = false) (h1 : (stepSys cfg s e).1.c.gamePresented = true) :
    (stepSys cfg s e).1.c.initialStartCompleted = true ∧
      ∃ ev, CountedBy cfg t (t ++ (stepSys cfg s e).2) e (stepSys cfg s e).1.c ev := by
  obtain ⟨c, r⟩ := s
  have h0 : c.gamePresented = false := h0
  cases e with
  | op o =>
    cases r with
    | some r => rw [show c.gamePresented = true from h1] at h0; cases h0
    | none =>
      rw [step_op, (begin_presented cfg (begin_begins cfg c o)).1, h0] at h1
      cases h1
  | ret st =>
    cases r with
    | none => rw [show c.gamePresented = true from h1] at h0; cases h0
    | some r =>
      obtain ⟨o, f⟩ := r
      have h1 : (finish c f st).1.gamePresented = true := h1
      rcases finish_presented hv (finish_finishes c f st) with ⟨-, hg, -, -, -⟩ | ⟨hk, hg, hfr, hi, ha⟩
      · rw [← hg, h1] at h0; cases h0
      have hpp : c.pendingPresent = true := by rw [hg, h0] at h1; simpa using h1
      obtain ⟨hsh, hgen, -⟩ := h.shape hpp
      obtain ⟨hs1, hs2, hs3⟩ := shape_fields cfg hsh
      simp only [Bool.and_eq_true] at hk
      have hsf := frame_surface (hv.frame o f rfl)
      rw [if_pos hk.1] at hsf
      refine ⟨hi, c.pendingPresentEvidence, hs1, shape_serial cfg hsh, ⟨hs2, hs3⟩, ?_, ⟨c.pendingSurface, ?_, hgen⟩,
        Or.inr ⟨st, f.call, [c.pendingPresentEvidence], rfl, hk.2, ?_, by simp, by rw [hsf]; rfl⟩⟩
      · show (finish c f st).1.firstPresentedFrame = _
        rw [hfr, h0, hpp]; rfl
      · show activated (t ++ ([_] ++ [_])) = _
        rw [← List.append_assoc, activated_snoc, activated_snoc]
        simp [Obs.activates?, hk.2, hsf]
      · have := h.parked o f rfl hk.1
        rwa [show (Sys.c ⟨c, some (o, f)⟩).pendingPresent = true from hpp, if_pos rfl] at this
  | present ev =>
    have hr := record_records cfg c ev
    have h1 : (recordGamePresent cfg c ev).1.gamePresented = true := h1
    show (recordGamePresent cfg c ev).1.initialStartCompleted = true ∧
      ∃ ev', CountedBy cfg t (t ++ [_]) _ (recordGamePresent cfg c ev).1 ev'
    generalize recordGamePresent cfg c ev = out at hr h1
    cases hr with
    | idle x hx => rw [h0] at h1; cases h1
    | parks x hs hd hg hp hx => rw [show c.gamePresented = true from h1] at h0; cases h0
    | observes x hs hi hg hx =>
      obtain ⟨hs1, hs2, hs3⟩ := shape_fields cfg hs
      obtain ⟨hst, -, hgen⟩ := immediate_started hi hv.phase
      refine ⟨hst, ev, hs1, shape_serial cfg hs, ⟨hs2, hs3⟩, rfl, ⟨c.activeSurface, ?_, hgen⟩, Or.inl rfl⟩
      rw [activated_snoc]
      exact h.active hst

theorem presented_kept (hv : Inv s) (e : Ev) (h : s.c.gamePresented = true) :
    (stepSys cfg s e).1.c.gamePresented = true ∧
      (stepSys cfg s e).1.c.firstPresentedFrame = s.c.firstPresentedFrame := by
  obtain ⟨c, r⟩ := s
  have h : c.gamePresented = true := h
  cases e with
  | op o =>
    cases r with
    | some r => exact ⟨h, rfl⟩
    | none =>
      obtain ⟨hg, hf, -, -⟩ := begin_presented cfg (begin_begins cfg c o)
      rw [step_op]
      exact ⟨hg.trans h, hf⟩
  | ret st =>
    cases r with
    | none => exact ⟨h, rfl⟩
    | some r =>
      obtain ⟨o, f⟩ := r
      show (finish c f st).1.gamePresented = true ∧ (finish c f st).1.firstPresentedFrame = c.firstPresentedFrame
      rcases finish_presented hv (finish_finishes c f st) with ⟨-, hg, hf, -, -⟩ | ⟨-, hg, hf, -, -⟩
      · exact ⟨hg.trans h, hf⟩
      · exact ⟨by rw [hg, h]; rfl, by rw [hf, h]; simp⟩
  | present ev =>
    have hr := record_records cfg c ev
    show (recordGamePresent cfg c ev).1.gamePresented = true ∧
      (recordGamePresent cfg c ev).1.firstPresentedFrame = c.firstPresentedFrame
    generalize recordGamePresent cfg c ev = out at hr
    cases hr with
    | idle x hx => exact ⟨h, rfl⟩
    | parks x hs hd hg hp hx => exact ⟨h, rfl⟩
    | observes x hs hi hg hx => rw [h] at hg; cases hg

/-- A session that ended unpresented. -/
structure Dead (s : Sys) : Prop where
  inv : Inv s
  terminal : s.c.isForwardTerminalLocked = true
  unpresented : s.c.gamePresented = false

theorem terminal_unobserved (h : c.isForwardTerminalLocked = true) :
    deferred c e = false ∧ immediate c e = false := by
  unfold deferred immediate
  cases hs : c.state <;> simp_all [Coordinator.isForwardTerminalLocked]

/-- In a terminal state only the shutdown is still running. -/
theorem terminal_frame (hv : Inv ⟨c, some (o, f)⟩)
    (ht : c.isForwardTerminalLocked = true) : f = .stopping := by
  by_contra hf
  have := frame_live (hv.frame o f rfl) hf
  rw [show c.isForwardTerminalLocked = true from ht] at this
  cases this

theorem terminal_step (hv : Inv s) (ht : s.c.isForwardTerminalLocked = true) (e : Ev) :
    (stepSys cfg s e).1.c.isForwardTerminalLocked = true := by
  obtain ⟨c, r⟩ := s
  cases e with
  | op o =>
    cases r with
    | some r => exact ht
    | none =>
      have hb := begin_begins cfg c o
      rw [step_op]
      cases hbe : begin cfg c o with
      | done out => rw [hbe] at hb; exact (done_keeps cfg hb).terminal ht
      | call c' f => rw [hbe] at hb; exact (call_keeps cfg hv hb).1.terminal ht
  | ret st =>
    cases r with
    | none => exact ht
    | some r =>
      obtain ⟨o, f⟩ := r
      obtain rfl := terminal_frame hv ht
      show (finish c .stopping st).1.isForwardTerminalLocked = true
      unfold finish
      cases st.ok <;> rfl
  | present ev => exact (record_keeps cfg (record_records cfg c ev)).terminal ht

theorem dead_step (h : Dead s) (e : Ev) : Dead (stepSys cfg s e).1 := by
  refine ⟨step_inv cfg h.inv e, terminal_step cfg h.inv h.terminal e, ?_⟩
  obtain ⟨c, r⟩ := s
  have ht : c.isForwardTerminalLocked = true := h.terminal
  have h0 : c.gamePresented = false := h.unpresented
  cases e with
  | op o =>
    cases r with
    | some r => exact h0
    | none => rw [step_op, (begin_presented cfg (begin_begins cfg c o)).1, h0]
  | ret st =>
    cases r with
    | none => exact h0
    | some r =>
      obtain ⟨o, f⟩ := r
      obtain rfl := terminal_frame h.inv ht
      rcases finish_presented h.inv (finish_finishes c .stopping st) with ⟨-, hg, -⟩ | ⟨hk, -⟩
      · exact hg.trans h0
      · cases hk
  | present ev =>
    obtain ⟨hd, hi⟩ := terminal_unobserved (e := ev) ht
    have hr := record_records cfg c ev
    show (recordGamePresent cfg c ev).1.gamePresented = false
    generalize recordGamePresent cfg c ev = out at hr
    cases hr with
    | idle x hx => exact h0
    | parks x hs hd' hg hp hx => rw [hd] at hd'; cases hd'
    | observes x hs hi' hg hx => rw [hi] at hi'; cases hi'

theorem run_dead (h : Dead s) (es : List Ev) : Dead ((sys cfg).run s es).1 :=
  (sys cfg).run_induct (I := fun s _ => Dead s) h (fun _ _ e h => dead_step cfg h e) es

/-- Evidence accepted during a call with a candidate surface is parked; the call's failure discards it for good. -/
theorem failed_dead {t : List Obs} (hv : Inv s) (h : Evidence cfg s t) {k : Call}
    {evs : List GamePresentEvidence} {ev : GamePresentEvidence} (ha : accepted t = some (k, evs)) (hev : ev ∈ evs)
    (hk : k.surface?.isSome = true) (hst : st.ok = false) : Dead (stepSys cfg s (.ret st)).1 := by
  obtain ⟨c, r⟩ := s
  cases r with
  | none => rw [h.quiet rfl] at ha; cases ha
  | some r =>
    obtain ⟨o, f⟩ := r
    have hkf : k = f.call := by
      have := h.call o f rfl
      rw [ha] at this
      exact Option.some.inj this
    have hpk : f.parks = true := by
      rw [hkf, frame_surface (hv.frame o f rfl)] at hk
      cases hp : f.parks with
      | false => rw [hp] at hk; cases hk
      | true => rfl
    have hpp : c.pendingPresent = true := by
      have := h.parked o f rfl hpk
      cases hp : c.pendingPresent with
      | true => rfl
      | false =>
        rw [ha, show (Sys.c ⟨c, some (o, f)⟩).pendingPresent = false from hp] at this
        cases this
        cases hev
    refine ⟨step_inv cfg hv _, ?_, ?_⟩
    · show (finish c f st).1.isForwardTerminalLocked = true
      unfold finish
      cases f <;> simp [hst, Coordinator.isForwardTerminalLocked]
    · rcases finish_presented hv (finish_finishes c f st) with ⟨-, hg, -⟩ | ⟨hk', -⟩
      · exact hg.trans (h.shape hpp).2.2
      · simp [hst] at hk'

theorem run_presented (hv : Inv s) (h : s.c.gamePresented = true) (es : List Ev) :
    ((sys cfg).run s es).1.c.gamePresented = true ∧
      ((sys cfg).run s es).1.c.firstPresentedFrame = s.c.firstPresentedFrame := by
  have := (sys cfg).run_induct (I := fun u _ => Inv u ∧ u.c.gamePresented = true ∧
    u.c.firstPresentedFrame = s.c.firstPresentedFrame) ⟨hv, h, rfl⟩ (fun u _ e hu => ?_) es
  · exact this.2
  · obtain ⟨h1, h2⟩ := presented_kept cfg hu.1 e hu.2.1
    exact ⟨step_inv cfg hu.1 e, h1, h2.trans hu.2.2⟩

theorem present_evidence (es : List Ev) :
    (∀ e, ((sys cfg).run fresh es).1.c.gamePresented = false →
      ((sys cfg).run fresh (es ++ [e])).1.c.gamePresented = true →
      Occurs (Obs.succeeded .startGame) ((sys cfg).run fresh (es ++ [e])).2 ∧
        ∃ ev, CountedBy cfg ((sys cfg).run fresh es).2 ((sys cfg).run fresh (es ++ [e])).2 e
          ((sys cfg).run fresh (es ++ [e])).1.c ev) ∧
    (∀ k evs ev st, accepted ((sys cfg).run fresh es).2 = some (k, evs) → ev ∈ evs → k.surface?.isSome = true →
      st.ok = false → ∀ fs, ((sys cfg).run fresh (es ++ Ev.ret st :: fs)).1.c.gamePresented = false) ∧
    (((sys cfg).run fresh es).1.c.gamePresented = true → ((sys cfg).run fresh es).1.c.firstPresentedFrame ≠ 0 ∧
      ∀ fs, ((sys cfg).run fresh (es ++ fs)).1.c.gamePresented = true ∧
        ((sys cfg).run fresh (es ++ fs)).1.c.firstPresentedFrame = ((sys cfg).run fresh es).1.c.firstPresentedFrame) := by
  have hv := reach_inv cfg es
  have he := run_evidence cfg es
  refine ⟨fun e h0 h1 => ?_, fun k evs ev st ha hev hk hst fs => ?_, fun h => ⟨he.presented h, fun fs => ?_⟩⟩
  · have hl := (run_protocol cfg (es ++ [e])).2.started
    rw [Machine.run_snoc] at h1 hl ⊢
    obtain ⟨hi, ev, hc⟩ := flip_counted cfg hv he e h0 h1
    exact ⟨hl.mp hi, ev, hc⟩
  · have hd := run_dead cfg (failed_dead cfg hv he ha hev hk hst) fs
    rw [show es ++ Ev.ret st :: fs = (es ++ [Ev.ret st]) ++ fs by simp, Machine.run_append, Machine.run_snoc]
    exact hd.unpresented
  · rw [Machine.run_append]
    exact run_presented cfg hv h fs

end Mocktail.Session
