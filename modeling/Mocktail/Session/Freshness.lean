/-
  Mocktail.Session.Freshness — reuse of a destroyed surface generation.

  The coordinator refuses a reused generation on one branch only: a paused game compares
  it with the active and with the last destroyed one. `Coordinator.forgets` is the whole guard
  ladder of `SurfaceCreated`, read as one predicate of the state and the generation. A run keeps
  the freshness law exactly as far as no destroyed generation is offered where it is forgotten.
-/

import Mocktail.Session.Invariant

namespace Mocktail.Session

open Mocktail.Lib

def Obs.destroyed (g : Nat) : Obs → Bool
  | .result (.surfaceDestroyed g') r => g' == g && r.changed
  | _ => false

def Obs.created (g : Nat) : Obs → Bool
  | .result (.surfaceCreated g') r => g' == g && r.changed
  | _ => false

/-- No generation is created again once it was destroyed. -/
def FreshLifetimes (t : List Obs) : Prop :=
  ∀ g, Always (fun pre a => a.created g = true → ¬ Occurs (Obs.destroyed g) pre) t

/-- What `SurfaceCreated` compares a generation with does not cover `g`: before the initial start nothing is
compared, a paused game compares the active, the last destroyed and the prepared generation. -/
def Coordinator.forgets (c : Coordinator) (g : Nat) : Bool :=
  !c.isForwardTerminalLocked &&
    if c.initialStartCompleted then
      c.state == .paused && g != c.activeSurface.generation && g != c.lastDestroyedSurfaceGeneration &&
        !(c.surfaceCreated && g == c.preparedSurfaceGeneration)
    else !c.surfaceCreated

attribute [local simp] Coordinator.forgets

theorem surfaceCreated_cases (c : Coordinator) (g : Nat) :
    c.forgets g = true ∧ surfaceCreated c g = .call (c.enter .preparingSurface) (.creating g) ∨
      (c.forgets g = true → c.principalReady = true → g = 0) ∧
        ∃ out, surfaceCreated c g = .done out ∧ out.2.changed = false := by
  unfold surfaceCreated
  by_cases h0 : (c.surfaceCreated && g != 0 && g == c.preparedSurfaceGeneration) = true
  · rw [if_pos h0]
    simp only [Bool.and_eq_true, bne_iff_ne, beq_iff_eq] at h0
    exact Or.inr ⟨by simp [h0.1.1, h0.2], _, rfl, rfl⟩
  rw [if_neg h0]
  by_cases h1 : c.isForwardTerminalLocked = true
  · rw [if_pos h1]
    exact Or.inr ⟨by simp [h1], _, rfl, rfl⟩
  rw [if_neg h1]
  by_cases h2 : (!c.principalReady) = true
  · rw [if_pos h2]
    exact Or.inr ⟨fun _ hp => by simp [hp] at h2, _, rfl, rfl⟩
  rw [if_neg h2]
  by_cases h3 : (g == 0) = true
  · rw [if_pos h3]
    exact Or.inr ⟨fun _ _ => by simpa using h3, _, rfl, rfl⟩
  rw [if_neg h3]
  have hg : (g != 0) = true := by simpa using h3
  have ht : c.isForwardTerminalLocked = false := by simpa using h1
  cases hi : c.initialStartCompleted with
  | true =>
    by_cases h4 : (c.state != .paused) = true
    · rw [if_pos (by simpa using h4)]
      have h4 : (c.state == .paused) = false := by simpa using h4
      exact Or.inr ⟨by simp [hi, h4], _, rfl, rfl⟩
    rw [if_neg (by simpa using h4)]
    by_cases h5 : (g == c.activeSurface.generation || g == c.lastDestroyedSurfaceGeneration) = true
    · rw [if_pos (by simpa using h5)]
      refine Or.inr ⟨?_, _, rfl, rfl⟩
      rcases (Bool.or_eq_true _ _).mp h5 with e | e
      · simp [hi, bne, e]
      · simp [hi, bne, e]
    rw [if_neg (by simpa using h5), if_neg (by simp)]
    refine Or.inl ⟨?_, rfl⟩
    have h4 : (c.state == .paused) = true := by simpa using h4
    rw [Bool.or_eq_true, not_or, Bool.not_eq_true, Bool.not_eq_true] at h5
    rw [hg, Bool.and_true, Bool.not_eq_true] at h0
    simp [hi, ht, h4, bne, h5.1, h5.2, h0]
  | false =>
    rw [if_neg (by simp), if_neg (by simp)]
    by_cases h6 : c.surfaceCreated = true
    · rw [if_pos (by simpa using h6)]
      exact Or.inr ⟨by simp [hi, h6], _, rfl, rfl⟩
    rw [if_neg (by simpa using h6)]
    refine Or.inl ⟨?_, rfl⟩
    simp [hi, ht, h6]

/-- No destroyed generation is offered to a coordinator that forgot it. -/
def NoReuse (s : Sys) (t : List Obs) : Ev → Prop
  | .op (.surfaceCreated g) => s.running = none → Occurs (Obs.destroyed g) t → s.c.forgets g = false
  | _ => True

instance (s : Sys) (t : List Obs) (e : Ev) : Decidable (NoReuse s t e) := by
  unfold NoReuse; split <;> infer_instance

/-- A running `SurfaceCreated` prepares a generation that was not destroyed before. -/
def Unspent (s : Sys) (t : List Obs) : Prop :=
  ∀ g f, s.running = some (.surfaceCreated g, f) → ¬ Occurs (Obs.destroyed g) t

variable {t : List Obs}

theorem fresh_snoc {a : Obs} (h : FreshLifetimes t)
    (ha : ∀ g, a.created g = true → ¬ Occurs (Obs.destroyed g) t) : FreshLifetimes (t ++ [a]) :=
  fun g => always_snoc.mpr ⟨h g, ha g⟩

variable (cfg : Config) {g : Nat} {o : Op}

theorem created_op {out : UpdateResult} (h : (Obs.result o out).created g = true) :
    o = .surfaceCreated g ∧ out.changed = true := by
  cases o <;> simp_all [Obs.created]

variable {s : Sys}

theorem fresh_step {e : Ev} (h : FreshLifetimes t ∧ Unspent s t) (hc : NoReuse s t e) :
    FreshLifetimes (t ++ (stepSys cfg s e).2) ∧ Unspent (stepSys cfg s e).1 (t ++ (stepSys cfg s e).2) := by
  obtain ⟨c, r⟩ := s
  obtain ⟨hf, hu⟩ := h
  cases e with
  | op o =>
    cases r with
    | some r => simpa [stepSys] using ⟨hf, hu⟩
    | none =>
      simp only [stepSys]
      split
      · rename_i out e
        refine ⟨fresh_snoc hf fun g hg => ?_, fun g f hr => by cases hr⟩
        obtain ⟨rfl, hch⟩ := created_op hg
        rcases surfaceCreated_cases c g with ⟨-, hca⟩ | ⟨-, out', hd, hn⟩
        · rw [begin, hca] at e; cases e
        · rw [begin, hd] at e; cases e
          rw [hn] at hch; cases hch
      · rename_i c' f e
        refine ⟨fresh_snoc hf fun g hg => by simp [Obs.created] at hg, fun g f' hr => ?_⟩
        obtain ⟨rfl, rfl⟩ : o = .surfaceCreated g ∧ f = f' := by simpa using hr
        rcases surfaceCreated_cases c g with ⟨had, -⟩ | ⟨-, out', hd, -⟩
        · intro ho
          have ho : Occurs (Obs.destroyed g) t := by simpa [Obs.destroyed] using ho
          rw [hc rfl ho] at had
          cases had
        · rw [begin, hd] at e; cases e
  | ret st =>
    cases r with
    | none => simpa [stepSys] using ⟨hf, hu⟩
    | some r =>
      obtain ⟨o, f⟩ := r
      refine ⟨?_, fun g f hr => by cases hr⟩
      show FreshLifetimes (t ++ ([_] ++ [_]))
      rw [← List.append_assoc]
      refine fresh_snoc (fresh_snoc hf fun g hg => by simp [Obs.created] at hg) fun g hg => ?_
      obtain ⟨rfl, -⟩ := created_op hg
      simpa [Obs.destroyed] using hu g f rfl
  | present e =>
    refine ⟨fresh_snoc hf fun g hg => by simp [Obs.created] at hg, fun g f hr => ?_⟩
    simpa [stepSys, Obs.destroyed] using hu g f hr

/-! ## The principal of a destroyed surface -/

/-- Only a session with a principal destroys surfaces. -/
structure Spent (s : Sys) (t : List Obs) : Prop where
  past : ∀ g, Occurs (Obs.destroyed g) t → s.c.principalReady = true ∧ g ≠ 0
  now : ∀ g f, s.running = some (.surfaceDestroyed g, f) → s.c.principalReady = true ∧ g ≠ 0

variable {c : Coordinator}

theorem begin_principal {t : Turn} (h : Begins cfg c o t) (hp : c.principalReady = true) :
    (t.sys o).c.principalReady = true := by
  cases h <;> first | exact hp | rfl

variable {out : Coordinator × UpdateResult}

theorem finish_principal {f : Frame} {st : Status}
    (h : Finishes c f st out) (hp : c.principalReady = true) : out.1.principalReady = true := by
  cases h <;> first | exact hp | (rw [commit_eq]; exact hp)

theorem record_principal {e : GamePresentEvidence}
    (h : Records cfg c e out) (hp : c.principalReady = true) : out.1.principalReady = true := by
  cases h <;> exact hp

theorem destroyed_op {out : UpdateResult} (h : (Obs.result o out).destroyed g = true) :
    o = .surfaceDestroyed g ∧ out.changed = true := by
  cases o <;> simp_all [Obs.destroyed]

theorem spent_skip {s s' : Sys} (h : Spent s t) {a : Obs} (ha : ∀ g, a.destroyed g = false)
    (hp : s.c.principalReady = true → s'.c.principalReady = true)
    (hn : ∀ g f, s'.running = some (.surfaceDestroyed g, f) → s'.c.principalReady = true ∧ g ≠ 0) :
    Spent s' (t ++ [a]) := by
  refine ⟨fun g ho => ?_, hn⟩
  have ho : Occurs (Obs.destroyed g) t := by simpa [ha] using ho
  exact ⟨hp (h.past g ho).1, (h.past g ho).2⟩

theorem spent_result {c' : Coordinator} {r : UpdateResult} (h : Spent s t)
    (hp : s.c.principalReady = true → c'.principalReady = true)
    (hd : ∀ g, o = .surfaceDestroyed g → r.changed = true → c'.principalReady = true ∧ g ≠ 0) :
    Spent ⟨c', none⟩ (t ++ [Obs.result o r]) := by
  refine ⟨fun g ho => ?_, fun g f hr => by cases hr⟩
  rcases (occurs_append _ _ _).mp ho with ho | ho
  · exact ⟨hp (h.past g ho).1, (h.past g ho).2⟩
  · obtain ⟨he, hr⟩ := destroyed_op (show (Obs.result o r).destroyed g = true by simpa using ho)
    exact hd g he hr

theorem done_destroys (hv : Inv ⟨c, none⟩)
    (h : Begins cfg c (.surfaceDestroyed g) (.done out)) (hr : out.2.changed = true) :
    out.1.principalReady = true ∧ g ≠ 0 := by
  generalize ht : Turn.done out = t at h
  cases h with
  | idle o r hn => cases ht; simp_all [UpdateResult.changed]
  | fails o cause m => cases ht; cases hr
  | candidate o s m hn hp hv hc hg hi hj hch => cases hch
  | unused g m hn hg hi hm =>
    cases ht
    exact ⟨((quiet_phase (hv.quiet rfl) hv.phase hn).1 hi).2 (unused_created hv.phase hm), hg⟩
  | _ => cases ht

theorem call_destroys {c c' : Coordinator} {f : Frame} (hv : Inv ⟨c, none⟩)
    (h : Begins cfg c (.surfaceDestroyed g) (.call c' f)) : c'.principalReady = true ∧ g ≠ 0 := by
  cases h with
  | changeStarts o s m hn hp hv hc hg hi hj hch => cases hch
  | resumes o s hp hv hc hg hi hs hch => cases hch
  | updates o s hp hv hc hg hi hs hch => cases hch
  | pauses g hg hi hs ha hga =>
    have hph : Phase c := hv.phase
    simp only [Phase, hs] at hph
    exact ⟨hph.1.principal, hg⟩

theorem run_spent (es : List Ev) : Spent ((sys cfg).run fresh es).1 ((sys cfg).run fresh es).2 := by
  refine reach_rule cfg (I := Spent) ⟨by simp, fun g f hr => by cases hr⟩ ?_ ?_ ?_ ?_ es
  · intro c o out t hv h hb
    refine spent_result h (begin_principal cfg hb) fun g ho hr => ?_
    subst ho
    exact done_destroys cfg hv hb hr
  · intro c c' o f t hv h hb
    refine spent_skip h (fun _ => rfl) (begin_principal cfg hb) fun g f' hr => ?_
    obtain ⟨rfl, -⟩ : o = .surfaceDestroyed g ∧ f = f' := by simpa using hr
    exact call_destroys cfg hv hb
  · intro c o f st out t hv h hf
    have hret : Spent ⟨c, some (o, f)⟩ (t ++ [Obs.ret o f.call st]) := spent_skip h (fun _ => rfl) id h.now
    refine spent_result hret (finish_principal hf) fun g ho hr => ?_
    have hn := h.now g f (by rw [ho])
    exact ⟨finish_principal hf hn.1, hn.2⟩
  · intro c r e out t hv h hr
    have hp := record_principal cfg hr
    exact spent_skip h (fun _ => rfl) hp fun g f hr => ⟨hp (h.now g f hr).1, (h.now g f hr).2⟩

/-- A destroyed generation offered to a coordinator that forgot it breaks the law. -/
theorem reuse_breaks (hs : Spent s t) (hr : s.running = none)
    (hd : Occurs (Obs.destroyed g) t) (ha : s.c.forgets g = true) {st : Status} (hst : st.ok = true) :
    ¬ FreshLifetimes (t ++ ((sys cfg).run s [.op (.surfaceCreated g), .ret st]).2) := by
  obtain ⟨c, r⟩ := s
  subst hr
  rcases surfaceCreated_cases c g with ⟨-, hca⟩ | ⟨hn, -⟩
  · intro hf
    have hrun : ((sys cfg).run ⟨c, none⟩ [.op (.surfaceCreated g), .ret st]).2 =
        [Obs.call (.surfaceCreated g) .setGameForeground, Obs.ret (.surfaceCreated g) .setGameForeground st] ++
          [.result (.surfaceCreated g) (finish (c.enter .preparingSurface) (.creating g) st).2] := by
      simp [sys, Machine.run, Machine.exec, stepSys, begin, hca, Frame.call]
    rw [hrun, ← List.append_assoc] at hf
    refine (always_snoc.mp (hf g)).2 ?_ (by simp [hd])
    simp [Obs.created, finish, hst, UpdateResult.changed]
  · obtain ⟨hp, hg⟩ := hs.past g hd
    exact absurd (hn ha hp) hg

/-! ## Runs -/

theorem destroyed_generation_fresh :
    (∀ es, (sys cfg).Guarded NoReuse fresh es → FreshLifetimes ((sys cfg).run fresh es).2) ∧
      ∀ es e, ¬ NoReuse ((sys cfg).run fresh es).1 ((sys cfg).run fresh es).2 e →
        ¬ FreshLifetimes ((sys cfg).run fresh (es ++ [e, .ret Status.okStatus])).2 := by
  constructor
  · intro es hg
    have h0 : FreshLifetimes [] ∧ Unspent fresh [] := ⟨fun _ => always_nil _, fun _ _ hr => by cases hr⟩
    exact ((sys cfg).run_induct_guarded (I := fun s t => FreshLifetimes t ∧ Unspent s t) h0
      (fun _ _ _ h hc => fresh_step cfg h hc) es hg).1
  · intro es e hn
    unfold NoReuse at hn
    split at hn
    · rename_i g
      simp only [Classical.not_imp, Bool.not_eq_false] at hn
      rw [(sys cfg).run_append]
      exact reuse_breaks cfg (run_spent cfg es) hn.1 hn.2.1 hn.2.2 rfl
    · exact absurd trivial hn

/-! ## Runs that reuse a generation -/

/-- The surface is replaced twice; the third lifetime is generation `g`. -/
def demoRecreate (g : Nat) : List Ev :=
  demoStart ++ [Ev.op (.surfaceDestroyed 1), Ev.ret Status.okStatus, Ev.op (.surfaceCreated 2), Ev.ret Status.okStatus,
    Ev.op (.surfaceChanged (demoSurface 2)), Ev.ret Status.okStatus, Ev.op (.surfaceDestroyed 2), Ev.ret Status.okStatus,
    Ev.op (.surfaceCreated g), Ev.ret Status.okStatus]

/-- The first surface is destroyed before the start and offered again. -/
def demoReuse : List Ev :=
  [.op (.setPrincipal { generation := 1, baseUrl := "https://www.roblox.com/" }), .op (.surfaceCreated 1), .ret Status.okStatus,
    .op (.surfaceDestroyed 1), .op (.surfaceCreated 1), .ret Status.okStatus]

theorem recreate_two_three_fresh : FreshLifetimes ((sys demoConfig).run fresh (demoRecreate 3)).2 :=
  (destroyed_generation_fresh demoConfig).1 (demoRecreate 3) (by decide)

/-- Before the start any destroyed generation is taken again; a paused game takes the last but one. -/
theorem generation_reused : ¬ FreshLifetimes ((sys demoConfig).run fresh demoReuse).2 ∧
    ¬ FreshLifetimes ((sys demoConfig).run fresh (demoRecreate 1)).2 := by
  constructor <;> intro h <;> exact absurd (h 1) (by decide)

end Mocktail.Session
