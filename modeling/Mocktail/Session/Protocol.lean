/-
  Mocktail.Session.Protocol — the order of the coordinator's native calls.

  `NativeProtocol` states the order on the trace of capability calls and returns alone:
  what must come before a call, what may happen once, and what may follow an error or a
  completed leave. `Link` ties each fact of the trace to the field the code tests for it;
  the run lemma `native_protocol` is for every sequence of operations, every outcome of
  every capability, and presents anywhere, also while a capability runs.
-/

import Mathlib.Data.List.Chain
import Mocktail.Session.Invariant

namespace Mocktail.Session

open Mocktail.Lib

/-! ## What the trace shows -/

inductive Cap where
  | setGameForeground
  | startGame
  | updateSurface
  | pauseGame
  | resumeGame
  | leaveGame
  | shutdownRuntime
  deriving DecidableEq, Repr

def Call.cap : Call → Cap
  | .setGameForeground => .setGameForeground
  | .startGame .. => .startGame
  | .updateSurface _ => .updateSurface
  | .pauseGame => .pauseGame
  | .resumeGame _ => .resumeGame
  | .leaveGame => .leaveGame
  | .shutdownRuntime => .shutdownRuntime

attribute [local simp] Frame.call Call.cap

namespace Obs

def called (k : Cap) : Obs → Bool
  | .call _ x => x.cap == k
  | _ => false

def succeeded (k : Cap) : Obs → Bool
  | .ret _ x st => x.cap == k && st.ok
  | _ => false

/-- A capability returned an error, or the game was left. -/
def ends : Obs → Bool
  | .ret _ x st => !st.ok || x.cap == .leaveGame
  | _ => false

/-- A completed pause or resume. -/
def switch? : Obs → Option Cap
  | .ret _ x st => if (x.cap == .pauseGame || x.cap == .resumeGame) && st.ok then some x.cap else none
  | _ => none

end Obs

/-- The completed pauses and resumes, in order. -/
def switches (t : List Obs) : List Cap := t.filterMap Obs.switch?

theorem switches_snoc (t : List Obs) (a : Obs) : switches (t ++ [a]) = switches t ++ a.switch?.toList := by
  unfold switches
  rw [List.filterMap_append]
  cases h : a.switch? <;> simp [h]

structure NativeProtocol (t : List Obs) : Prop where
  startAfterForeground : Always (fun pre a => a.called .startGame = true →
    Occurs (Obs.succeeded .setGameForeground) pre) t
  startOnce : Always (fun pre a => a.succeeded .startGame = true → ¬ Occurs (Obs.succeeded .startGame) pre) t
  afterStart : Always (fun pre a => ∀ k ∈ [Cap.updateSurface, .pauseGame, .resumeGame, .leaveGame],
    a.called k = true → Occurs (Obs.succeeded .startGame) pre) t
  alternate : (switches t).IsChain (· ≠ ·) ∧ ∀ k ∈ (switches t).head?, k = .pauseGame
  noUpdateWhilePaused : Always (fun pre a => a.called .updateSurface = true →
    (switches pre).getLast? ≠ some .pauseGame) t
  leaveOnce : Always (fun pre a => a.succeeded .leaveGame = true → ¬ Occurs (Obs.succeeded .leaveGame) pre) t
  afterEnd : Always (fun pre a => Occurs Obs.ends pre → ∀ k, a.called k = true → k = .shutdownRuntime) t
  shutdownLast : Always (fun pre a => Occurs (Obs.called .shutdownRuntime) pre → ∀ k, a.called k = false) t

theorem protocol_nil : NativeProtocol [] := by
  constructor <;> simp [switches]

variable {t : List Obs}

/-- An observation that is neither a call nor a return keeps the protocol. -/
theorem protocol_skip (h : NativeProtocol t) {a : Obs} (hc : ∀ k, a.called k = false)
    (hs : ∀ k, a.succeeded k = false) (hw : a.switch? = none) : NativeProtocol (t ++ [a]) := by
  refine ⟨always_snoc.mpr ⟨h.startAfterForeground, ?_⟩, always_snoc.mpr ⟨h.startOnce, ?_⟩,
    always_snoc.mpr ⟨h.afterStart, ?_⟩, ?_, always_snoc.mpr ⟨h.noUpdateWhilePaused, ?_⟩,
    always_snoc.mpr ⟨h.leaveOnce, ?_⟩, always_snoc.mpr ⟨h.afterEnd, ?_⟩, always_snoc.mpr ⟨h.shutdownLast, ?_⟩⟩
  case refine_4 => simpa [switches_snoc, hw] using h.alternate
  all_goals simp [hc, hs]

/-! ## The fields the code tests -/

structure Link (c : Coordinator) (t : List Obs) : Prop where
  started : c.initialStartCompleted = true ↔ Occurs (Obs.succeeded .startGame) t
  foreground : c.surfaceCreated = true → Occurs (Obs.succeeded .setGameForeground) t
  ended : Occurs Obs.ends t → c.isForwardTerminalLocked = true
  attempted : Occurs (Obs.called .shutdownRuntime) t → c.shutdownAttempted = true
  paused : c.isForwardTerminalLocked = false →
    ((switches t).getLast? = some .pauseGame ↔ c.gamePaused = true)

/-- `c'` agrees with `c` on every field the trace is tied to, or has become terminal. -/
structure Keeps (c c' : Coordinator) : Prop where
  started : c'.initialStartCompleted = c.initialStartCompleted
  created : c'.surfaceCreated = true → c.surfaceCreated = true
  terminal : c.isForwardTerminalLocked = true → c'.isForwardTerminalLocked = true
  attempted : c.shutdownAttempted = true → c'.shutdownAttempted = true
  paused : c'.gamePaused = c.gamePaused

theorem Keeps.live {c c' : Coordinator} (h : Keeps c c') (ht : c'.isForwardTerminalLocked = false) :
    c.isForwardTerminalLocked = false := by
  cases hc : c.isForwardTerminalLocked with
  | false => rfl
  | true => rw [h.terminal hc] at ht; cases ht

theorem keeps_live {c c' : Coordinator} (hn : c.isForwardTerminalLocked = false)
    (hi : c'.initialStartCompleted = c.initialStartCompleted) (hc : c'.surfaceCreated = true → c.surfaceCreated = true)
    (ha : c'.shutdownAttempted = c.shutdownAttempted) (hp : c'.gamePaused = c.gamePaused) : Keeps c c' :=
  ⟨hi, hc, fun h => (by rw [hn] at h; cases h), fun h => ha.trans h, hp⟩

theorem link_skip {c c' : Coordinator} (h : Link c t) (hk : Keeps c c') {a : Obs}
    (hc : a.called .shutdownRuntime = true → c'.shutdownAttempted = true)
    (hs : a.succeeded .startGame = false) (hf : a.succeeded .setGameForeground = false)
    (he : a.ends = true → c'.isForwardTerminalLocked = true) (hw : a.switch? = none) : Link c' (t ++ [a]) := by
  refine ⟨?_, fun h' => ?_, fun h' => ?_, fun h' => ?_, fun h' => ?_⟩
  · simp [hk.started, h.started, hs]
  · simpa [hf] using h.foreground (hk.created h')
  · rcases (occurs_append _ _ _).mp h' with h' | h'
    · exact hk.terminal (h.ended h')
    · exact he (by simpa using h')
  · rcases (occurs_append _ _ _).mp h' with h' | h'
    · exact hk.attempted (h.attempted h')
    · exact hc (by simpa using h')
  · simpa [switches_snoc, hw, hk.paused] using h.paused (hk.live h')

variable (cfg : Config)

/-! ## First turns -/

variable {out : Coordinator × UpdateResult} {c : Coordinator} {o : Op}

theorem done_keeps (h : Begins cfg c o (.done out)) :
    Keeps c out.1 := by
  generalize ht : Turn.done out = t at h
  cases h with
  | idle o r hr => cases ht; exact ⟨rfl, id, id, id, rfl⟩
  | fails o cause m | joinFails r cause m hn => cases ht; exact ⟨rfl, id, fun _ => rfl, id, rfl⟩
  | principal p m hs hp hk => cases ht; exact keeps_live (not_terminal (by simp [hs])) rfl id rfl rfl
  | joined r m hn hp hj hs | candidate o s m hn hp hv hc hg hi hj =>
    cases ht; exact keeps_live hn rfl id rfl rfl
  | unused g m hn hg hi hm => cases ht; exact keeps_live hn rfl (fun h => by cases h) rfl rfl
  | _ => cases ht

/-- What holds of the coordinator when it makes the call of `f`. -/
structure CallGuard (c : Coordinator) (f : Frame) : Prop where
  live : f ≠ .stopping → c.isForwardTerminalLocked = false
  foreground : f.call.cap = .startGame → c.surfaceCreated = true
  started : f.call.cap ∈ [Cap.updateSurface, .pauseGame, .resumeGame, .leaveGame] → c.initialStartCompleted = true
  playing : f.call.cap = .updateSurface → c.gamePaused = false
  attempt : c.shutdownAttempted = false

variable {f : Frame}

theorem call_keeps {c c' : Coordinator} (hv : Inv ⟨c, none⟩) (h : Begins cfg c o (.call c' f)) :
    Keeps c c' ∧ CallGuard c f ∧ (f = .stopping → c'.shutdownAttempted = true) := by
  have hl : c.isForwardTerminalLocked = false → c.shutdownAttempted = false := fun hn => (live_flags hv hn).2
  generalize ht : Turn.call c' f = t at h
  cases h with
  | joinStarts r m hn hp hj hs hc hi | changeStarts o s m hn hp hv hc hg hi hj =>
    cases ht
    exact ⟨keeps_live hn rfl id rfl rfl, ⟨fun _ => hn, fun _ => hc, by simp, by simp, hl hn⟩,
      by simp⟩
  | creates g hn hp hg hi hc =>
    cases ht
    exact ⟨keeps_live hn rfl id rfl rfl,
      ⟨fun _ => hn, by simp, by simp, by simp, hl hn⟩, by simp⟩
  | resumes o s hp hv hc hg hi hs =>
    have hn := not_terminal (c := c) (by simp [hs])
    cases ht
    exact ⟨keeps_live hn rfl id rfl rfl, ⟨fun _ => hn, by simp, fun _ => hi, by simp, hl hn⟩,
      by simp⟩
  | updates o s hp _ hc hg hi hs =>
    have hn := not_terminal (c := c) (by simp [hs])
    have hph : Phase c := hv.phase
    simp only [Phase, hs] at hph
    cases ht
    exact ⟨keeps_live hn rfl id rfl rfl, ⟨fun _ => hn, by simp, fun _ => hi, fun _ => hph.1.notPaused, hl hn⟩,
      by simp⟩
  | pauses g hg hi hs ha hga =>
    have hn := not_terminal (c := c) (by simp [hs])
    cases ht
    exact ⟨keeps_live hn rfl (fun h => by cases h) rfl rfl,
      ⟨fun _ => hn, by simp, fun _ => hi, by simp, hl hn⟩, by simp⟩
  | leaves hr hi hs =>
    have hn := not_terminal (c := c) (by rcases hs with hs | hs <;> simp [hs])
    cases ht
    exact ⟨keeps_live hn rfl id rfl rfl, ⟨fun _ => hn, by simp, fun _ => hi, by simp, hl hn⟩,
      by simp⟩
  | stops hs ha =>
    cases ht
    exact ⟨⟨rfl, id, fun _ => rfl, fun _ => rfl, rfl⟩,
      ⟨by simp, by simp, by simp, by simp, ha⟩, fun _ => rfl⟩
  | _ => cases ht

theorem cap_shutdown : f.call.cap = .shutdownRuntime ↔ f = .stopping := by
  cases f <;> simp

theorem call_protocol (h : NativeProtocol t) (hl : Link c t)
    (hg : CallGuard c f) : NativeProtocol (t ++ [Obs.call o f.call]) := by
  refine ⟨always_snoc.mpr ⟨h.startAfterForeground, ?_⟩, always_snoc.mpr ⟨h.startOnce, ?_⟩,
    always_snoc.mpr ⟨h.afterStart, ?_⟩, ?_, always_snoc.mpr ⟨h.noUpdateWhilePaused, ?_⟩,
    always_snoc.mpr ⟨h.leaveOnce, ?_⟩, always_snoc.mpr ⟨h.afterEnd, ?_⟩, always_snoc.mpr ⟨h.shutdownLast, ?_⟩⟩
  · intro hk
    exact hl.foreground (hg.foreground (by simpa [Obs.called] using hk))
  · intro hk; simp [Obs.succeeded] at hk
  · intro k hk hc
    have hc : f.call.cap = k := by simpa [Obs.called] using hc
    exact hl.started.mp (hg.started (hc ▸ hk))
  · simpa [switches_snoc, Obs.switch?] using h.alternate
  · intro hk hp
    have hk : f.call.cap = .updateSurface := by simpa [Obs.called] using hk
    have hn := hg.live (fun e => by rw [e] at hk; simp at hk)
    rw [hl.paused hn, hg.playing hk] at hp
    cases hp
  · intro hk; simp [Obs.succeeded] at hk
  · intro he k hk
    have hk : f.call.cap = k := by simpa [Obs.called] using hk
    by_cases hf : f = .stopping
    · rw [← hk, hf]; rfl
    · have := hg.live hf
      rw [hl.ended he] at this
      cases this
  · intro ha
    have := hl.attempted ha
    rw [hg.attempt] at this
    cases this

/-! ## Second turns -/

/-- What holds of the coordinator when the call of `f` returns. -/
structure RetGuard (c : Coordinator) (f : Frame) : Prop where
  live : f ≠ .stopping → c.isForwardTerminalLocked = false
  unstarted : f.call.cap = .startGame → c.initialStartCompleted = false
  unpaused : f.call.cap = .pauseGame → c.gamePaused = false
  paused : f.call.cap = .resumeGame → c.gamePaused = true

theorem ret_guard (h : Inv ⟨c, some (o, f)⟩) : RetGuard c f := by
  have hfr : FrameInv c o f := h.frame o f rfl
  have hph : Phase c := h.phase
  refine ⟨fun hs => frame_live hfr hs, fun hf => ?_, fun hf => ?_, fun hf => ?_⟩ <;> cases f <;>
    simp at hf <;> simp only [Phase, hfr.1] at hph
  · exact hph.1.started
  · exact hph.2.1
  · exact hph.1.paused

theorem leave_live (h : f.call.cap = .leaveGame) : f ≠ .stopping := by
  intro e; rw [e] at h; simp at h

/-- Appending a completed pause or resume keeps the alternation when the last one was the other. -/
theorem alternate_snoc {l : List Cap} {k : Cap} (h : l.IsChain (· ≠ ·) ∧ ∀ x ∈ l.head?, x = .pauseGame)
    (hk : l.getLast? ≠ some k) (h0 : l = [] → k = .pauseGame) :
    (l ++ [k]).IsChain (· ≠ ·) ∧ ∀ x ∈ (l ++ [k]).head?, x = .pauseGame := by
  constructor
  · rw [List.isChain_append]
    refine ⟨h.1, by simp, fun x hx y hy => ?_⟩
    obtain rfl : k = y := by simpa using hy
    intro e
    exact hk (e ▸ hx)
  · cases l with
    | nil => simpa using h0 rfl
    | cons a l => simpa using h.2

theorem ret_alternate (h : NativeProtocol t) (hl : Link c t)
    (hg : RetGuard c f) (o : Op) (st : Status) :
    (switches (t ++ [Obs.ret o f.call st])).IsChain (· ≠ ·) ∧
      ∀ k ∈ (switches (t ++ [Obs.ret o f.call st])).head?, k = .pauseGame := by
  rw [switches_snoc]
  by_cases hk : ((f.call.cap == .pauseGame || f.call.cap == .resumeGame) && st.ok) = true
  · simp only [Obs.switch?, hk, if_true, Option.toList_some]
    simp only [Bool.and_eq_true, Bool.or_eq_true, beq_iff_eq] at hk
    have hlive := hg.live (fun e => by rw [e] at hk; simp at hk)
    rcases hk.1 with hp | hr
    · refine alternate_snoc h.alternate ?_ (fun _ => hp)
      rw [hp, ne_eq, hl.paused hlive, hg.unpaused hp]
      simp
    · have hlast := (hl.paused hlive).mpr (hg.paused hr)
      refine alternate_snoc h.alternate ?_ (fun e => ?_)
      · rw [hlast, hr]; simp
      · rw [e] at hlast; cases hlast
  · simp only [Obs.switch?, if_neg hk, Option.toList_none, List.append_nil]
    exact h.alternate

theorem ret_protocol (h : NativeProtocol t) (hl : Link c t)
    (hg : RetGuard c f) (o : Op) (st : Status) : NativeProtocol (t ++ [Obs.ret o f.call st]) := by
  refine ⟨always_snoc.mpr ⟨h.startAfterForeground, ?_⟩, always_snoc.mpr ⟨h.startOnce, ?_⟩,
    always_snoc.mpr ⟨h.afterStart, ?_⟩, ret_alternate h hl hg o st, always_snoc.mpr ⟨h.noUpdateWhilePaused, ?_⟩,
    always_snoc.mpr ⟨h.leaveOnce, ?_⟩, always_snoc.mpr ⟨h.afterEnd, ?_⟩, always_snoc.mpr ⟨h.shutdownLast, ?_⟩⟩
  case refine_2 =>
    intro hk ho
    simp only [Obs.succeeded, Bool.and_eq_true, beq_iff_eq] at hk
    have := hl.started.mpr ho
    rw [hg.unstarted hk.1] at this
    cases this
  case refine_5 =>
    intro hk ho
    simp only [Obs.succeeded, Bool.and_eq_true, beq_iff_eq] at hk
    have hlive := hg.live (leave_live hk.1)
    obtain ⟨a, ha, hs⟩ := ho
    have he : a.ends = true := by
      cases a <;> simp_all [Obs.succeeded, Obs.ends]
    rw [hl.ended ⟨a, ha, he⟩] at hlive
    cases hlive
  all_goals simp [Obs.called]

theorem link_ret {c c' : Coordinator} (h : Link c t) {st : Status} (hst : st.ok = true)
    (hn : c.isForwardTerminalLocked = false) (hf : f.call.cap ≠ .leaveGame)
    (hi : c'.initialStartCompleted = (c.initialStartCompleted || f.call.cap == .startGame))
    (hc : c'.surfaceCreated = true → c.surfaceCreated = true ∨ f.call.cap = .setGameForeground)
    (ha : c'.shutdownAttempted = c.shutdownAttempted)
    (hp : c'.gamePaused = (f.call.cap == .pauseGame || f.call.cap != .resumeGame && c.gamePaused)) :
    Link c' (t ++ [Obs.ret o f.call st]) := by
  refine ⟨?_, fun h' => ?_, fun h' => ?_, fun h' => ?_, fun _ => ?_⟩
  · simp [hi, h.started, Obs.succeeded, hst]
  · rcases hc h' with hc | hc
    · simpa using Or.inl (h.foreground hc)
    · simp [-Frame.call, -Call.cap, Obs.succeeded, hc, hst]
  · have h' : Occurs Obs.ends t := by simpa [-Frame.call, -Call.cap, Obs.ends, hst, hf] using h'
    rw [h.ended h'] at hn; cases hn
  · have h' : Occurs (Obs.called .shutdownRuntime) t := by simpa [Obs.called] using h'
    rw [ha]; exact h.attempted h'
  · rw [switches_snoc, hp, Obs.switch?]
    have hold := h.paused hn
    by_cases hpa : f.call.cap = .pauseGame
    · simp [-Frame.call, -Call.cap, hpa, hst]
    by_cases hre : f.call.cap = .resumeGame
    · simp [-Frame.call, -Call.cap, hre, hst]
    · simpa [-Frame.call, -Call.cap, hpa, hre] using hold

theorem ret_link {st : Status}
    (hv : Inv ⟨c, some (o, f)⟩) (h : Link c t)
    (hf : Finishes c f st out) : Link out.1 (t ++ [Obs.ret o f.call st]) := by
  have hg := ret_guard hv
  have hph : Phase c := hv.phase
  have hfr : FrameInv c o f := hv.frame o f rfl
  cases hf with
  | failed f st m hk hst =>
    have hk : Keeps c (c.failLocked st m).1 := ⟨rfl, id, fun _ => rfl, id, rfl⟩
    refine link_skip h hk ?_ ?_ ?_ (fun _ => rfl) ?_
    all_goals simp [Obs.called, Obs.succeeded, Obs.switch?, hst]
  | dropped f st m hk hst =>
    have hk : Keeps c (c.discardPending.failLocked st m).1 := ⟨rfl, id, fun _ => rfl, id, rfl⟩
    refine link_skip h hk ?_ ?_ ?_ (fun _ => rfl) ?_
    all_goals simp [Obs.called, Obs.succeeded, Obs.switch?, hst]
  | created g st m hst =>
    exact link_ret h hst (hg.live (by simp)) (by simp) (by simp)
      (fun _ => Or.inr rfl) rfl rfl
  | started p r s a m st hst =>
    simp only [Phase, hfr.1] at hph
    rw [commit_eq]
    exact link_ret h hst (hg.live (by simp)) (by simp) (by simp)
      Or.inl rfl (by simp [hph.1.notPaused])
  | resumed s m st hst =>
    rw [commit_eq]
    exact link_ret h hst (hg.live (by simp)) (by simp) (by simp)
      Or.inl rfl (by simp)
  | updated s m st hst =>
    rw [commit_eq]
    exact link_ret h hst (hg.live (by simp)) (by simp) (by simp)
      Or.inl rfl rfl
  | paused m st hst =>
    exact link_ret h hst (hg.live (by simp)) (by simp) (by simp)
      Or.inl rfl (by simp)
  | left m st hst =>
    -- the session flags are reset, but the state is terminal from here on
    refine ⟨?_, fun h' => (by cases h'), fun _ => rfl, fun h' => ?_, fun h' => (by cases h')⟩
    · simpa [Obs.succeeded] using h.started
    · exact h.attempted (by simpa [Obs.called] using h')
  | stopped m st hst =>
    refine ⟨?_, fun h' => (by cases h'), fun _ => rfl, fun h' => ?_, fun h' => (by cases h')⟩
    · simpa [Obs.succeeded] using h.started
    · exact h.attempted (by simpa [Obs.called] using h')

/-! ## Presents and runs -/

theorem record_keeps {e : GamePresentEvidence}
    (h : Records cfg c e out) : Keeps c out.1 := by
  cases h with
  | idle r hr | parks r hv hd hg hp | observes r hv hi hg => exact ⟨rfl, id, id, id, rfl⟩

theorem fresh_link : Link fresh.c [] := by
  constructor <;> simp [fresh, switches]

theorem run_protocol (es : List Ev) :
    NativeProtocol ((sys cfg).run fresh es).2 ∧ Link ((sys cfg).run fresh es).1.c ((sys cfg).run fresh es).2 := by
  refine reach_rule cfg (I := fun s t => NativeProtocol t ∧ Link s.c t) ⟨protocol_nil, fresh_link⟩ ?_ ?_ ?_ ?_ es
  · intro c o out t _ h hb
    exact ⟨protocol_skip h.1 (fun _ => rfl) (fun _ => rfl) rfl,
      link_skip h.2 (done_keeps cfg hb) (by simp [Obs.called]) rfl rfl (by simp [Obs.ends]) rfl⟩
  · intro c c' o f t hv h hb
    obtain ⟨hk, hg, hs⟩ := call_keeps cfg hv hb
    refine ⟨call_protocol h.1 h.2 hg, link_skip h.2 hk (fun hc => hs ?_) rfl rfl (by simp [Obs.ends]) rfl⟩
    exact cap_shutdown.mp (by simpa [Obs.called] using hc)
  · intro c o f st out t hv h hf
    have hp := ret_protocol h.1 h.2 (ret_guard hv) o st
    have hl := ret_link hv h.2 hf
    exact ⟨protocol_skip hp (fun _ => rfl) (fun _ => rfl) rfl,
      link_skip hl ⟨rfl, id, id, id, rfl⟩ (by simp [Obs.called]) rfl rfl (by simp [Obs.ends]) rfl⟩
  · intro c r e out t _ h hr
    exact ⟨protocol_skip h.1 (fun _ => rfl) (fun _ => rfl) rfl,
      link_skip h.2 (record_keeps cfg hr) (by simp [Obs.called]) rfl rfl (by simp [Obs.ends]) rfl⟩

theorem native_protocol (es : List Ev) : NativeProtocol ((sys cfg).run fresh es).2 :=
  (run_protocol cfg es).1

end Mocktail.Session
