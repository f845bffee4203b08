/-
  Mocktail.Audio.PlayoutCallbacks — the callbacks of the playout sinks and the marks the sessions keep of
  them.

  SDL runs the callback of a sink on one thread at a time, and a thread that makes a call is inside
  `data_callback` or in none (`Sound`). The steps of the calls leave all callbacks as they are
  (`Calm`); a step of a callback changes the marks of its own session and thread only (`Turns`).
-/

import Mocktail.Audio.Playout

namespace Mocktail.Audio.Playout

open Mocktail.Lib

variable {I : Type}

/-! ## What SDL and the callback keep -/

namespace Bridge

/-- No callback of the session will begin. -/
def Stopped (b : Bridge I) (s : Nat) : Prop :=
  ((b.sessions s).stopRequested = true ∨ (b.sessions s).sink = false ∧ s < b.next) ∧
    ∀ t, (b.threads t).callback ≠ some (s, .passed)

/-- The thread executes no callback, or is inside `data_callback`. -/
def MayCall (b : Bridge I) (t : Nat) : Prop :=
  (b.threads t).callback = none ∨ ∃ s, (b.threads t).callback = some (s, .data)

/-- What SDL and `OnPlayoutDataNeeded` keep. -/
structure Sound (b : Bridge I) : Prop where
  busy : ∀ s t, (b.sessions s).busy = some t ↔ b.Executing t s
  sink : ∀ s t, b.Executing t s → (b.sessions s).sink = true
  flag : ∀ s t, b.calledFromCallback t s = true ↔
    (b.threads t).callback = some (s, .passed) ∨ (b.threads t).callback = some (s, .data)
  calls : ∀ t, (b.threads t).call ≠ .idle → b.MayCall t
  made : ∀ s, (b.sessions s).sink = true → s < b.next
  listed : ∀ x ∈ b.published, x.2 < b.next

variable {b b' b'' : Bridge I} {t u s : Nat}

theorem executing_iff : b.Executing t s ↔ ∃ stage, (b.threads t).callback = some (s, stage) := by
  constructor
  · intro h
    obtain ⟨⟨s', stage⟩, hc, he⟩ := Option.map_eq_some_iff.mp h
    cases he
    exact ⟨stage, hc⟩
  · intro hex
    obtain ⟨stage, hc⟩ := hex
    rw [Executing, hc]
    rfl

theorem Sound.unique (h : b.Sound) (ht : b.Executing t s) (hu : b.Executing u s) : t = u := by
  have ht := (h.busy s t).mpr ht
  have hu := (h.busy s u).mpr hu
  rw [ht] at hu
  exact Option.some.inj hu

/-- A session whose callback runs on a thread that is making a call is stopped once it is marked. -/
theorem Sound.stopped_inside (h : b.Sound) (hs : (b.sessions s).stopRequested = true) (hc : b.calledFromCallback t s = true)
    (hi : (b.threads t).call ≠ .idle) : b.Stopped s := by
  refine ⟨.inl hs, fun u hu => ?_⟩
  have ht : b.Executing t s := by
    rcases (h.flag s t).mp hc with hp | hd
    · exact executing_iff.mpr ⟨_, hp⟩
    · exact executing_iff.mpr ⟨_, hd⟩
  have htu := h.unique ht (executing_iff.mpr ⟨_, hu⟩)
  subst htu
  rcases h.calls t hi with hn | ⟨s', hd⟩
  · rw [hn] at hu
    cases hu
  · rw [hd] at hu
    cases hu

theorem stopped_outside (hs : (b.sessions s).stopRequested = true) (hn : ∀ u, ¬ b.Executing u s) :
    b.Stopped s :=
  ⟨.inl hs, fun u hu => hn u (executing_iff.mpr ⟨_, hu⟩)⟩

theorem Sound.stopped_of_quiet (h : b.Sound) (hs : s < b.next) (hq : b.Quiet s) : b.Stopped s :=
  ⟨hq.1.imp_right fun hk => ⟨hk, hs⟩, fun t ht => hq.2 t ((h.busy s t).mpr (executing_iff.mpr ⟨_, ht⟩)) ht⟩

theorem Sound.idle_of_sink (h : b.Sound) (hs : (b.sessions s).sink = false) (u : Nat) : ¬ b.Executing u s := by
  intro hu
  rw [h.sink s u hu] at hs
  cases hs

/-- The callback of a session that a calling thread executes has set its marks. -/
theorem Sound.flag_of_executing (h : b.Sound) (hi : (b.threads t).call ≠ .idle) (he : b.Executing t s) :
    b.calledFromCallback t s = true := by
  obtain ⟨stage, hc⟩ := executing_iff.mp he
  rcases h.calls t hi with hn | ⟨s', hd⟩
  · rw [hn] at hc
    cases hc
  · rw [hd] at hc
    cases hc
    exact (h.flag s t).mpr (.inr hd)

theorem Sound.not_executing_other (hs : b.Sound) (hc : b.calledFromCallback t s = true ∨ (b.sessions s).sink = false)
    (hu : u ≠ t) : ¬ b.Executing u s := by
  rcases hc with hc | hc
  · intro he
    have ht : b.Executing t s := by
      rcases (hs.flag s t).mp hc with hp | hd
      · exact executing_iff.mpr ⟨_, hp⟩
      · exact executing_iff.mpr ⟨_, hd⟩
    exact hu (hs.unique he ht)
  · exact hs.idle_of_sink hc u

/-- In the middle of a callback, the marks are those of its own thread. -/
theorem Sound.flag_iff (hs : b.Sound) {stage : Stage} (hc : (b.threads t).callback = some (s, stage)) (u : Nat) :
    b.calledFromCallback u s = true ↔ u = t ∧ (stage = .passed ∨ stage = .data) := by
  rw [hs.flag]
  constructor
  · intro hor
    have hu : u = t := by
      refine hs.unique ?_ (executing_iff.mpr ⟨stage, hc⟩)
      rcases hor with hp | hd
      · exact executing_iff.mpr ⟨_, hp⟩
      · exact executing_iff.mpr ⟨_, hd⟩
    rw [hu, hc] at hor
    exact ⟨hu, by simpa using hor⟩
  · intro hand
    rw [hand.1, hc]
    simpa using hand.2

/-! ## Steps that run no callback -/

/-- The callbacks go on as they are, and no sink goes under one. -/
structure Calm (b b' : Bridge I) : Prop where
  callback : ∀ t, (b'.threads t).callback = (b.threads t).callback
  busy : ∀ s, (b'.sessions s).busy = (b.sessions s).busy
  flag : ∀ s t, b'.calledFromCallback t s = b.calledFromCallback t s
  stop : ∀ s, (b.sessions s).stopRequested = true → (b'.sessions s).stopRequested = true
  sink : ∀ s t, b.Executing t s → (b.sessions s).sink = true → (b'.sessions s).sink = true
  calls : ∀ t, (b'.threads t).call ≠ .idle → (b.threads t).call ≠ .idle ∨ b.MayCall t
  made : ∀ s, (b'.sessions s).sink = true → (b.sessions s).sink = true ∨ b.next ≤ s ∧ s < b'.next
  next : b.next ≤ b'.next
  listed : ∀ x ∈ b'.published, x ∈ b.published ∨ x.2 < b'.next

theorem Calm.executing (h : Calm b b') : b'.Executing t s ↔ b.Executing t s := by
  rw [Executing, Executing, h.callback]

theorem Calm.sound (h : Calm b b') (hb : b.Sound) : b'.Sound where
  busy s t := by rw [h.busy, h.executing, hb.busy]
  sink s t he := h.sink s t (h.executing.mp he) (hb.sink s t (h.executing.mp he))
  flag s t := by rw [h.flag, h.callback, hb.flag]
  calls t hc := by
    rw [MayCall, h.callback]
    exact (h.calls t hc).elim (hb.calls t) id
  made s hs := by
    rcases h.made s hs with hs | hs
    · exact Nat.lt_of_lt_of_le (hb.made s hs) h.next
    · exact hs.2
  listed x hx := by
    rcases h.listed x hx with hx | hx
    · exact Nat.lt_of_lt_of_le (hb.listed x hx) h.next
    · exact hx

theorem Calm.stopped (h : Calm b b') (hs : b.Stopped s) : b'.Stopped s := by
  refine ⟨?_, fun t => by rw [h.callback]; exact hs.2 t⟩
  rcases hs.1 with hr | ⟨hk, hn⟩
  · exact .inl (h.stop s hr)
  · refine .inr ⟨?_, Nat.lt_of_lt_of_le hn h.next⟩
    rw [Bool.eq_false_iff]
    intro hk'
    rcases h.made s hk' with hk' | hm
    · rw [hk] at hk'
      cases hk'
    · omega

theorem Calm.trans (h : Calm b b') (h' : Calm b' b'') : Calm b b'' where
  callback t := (h'.callback t).trans (h.callback t)
  busy s := (h'.busy s).trans (h.busy s)
  flag s t := (h'.flag s t).trans (h.flag s t)
  stop s hs := h'.stop s (h.stop s hs)
  sink s t he hs := h'.sink s t (h.executing.mpr he) (h.sink s t he hs)
  calls t hc := by
    rcases h'.calls t hc with hc | hm
    · exact h.calls t hc
    · rw [MayCall, h.callback] at hm
      exact .inr hm
  made s hs := by
    have hn := h.next
    have hn' := h'.next
    rcases h'.made s hs with hs | hs
    · rcases h.made s hs with hs | hs
      · exact .inl hs
      · exact .inr (by omega)
    · exact .inr (by omega)
  next := Nat.le_trans h.next h'.next
  listed x hx := by
    rcases h'.listed x hx with hx | hx
    · exact (h.listed x hx).imp_right fun hx => Nat.lt_of_lt_of_le hx h'.next
    · exact .inr hx

@[simp] theorem goto_call (b : Bridge I) (t : Nat) (c : Call I) : ((b.goto t c).threads t).call = c := by simp [goto]

theorem goto_call_ne (c : Call I) (hu : u ≠ t) : ((b.goto t c).threads u).call = (b.threads u).call := by
  simp [goto, upd_ne _ _ hu]

theorem calm_goto_of (c : Call I) (hi : (b.threads t).call ≠ .idle ∨ b.MayCall t) : Calm b (b.goto t c) where
  callback u := by
    by_cases hu : u = t
    · subst hu
      simp [goto]
    · simp [goto, upd_ne _ _ hu]
  busy _ := rfl
  flag _ _ := rfl
  stop _ hs := hs
  sink _ _ _ hs := hs
  calls u hc := by
    by_cases hu : u = t
    · rw [hu]
      exact hi
    · rw [goto_call_ne c hu] at hc
      exact .inl hc
  made _ hs := .inl hs
  next := Nat.le_refl _
  listed _ hx := .inl hx

theorem calm_goto (c : Call I) (hi : (b.threads t).call ≠ .idle) : Calm b (b.goto t c) := calm_goto_of c (.inl hi)

/-- A change of one session that is none to SDL's callback. -/
theorem calm_modify {f : PlayoutSession → PlayoutSession} (hb : ∀ x, (f x).busy = x.busy)
    (hf : ∀ x, (f x).inDataCallback = x.inDataCallback ∧ (f x).dataCallbackThread = x.dataCallbackThread)
    (hs : ∀ x, x.stopRequested = true → (f x).stopRequested = true)
    (hk : (f (b.sessions s)).sink = (b.sessions s).sink ∨
      (f (b.sessions s)).sink = false ∧ ∀ u, ¬ b.Executing u s) : Calm b (b.modify s f) where
  callback _ := rfl
  busy s' := by
    by_cases he : s' = s
    · subst he
      simp [modify, hb]
    · simp [modify, upd_ne _ _ he]
  flag s' u := by
    by_cases he : s' = s
    · subst he
      simp [calledFromCallback, modify, hf]
    · simp [calledFromCallback, modify, upd_ne _ _ he]
  stop s' h := by
    by_cases he : s' = s
    · subst he
      simpa [modify] using hs _ h
    · simpa [modify, upd_ne _ _ he] using h
  sink s' u hx h := by
    by_cases he : s' = s
    · subst he
      rcases hk with hk | ⟨-, hn⟩
      · simpa [modify, hk] using h
      · exact absurd hx (hn u)
    · simpa [modify, upd_ne _ _ he] using h
  calls _ h := .inl h
  made s' h := by
    by_cases he : s' = s
    · subst he
      rcases hk with hk | ⟨hk, -⟩
      · simp only [modify, upd_same, hk] at h
        exact .inl h
      · simp [modify, hk] at h
    · simp only [modify, upd_ne _ _ he] at h
      exact .inl h
  next := Nat.le_refl _
  listed _ hx := .inl hx

theorem calm_pointers (p : List (Holder I × Nat)) (d : Bool) : Calm b { b with pointers := p, shuttingDown := d } :=
  ⟨fun _ => rfl, fun _ => rfl, fun _ _ => rfl, fun _ h => h, fun _ _ _ h => h, fun _ h => .inl h, fun _ h => .inl h,
    Nat.le_refl _, fun _ h => .inl h⟩

theorem calm_published {i : I} (hs : s < b.next) : Calm b { b with published := (i, s) :: b.published } where
  callback _ := rfl
  busy _ := rfl
  flag _ _ := rfl
  stop _ h := h
  sink _ _ _ h := h
  calls _ h := .inl h
  made _ h := .inl h
  next := Nat.le_refl _
  listed x hx := by
    rcases List.mem_cons.mp hx with rfl | hx
    · exact .inr hs
    · exact .inl hx

theorem calm_operation (s : Nat) (o : Option Nat) : Calm b (b.modify s fun x => { x with operation := o }) :=
  calm_modify (fun _ => rfl) (fun _ => ⟨rfl, rfl⟩) (fun _ h => h) (.inl rfl)

theorem calm_reset (hn : ∀ u, ¬ b.Executing u s) : Calm b (b.modify s fun x => { x with sink := false }) :=
  calm_modify (fun _ => rfl) (fun _ => ⟨rfl, rfl⟩) (fun _ h => h) (.inr ⟨rfl, hn⟩)

theorem calm_allocated (p : List (Holder I × Nat)) : Calm b { b with pointers := p, next := b.next + 1 } :=
  ⟨fun _ => rfl, fun _ => rfl, fun _ _ => rfl, fun _ h => h, fun _ _ _ h => h, fun _ h => .inl h, fun _ h => .inl h,
    Nat.le_succ _, fun _ h => .inl h⟩

theorem calm_created (p : List (Holder I × Nat)) :
    Calm b ({ b with pointers := p, next := b.next + 1 }.modify b.next fun x => { x with sink := true }) where
  callback _ := rfl
  busy s := by
    by_cases hs : s = b.next
    · simp [modify, hs]
    · simp [modify, upd_ne _ _ hs]
  flag s t := by
    by_cases hs : s = b.next
    · simp [calledFromCallback, modify, hs]
    · simp [calledFromCallback, modify, upd_ne _ _ hs]
  stop s h := by
    by_cases hs : s = b.next
    · simpa [modify, hs] using h
    · simpa [modify, upd_ne _ _ hs] using h
  sink s t _ h := by
    by_cases hs : s = b.next
    · simp [modify, hs]
    · simpa [modify, upd_ne _ _ hs] using h
  calls _ h := .inl h
  made s h := by
    by_cases hs : s = b.next
    · exact .inr (by simp [modify, hs])
    · exact .inl (by simpa [modify, upd_ne _ _ hs] using h)
  next := Nat.le_succ _
  listed _ hx := .inl hx

theorem calm_refl : Calm b b := calm_pointers b.pointers b.shuttingDown

/-! ## Steps of a callback -/

/-- A step of the callback of session `s` on thread `t`. -/
structure Turns (b b' : Bridge I) (t s : Nat) : Prop where
  threads : ∀ u, u ≠ t → b'.threads u = b.threads u
  call : (b'.threads t).call = (b.threads t).call
  sessions : ∀ x, x ≠ s → b'.sessions x = b.sessions x
  sink : (b'.sessions s).sink = (b.sessions s).sink
  stop : (b'.sessions s).stopRequested = (b.sessions s).stopRequested
  pointers : b'.pointers = b.pointers
  next : b'.next = b.next
  published : b'.published = b.published

theorem turns_modify {f : PlayoutSession → PlayoutSession} (hk : ∀ x, (f x).sink = x.sink)
    (hs : ∀ x, (f x).stopRequested = x.stopRequested) {cb : Option (Nat × Stage)} :
    Turns b ((b.modify s f).setCallback t cb) t s where
  threads u hu := upd_ne _ _ hu
  call := by simp [setCallback, modify]
  sessions x hx := upd_ne _ _ hx
  sink := by simp [setCallback, modify, hk]
  stop := by simp [setCallback, modify, hs]
  pointers := rfl
  next := rfl
  published := rfl

theorem Turns.call_eq (h : Turns b b' t s) (u : Nat) : (b'.threads u).call = (b.threads u).call := by
  by_cases hu : u = t
  · rw [hu, h.call]
  · rw [h.threads u hu]

theorem Turns.stop_eq (h : Turns b b' t s) (x : Nat) : (b'.sessions x).stopRequested = (b.sessions x).stopRequested := by
  by_cases hx : x = s
  · rw [hx, h.stop]
  · rw [h.sessions x hx]

theorem Turns.sink_eq (h : Turns b b' t s) (x : Nat) : (b'.sessions x).sink = (b.sessions x).sink := by
  by_cases hx : x = s
  · rw [hx, h.sink]
  · rw [h.sessions x hx]

theorem Turns.stopped (h : Turns b b' t s) {x : Nat} (hx : b.Stopped x) (hp : (b'.threads t).callback ≠ some (x, .passed)) :
    b'.Stopped x := by
  refine ⟨?_, fun u => ?_⟩
  · rw [h.stop_eq, h.sink_eq, h.next]
    exact hx.1
  · by_cases hu : u = t
    · rw [hu]
      exact hp
    · rw [h.threads u hu]
      exact hx.2 u

/-- The callback keeps SDL's and its own marks. -/
theorem Turns.sound (h : Turns b b' t s) (hb : b.Sound) (honly : ∀ u, b.Executing u s → u = t)
    (hhere : ∀ x, b.Executing t x → x = s)
    (hcb : (b'.threads t).callback = none ∨ ∃ stage, (b'.threads t).callback = some (s, stage))
    (hbusy : (b'.sessions s).busy = (b'.threads t).callback.map fun _ => t)
    (hsink : (b'.threads t).callback ≠ none → (b.sessions s).sink = true)
    (hflag : ∀ u, b'.calledFromCallback u s = true ↔
      u = t ∧ ((b'.threads t).callback = some (s, .passed) ∨ (b'.threads t).callback = some (s, .data)))
    (hcalls : (b.threads t).call ≠ .idle → b'.MayCall t) :
    b'.Sound := by
  have hx : ∀ x stage, (b'.threads t).callback = some (x, stage) → x = s := by
    intro x stage he
    rcases hcb with hn | ⟨stage', hs⟩
    · rw [hn] at he
      cases he
    · rw [hs] at he
      cases he
      rfl
  have hother : ∀ u, u ≠ t → (b'.threads u).callback = (b.threads u).callback := fun u hu => by rw [h.threads u hu]
  have hexec : ∀ u x, b'.Executing u x ↔ if u = t then x = s ∧ (b'.threads t).callback ≠ none else b.Executing u x := by
    intro u x
    by_cases hu : u = t
    · rw [if_pos hu, hu, executing_iff]
      constructor
      · intro hex
        obtain ⟨stage, he⟩ := hex
        exact ⟨hx x stage he, by rw [he]; simp⟩
      · intro hand
        obtain ⟨rfl, hne⟩ := hand
        rcases hcb with hn | hs
        · exact absurd hn hne
        · exact hs
    · rw [if_neg hu, Executing, Executing, hother u hu]
  constructor
  · intro x u
    rw [hexec]
    by_cases hxs : x = s
    · subst hxs
      rw [hbusy]
      by_cases hu : u = t
      · rw [if_pos hu, hu]
        rcases hcb with hn | ⟨stage, hs⟩
        · simp [hn]
        · simp [hs]
      · rw [if_neg hu]
        constructor
        · intro he
          obtain ⟨_, _, hut⟩ := Option.map_eq_some_iff.mp he
          exact absurd hut.symm hu
        · intro he
          exact absurd (honly u he) hu
    · rw [h.sessions x hxs, hb.busy x u]
      by_cases hu : u = t
      · rw [if_pos hu, hu]
        constructor
        · intro he
          exact absurd (hhere x he) hxs
        · intro hand
          exact absurd hand.1 hxs
      · rw [if_neg hu]
  · intro x u he
    rw [hexec] at he
    by_cases hu : u = t
    · rw [if_pos hu] at he
      rw [he.1, h.sink]
      exact hsink he.2
    · rw [if_neg hu] at he
      by_cases hxs : x = s
      · rw [hxs] at he
        exact absurd (honly u he) hu
      · rw [h.sessions x hxs]
        exact hb.sink x u he
  · intro x u
    by_cases hxs : x = s
    · subst hxs
      rw [hflag]
      by_cases hu : u = t
      · rw [hu]
        simp
      · have hne : ∀ stage, (b.threads u).callback ≠ some (x, stage) := fun stage he =>
          hu (honly u (executing_iff.mpr ⟨stage, he⟩))
        simp [hu, hother u hu, hne]
    · have hsame : b'.calledFromCallback u x = b.calledFromCallback u x := by
        rw [calledFromCallback, calledFromCallback, h.sessions x hxs]
      rw [hsame, hb.flag]
      by_cases hu : u = t
      · rw [hu]
        have hold : ∀ stage, (b.threads t).callback ≠ some (x, stage) := fun stage he =>
          hxs (hhere x (executing_iff.mpr ⟨stage, he⟩))
        have hnew : ∀ stage, (b'.threads t).callback ≠ some (x, stage) := fun stage he => hxs (hx x stage he)
        simp [hold, hnew]
      · rw [hother u hu]
  · intro u hc
    rw [h.call_eq] at hc
    by_cases hu : u = t
    · rw [hu] at hc ⊢
      exact hcalls hc
    · rw [MayCall, hother u hu]
      exact hb.calls u hc
  · intro x hk
    rw [h.next]
    by_cases hxs : x = s
    · rw [hxs, h.sink] at hk
      rw [hxs]
      exact hb.made s hk
    · rw [h.sessions x hxs] at hk
      exact hb.made x hk
  · rw [h.published, h.next]
    exact hb.listed

end Bridge

end Mocktail.Audio.Playout
