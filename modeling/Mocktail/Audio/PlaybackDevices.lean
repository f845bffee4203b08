/-
  Mocktail.Audio.PlaybackDevices — the playback side of the SDL audio subsystem
  (src/audio/sdl_audio_sink.cc): the live sinks and the switch of all of them to another device.

  A sink has a logical device of its own and a stream bound to it. `switchPlaybackDevice` moves
  one sink: it opens the replacement, gives it the pause state of the old device, rebinds the
  stream and closes the old device; where a step fails it goes back. `switchSdlPlaybackDevice`
  moves the sinks one after the other and, when one refuses, moves those before it back, the
  last one first.

  The calls are under the subsystem's mutex or wait for each other on the sink's own: they are
  steps of one order. A call made to undo something is marked (`undoing`).
-/

import Mocktail.Audio.Sdl
import Mocktail.Lib.Keyed

namespace Mocktail.Audio

open Mocktail.Lib
open Mocktail.Launch (Text ascii)

/-! ## Sinks -/

/-- `SDL_AUDIO_DEVICE_DEFAULT_PLAYBACK`, or the device itself. -/
def playbackDevice (id : Nat) : Nat := if id = 0 then 0xFFFFFFFF else id

structure SdlAudioSink where
  stream : Option Nat
  logicalDeviceId : Option Nat
  physicalDeviceId : Nat
  shuttingDown : Bool := false
  deriving DecidableEq, Repr

structure SwitchResult (σ : Type) where
  world : World σ
  sink : SdlAudioSink
  status : Status

section Switch

variable {σ : Type} (S : SdlAudio σ)

/-- The end of a switch: the stream of the sink goes from its device over to the replacement, or back. -/
def rebind (undoing : Bool) (w : World σ) (k : SdlAudioSink) (s d replacement id : Nat) : SwitchResult σ :=
  let w := { w with sdl := S.unbindAudioStream w.sdl s }
  match w.answered undoing (S.bindAudioStream w.sdl replacement s) with
  | (w, false) =>
    let status := sdlError S w.sdl "SDL_BindAudioStream during playback migration"
    let w := (w.answered true (S.bindAudioStream w.sdl d s)).1
    ⟨{ w with sdl := S.closeAudioDevice w.sdl replacement }, k, status⟩
  | (w, true) =>
    ⟨{ w with sdl := S.closeAudioDevice w.sdl d },
      { k with logicalDeviceId := some replacement, physicalDeviceId := id }, .okStatus⟩

def switchPlaybackDevice (undoing : Bool) (w : World σ) (k : SdlAudioSink) (id : Nat) : SwitchResult σ :=
  match k.shuttingDown, k.stream, k.logicalDeviceId with
  | false, some s, some d =>
    if k.physicalDeviceId = id then ⟨w, k, .okStatus⟩
    else
      let wasPaused := S.audioDevicePaused w.sdl d
      match w.opened undoing (S.openAudioDevice w.sdl (playbackDevice id)) with
      | (w, none) => ⟨w, k, sdlError S w.sdl "SDL_OpenAudioDevice during playback migration"⟩
      | (w, some replacement) =>
        match if wasPaused then w.answered undoing (S.pauseAudioDevice w.sdl replacement) else (w, true) with
        | (w, false) =>
          ⟨{ w with sdl := S.closeAudioDevice w.sdl replacement }, k,
            sdlError S w.sdl "SDL_PauseAudioDevice during playback migration"⟩
        | (w, true) => rebind S undoing w k s d replacement id
  | _, _, _ => ⟨w, k, .failedPrecondition "audio sink is shut down"⟩

/-- The sinks moved so far with the device each came from, the last one first, are moved back. -/
def rollback (w : World σ) : List (SdlAudioSink × Nat) → World σ × List SdlAudioSink
  | [] => (w, [])
  | (k, previous) :: migrated =>
    let r := switchPlaybackDevice S true w k previous
    let (w, ks) := rollback r.world migrated
    (w, ks ++ [r.sink])

/-- The loop over the live sinks. -/
def migrate (id : Nat) (w : World σ) (migrated : List (SdlAudioSink × Nat)) :
    List SdlAudioSink → World σ × List SdlAudioSink × Status
  | [] => (w, (migrated.map (·.1)).reverse, .okStatus)
  | k :: rest =>
    let r := switchPlaybackDevice S false w k id
    if r.status.ok then migrate id r.world ((r.sink, k.physicalDeviceId) :: migrated) rest
    else
      let (w, ks) := rollback S r.world migrated
      (w, ks ++ r.sink :: rest, r.status)

/-- `SdlAudioSubsystemState`. -/
structure Playback where
  liveSinks : List SdlAudioSink := []
  configuredPlaybackDeviceId : Nat := 0
  configuredPlaybackDeviceName : Text := ascii "default"
  initialized : Bool := false

def listSdlPlaybackDevices (x : σ) (p : Playback) : Except Status (List (Nat × Text)) :=
  if p.initialized = false then
    .error (.failedPrecondition "SDL audio subsystem must be initialized before device enumeration")
  else
    match S.audioPlaybackDevices x with
    | none => .error (sdlError S x "SDL_GetAudioPlaybackDevices")
    | some ids => namedDevices S x "SDL_GetAudioDeviceName" ids

/-- The name of the requested device. -/
def playbackTarget (x : σ) (p : Playback) (id : Nat) : Except Status Text :=
  if id = 0 then .ok (ascii "default")
  else
    match listSdlPlaybackDevices S x p with
    | .error status => .error status
    | .ok devices =>
      match devices.find? fun device => device.1 = id with
      | none => .error (.unavailable "selected SDL playback device is unavailable")
      | some found => .ok found.2

def switchSdlPlaybackDevice (w : World σ) (p : Playback) (id : Nat) : World σ × Playback × Except Status Text :=
  match playbackTarget S w.sdl p id with
  | .error status => (w, p, .error status)
  | .ok name =>
    if p.initialized = false then
      (w, p, .error (.failedPrecondition "SDL audio subsystem stopped during playback migration"))
    else
      let (w, ks, status) := migrate S id w [] p.liveSinks
      if status.ok then
        (w, { p with liveSinks := ks, configuredPlaybackDeviceId := id, configuredPlaybackDeviceName := name }, .ok name)
      else (w, { p with liveSinks := ks }, .error status)

/-- `SdlAudioSink::Shutdown`, up to where the sink leaves the list. -/
def shutdownSink (x : σ) (s d : Nat) : σ := S.closeAudioDevice (S.destroyAudioStream (S.pauseAudioStreamDevice x s).1 s) d

/-- The stream of a new sink on the device opened for it; `memory` is whether the sink can be allocated. -/
def attachSink (x : σ) (d id : Nat) (callback memory : Bool) : σ × Except Status SdlAudioSink :=
  match S.createAudioStream x with
  | (x, none) => (S.closeAudioDevice x d, .error (sdlError S x "SDL_CreateAudioStream"))
  | (x, some s) =>
    match S.bindAudioStream x d s with
    | (x, false) => (S.closeAudioDevice (S.destroyAudioStream x s) d, .error (sdlError S x "SDL_BindAudioStream"))
    | (x, true) =>
      if memory = false then
        (S.closeAudioDevice (S.destroyAudioStream x s) d, .error (.unavailable "unable to allocate SDL audio sink"))
      else
        match if callback then S.setAudioStreamGetCallback x s else (x, true) with
        | (x, false) => (shutdownSink S x s d, .error (sdlError S x "SDL_SetAudioStreamGetCallback"))
        | (x, true) => (x, .ok ⟨some s, some d, id, false⟩)

/-- `CreateSdlAudioSink`, of a valid format. -/
def createSdlAudioSink (w : World σ) (p : Playback) (requested : Nat) (startPaused callback memory : Bool) :
    World σ × Playback × Status :=
  if p.initialized = false then
    (w, p, .failedPrecondition "SDL audio subsystem must be initialized by the process owner")
  else
    let id := if requested = 0 then p.configuredPlaybackDeviceId else requested
    match S.openAudioDevice w.sdl (playbackDevice id) with
    | (x, none) => ({ w with sdl := x }, p, sdlError S x "SDL_OpenAudioDevice")
    | (x, some d) =>
      match if startPaused then S.pauseAudioDevice x d else (x, true) with
      | (x, false) => ({ w with sdl := S.closeAudioDevice x d }, p, sdlError S x "SDL_PauseAudioDevice")
      | (x, true) =>
        match attachSink S x d id callback memory with
        | (x, .error status) => ({ w with sdl := x }, p, status)
        | (x, .ok k) => ({ w with sdl := x }, { p with liveSinks := p.liveSinks ++ [k] }, .okStatus)

/-- `Pause` and `Resume` of the sink at this place of the list. -/
def pauseSink (w : World σ) (p : Playback) (index : Nat) (pause : Bool) : World σ :=
  match p.liveSinks[index]? with
  | none => w
  | some k =>
    match k.shuttingDown, k.stream with
    | false, some s =>
      { w with sdl := if pause then (S.pauseAudioStreamDevice w.sdl s).1 else (S.resumeAudioStreamDevice w.sdl s).1 }
    | _, _ => w

/-- `Shutdown` of the sink at this place of the list: first its stream and its device go, then it leaves the list. -/
def closeSink (w : World σ) (p : Playback) (index : Nat) : World σ × Playback :=
  match p.liveSinks[index]? with
  | none => (w, p)
  | some k =>
    match k.shuttingDown, k.stream, k.logicalDeviceId with
    | false, some s, some d =>
      ({ w with sdl := shutdownSink S w.sdl s d },
        { p with liveSinks := p.liveSinks.set index { k with stream := none, logicalDeviceId := none, shuttingDown := true } })
    | _, _, _ => (w, p)

def releaseSink (p : Playback) (index : Nat) : Playback :=
  match p.liveSinks[index]? with
  | none => p
  | some k => if k.shuttingDown then { p with liveSinks := p.liveSinks.eraseIdx index } else p

end Switch

/-! ## One sink -/

/-- The sink plays on a device that was opened for its physical one, paused or not. -/
def Sits (v : View) (k : SdlAudioSink) (paused : Bool) : Prop :=
  ∃ s d, k.stream = some s ∧ k.logicalDeviceId = some d ∧ k.shuttingDown = false ∧
    v.Plays s d ⟨playbackDevice k.physicalDeviceId, paused⟩ false

/-- What a sink that was moved owes to the one it was: its stream on the new device, in the same pause state. Of the others
    nothing changes, and no device is left open. -/
structure Moved (v w : View) (k k' : SdlAudioSink) (id : Nat) (paused : Bool) : Prop where
  stream : k'.stream = k.stream
  physical : k'.physicalDeviceId = id
  sits : Sits w k' paused
  spares : v.Spares w fun t => k.stream = some t
  opened : ∀ e, w.devices e ≠ none → v.devices e ≠ none ∨ k'.logicalDeviceId = some e
  closed : ∀ e, k.logicalDeviceId = some e → k'.logicalDeviceId = some e ∨ w.devices e = none
  streams : ∀ t, w.streams t = none ↔ v.streams t = none

variable {σ : Type} {S : SdlAudio σ} {view : σ → View} {w : World σ} {k : SdlAudioSink} {id : Nat} {paused undoing : Bool}

theorem closeDevice_streams_none {v : View} {d t : Nat} : (v.closeDevice d).streams t = none ↔ v.streams t = none :=
  Option.map_eq_none_iff

theorem bind_streams_none {v : View} {s t : Nat} {b : Option Nat} : (v.bind s b).streams t = none ↔ v.streams t = none := by
  rw [View.bind_streams]
  by_cases ht : t = s
  · rw [ht, upd_same, Option.map_eq_none_iff]
  · rw [upd_ne _ _ ht]

variable {v u : View} {s d r : Nat}

/-- The view after a move: the replacement `r` in the pause state of `d`, the stream on it, and `d` closed. -/
theorem moved_of_view {x : Device} (hk : k.stream = some s) (hd : k.logicalDeviceId = some d)
    (hdown : k.shuttingDown = false) (hp : v.Plays s d x false) (hr : v.devices r = none)
    (hbound : ∀ t y, v.streams t = some y → y.device ≠ some r) (hus : u.streams = v.streams)
    (hud : u.devices = upd v.devices r (some ⟨playbackDevice id, paused⟩)) :
    Moved v (((u.bind s none).bind s (some r)).closeDevice d) k
      { k with logicalDeviceId := some r, physicalDeviceId := id } id paused := by
  have hrd : r ≠ d := fun he => by rw [he, hp.device] at hr; cases hr
  have hstream : ((u.bind s none).bind s (some r)).streams s = some ⟨some r, false⟩ := by
    simp [View.bind_streams, hus, hp.stream]
  have hother : ∀ t, t ≠ s → ((u.bind s none).bind s (some r)).streams t = v.streams t := by
    intro t ht
    rw [View.bind_streams, upd_ne _ _ ht, View.bind_streams, upd_ne _ _ ht, hus]
  have hdevices : ∀ e, (((u.bind s none).bind s (some r)).closeDevice d).devices e =
      if e = d then none else if e = r then some ⟨playbackDevice id, paused⟩ else v.devices e := by
    intro e
    show upd u.devices d none e = _
    rw [hud]
    rfl
  have hafter : ∀ t, t ≠ s → ∀ y, (((u.bind s none).bind s (some r)).closeDevice d).streams t = some y →
      v.streams t = some y := by
    intro t ht y hy
    obtain ⟨z, hz, hzy⟩ := Option.map_eq_some_iff.mp hy
    rw [hother t ht] at hz
    have hzd : z.device ≠ some d := fun he => ht (hp.alone t z hz he)
    rw [if_neg hzd] at hzy
    rw [hz, hzy]
  refine ⟨rfl, rfl, ⟨s, r, hk, rfl, hdown, ?_, ?_, ?_⟩, ?_, ?_, ?_, ?_⟩
  · show (((u.bind s none).bind s (some r)).streams s).map _ = _
    rw [hstream]
    simp [hrd]
  · rw [hdevices, if_neg hrd, if_pos rfl]
  · intro t y hy hyr
    by_contra ht
    exact hbound t y (hafter t ht y hy) hyr
  · intro t e y owns ht h
    have hts : t ≠ s := fun he => ht (by rw [he]; exact hk)
    have hed : e ≠ d := fun he => hts (hp.only (by rw [← he]; exact h))
    have her : e ≠ r := fun he => by rw [← he, h.device] at hr; cases hr
    refine ⟨?_, by rw [hdevices, if_neg hed, if_neg her]; exact h.device, fun t' z hz hze => ?_⟩
    · show (((u.bind s none).bind s (some r)).streams t).map _ = _
      rw [hother t hts, h.stream]
      simp [hed]
    · by_cases ht' : t' = s
      · obtain ⟨z', hz', hzz⟩ := Option.map_eq_some_iff.mp hz
        rw [ht', hstream] at hz'
        cases hz'
        simp only [Option.some.injEq, if_neg hrd] at hzz
        rw [← hzz] at hze
        cases hze
        exact absurd rfl her
      · exact h.alone t' z (hafter t' ht' z hz) hze
  · intro e he
    rw [hdevices] at he
    by_cases hed : e = d
    · rw [if_pos hed] at he
      exact absurd rfl he
    · rw [if_neg hed] at he
      by_cases her : e = r
      · exact .inr (by rw [her])
      · rw [if_neg her] at he
        exact .inl he
  · intro e he
    rw [hd] at he
    cases he
    right
    rw [hdevices, if_pos rfl]
  · intro t
    rw [closeDevice_streams_none, bind_streams_none, bind_streams_none, hus]

/-- The outcomes of one call in which every call made to undo something succeeded. -/
inductive Outcome (undoing : Bool) (v u : View) (k k' : SdlAudioSink) (id : Nat) (paused : Bool) : Status → Prop
  | refused {status : Status} (h : status.ok = false) (hk : k' = k) (hv : u = v) (hu : undoing = true → k.stream = none) :
      Outcome undoing v u k k' id paused status
  | moved {status : Status} (h : status.ok = true) (hk : k.stream ≠ none) (hm : Moved v u k k' id paused) :
      Outcome undoing v u k k' id paused status

variable {x : σ}

theorem rebind_spec (hdoc : Documented S view) (hs : k.stream = some s) (hd : k.logicalDeviceId = some d)
    (hdown : k.shuttingDown = false) (hp : (view w.sdl).Plays s d ⟨playbackDevice k.physicalDeviceId, paused⟩ false)
    (hx : (view w.sdl).devices r = none ∧ view x = (view w.sdl).openDevice r (playbackDevice id))
    {y : World σ} (hy : view y.sdl = if paused then (view x).setPaused r true else view x) {q : SwitchResult σ}
    (hq : q = rebind S undoing y k s d r id) (hu : q.world.undone = true) :
    Outcome undoing (view w.sdl) (view q.world.sdl) k q.sink id paused q.status := by
  obtain ⟨hnone, hx⟩ := hx
  have hbound : ∀ t z, (view w.sdl).streams t = some z → z.device ≠ some r :=
    fun t z hz hzr => hdoc.bound w.sdl t z r hz hzr hnone
  have hys : (view y.sdl).streams = (view w.sdl).streams := by
    rw [hy, hx]
    split <;> rfl
  have hyd : (view y.sdl).devices = upd (view w.sdl).devices r (some ⟨playbackDevice id, paused⟩) := by
    rw [hy, hx]
    cases paused with
    | false => rfl
    | true =>
      funext e
      by_cases he : e = r
      · simp [View.setPaused, View.openDevice, he]
      · simp [View.setPaused, View.openDevice, upd_ne _ _ he]
  cases hb : S.bindAudioStream (S.unbindAudioStream y.sdl s) r s with
  | mk z b =>
    have hz := hdoc.bind _ _ _ _ _ hb
    rw [hdoc.unbind] at hz
    simp only [rebind, hb, World.answered] at hq
    cases b with
    | true =>
      subst hq
      refine .moved rfl (by rw [hs]; simp) ?_
      simp only [if_true] at hz
      simp only [hdoc.close, hz]
      exact moved_of_view hs hd hdown hp hnone hbound hys hyd
    | false =>
      -- The stream goes back to the old device, and the replacement is closed.
      cases hb' : S.bindAudioStream z d s with
      | mk z' b' =>
        have hz' := hdoc.bind _ _ _ _ _ hb'
        simp only [hb'] at hq
        subst hq
        simp only [Bool.not_true, Bool.false_or, Bool.or_false, Bool.and_eq_true, Bool.not_eq_true'] at hu
        obtain ⟨⟨-, hforward⟩, hback⟩ := hu
        refine .refused rfl rfl ?_ fun he => ?_
        swap
        · rw [he] at hforward
          cases hforward
        rw [hback, if_pos rfl] at hz'
        simp only [Bool.false_eq_true, if_false] at hz
        show view (S.closeAudioDevice z' r) = view w.sdl
        rw [hdoc.close, hz', hz]
        refine View.closeDevice_opened ?_ hyd hnone hbound
        funext t
        rw [View.bind_streams, View.bind_streams, hys]
        by_cases ht : t = s
        · rw [ht, upd_same, upd_same, hp.stream]
          rfl
        · rw [upd_ne _ _ ht, upd_ne _ _ ht]

theorem undone_of_rebind (hu : (rebind S undoing w k s d r id).world.undone = true) : w.undone = true := by
  simp only [rebind] at hu
  split at hu
  · rename_i w' hw
    exact World.undone_of_answered hw (World.undone_of_answered rfl hu)
  · rename_i w' hw
    exact World.undone_of_answered hw hu

theorem undone_of_switch (hu : (switchPlaybackDevice S undoing w k id).world.undone = true) : w.undone = true := by
  simp only [switchPlaybackDevice] at hu
  split at hu
  · split at hu
    · exact hu
    · split at hu
      · rename_i w' hw
        exact World.undone_of_opened hw hu
      · rename_i w' r hw
        refine World.undone_of_opened hw ?_
        -- Of the two steps after it, the pause is made only where the old device was paused.
        have hpause : ∀ {c b : Bool} {w₁ w₂ : World σ} {q : σ × Bool},
            (if c then w₁.answered undoing q else (w₁, true)) = (w₂, b) → w₂.undone = true → w₁.undone = true := by
          intro c b w₁ w₂ q hq hu₂
          cases c with
          | true => exact World.undone_of_answered hq hu₂
          | false =>
            cases hq
            exact hu₂
        split at hu
        · rename_i w'' hw'
          exact hpause hw' hu
        · rename_i w'' hw'
          exact hpause hw' (undone_of_rebind hu)
  · exact hu

theorem switchPlaybackDevice_spec (hdoc : Documented S view) (hk : k.stream ≠ none → Sits (view w.sdl) k paused)
    {q : SwitchResult σ} (hq : q = switchPlaybackDevice S undoing w k id) (hu : q.world.undone = true) :
    Outcome undoing (view w.sdl) (view q.world.sdl) k q.sink id paused q.status := by
  by_cases hstream : k.stream = none
  · have heq : switchPlaybackDevice S undoing w k id = ⟨w, k, .failedPrecondition "audio sink is shut down"⟩ := by
      simp [switchPlaybackDevice, hstream]
    rw [heq] at hq
    subst hq
    exact .refused rfl rfl rfl fun _ => hstream
  · obtain ⟨s, d, hs, hd, hdown, hp⟩ := hk hstream
    have hpaused : S.audioDevicePaused w.sdl d = paused := by
      rw [hdoc.paused, View.paused, hp.device]
      rfl
    simp only [switchPlaybackDevice, hdown, hs, hd, hpaused] at hq
    by_cases hid : k.physicalDeviceId = id
    · rw [if_pos hid] at hq
      subst hq
      exact .moved rfl hstream ⟨rfl, hid, ⟨s, d, hs, hd, hdown, hp⟩, View.spares_refl _ _, fun _ he => .inl he,
        fun _ he => .inl he, fun _ => Iff.rfl⟩
    · rw [if_neg hid] at hq
      cases ho : S.openAudioDevice w.sdl (playbackDevice id) with
      | mk x o =>
        simp only [ho, World.opened] at hq
        cases o with
        | none =>
          subst hq
          simp only [Option.isSome_none, Bool.or_false, Bool.and_eq_true, Bool.not_eq_true'] at hu
          exact .refused rfl rfl (hdoc.open_none _ _ _ ho) fun he => by rw [he] at hu; cases hu.2
        | some r =>
          have hx := hdoc.open_some _ _ _ _ ho
          simp only [Option.isSome_some, Bool.or_true, Bool.and_true] at hq
          cases paused with
          | false =>
            simp only [Bool.false_eq_true, if_false] at hq
            exact rebind_spec (y := ⟨x, w.undone⟩) hdoc hs hd hdown hp hx rfl hq hu
          | true =>
            cases hb : S.pauseAudioDevice x r with
            | mk y b =>
              have hy := hdoc.pause _ _ _ _ hb
              simp only [if_true, hb, World.answered] at hq
              cases b with
              | false =>
                subst hq
                simp only [Bool.or_false, Bool.and_eq_true, Bool.not_eq_true'] at hu
                refine .refused rfl rfl ?_ fun he => by rw [he] at hu; cases hu.2
                show view (S.closeAudioDevice y r) = view w.sdl
                rw [hdoc.close, hy, if_neg (by simp), hx.2]
                exact View.closeDevice_opened rfl rfl hx.1 fun t z hz hzr => hdoc.bound w.sdl t z r hz hzr hx.1
              | true =>
                simp only [Bool.or_true, Bool.and_true] at hq
                exact rebind_spec (y := ⟨y, w.undone⟩) hdoc hs hd hdown hp hx hy hq hu

/-! ## All sinks -/

/-- Each live sink plays, and the streams are distinct. -/
structure SinksSound (v : View) (ks : List SdlAudioSink) : Prop where
  sits : ∀ k ∈ ks, k.stream ≠ none → ∃ b, Sits v k b
  nodup : (ks.filterMap (·.stream)).Nodup

/-- The sink has the stream it had, on the device of its physical one, paused if it was. -/
def Stays (v u : View) (k k' : SdlAudioSink) : Prop :=
  k'.stream = k.stream ∧ (k.stream ≠ none → ∃ b, Sits v k b ∧ Sits u k' b)

/-- What holds in the middle of a switch, and at its end. -/
structure Progress (v u : View) (ks ks' : List SdlAudioSink) : Prop where
  sound : SinksSound u ks'
  stays : List.Forall₂ (Stays v u) ks ks'
  spares : v.Spares u fun t => some t ∈ ks.map (·.stream)
  opened : ∀ e, u.devices e ≠ none → v.devices e ≠ none ∨ ∃ k ∈ ks', k.logicalDeviceId = some e
  streams : ∀ t, u.streams t = none ↔ v.streams t = none

theorem sits_unique {v : View} {b b' : Bool} (h : Sits v k b) (h' : Sits v k b') : b = b' := by
  obtain ⟨s, d, hs, -, -, hp⟩ := h
  obtain ⟨s', d', hs', -, -, hp'⟩ := h'
  rw [hs] at hs'
  cases hs'
  have he := (hp.unique hp').2
  cases he
  rfl

theorem Sits.spared {A : Nat → Prop} {b : Bool} (h : Sits v k b) (hs : v.Spares u A)
    (hA : ∀ s, k.stream = some s → ¬ A s) : Sits u k b := by
  obtain ⟨s, d, hks, hd, hdown, hp⟩ := h
  exact ⟨s, d, hks, hd, hdown, hs s d _ _ (hA s hks) hp⟩

variable {a b : List SdlAudioSink}

theorem other_streams {s : Nat} (hn : ((a ++ k :: b).filterMap (·.stream)).Nodup)
    (hk : k.stream = some s) {x : SdlAudioSink} (hx : x ∈ a ∨ x ∈ b) : x.stream ≠ some s := by
  intro hxs
  rw [List.filterMap_append, List.filterMap_cons_some hk, List.nodup_append] at hn
  obtain ⟨-, hb, hab⟩ := hn
  rcases hx with hx | hx
  · exact hab s (List.mem_filterMap.mpr ⟨x, hx, hxs⟩) s List.mem_cons_self rfl
  · exact (List.nodup_cons.mp hb).1 (List.mem_filterMap.mpr ⟨x, hx, hxs⟩)

theorem SinksSound.kept {s : Nat} (h : SinksSound v (a ++ k :: b))
    (hs : k.stream = some s) (hspare : v.Spares u fun t => k.stream = some t) {x : SdlAudioSink} (hx : x ∈ a ∨ x ∈ b) {c : Bool}
    (hc : Sits v x c) : Sits u x c := by
  refine hc.spared hspare fun t ht hkt => ?_
  rw [hs] at hkt
  cases hkt
  exact other_streams h.nodup hs hx ht

/-- One sink is changed: it plays on its stream, or has none any more. -/
theorem SinksSound.replace {s : Nat} {k' : SdlAudioSink}
    (h : SinksSound v (a ++ k :: b)) (hs : k.stream = some s) (hspare : v.Spares u fun t => k.stream = some t)
    (hk' : k'.stream = none ∨ k'.stream = k.stream ∧ ∃ c, Sits u k' c) : SinksSound u (a ++ k' :: b) := by
  constructor
  · intro x hx hxs
    rcases List.mem_append.mp hx with hx | hx
    · obtain ⟨c, hc⟩ := h.sits x (List.mem_append_left _ hx) hxs
      exact ⟨c, h.kept hs hspare (.inl hx) hc⟩
    · rcases List.mem_cons.mp hx with rfl | hx
      · rcases hk' with hn | ⟨-, hc⟩
        · exact absurd hn hxs
        · exact hc
      · obtain ⟨c, hc⟩ := h.sits x (List.mem_append_right _ (List.mem_cons_of_mem _ hx)) hxs
        exact ⟨c, h.kept hs hspare (.inr hx) hc⟩
  · have hn := h.nodup
    rw [List.filterMap_append] at hn ⊢
    rcases hk' with hnone | ⟨hsame, -⟩
    · rw [List.filterMap_cons_none hnone]
      rw [List.filterMap_cons_some hs] at hn
      exact hn.sublist ((List.sublist_cons_self s _).append_left _)
    · rw [List.filterMap_cons, hsame, ← List.filterMap_cons]
      exact hn

theorem streams_of_stays {ks ks' : List SdlAudioSink} (h : List.Forall₂ (Stays v u) ks ks') :
    ks'.map (·.stream) = ks.map (·.stream) := by
  induction h with
  | nil => rfl
  | cons hx _ ih => rw [List.map_cons, List.map_cons, hx.1, ih]

theorem Progress.moved {v u u' : View} {ks a b : List SdlAudioSink} {k' : SdlAudioSink} (h : Progress v u ks (a ++ k :: b))
    (hk : Sits u k paused) (hm : Moved u u' k k' id paused) : Progress v u' ks (a ++ k' :: b) := by
  have hk' := hk
  obtain ⟨s, d, hks, hd, -, hp⟩ := hk'
  have hmem : k ∈ a ++ k :: b := List.mem_append_right _ List.mem_cons_self
  have hkept : ∀ x, x ∈ a ∨ x ∈ b → ∀ c, Sits u x c → Sits u' x c := fun x hx c hc =>
    h.sound.kept hks hm.spares hx hc
  constructor
  · exact h.sound.replace hks hm.spares (.inr ⟨hm.stream, paused, hm.sits⟩)
  · refine forall₂_replace h.stays (fun x hx => ?_) (fun x z hz hxz => ?_)
    · obtain ⟨hstream, hsit⟩ := hx
      refine ⟨hm.stream.trans hstream, fun hne => ?_⟩
      obtain ⟨c, hc, hc'⟩ := hsit hne
      refine ⟨c, hc, ?_⟩
      rw [sits_unique hc' hk]
      exact hm.sits
    · obtain ⟨hstream, hsit⟩ := hxz
      refine ⟨hstream, fun hne => ?_⟩
      obtain ⟨c, hc, hc'⟩ := hsit hne
      exact ⟨c, hc, hkept z hz c hc'⟩
  · refine h.spares.trans (hm.spares.mono fun t ht => ?_)
    rw [← streams_of_stays h.stays, ← ht]
    exact List.mem_map_of_mem hmem
  · intro e he
    rcases hm.opened e he with hopen | hnew
    · rcases h.opened e hopen with hold | ⟨x, hx, hxe⟩
      · exact .inl hold
      · right
        rcases List.mem_append.mp hx with hx | hx
        · exact ⟨x, List.mem_append_left _ hx, hxe⟩
        · rcases List.mem_cons.mp hx with rfl | hx
          · rcases hm.closed e hxe with hnew | hgone
            · exact ⟨k', List.mem_append_right _ List.mem_cons_self, hnew⟩
            · exact absurd hgone he
          · exact ⟨x, List.mem_append_right _ (List.mem_cons_of_mem _ hx), hxe⟩
    · exact .inr ⟨k', List.mem_append_right _ List.mem_cons_self, hnew⟩
  · intro t
    rw [hm.streams, h.streams]

/-- The sink at some place of the list, with its pause state where it has one. -/
theorem Progress.sits {ks a b : List SdlAudioSink} (h : Progress v u ks (a ++ k :: b)) :
    ∃ c, k.stream ≠ none → Sits u k c := by
  by_cases hk : k.stream = none
  · exact ⟨false, fun hn => absurd hk hn⟩
  · obtain ⟨c, hc⟩ := h.sound.sits k (List.mem_append_right _ List.mem_cons_self) hk
    exact ⟨c, fun _ => hc⟩

theorem undone_of_rollback {migrated : List (SdlAudioSink × Nat)} (hu : (rollback S w migrated).1.undone = true) :
    w.undone = true := by
  induction migrated generalizing w with
  | nil => exact hu
  | cons m migrated ih => exact undone_of_switch (ih hu)

variable {ks : List SdlAudioSink}

theorem rollback_spec (hdoc : Documented S view) {v : View} (migrated : List (SdlAudioSink × Nat))
    (w : World σ) (tail : List SdlAudioSink) (h : Progress v (view w.sdl) ks ((migrated.map (·.1)).reverse ++ tail))
    (hlive : ∀ m ∈ migrated, m.1.stream ≠ none) (hu : (rollback S w migrated).1.undone = true) :
    Progress v (view (rollback S w migrated).1.sdl) ks ((rollback S w migrated).2 ++ tail) ∧
    (rollback S w migrated).2.map (·.physicalDeviceId) = (migrated.map (·.2)).reverse := by
  induction migrated generalizing w tail with
  | nil => exact ⟨h, rfl⟩
  | cons m migrated ih =>
    obtain ⟨k, previous⟩ := m
    have hlist : ((((k, previous) :: migrated).map (·.1)).reverse ++ tail) = (migrated.map (·.1)).reverse ++ k :: tail := by
      simp
    rw [hlist] at h
    obtain ⟨c, hc⟩ := h.sits
    generalize hq : switchPlaybackDevice S true w k previous = q
    simp only [rollback, hq] at hu ⊢
    have hk := hlive _ List.mem_cons_self
    have hqu : q.world.undone = true := undone_of_rollback hu
    have ho := switchPlaybackDevice_spec hdoc hc hq.symm hqu
    cases ho with
    | refused _ _ _ hnone => exact absurd (hnone rfl) hk
    | moved _ _ hm =>
      obtain ⟨hp, hprevious⟩ := ih q.world (q.sink :: tail) (h.moved (hc hk) hm)
        (fun m hm => hlive m (List.mem_cons_of_mem _ hm)) hu
      rw [List.append_assoc, List.singleton_append]
      refine ⟨hp, ?_⟩
      simp [hprevious, hm.physical]

theorem undone_of_migrate {migrated : List (SdlAudioSink × Nat)}
    (hu : (migrate S id w migrated ks).1.undone = true) : w.undone = true := by
  induction ks generalizing w migrated with
  | nil => exact hu
  | cons k rest ih =>
    simp only [migrate] at hu
    split at hu
    · exact undone_of_switch (ih hu)
    · exact undone_of_switch (undone_of_rollback hu)

/-- The loop ends with every sink on the requested device, or with every sink where it came from. -/
theorem migrate_spec (hdoc : Documented S view) {v : View} (rest : List SdlAudioSink) (w : World σ)
    (migrated : List (SdlAudioSink × Nat)) (h : Progress v (view w.sdl) ks ((migrated.map (·.1)).reverse ++ rest))
    (hm : ∀ m ∈ migrated, m.1.stream ≠ none ∧ m.1.physicalDeviceId = id)
    (hold : (migrated.map (·.2)).reverse ++ rest.map (·.physicalDeviceId) = ks.map (·.physicalDeviceId))
    (hu : (migrate S id w migrated rest).1.undone = true) :
    Progress v (view (migrate S id w migrated rest).1.sdl) ks (migrate S id w migrated rest).2.1 ∧
    if (migrate S id w migrated rest).2.2.ok then ∀ k ∈ (migrate S id w migrated rest).2.1, k.physicalDeviceId = id
    else (migrate S id w migrated rest).2.1.map (·.physicalDeviceId) = ks.map (·.physicalDeviceId) := by
  induction rest generalizing w migrated with
  | nil =>
    simp only [migrate, List.append_nil] at h hu ⊢
    refine ⟨h, fun k hk => ?_⟩
    obtain ⟨m, hmem, rfl⟩ := List.mem_map.mp (List.mem_reverse.mp hk)
    exact (hm m hmem).2
  | cons k rest ih =>
    obtain ⟨c, hc⟩ := h.sits
    generalize hq : switchPlaybackDevice S false w k id = q
    simp only [migrate, hq] at hu ⊢
    by_cases hok : q.status.ok = true
    · rw [if_pos hok] at hu ⊢
      have ho := switchPlaybackDevice_spec hdoc hc hq.symm (undone_of_migrate hu)
      cases ho with
      | refused hno => rw [hok] at hno; cases hno
      | moved _ hk hmoved =>
        refine ih q.world ((q.sink, k.physicalDeviceId) :: migrated) ?_ (fun m hmem => ?_) ?_ hu
        · simpa using h.moved (hc hk) hmoved
        · rcases List.mem_cons.mp hmem with rfl | hmem
          · exact ⟨by rw [hmoved.stream]; exact hk, hmoved.physical⟩
          · exact hm m hmem
        · simpa using hold
    · rw [if_neg hok] at hu ⊢
      have hqu : q.world.undone = true := undone_of_rollback hu
      have ho := switchPlaybackDevice_spec hdoc hc hq.symm hqu
      cases ho with
      | moved hyes => exact absurd hyes hok
      | refused _ hk hv =>
        rw [hk]
        rw [← hv] at h
        obtain ⟨hp, hprevious⟩ := rollback_spec hdoc migrated q.world (k :: rest) h (fun m hmem => (hm m hmem).1) hu
        refine ⟨hp, ?_⟩
        rw [if_neg hok, List.map_append, hprevious]
        exact hold

/-- What a switch owes to the sinks and the configured device: all of it, or nothing. -/
structure PlaybackSwitched (v u : View) (p p' : Playback) (id : Nat) (result : Except Status Text) : Prop where
  progress : Progress v u p.liveSinks p'.liveSinks
  done : ∀ name, result = .ok name → p'.configuredPlaybackDeviceId = id ∧ p'.configuredPlaybackDeviceName = name ∧
    ∀ k ∈ p'.liveSinks, k.physicalDeviceId = id
  undone : ∀ status, result = .error status → p'.configuredPlaybackDeviceId = p.configuredPlaybackDeviceId ∧
    p'.configuredPlaybackDeviceName = p.configuredPlaybackDeviceName ∧
    p'.liveSinks.map (·.physicalDeviceId) = p.liveSinks.map (·.physicalDeviceId)

theorem progress_refl {v : View} (h : SinksSound v ks) : Progress v v ks ks := by
  refine ⟨h, ?_, View.spares_refl v _, fun _ he => .inl he, fun _ => Iff.rfl⟩
  refine List.forall₂_same.mpr fun k hk => ⟨rfl, fun hs => ?_⟩
  obtain ⟨b, hb⟩ := h.sits k hk hs
  exact ⟨b, hb, hb⟩

variable {p : Playback}

theorem switchSdlPlaybackDevice_spec (hdoc : Documented S view) (h : SinksSound (view w.sdl) p.liveSinks)
    {r : World σ × Playback × Except Status Text} (hr : r = switchSdlPlaybackDevice S w p id) (hu : r.1.undone = true) :
    PlaybackSwitched (view w.sdl) (view r.1.sdl) p r.2.1 id r.2.2 := by
  have hstill : ∀ status, PlaybackSwitched (view w.sdl) (view w.sdl) p p id (.error status) := fun status =>
    ⟨progress_refl h, nofun, fun _ _ => ⟨rfl, rfl, rfl⟩⟩
  unfold switchSdlPlaybackDevice at hr
  cases ht : playbackTarget S w.sdl p id with
  | error status =>
    simp only [ht] at hr
    subst hr
    exact hstill status
  | ok name =>
    simp only [ht] at hr
    by_cases hi : p.initialized = false
    · rw [if_pos hi] at hr
      subst hr
      exact hstill _
    · rw [if_neg hi] at hr
      by_cases hok : (migrate S id w [] p.liveSinks).2.2.ok = true
      · rw [if_pos hok] at hr
        subst hr
        obtain ⟨hp, hall⟩ := migrate_spec hdoc p.liveSinks w [] (progress_refl h) nofun rfl hu
        rw [if_pos hok] at hall
        refine ⟨hp, fun name' hn => ?_, nofun⟩
        cases hn
        exact ⟨rfl, rfl, hall⟩
      · rw [if_neg hok] at hr
        subst hr
        obtain ⟨hp, hall⟩ := migrate_spec hdoc p.liveSinks w [] (progress_refl h) nofun rfl hu
        rw [if_neg hok] at hall
        exact ⟨hp, nofun, fun _ _ => ⟨rfl, rfl, hall⟩⟩

theorem undone_of_switchPlayback (hu : (switchSdlPlaybackDevice S w p id).1.undone = true) : w.undone = true := by
  simp only [switchSdlPlaybackDevice] at hu
  split at hu
  · exact hu
  · split at hu
    · exact hu
    · split at hu
      · exact undone_of_migrate hu
      · exact undone_of_migrate hu

/-! ## The other calls -/

theorem createSdlAudioSink_undone (p : Playback) (requested : Nat) (startPaused callback memory : Bool) :
    (createSdlAudioSink S w p requested startPaused callback memory).1.undone = w.undone := by
  unfold createSdlAudioSink
  split
  · rfl
  · dsimp only
    split
    · rfl
    · split
      · rfl
      · split <;> rfl

theorem pauseSink_undone (p : Playback) (index : Nat) (pause : Bool) :
    (pauseSink S w p index pause).undone = w.undone := by
  unfold pauseSink
  split
  · rfl
  · split <;> rfl

theorem closeSink_undone (p : Playback) (index : Nat) : (closeSink S w p index).1.undone = w.undone := by
  unfold closeSink
  split
  · rfl
  · split <;> rfl

/-- The sinks are sound afterwards, and what played on other streams plays on. -/
structure SinksKept (v u : View) (ks ks' : List SdlAudioSink) : Prop where
  sound : SinksSound u ks'
  spares : v.Spares u fun t => some t ∈ ks.map (·.stream)

theorem SinksSound.spared (h : SinksSound v ks) (hs : v.Spares u fun _ => False) :
    SinksSound u ks := by
  refine ⟨fun k hk hne => ?_, h.nodup⟩
  obtain ⟨b, hb⟩ := h.sits k hk hne
  exact ⟨b, hb.spared hs fun _ _ => id⟩

theorem SinksSound.kept_all (h : SinksSound v ks) (hs : v.Spares u fun _ => False) :
    SinksKept v u ks ks := ⟨h.spared hs, hs.mono fun _ hf => hf.elim⟩

/-- A sink that was opened is added. -/
theorem SinksSound.added (h : SinksSound v ks) (hs : v.Spares u fun _ => False) {s : Nat}
    (hk : k.stream = some s) (hnew : v.streams s = none) (hc : Sits u k paused) : SinksKept v u ks (ks ++ [k]) := by
  refine ⟨⟨fun x hx hne => ?_, ?_⟩, hs.mono fun _ hf => hf.elim⟩
  · rcases List.mem_append.mp hx with hx | hx
    · exact (h.spared hs).sits x hx hne
    · rw [List.mem_singleton.mp hx]
      exact ⟨paused, hc⟩
  · rw [List.filterMap_append, List.nodup_append]
    refine ⟨h.nodup, by simp [hk], fun t ht t' ht' he => ?_⟩
    have ht' : t' = s := by simpa [hk] using ht'
    obtain ⟨x, hx, hxt⟩ := List.mem_filterMap.mp ht
    obtain ⟨c, s', d', hs', -, -, hp⟩ := h.sits x hx (by rw [hxt]; simp)
    rw [hxt, he, ht'] at hs'
    cases hs'
    have hstream := hp.stream
    rw [hnew] at hstream
    cases hstream

/-- The stream and the device of a sink that is given up go, and nothing else. -/
theorem spares_giveUp {v : View} {s d : Nat} {b : Option Nat} (hs : v.streams s = some ⟨b, false⟩)
    (hd : v.Free d fun t => t = s) : v.Spares ((v.destroyStream s).closeDevice d) fun t => t = s := by
  rw [View.destroyStream_bound hs]
  have hdelete : v.Spares (v.deleteStream s) fun t => t = s := View.spares_deleteStream rfl
  exact hdelete.trans (View.spares_closeDevice hd.deleteStream.plays)

theorem spares_shutdownSink (hdoc : Documented S view) {s d : Nat} {y : Device}
    (hp : (view x).Plays s d y false) : (view x).Spares (view (shutdownSink S x s d)) fun t => t = s := by
  obtain ⟨hplays, hsp⟩ := paused_stream (hdoc.pauseStream x s _ _ rfl) hp
  rw [shutdownSink, hdoc.close, hdoc.destroy]
  exact hsp.trans (spares_giveUp hplays.stream hplays.free)

theorem attachSink_spec (hdoc : Documented S view) {v : View} {d : Nat} (hsp : v.Spares (view x) fun _ => False)
    (hfree : (view x).Free d fun _ => False) (hstreams : (view x).streams = v.streams)
    (hdev : (view x).devices d = some ⟨playbackDevice id, paused⟩) {callback memory : Bool} {r : σ × Except Status SdlAudioSink}
    (hr : r = attachSink S x d id callback memory) :
    v.Spares (view r.1) (fun _ => False) ∧
    ∀ k, r.2 = .ok k → Sits (view r.1) k paused ∧ ∃ s, k.stream = some s ∧ v.streams s = none := by
  unfold attachSink at hr
  cases hc : S.createAudioStream x with
  | mk x₁ o =>
    simp only [hc] at hr
    cases o with
    | none =>
      subst hr
      refine ⟨?_, nofun⟩
      simp only [hdoc.close, hdoc.create_none _ _ hc]
      exact hsp.trans (View.spares_closeDevice hfree.plays)
    | some s =>
      obtain ⟨hnew, hx₁⟩ := hdoc.create_some _ _ _ hc
      have hsp₁ : v.Spares (view x₁) fun t => t = s := by
        rw [hx₁]
        exact (hsp.mono fun _ hf => hf.elim).trans (View.spares_createStream hnew)
      have hfree₁ : (view x₁).Free d fun t => t = s := by
        rw [hx₁]
        exact fun t y hy hyd => (hfree.createStream t y hy hyd).elim
      have hs₁ : (view x₁).streams s = some ⟨none, false⟩ := by
        rw [hx₁, View.createStream_streams, upd_same]
      have hnew : v.streams s = none := by rw [← hstreams]; exact hnew
      simp only at hr
      cases hb : S.bindAudioStream x₁ d s with
      | mk x₂ b =>
        have hx₂ := hdoc.bind _ _ _ _ _ hb
        simp only [hb] at hr
        cases b with
        | false =>
          subst hr
          refine ⟨?_, nofun⟩
          rw [if_neg (by simp)] at hx₂
          simp only [hdoc.close, hdoc.destroy, hx₂]
          exact (hsp₁.trans (spares_giveUp hs₁ hfree₁)).fresh hnew
        | true =>
          rw [if_pos rfl] at hx₂
          have hs₂ : (view x₂).streams s = some ⟨some d, false⟩ := by
            rw [hx₂, View.bind_streams, upd_same, hs₁]
            rfl
          have hfree₂ : (view x₂).Free d fun t => t = s := by
            rw [hx₂]
            exact hfree₁.bind rfl _
          have hsp₂ : v.Spares (view x₂) fun t => t = s := by
            rw [hx₂]
            refine hsp₁.trans (View.spares_bind _ (fun e he t y owns hp => ?_) rfl)
            cases he
            exact hfree₁.plays t y owns hp
          have hplays : (view x₂).Plays s d ⟨playbackDevice id, paused⟩ false := by
            refine ⟨hs₂, ?_, hfree₂⟩
            rw [hx₂, hx₁]
            exact hdev
          simp only at hr
          by_cases hmem : memory = false
          · rw [if_pos hmem] at hr
            subst hr
            refine ⟨?_, nofun⟩
            simp only [hdoc.close, hdoc.destroy]
            exact (hsp₂.trans (spares_giveUp hs₂ hfree₂)).fresh hnew
          · rw [if_neg hmem] at hr
            cases hcb : (if callback then S.setAudioStreamGetCallback x₂ s else (x₂, true)) with
            | mk x₃ b =>
              have hx₃ : view x₃ = view x₂ := by
                cases callback with
                | true =>
                  simp only [if_true] at hcb
                  have hview := hdoc.getCallback x₂ s
                  rw [hcb] at hview
                  exact hview
                | false =>
                  simp only [Bool.false_eq_true, if_false] at hcb
                  cases hcb
                  rfl
              simp only [hcb] at hr
              cases b with
              | true =>
                subst hr
                refine ⟨by rw [hx₃]; exact hsp₂.fresh hnew, fun k hk => ?_⟩
                cases hk
                exact ⟨⟨s, d, rfl, rfl, rfl, by rw [hx₃]; exact hplays⟩, s, rfl, hnew⟩
              | false =>
                subst hr
                refine ⟨?_, nofun⟩
                rw [← hx₃] at hplays hsp₂
                exact (hsp₂.trans (spares_shutdownSink hdoc hplays)).fresh hnew

theorem createSdlAudioSink_kept (hdoc : Documented S view) (h : SinksSound (view w.sdl) p.liveSinks)
    {requested : Nat} {startPaused callback memory : Bool} {r : World σ × Playback × Status}
    (hr : r = createSdlAudioSink S w p requested startPaused callback memory) :
    SinksKept (view w.sdl) (view r.1.sdl) p.liveSinks r.2.1.liveSinks := by
  unfold createSdlAudioSink at hr
  by_cases hi : p.initialized = false
  · rw [if_pos hi] at hr
    subst hr
    exact h.kept_all (View.spares_refl _ _)
  · rw [if_neg hi] at hr
    generalize (if requested = 0 then p.configuredPlaybackDeviceId else requested) = id at hr
    simp only at hr
    cases ho : S.openAudioDevice w.sdl (playbackDevice id) with
    | mk x o =>
      simp only [ho] at hr
      cases o with
      | none =>
        subst hr
        have hv := hdoc.open_none _ _ _ ho
        exact h.kept_all (by rw [hv]; exact View.spares_refl _ _)
      | some d =>
        obtain ⟨hnone, hx⟩ := hdoc.open_some _ _ _ _ ho
        have hsp : (view w.sdl).Spares (view x) fun _ => False := by
          rw [hx]
          exact View.spares_openDevice hnone _
        have hstreams : (view x).streams = (view w.sdl).streams := by rw [hx]; rfl
        have hfree : (view x).Free d fun _ => False := fun t y hy hyd =>
          hdoc.bound w.sdl t y d (by rw [← hstreams]; exact hy) hyd hnone
        have hdev : (view x).devices d = some ⟨playbackDevice id, false⟩ := by rw [hx]; exact upd_same _ _ _
        -- The device in the pause state that was asked for.
        have hpause : ∀ y b, (if startPaused then S.pauseAudioDevice x d else (x, true)) = (y, b) →
            (view w.sdl).Spares (view y) (fun _ => False) ∧ (view y).Free d (fun _ => False) ∧
            (view y).streams = (view w.sdl).streams ∧
            (b = true → (view y).devices d = some ⟨playbackDevice id, startPaused⟩) := by
          intro y b hy
          cases startPaused with
          | false =>
            cases hy
            exact ⟨hsp, hfree, hstreams, fun _ => hdev⟩
          | true =>
            have hv := hdoc.pause _ _ _ _ hy
            cases b with
            | false =>
              rw [if_neg (by simp)] at hv
              rw [hv]
              exact ⟨hsp, hfree, hstreams, nofun⟩
            | true =>
              rw [if_pos rfl] at hv
              rw [hv]
              refine ⟨hsp.trans (View.spares_setPaused true hfree.plays), hfree, hstreams, fun _ => ?_⟩
              show upd (view x).devices d _ d = _
              rw [upd_same, hdev]
              rfl
        cases hp : (if startPaused then S.pauseAudioDevice x d else (x, true)) with
        | mk y b =>
          obtain ⟨hsp, hfree, hstreams, hdev⟩ := hpause y b hp
          simp only [hp] at hr
          cases b with
          | false =>
            subst hr
            refine h.kept_all ?_
            simp only [hdoc.close]
            exact hsp.trans (View.spares_closeDevice hfree.plays)
          | true =>
            obtain ⟨hsp', hnew⟩ := attachSink_spec hdoc hsp hfree hstreams (hdev rfl)
              (rfl : attachSink S y d id callback memory = _)
            cases ha : attachSink S y d id callback memory with
            | mk z res =>
              rw [ha] at hsp' hnew
              simp only [ha] at hr
              cases res with
              | error status =>
                subst hr
                exact h.kept_all hsp'
              | ok k =>
                subst hr
                obtain ⟨hc, s, hk, hs⟩ := hnew k rfl
                exact h.added hsp' hk hs hc

theorem pauseSink_kept (hdoc : Documented S view) (h : SinksSound (view w.sdl) p.liveSinks) (index : Nat)
    (pause : Bool) : SinksKept (view w.sdl) (view (pauseSink S w p index pause).sdl) p.liveSinks p.liveSinks := by
  have hstill : SinksKept (view w.sdl) (view w.sdl) p.liveSinks p.liveSinks := h.kept_all (View.spares_refl _ _)
  unfold pauseSink
  split
  · exact hstill
  · rename_i k hk
    split
    · rename_i s hdown hs
      obtain ⟨hsplit, -⟩ := split_place hk k
      rw [hsplit] at h ⊢
      obtain ⟨c, s', d, hs', hd, -, hp⟩ := h.sits k (List.mem_append_right _ List.mem_cons_self) (by rw [hs]; simp)
      rw [hs] at hs'
      cases hs'
      -- Both calls leave the stream on its device, paused or not.
      have hcall : ∃ c',
          (view (if pause then (S.pauseAudioStreamDevice w.sdl s).1 else (S.resumeAudioStreamDevice w.sdl s).1)).Plays
            s d ⟨playbackDevice k.physicalDeviceId, c'⟩ false ∧
          (view w.sdl).Spares (view (if pause then (S.pauseAudioStreamDevice w.sdl s).1
            else (S.resumeAudioStreamDevice w.sdl s).1)) fun t => t = s := by
        cases pause with
        | true => exact ⟨_, paused_stream (hdoc.pauseStream w.sdl s _ _ rfl) hp⟩
        | false => exact ⟨_, paused_stream (hdoc.resumeStream w.sdl s _ _ rfl) hp⟩
      obtain ⟨c', hp', hsp⟩ := hcall
      have hsp' := hsp.mono (B := fun t => k.stream = some t) fun t ht => by rw [ht]; exact hs
      refine ⟨h.replace hs hsp' (.inr ⟨rfl, c', s, d, hs, hd, hdown, hp'⟩), hsp.mono fun t ht => ?_⟩
      rw [ht, ← hs]
      exact List.mem_map_of_mem (List.mem_append_right _ List.mem_cons_self)
    · exact hstill

theorem closeSink_kept (hdoc : Documented S view) (h : SinksSound (view w.sdl) p.liveSinks) (index : Nat) :
    SinksKept (view w.sdl) (view (closeSink S w p index).1.sdl) p.liveSinks (closeSink S w p index).2.liveSinks := by
  have hstill : SinksKept (view w.sdl) (view w.sdl) p.liveSinks p.liveSinks := h.kept_all (View.spares_refl _ _)
  unfold closeSink
  split
  · exact hstill
  · rename_i k hk
    split
    · rename_i s d hdown hs hd
      obtain ⟨hsplit, hset⟩ := split_place hk { k with stream := none, logicalDeviceId := none, shuttingDown := true }
      rw [hset]
      rw [hsplit] at h
      obtain ⟨c, s', d', hs', hd', -, hp⟩ := h.sits k (List.mem_append_right _ List.mem_cons_self) (by rw [hs]; simp)
      rw [hs] at hs'
      rw [hd] at hd'
      cases hs'
      cases hd'
      have hsp := spares_shutdownSink hdoc hp
      have hsp' := hsp.mono (B := fun t => k.stream = some t) fun t ht => by rw [ht]; exact hs
      refine ⟨h.replace hs hsp' (.inl rfl), hsp.mono fun t ht => ?_⟩
      rw [ht, ← hs, hsplit]
      exact List.mem_map_of_mem (List.mem_append_right _ List.mem_cons_self)
    · exact hstill

theorem releaseSink_sound {v : View} (h : SinksSound v p.liveSinks) (index : Nat) :
    SinksSound v (releaseSink p index).liveSinks := by
  unfold releaseSink
  split
  · exact h
  · split
    · have hsub := List.eraseIdx_sublist p.liveSinks index
      exact ⟨fun k hk => h.sits k (hsub.subset hk), h.nodup.sublist (hsub.filterMap _)⟩
    · exact h

end Mocktail.Audio
