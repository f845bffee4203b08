/-
  Mocktail.Audio.DeviceSwitches — a switch of the playback or the recording device is made for
  all live streams or for none.

  The sinks and the captures share SDL. Every call on one side spares the streams of the other,
  so in every run of calls both sides stay sound (`run_sound`), and what the two sides prove of
  one switch from a sound state holds of every switch in the run. `Scripted` is an SDL whose calls
  answer as a list of answers says.
-/

import Mocktail.Audio.PlaybackDevices
import Mocktail.Audio.RecordingDevices

namespace Mocktail.Audio

open Mocktail.Lib
open Mocktail.Launch (Text ascii)

/-! ## Runs -/

structure AudioDevices (σ : Type) where
  world : World σ
  playback : Playback
  recording : Recording

inductive DeviceCall where
  | createSink (requested : Nat) (startPaused callback memory : Bool)
  | pauseSink (index : Nat) (pause : Bool)
  | closeSink (index : Nat)
  | releaseSink (index : Nat)
  | switchPlayback (id : Nat)
  | createCapture (requested : Nat) (memory : Bool)
  | startCapture (index : Nat)
  | stopCapture (index : Nat)
  | closeCapture (index : Nat)
  | switchRecording (id : Nat)
  deriving DecidableEq, Repr

variable {σ : Type} (S : SdlAudio σ)

namespace AudioDevices

def call (st : AudioDevices σ) : DeviceCall → AudioDevices σ
  | .createSink requested startPaused callback memory =>
    let (w, p, _) := createSdlAudioSink S st.world st.playback requested startPaused callback memory
    { st with world := w, playback := p }
  | .pauseSink index pause => { st with world := pauseSink S st.world st.playback index pause }
  | .closeSink index =>
    let (w, p) := closeSink S st.world st.playback index
    { st with world := w, playback := p }
  | .releaseSink index => { st with playback := releaseSink st.playback index }
  | .switchPlayback id =>
    let (w, p, _) := switchSdlPlaybackDevice S st.world st.playback id
    { st with world := w, playback := p }
  | .createCapture requested memory =>
    let (w, p, _) := createSdlAudioCapture S st.world st.recording requested memory
    { st with world := w, recording := p }
  | .startCapture index =>
    let (w, p) := startCapture S st.world st.recording index
    { st with world := w, recording := p }
  | .stopCapture index =>
    let (w, p) := stopCapture S st.world st.recording index
    { st with world := w, recording := p }
  | .closeCapture index =>
    let (w, p) := closeCapture S st.world st.recording index
    { st with world := w, recording := p }
  | .switchRecording id =>
    let (w, p, _) := switchSdlRecordingDevice S st.world st.recording id
    { st with world := w, recording := p }

def run (st : AudioDevices σ) (calls : List DeviceCall) : AudioDevices σ := calls.foldl (call S) st

structure Sound (view : σ → View) (st : AudioDevices σ) : Prop where
  sinks : SinksSound (view st.world.sdl) st.playback.liveSinks
  captures : CapturesSound (view st.world.sdl) st.recording.liveCaptures

end AudioDevices

variable {S} {view : σ → View} {v u : View} {ks ks' : List SdlAudioSink} {cs cs' : List SdlAudioCapture}

theorem stream_apart (hk : SinksSound v ks) (hc : CapturesSound v cs) {c : SdlAudioCapture} (hmem : c ∈ cs) :
    some c.stream ∉ ks.map (·.stream) := by
  intro hs
  obtain ⟨k, hkm, hks⟩ := List.mem_map.mp hs
  obtain ⟨b, s, d, hs, -, -, hp⟩ := hk.sits k hkm (by rw [hks]; simp)
  obtain ⟨-, d', x, hx, -⟩ := hc.plays c hmem
  rw [hks] at hs
  cases hs
  have hboth := hp.stream.symm.trans hx.stream
  cases hboth

theorem captures_spared (hk : SinksSound v ks) (hc : CapturesSound v cs) (hs : v.Spares u fun t => some t ∈ ks.map (·.stream)) :
    CapturesSound u cs := by
  refine ⟨fun c hmem => ?_, hc.nodup⟩
  obtain ⟨hnone, d, x, hx, hrun⟩ := hc.plays c hmem
  exact ⟨hnone, d, x, hs _ _ _ _ (stream_apart hk hc hmem) hx, hrun⟩

theorem sinks_spared (hk : SinksSound v ks) (hc : CapturesSound v cs) (hs : v.Spares u fun t => t ∈ cs.map (·.stream)) :
    SinksSound u ks := by
  refine ⟨fun k hmem hne => ?_, hk.nodup⟩
  obtain ⟨b, hb⟩ := hk.sits k hmem hne
  refine ⟨b, hb.spared hs fun s hks ht => ?_⟩
  obtain ⟨c, hcm, hcs⟩ := List.mem_map.mp ht
  refine stream_apart hk hc hcm ?_
  rw [hcs, ← hks]
  exact List.mem_map_of_mem hmem

/-! ## What a run keeps -/

theorem undone_of_call {st : AudioDevices σ} {a : DeviceCall} (hu : (st.call S a).world.undone = true) :
    st.world.undone = true := by
  cases a with
  | createSink requested startPaused callback memory =>
    rw [← createSdlAudioSink_undone (S := S) st.playback requested startPaused callback memory]
    exact hu
  | pauseSink index pause =>
    rw [← pauseSink_undone (S := S) st.playback index pause]
    exact hu
  | closeSink index =>
    rw [← closeSink_undone (S := S) st.playback index]
    exact hu
  | releaseSink index => exact hu
  | switchPlayback id => exact undone_of_switchPlayback hu
  | createCapture requested memory =>
    rw [← createSdlAudioCapture_undone (S := S) st.recording requested memory]
    exact hu
  | startCapture index =>
    rw [← startCapture_undone (S := S) st.recording index]
    exact hu
  | stopCapture index =>
    rw [← stopCapture_undone (S := S) st.recording index]
    exact hu
  | closeCapture index =>
    rw [← closeCapture_undone (S := S) st.recording index]
    exact hu
  | switchRecording id => exact undone_of_switchRecording hu

theorem call_sound (hdoc : Documented S view) {st : AudioDevices σ} (h : st.Sound view) {a : DeviceCall}
    (hu : (st.call S a).world.undone = true) : (st.call S a).Sound view := by
  obtain ⟨hk, hc⟩ := h
  have hsinks : ∀ {u ks'}, SinksKept (view st.world.sdl) u st.playback.liveSinks ks' →
      SinksSound u ks' ∧ CapturesSound u st.recording.liveCaptures :=
    fun hkept => ⟨hkept.sound, captures_spared hk hc hkept.spares⟩
  have hcaptures : ∀ {u cs'}, CapturesKept (view st.world.sdl) u st.recording.liveCaptures cs' →
      SinksSound u st.playback.liveSinks ∧ CapturesSound u cs' :=
    fun hkept => ⟨sinks_spared hk hc hkept.spares, hkept.sound⟩
  cases a with
  | createSink requested startPaused callback memory =>
    obtain ⟨hk', hc'⟩ :=
      hsinks (createSdlAudioSink_kept hdoc hk (rfl : createSdlAudioSink S _ _ requested startPaused callback memory = _))
    exact ⟨hk', hc'⟩
  | pauseSink index pause =>
    obtain ⟨hk', hc'⟩ := hsinks (pauseSink_kept hdoc hk index pause)
    exact ⟨hk', hc'⟩
  | closeSink index =>
    obtain ⟨hk', hc'⟩ := hsinks (closeSink_kept hdoc hk index)
    exact ⟨hk', hc'⟩
  | releaseSink index => exact ⟨releaseSink_sound hk index, hc⟩
  | switchPlayback id =>
    have hswitch := switchSdlPlaybackDevice_spec hdoc hk (rfl : switchSdlPlaybackDevice S _ _ id = _) hu
    exact ⟨hswitch.progress.sound, captures_spared hk hc hswitch.progress.spares⟩
  | createCapture requested memory =>
    obtain ⟨hk', hc'⟩ := hcaptures (createSdlAudioCapture_kept hdoc hc (rfl : createSdlAudioCapture S _ _ requested memory = _))
    exact ⟨hk', hc'⟩
  | startCapture index =>
    obtain ⟨hk', hc'⟩ := hcaptures (startCapture_kept hdoc hc index)
    exact ⟨hk', hc'⟩
  | stopCapture index =>
    obtain ⟨hk', hc'⟩ := hcaptures (stopCapture_kept hdoc hc index)
    exact ⟨hk', hc'⟩
  | closeCapture index =>
    obtain ⟨hk', hc'⟩ := hcaptures (closeCapture_kept hdoc hc index)
    exact ⟨hk', hc'⟩
  | switchRecording id =>
    have hswitch := switchSdlRecordingDevice_spec hdoc hc (rfl : switchSdlRecordingDevice S _ _ id = _) hu
    exact ⟨sinks_spared hk hc hswitch.spares, hswitch.sound⟩

theorem run_sound (hdoc : Documented S view) {st : AudioDevices σ} (h : st.Sound view) (calls : List DeviceCall)
    (hu : (st.run S calls).world.undone = true) : (st.run S calls).Sound view := by
  induction calls using List.reverseRecOn with
  | nil => exact h
  | append_singleton calls a ih =>
    simp only [AudioDevices.run, List.foldl_append, List.foldl_cons, List.foldl_nil] at hu ⊢
    exact call_sound hdoc (ih (undone_of_call hu)) hu

theorem sound_start {w : World σ} {p : Playback} {r : Recording} (hp : p.liveSinks = []) (hr : r.liveCaptures = []) :
    (⟨w, p, r⟩ : AudioDevices σ).Sound view := by
  refine ⟨?_, ?_⟩
  · rw [show (⟨w, p, r⟩ : AudioDevices σ).playback.liveSinks = [] from hp]
    exact ⟨nofun, List.nodup_nil⟩
  · rw [show (⟨w, p, r⟩ : AudioDevices σ).recording.liveCaptures = [] from hr]
    exact ⟨nofun, List.nodup_nil⟩

/-- After any calls, a switch in which everything it undoes can be undone is made for all live streams or for none. -/
theorem device_switches_all_or_nothing (hdoc : Documented S view) (x : σ) (p : Playback) (r : Recording) (hp : p.liveSinks = [])
    (hr : r.liveCaptures = []) (calls : List DeviceCall) (id : Nat) :
    let st := AudioDevices.run S ⟨⟨x, true⟩, p, r⟩ calls
    let played := switchSdlPlaybackDevice S st.world st.playback id
    let recorded := switchSdlRecordingDevice S st.world st.recording id
    (played.1.undone = true →
      PlaybackSwitched (view st.world.sdl) (view played.1.sdl) st.playback played.2.1 id played.2.2) ∧
    (recorded.1.undone = true →
      RecordingSwitched (view st.world.sdl) (view recorded.1.sdl) st.recording recorded.2.1 id recorded.2.2) := by
  intro st played recorded
  have hsound : st.world.undone = true → st.Sound view := run_sound hdoc (sound_start hp hr) calls
  refine ⟨fun hu => ?_, fun hu => ?_⟩
  · exact switchSdlPlaybackDevice_spec hdoc (hsound (undone_of_switchPlayback hu)).sinks rfl hu
  · exact switchSdlRecordingDevice_spec hdoc (hsound (undone_of_switchRecording hu)).captures rfl hu

/-! ## An SDL with scripted answers -/

/-- A stream is bound to an open device only, and the numbers from `next` on are not given out yet. -/
structure Wired (v : View) (next : Nat) : Prop where
  bound : ∀ s y d, v.streams s = some y → y.device = some d → v.devices d ≠ none
  fresh : ∀ n, next ≤ n → v.devices n = none ∧ v.streams n = none

structure Scripted where
  view : View
  next : Nat
  /-- Whether each of the calls to come that can fail succeeds; all after the last one do. -/
  answers : List Bool
  wired : Wired view next

namespace Wired

variable {n s d : Nat}

theorem later (h : Wired v n) : Wired v (n + 1) := ⟨h.bound, fun m hm => h.fresh m (by omega)⟩

theorem openNext (h : Wired v n) (x : Device) : Wired { v with devices := upd v.devices n (some x) } (n + 1) := by
  refine ⟨fun s y e hs he => ?_, fun m hm => ⟨(upd_ne _ _ (by omega)).trans (h.fresh m (by omega)).1, (h.fresh m (by omega)).2⟩⟩
  show upd v.devices n _ e ≠ none
  by_cases hen : e = n
  · rw [hen, upd_same]
    simp
  · rw [upd_ne _ _ hen]
    exact h.bound s y e hs he

theorem setPaused (h : Wired v n) (d : Nat) (b : Bool) : Wired (v.setPaused d b) n := by
  have hnone : ∀ e, (v.setPaused d b).devices e = none ↔ v.devices e = none := by
    intro e
    show upd v.devices d _ e = none ↔ _
    by_cases he : e = d
    · rw [he, upd_same, Option.map_eq_none_iff]
    · rw [upd_ne _ _ he]
  exact ⟨fun s y e hs he hd => h.bound s y e hs he ((hnone e).mp hd),
    fun m hm => ⟨(hnone m).mpr (h.fresh m hm).1, (h.fresh m hm).2⟩⟩

theorem closeDevice (h : Wired v n) (d : Nat) : Wired (v.closeDevice d) n := by
  refine ⟨fun s y e hs he => ?_, fun m hm => ⟨?_, closeDevice_streams_none.mpr (h.fresh m hm).2⟩⟩
  · obtain ⟨z, hz, hzy⟩ := Option.map_eq_some_iff.mp hs
    by_cases hzd : z.device = some d
    · rw [if_pos hzd] at hzy
      rw [← hzy] at he
      cases he
    · rw [if_neg hzd] at hzy
      rw [← hzy] at he
      have hed : e ≠ d := fun hed => hzd (by rw [he, hed])
      show upd v.devices d none e ≠ none
      rw [upd_ne _ _ hed]
      exact h.bound s z e hz he
  · show upd v.devices d none m = none
    by_cases hmd : m = d
    · rw [hmd, upd_same]
    · rw [upd_ne _ _ hmd]
      exact (h.fresh m hm).1

/-- A stream is changed: it is gone, or bound to an open device, or to none. -/
theorem setStream (h : Wired v n) {x : Option Stream} (hx : ∀ y d, x = some y → y.device = some d → v.devices d ≠ none)
    (hs : n ≤ s → x = none) : Wired { v with streams := upd v.streams s x } n := by
  refine ⟨fun t y e ht he => ?_, fun m hm => ⟨(h.fresh m hm).1, ?_⟩⟩
  · by_cases hts : t = s
    · rw [hts] at ht
      exact hx y e ((upd_same _ _ _).symm.trans ht) he
    · exact h.bound t y e ((upd_ne _ _ hts).symm.trans ht) he
  · show upd v.streams s x m = none
    by_cases hms : m = s
    · rw [hms, upd_same]
      exact hs (by omega)
    · rw [upd_ne _ _ hms]
      exact (h.fresh m hm).2

theorem createStream (h : Wired v n) : Wired (v.createStream n) (n + 1) :=
  h.later.setStream (fun y d hy hd => by cases hy; cases hd) (by omega)

theorem bind (h : Wired v n) (s : Nat) {b : Option Nat} (hb : ∀ d, b = some d → v.devices d ≠ none) : Wired (v.bind s b) n := by
  refine h.setStream (fun y d hy hd => ?_) fun hs => ?_
  · obtain ⟨z, -, rfl⟩ := Option.map_eq_some_iff.mp hy
    exact hb d hd
  · rw [(h.fresh s hs).2]
    rfl

theorem deleteStream (h : Wired v n) (s : Nat) : Wired (v.deleteStream s) n := h.setStream nofun fun _ => rfl

theorem destroyStream (h : Wired v n) (s : Nat) : Wired (v.destroyStream s) n := by
  unfold View.destroyStream
  split
  · exact (h.deleteStream s).closeDevice _
  · exact h.deleteStream s

theorem openDeviceStream (h : Wired v n) (p : Nat) : Wired (v.openDeviceStream n p n) (n + 1) := by
  exact (h.openNext ⟨p, true⟩).setStream (fun y d hy hd => by cases hy; cases hd; simp) (by omega)

theorem setStreamPaused (h : Wired v n) (s : Nat) (b : Bool) : Wired (v.setStreamPaused s b) n := by
  unfold View.setStreamPaused
  split
  · exact h.setPaused _ b
  · exact h

end Wired

namespace Scripted

/-- The next answer. -/
def yes (x : Scripted) : Bool := x.answers.headD true

/-- The script after the next answer, with what the call makes of the view. -/
def turn (x : Scripted) (v : View) (next : Nat) (h : Wired v next) : Scripted := ⟨v, next, x.answers.tail, h⟩

def start (answers : List Bool) : Scripted := ⟨⟨fun _ => none, fun _ => none⟩, 1, answers, nofun, fun _ _ => ⟨rfl, rfl⟩⟩

def rest (x : Scripted) : Scripted := x.turn x.view x.next x.wired

def openAudioDevice (x : Scripted) (p : Nat) : Scripted × Option Nat :=
  if x.yes then (x.turn (x.view.openDevice x.next p) (x.next + 1) (x.wired.openNext _), some x.next) else (x.rest, none)

def createAudioStream (x : Scripted) : Scripted × Option Nat :=
  if x.yes then (x.turn (x.view.createStream x.next) (x.next + 1) x.wired.createStream, some x.next) else (x.rest, none)

def openAudioDeviceStream (x : Scripted) (p : Nat) : Scripted × Option Nat :=
  if x.yes then
    (x.turn (x.view.openDeviceStream x.next p x.next) (x.next + 1) (x.wired.openDeviceStream p), some x.next)
  else (x.rest, none)

/-- A stream cannot be bound to a device that is not open. -/
def bindAudioStream (x : Scripted) (d s : Nat) : Scripted × Bool :=
  if h : x.yes = true ∧ x.view.devices d ≠ none then
    (x.turn (x.view.bind s (some d)) x.next (x.wired.bind s fun e he hn => h.2 (by cases he; exact hn)), true)
  else (x.rest, false)

def pauseAudioDevice (x : Scripted) (d : Nat) : Scripted × Bool :=
  if x.yes then (x.turn (x.view.setPaused d true) x.next (x.wired.setPaused d true), true) else (x.rest, false)

def setStreamPaused (paused : Bool) (x : Scripted) (s : Nat) : Scripted × Bool :=
  if x.yes then (x.turn (x.view.setStreamPaused s paused) x.next (x.wired.setStreamPaused s paused), true)
  else (x.rest, false)

/-- A call that does not change what a caller sees. -/
def answer (x : Scripted) (_ : Nat) : Scripted × Bool := (x.rest, x.yes)

/-- Two playback devices and no recording device but the default one. -/
def sdl : SdlAudio Scripted where
  openAudioDevice := openAudioDevice
  audioDevicePaused x d := x.view.paused d
  pauseAudioDevice := pauseAudioDevice
  closeAudioDevice x d := ⟨x.view.closeDevice d, x.next, x.answers, x.wired.closeDevice d⟩
  createAudioStream := createAudioStream
  setAudioStreamGetCallback := answer
  bindAudioStream := bindAudioStream
  unbindAudioStream x s := ⟨x.view.bind s none, x.next, x.answers, x.wired.bind s nofun⟩
  destroyAudioStream x s := ⟨x.view.destroyStream s, x.next, x.answers, x.wired.destroyStream s⟩
  openAudioDeviceStream := openAudioDeviceStream
  pauseAudioStreamDevice := setStreamPaused true
  resumeAudioStreamDevice := setStreamPaused false
  clearAudioStream := answer
  lockAudioStream := answer
  unlockAudioStream x _ := x
  wasInit _ := true
  audioPlaybackDevices _ := some [70, 71]
  audioRecordingDevices _ := some []
  audioDeviceName _ id := some (if id = 70 then ascii "speakers" else ascii "headset")
  error _ := ""

theorem setStreamPaused_view {paused b : Bool} {x y : Scripted} {s : Nat} (h : setStreamPaused paused x s = (y, b)) :
    y.view = if b then x.view.setStreamPaused s paused else x.view := by
  unfold setStreamPaused at h
  split at h <;> cases h <;> rfl

theorem documented : Documented sdl Scripted.view where
  bound x s y d := x.wired.bound s y d
  open_none x p y h := by
    simp only [sdl, openAudioDevice] at h
    split at h <;> cases h
    rfl
  open_some x p y d h := by
    simp only [sdl, openAudioDevice] at h
    split at h <;> cases h
    exact ⟨(x.wired.fresh x.next le_rfl).1, rfl⟩
  paused _ _ := rfl
  pause x d y b h := by
    simp only [sdl, pauseAudioDevice] at h
    split at h <;> cases h <;> rfl
  close _ _ := rfl
  create_none x y h := by
    simp only [sdl, createAudioStream] at h
    split at h <;> cases h
    rfl
  create_some x y s h := by
    simp only [sdl, createAudioStream] at h
    split at h <;> cases h
    exact ⟨(x.wired.fresh x.next le_rfl).2, rfl⟩
  getCallback _ _ := rfl
  bind x d s y b h := by
    simp only [sdl, bindAudioStream] at h
    split at h <;> cases h <;> rfl
  unbind _ _ := rfl
  destroy _ _ := rfl
  openStream_none x p y h := by
    simp only [sdl, openAudioDeviceStream] at h
    split at h <;> cases h
    rfl
  openStream_some x p y s h := by
    simp only [sdl, openAudioDeviceStream] at h
    split at h <;> cases h
    obtain ⟨hd, hs⟩ := x.wired.fresh x.next le_rfl
    exact ⟨x.next, hd, hs, rfl⟩
  pauseStream _ _ _ _ h := setStreamPaused_view h
  resumeStream _ _ _ _ h := setStreamPaused_view h
  clear _ _ := rfl
  lock _ _ := rfl
  unlock _ _ := rfl

end Scripted

/-- Two sinks, the first one paused, and a capture that runs. -/
def twoSinksOneCapture : List DeviceCall :=
  [.createSink 0 true false true, .createSink 0 false false true, .createCapture 0 true, .startCapture 0]

/-- The script has the answers to the calls that come after these, which succeed. -/
def scripted (script : List Bool) : AudioDevices Scripted :=
  ⟨⟨Scripted.start (List.replicate 9 true ++ script), true⟩, { initialized := true }, {}⟩

/-- The second sink cannot be bound to the new device, and the first one goes back; a capture goes over to a new stream. -/
theorem device_switches_demo :
    let st := (scripted [true, true, true, true, false]).run Scripted.sdl twoSinksOneCapture
    let played := switchSdlPlaybackDevice Scripted.sdl st.world st.playback 70
    let recorded := switchSdlRecordingDevice Scripted.sdl st.world st.recording 0
    (st.playback.liveSinks.length = 2 ∧ played.1.undone = true ∧ played.2.2.isOk = false ∧
      PlaybackSwitched st.world.sdl.view played.1.sdl.view st.playback played.2.1 70 played.2.2) ∧
    st.recording.liveCaptures.length = 1 ∧ recorded.1.undone = true ∧ recorded.2.2.isOk = true ∧
      RecordingSwitched st.world.sdl.view recorded.1.sdl.view st.recording recorded.2.1 0 recorded.2.2 := by
  have hswitch := device_switches_all_or_nothing Scripted.documented
    (Scripted.start (List.replicate 9 true ++ [true, true, true, true, false])) { initialized := true } {} rfl rfl
    twoSinksOneCapture
  refine ⟨⟨?_, ?_, ?_, (hswitch 70).1 ?_⟩, ?_, ?_, ?_, (hswitch 0).2 ?_⟩
  all_goals decide +kernel

end Mocktail.Audio
