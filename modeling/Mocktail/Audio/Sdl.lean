/-
  Mocktail.Audio.Sdl — the part of SDL's audio interface that the sinks and captures use.

  SDL is a parameter: `SdlAudio` has its calls over a state of its own, and `view` is what its
  documentation lets a caller see of that state, the open logical devices and the live streams.
  `Documented` says how each call that succeeds changes the view; a call that fails changes
  nothing. Whether a call succeeds is SDL's choice.

  A stream `Plays` on a device when it is bound to it and alone there. The calls spare every
  such pair but the one they are about: `Spares` is their common frame.
-/

import Mocktail.Launch.Json
import Mocktail.Lib.Slots

namespace Mocktail.Audio

open Mocktail.Lib
open Mocktail.Launch (Text ascii)

/-! ## What a caller sees -/

/-- An open logical device: the device it was opened for, and whether it is paused. -/
structure Device where
  physical : Nat
  paused : Bool
  deriving DecidableEq, Repr

structure Stream where
  /-- The logical device the stream is bound to. -/
  device : Option Nat
  /-- The stream was opened together with its device and is destroyed with it. -/
  ownsDevice : Bool
  deriving DecidableEq, Repr

@[ext] structure View where
  devices : Nat → Option Device := fun _ => none
  streams : Nat → Option Stream := fun _ => none

namespace View

def openDevice (v : View) (d physical : Nat) : View := { v with devices := upd v.devices d (some ⟨physical, false⟩) }

def setPaused (v : View) (d : Nat) (paused : Bool) : View :=
  { v with devices := upd v.devices d ((v.devices d).map fun x => { x with paused := paused }) }

/-- The streams on the device are unbound. -/
def closeDevice (v : View) (d : Nat) : View where
  devices := upd v.devices d none
  streams s := (v.streams s).map fun x => if x.device = some d then { x with device := none } else x

def createStream (v : View) (s : Nat) : View := { v with streams := upd v.streams s (some ⟨none, false⟩) }

def bind (v : View) (s : Nat) (device : Option Nat) : View :=
  { v with streams := upd v.streams s ((v.streams s).map fun x => { x with device := device }) }

def openDeviceStream (v : View) (d physical s : Nat) : View where
  devices := upd v.devices d (some ⟨physical, true⟩)
  streams := upd v.streams s (some ⟨some d, true⟩)

def deleteStream (v : View) (s : Nat) : View := { v with streams := upd v.streams s none }

def destroyStream (v : View) (s : Nat) : View :=
  match v.streams s with
  | some ⟨some d, true⟩ => (v.deleteStream s).closeDevice d
  | _ => v.deleteStream s

def setStreamPaused (v : View) (s : Nat) (paused : Bool) : View :=
  match (v.streams s).bind (·.device) with
  | some d => v.setPaused d paused
  | none => v

def paused (v : View) (d : Nat) : Bool := (v.devices d).any (·.paused)

end View

/-! ## The calls -/

structure SdlAudio (σ : Type) where
  openAudioDevice : σ → Nat → σ × Option Nat
  audioDevicePaused : σ → Nat → Bool
  pauseAudioDevice : σ → Nat → σ × Bool
  closeAudioDevice : σ → Nat → σ
  createAudioStream : σ → σ × Option Nat
  setAudioStreamGetCallback : σ → Nat → σ × Bool
  bindAudioStream : σ → Nat → Nat → σ × Bool
  unbindAudioStream : σ → Nat → σ
  destroyAudioStream : σ → Nat → σ
  openAudioDeviceStream : σ → Nat → σ × Option Nat
  pauseAudioStreamDevice : σ → Nat → σ × Bool
  resumeAudioStreamDevice : σ → Nat → σ × Bool
  clearAudioStream : σ → Nat → σ × Bool
  lockAudioStream : σ → Nat → σ × Bool
  unlockAudioStream : σ → Nat → σ
  wasInit : σ → Bool
  audioPlaybackDevices : σ → Option (List Nat)
  audioRecordingDevices : σ → Option (List Nat)
  audioDeviceName : σ → Nat → Option Text
  error : σ → String

/-- What SDL documents of its calls. A device is open or not, and a stream is bound to an open device only. -/
structure Documented {σ : Type} (S : SdlAudio σ) (view : σ → View) : Prop where
  bound : ∀ x s y d, (view x).streams s = some y → y.device = some d → (view x).devices d ≠ none
  open_none : ∀ x p y, S.openAudioDevice x p = (y, none) → view y = view x
  /-- A device that is opened on its own starts unpaused. -/
  open_some : ∀ x p y d, S.openAudioDevice x p = (y, some d) → (view x).devices d = none ∧ view y = (view x).openDevice d p
  paused : ∀ x d, S.audioDevicePaused x d = (view x).paused d
  pause : ∀ x d y b, S.pauseAudioDevice x d = (y, b) → view y = if b then (view x).setPaused d true else view x
  close : ∀ x d, view (S.closeAudioDevice x d) = (view x).closeDevice d
  create_none : ∀ x y, S.createAudioStream x = (y, none) → view y = view x
  create_some : ∀ x y s, S.createAudioStream x = (y, some s) → (view x).streams s = none ∧ view y = (view x).createStream s
  getCallback : ∀ x s, view (S.setAudioStreamGetCallback x s).1 = view x
  bind : ∀ x d s y b, S.bindAudioStream x d s = (y, b) → view y = if b then (view x).bind s (some d) else view x
  unbind : ∀ x s, view (S.unbindAudioStream x s) = (view x).bind s none
  destroy : ∀ x s, view (S.destroyAudioStream x s) = (view x).destroyStream s
  openStream_none : ∀ x p y, S.openAudioDeviceStream x p = (y, none) → view y = view x
  /-- A device that is opened with a stream starts paused. -/
  openStream_some : ∀ x p y s, S.openAudioDeviceStream x p = (y, some s) →
    ∃ d, (view x).devices d = none ∧ (view x).streams s = none ∧ view y = (view x).openDeviceStream d p s
  pauseStream : ∀ x s y b, S.pauseAudioStreamDevice x s = (y, b) → view y = if b then (view x).setStreamPaused s true else view x
  resumeStream : ∀ x s y b, S.resumeAudioStreamDevice x s = (y, b) →
    view y = if b then (view x).setStreamPaused s false else view x
  clear : ∀ x s, view (S.clearAudioStream x s).1 = view x
  lock : ∀ x s, view (S.lockAudioStream x s).1 = view x
  unlock : ∀ x s, view (S.unlockAudioStream x s) = view x

def sdlError {σ : Type} (S : SdlAudio σ) (x : σ) (operation : String) : Status :=
  .platformError (operation ++ ": " ++ if S.error x = "" then "unknown SDL error" else S.error x)

@[simp] theorem ok_sdlError {σ : Type} (S : SdlAudio σ) (x : σ) (operation : String) : (sdlError S x operation).ok = false := rfl

/-- The loop of `ListSdlPlaybackDevices` and `ListSdlRecordingDevices`: a device without a name ends it. -/
def namedDevices {σ : Type} (S : SdlAudio σ) (x : σ) (operation : String) : List Nat → Except Status (List (Nat × Text))
  | [] => .ok []
  | id :: ids =>
    match S.audioDeviceName x id with
    | none => .error (sdlError S x operation)
    | some name =>
      if name = [] then .error (sdlError S x operation)
      else (namedDevices S x operation ids).map ((id, name) :: ·)

/-! ## A stream on a device -/

namespace View

/-- The stream is bound to the device, and no other one is. -/
structure Plays (v : View) (s d : Nat) (x : Device) (owns : Bool) : Prop where
  stream : v.streams s = some ⟨some d, owns⟩
  device : v.devices d = some x
  alone : ∀ t y, v.streams t = some y → y.device = some d → t = s

/-- What plays on streams outside `A` plays on as it did. -/
def Spares (v w : View) (A : Nat → Prop) : Prop := ∀ s d x owns, ¬ A s → v.Plays s d x owns → w.Plays s d x owns

variable {v w u : View} {A B : Nat → Prop} {s d t e : Nat} {x y : Device} {owns : Bool}

theorem createStream_streams : (v.createStream s).streams = upd v.streams s (some ⟨none, false⟩) := rfl

theorem openDeviceStream_streams (p : Nat) : (v.openDeviceStream d p s).streams = upd v.streams s (some ⟨some d, true⟩) := rfl

theorem bind_streams (b : Option Nat) :
    (v.bind s b).streams = upd v.streams s ((v.streams s).map fun x => { x with device := b }) := rfl

theorem deleteStream_streams : (v.deleteStream s).streams = upd v.streams s none := rfl

theorem Plays.unique {owns' : Bool} (h : v.Plays s d x owns) (h' : v.Plays s e y owns') : d = e ∧ x = y := by
  have he := h.stream.symm.trans h'.stream
  cases he
  have hx := h.device.symm.trans h'.device
  cases hx
  exact ⟨rfl, rfl⟩

theorem spares_refl (v : View) (A : Nat → Prop) : v.Spares v A := fun _ _ _ _ _ h => h

theorem Spares.trans (h : v.Spares w A) (h' : w.Spares u A) : v.Spares u A :=
  fun s d x owns hs hp => h' s d x owns hs (h s d x owns hs hp)

theorem Spares.mono (h : v.Spares w A) (hAB : ∀ s, A s → B s) : v.Spares w B :=
  fun s d x owns hs hp => h s d x owns (fun ha => hs (hAB s ha)) hp

theorem spares_openDevice (hd : v.devices d = none) (p : Nat) : v.Spares (v.openDevice d p) A := by
  intro s e x owns _ h
  have he : e ≠ d := fun he => by rw [← he, h.device] at hd; cases hd
  exact ⟨h.stream, (upd_ne _ _ he).trans h.device, h.alone⟩

theorem spares_createStream (hs : v.streams s = none) : v.Spares (v.createStream s) A := by
  intro t e x owns _ h
  have ht : t ≠ s := fun ht => by rw [← ht, h.stream] at hs; cases hs
  refine ⟨(upd_ne _ _ ht).trans h.stream, h.device, fun t' y hy he => ?_⟩
  by_cases hts : t' = s
  · rw [hts, createStream_streams, upd_same] at hy
    cases hy
    cases he
  · rw [createStream_streams, upd_ne _ _ hts] at hy
    exact h.alone t' y hy he

theorem spares_openDeviceStream (hd : v.devices d = none) (hs : v.streams s = none) (p : Nat) :
    v.Spares (v.openDeviceStream d p s) A := by
  intro t e x owns _ h
  have ht : t ≠ s := fun ht => by rw [← ht, h.stream] at hs; cases hs
  have he : e ≠ d := fun he => by rw [← he, h.device] at hd; cases hd
  refine ⟨(upd_ne _ _ ht).trans h.stream, (upd_ne _ _ he).trans h.device, fun t' y hy hye => ?_⟩
  by_cases hts : t' = s
  · rw [hts, openDeviceStream_streams, upd_same] at hy
    cases hy
    cases hye
    exact absurd rfl he
  · rw [openDeviceStream_streams, upd_ne _ _ hts] at hy
    exact h.alone t' y hy hye

/-- One stream plays on a device. -/
theorem Plays.only (h : v.Plays s d x owns) {owns' : Bool} (h' : v.Plays t d y owns') : t = s := h.alone t _ h'.stream rfl

/-- A device is paused or resumed that nothing plays on, or only a stream of `A`. -/
theorem spares_setPaused (b : Bool) (hd : ∀ t y owns, v.Plays t d y owns → A t) : v.Spares (v.setPaused d b) A := by
  intro t e y owns' ht h'
  have he : e ≠ d := fun he => ht (hd t y owns' (by rw [← he]; exact h'))
  exact ⟨h'.stream, (upd_ne _ _ he).trans h'.device, h'.alone⟩

theorem spares_bind (b : Option Nat) (hb : ∀ e, b = some e → ∀ t y owns', v.Plays t e y owns' → t = s) (hA : A s) :
    v.Spares (v.bind s b) A := by
  intro t e y owns' ht h'
  have hts : t ≠ s := fun he => ht (by rw [he]; exact hA)
  refine ⟨(upd_ne _ _ hts).trans h'.stream, h'.device, fun t' z hz hze => ?_⟩
  by_cases ht' : t' = s
  · rw [ht', bind_streams, upd_same] at hz
    obtain ⟨z', -, rfl⟩ := Option.map_eq_some_iff.mp hz
    exact absurd (hb e hze t y owns' h') hts
  · rw [bind_streams, upd_ne _ _ ht'] at hz
    exact h'.alone t' z hz hze

/-- A device is closed that nothing plays on, or only a stream of `A`. -/
theorem spares_closeDevice (hd : ∀ t y owns, v.Plays t d y owns → A t) : v.Spares (v.closeDevice d) A := by
  intro t e y owns' ht h'
  have he : e ≠ d := fun he => ht (hd t y owns' (by rw [← he]; exact h'))
  refine ⟨?_, (upd_ne _ _ he).trans h'.device, fun t' z hz hze => ?_⟩
  · show (v.streams t).map _ = _
    rw [h'.stream]
    simp [he]
  · obtain ⟨z', hz', hzz⟩ := Option.map_eq_some_iff.mp hz
    refine h'.alone t' z' hz' ?_
    by_cases hzd : z'.device = some d
    · rw [if_pos hzd] at hzz
      rw [← hzz] at hze
      cases hze
    · rw [if_neg hzd] at hzz
      rw [hzz]
      exact hze

theorem spares_deleteStream (hA : A s) : v.Spares (v.deleteStream s) A := by
  intro t e y owns' ht h'
  have hts : t ≠ s := fun he => ht (by rw [he]; exact hA)
  refine ⟨(upd_ne _ _ hts).trans h'.stream, h'.device, fun t' z hz hze => ?_⟩
  by_cases ht' : t' = s
  · rw [ht', deleteStream_streams, upd_same] at hz
    cases hz
  · rw [deleteStream_streams, upd_ne _ _ ht'] at hz
    exact h'.alone t' z hz hze

/-- A stream that is not there yet plays nowhere, so what spares all others spares all. -/
theorem Spares.fresh (h : v.Spares w fun t => t = s) (hs : v.streams s = none) : v.Spares w fun _ => False := by
  intro t d x owns _ hp
  refine h t d x owns (fun ht => ?_) hp
  have hstream := hp.stream
  rw [ht, hs] at hstream
  cases hstream

/-- No stream is bound to the device, but perhaps one of `A`. -/
def Free (v : View) (d : Nat) (A : Nat → Prop) : Prop := ∀ t y, v.streams t = some y → y.device = some d → A t

theorem Free.plays (h : v.Free d A) : ∀ t y owns, v.Plays t d y owns → A t := fun t _ _ hp => h t _ hp.stream rfl

theorem Free.bind (h : v.Free d A) (hs : A s) (b : Option Nat) : (v.bind s b).Free d A := by
  intro t y hy hyd
  by_cases ht : t = s
  · rw [ht]
    exact hs
  · rw [bind_streams, upd_ne _ _ ht] at hy
    exact h t y hy hyd

theorem Free.createStream (h : v.Free d A) : (v.createStream s).Free d A := by
  intro t y hy hyd
  by_cases ht : t = s
  · rw [ht, createStream_streams, upd_same] at hy
    cases hy
    cases hyd
  · rw [createStream_streams, upd_ne _ _ ht] at hy
    exact h t y hy hyd

theorem Free.deleteStream (h : v.Free d A) : (v.deleteStream s).Free d A := by
  intro t y hy hyd
  by_cases ht : t = s
  · rw [ht, deleteStream_streams, upd_same] at hy
    cases hy
  · rw [deleteStream_streams, upd_ne _ _ ht] at hy
    exact h t y hy hyd

/-- A stream without a device of its own is only deleted. -/
theorem destroyStream_bound {b : Option Nat} (h : v.streams s = some ⟨b, false⟩) : v.destroyStream s = v.deleteStream s := by
  rw [destroyStream, h]
  cases b <;> rfl

theorem Plays.free (h : v.Plays s d x owns) : v.Free d fun t => t = s := h.alone

theorem Plays.setPaused (h : v.Plays s d x owns) (b : Bool) : (v.setPaused d b).Plays s d { x with paused := b } owns := by
  refine ⟨h.stream, ?_, h.alone⟩
  show upd v.devices d _ d = _
  rw [upd_same, h.device]
  rfl

theorem Plays.setStreamPaused (h : v.Plays s d x owns) (b : Bool) : v.setStreamPaused s b = v.setPaused d b := by
  rw [View.setStreamPaused, h.stream]
  rfl

/-- What was done to a device since it was opened is forgotten when it is closed. -/
theorem closeDevice_opened {z : Option Device} (hs : w.streams = v.streams) (hd : w.devices = upd v.devices d z)
    (hnone : v.devices d = none) (hbound : ∀ t y, v.streams t = some y → y.device ≠ some d) : w.closeDevice d = v := by
  refine View.ext (funext fun e => ?_) (funext fun t => ?_)
  · show upd w.devices d none e = v.devices e
    by_cases he : e = d
    · rw [he, upd_same, hnone]
    · rw [upd_ne _ _ he, hd, upd_ne _ _ he]
  · show (w.streams t).map _ = v.streams t
    rw [hs]
    cases hy : v.streams t with
    | none => rfl
    | some y => rw [Option.map_some, if_neg (hbound t y hy)]

end View

/-- Pausing or resuming a stream's device, whether it succeeds or not. -/
theorem paused_stream {v u : View} {s d : Nat} {z : Device} {owns b c : Bool}
    (hv : u = if b then v.setStreamPaused s c else v) (hp : v.Plays s d z owns) :
    u.Plays s d { z with paused := if b then c else z.paused } owns ∧ v.Spares u fun t => t = s := by
  rw [hv, hp.setStreamPaused]
  cases b with
  | true => exact ⟨hp.setPaused c, View.spares_setPaused c hp.free.plays⟩
  | false => exact ⟨hp, View.spares_refl _ _⟩

/-! ## Attempts and their undoing -/

/-- SDL, and whether every call made to undo something has succeeded. -/
structure World (σ : Type) where
  sdl : σ
  undone : Bool := true

namespace World

variable {σ : Type}

def answered (w : World σ) (undoing : Bool) (r : σ × Bool) : World σ × Bool := (⟨r.1, w.undone && (!undoing || r.2)⟩, r.2)

def opened (w : World σ) (undoing : Bool) (r : σ × Option Nat) : World σ × Option Nat :=
  (⟨r.1, w.undone && (!undoing || r.2.isSome)⟩, r.2)

theorem undone_of_answered {w w' : World σ} {undoing b : Bool} {r : σ × Bool} (h : w.answered undoing r = (w', b))
    (hu : w'.undone = true) : w.undone = true := by
  cases h
  exact (Bool.and_eq_true_iff.mp hu).1

theorem undone_of_opened {w w' : World σ} {undoing : Bool} {o : Option Nat} {r : σ × Option Nat}
    (h : w.opened undoing r = (w', o)) (hu : w'.undone = true) : w.undone = true := by
  cases h
  exact (Bool.and_eq_true_iff.mp hu).1

end World

end Mocktail.Audio
