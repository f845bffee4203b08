/-
  Mocktail.Audio.RecordingDevices — the recording side of the SDL audio subsystem
  (src/audio/sdl_audio_capture.cc): the live captures and the switch of all of them to another
  microphone.

  Unlike playback, a capture's stream comes with its device. A switch opens a second stream for
  every capture first, then pauses all old ones, then starts the new ones, and only then destroys
  the old ones; where a step fails, all new ones are destroyed and the old ones resumed. The
  registry's mutex and every capture's own are held throughout, so a switch is one step.
-/

import Mocktail.Audio.Sdl
import Mocktail.Lib.Keyed

namespace Mocktail.Audio

open Mocktail.Lib
open Mocktail.Launch (Text ascii)

/-! ## Captures -/

/-- `SDL_AUDIO_DEVICE_DEFAULT_RECORDING`, or the device itself. -/
def recordingDevice (id : Nat) : Nat := if id = 0 then 0xFFFFFFFE else id

/-- A capture in the list; it leaves the list when its stream is destroyed. -/
structure SdlAudioCapture where
  stream : Nat
  replacement : Option Nat := none
  running : Bool := false
  deriving DecidableEq, Repr

/-- `SdlRecordingSubsystemState`. -/
structure Recording where
  liveCaptures : List SdlAudioCapture := []
  configuredDeviceId : Nat := 0
  configuredDeviceName : Text := ascii "default"

section Switch

variable {σ : Type} (S : SdlAudio σ)

def prepareSwitch (id : Nat) (w : World σ) (c : SdlAudioCapture) : World σ × SdlAudioCapture × Status :=
  match w.opened false (S.openAudioDeviceStream w.sdl (recordingDevice id)) with
  | (w, none) => (w, { c with replacement := none }, sdlError S w.sdl "open replacement microphone")
  | (w, some r) => (w, { c with replacement := some r }, .okStatus)

def pauseForSwitch (w : World σ) (c : SdlAudioCapture) : World σ × SdlAudioCapture × Status :=
  match w.answered false (S.pauseAudioStreamDevice w.sdl c.stream) with
  | (w, false) => (w, c, sdlError S w.sdl "pause old microphone")
  | (w, true) =>
    match w.answered false (S.lockAudioStream w.sdl c.stream) with
    | (w, false) => (w, c, sdlError S w.sdl "lock old microphone")
    | (w, true) => ({ w with sdl := S.unlockAudioStream w.sdl c.stream }, c, .okStatus)

def startReplacement (w : World σ) (c : SdlAudioCapture) : World σ × SdlAudioCapture × Status :=
  match c.running, c.replacement with
  | false, _ => (w, c, .okStatus)
  | true, none => (w, c, sdlError S w.sdl "resume replacement microphone")
  | true, some r =>
    match w.answered false (S.resumeAudioStreamDevice w.sdl r) with
    | (w, false) => (w, c, sdlError S w.sdl "resume replacement microphone")
    | (w, true) => (w, c, .okStatus)

def cancelReplacement (w : World σ) (c : SdlAudioCapture) : World σ × SdlAudioCapture × Status :=
  match c.replacement with
  | none => (w, c, .okStatus)
  | some r => ({ w with sdl := S.destroyAudioStream w.sdl r }, { c with replacement := none }, .okStatus)

def restoreAfterSwitch (w : World σ) (c : SdlAudioCapture) : World σ × SdlAudioCapture × Status :=
  if c.running = false then (w, c, .okStatus)
  else
    match w.answered true (S.resumeAudioStreamDevice w.sdl c.stream) with
    | (w, false) => (w, c, sdlError S w.sdl "restore original microphone")
    | (w, true) => (w, c, .okStatus)

def commitSwitch (w : World σ) (c : SdlAudioCapture) : World σ × SdlAudioCapture × Status :=
  match c.replacement with
  | none => (w, c, .okStatus)
  | some r => ({ w with sdl := S.destroyAudioStream w.sdl c.stream }, { c with stream := r, replacement := none }, .okStatus)

/-- A loop over the live captures that breaks at the first error. -/
def eachCapture (f : World σ → SdlAudioCapture → World σ × SdlAudioCapture × Status) (w : World σ) :
    List SdlAudioCapture → World σ × List SdlAudioCapture × Status
  | [] => (w, [], .okStatus)
  | c :: cs =>
    let (w, c, status) := f w c
    if status.ok then
      let (w, cs, status) := eachCapture f w cs
      (w, c :: cs, status)
    else (w, c :: cs, status)

/-- The first half of a switch: every replacement is opened, the old streams are paused, the replacements started. -/
def startReplacements (id : Nat) (w : World σ) (cs : List SdlAudioCapture) : World σ × List SdlAudioCapture × Status :=
  let (w, cs, status) := eachCapture (prepareSwitch S id) w cs
  if status.ok then
    let (w, cs, status) := eachCapture (pauseForSwitch S) w cs
    if status.ok then eachCapture (startReplacement S) w cs else (w, cs, status)
  else (w, cs, status)

/-- The way back. -/
def cancelReplacements (w : World σ) (cs : List SdlAudioCapture) : World σ × List SdlAudioCapture × Status :=
  let (w, cs, _) := eachCapture (cancelReplacement S) w cs
  eachCapture (restoreAfterSwitch S) w cs

def listSdlRecordingDevices (x : σ) : Except Status (List (Nat × Text)) :=
  if S.wasInit x = false then
    .error (.failedPrecondition "SDL audio subsystem must be initialized before device enumeration")
  else
    match S.audioRecordingDevices x with
    | none => .error (sdlError S x "SDL_GetAudioRecordingDevices")
    | some ids => namedDevices S x "SDL_GetAudioDeviceName(recording)" ids

end Switch

/-- `std::from_chars` over the whole text, for a 32-bit number. -/
def parseDeviceId (value : Text) : Option Nat :=
  if value = [] ∨ value.all (fun b => decide (0x30 ≤ b.toNat ∧ b.toNat ≤ 0x39)) = false then none
  else
    let n := value.foldl (fun n b => n * 10 + (b.toNat - 0x30)) 0
    if n < 2 ^ 32 then some n else none

def resolveSdlRecordingDevice (requested : Text) (devices : List (Nat × Text)) : Except Status (Nat × Text) :=
  if requested = [] ∨ 512 < requested.length then
    .error (.invalidArgument "audio input device must be `default`, `id:<number>`, or a bounded device name")
  else if requested.any (fun b => decide (b.toNat < 0x20 ∨ b = 0x7f)) then
    .error (.invalidArgument "audio input device must not contain control bytes")
  else if requested = ascii "default" then .ok (0, ascii "default")
  else if requested.take 3 = ascii "id:" then
    match parseDeviceId (requested.drop 3) with
    | none => .error (.invalidArgument "audio input device ID is invalid")
    | some id =>
      if id = 0 then .error (.invalidArgument "audio input device ID is invalid")
      else
        match devices.find? fun device => device.1 = id with
        | none => .error (.unavailable "configured audio input device ID is unavailable")
        | some found => .ok found
  else
    match devices.filter fun device => device.2 = requested with
    | [] =>
      .error (.unavailable ("configured audio input device is unavailable: " ++
        String.ofList (requested.map fun b => Char.ofNat b.toNat)))
    | [found] => .ok found
    | _ => .error (.invalidArgument "audio input device name is ambiguous; use its printed `id:` selector")

section Switch

variable {σ : Type} (S : SdlAudio σ)

def switchSdlRecordingDevice (w : World σ) (p : Recording) (id : Nat) : World σ × Recording × Except Status Text :=
  match listSdlRecordingDevices S w.sdl with
  | .error status => (w, p, .error status)
  | .ok devices =>
    match resolveSdlRecordingDevice (if id = 0 then ascii "default" else ascii "id:" ++ ascii (toString id)) devices with
    | .error status => (w, p, .error status)
    | .ok (resolved, name) =>
      if S.wasInit w.sdl = false then
        (w, p, .error (.failedPrecondition "SDL audio subsystem stopped during microphone switch"))
      else
        let (w, cs, status) := startReplacements S resolved w p.liveCaptures
        if status.ok then
          let (w, cs, _) := eachCapture (commitSwitch S) w cs
          (w, { p with liveCaptures := cs, configuredDeviceId := resolved, configuredDeviceName := name }, .ok name)
        else
          let (w, cs, restored) := cancelReplacements S w cs
          (w, { p with liveCaptures := cs }, .error (if restored.ok then status else restored))

/-- `CreateSdlAudioCapture`, of a valid format. -/
def createSdlAudioCapture (w : World σ) (p : Recording) (requested : Nat) (memory : Bool) : World σ × Recording × Status :=
  if S.wasInit w.sdl = false then
    (w, p, .failedPrecondition "SDL audio subsystem stopped while opening capture")
  else if memory = false then (w, p, .unavailable "unable to allocate SDL audio capture")
  else
    match S.openAudioDeviceStream w.sdl (recordingDevice (if requested = 0 then p.configuredDeviceId else requested)) with
    | (x, none) => ({ w with sdl := x }, p, sdlError S x "SDL_OpenAudioDeviceStream(recording)")
    | (x, some s) => ({ w with sdl := x }, { p with liveCaptures := p.liveCaptures ++ [{ stream := s }] }, .okStatus)

/-- `Start` of the capture at this place of the list. -/
def startCapture (w : World σ) (p : Recording) (index : Nat) : World σ × Recording :=
  match p.liveCaptures[index]? with
  | none => (w, p)
  | some c =>
    if c.running then (w, p)
    else
      match S.resumeAudioStreamDevice w.sdl c.stream with
      | (x, false) => ({ w with sdl := x }, p)
      | (x, true) => ({ w with sdl := x }, { p with liveCaptures := p.liveCaptures.set index { c with running := true } })

def stopCapture (w : World σ) (p : Recording) (index : Nat) : World σ × Recording :=
  match p.liveCaptures[index]? with
  | none => (w, p)
  | some c =>
    let p := { p with liveCaptures := p.liveCaptures.set index { c with running := false } }
    match S.pauseAudioStreamDevice w.sdl c.stream with
    | (x, false) => ({ w with sdl := x }, p)
    | (x, true) => ({ w with sdl := (S.clearAudioStream x c.stream).1 }, p)

/-- `Shutdown` of the capture at this place of the list. -/
def closeCapture (w : World σ) (p : Recording) (index : Nat) : World σ × Recording :=
  match p.liveCaptures[index]? with
  | none => (w, p)
  | some c =>
    ({ w with sdl := S.destroyAudioStream (S.pauseAudioStreamDevice w.sdl c.stream).1 c.stream },
      { p with liveCaptures := p.liveCaptures.eraseIdx index })

end Switch

/-! ## Streams and their devices -/

/-- The streams of a capture. -/
def SdlAudioCapture.tokens (c : SdlAudioCapture) : List Nat := c.stream :: c.replacement.toList

variable {σ : Type} {S : SdlAudio σ} {view : σ → View} {w : World σ} {c : SdlAudioCapture} {cs : List SdlAudioCapture}
  {cs' : List SdlAudioCapture} {v u u' : View} {s d id target : Nat}

theorem plays_openDeviceStream (hdoc : Documented S view) {x : σ} {p : Nat} (hd : (view x).devices d = none) :
    ((view x).openDeviceStream d p s).Plays s d ⟨p, true⟩ true := by
  refine ⟨upd_same _ _ _, upd_same _ _ _, fun t y hy hyd => ?_⟩
  by_contra ht
  rw [View.openDeviceStream_streams, upd_ne _ _ ht] at hy
  exact hdoc.bound x t y d hy hyd hd

/-- What destroying a stream with its device does. -/
theorem destroyed_plays {x : Device} (hp : v.Plays s d x true) (hu : u = v.destroyStream s) :
    v.Spares u (fun t => t = s) ∧ (∀ e, u.devices e ≠ none → v.devices e ≠ none ∧ e ≠ d) ∧
    ∀ t, u.streams t ≠ none → v.streams t ≠ none ∧ t ≠ s := by
  have hu : u = (v.deleteStream s).closeDevice d := by rw [hu, View.destroyStream, hp.stream]
  rw [hu]
  refine ⟨?_, fun e he => ?_, fun t ht => ?_⟩
  · have hdelete : v.Spares (v.deleteStream s) fun t => t = s := View.spares_deleteStream rfl
    exact hdelete.trans (View.spares_closeDevice hp.free.deleteStream.plays)
  · have he : upd v.devices d none e ≠ none := he
    by_cases hed : e = d
    · rw [hed, upd_same] at he
      exact absurd rfl he
    · rw [upd_ne _ _ hed] at he
      exact ⟨he, hed⟩
  · have ht : upd v.streams s none t ≠ none := fun hn => ht (Option.map_eq_none_iff.mpr hn)
    by_cases hts : t = s
    · rw [hts, upd_same] at ht
      exact absurd rfl ht
    · rw [upd_ne _ _ hts] at ht
      exact ⟨ht, hts⟩

/-! ## The loop -/

variable {f : World σ → SdlAudioCapture → World σ × SdlAudioCapture × Status}

/-- What a loop's body keeps, of the captures it has been at and those to come, the loop keeps. -/
theorem eachCapture_spec
    {I : World σ → List SdlAudioCapture → List SdlAudioCapture → Prop} {J : World σ → List SdlAudioCapture → Prop}
    (hstep : ∀ w a c b, I w a (c :: b) →
      if (f w c).2.2.ok then I (f w c).1 (a ++ [(f w c).2.1]) b else J (f w c).1 (a ++ (f w c).2.1 :: b))
    (cs a : List SdlAudioCapture) (w : World σ) (h : I w a cs) :
    if (eachCapture f w cs).2.2.ok then I (eachCapture f w cs).1 (a ++ (eachCapture f w cs).2.1) []
    else J (eachCapture f w cs).1 (a ++ (eachCapture f w cs).2.1) := by
  induction cs generalizing a w with
  | nil => simpa [eachCapture] using h
  | cons c cs ih =>
    have hbody := hstep w a c cs h
    simp only [eachCapture]
    by_cases hok : (f w c).2.2.ok = true
    · rw [if_pos hok] at hbody
      have hrest := ih (a ++ [(f w c).2.1]) (f w c).1 hbody
      simp only [hok, if_true]
      simpa using hrest
    · rw [if_neg hok] at hbody
      simp only [hok, if_false, Bool.false_eq_true]
      exact hbody

/-! ## In the middle of a switch -/

/-- What a switch that has not come to its end keeps of a capture: its old stream on its old device, perhaps paused, and
    for a replacement a stream and a device that were not there before. -/
structure Preparing (v u : View) (target : Nat) (c c' : SdlAudioCapture) : Prop where
  stream : c'.stream = c.stream
  running : c'.running = c.running
  old : ∃ d x x', v.Plays c.stream d x true ∧ u.Plays c.stream d x' true ∧ x'.physical = x.physical ∧
    (x'.paused = x.paused ∨ x'.paused = true)
  new : ∀ r, c'.replacement = some r → v.streams r = none ∧
    ∃ e y, u.Plays r e y true ∧ y.physical = target ∧ (y.paused = true ∨ y.paused = !c.running)

structure Mid (v u : View) (target : Nat) (cs cs' : List SdlAudioCapture) : Prop where
  captures : List.Forall₂ (Preparing v u target) cs cs'
  nodup : (cs'.flatMap (·.tokens)).Nodup
  spares : v.Spares u fun t => t ∈ cs.map (·.stream)
  devices : ∀ e, u.devices e ≠ none → v.devices e ≠ none ∨ ∃ c ∈ cs', ∃ r y, c.replacement = some r ∧ u.Plays r e y true
  streams : ∀ t, u.streams t ≠ none → v.streams t ≠ none ∨ ∃ c ∈ cs', c.replacement = some t
  kept : ∀ t, v.streams t ≠ none → u.streams t ≠ none

variable {r : Nat}

theorem mem_tokens (hr : c.replacement = some r) : r ∈ c.tokens := by
  rw [SdlAudioCapture.tokens, hr]
  exact List.mem_cons_of_mem _ (List.mem_singleton.mpr rfl)

variable {a b : List SdlAudioCapture}

theorem other_tokens (hn : ((a ++ c :: b).flatMap (·.tokens)).Nodup) {x : SdlAudioCapture}
    (hx : x ∈ a ∨ x ∈ b) {t : Nat} (ht : t ∈ x.tokens) : t ∉ c.tokens := by
  intro hc
  rw [List.flatMap_append, List.flatMap_cons, List.nodup_append, List.nodup_append] at hn
  obtain ⟨-, ⟨-, -, hcb⟩, hab⟩ := hn
  rcases hx with hx | hx
  · exact hab t (List.mem_flatMap.mpr ⟨x, hx, ht⟩) t (List.mem_append_left _ hc) rfl
  · exact hcb t hc t (List.mem_flatMap.mpr ⟨x, hx, ht⟩) rfl

variable {c' : SdlAudioCapture}

theorem Preparing.spared (h : Preparing v u target c c') {A : Nat → Prop} (hs : u.Spares u' A)
    (hA : ∀ t ∈ c'.tokens, ¬ A t) : Preparing v u' target c c' := by
  refine ⟨h.stream, h.running, ?_, fun r hr => ?_⟩
  · obtain ⟨d, x, x', hx, hx', hp⟩ := h.old
    refine ⟨d, x, x', hx, hs _ _ _ _ (hA _ ?_) hx', hp⟩
    rw [← h.stream]
    exact List.mem_cons_self
  · obtain ⟨hn, e, y, hy, hp⟩ := h.new r hr
    exact ⟨hn, e, y, hs _ _ _ _ (hA r (mem_tokens hr)) hy, hp⟩

/-- One capture is worked on. -/
theorem Mid.step (h : Mid v u target cs (a ++ c :: b))
    (hs : u.Spares u' fun t => t ∈ c.tokens) (hnew : ∀ c₀, Preparing v u target c₀ c → Preparing v u' target c₀ c')
    (hnodup : ((a ++ c' :: b).flatMap (·.tokens)).Nodup)
    (hdevices : ∀ e, u'.devices e ≠ none → (∃ r y, c'.replacement = some r ∧ u'.Plays r e y true) ∨
      u.devices e ≠ none ∧ ∀ r y, c.replacement = some r → ¬ u.Plays r e y true)
    (hstreams : ∀ t, u'.streams t ≠ none → c'.replacement = some t ∨ u.streams t ≠ none ∧ c.replacement ≠ some t)
    (hkept : ∀ t, v.streams t ≠ none → u.streams t ≠ none → u'.streams t ≠ none) : Mid v u' target cs (a ++ c' :: b) := by
  have hmem' : c' ∈ a ++ c' :: b := List.mem_append_right _ List.mem_cons_self
  have hother : ∀ x, x ∈ a ++ c :: b → x = c ∨ (x ∈ a ∨ x ∈ b) ∧ x ∈ a ++ c' :: b := by
    intro x hx
    rcases List.mem_append.mp hx with hx | hx
    · exact .inr ⟨.inl hx, List.mem_append_left _ hx⟩
    · rcases List.mem_cons.mp hx with rfl | hx
      · exact .inl rfl
      · exact .inr ⟨.inr hx, List.mem_append_right _ (List.mem_cons_of_mem _ hx)⟩
  constructor
  · refine forall₂_replace h.captures hnew fun x z hz hxz => ?_
    exact hxz.spared hs fun t ht => other_tokens h.nodup hz ht
  · exact hnodup
  · intro t d x owns ht hp
    refine hs t d x owns (fun htc => ?_) (h.spares t d x owns ht hp)
    obtain ⟨c₀, hc₀, hprep⟩ := forall₂_mem h.captures (List.mem_append_right a List.mem_cons_self)
    rcases List.mem_cons.mp htc with rfl | hr
    · rw [hprep.stream] at ht
      exact ht (List.mem_map_of_mem hc₀)
    · -- A replacement was not there before.
      have hnone := (hprep.new t (by simpa using hr)).1
      rw [hp.stream] at hnone
      cases hnone
  · intro e he
    rcases hdevices e he with ⟨r, y, hr, hy⟩ | ⟨hopen, hnot⟩
    · exact .inr ⟨c', hmem', r, y, hr, hy⟩
    · rcases h.devices e hopen with hold | ⟨x, hx, r, y, hr, hy⟩
      · exact .inl hold
      · rcases hother x hx with rfl | ⟨hx, hx'⟩
        · exact absurd hy (hnot r y hr)
        · exact .inr ⟨x, hx', r, y, hr, hs _ _ _ _ (other_tokens h.nodup hx (mem_tokens hr)) hy⟩
  · intro t ht
    rcases hstreams t ht with hr | ⟨hopen, hne⟩
    · exact .inr ⟨c', hmem', hr⟩
    · rcases h.streams t hopen with hold | ⟨x, hx, hr⟩
      · exact .inl hold
      · rcases hother x hx with rfl | ⟨-, hx'⟩
        · exact absurd hr hne
        · exact .inr ⟨x, hx', hr⟩
  · exact fun t ht => hkept t ht (h.kept t ht)

/-- The streams of the captures are live. -/
theorem Mid.live {l : List SdlAudioCapture} (h : Mid v u target cs l) {t : Nat} (ht : t ∈ l.flatMap (·.tokens)) :
    u.streams t ≠ none := by
  obtain ⟨c, hc, ht⟩ := List.mem_flatMap.mp ht
  obtain ⟨c₀, -, hprep⟩ := forall₂_mem h.captures hc
  rcases List.mem_cons.mp ht with rfl | hr
  · obtain ⟨d, x, x', -, hx', -⟩ := hprep.old
    rw [hprep.stream, hx'.stream]
    simp
  · obtain ⟨-, e, y, hy, -⟩ := hprep.new t (by simpa using hr)
    rw [hy.stream]
    simp

/-- A capture gets its replacement. -/
theorem Mid.prepared (h : Mid v u target cs (a ++ c :: b)) (hc : c.replacement = none) {r e : Nat}
    (hr : u.streams r = none) (he : u.devices e = none) (hp : (u.openDeviceStream e target r).Plays r e ⟨target, true⟩ true) :
    Mid v (u.openDeviceStream e target r) target cs (a ++ { c with replacement := some r } :: b) := by
  have hspare : u.Spares (u.openDeviceStream e target r) fun t => t ∈ c.tokens := View.spares_openDeviceStream he hr target
  have hvr : v.streams r = none := by
    by_contra hn
    exact h.kept r hn hr
  refine h.step hspare (fun c₀ hprep => ⟨hprep.stream, hprep.running, ?_, ?_⟩) ?_ (fun e' he' => ?_) (fun t ht => ?_)
    (fun t _ ht => ?_)
  · obtain ⟨d, x, x', hx, hx', hphys⟩ := hprep.old
    have hall : u.Spares (u.openDeviceStream e target r) fun _ => False := View.spares_openDeviceStream he hr target
    exact ⟨d, x, x', hx, hall _ _ _ _ id hx', hphys⟩
  · intro r' hr'
    cases hr'
    exact ⟨hvr, e, _, hp, rfl, .inl rfl⟩
  · have hn := h.nodup
    have hnot : r ∉ (a ++ c :: b).flatMap (·.tokens) := fun hmem => h.live hmem hr
    have hctok : c.tokens = [c.stream] := by rw [SdlAudioCapture.tokens, hc]; rfl
    have htok : ({ c with replacement := some r } : SdlAudioCapture).tokens = [c.stream, r] := rfl
    rw [List.flatMap_append, List.flatMap_cons, hctok] at hn hnot
    rw [List.flatMap_append, List.flatMap_cons, htok]
    have hperm : (a.flatMap (·.tokens) ++ ([c.stream, r] ++ b.flatMap (·.tokens))).Perm
        (r :: (a.flatMap (·.tokens) ++ ([c.stream] ++ b.flatMap (·.tokens)))) := by
      have hmiddle : ((a.flatMap (·.tokens) ++ [c.stream]) ++ r :: b.flatMap (·.tokens)).Perm
          (r :: ((a.flatMap (·.tokens) ++ [c.stream]) ++ b.flatMap (·.tokens))) := List.perm_middle
      simpa using hmiddle
    exact hperm.nodup_iff.mpr (List.nodup_cons.mpr ⟨hnot, hn⟩)
  · have he' : upd u.devices e (some ⟨target, true⟩) e' ≠ none := he'
    by_cases hee : e' = e
    · rw [hee]
      exact .inl ⟨r, _, rfl, hp⟩
    · rw [upd_ne _ _ hee] at he'
      refine .inr ⟨he', fun r' y hr' => ?_⟩
      rw [hc] at hr'
      cases hr'
  · rw [View.openDeviceStream_streams] at ht
    by_cases htr : t = r
    · exact .inl (by rw [htr])
    · rw [upd_ne _ _ htr] at ht
      exact .inr ⟨ht, by rw [hc]; simp⟩
  · rw [View.openDeviceStream_streams]
    by_cases htr : t = r
    · rw [htr, upd_same]
      simp
    · rw [upd_ne _ _ htr]
      exact ht

/-- The device of one of a capture's streams is paused or resumed. -/
theorem Mid.paused (h : Mid v u target cs (a ++ c :: b)) {t e : Nat} {x : Device} {p q : Bool}
    (ht : t ∈ c.tokens) (hx : u.Plays t e x true) (hu : u' = if p then u.setStreamPaused t q else u)
    (hnew : ∀ c₀, Preparing v u target c₀ c → Preparing v u' target c₀ c) : Mid v u' target cs (a ++ c :: b) := by
  obtain ⟨hplays, hspare⟩ := paused_stream hu hx
  have hstreams : u'.streams = u.streams := by
    rw [hu, hx.setStreamPaused]
    split <;> rfl
  have hdevices : ∀ e', u'.devices e' ≠ none → u.devices e' ≠ none := by
    intro e' he'
    by_cases hee : e' = e
    · rw [hee, hx.device]
      simp
    · rw [hu, hx.setStreamPaused] at he'
      cases p with
      | true => exact fun hn => he' ((upd_ne _ _ hee).trans hn)
      | false => exact he'
  refine h.step (hspare.mono fun t' ht' => by rw [ht']; exact ht) hnew h.nodup (fun e' he' => ?_) (fun t' ht' => ?_)
    (fun t' _ ht' => by rw [hstreams]; exact ht')
  · by_cases hold : ∃ r y, c.replacement = some r ∧ u.Plays r e' y true
    · left
      obtain ⟨r, y, hr, hy⟩ := hold
      refine ⟨r, ?_⟩
      by_cases hrt : r = t
      · rw [hrt] at hr hy ⊢
        obtain ⟨hee, -⟩ := hy.unique hx
        rw [hee]
        exact ⟨_, hr, hplays⟩
      · exact ⟨y, hr, hspare _ _ _ _ hrt hy⟩
    · exact .inr ⟨hdevices e' he', fun r y hr hy => hold ⟨r, y, hr, hy⟩⟩
  · rw [hstreams] at ht'
    by_cases hr : c.replacement = some t'
    · exact .inl hr
    · exact .inr ⟨ht', hr⟩

/-- The old stream is paused, or resumed where it was running. -/
theorem Mid.paused_old (h : Mid v u target cs (a ++ c :: b)) {p q : Bool}
    (hu : u' = if p then u.setStreamPaused c.stream q else u) (hq : q = true ∨ ∀ d x, v.Plays c.stream d x true → x.paused = q) :
    Mid v u' target cs (a ++ c :: b) := by
  obtain ⟨c₀, -, hprep⟩ := forall₂_mem h.captures (List.mem_append_right a List.mem_cons_self)
  obtain ⟨d, x, x', -, hx', -⟩ := hprep.old
  rw [← hprep.stream] at hx'
  refine h.paused List.mem_cons_self hx' hu fun c₁ hprep₁ => ⟨hprep₁.stream, hprep₁.running, ?_, fun r hr => ?_⟩
  · obtain ⟨d₁, x₁, x₁', hx₁, hx₁', hphys, hpause⟩ := hprep₁.old
    rw [← hprep₁.stream] at hx₁ hx₁' ⊢
    refine ⟨d₁, x₁, _, hx₁, (paused_stream hu hx₁').1, hphys, ?_⟩
    cases p with
    | false => exact hpause
    | true =>
      rcases hq with hq | hq
      · exact .inr hq
      · exact .inl (hq d₁ x₁ hx₁).symm
  · obtain ⟨hnone, e, y, hy, hphys⟩ := hprep₁.new r hr
    refine ⟨hnone, e, y, (paused_stream hu hx').2 _ _ _ _ (fun hrs => ?_) hy, hphys⟩
    rw [hrs, hprep₁.stream] at hnone
    obtain ⟨d₁, x₁, -, hx₁, -⟩ := hprep₁.old
    rw [hx₁.stream] at hnone
    cases hnone

/-- The replacement of a running capture is resumed. -/
theorem Mid.resumed_new (h : Mid v u target cs (a ++ c :: b)) {p : Bool}
    (hr : c.replacement = some r) (hrun : c.running = true) (hu : u' = if p then u.setStreamPaused r false else u) :
    Mid v u' target cs (a ++ c :: b) := by
  obtain ⟨c₀, -, hprep⟩ := forall₂_mem h.captures (List.mem_append_right a List.mem_cons_self)
  obtain ⟨-, e, y, hy, -⟩ := hprep.new r hr
  refine h.paused (mem_tokens hr) hy hu fun c₁ hprep₁ => ⟨hprep₁.stream, hprep₁.running, ?_, fun r' hr' => ?_⟩
  · obtain ⟨d₁, x₁, x₁', hx₁, hx₁', hphys⟩ := hprep₁.old
    refine ⟨d₁, x₁, x₁', hx₁, (paused_stream hu hy).2 _ _ _ _ (fun hsr => ?_) hx₁', hphys⟩
    have hnone := (hprep₁.new r hr).1
    rw [← hsr, hx₁.stream] at hnone
    cases hnone
  · rw [hr] at hr'
    cases hr'
    obtain ⟨hnone, e₁, y₁, hy₁, hphys, hpause⟩ := hprep₁.new r hr
    refine ⟨hnone, e₁, _, (paused_stream hu hy₁).1, hphys, ?_⟩
    cases p with
    | false => exact hpause
    | true =>
      right
      rw [← hprep₁.running, hrun]
      rfl

/-- A replacement is given up. -/
theorem Mid.cancelled (h : Mid v u target cs (a ++ c :: b)) (hr : c.replacement = some r)
    (hu : u' = u.destroyStream r) : Mid v u' target cs (a ++ { c with replacement := none } :: b) := by
  obtain ⟨c₀, -, hprep⟩ := forall₂_mem h.captures (List.mem_append_right a List.mem_cons_self)
  obtain ⟨hvr, e, y, hy, -⟩ := hprep.new r hr
  obtain ⟨hspare, hdevices, hstreams⟩ := destroyed_plays hy hu
  refine h.step (hspare.mono fun t ht => by rw [ht]; exact mem_tokens hr)
    (fun c₁ hprep₁ => ⟨hprep₁.stream, hprep₁.running, ?_, nofun⟩) ?_ (fun e' he' => ?_) (fun t ht => ?_) (fun t hvt ht => ?_)
  · obtain ⟨d₁, x₁, x₁', hx₁, hx₁', hphys⟩ := hprep₁.old
    refine ⟨d₁, x₁, x₁', hx₁, hspare _ _ _ _ (fun hsr => ?_) hx₁', hphys⟩
    rw [← hsr, hx₁.stream] at hvr
    cases hvr
  · have hn := h.nodup
    rw [List.flatMap_append, List.flatMap_cons] at hn ⊢
    have hsub : ({ c with replacement := none } : SdlAudioCapture).tokens.Sublist c.tokens :=
      List.Sublist.cons_cons _ (List.nil_sublist _)
    exact hn.sublist ((hsub.append (List.Sublist.refl _)).append_left _)
  · obtain ⟨hopen, hne⟩ := hdevices e' he'
    refine .inr ⟨hopen, fun r' y' hr' hy' => ?_⟩
    rw [hr] at hr'
    cases hr'
    exact hne (hy'.unique hy).1
  · obtain ⟨hopen, hne⟩ := hstreams t ht
    refine .inr ⟨hopen, fun hrt => ?_⟩
    rw [hr] at hrt
    exact hne (Option.some.inj hrt).symm
  · -- A stream that was there before is not the replacement.
    intro hn
    have htr : t ≠ r := fun he => hvt (by rw [he]; exact hvr)
    rw [hu, View.destroyStream, hy.stream] at hn
    have hn : (upd u.streams r none) t = none := Option.map_eq_none_iff.mp hn
    rw [upd_ne _ _ htr] at hn
    exact ht hn

/-! ## The first half -/

theorem prepareSwitch_loop (hdoc : Documented S view) (w : World σ) (h : Mid v (view w.sdl) (recordingDevice id) cs cs')
    (hnone : ∀ c ∈ cs', c.replacement = none) :
    Mid v (view (eachCapture (prepareSwitch S id) w cs').1.sdl) (recordingDevice id) cs
      (eachCapture (prepareSwitch S id) w cs').2.1 ∧
    ((eachCapture (prepareSwitch S id) w cs').2.2.ok = true →
      ∀ c ∈ (eachCapture (prepareSwitch S id) w cs').2.1, c.replacement ≠ none) := by
  have hloop := eachCapture_spec (f := prepareSwitch S id)
    (I := fun w a b => Mid v (view w.sdl) (recordingDevice id) cs (a ++ b) ∧ (∀ c ∈ a, c.replacement ≠ none) ∧
      ∀ c ∈ b, c.replacement = none)
    (J := fun w l => Mid v (view w.sdl) (recordingDevice id) cs l) ?_ cs' [] w ⟨h, nofun, hnone⟩
  · by_cases hok : (eachCapture (prepareSwitch S id) w cs').2.2.ok = true
    · rw [if_pos hok] at hloop
      obtain ⟨hmid, hall, -⟩ := hloop
      exact ⟨by simpa using hmid, fun _ => by simpa using hall⟩
    · rw [if_neg hok] at hloop
      exact ⟨by simpa using hloop, fun hyes => absurd hyes hok⟩
  · intro w a c b hI
    obtain ⟨hmid, ha, hb⟩ := hI
    have hc := hb c List.mem_cons_self
    cases ho : S.openAudioDeviceStream w.sdl (recordingDevice id) with
    | mk x o =>
      cases o with
      | none =>
        have hsame : ({ c with replacement := none } : SdlAudioCapture) = c := by cases c; cases hc; rfl
        simp only [prepareSwitch, World.opened, ho, ok_sdlError, Bool.false_eq_true, if_false, hsame,
          hdoc.openStream_none _ _ _ ho]
        exact hmid
      | some r =>
        obtain ⟨e, he, hr, hx⟩ := hdoc.openStream_some _ _ _ _ ho
        simp only [prepareSwitch, World.opened, ho, Status.ok_okStatus, if_true, List.append_assoc, List.singleton_append, hx]
        refine ⟨hmid.prepared hc hr he (plays_openDeviceStream hdoc he), fun c' hc' => ?_, fun c' hc' =>
          hb c' (List.mem_cons_of_mem _ hc')⟩
        rcases List.mem_append.mp hc' with hc' | hc'
        · exact ha c' hc'
        · rw [List.mem_singleton.mp hc']
          simp

theorem pauseForSwitch_loop (hdoc : Documented S view) (w : World σ) (h : Mid v (view w.sdl) target cs cs')
    (hall : ∀ c ∈ cs', c.replacement ≠ none) :
    Mid v (view (eachCapture (pauseForSwitch S) w cs').1.sdl) target cs (eachCapture (pauseForSwitch S) w cs').2.1 ∧
    ∀ c ∈ (eachCapture (pauseForSwitch S) w cs').2.1, c.replacement ≠ none := by
  have hloop := eachCapture_spec (f := pauseForSwitch S)
    (I := fun w a b => Mid v (view w.sdl) target cs (a ++ b) ∧ ∀ c ∈ a ++ b, c.replacement ≠ none)
    (J := fun w l => Mid v (view w.sdl) target cs l ∧ ∀ c ∈ l, c.replacement ≠ none) ?_ cs' [] w ⟨h, hall⟩
  · split at hloop
    · simpa using hloop
    · simpa using hloop
  · intro w a c b hI
    obtain ⟨hmid, hall⟩ := hI
    -- Whatever the answers are, the old stream is paused at most.
    cases hp : S.pauseAudioStreamDevice w.sdl c.stream with
    | mk x p =>
      have hx : Mid v (view x) target cs (a ++ c :: b) := hmid.paused_old (hdoc.pauseStream _ _ _ _ hp) (.inl rfl)
      cases p with
      | false =>
        simp only [pauseForSwitch, World.answered, hp, ok_sdlError, Bool.false_eq_true, if_false]
        exact ⟨hx, hall⟩
      | true =>
        cases hl : S.lockAudioStream x c.stream with
        | mk y l =>
          have hy : view y = view x := by
            have hlock := hdoc.lock x c.stream
            rw [hl] at hlock
            exact hlock
          cases l with
          | false =>
            simp only [pauseForSwitch, World.answered, hp, hl, ok_sdlError, Bool.false_eq_true, if_false, hy]
            exact ⟨hx, hall⟩
          | true =>
            simp only [pauseForSwitch, World.answered, hp, hl, Status.ok_okStatus, if_true, hdoc.unlock, hy, List.append_assoc,
              List.singleton_append]
            exact ⟨hx, hall⟩

/-- The replacement is in the state of the capture. -/
def Started (u : View) (target : Nat) (c : SdlAudioCapture) : Prop :=
  ∃ r e y, c.replacement = some r ∧ u.Plays r e y true ∧ y.physical = target ∧ y.paused = !c.running

theorem startReplacement_loop (hdoc : Documented S view) (w : World σ) (h : Mid v (view w.sdl) target cs cs')
    (hall : ∀ c ∈ cs', c.replacement ≠ none) :
    Mid v (view (eachCapture (startReplacement S) w cs').1.sdl) target cs (eachCapture (startReplacement S) w cs').2.1 ∧
    ((eachCapture (startReplacement S) w cs').2.2.ok = true →
      ∀ c ∈ (eachCapture (startReplacement S) w cs').2.1,
        Started (view (eachCapture (startReplacement S) w cs').1.sdl) target c) := by
  have hloop := eachCapture_spec (f := startReplacement S)
    (I := fun w a b => Mid v (view w.sdl) target cs (a ++ b) ∧ (∀ c ∈ a, Started (view w.sdl) target c) ∧
      ∀ c ∈ b, c.replacement ≠ none)
    (J := fun w l => Mid v (view w.sdl) target cs l) ?_ cs' [] w ⟨h, nofun, hall⟩
  · by_cases hok : (eachCapture (startReplacement S) w cs').2.2.ok = true
    · rw [if_pos hok] at hloop
      obtain ⟨hmid, hstarted, -⟩ := hloop
      exact ⟨by simpa using hmid, fun _ => by simpa using hstarted⟩
    · rw [if_neg hok] at hloop
      exact ⟨by simpa using hloop, fun hyes => absurd hyes hok⟩
  · intro w a c b hI
    obtain ⟨hmid, ha, hb⟩ := hI
    obtain ⟨r, hr⟩ := Option.ne_none_iff_exists'.mp (hb c List.mem_cons_self)
    obtain ⟨c₀, -, hprep⟩ := forall₂_mem hmid.captures (List.mem_append_right a List.mem_cons_self)
    obtain ⟨-, e, y, hy, hphys, hpause⟩ := hprep.new r hr
    have hrest : ∀ c' ∈ b, c'.replacement ≠ none := fun c' hc' => hb c' (List.mem_cons_of_mem _ hc')
    cases hrun : c.running with
    | false =>
      have hpaused : y.paused = true := by
        rcases hpause with hp | hp
        · exact hp
        · rw [hp, ← hprep.running, hrun]
          rfl
      simp only [startReplacement, hrun, Status.ok_okStatus, if_true, List.append_assoc, List.singleton_append]
      refine ⟨hmid, fun c' hc' => ?_, hrest⟩
      rcases List.mem_append.mp hc' with hc' | hc'
      · exact ha c' hc'
      · rw [List.mem_singleton.mp hc']
        exact ⟨r, e, y, hr, hy, hphys, by rw [hpaused, hrun]; rfl⟩
    | true =>
      cases hq : S.resumeAudioStreamDevice w.sdl r with
      | mk x q =>
        have hx := hdoc.resumeStream _ _ _ _ hq
        have hmid' := hmid.resumed_new hr hrun hx
        obtain ⟨hplays, hspare⟩ := paused_stream hx hy
        cases q with
        | false =>
          simp only [startReplacement, hrun, hr, World.answered, hq, ok_sdlError, Bool.false_eq_true, if_false]
          exact hmid'
        | true =>
          simp only [startReplacement, hrun, hr, World.answered, hq, Status.ok_okStatus, if_true, List.append_assoc,
            List.singleton_append]
          refine ⟨hmid', fun c' hc' => ?_, hrest⟩
          rcases List.mem_append.mp hc' with hc' | hc'
          · obtain ⟨r', e', y', hr', hy', hrest'⟩ := ha c' hc'
            refine ⟨r', e', y', hr', hspare _ _ _ _ (fun he => ?_) hy', hrest'⟩
            exact other_tokens hmid.nodup (.inl hc') (mem_tokens hr') (by rw [he]; exact mem_tokens hr)
          · rw [List.mem_singleton.mp hc']
            exact ⟨r, e, _, hr, hplays, hphys, by rw [hrun]; rfl⟩

/-- Up to the last replacement started, or to the first call that failed. -/
theorem startReplacements_spec (hdoc : Documented S view) (w : World σ) (h : Mid v (view w.sdl) (recordingDevice id) cs cs')
    (hnone : ∀ c ∈ cs', c.replacement = none) :
    Mid v (view (startReplacements S id w cs').1.sdl) (recordingDevice id) cs (startReplacements S id w cs').2.1 ∧
    ((startReplacements S id w cs').2.2.ok = true → ∀ c ∈ (startReplacements S id w cs').2.1,
      Started (view (startReplacements S id w cs').1.sdl) (recordingDevice id) c) := by
  obtain ⟨hprepared, hall⟩ := prepareSwitch_loop hdoc w h hnone
  simp only [startReplacements]
  by_cases hok : (eachCapture (prepareSwitch S id) w cs').2.2.ok = true
  · simp only [hok, if_true]
    obtain ⟨hpaused, hall⟩ := pauseForSwitch_loop hdoc _ hprepared (hall hok)
    split
    · exact startReplacement_loop hdoc _ hpaused hall
    · rename_i hno
      exact ⟨hpaused, fun hyes => absurd hyes hno⟩
  · simp only [hok, if_false, Bool.false_eq_true]
    exact ⟨hprepared, False.elim⟩

/-! ## The way back -/

theorem cancelReplacement_loop (hdoc : Documented S view) (w : World σ) (h : Mid v (view w.sdl) target cs cs') :
    Mid v (view (eachCapture (cancelReplacement S) w cs').1.sdl) target cs (eachCapture (cancelReplacement S) w cs').2.1 ∧
    ∀ c ∈ (eachCapture (cancelReplacement S) w cs').2.1, c.replacement = none := by
  have hok : ∀ (w : World σ) c, (cancelReplacement S w c).2.2.ok = true := by
    intro w c
    unfold cancelReplacement
    split <;> rfl
  have hloop := eachCapture_spec (f := cancelReplacement S)
    (I := fun w a b => Mid v (view w.sdl) target cs (a ++ b) ∧ ∀ c ∈ a, c.replacement = none)
    (J := fun w l => Mid v (view w.sdl) target cs l ∧ ∀ c ∈ l, c.replacement = none) ?_ cs' [] w ⟨h, nofun⟩
  · split at hloop
    · simpa using hloop
    · simpa using hloop
  · intro w a c b hI
    obtain ⟨hmid, ha⟩ := hI
    rw [if_pos (hok w c), List.append_assoc, List.singleton_append]
    -- The capture that was just at hand is one of those without a replacement.
    have hdone : ∀ c', c'.replacement = none → ∀ x ∈ a ++ [c'], x.replacement = none := by
      intro c' hc' x hx
      rcases List.mem_append.mp hx with hx | hx
      · exact ha x hx
      · rw [List.mem_singleton.mp hx]
        exact hc'
    cases hr : c.replacement with
    | none =>
      simp only [cancelReplacement, hr]
      exact ⟨hmid, hdone c hr⟩
    | some r =>
      simp only [cancelReplacement, hr]
      exact ⟨hmid.cancelled hr (hdoc.destroy _ _), hdone _ rfl⟩

/-- The old stream of a running capture is not paused. -/
def Resumed (u : View) (c : SdlAudioCapture) : Prop :=
  c.running = true → ∃ d x, u.Plays c.stream d x true ∧ x.paused = false

theorem restoreAfterSwitch_loop (hdoc : Documented S view) (w : World σ) (h : Mid v (view w.sdl) target cs cs')
    (hnone : ∀ c ∈ cs', c.replacement = none)
    (hv : ∀ c ∈ cs, c.running = true → ∀ d x, v.Plays c.stream d x true → x.paused = false)
    (hu : (eachCapture (restoreAfterSwitch S) w cs').1.undone = true) :
    Mid v (view (eachCapture (restoreAfterSwitch S) w cs').1.sdl) target cs (eachCapture (restoreAfterSwitch S) w cs').2.1 ∧
    ∀ c ∈ (eachCapture (restoreAfterSwitch S) w cs').2.1,
      c.replacement = none ∧ Resumed (view (eachCapture (restoreAfterSwitch S) w cs').1.sdl) c := by
  have hloop := eachCapture_spec (f := restoreAfterSwitch S)
    (I := fun w a b => Mid v (view w.sdl) target cs (a ++ b) ∧ (∀ c ∈ a ++ b, c.replacement = none) ∧
      ∀ c ∈ a, Resumed (view w.sdl) c)
    (J := fun w _ => w.undone = false) ?_ cs' [] w ⟨h, hnone, nofun⟩
  · split at hloop
    · obtain ⟨hmid, hnone, hresumed⟩ := hloop
      simp only [List.nil_append, List.append_nil] at hmid hnone hresumed
      exact ⟨hmid, fun c hc => ⟨hnone c hc, hresumed c hc⟩⟩
    · rw [hloop] at hu
      cases hu
  · intro w a c b hI
    obtain ⟨hmid, hnone, ha⟩ := hI
    by_cases hrun : c.running = false
    · simp only [restoreAfterSwitch, hrun, if_true, Status.ok_okStatus, List.append_assoc, List.singleton_append]
      refine ⟨hmid, hnone, fun x hx => ?_⟩
      rcases List.mem_append.mp hx with hx | hx
      · exact ha x hx
      · rw [List.mem_singleton.mp hx]
        intro hyes
        rw [hrun] at hyes
        cases hyes
    · have hrun : c.running = true := by simpa using hrun
      obtain ⟨c₀, hc₀, hprep⟩ := forall₂_mem hmid.captures (List.mem_append_right a List.mem_cons_self)
      obtain ⟨d, x, x', hx, hx', -⟩ := hprep.old
      rw [← hprep.stream] at hx'
      cases hq : S.resumeAudioStreamDevice w.sdl c.stream with
      | mk y q =>
        have hy := hdoc.resumeStream _ _ _ _ hq
        obtain ⟨hplays, hspare⟩ := paused_stream hy hx'
        cases q with
        | false =>
          simp [restoreAfterSwitch, hrun, World.answered, hq]
        | true =>
          simp only [restoreAfterSwitch, hrun, Bool.true_eq_false, if_false, World.answered, hq, Status.ok_okStatus, if_true,
            List.append_assoc, List.singleton_append]
          refine ⟨hmid.paused_old hy (.inr fun d x hp => ?_), hnone, fun c' hc' => ?_⟩
          · rw [hprep.stream] at hp
            exact hv c₀ hc₀ (by rw [← hprep.running]; exact hrun) d x hp
          · rcases List.mem_append.mp hc' with hc' | hc'
            · intro hrun'
              obtain ⟨d', z, hz, hzp⟩ := ha c' hc' hrun'
              refine ⟨d', z, hspare _ _ _ _ (fun he => ?_) hz, hzp⟩
              exact other_tokens hmid.nodup (.inl hc') List.mem_cons_self (by rw [he]; exact List.mem_cons_self)
            · rw [List.mem_singleton.mp hc']
              exact fun _ => ⟨d, _, hplays, rfl⟩

/-! ## The commit -/

/-- The capture has its replacement for its stream, in the state it is in. -/
structure Committed (u : View) (target : Nat) (c c' : SdlAudioCapture) : Prop where
  running : c'.running = c.running
  replacement : c'.replacement = none
  plays : ∃ e y, u.Plays c'.stream e y true ∧ y.physical = target ∧ y.paused = !c.running

/-- In the middle of the commit: some captures have gone over, the others are ready to. -/
structure Committing (v u : View) (target : Nat) (cs a b : List SdlAudioCapture) : Prop where
  done : ∃ cs₁ cs₂, cs = cs₁ ++ cs₂ ∧ List.Forall₂ (Committed u target) cs₁ a ∧ List.Forall₂ (Preparing v u target) cs₂ b
  started : ∀ c ∈ b, Started u target c
  nodup : ((a ++ b).flatMap (·.tokens)).Nodup
  spares : v.Spares u fun t => t ∈ cs.map (·.stream)

theorem Committing.step (h : Committing v u target cs a (c :: b))
    (hr : c.replacement = some r) (hu : u' = u.destroyStream c.stream) :
    Committing v u' target cs (a ++ [{ c with stream := r, replacement := none }]) b := by
  obtain ⟨cs₁, cs₂, hcs, hdone, hprep⟩ := h.done
  cases hprep with
  | @cons c₀ _ cs₂ _ hc hrest =>
    obtain ⟨d, x, x', -, hx', -⟩ := hc.old
    rw [← hc.stream] at hx'
    obtain ⟨hspare, -, -⟩ := destroyed_plays hx' hu
    -- A stream of another capture is not the one that goes.
    have hother : ∀ c', c' ∈ a ∨ c' ∈ b → ∀ t ∈ c'.tokens, t ≠ c.stream := fun c' hc' t ht he =>
      other_tokens h.nodup hc' ht (by rw [he]; exact List.mem_cons_self)
    have hrs : r ≠ c.stream := by
      intro he
      have hn := h.nodup
      rw [List.flatMap_append, List.flatMap_cons, List.nodup_append, List.nodup_append] at hn
      have htok := hn.2.1.1
      rw [SdlAudioCapture.tokens, hr, he] at htok
      simp at htok
    refine ⟨⟨cs₁ ++ [c₀], cs₂, by rw [hcs]; simp, ?_, ?_⟩, fun c' hc' => ?_, ?_, ?_⟩
    · refine List.rel_append (forall₂_imp_mem hdone fun c₁ c₁' hmem hc₁ => ?_) (.cons ?_ .nil)
      · obtain ⟨e, y, hy, hp⟩ := hc₁.plays
        exact ⟨hc₁.running, hc₁.replacement, e, y, hspare _ _ _ _ (hother c₁' (.inl hmem) _ List.mem_cons_self) hy, hp⟩
      · obtain ⟨r', e, y, hr', hy, hphys, hpaused⟩ := h.started c List.mem_cons_self
        rw [hr] at hr'
        cases hr'
        refine ⟨hc.running, rfl, e, y, hspare _ _ _ _ hrs hy, hphys, ?_⟩
        rw [hpaused, hc.running]
    · exact forall₂_imp_mem hrest fun c₁ c₁' hmem hc₁ => hc₁.spared hspare fun t ht => hother c₁' (.inr hmem) t ht
    · obtain ⟨r', e, y, hr', hy, hp⟩ := h.started c' (List.mem_cons_of_mem _ hc')
      exact ⟨r', e, y, hr', hspare _ _ _ _ (hother c' (.inr hc') r' (mem_tokens hr')) hy, hp⟩
    · have hn := h.nodup
      rw [List.append_assoc, List.singleton_append]
      rw [List.flatMap_append, List.flatMap_cons] at hn ⊢
      have hsub : ({ c with stream := r, replacement := none } : SdlAudioCapture).tokens.Sublist c.tokens := by
        rw [SdlAudioCapture.tokens, SdlAudioCapture.tokens, hr]
        exact List.sublist_cons_self _ _
      exact hn.sublist ((hsub.append (List.Sublist.refl _)).append_left _)
    · intro t e y owns ht hp
      refine hspare _ _ _ _ (fun he => ht ?_) (h.spares t e y owns ht hp)
      rw [he, hc.stream, hcs]
      simp

theorem commitSwitch_loop (hdoc : Documented S view) (w : World σ) (h : Mid v (view w.sdl) target cs cs')
    (hstarted : ∀ c ∈ cs', Started (view w.sdl) target c) :
    Committing v (view (eachCapture (commitSwitch S) w cs').1.sdl) target cs (eachCapture (commitSwitch S) w cs').2.1 [] := by
  have hok : ∀ (w : World σ) c, (commitSwitch S w c).2.2.ok = true := by
    intro w c
    unfold commitSwitch
    split <;> rfl
  have hfirst : Committing v (view w.sdl) target cs [] cs' :=
    ⟨⟨[], cs, rfl, .nil, h.captures⟩, hstarted, h.nodup, h.spares⟩
  have hloop := eachCapture_spec (f := commitSwitch S) (I := fun w a b => Committing v (view w.sdl) target cs a b)
    (J := fun w l => Committing v (view w.sdl) target cs l []) ?_ cs' [] w hfirst
  · split at hloop
    · exact hloop
    · exact hloop
  · intro w a c b hI
    rw [if_pos (hok w c)]
    obtain ⟨r, -, -, hr, -⟩ := hI.started c List.mem_cons_self
    simp only [commitSwitch, hr]
    exact hI.step hr (hdoc.destroy _ _)

/-! ## All captures -/

/-- Each capture has its stream with a device of its own, which plays if the capture runs. -/
structure CapturesSound (v : View) (cs : List SdlAudioCapture) : Prop where
  plays : ∀ c ∈ cs, c.replacement = none ∧ ∃ d x, v.Plays c.stream d x true ∧ (c.running = true → x.paused = false)
  nodup : (cs.map (·.stream)).Nodup

theorem tokens_of_none (h : ∀ c ∈ cs, c.replacement = none) : cs.flatMap (·.tokens) = cs.map (·.stream) := by
  induction cs with
  | nil => rfl
  | cons c cs ih =>
    rw [List.flatMap_cons, ih fun c' hc' => h c' (List.mem_cons_of_mem _ hc'), SdlAudioCapture.tokens, h c List.mem_cons_self]
    rfl

theorem CapturesSound.mid (h : CapturesSound v cs) (target : Nat) : Mid v v target cs cs := by
  refine ⟨?_, ?_, View.spares_refl v _, fun _ he => .inl he, fun _ ht => .inl ht, fun _ ht => ht⟩
  · refine List.forall₂_same.mpr fun c hc => ?_
    obtain ⟨hnone, d, x, hx, -⟩ := h.plays c hc
    refine ⟨rfl, rfl, ⟨d, x, x, hx, hx, rfl, .inl rfl⟩, fun r hr => ?_⟩
    rw [hnone] at hr
    cases hr
  · rw [tokens_of_none fun c hc => (h.plays c hc).1]
    exact h.nodup

/-- What a switch owes to a capture: it runs if it ran, on a device opened for `physical` of the one it was on, and the
    device is paused as it was, or as the capture is. -/
def Carries (v u : View) (physical : Nat → Nat) (c c' : SdlAudioCapture) : Prop :=
  c'.running = c.running ∧ ∃ d x d' x', v.Plays c.stream d x true ∧ u.Plays c'.stream d' x' true ∧
    x'.physical = physical x.physical ∧ (c.running = true → x.paused = false ∧ x'.paused = false) ∧
    (x'.paused = x.paused ∨ x'.paused = !c.running)

structure RecordingSwitched (v u : View) (p p' : Recording) (id : Nat) (result : Except Status Text) : Prop where
  sound : CapturesSound u p'.liveCaptures
  spares : v.Spares u fun t => t ∈ p.liveCaptures.map (·.stream)
  done : ∀ name, result = .ok name → p'.configuredDeviceId = id ∧ p'.configuredDeviceName = name ∧
    List.Forall₂ (Carries v u fun _ => recordingDevice id) p.liveCaptures p'.liveCaptures
  undone : ∀ status, result = .error status → p'.configuredDeviceId = p.configuredDeviceId ∧
    p'.configuredDeviceName = p.configuredDeviceName ∧
    List.Forall₂ (Carries v u fun physical => physical) p.liveCaptures p'.liveCaptures ∧
    p'.liveCaptures.map (·.stream) = p.liveCaptures.map (·.stream) ∧
    (∀ e, u.devices e ≠ none → v.devices e ≠ none) ∧ ∀ t, u.streams t ≠ none → v.streams t ≠ none

theorem committed_sound (h : CapturesSound v cs) (hc : Committing v u (recordingDevice id) cs cs' []) :
    CapturesSound u cs' ∧ List.Forall₂ (Carries v u fun _ => recordingDevice id) cs cs' := by
  obtain ⟨cs₁, cs₂, hcs, hdone, hrest⟩ := hc.done
  cases hrest
  rw [List.append_nil] at hcs
  subst hcs
  have hnone : ∀ c ∈ cs', c.replacement = none := fun c hmem => by
    obtain ⟨c₀, -, hcommit⟩ := forall₂_mem hdone hmem
    exact hcommit.replacement
  refine ⟨⟨fun c hmem => ?_, ?_⟩, ?_⟩
  · obtain ⟨c₀, -, hcommit⟩ := forall₂_mem hdone hmem
    obtain ⟨e, y, hy, -, hpaused⟩ := hcommit.plays
    refine ⟨hnone c hmem, e, y, hy, fun hrun => ?_⟩
    rw [hpaused, ← hcommit.running, hrun]
    rfl
  · have hn := hc.nodup
    rw [List.append_nil, tokens_of_none hnone] at hn
    exact hn
  · have hplays : ∀ c ∈ cs, ∃ d x, v.Plays c.stream d x true ∧ (c.running = true → x.paused = false) := fun c hmem =>
      (h.plays c hmem).2
    -- Pair each capture's state before with its state now.
    clear hc hnone h
    induction hdone with
    | nil => exact .nil
    | @cons c c' cs cs' hcommit _ ih =>
      refine .cons ?_ (ih fun c₁ hmem => hplays c₁ (List.mem_cons_of_mem _ hmem))
      obtain ⟨d, x, hx, hrun⟩ := hplays c List.mem_cons_self
      obtain ⟨e, y, hy, hphys, hpaused⟩ := hcommit.plays
      refine ⟨hcommit.running, d, x, e, y, hx, hy, hphys, fun hr => ⟨hrun hr, ?_⟩, .inr hpaused⟩
      rw [hpaused, hr]
      rfl

theorem restored_sound (h : CapturesSound v cs) (hm : Mid v u target cs cs')
    (hr : ∀ c ∈ cs', c.replacement = none ∧ Resumed u c) :
    CapturesSound u cs' ∧ List.Forall₂ (Carries v u fun physical => physical) cs cs' ∧
    cs'.map (·.stream) = cs.map (·.stream) ∧ (∀ e, u.devices e ≠ none → v.devices e ≠ none) ∧
    ∀ t, u.streams t ≠ none → v.streams t ≠ none := by
  have hstreams : cs'.map (·.stream) = cs.map (·.stream) := by
    have hcaptures := hm.captures
    clear hm hr h
    induction hcaptures with
    | nil => rfl
    | cons hc _ ih => rw [List.map_cons, List.map_cons, hc.stream, ih]
  refine ⟨⟨fun c hmem => ?_, by rw [hstreams]; exact h.nodup⟩, ?_, hstreams, fun e he => ?_, fun t ht => ?_⟩
  · obtain ⟨c₀, -, hprep⟩ := forall₂_mem hm.captures hmem
    obtain ⟨hnone, hresumed⟩ := hr c hmem
    obtain ⟨d, x, x', -, hx', -⟩ := hprep.old
    rw [← hprep.stream] at hx'
    refine ⟨hnone, d, x', hx', fun hrun => ?_⟩
    obtain ⟨d', y, hy, hpaused⟩ := hresumed hrun
    rw [(hx'.unique hy).2]
    exact hpaused
  · have hplays : ∀ c ∈ cs, ∀ d x, v.Plays c.stream d x true → c.running = true → x.paused = false := by
      intro c hmem d x hx hrun
      obtain ⟨-, d', y, hy, hpaused⟩ := h.plays c hmem
      rw [(hx.unique hy).2]
      exact hpaused hrun
    have hcaptures := hm.captures
    clear hm h hstreams
    induction hcaptures with
    | nil => exact .nil
    | @cons c c' cs cs' hprep _ ih =>
      refine .cons ?_ (ih (fun c₁ hmem => hr c₁ (List.mem_cons_of_mem _ hmem)) fun c₁ hmem =>
        hplays c₁ (List.mem_cons_of_mem _ hmem))
      obtain ⟨d, x, x', hx, hx', hphys, hpaused⟩ := hprep.old
      rw [← hprep.stream] at hx'
      have hrun : c.running = true → x.paused = false ∧ x'.paused = false := by
        intro hc
        refine ⟨hplays c List.mem_cons_self d x hx hc, ?_⟩
        obtain ⟨d', y, hy, hyp⟩ := (hr c' List.mem_cons_self).2 (by rw [hprep.running]; exact hc)
        rw [(hx'.unique hy).2]
        exact hyp
      refine ⟨hprep.running, d, x, d, x', hx, hx', hphys, hrun, ?_⟩
      rcases hpaused with hp | hp
      · exact .inl hp
      · right
        cases hc : c.running with
        | false => exact hp
        | true =>
          rw [(hrun hc).2] at hp
          cases hp
  · rcases hm.devices e he with hold | ⟨c, hc, r, y, hcr, -⟩
    · exact hold
    · rw [(hr c hc).1] at hcr
      cases hcr
  · rcases hm.streams t ht with hold | ⟨c, hc, hcr⟩
    · exact hold
    · rw [(hr c hc).1] at hcr
      cases hcr

/-- The text of a device's number is resolved to that number. -/
theorem resolve_id {devices : List (Nat × Text)} {found : Nat × Text}
    (h : resolveSdlRecordingDevice (if id = 0 then ascii "default" else ascii "id:" ++ ascii (toString id)) devices = .ok found) :
    found.1 = id := by
  by_cases hid : id = 0
  · rw [if_pos hid] at h
    have hdefault : resolveSdlRecordingDevice (ascii "default") devices = .ok (0, ascii "default") := by
      simp [resolveSdlRecordingDevice, ascii]
    rw [hdefault] at h
    cases h
    exact hid.symm
  · rw [if_neg hid] at h
    have htake : (ascii "id:" ++ ascii (toString id)).take 3 = ascii "id:" := by simp [ascii]
    have hdrop : (ascii "id:" ++ ascii (toString id)).drop 3 = ascii (toString id) := by simp [ascii]
    have hne : ascii "id:" ++ ascii (toString id) ≠ ascii "default" := by simp [ascii]
    unfold resolveSdlRecordingDevice at h
    rw [hdrop, if_neg hne, if_pos htake] at h
    split at h
    · cases h
    · split at h
      · cases h
      · split at h
        · cases h
        · rename_i n hn
          have hn' : n = id := by
            unfold parseDeviceId at hn
            split at hn
            · cases hn
            · simp only [Launch.foldl_ascii_toString] at hn
              split at hn
              · exact (Option.some.inj hn).symm
              · cases hn
          split at h
          · cases h
          · split at h
            · cases h
            · rename_i device hfind
              cases h
              have hmatch := List.find?_some hfind
              rw [← hn']
              simpa using hmatch

variable {p : Recording}

theorem switchSdlRecordingDevice_spec (hdoc : Documented S view) (h : CapturesSound (view w.sdl) p.liveCaptures)
    {r : World σ × Recording × Except Status Text} (hr : r = switchSdlRecordingDevice S w p id) (hu : r.1.undone = true) :
    RecordingSwitched (view w.sdl) (view r.1.sdl) p r.2.1 id r.2.2 := by
  have hstill : ∀ status, RecordingSwitched (view w.sdl) (view w.sdl) p p id (.error status) := fun status => by
    refine ⟨h, View.spares_refl _ _, nofun, fun _ _ => ⟨rfl, rfl, ?_, rfl, fun _ he => he, fun _ ht => ht⟩⟩
    refine List.forall₂_same.mpr fun c hc => ?_
    obtain ⟨-, d, x, hx, hrun⟩ := h.plays c hc
    exact ⟨rfl, d, x, d, x, hx, hx, rfl, fun hr => ⟨hrun hr, hrun hr⟩, .inl rfl⟩
  unfold switchSdlRecordingDevice at hr
  cases hl : listSdlRecordingDevices S w.sdl with
  | error status =>
    simp only [hl] at hr
    subst hr
    exact hstill status
  | ok devices =>
    simp only [hl] at hr
    cases hf : resolveSdlRecordingDevice (if id = 0 then ascii "default" else ascii "id:" ++ ascii (toString id)) devices with
    | error status =>
      simp only [hf] at hr
      subst hr
      exact hstill status
    | ok found =>
      obtain ⟨resolved, name⟩ := found
      have hid : resolved = id := resolve_id hf
      subst hid
      simp only [hf] at hr
      by_cases hi : S.wasInit w.sdl = false
      · rw [if_pos hi] at hr
        subst hr
        exact hstill _
      · rw [if_neg hi] at hr
        obtain ⟨hmid, hstarted⟩ := startReplacements_spec hdoc w (h.mid (recordingDevice resolved)) fun c hc => (h.plays c hc).1
        by_cases hok : (startReplacements S resolved w p.liveCaptures).2.2.ok = true
        · rw [if_pos hok] at hr
          subst hr
          have hcommit := commitSwitch_loop hdoc _ hmid (hstarted hok)
          obtain ⟨hsound, hcarries⟩ := committed_sound h hcommit
          refine ⟨hsound, hcommit.spares, fun name' hn => ?_, nofun⟩
          cases hn
          exact ⟨rfl, rfl, hcarries⟩
        · rw [if_neg hok] at hr
          subst hr
          have hv : ∀ c ∈ p.liveCaptures, c.running = true → ∀ d x, (view w.sdl).Plays c.stream d x true → x.paused = false := by
            intro c hc hrun d x hx
            obtain ⟨-, d', y, hy, hpaused⟩ := h.plays c hc
            rw [(hx.unique hy).2]
            exact hpaused hrun
          obtain ⟨hcancelled, hnone⟩ := cancelReplacement_loop hdoc _ hmid
          obtain ⟨hrestored, hresumed⟩ := restoreAfterSwitch_loop hdoc _ hcancelled hnone hv hu
          obtain ⟨hsound, hcarries, hstreams⟩ := restored_sound h hrestored hresumed
          exact ⟨hsound, hrestored.spares, nofun, fun _ _ => ⟨rfl, rfl, hcarries, hstreams⟩⟩

theorem undone_of_each
    (hf : ∀ w c, (f w c).1.undone = true → w.undone = true) (hu : (eachCapture f w cs).1.undone = true) : w.undone = true := by
  induction cs generalizing w with
  | nil => exact hu
  | cons c cs ih =>
    simp only [eachCapture] at hu
    split at hu
    · exact hf w c (ih hu)
    · exact hf w c hu

theorem undone_of_startReplacements (hu : (startReplacements S id w cs).1.undone = true) : w.undone = true := by
  have hprepare : ∀ (w : World σ) c, (prepareSwitch S id w c).1.undone = true → w.undone = true := by
    intro w c hu
    simp only [prepareSwitch] at hu
    split at hu
    · exact World.undone_of_opened ‹_› hu
    · exact World.undone_of_opened ‹_› hu
  have hpause : ∀ (w : World σ) c, (pauseForSwitch S w c).1.undone = true → w.undone = true := by
    intro w c hu
    simp only [pauseForSwitch] at hu
    split at hu
    · exact World.undone_of_answered ‹_› hu
    · rename_i hw
      refine World.undone_of_answered hw ?_
      split at hu
      · rename_i hlock
        exact World.undone_of_answered hlock hu
      · rename_i hlock
        exact World.undone_of_answered hlock hu
  have hstart : ∀ (w : World σ) c, (startReplacement S w c).1.undone = true → w.undone = true := by
    intro w c hu
    simp only [startReplacement] at hu
    split at hu
    · exact hu
    · exact hu
    · split at hu
      · exact World.undone_of_answered ‹_› hu
      · exact World.undone_of_answered ‹_› hu
  simp only [startReplacements] at hu
  split at hu
  · split at hu
    · exact undone_of_each hprepare (undone_of_each hpause (undone_of_each hstart hu))
    · exact undone_of_each hprepare (undone_of_each hpause hu)
  · exact undone_of_each hprepare hu

theorem undone_of_switchRecording (hu : (switchSdlRecordingDevice S w p id).1.undone = true) :
    w.undone = true := by
  have hcancel : ∀ (w : World σ) c, (cancelReplacement S w c).1.undone = true → w.undone = true := by
    intro w c hu
    simp only [cancelReplacement] at hu
    split at hu <;> exact hu
  have hrestore : ∀ (w : World σ) c, (restoreAfterSwitch S w c).1.undone = true → w.undone = true := by
    intro w c hu
    simp only [restoreAfterSwitch] at hu
    split at hu
    · exact hu
    · split at hu
      · exact World.undone_of_answered ‹_› hu
      · exact World.undone_of_answered ‹_› hu
  have hcommit : ∀ (w : World σ) c, (commitSwitch S w c).1.undone = true → w.undone = true := by
    intro w c hu
    simp only [commitSwitch] at hu
    split at hu <;> exact hu
  simp only [switchSdlRecordingDevice] at hu
  split at hu
  · exact hu
  · split at hu
    · exact hu
    · split at hu
      · exact hu
      · split at hu
        · exact undone_of_startReplacements (undone_of_each hcommit hu)
        · exact undone_of_startReplacements (undone_of_each hcancel (undone_of_each hrestore hu))

/-! ## The other calls -/

theorem createSdlAudioCapture_undone (p : Recording) (requested : Nat) (memory : Bool) :
    (createSdlAudioCapture S w p requested memory).1.undone = w.undone := by
  unfold createSdlAudioCapture
  split
  · rfl
  · split
    · rfl
    · split <;> rfl

theorem startCapture_undone (p : Recording) (index : Nat) : (startCapture S w p index).1.undone = w.undone := by
  unfold startCapture
  split
  · rfl
  · split
    · rfl
    · split <;> rfl

theorem stopCapture_undone (p : Recording) (index : Nat) : (stopCapture S w p index).1.undone = w.undone := by
  unfold stopCapture
  split
  · rfl
  · dsimp only
    split <;> rfl

theorem closeCapture_undone (p : Recording) (index : Nat) : (closeCapture S w p index).1.undone = w.undone := by
  unfold closeCapture
  split <;> rfl

structure CapturesKept (v u : View) (cs cs' : List SdlAudioCapture) : Prop where
  sound : CapturesSound u cs'
  spares : v.Spares u fun t => t ∈ cs.map (·.stream)

theorem CapturesSound.kept (h : CapturesSound v cs) (hs : v.Spares u fun _ => False) : CapturesKept v u cs cs := by
  refine ⟨⟨fun c hc => ?_, h.nodup⟩, hs.mono fun _ hf => hf.elim⟩
  obtain ⟨hnone, d, x, hx, hrun⟩ := h.plays c hc
  exact ⟨hnone, d, x, hs _ _ _ _ id hx, hrun⟩

theorem createSdlAudioCapture_kept (hdoc : Documented S view) (h : CapturesSound (view w.sdl) p.liveCaptures)
    {requested : Nat} {memory : Bool} {r : World σ × Recording × Status}
    (hr : r = createSdlAudioCapture S w p requested memory) :
    CapturesKept (view w.sdl) (view r.1.sdl) p.liveCaptures r.2.1.liveCaptures := by
  have hstill : CapturesKept (view w.sdl) (view w.sdl) p.liveCaptures p.liveCaptures := h.kept (View.spares_refl _ _)
  unfold createSdlAudioCapture at hr
  by_cases hi : S.wasInit w.sdl = false
  · rw [if_pos hi] at hr
    subst hr
    exact hstill
  · rw [if_neg hi] at hr
    by_cases hm : memory = false
    · rw [if_pos hm] at hr
      subst hr
      exact hstill
    · rw [if_neg hm] at hr
      cases ho : S.openAudioDeviceStream w.sdl (recordingDevice (if requested = 0 then p.configuredDeviceId else requested)) with
      | mk x o =>
        simp only [ho] at hr
        cases o with
        | none =>
          subst hr
          rw [hdoc.openStream_none _ _ _ ho]
          exact hstill
        | some s =>
          subst hr
          obtain ⟨d, hd, hs, hx⟩ := hdoc.openStream_some _ _ _ _ ho
          have hspare : (view w.sdl).Spares (view x) fun _ => False := by
            rw [hx]
            exact View.spares_openDeviceStream hd hs _
          have hkept := h.kept hspare
          refine ⟨⟨fun c hc => ?_, ?_⟩, hkept.spares⟩
          · rcases List.mem_append.mp hc with hc | hc
            · exact hkept.sound.plays c hc
            · rw [List.mem_singleton.mp hc, hx]
              exact ⟨rfl, d, _, plays_openDeviceStream hdoc hd, nofun⟩
          · rw [List.map_append, List.nodup_append]
            refine ⟨h.nodup, by simp, fun t ht t' ht' he => ?_⟩
            have ht' : t' = s := by simpa using ht'
            obtain ⟨c, hc, rfl⟩ := List.mem_map.mp ht
            obtain ⟨-, d', y, hy, -⟩ := h.plays c hc
            have hstream := hy.stream
            rw [he, ht', hs] at hstream
            cases hstream

/-- One capture is changed: its stream plays on, or it has left the list. -/
theorem CapturesSound.replace (h : CapturesSound v (a ++ c :: b))
    (hs : v.Spares u fun t => t = c.stream) (hstream : c'.stream = c.stream) (hnone : c'.replacement = none)
    (hp : ∃ d x, u.Plays c.stream d x true ∧ (c'.running = true → x.paused = false)) :
    CapturesKept v u (a ++ c :: b) (a ++ c' :: b) := by
  have hmap : (a ++ c' :: b).map (·.stream) = (a ++ c :: b).map (·.stream) := by simp [hstream]
  have hn := h.nodup
  rw [List.map_append, List.map_cons, List.nodup_append] at hn
  obtain ⟨-, hb, hab⟩ := hn
  have hother : ∀ x, x ∈ a ∨ x ∈ b → x.stream ≠ c.stream := by
    intro x hx he
    rcases hx with hx | hx
    · exact hab x.stream (List.mem_map_of_mem hx) c.stream List.mem_cons_self he
    · exact (List.nodup_cons.mp hb).1 (by rw [← he]; exact List.mem_map_of_mem hx)
  have hkeep : ∀ x, x ∈ a ∨ x ∈ b → x ∈ a ++ c :: b → x.replacement = none ∧
      ∃ d y, u.Plays x.stream d y true ∧ (x.running = true → y.paused = false) := by
    intro x hx hmem
    obtain ⟨hr, d, y, hy, hrun⟩ := h.plays x hmem
    exact ⟨hr, d, y, hs _ _ _ _ (hother x hx) hy, hrun⟩
  refine ⟨⟨fun x hx => ?_, by rw [hmap]; exact h.nodup⟩, hs.mono fun t ht => ?_⟩
  · rcases List.mem_append.mp hx with hx | hx
    · exact hkeep x (.inl hx) (List.mem_append_left _ hx)
    · rcases List.mem_cons.mp hx with rfl | hx
      · rw [hstream]
        exact ⟨hnone, hp⟩
      · exact hkeep x (.inr hx) (List.mem_append_right _ (List.mem_cons_of_mem _ hx))
  · rw [ht]
    exact List.mem_map_of_mem (List.mem_append_right _ List.mem_cons_self)

theorem startCapture_kept (hdoc : Documented S view) (h : CapturesSound (view w.sdl) p.liveCaptures) (index : Nat) :
    CapturesKept (view w.sdl) (view (startCapture S w p index).1.sdl) p.liveCaptures
      (startCapture S w p index).2.liveCaptures := by
  have hstill : CapturesKept (view w.sdl) (view w.sdl) p.liveCaptures p.liveCaptures := h.kept (View.spares_refl _ _)
  simp only [startCapture]
  split
  · exact hstill
  · rename_i c hc
    split
    · exact hstill
    · obtain ⟨hsplit, hset⟩ := split_place hc { c with running := true }
      have hsound := h
      rw [hsplit] at hsound
      obtain ⟨hnone, d, x, hx, hrun⟩ := hsound.plays c (List.mem_append_right _ List.mem_cons_self)
      cases hq : S.resumeAudioStreamDevice w.sdl c.stream with
      | mk y q =>
        obtain ⟨hplays, hspare⟩ := paused_stream (hdoc.resumeStream _ _ _ _ hq) hx
        cases q with
        | false =>
          have hkept := hsound.replace hspare rfl hnone ⟨d, _, hplays, hrun⟩
          rw [← hsplit] at hkept
          exact hkept
        | true =>
          have hkept : CapturesKept (view w.sdl) (view y) _ (_ ++ { c with running := true } :: _) :=
            hsound.replace hspare rfl hnone ⟨d, _, hplays, fun _ => rfl⟩
          rw [← hsplit, ← hset] at hkept
          exact hkept

theorem stopCapture_kept (hdoc : Documented S view) (h : CapturesSound (view w.sdl) p.liveCaptures) (index : Nat) :
    CapturesKept (view w.sdl) (view (stopCapture S w p index).1.sdl) p.liveCaptures (stopCapture S w p index).2.liveCaptures := by
  simp only [stopCapture]
  split
  · exact h.kept (View.spares_refl _ _)
  · rename_i c hc
    obtain ⟨hsplit, hset⟩ := split_place hc { c with running := false }
    have hsound := h
    rw [hsplit] at hsound
    obtain ⟨hnone, d, x, hx, -⟩ := hsound.plays c (List.mem_append_right _ List.mem_cons_self)
    cases hq : S.pauseAudioStreamDevice w.sdl c.stream with
    | mk y q =>
      obtain ⟨hplays, hspare⟩ := paused_stream (hdoc.pauseStream _ _ _ _ hq) hx
      have hkept : CapturesKept (view w.sdl) (view y) p.liveCaptures (p.liveCaptures.set index { c with running := false }) := by
        have hkept : CapturesKept (view w.sdl) (view y) _ (_ ++ { c with running := false } :: _) :=
          hsound.replace hspare rfl hnone ⟨d, _, hplays, nofun⟩
        rw [← hsplit, ← hset] at hkept
        exact hkept
      cases q with
      | false => exact hkept
      | true =>
        simp only [hdoc.clear]
        exact hkept

theorem closeCapture_kept (hdoc : Documented S view) (h : CapturesSound (view w.sdl) p.liveCaptures) (index : Nat) :
    CapturesKept (view w.sdl) (view (closeCapture S w p index).1.sdl) p.liveCaptures
      (closeCapture S w p index).2.liveCaptures := by
  simp only [closeCapture]
  split
  · exact h.kept (View.spares_refl _ _)
  · rename_i c hc
    obtain ⟨hsplit, -⟩ := split_place hc c
    have hmem : c ∈ p.liveCaptures := List.mem_of_getElem? hc
    obtain ⟨-, d, x, hx, -⟩ := h.plays c hmem
    obtain ⟨hplays, hpause⟩ := paused_stream (hdoc.pauseStream w.sdl c.stream _ _ rfl) hx
    obtain ⟨hdestroy, -, -⟩ := destroyed_plays hplays (hdoc.destroy _ _)
    have hspare := hpause.trans hdestroy
    have hsub := List.eraseIdx_sublist p.liveCaptures index
    have hrest : ∀ c' ∈ p.liveCaptures.eraseIdx index, c'.stream ≠ c.stream := by
      intro c' hc' he
      have hn := h.nodup
      rw [hsplit, List.map_append, List.map_cons, List.nodup_append] at hn
      obtain ⟨-, hb, hab⟩ := hn
      rw [List.eraseIdx_eq_take_drop_succ] at hc'
      rcases List.mem_append.mp hc' with hc' | hc'
      · exact hab c'.stream (List.mem_map_of_mem hc') c.stream List.mem_cons_self he
      · exact (List.nodup_cons.mp hb).1 (by rw [← he]; exact List.mem_map_of_mem hc')
    refine ⟨⟨fun c' hc' => ?_, h.nodup.sublist (hsub.map _)⟩, hspare.mono fun t ht => by rw [ht]; exact List.mem_map_of_mem hmem⟩
    obtain ⟨hnone, d', y, hy, hrun⟩ := h.plays c' (hsub.subset hc')
    exact ⟨hnone, d', y, hspare _ _ _ _ (hrest c' hc') hy, hrun⟩

end Mocktail.Audio
