/-
  Mocktail.Sky.TranscodeCache — the cache of `TranscodeEtc1SkyTextureForVulkan`
  (`vulkan_etc1_sky_transcoder.cc`).

  The transcoded bytes are kept under the path alone. A call takes the cache's mutex twice: to
  look the path up, and, if it was not there and the data could be transcoded, to store what
  came out. Between the two another thread may do either. A path that is found answers with
  what was stored, whatever data the call came with.

  `transcodeEtc1SkyTexture_transparent`: over every interleaving of calls from a given set, all
  of them answer as they would with an empty cache, exactly when no two of them name one path
  with data that transcodes differently.
-/

import Mathlib.Data.List.Infix
import Mathlib.Data.Set.Insert
import Mocktail.Sky.Transcoder

namespace Mocktail.Sky

open Mocktail.Lib

abbrev Path := List Char

def kSkyDirectory : Path := "/assets/android/textures/sky/".toList

def kMaxSkyTextureSize : Nat := 16 * 1024 * 1024

/-- Both arguments may be null. -/
structure Call where
  path : Option Path
  data : Option File
  deriving DecidableEq

abbrev Answer := Bool × Option File

def isBundledSkyTexture (path : Path) : Bool := kSkyDirectory <:+: path && ".tex".toList <:+ path

/-- The path and the data of a call that gets past the first checks. -/
def Call.admitted (call : Call) : Option (Path × File) :=
  match call.path, call.data with
  | some path, some data =>
    if isBundledSkyTexture path && data.length ≤ kMaxSkyTextureSize then some (path, data) else none
  | _, _ => none

abbrev Cache := Path → Option File

/-- What a call comes to when it has looked its path up and, on a miss, transcoded its data. -/
inductive Looked where
  | answered (answer : Answer)
  | storing (path : Path) (out : File)

def lookUp (cache : Cache) (call : Call) : Looked :=
  match call.admitted with
  | none => .answered (false, call.data)
  | some (path, data) =>
    match cache path with
    | some out => .answered (true, some out)
    | none =>
      let result := transcodeKtx1Etc1 data
      if result.1 then .storing path result.2 else .answered (false, some result.2)

def Looked.answer : Looked → Answer
  | .answered answer => answer
  | .storing _ out => (true, some out)

/-- The answer to a call with an empty cache. -/
def Call.alone (call : Call) : Answer := (lookUp (fun _ => none) call).answer

/-! ## Threads -/

/-- `storing` is what a thread between its two turns at the mutex is about to store, and for
    which call. -/
structure State where
  cache : Cache := fun _ => none
  storing : Nat → Option (Call × Path × File) := fun _ => none
  answered : List (Call × Answer) := []

/-- A thread that is not in a call begins one and looks it up. -/
def State.enter (s : State) (thread : Nat) (call : Call) : State :=
  match lookUp s.cache call with
  | .answered answer => { s with answered := s.answered ++ [(call, answer)] }
  | .storing path out => { s with storing := upd s.storing thread (some (call, path, out)) }

def State.store (s : State) (thread : Nat) (call : Call) (path : Path) (out : File) : State where
  cache := fun p => if p = path then some out else s.cache p
  storing := upd s.storing thread none
  answered := s.answered ++ [(call, (true, some out))]

/-- The states that threads making calls from `calls` can reach. -/
inductive Reached (calls : Set Call) : State → Prop where
  | start : Reached calls {}
  | enter {s : State} {thread : Nat} {call : Call} (h : Reached calls s) (hidle : s.storing thread = none)
      (hcall : call ∈ calls) : Reached calls (s.enter thread call)
  | store {s : State} {thread : Nat} {call : Call} {path : Path} {out : File} (h : Reached calls s)
      (hstoring : s.storing thread = some (call, path, out)) : Reached calls (s.store thread call path out)

/-- The cache cannot be told from an empty one. -/
def Transparent (calls : Set Call) : Prop :=
  ∀ s, Reached calls s → ∀ call answer, (call, answer) ∈ s.answered → answer = call.alone

/-- Where two admitted calls name one path and the data of one can be transcoded, the other's
    transcodes to the same bytes. -/
def Agree (calls : Set Call) : Prop :=
  ∀ first ∈ calls, ∀ second ∈ calls, ∀ path data data',
    first.admitted = some (path, data) → second.admitted = some (path, data') →
    (transcodeKtx1Etc1 data).1 = true → transcodeKtx1Etc1 data' = transcodeKtx1Etc1 data

/-! ## Agreeing calls -/

/-- Some call of the set put it there. -/
def Source (calls : Set Call) (path : Path) (out : File) : Prop :=
  ∃ call ∈ calls, ∃ data, call.admitted = some (path, data) ∧ transcodeKtx1Etc1 data = (true, out)

structure Sound (calls : Set Call) (s : State) : Prop where
  cached : ∀ path out, s.cache path = some out → Source calls path out
  storing : ∀ thread call path out, s.storing thread = some (call, path, out) →
    Source calls path out ∧ call.alone = (true, some out)
  answered : ∀ call answer, (call, answer) ∈ s.answered → answer = call.alone

section
variable {calls : Set Call} {s : State} {call : Call}

theorem alone_storing {cache : Cache} {path : Path} {out : File} (h : lookUp cache call = .storing path out) :
    ∃ data, call.admitted = some (path, data) ∧ transcodeKtx1Etc1 data = (true, out) ∧ call.alone = (true, some out) := by
  unfold lookUp at h
  unfold Call.alone lookUp
  match ha : call.admitted with
  | none => simp [ha] at h
  | some (p, data) =>
    simp only [ha] at h ⊢
    cases hc : cache p with
    | some found => simp [hc] at h
    | none =>
      simp only [hc] at h
      by_cases hok : (transcodeKtx1Etc1 data).1 = true
      · rw [if_pos hok] at h ⊢
        obtain ⟨rfl, rfl⟩ : p = path ∧ (transcodeKtx1Etc1 data).2 = out := by simpa using h
        exact ⟨data, rfl, by rw [← hok], rfl⟩
      · rw [if_neg hok] at h
        exact Looked.noConfusion h

theorem lookUp_answered {cache : Cache} {answer : Answer} (hagree : Agree calls)
    (hcached : ∀ path out, cache path = some out → Source calls path out) (hcall : call ∈ calls)
    (h : lookUp cache call = .answered answer) : answer = call.alone := by
  unfold lookUp at h
  unfold Call.alone lookUp
  match ha : call.admitted with
  | none =>
    simp only [ha] at h ⊢
    exact (Looked.answered.inj h).symm
  | some (path, data) =>
    simp only [ha] at h ⊢
    cases hc : cache path with
    | some found =>
      -- the data that was stored transcodes as this call's does
      obtain ⟨other, hother, data', hadmitted, hout⟩ := hcached path found hc
      have hsame := hagree other hother call hcall path data' data hadmitted ha (by rw [hout])
      simp only [hc] at h
      rw [hsame, hout]
      exact (Looked.answered.inj h).symm
    | none =>
      simp only [hc] at h
      by_cases hok : (transcodeKtx1Etc1 data).1 = true
      · rw [if_pos hok] at h
        exact Looked.noConfusion h
      · rw [if_neg hok] at h ⊢
        exact (Looked.answered.inj h).symm

theorem sound_enter {thread : Nat} (hagree : Agree calls) (h : Sound calls s) (hcall : call ∈ calls) :
    Sound calls (s.enter thread call) := by
  unfold State.enter
  cases hl : lookUp s.cache call with
  | answered answer =>
    refine ⟨h.cached, h.storing, ?_⟩
    intro other answer' hin
    rcases List.mem_append.mp hin with hin | hin
    · exact h.answered other answer' hin
    · obtain ⟨rfl, rfl⟩ : other = call ∧ answer' = answer := by simpa using hin
      exact lookUp_answered hagree h.cached hcall hl
  | storing path out =>
    refine ⟨h.cached, ?_, h.answered⟩
    intro other c p o hs
    dsimp only at hs
    by_cases ht : other = thread
    · subst ht
      rw [upd_same] at hs
      obtain ⟨rfl, rfl, rfl⟩ : call = c ∧ path = p ∧ out = o := by simpa using hs
      obtain ⟨data, hadmitted, hout, halone⟩ := alone_storing hl
      exact ⟨⟨call, hcall, data, hadmitted, hout⟩, halone⟩
    · exact h.storing other c p o (by simpa [upd, ht] using hs)

theorem sound_store {thread : Nat} {path : Path} {out : File} (h : Sound calls s)
    (hs : s.storing thread = some (call, path, out)) : Sound calls (s.store thread call path out) := by
  obtain ⟨hsource, halone⟩ := h.storing thread call path out hs
  refine ⟨?_, ?_, ?_⟩
  · intro p o hcache
    by_cases hp : p = path
    · subst hp
      obtain rfl : out = o := by simpa [State.store] using hcache
      exact hsource
    · exact h.cached p o (by simpa [State.store, hp] using hcache)
  · intro other c p o hstoring
    by_cases ht : other = thread
    · simp [State.store, ht] at hstoring
    · exact h.storing other c p o (by simpa [State.store, upd, ht] using hstoring)
  · intro c answer hin
    rcases List.mem_append.mp hin with hin | hin
    · exact h.answered c answer hin
    · obtain ⟨rfl, rfl⟩ : c = call ∧ answer = (true, some out) := by simpa using hin
      exact halone.symm

theorem reached_sound (hagree : Agree calls) (h : Reached calls s) : Sound calls s := by
  induction h with
  | start => exact ⟨fun p o hc => by simp at hc, fun t c p o hs => by simp at hs, fun c a hin => by simp at hin⟩
  | enter _ _ hcall ih => exact sound_enter hagree ih hcall
  | store _ hstoring ih => exact sound_store ih hstoring

end

/-! ## Calls that do not agree -/

/-- One call to its end, then another: the second answers from the cache. -/
theorem answers_from_cache {calls : Set Call} {first second : Call} {path : Path} {data data' : File}
    (hfirst : first ∈ calls) (hsecond : second ∈ calls) (ha : first.admitted = some (path, data))
    (ha' : second.admitted = some (path, data')) (hok : (transcodeKtx1Etc1 data).1 = true) :
    ∃ s, Reached calls s ∧ (second, (true, some (transcodeKtx1Etc1 data).2)) ∈ s.answered := by
  have hmiss : lookUp (fun _ => none) first = .storing path (transcodeKtx1Etc1 data).2 := by
    simp only [lookUp, ha]
    rw [if_pos hok]
  let looked : State := { storing := upd (fun _ => none) 0 (some (first, path, (transcodeKtx1Etc1 data).2)) }
  have hlooked : Reached calls looked := by
    have h : Reached calls (State.enter {} 0 first) := Reached.enter Reached.start rfl hfirst
    unfold State.enter at h
    rwa [hmiss] at h
  let stored : State := looked.store 0 first path (transcodeKtx1Etc1 data).2
  have hstored : Reached calls stored := Reached.store hlooked (by simp [looked])
  have hhit : lookUp stored.cache second = .answered (true, some (transcodeKtx1Etc1 data).2) := by
    simp [lookUp, ha', stored, State.store]
  refine ⟨stored.enter 0 second, Reached.enter hstored (by simp [stored, State.store]) hsecond, ?_⟩
  unfold State.enter
  rw [hhit]
  simp

theorem transcodeEtc1SkyTexture_transparent (calls : Set Call) : Transparent calls ↔ Agree calls := by
  constructor
  · intro h first hfirst second hsecond path data data' ha ha' hok
    obtain ⟨s, hs, hin⟩ := answers_from_cache hfirst hsecond ha ha' hok
    have halone := h s hs second _ hin
    simp only [Call.alone, lookUp, ha'] at halone
    by_cases hok' : (transcodeKtx1Etc1 data').1 = true
    · rw [if_pos hok'] at halone
      have hout : (transcodeKtx1Etc1 data).2 = (transcodeKtx1Etc1 data').2 := by simpa [Looked.answer] using halone
      exact Prod.ext (hok'.trans hok.symm) hout.symm
    · rw [if_neg hok'] at halone
      simp [Looked.answer] at halone
  · intro hagree s hs call answer hin
    exact (reached_sound hagree hs).answered call answer hin

/-- A texture of 4 by 4 with its one level. -/
def whole : File :=
  kKtx1Identifier ++ [kKtx1LittleEndian, 0, 1, 0, kGlEtc1Rgb8Oes, kGlRgb, 4, 4, 0, 0, 1, 1, 0, 8, 0, 0].flatMap le32

def skyPath : Path := "/assets/android/textures/sky/indoor.tex".toList

/-- The texture is opened, replaced by an empty file, and opened again. -/
def reopened : Set Call := {⟨some skyPath, some whole⟩, ⟨some skyPath, some []⟩}

theorem transcodeEtc1SkyTexture_stale : ¬Transparent reopened := by
  intro h
  have hfirst : ⟨some skyPath, some whole⟩ ∈ reopened := .inl rfl
  have hsecond : ⟨some skyPath, some []⟩ ∈ reopened := .inr rfl
  have hempty : (Call.mk (some skyPath) (some [])).admitted = some (skyPath, []) := by decide
  have hadmitted : (Call.mk (some skyPath) (some whole)).admitted = some (skyPath, whole) := by decide
  have hok : (transcodeKtx1Etc1 whole).1 = true := by decide +kernel
  obtain ⟨s, hs, hin⟩ := answers_from_cache hfirst hsecond hadmitted hempty hok
  have halone := h s hs _ _ hin
  have hfalse : (Call.mk (some skyPath) (some [])).alone.1 = false := by decide
  rw [← halone] at hfalse
  exact Bool.noConfusion hfalse

end Mocktail.Sky
