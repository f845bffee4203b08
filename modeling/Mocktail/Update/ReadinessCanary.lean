/-
  Mocktail.Update.ReadinessCanary — what an accepted canary log says about audio
  (`ValidateReadinessLog` in `readiness_canary.cc`).

  The validator searches the whole log for markers, one search for each; counts are read behind
  a marker into 64 bits. `AudioEvidence` is what the log of a clean shutdown says, line by line
  and with whole numbers. The searches do not tell lines apart, so a shutdown that was not clean
  passes beside one that was, and a count of 2 ^ 64 is read as none.

  Proved: an accepted log is evidence exactly where its shutdown lines are all clean and no
  count that wraps hides a missing one (`accepted_evidence_iff`).
-/

import Mathlib.Data.List.TakeWhile
import Mocktail.Launch.Json
import Mocktail.Lib.Lines

namespace Mocktail.Update.Canary

open Mocktail.Lib Mocktail.Launch

inductive CanaryGraphicsBackend where
  | directVulkan | openGlEs | systemEgl | angleVulkan | angleSwiftShader
  deriving DecidableEq, Repr

/-- The bytes of a literal. -/
def literal (s : String) : Text := s.toByteArray.data.toList

def isDigit (b : UInt8) : Bool := decide (0x30 ≤ b.toNat ∧ b.toNat ≤ 0x39)

/-- What stands behind the first `marker`. -/
def findAfter (marker : Text) : Text → Option Text
  | [] => if marker = [] then some [] else none
  | c :: rest => if marker.isPrefixOf (c :: rest) then some ((c :: rest).drop marker.length) else findAfter marker rest

def contains (log marker : Text) : Bool := (findAfter marker log).isSome

/-- The digits a text begins with. -/
def digits (text : Text) : Text := text.takeWhile isDigit

/-- The loop over the digits, in 64 bits. -/
def wrappedNumber (text : Text) : Nat := (digits text).foldl (fun value b => (value * 10 + (b.toNat - 0x30)) % 2 ^ 64) 0

def searchNumber (marker : Text) : Nat → Text → Bool
  | 0, _ => false
  | fuel + 1, text =>
    match findAfter marker text with
    | none => false
    | some rest =>
      if digits rest ≠ [] ∧ 0 < wrappedNumber rest then true else searchNumber marker fuel (rest.drop (digits rest).length)

/-- The length of the log is fuel enough. -/
def hasPositiveNumberAfter (log marker : Text) : Bool := searchNumber marker (log.length + 1) log

def kOpenSlSubmitted : Text := literal "[mocktail][audio] OpenSL playback activity: submitted_buffers="
def kOpenSlConsumed : Text := literal "[mocktail][audio] OpenSL playback evidence: consumed_buffers="
def kOpenSlShutdown : Text := literal "[mocktail][audio] OpenSL player shutdown: submitted="
def kFmodSubmitted : Text := literal "[mocktail][audio] fmod_java first_submission submitted_buffers="
def kFmodShutdown : Text := literal "[mocktail][audio] fmod_java shutdown submitted_buffers="

def validateAudio (log : Text) (requireCleanShutdown : Bool) : Except String Unit :=
  if contains log (literal "[mocktail][audio] fmod_java init_failed") ∨
    contains log (literal "[mocktail][audio] fmod_java write_failed") ∨
      contains log (literal "[mocktail][audio] fmod_java close_failed") then
    .error "graphics canary observed an FMOD audio failure"
  else
    let opensl := hasPositiveNumberAfter log kOpenSlSubmitted
    let fmod := hasPositiveNumberAfter log kFmodSubmitted
    if opensl ∧ (¬ hasPositiveNumberAfter log kOpenSlConsumed ∨
        requireCleanShutdown ∧ (¬ contains log kOpenSlShutdown ∨ ¬ contains log (literal "clean=true"))) then
      .error "graphics canary submitted OpenSL audio without clean consumption"
    else if fmod ∧ (¬ hasPositiveNumberAfter log (literal "consumed_buffers=") ∨
        requireCleanShutdown ∧ (¬ contains log kFmodShutdown ∨ ¬ contains log (literal "pending_buffers=0"))) then
      .error "graphics canary submitted FMOD audio without clean consumption"
    else .ok ()

/-- The markers that must be there, in order. -/
def requireMarkers (log : Text) (subject : String) : List String → Except String Unit
  | [] => .ok ()
  | marker :: markers =>
    if contains log (literal marker) then requireMarkers log subject markers
    else .error (subject ++ " readiness marker is missing: " ++ marker)

def validatePresentEvidence (backend : CanaryGraphicsBackend) (log : Text) : Except String Unit := do
  requireMarkers log "graphics" ["[compat] legacy binary patches: disabled", "[compat] signal-recovery handler disabled",
    "[compat] native allocator retained; host allocator bridges disabled"]
  if backend = .directVulkan then
    requireMarkers log "Vulkan" ["[window] first Roblox Vulkan frame presented"]
    if ¬ hasPositiveNumberAfter log (literal "[window] vkQueuePresentKHR #") then
      .error "Vulkan readiness marker is missing: real queue present"
  else
    requireMarkers log "OpenGL" ["[window] EGL context and surface initialized via SDL3", "[window] OpenGL ES context version=3.",
      "[window] first Roblox frame presented"]
    if ¬ hasPositiveNumberAfter log (literal "[window] SwapBuffers #") then
      .error "OpenGL readiness marker is missing: real EGL swap"
  if contains log (literal "[FATAL]") ∨ contains log (literal "Segmentation fault") ∨ contains log (literal "core dumped") then
    .error "graphics readiness log contains a fatal process failure"

def validateReadinessLog (backend : CanaryGraphicsBackend) (log : Text) : Except String Unit := do
  validatePresentEvidence backend log
  requireMarkers log "graphics" ["[main] Roblox lifecycle shutdown: Stopped"]
  if backend = .directVulkan then
    requireMarkers log "Vulkan" ["[vulkan] SDL WSI adapter shut down"]
  validateAudio log true

/-! ## What a log says -/

/-- The decimal number a text begins with. -/
def number (text : Text) : Nat := (digits text).foldl (fun value b => value * 10 + (b.toNat - 0x30)) 0

/-- A marker with what stands behind it. -/
def At (log marker rest : Text) : Prop := ∃ front, log = front ++ marker ++ rest

def Reports (log marker : Text) : Prop := ∃ rest, At log marker rest ∧ 0 < number rest

def logLines (log : Text) : List Text := lines (· == 0x0a) log

def Says (line marker : Text) : Prop := marker <:+: line

/-- The line has a count of pending buffers, and it is zero. -/
def SaysNonePending (line : Text) : Prop := ∃ rest, At line (literal "pending_buffers=") rest ∧ digits rest ≠ [] ∧ number rest = 0

structure AudioEvidence (log : Text) : Prop where
  openSl : Reports log kOpenSlSubmitted → Reports log kOpenSlConsumed ∧ (∃ line ∈ logLines log, Says line kOpenSlShutdown) ∧
    ∀ line ∈ logLines log, Says line kOpenSlShutdown → Says line (literal "clean=true")
  fmod : Reports log kFmodSubmitted → (∃ line ∈ logLines log, Says line kFmodShutdown) ∧
    ∀ line ∈ logLines log, Says line kFmodShutdown → SaysNonePending line

/-- All counts behind a marker are multiples of 2 ^ 64, and some are not zero. -/
def Wraps (log marker : Text) : Prop := Reports log marker ∧ ∀ rest, At log marker rest → number rest % 2 ^ 64 = 0

/-- No shutdown line leans on another, and none is missing behind counts that wrap. -/
structure Unborrowed (log : Text) : Prop where
  clean : Reports log kOpenSlSubmitted → ∀ line ∈ logLines log, Says line kOpenSlShutdown → Says line (literal "clean=true")
  drained : Reports log kFmodSubmitted → ∀ line ∈ logLines log, Says line kFmodShutdown → SaysNonePending line
  openSlCounts : Wraps log kOpenSlSubmitted → Reports log kOpenSlConsumed ∧ kOpenSlShutdown <:+: log
  fmodCounts : Wraps log kFmodSubmitted → kFmodShutdown <:+: log

/-! ## Searches -/

variable {log marker rest text : Text}

theorem findAfter_some (h : findAfter marker text = some rest) : At text marker rest := by
  induction text with
  | nil =>
    rw [findAfter] at h
    split at h
    · rename_i hm
      exact ⟨[], by rw [hm, ← Option.some.inj h]; rfl⟩
    · cases h
  | cons c text ih =>
    rw [findAfter] at h
    split at h
    · rename_i hpre
      obtain ⟨tail, htail⟩ := List.isPrefixOf_iff_prefix.mp hpre
      rw [← htail, List.drop_left] at h
      exact ⟨[], by rw [← htail, Option.some.inj h]; rfl⟩
    · obtain ⟨front, hfront⟩ := ih h
      exact ⟨c :: front, by rw [hfront]; rfl⟩

/-- The first occurrence is no later than any other. -/
theorem findAfter_first {front : Text} (h : text = front ++ marker ++ rest) :
    ∃ before after, findAfter marker text = some after ∧ text = before ++ marker ++ after ∧ before.length ≤ front.length := by
  induction text generalizing front with
  | nil =>
    obtain ⟨hfront, hrest⟩ := List.append_eq_nil_iff.mp h.symm
    obtain ⟨hfront, hmarker⟩ := List.append_eq_nil_iff.mp hfront
    exact ⟨[], [], by rw [findAfter, if_pos hmarker], by rw [hmarker]; rfl, Nat.zero_le _⟩
  | cons c text ih =>
    rw [findAfter]
    by_cases hpre : marker.isPrefixOf (c :: text) = true
    · obtain ⟨tail, htail⟩ := List.isPrefixOf_iff_prefix.mp hpre
      exact ⟨[], tail, by rw [if_pos hpre, ← htail, List.drop_left], by rw [← htail]; rfl, Nat.zero_le _⟩
    · cases front with
      | nil =>
        refine absurd (List.isPrefixOf_iff_prefix.mpr ⟨rest, ?_⟩) hpre
        rw [h]
        rfl
      | cons d front =>
        obtain ⟨before, after, hfind, htext, hle⟩ := ih (List.cons.inj h).2
        exact ⟨c :: before, after, by rw [if_neg hpre, hfind], by rw [htext]; rfl, Nat.succ_le_succ hle⟩

theorem contains_iff : contains log marker = true ↔ marker <:+: log := by
  constructor
  · intro h
    obtain ⟨rest, hrest⟩ := Option.isSome_iff_exists.mp h
    obtain ⟨front, hfront⟩ := findAfter_some hrest
    exact ⟨front, rest, hfront.symm⟩
  · rintro ⟨front, rest, h⟩
    obtain ⟨_, _, hfind, -, -⟩ := findAfter_first h.symm
    rw [contains, hfind]
    rfl

theorem foldl_wrapped (ds : Text) : ∀ start, ds.foldl (fun value b => (value * 10 + (b.toNat - 0x30)) % 2 ^ 64) (start % 2 ^ 64) =
    ds.foldl (fun value b => value * 10 + (b.toNat - 0x30)) start % 2 ^ 64 := by
  induction ds with
  | nil => exact fun _ => rfl
  | cons b ds ih =>
    intro start
    rw [List.foldl_cons, List.foldl_cons, ← ih]
    congr 1
    omega

theorem wrappedNumber_eq (text : Text) : wrappedNumber text = number text % 2 ^ 64 := foldl_wrapped (digits text) 0

theorem number_pos_digits (h : 0 < number rest % 2 ^ 64) : digits rest ≠ [] := by
  intro hnil
  rw [number, hnil] at h
  cases h

/-- A marker whose last byte is at its end only and whose first byte is no digit. -/
structure Delimited (marker : Text) : Prop where
  first : ∀ b, marker.head? = some b → isDigit b = false
  last : ∃ front b, marker = front ++ [b] ∧ b ∉ front

theorem At.length (h : At text marker rest) : marker.length + rest.length ≤ text.length := by
  obtain ⟨front, rfl⟩ := h
  simp only [List.length_append]
  omega

/-- Two occurrences do not overlap, and none begins in the number behind another. -/
theorem Delimited.apart (hd : Delimited marker) {before after front : Text} (hfirst : text = before ++ marker ++ after)
    (hother : text = front ++ marker ++ rest) (hlt : before.length < front.length) :
    before.length + marker.length + (digits after).length ≤ front.length := by
  obtain ⟨head, b, hmarker, hb⟩ := hd.last
  have hlength : marker.length = head.length + 1 := by rw [hmarker, List.length_append, List.length_singleton]
  by_contra hover
  by_cases hin : front.length ≤ before.length + head.length
  · -- the last byte of the first occurrence is in the front of the other
    have hat : text[before.length + head.length]? = some b := by
      rw [hfirst, hmarker, List.append_assoc, List.getElem?_append_right (by omega), Nat.add_sub_cancel_left, List.append_assoc,
        List.getElem?_append_right le_rfl, Nat.sub_self]
      rfl
    rw [hother, hmarker, List.append_assoc, List.getElem?_append_right hin, List.append_assoc,
      List.getElem?_append_left (by omega)] at hat
    exact hb (List.mem_of_getElem? hat)
  · -- its first byte is a digit
    obtain ⟨c, hc⟩ : ∃ c, marker.head? = some c := by
      rw [← Option.isSome_iff_exists, List.isSome_head?, hmarker]
      exact List.append_ne_nil_of_right_ne_nil _ (List.cons_ne_nil _ _)
    have hat : text[front.length]? = some c := by
      rw [hother, List.append_assoc, List.getElem?_append_right le_rfl, Nat.sub_self, List.getElem?_append_left (by omega),
        ← List.head?_eq_getElem?, hc]
    rw [hfirst, List.getElem?_append_right (by rw [List.length_append]; omega), List.length_append,
      ← @List.takeWhile_append_dropWhile _ isDigit after, List.getElem?_append_left (by unfold digits at hover; omega)] at hat
    have hdigit := (List.mem_takeWhile_imp (List.mem_of_getElem? hat))
    rw [hd.first c hc] at hdigit
    cases hdigit

theorem searchNumber_iff (hd : Delimited marker) {fuel : Nat} (hfuel : text.length < fuel) :
    searchNumber marker fuel text = true ↔ ∃ rest, At text marker rest ∧ 0 < number rest % 2 ^ 64 := by
  induction fuel generalizing text with
  | zero => exact absurd hfuel (Nat.not_lt_zero _)
  | succ fuel ih =>
    rw [searchNumber]
    cases hfind : findAfter marker text with
    | none =>
      dsimp only
      refine ⟨fun h => Bool.noConfusion h, ?_⟩
      rintro ⟨rest, ⟨front, hother⟩, -⟩
      obtain ⟨_, _, hsome, -, -⟩ := findAfter_first hother
      rw [hfind] at hsome
      cases hsome
    | some after =>
      dsimp only
      have hafter := findAfter_some hfind
      have hlength := hafter.length
      obtain ⟨head, b, hmarker, -⟩ := hd.last
      have hpos : 0 < marker.length := by rw [hmarker, List.length_append, List.length_singleton]; omega
      split
      · rename_i hhere
        rw [wrappedNumber_eq] at hhere
        exact ⟨fun _ => ⟨after, hafter, hhere.2⟩, fun _ => rfl⟩
      · rename_i hnot
        rw [ih (by rw [List.length_drop]; omega)]
        constructor
        · rintro ⟨rest, ⟨front, hrest⟩, hnumber⟩
          obtain ⟨before, rfl⟩ := hafter
          refine ⟨rest, ⟨before ++ marker ++ after.take (digits after).length ++ front, ?_⟩, hnumber⟩
          have hwhole := List.take_append_drop (digits after).length after
          rw [hrest] at hwhole
          rw [List.append_assoc (_ ++ _) front, List.append_assoc (_ ++ _) (front ++ marker),
            List.append_assoc (before ++ marker), hwhole]
        · rintro ⟨rest, ⟨front, hother⟩, hnumber⟩
          obtain ⟨before, after', hfirst, htext, hle⟩ := findAfter_first hother
          obtain rfl : after = after' := Option.some.inj (hfind.symm.trans hfirst)
          rcases Nat.eq_or_lt_of_le hle with heq | hlt
          · -- the occurrence that was found
            rw [htext, List.append_assoc, List.append_assoc] at hother
            obtain ⟨-, htail⟩ := List.append_inj hother heq
            obtain rfl := List.append_cancel_left htail
            rw [wrappedNumber_eq] at hnot
            exact absurd ⟨number_pos_digits hnumber, hnumber⟩ hnot
          · have hfar := hd.apart htext hother hlt
            have hdrop := congrArg (List.drop (before.length + marker.length + (digits after).length)) (htext.symm.trans hother)
            rw [List.append_assoc front, List.drop_append_of_le_length hfar, ← List.length_append, ← List.drop_drop,
              List.drop_left] at hdrop
            exact ⟨rest, ⟨_, by rw [hdrop, List.append_assoc]⟩, hnumber⟩

theorem hasPositiveNumberAfter_iff (hd : Delimited marker) :
    hasPositiveNumberAfter log marker = true ↔ ∃ rest, At log marker rest ∧ 0 < number rest % 2 ^ 64 :=
  searchNumber_iff hd (Nat.lt_succ_self _)

theorem Reports.of_search (hd : Delimited marker) (h : hasPositiveNumberAfter log marker = true) : Reports log marker := by
  obtain ⟨rest, hat, hnumber⟩ := (hasPositiveNumberAfter_iff hd).mp h
  exact ⟨rest, hat, Nat.pos_of_ne_zero fun hzero => by rw [hzero] at hnumber; cases hnumber⟩

/-- A count that the search does not see wraps. -/
theorem wraps_of_not_search (hd : Delimited marker) (hr : Reports log marker)
    (h : hasPositiveNumberAfter log marker ≠ true) : Wraps log marker := by
  refine ⟨hr, ?_⟩
  intro rest hat
  by_contra hne
  exact h ((hasPositiveNumberAfter_iff hd).mpr ⟨rest, hat, Nat.pos_of_ne_zero hne⟩)

/-! ## Accepted logs -/

/-- A marker without a line feed that is in the log is in a line of it. -/
theorem exists_line (hne : marker ≠ []) (hm : ∀ b ∈ marker, (b == 0x0a) = false) (h : marker <:+: log) :
    ∃ line ∈ logLines log, Says line marker := by
  obtain ⟨front, rest, hlog⟩ := h
  obtain ⟨p, q, rfl, hp, hq⟩ := @exists_last_break _ (· == (0x0a : UInt8)) front
  have hwithin : ∀ b ∈ q ++ marker, (b == (0x0a : UInt8)) = false := by
    intro b hb
    rcases List.mem_append.mp hb with hb | hb
    · exact hq b hb
    · exact hm b hb
  have hlines := @lines_eq_firstLine _ (· == (0x0a : UInt8)) (q ++ marker ++ rest) (by simp [hne])
  rw [firstLine_append hwithin] at hlines
  refine ⟨q ++ marker ++ firstLine (· == 0x0a) rest, ?_, q, _, rfl⟩
  rw [logLines, ← hlog, List.append_assoc, List.append_assoc, lines_append_of_break hp, ← List.append_assoc, hlines]
  exact List.mem_append_right _ List.mem_cons_self

theorem delimited_of_last {front : Text} {b : UInt8} (h : marker = front ++ [b]) (hb : b ∉ front)
    (hfirst : ∀ c, marker.head? = some c → isDigit c = false) :
    Delimited marker := ⟨hfirst, front, b, h, hb⟩

/-- Each of the markers with a count ends at its only equals sign. -/
theorem delimited_marker (h : marker ∈ [kOpenSlSubmitted, kOpenSlConsumed, kFmodSubmitted]) :
    Delimited marker ∧ marker ≠ [] := by
  have hall : ∀ m ∈ [kOpenSlSubmitted, kOpenSlConsumed, kFmodSubmitted],
      m.head?.all (fun c => !isDigit c) = true ∧ m = m.dropLast ++ [0x3d] ∧ (0x3d : UInt8) ∉ m.dropLast := by decide +kernel
  obtain ⟨hfirst, hlast, hnot⟩ := hall marker h
  refine ⟨delimited_of_last hlast hnot ?_, ?_⟩
  · intro c hc
    rw [hc] at hfirst
    simpa using hfirst
  · intro hnil
    rw [hnil] at hlast
    cases hlast

/-- What the audio checks of an accepted log have found. -/
structure Found (log : Text) : Prop where
  openSl : hasPositiveNumberAfter log kOpenSlSubmitted = true →
    hasPositiveNumberAfter log kOpenSlConsumed = true ∧ contains log kOpenSlShutdown = true
  fmod : hasPositiveNumberAfter log kFmodSubmitted = true → contains log kFmodShutdown = true

theorem bind_ok {x : Except String Unit} {y : Unit → Except String Unit} (h : (x >>= y) = .ok ()) : y () = .ok () := by
  cases x with
  | error e => cases h
  | ok _ => exact h

theorem found_of_accepted {backend : CanaryGraphicsBackend} (h : validateReadinessLog backend log = .ok ()) : Found log := by
  have haudio : validateAudio log true = .ok () := by
    have hmarkers := bind_ok (bind_ok h)
    split at hmarkers
    · exact bind_ok hmarkers
    · exact hmarkers
  unfold validateAudio at haudio
  split at haudio
  · cases haudio
  · dsimp only at haudio
    split at haudio
    · cases haudio
    · rename_i hopensl
      split at haudio
      · cases haudio
      · rename_i hfmod
        constructor
        · intro hsubmitted
          by_contra hmissing
          refine hopensl ⟨hsubmitted, ?_⟩
          by_cases hconsumed : hasPositiveNumberAfter log kOpenSlConsumed = true
          · exact .inr ⟨rfl, .inl fun hshutdown => hmissing ⟨hconsumed, hshutdown⟩⟩
          · exact .inl hconsumed
        · intro hsubmitted
          by_contra hmissing
          exact hfmod ⟨hsubmitted, .inr ⟨rfl, .inl hmissing⟩⟩

/-- An accepted log is evidence of a clean audio shutdown exactly where no shutdown line leans
    on another. -/
theorem accepted_evidence_iff {backend : CanaryGraphicsBackend} {log : Text} (h : validateReadinessLog backend log = .ok ()) :
    AudioEvidence log ↔ Unborrowed log := by
  have hfound := found_of_accepted h
  have hsubmitted := (@delimited_marker kOpenSlSubmitted (by simp)).1
  have hconsumed := (@delimited_marker kOpenSlConsumed (by simp)).1
  have hfirst := (@delimited_marker kFmodSubmitted (by simp)).1
  have hplain : ∀ m ∈ [kOpenSlShutdown, kFmodShutdown], m ≠ [] ∧ ∀ b ∈ m, (b == 0x0a) = false := by decide +kernel
  obtain ⟨hopenslNe, hopenslLine⟩ := hplain kOpenSlShutdown (by simp)
  obtain ⟨hfmodNe, hfmodLine⟩ := hplain kFmodShutdown (by simp)
  -- a shutdown line is in the log where its marker is
  have hwithin : ∀ {m line : Text}, line ∈ logLines log → Says line m → m <:+: log := by
    intro m line hline hsays
    exact hsays.trans (infix_of_mem_lines hline)
  constructor
  · intro he
    refine ⟨fun hr => (he.openSl hr).2.2, fun hr => (he.fmod hr).2, fun hw => ?_, fun hw => ?_⟩
    · obtain ⟨hreports, ⟨line, hline, hsays⟩, -⟩ := he.openSl hw.1
      exact ⟨hreports, hwithin hline hsays⟩
    · obtain ⟨⟨line, hline, hsays⟩, -⟩ := he.fmod hw.1
      exact hwithin hline hsays
  · intro hu
    constructor
    · intro hr
      have hboth : Reports log kOpenSlConsumed ∧ kOpenSlShutdown <:+: log := by
        by_cases hseen : hasPositiveNumberAfter log kOpenSlSubmitted = true
        · obtain ⟨hpositive, hshutdown⟩ := hfound.openSl hseen
          exact ⟨.of_search hconsumed hpositive, contains_iff.mp hshutdown⟩
        · exact hu.openSlCounts (wraps_of_not_search hsubmitted hr hseen)
      exact ⟨hboth.1, exists_line hopenslNe hopenslLine hboth.2, hu.clean hr⟩
    · intro hr
      have hshutdown : kFmodShutdown <:+: log := by
        by_cases hseen : hasPositiveNumberAfter log kFmodSubmitted = true
        · exact contains_iff.mp (hfound.fmod hseen)
        · exact hu.fmodCounts (wraps_of_not_search hfirst hr hseen)
      exact ⟨exists_line hfmodNe hfmodLine hshutdown, hu.drained hr⟩

/-- A log that the canary accepts, before these lines of the audio. -/
def sampleLog (audio : List Text) : Text :=
  ((["[compat] legacy binary patches: disabled", "[compat] signal-recovery handler disabled",
    "[compat] native allocator retained; host allocator bridges disabled",
    "[window] EGL context and surface initialized via SDL3",
    "[window] OpenGL ES context version=3.", "[window] first Roblox frame presented", "[window] SwapBuffers #1",
    "[main] Roblox lifecycle shutdown: Stopped"].map literal) ++ audio).flatMap (· ++ [0x0a])

/-- One player shuts down clean and one does not. -/
def mixedLog : Text :=
  sampleLog [kOpenSlSubmitted ++ literal "1", kOpenSlConsumed ++ literal "1", kOpenSlShutdown ++ literal "1 clean=true",
    kOpenSlShutdown ++ literal "1 clean=false"]

theorem mixedLog_facts :
    validateReadinessLog .openGlEs mixedLog = .ok () ∧ hasPositiveNumberAfter mixedLog kOpenSlSubmitted = true ∧
      ∃ line ∈ logLines mixedLog, contains line kOpenSlShutdown = true ∧ contains line (literal "clean=true") = false := by
  decide +kernel

theorem accepted_evidence_mixed : AudioEvidence mixedLog ↔ Unborrowed mixedLog := accepted_evidence_iff mixedLog_facts.1

theorem mixed_shutdowns_accepted : validateReadinessLog .openGlEs mixedLog = .ok () ∧ ¬ AudioEvidence mixedLog := by
  obtain ⟨haccepted, hsubmitted, line, hline, hshutdown, hunclean⟩ := mixedLog_facts
  refine ⟨haccepted, fun he => ?_⟩
  have hreports := Reports.of_search (@delimited_marker kOpenSlSubmitted (by simp)).1 hsubmitted
  have hclean := contains_iff.mpr ((he.openSl hreports).2.2 line hline (contains_iff.mp hshutdown))
  rw [hunclean] at hclean
  cases hclean

end Mocktail.Update.Canary
