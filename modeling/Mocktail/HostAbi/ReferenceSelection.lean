/-
  Mocktail.HostAbi.ReferenceSelection — which reference a derivation starts from
  (`CollectReferenceSidecars` and `ResolveReferenceProfile` of update_coordinator.cc,
  `ReadHostAbiSidecarIdentity` of host_abi_deriver.cc).

  The references are a directory of sidecars. Its `.json` files are taken in the order the
  directory gives them in; of two that name one build ID the first is kept. The profile is then
  the one with the greatest version code of those that have a sidecar. Where the coordinator
  hashes the same directory it sorts the names first; here it does not.

  `resolveReferenceProfile_order`: which profile is chosen never depends on the order; which
  sidecar does, unless only one names the chosen profile.
-/

import Mathlib.Data.List.Induction
import Mathlib.Data.List.Perm.Basic
import Mocktail.Update.CompatibilityCatalog

namespace Mocktail.HostAbi

open Mocktail.Lib Mocktail.Launch Mocktail.Update

def kMaximumJsonBytes : Nat := 1024 * 1024

/-- `ReadJson` with `ReadSmallRegular`. -/
def readJson (lib : JsonLibrary) (path : Text) : FileState → Except Text Members
  | .missing => .error (ascii "cannot open JSON input: " ++ path)
  | .irregular => .error (ascii "JSON input is not a bounded regular file")
  | .unreadable => .error (ascii "cannot read JSON input")
  | .regular bytes =>
    if bytes = [] ∨ kMaximumJsonBytes < bytes.length then .error (ascii "JSON input is not a bounded regular file")
    else
      match parseObject lib bytes with
      | none => .error (ascii "JSON input must contain one object: " ++ path)
      | some members => .ok members

/-- `ReadHostAbiSidecarIdentity`: the build ID that a sidecar was derived for. -/
def readHostAbiSidecarIdentity (lib : JsonLibrary) (path : Text) (file : FileState) : Outcome Text := do
  let document ← outcome (readJson lib path file)
  if (← valueInt document "schema_version") ≠ 1 then
    .error (.error (ascii "HostAbi sidecar has an unsupported schema: " ++ path))
  else
    let buildId := asciiLower (← valueText document "elf_build_id")
    let payloadId ← valueText document "payload_id"
    let inconsistent ← anyOf [.ok (buildId.length ≠ 40), .ok (payloadId.length ≤ 41),
      .ok (payloadId.drop (payloadId.length - 40) ≠ buildId), differs document "payload_path" (ascii "payloads/" ++ payloadId)]
    if inconsistent then .error (.error (ascii "HostAbi sidecar identity is inconsistent: " ++ path))
    else .ok buildId

/-- The extension of a file name is `.json`; a name that is only that has none. -/
def isJsonName (name : Text) : Bool := ascii ".json" <:+ name && 5 < name.length

abbrev Entry := Text × FileState

section
variable (lib : JsonLibrary) (location : Text)

def entryPath (entry : Entry) : Text := location ++ ascii "/" ++ entry.1

/-- The sidecars of a directory, in its order, and the build IDs that they name. -/
def directorySidecars (entries : List Entry) : List (Text × Outcome Text) :=
  (entries.filter fun entry => isJsonName entry.1).map fun entry =>
    (entryPath location entry, readHostAbiSidecarIdentity lib (entryPath location entry) entry.2)

/-- `ResolveReferenceProfile` of a directory: the profile and its sidecar. -/
def resolveReferenceProfile (profiles : List SupportedPayloadProfile) (entries : List Entry) :
    Outcome (Option (SupportedPayloadProfile × Text)) :=
  (collectReferenceSidecars (directorySidecars lib location entries)).map fun sidecars => selectReference sidecars profiles

/-- A readable sidecar that names the build ID. -/
def claims (buildId : Text) (entry : Entry) : Bool :=
  isJsonName entry.1 && readHostAbiSidecarIdentity lib (entryPath location entry) entry.2 == .ok buildId

/-- A sidecar whose members have types that stop the process. -/
def aborts (entry : Entry) : Bool :=
  isJsonName entry.1 && readHostAbiSidecarIdentity lib (entryPath location entry) entry.2 == .error .abort

end

/-! ## What is collected and selected -/

variable {entry : Entry}

section
variable {lib : JsonLibrary} {location : Text} {entries : List Entry}

theorem directorySidecars_json (h : isJsonName entry.1 = true) :
    directorySidecars lib location (entry :: entries) =
      (entryPath location entry, readHostAbiSidecarIdentity lib (entryPath location entry) entry.2) ::
        directorySidecars lib location entries := by
  simp [directorySidecars, h]

theorem directorySidecars_other (h : ¬isJsonName entry.1 = true) :
    directorySidecars lib location (entry :: entries) = directorySidecars lib location entries := by
  simp [directorySidecars, h]

theorem collect_aborts (h : ∃ entry ∈ entries, aborts lib location entry = true) :
    collectReferenceSidecars (directorySidecars lib location entries) = .error .abort := by
  induction entries with
  | nil =>
    obtain ⟨entry, hin, -⟩ := h
    exact absurd hin (by simp)
  | cons first rest ih =>
    obtain ⟨entry, hin, habort⟩ := h
    have hrest : aborts lib location first = false →
        collectReferenceSidecars (directorySidecars lib location rest) = .error .abort := by
      intro hfirst
      rcases List.mem_cons.mp hin with rfl | hin
      · exact absurd (hfirst.symm.trans habort) (by decide)
      · exact ih ⟨entry, hin, habort⟩
    by_cases hjson : isJsonName first.1 = true
    · rw [directorySidecars_json hjson]
      cases hread : readHostAbiSidecarIdentity lib (entryPath location first) first.2 with
      | ok buildId =>
        rw [collectReferenceSidecars, hrest (by simp [aborts, hread])]
        rfl
      | error stop =>
        cases stop with
        | abort => rw [collectReferenceSidecars]
        | error text => rw [collectReferenceSidecars, hrest (by simp [aborts, hread])]
    · rw [directorySidecars_other hjson, hrest (by simp [aborts, hjson])]

/-- The sidecar found for a build ID is the first that names it. -/
theorem collect_find (h : ∀ entry ∈ entries, aborts lib location entry = false) :
    ∃ sidecars, collectReferenceSidecars (directorySidecars lib location entries) = .ok sidecars ∧
      ∀ buildId, (sidecars.find? (·.1 == buildId)).map Prod.snd =
        (entries.find? (claims lib location buildId)).map (entryPath location) := by
  induction entries with
  | nil => exact ⟨[], rfl, fun _ => rfl⟩
  | cons entry rest ih =>
    obtain ⟨sidecars, hrest, hfind⟩ := ih fun e he => h e (List.mem_cons_of_mem _ he)
    have hfirst := h entry (List.mem_cons_self ..)
    have hskip : ∀ wanted, claims lib location wanted entry = false →
        (sidecars.find? (·.1 == wanted)).map Prod.snd =
          ((entry :: rest).find? (claims lib location wanted)).map (entryPath location) := by
      intro wanted hclaims
      rw [List.find?_cons_of_neg (by rw [hclaims]; decide)]
      exact hfind wanted
    by_cases hjson : isJsonName entry.1 = true
    · rw [directorySidecars_json hjson]
      cases hread : readHostAbiSidecarIdentity lib (entryPath location entry) entry.2 with
      | ok buildId =>
        refine ⟨(buildId, entryPath location entry) :: sidecars, ?_, fun wanted => ?_⟩
        · rw [collectReferenceSidecars, hrest]
          rfl
        · by_cases hsame : buildId = wanted
          · have hclaims : claims lib location wanted entry = true := by simp [claims, hjson, hread, hsame]
            rw [List.find?_cons_of_pos (by simp [hsame]), List.find?_cons_of_pos hclaims]
            rfl
          · rw [List.find?_cons_of_neg (by simp [hsame])]
            exact hskip wanted (by simp [claims, hread, hsame])
      | error stop =>
        cases stop with
        | abort => exact absurd hfirst (by simp [aborts, hjson, hread])
        | error text =>
          exact ⟨sidecars, by rw [collectReferenceSidecars, hrest], fun wanted => hskip wanted (by simp [claims, hread])⟩
    · rw [directorySidecars_other hjson]
      exact ⟨sidecars, hrest, fun wanted => hskip wanted (by simp [claims, hjson])⟩

end

/-! ## The newest profile -/

/-- A profile, the sidecar found for it, and no newer profile for which one is found. -/
structure Newest (lookup : Text → Option Text) (profiles : List SupportedPayloadProfile) (profile : SupportedPayloadProfile)
    (path : Text) : Prop where
  supported : profile ∈ profiles
  found : lookup profile.elfBuildId = some path
  newest : ∀ other ∈ profiles, (lookup other.elfBuildId).isSome = true → other.versionCode ≤ profile.versionCode

/-- What may be selected. -/
def Selects (lookup : Text → Option Text) (profiles : List SupportedPayloadProfile) :
    Option (SupportedPayloadProfile × Text) → Prop
  | none => ∀ profile ∈ profiles, lookup profile.elfBuildId = none
  | some (profile, path) => Newest lookup profiles profile path

theorem selectReference_selects (sidecars : List (Text × Text)) (profiles : List SupportedPayloadProfile) :
    Selects (fun buildId => (sidecars.find? (·.1 == buildId)).map Prod.snd) profiles (selectReference sidecars profiles) := by
  induction profiles using List.reverseRecOn with
  | nil => exact fun profile hin => absurd hin (by simp)
  | append_singleton profiles profile ih =>
    generalize hlookup : (fun buildId => (sidecars.find? (·.1 == buildId)).map Prod.snd) = lookup at ih ⊢
    have hfind : lookup profile.elfBuildId = (sidecars.find? (·.1 == profile.elfBuildId)).map Prod.snd := by rw [← hlookup]
    have hmem : ∀ other ∈ profiles ++ [profile], other ∈ profiles ∨ other = profile := fun other hin => by simpa using hin
    rw [selectReference, List.foldl_append, List.foldl_cons, List.foldl_nil, ← selectReference]
    cases hf : sidecars.find? (·.1 == profile.elfBuildId) with
    | none =>
      rw [hf] at hfind
      dsimp only
      cases hs : selectReference sidecars profiles with
      | none =>
        rw [hs] at ih
        intro other hin
        rcases hmem other hin with hin | rfl
        · exact ih other hin
        · exact hfind
      | some chosen =>
        rw [hs] at ih
        refine ⟨List.mem_append_left _ ih.supported, ih.found, fun other hin hsome => ?_⟩
        rcases hmem other hin with hin | rfl
        · exact ih.newest other hin hsome
        · rw [hfind] at hsome
          exact absurd hsome (by simp)
    | some sidecar =>
      rw [hf] at hfind
      dsimp only
      cases hs : selectReference sidecars profiles with
      | none =>
        rw [hs] at ih
        refine ⟨by simp, hfind, fun other hin hsome => ?_⟩
        rcases hmem other hin with hin | rfl
        · rw [ih other hin] at hsome
          exact absurd hsome (by simp)
        · exact Nat.le_refl _
      | some chosen =>
        rw [hs] at ih
        by_cases hnewer : chosen.1.versionCode < profile.versionCode
        · rw [if_pos (by simpa using hnewer)]
          refine ⟨by simp, hfind, fun other hin hsome => ?_⟩
          rcases hmem other hin with hin | rfl
          · have hle := ih.newest other hin hsome
            omega
          · exact Nat.le_refl _
        · rw [if_neg (by simpa using hnewer)]
          refine ⟨List.mem_append_left _ ih.supported, ih.found, fun other hin hsome => ?_⟩
          rcases hmem other hin with hin | rfl
          · exact ih.newest other hin hsome
          · omega

theorem newest_unique {lookup lookup' : Text → Option Text} {profiles : List SupportedPayloadProfile}
    {profile profile' : SupportedPayloadProfile} {path path' : Text}
    (hversions : (profiles.map SupportedPayloadProfile.versionCode).Nodup)
    (hsame : ∀ buildId, (lookup buildId).isSome = (lookup' buildId).isSome) (h : Newest lookup profiles profile path)
    (h' : Newest lookup' profiles profile' path') : profile = profile' := by
  have hle := h.newest profile' h'.supported (by rw [hsame, h'.found]; rfl)
  have hge := h'.newest profile h.supported (by rw [← hsame, h.found]; rfl)
  exact List.inj_on_of_nodup_map hversions h.supported h'.supported (by omega)

/-! ## Any order -/

section
variable (lib : JsonLibrary) (location : Text) (profiles : List SupportedPayloadProfile) (entries : List Entry)

def named (buildId : Text) : Prop := ∃ entry ∈ entries, claims lib location buildId entry = true

/-- The chosen profile has a sidecar, and no newer profile has one. -/
def Chosen (profile : SupportedPayloadProfile) : Prop :=
  profile ∈ profiles ∧ named lib location entries profile.elfBuildId ∧
    ∀ other ∈ profiles, named lib location entries other.elfBuildId → other.versionCode ≤ profile.versionCode

/-- The choice does not depend on the order, and is the newest there is. -/
structure Settled : Prop where
  order : ∀ other, other.Perm entries →
    resolveReferenceProfile lib location profiles other = resolveReferenceProfile lib location profiles entries
  greatest : ∀ profile path, resolveReferenceProfile lib location profiles entries = .ok (some (profile, path)) →
    Chosen lib location profiles entries profile ∧
      ∃ entry ∈ entries, claims lib location profile.elfBuildId entry = true ∧ path = entryPath location entry

/-- Only one sidecar names the profile that is chosen. -/
def OneSidecar : Prop :=
  (∀ entry ∈ entries, aborts lib location entry = false) → ∀ profile, Chosen lib location profiles entries profile →
    ∀ entry ∈ entries, ∀ entry' ∈ entries, claims lib location profile.elfBuildId entry = true →
      claims lib location profile.elfBuildId entry' = true → entry = entry'

/-- The first sidecar that names a build ID. -/
def firstNamed (buildId : Text) : Option Text := (entries.find? (claims lib location buildId)).map (entryPath location)

end

section
variable {lib : JsonLibrary} {location : Text} {profiles : List SupportedPayloadProfile} {entries : List Entry}

theorem firstNamed_isSome (buildId : Text) :
    (firstNamed lib location entries buildId).isSome = true ↔ named lib location entries buildId := by
  rw [firstNamed, Option.isSome_map, List.find?_isSome]
  rfl

theorem resolve_selects (h : ∀ entry ∈ entries, aborts lib location entry = false) :
    ∃ selected, resolveReferenceProfile lib location profiles entries = .ok selected ∧
      Selects (firstNamed lib location entries) profiles selected := by
  obtain ⟨sidecars, hcollect, hfind⟩ := collect_find h
  refine ⟨selectReference sidecars profiles, ?_, ?_⟩
  · rw [resolveReferenceProfile, hcollect]
    rfl
  · have hselects := selectReference_selects sidecars profiles
    rwa [show (fun buildId => (sidecars.find? (·.1 == buildId)).map Prod.snd) = firstNamed lib location entries from
      funext hfind] at hselects

variable {profile : SupportedPayloadProfile}

theorem chosen_of_newest {path : Text}
    (h : Newest (firstNamed lib location entries) profiles profile path) : Chosen lib location profiles entries profile :=
  ⟨h.supported, (firstNamed_isSome _).mp (by rw [h.found]; rfl),
    fun other hin hnamed => h.newest other hin ((firstNamed_isSome _).mpr hnamed)⟩

theorem firstNamed_entry {buildId path : Text} (h : firstNamed lib location entries buildId = some path) :
    ∃ entry ∈ entries, claims lib location buildId entry = true ∧ path = entryPath location entry := by
  obtain ⟨entry, hfind, hpath⟩ := Option.map_eq_some_iff.mp h
  exact ⟨entry, List.mem_of_find?_eq_some hfind, List.find?_some hfind, hpath.symm⟩

theorem resolve_first {rest : List Entry}
    (hversions : (profiles.map SupportedPayloadProfile.versionCode).Nodup) (hperm : (entry :: rest).Perm entries)
    (hsafe : ∀ entry ∈ entries, aborts lib location entry = false) (hchosen : Chosen lib location profiles entries profile)
    (hclaims : claims lib location profile.elfBuildId entry = true) :
    resolveReferenceProfile lib location profiles (entry :: rest) = .ok (some (profile, entryPath location entry)) := by
  have hsafe' : ∀ e ∈ entry :: rest, aborts lib location e = false := fun e he => hsafe e (hperm.mem_iff.mp he)
  have hnamed : ∀ buildId, named lib location (entry :: rest) buildId ↔ named lib location entries buildId := by
    intro buildId
    constructor
    · exact fun ⟨e, he, hc⟩ => ⟨e, hperm.mem_iff.mp he, hc⟩
    · exact fun ⟨e, he, hc⟩ => ⟨e, hperm.mem_iff.mpr he, hc⟩
  have hfound : firstNamed lib location (entry :: rest) profile.elfBuildId = some (entryPath location entry) := by
    rw [firstNamed, List.find?_cons_of_pos hclaims]
    rfl
  have hnewest : Newest (firstNamed lib location (entry :: rest)) profiles profile (entryPath location entry) :=
    ⟨hchosen.1, hfound, fun other hin hsome => hchosen.2.2 other hin ((hnamed _).mp ((firstNamed_isSome _).mp hsome))⟩
  obtain ⟨selected, hresolve, hselects⟩ : ∃ selected,
    resolveReferenceProfile lib location profiles (entry :: rest) = .ok selected ∧
      Selects (firstNamed lib location (entry :: rest)) profiles selected := resolve_selects hsafe'
  rw [hresolve]
  match selected, hselects with
  | none, hnone =>
    rw [hnone profile hchosen.1] at hfound
    exact absurd hfound (by simp)
  | some (other, path), hother =>
    obtain rfl := newest_unique hversions (fun _ => rfl) hnewest hother
    have hpath := hother.found.symm.trans hfound
    rw [Option.some.inj hpath]

theorem perm_first (h : entry ∈ entries) : ∃ rest, (entry :: rest).Perm entries := by
  obtain ⟨before, after, rfl⟩ := List.append_of_mem h
  exact ⟨before ++ after, List.perm_middle.symm⟩

theorem resolve_greatest {path : Text}
    (h : resolveReferenceProfile lib location profiles entries = .ok (some (profile, path))) :
    Chosen lib location profiles entries profile ∧
      ∃ entry ∈ entries, claims lib location profile.elfBuildId entry = true ∧ path = entryPath location entry := by
  by_cases habort : ∃ entry ∈ entries, aborts lib location entry = true
  · rw [resolveReferenceProfile, collect_aborts habort] at h
    exact absurd h (by simp [Except.map])
  · have hsafe : ∀ entry ∈ entries, aborts lib location entry = false := by
      intro entry hin
      exact (Bool.not_eq_true _).mp fun htrue => habort ⟨entry, hin, htrue⟩
    obtain ⟨selected, hresolve, hselects⟩ : ∃ selected, resolveReferenceProfile lib location profiles entries = .ok selected ∧
        Selects (firstNamed lib location entries) profiles selected := resolve_selects hsafe
    obtain rfl : selected = some (profile, path) := Except.ok.inj (hresolve.symm.trans h)
    exact ⟨chosen_of_newest hselects, firstNamed_entry hselects.found⟩

end

theorem resolveReferenceProfile_order (lib : JsonLibrary) (location : Text) (profiles : List SupportedPayloadProfile)
    (entries : List Entry) (hversions : (profiles.map SupportedPayloadProfile.versionCode).Nodup)
    (hnames : (entries.map Prod.fst).Nodup) :
    Settled lib location profiles entries ↔ OneSidecar lib location profiles entries := by
  constructor
  · intro hsettled hsafe profile hchosen entry hin entry' hin' hclaims hclaims'
    obtain ⟨rest, hperm⟩ := perm_first hin
    obtain ⟨rest', hperm'⟩ := perm_first hin'
    have hfirst := resolve_first hversions hperm hsafe hchosen hclaims
    have hfirst' := resolve_first hversions hperm' hsafe hchosen hclaims'
    rw [hsettled.order _ hperm] at hfirst
    rw [hsettled.order _ hperm'] at hfirst'
    have hpath : entryPath location entry = entryPath location entry' := by
      have hboth := hfirst.symm.trans hfirst'
      simpa using hboth
    have hname : entry.1 = entry'.1 := List.append_cancel_left hpath
    exact List.inj_on_of_nodup_map hnames hin hin' hname
  · intro hone
    refine ⟨?_, fun profile path h => resolve_greatest h⟩
    intro other hperm
    by_cases habort : ∃ entry ∈ entries, aborts lib location entry = true
    · obtain ⟨entry, hin, htrue⟩ := habort
      rw [resolveReferenceProfile, resolveReferenceProfile, collect_aborts ⟨entry, hin, htrue⟩,
        collect_aborts ⟨entry, hperm.mem_iff.mpr hin, htrue⟩]
    · have hsafe : ∀ entry ∈ entries, aborts lib location entry = false := by
        intro entry hin
        exact (Bool.not_eq_true _).mp fun htrue => habort ⟨entry, hin, htrue⟩
      have hsafe' : ∀ entry ∈ other, aborts lib location entry = false := fun e he => hsafe e (hperm.mem_iff.mp he)
      have hsome : ∀ buildId, (firstNamed lib location other buildId).isSome =
          (firstNamed lib location entries buildId).isSome := by
        intro buildId
        rw [Bool.eq_iff_iff, firstNamed_isSome, firstNamed_isSome]
        constructor
        · exact fun ⟨e, he, hc⟩ => ⟨e, hperm.mem_iff.mp he, hc⟩
        · exact fun ⟨e, he, hc⟩ => ⟨e, hperm.mem_iff.mpr he, hc⟩
      have hempty : ∀ buildId, firstNamed lib location other buildId = none ↔ firstNamed lib location entries buildId = none := by
        intro buildId
        rw [← Option.isNone_iff_eq_none, ← Option.isNone_iff_eq_none, ← Option.not_isSome, ← Option.not_isSome, hsome]
      obtain ⟨selected, hresolve, hselects⟩ : ∃ selected,
          resolveReferenceProfile lib location profiles entries = .ok selected ∧
            Selects (firstNamed lib location entries) profiles selected := resolve_selects hsafe
      obtain ⟨selected', hresolve', hselects'⟩ : ∃ selected,
          resolveReferenceProfile lib location profiles other = .ok selected ∧
            Selects (firstNamed lib location other) profiles selected := resolve_selects hsafe'
      rw [hresolve, hresolve']
      match selected, hselects, selected', hselects' with
      | none, _, none, _ => rfl
      | some (profile, path), hnewest, none, hnone =>
        have hgone := (hempty _).mp (hnone profile hnewest.supported)
        rw [hnewest.found] at hgone
        exact absurd hgone (by simp)
      | none, hnone, some (profile, path), hnewest =>
        have hgone := (hempty _).mpr (hnone profile hnewest.supported)
        rw [hnewest.found] at hgone
        exact absurd hgone (by simp)
      | some (profile, path), hnewest, some (profile', path'), hnewest' =>
        obtain rfl := newest_unique hversions (fun buildId => (hsome buildId).symm) hnewest hnewest'
        obtain ⟨entry, hin, hclaims, rfl⟩ := firstNamed_entry hnewest.found
        obtain ⟨entry', hin', hclaims', rfl⟩ := firstNamed_entry hnewest'.found
        rw [hone hsafe profile (chosen_of_newest hnewest) entry hin entry' (hperm.mem_iff.mp hin') hclaims hclaims']

/-! ## A directory of references -/

def exampleProfile : SupportedPayloadProfile := ⟨ascii "2.700.0", 2908, List.replicate 40 0x61⟩

def newerProfile : SupportedPayloadProfile := ⟨ascii "2.701.0", 2921, List.replicate 40 0x62⟩

def exampleMembers (code : String) (buildId : Text) : Members :=
  [(ascii "elf_build_id", .string buildId), (ascii "payload_id", .string (ascii code ++ ascii "-" ++ buildId)),
    (ascii "payload_path", .string (ascii "payloads/" ++ ascii code ++ ascii "-" ++ buildId)),
    (ascii "schema_version", .integer 1)]

def exampleText (code : String) (buildId : Text) : Text :=
  ascii "\x7b\"elf_build_id\":\"" ++ buildId ++ ascii "\",\"payload_id\":\"" ++ ascii code ++ ascii "-" ++ buildId ++
    ascii "\",\"payload_path\":\"payloads/" ++ ascii code ++ ascii "-" ++ buildId ++ ascii "\",\"schema_version\":1\x7d"

def exampleLibrary : JsonLibrary :=
  oneFlatDocument (exampleText "2908" exampleProfile.elfBuildId) (exampleMembers "2908" exampleProfile.elfBuildId) fun json =>
    if json = exampleText "2921" newerProfile.elfBuildId then
      some (.object (exampleMembers "2921" newerProfile.elfBuildId))
    else none

def exampleSidecar (name : String) : Entry := (ascii name, .regular (exampleText "2908" exampleProfile.elfBuildId))

def newerSidecar (name : String) : Entry := (ascii name, .regular (exampleText "2921" newerProfile.elfBuildId))

/-- Two profiles, the newer with one sidecar and the older with a copy too. -/
theorem resolveReferenceProfile_order_newer :
    Settled exampleLibrary (ascii "host_abi") [exampleProfile, newerProfile]
        [exampleSidecar "a.json", newerSidecar "b.json", exampleSidecar "c.json"] ∧
      resolveReferenceProfile exampleLibrary (ascii "host_abi") [exampleProfile, newerProfile]
        [exampleSidecar "c.json", newerSidecar "b.json", exampleSidecar "a.json"] =
          .ok (some (newerProfile, ascii "host_abi/b.json")) := by
  refine ⟨(resolveReferenceProfile_order _ _ _ _ (by decide) (by decide)).mpr ?_, by decide +kernel⟩
  intro _ profile hchosen entry hin entry' hin' hclaims hclaims'
  have hnewer : ∃ entry ∈ [exampleSidecar "a.json", newerSidecar "b.json", exampleSidecar "c.json"],
      claims exampleLibrary (ascii "host_abi") newerProfile.elfBuildId entry = true := by
    decide +kernel
  -- The newer profile has a sidecar, so the older one is not chosen.
  obtain rfl : profile = newerProfile := by
    have hle := hchosen.2.2 newerProfile (by simp) hnewer
    rcases List.mem_pair.mp hchosen.1 with rfl | rfl
    · exact absurd hle (by decide)
    · rfl
  have honly : ∀ entry ∈ [exampleSidecar "a.json", newerSidecar "b.json", exampleSidecar "c.json"],
      claims exampleLibrary (ascii "host_abi") newerProfile.elfBuildId entry = true → entry.1 = ascii "b.json" := by
    decide +kernel
  exact List.inj_on_of_nodup_map (by decide) hin hin' ((honly entry hin hclaims).trans (honly entry' hin' hclaims').symm)

/-- A sidecar and a copy of it. -/
theorem resolveReferenceProfile_copied :
    ¬Settled exampleLibrary (ascii "host_abi") [exampleProfile] [exampleSidecar "a.json", exampleSidecar "b.json"] := by
  intro h
  have hfirst : resolveReferenceProfile exampleLibrary (ascii "host_abi") [exampleProfile]
      [exampleSidecar "a.json", exampleSidecar "b.json"] = .ok (some (exampleProfile, ascii "host_abi/a.json")) := by
    decide +kernel
  have hsecond : resolveReferenceProfile exampleLibrary (ascii "host_abi") [exampleProfile]
      [exampleSidecar "b.json", exampleSidecar "a.json"] = .ok (some (exampleProfile, ascii "host_abi/b.json")) := by
    decide +kernel
  rw [h.order _ (List.Perm.swap ..), hfirst] at hsecond
  have hpath : ascii "host_abi/a.json" = ascii "host_abi/b.json" := by simpa using hsecond
  exact absurd hpath (by decide)

end Mocktail.HostAbi
