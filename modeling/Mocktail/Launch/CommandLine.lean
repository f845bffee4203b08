/-
  Mocktail.Launch.CommandLine — the command line and its re-exec form
  (src/runtime/command_line.cc).

  A launch is given as `--launch-uri <uri>`, as a bare URI or as `--launch-request-json
  <document>`; the parser keeps the canonical document and where the launch stood.
  `BuildCommandLineReexecArguments` copies the other arguments and writes the launch as its
  canonical document, whatever it was. Reading that command line again gives the same options
  (`reexec_preserves_options`): no value of an option looks like an option, so the place of
  the launch is found again, and the canonical document is its own canonical document.
-/

import Mocktail.Launch.PlayerUris

namespace Mocktail.Launch

open Mocktail.Lib

/-! ## Options -/

inductive CommandMode where
  | run | help
  deriving DecidableEq, Repr

inductive WindowMode where
  | unspecified | headless | windowed
  deriving DecidableEq, Repr

structure CommandLineOptions where
  mode : CommandMode := .run
  windowMode : WindowMode := .unspecified
  programName : Text := ascii "mocktail"
  robloxLibraryPath : Text := []
  graphicsBackend : Text := []
  rawLaunchArgument : Text := []
  launchRequestJson : Text := []
  launchArgumentIndex : Int := -1
  allowUnverifiedBuild : Bool := false
  forceRunLatest : Bool := false
  deriving DecidableEq, Repr

structure CommandLineParseResult where
  options : CommandLineOptions
  error : Text := []
  deriving DecidableEq, Repr

/-- The arguments of a process; an entry may be a null pointer. -/
abbrev Argv := List (Option Text)

/-- Why `ParseCommandLine` is done before its arguments are. -/
inductive Stop where
  | result (result : CommandLineParseResult)
  /-- An exception left a launch parser. -/
  | exception
  deriving DecidableEq, Repr

def failWith {α : Type} (options : CommandLineOptions) (error : Text) : Except Stop α := .error (.result ⟨options, error⟩)

def startsWithDashes (value : Text) : Bool := value.take 2 == ascii "--"

/-- The value after an option. -/
def readOptionValue (option : Text) (options : CommandLineOptions) (rest : Argv) : Except Stop Text :=
  match rest with
  | some value :: _ =>
    if value = [] ∨ startsWithDashes value = true then failWith options (ascii "missing value for " ++ option) else .ok value
  | _ => failWith options (ascii "missing value for " ++ option)

/-- The options that stand alone. -/
def flagOption (argument : Text) (options : CommandLineOptions) : Option CommandLineOptions :=
  if argument = ascii "--headless" then some { options with windowMode := .headless }
  else if argument = ascii "--windowed" then some { options with windowMode := .windowed }
  else if argument = ascii "--allow-unverified-build" then some { options with allowUnverifiedBuild := true }
  else if argument = ascii "--force-run-latest" then some { options with forceRunLatest := true }
  else none

/-- The options that take a text. -/
def textOption (argument : Text) : Option (Text → CommandLineOptions → CommandLineOptions) :=
  if argument = ascii "--roblox-lib" then some fun value options => { options with robloxLibraryPath := value }
  else if argument = ascii "--graphics" then some fun value options => { options with graphicsBackend := value }
  else none

/-- A launch and where it stood. -/
def CommandLineOptions.withLaunch (options : CommandLineOptions) (raw : Text) (request : ExperienceLaunchRequest) (index : Nat) :
    CommandLineOptions :=
  { options with rawLaunchArgument := raw, launchRequestJson := request.canonicalJson, launchArgumentIndex := index }

section
variable (host : LaunchHost)

/-- `--launch-uri` and its value, which stands at `index`. -/
def launchUriOption (options : CommandLineOptions) (value : Text) (index : Nat) : Except Stop CommandLineOptions :=
  match parseRobloxLaunchUri host value with
  | .ok request => .ok (options.withLaunch value request index)
  | .error (.status status) =>
    failWith { options with rawLaunchArgument := [] } (ascii "invalid Roblox launch URI: " ++ ascii status.message)
  | .error .exception => .error .exception

def launchDocumentOption (options : CommandLineOptions) (document : Text) (index : Nat) : Except Stop CommandLineOptions :=
  match parseRobloxExperienceLaunchJson host.json document with
  | .ok request => .ok (options.withLaunch document request index)
  | .error (.status _) => failWith options (ascii "invalid controlled launch request")
  | .error .exception => .error .exception

/-- An argument without a dash. -/
def bareArgument (options : CommandLineOptions) (argument : Text) (index : Nat) : Except Stop CommandLineOptions :=
  match parseRobloxLaunchUri host argument with
  | .ok request => .ok (options.withLaunch argument request index)
  | .error (.status _) => failWith options (ascii "unknown argument")
  | .error .exception => .error .exception

/-- One turn of `ParseCommandLine`'s loop: the options, and whether the next argument was taken as a value. -/
def parseArgument (index : Nat) (argument : Text) (rest : Argv) (options : CommandLineOptions) :
    Except Stop (CommandLineOptions × Bool) :=
  if argument = ascii "--help" ∨ argument = ascii "-h" then .error (.result ⟨{ options with mode := .help }, []⟩)
  else
    match flagOption argument options with
    | some options => .ok (options, false)
    | none =>
      match textOption argument with
      | some set => do
        let value ← readOptionValue argument options rest
        .ok (set value options, true)
      | none =>
        if argument = ascii "--launch-uri" then
          if options.launchRequestJson ≠ [] then failWith options (ascii "duplicate option: --launch-uri")
          else do
            let value ← readOptionValue argument options rest
            let options ← launchUriOption host options value (index + 1)
            .ok (options, true)
        else if argument = ascii "--launch-request-json" then
          if options.launchRequestJson ≠ [] then failWith options (ascii "duplicate controlled launch request")
          else do
            let document ← readOptionValue argument options rest
            let options ← launchDocumentOption host options document (index + 1)
            .ok (options, true)
        else if argument ≠ [] ∧ argument.head? ≠ some 0x2d then
          if options.launchRequestJson = [] then do
            let options ← bareArgument host options argument index
            .ok (options, false)
          else failWith options (ascii "unknown argument")
        else failWith options (ascii "unknown option: " ++ argument)

def parseArguments : Nat → Argv → CommandLineOptions → Except Stop CommandLineOptions
  | _, [], options => .ok options
  | _, none :: _, options => failWith options (ascii "invalid null command-line argument")
  | index, some argument :: rest, options =>
    match parseArgument host index argument rest options with
    | .error stop => .error stop
    | .ok (options, took) =>
      match took, rest with
      | true, _ :: rest => parseArguments (index + 2) rest options
      | _, rest => parseArguments (index + 1) rest options

/-- The options once the arguments are read. -/
def checkForceRunLatest (options : CommandLineOptions) : CommandLineParseResult :=
  if options.forceRunLatest = true ∧ (options.robloxLibraryPath ≠ [] ∨ options.windowMode ≠ .unspecified ∨
      options.graphicsBackend ≠ [] ∨ options.allowUnverifiedBuild = true ∨ options.launchRequestJson ≠ []) then
    ⟨options, ascii "--force-run-latest must be used on its own"⟩
  else ⟨options, []⟩

def initialOptions (argv : Argv) : CommandLineOptions :=
  match argv with
  | some name :: _ => if name = [] then {} else { programName := name }
  | _ => {}

/-- None is an exception. -/
def parseCommandLine (argv : Argv) : Option CommandLineParseResult :=
  match parseArguments host 1 (argv.drop 1) (initialOptions argv) with
  | .ok options => some (checkForceRunLatest options)
  | .error (.result result) => some result
  | .error .exception => none

end

/-! ## Re-exec arguments -/

def isLaunchOption (argument : Text) : Bool := argument == ascii "--launch-uri" || argument == ascii "--launch-request-json"

/-- Whether the launch starts here, and whether as an option with its value. -/
def launchHere (replace : Bool) (launchIndex : Int) (index : Nat) (argument : Text) : Option Bool :=
  if replace = true ∧ (index : Int) + 1 = launchIndex ∧ isLaunchOption argument = true then some true
  else if replace = true ∧ (index : Int) = launchIndex then some false
  else none

/-- The loop from an index on: the arguments and whether the launch was replaced; none is a null pointer. -/
def reexecLoop (replace : Bool) (launchIndex : Int) (json : Text) : Nat → Argv → Option (List Text × Bool)
  | _, [] => some ([], false)
  | _, none :: _ => none
  | index, some argument :: rest =>
    match launchHere replace launchIndex index argument, rest with
    | some true, _ :: rest =>
      (reexecLoop replace launchIndex json (index + 2) rest).map fun p => (ascii "--launch-request-json" :: json :: p.1, true)
    | some _, rest =>
      (reexecLoop replace launchIndex json (index + 1) rest).map fun p => (ascii "--launch-request-json" :: json :: p.1, true)
    | none, rest => (reexecLoop replace launchIndex json (index + 1) rest).map fun p => (argument :: p.1, p.2)

def buildCommandLineReexecArguments (options : CommandLineOptions) (argv : Argv) : Except String (List Text) :=
  let replaceRawLaunch := decide (options.rawLaunchArgument ≠ [])
  if replaceRawLaunch = true ∧ (options.launchRequestJson = [] ∨ options.launchArgumentIndex ≤ 0 ∨
      (argv.length : Int) ≤ options.launchArgumentIndex ∨
      argv.getD options.launchArgumentIndex.toNat none ≠ some options.rawLaunchArgument) then
    .error "cannot normalize cgroup launch request"
  else
    match reexecLoop replaceRawLaunch options.launchArgumentIndex options.launchRequestJson 1 (argv.drop 1) with
    | none => .error "cannot prepare cgroup re-exec arguments"
    | some (arguments, replaced) =>
      if replaceRawLaunch = true ∧ replaced = false then .error "cannot normalize cgroup launch request" else .ok arguments

/-! ## Canonical documents -/

/-- A value as it is read back from the canonical text: `-0` was an integer and is written as `0`. -/
inductive SameJson : Json → Json → Prop where
  | same (value : Json) : SameJson value value
  | natural {n : Nat} (h : n < 2 ^ 63) : SameJson (.integer n) (.unsigned n)
  | array (items items' : List Json) : SameJson (.array items) (.array items')
  | object (members members' : List (Text × Json)) : SameJson (.object members) (.object members')

/-- An object is written with a brace, and what was parsed and written is parsed to the same members and written alike. -/
structure JsonLibrary.Stable (lib : JsonLibrary) : Prop where
  brace : ∀ members text, lib.dump (.object members) = some text → text.head? = some 0x7b
  reparse : ∀ text members canonical, lib.parse text = some (.object members) →
    lib.dump (.object members) = some canonical → ∃ members', lib.parse canonical = some (.object members') ∧
      lib.dump (.object members') = some canonical ∧
      List.Forall₂ (fun m m' => m.1 = m'.1 ∧ SameJson m.2 m'.2) members members'

theorem findMember_same {members members' : List (Text × Json)}
    (h : List.Forall₂ (fun m m' => m.1 = m'.1 ∧ SameJson m.2 m'.2) members members') (name : Text) :
    Option.Rel SameJson (findMember members name) (findMember members' name) := by
  induction h with
  | nil => exact .none
  | @cons m m' rest rest' hm _ ih =>
    obtain ⟨key, value⟩ := m
    obtain ⟨key', value'⟩ := m'
    obtain ⟨hkeys, hvalue⟩ := hm
    simp only at hkeys hvalue
    subst hkeys
    rw [findMember_cons, findMember_cons]
    by_cases hkey : name = key
    · rw [if_pos hkey, if_pos hkey]
      exact .some hvalue
    · rw [if_neg hkey, if_neg hkey]
      exact ih

section
variable {members members' : List (Text × Json)}
  (h : List.Forall₂ (fun m m' => m.1 = m'.1 ∧ SameJson m.2 m'.2) members members')
include h

theorem readOptionalInteger_same (name : String) : readOptionalInteger members name = readOptionalInteger members' name := by
  have hfound := findMember_same h (ascii name)
  unfold readOptionalInteger
  generalize findMember members (ascii name) = found at hfound ⊢
  generalize findMember members' (ascii name) = found' at hfound ⊢
  cases hfound with
  | none => rfl
  | some hvalue =>
    cases hvalue with
    | same value => rfl
    | natural hn =>
      simp only
      rw [if_neg (by omega)]
    | array items items' => rfl
    | object members members' => rfl

theorem readOptionalString_same (name : String) : readOptionalString members name = readOptionalString members' name := by
  have hfound := findMember_same h (ascii name)
  unfold readOptionalString
  generalize findMember members (ascii name) = found at hfound ⊢
  generalize findMember members' (ascii name) = found' at hfound ⊢
  cases hfound with
  | none => rfl
  | some hvalue => cases hvalue <;> rfl

theorem readMembers_same : readMembers members = readMembers members' := by
  unfold readMembers
  simp only [readOptionalInteger_same h, readOptionalString_same h]

end

/-- A document that is its own canonical text. -/
def Canonical (json : JsonLibrary) (text : Text) : Prop :=
  text.head? = some 0x7b ∧ ∃ request, parseRobloxExperienceLaunchJson json text = .ok request ∧ request.canonicalJson = text

variable {request : ExperienceLaunchRequest} {json : JsonLibrary} {text : Text}

/-- What an accepted document was read from and written to. -/
theorem parseLaunchJson_accepted
    (h : parseRobloxExperienceLaunchJson json text = .ok request) :
    ∃ members parsed, json.parse text = some (.object members) ∧ readMembers members = .ok parsed ∧
      acceptParsed json members parsed = .ok request := by
  unfold parseRobloxExperienceLaunchJson at h
  split at h
  · exact absurd h (invalid_ne_ok _ _)
  split at h
  · rename_i members hparse
    obtain ⟨parsed, hparsed, haccept⟩ := bind_ok h
    exact ⟨members, parsed, hparse, hparsed, haccept⟩
  · exact absurd h (invalid_ne_ok _ _)

theorem acceptParsed_ok {members : List (Text × Json)} {parsed request : ExperienceLaunchRequest}
    (h : acceptParsed json members parsed = .ok request) :
    json.dump (.object members) = some request.canonicalJson ∧
      request.canonicalJson.length ≤ kMaximumExperienceLaunchJsonBytes ∧
      ∀ members', json.dump (.object members') = some request.canonicalJson →
        acceptParsed json members' parsed = .ok request := by
  unfold acceptParsed at h ⊢
  by_cases hplace : parsed.placeId ≤ 0
  · rw [if_pos hplace] at h
    exact absurd h (invalid_ne_ok _ _)
  simp only [if_neg hplace] at h ⊢
  by_cases hnegative : parsed.userId < 0 ∨ parsed.conversationId < 0 ∨ parsed.referredByPlayerId < 0
  · rw [if_pos hnegative] at h
    exact absurd h (invalid_ne_ok _ _)
  simp only [if_neg hnegative] at h ⊢
  cases hdump : json.dump (.object members) with
  | none =>
    rw [hdump] at h
    cases h
  | some canonical =>
    simp only [hdump] at h
    by_cases hsize : kMaximumExperienceLaunchJsonBytes < canonical.length
    · rw [if_pos hsize] at h
      exact absurd h (invalid_ne_ok _ _)
    · rw [if_neg hsize] at h
      cases h
      refine ⟨rfl, by simp only; omega, ?_⟩
      intro members' hdump'
      simp only at hdump'
      simp only [hdump', if_neg hsize]

theorem canonical_of_accepted (hjson : json.Stable)
    (h : parseRobloxExperienceLaunchJson json text = .ok request) : Canonical json request.canonicalJson := by
  obtain ⟨members, parsed, hparse, hparsed, haccept⟩ := parseLaunchJson_accepted h
  obtain ⟨hdump, hsize, hagain⟩ := acceptParsed_ok haccept
  obtain ⟨members', hparse', hdump', hsame⟩ := hjson.reparse text members _ hparse hdump
  have hbrace := hjson.brace members _ hdump
  refine ⟨hbrace, request, ?_, rfl⟩
  have hne : request.canonicalJson ≠ [] := by
    intro hnil
    rw [hnil] at hbrace
    cases hbrace
  unfold parseRobloxExperienceLaunchJson
  rw [if_neg (by simp only [hne, false_or]; omega), hparse']
  show (readMembers members' >>= fun parsed => acceptParsed json members' parsed) = _
  rw [← readMembers_same hsame, hparsed]
  exact hagain members' hdump'

theorem canonical_of_uri {host : LaunchHost} (hjson : host.json.Stable) {uri : Text}
    (h : parseRobloxLaunchUri host uri = .ok request) : Canonical host.json request.canonicalJson := by
  obtain ⟨fields, -, h⟩ := bind_ok h
  unfold makeRequest at h
  obtain ⟨fields, -, h⟩ := bind_ok h
  obtain ⟨-, -, h⟩ := bind_ok h
  split at h
  · cases h
  · exact canonical_of_accepted hjson h

/-! ## One argument -/

/-- The options without what is only about the place of the launch. -/
def CommandLineOptions.forget (options : CommandLineOptions) : CommandLineOptions :=
  { options with rawLaunchArgument := [], launchArgumentIndex := -1 }

/-- Sets something that is not about the launch. -/
structure SetsOther (f : CommandLineOptions → CommandLineOptions) : Prop where
  raw : ∀ o, (f o).rawLaunchArgument = o.rawLaunchArgument
  json : ∀ o, (f o).launchRequestJson = o.launchRequestJson
  index : ∀ o, (f o).launchArgumentIndex = o.launchArgumentIndex
  forget : ∀ o, (f o).forget = f o.forget

theorem flagOption_some {argument : Text} {options next : CommandLineOptions} (h : flagOption argument options = some next) :
    ∃ f, SetsOther f ∧ next = f options ∧ isLaunchOption argument = false ∧ ∀ o, flagOption argument o = some (f o) := by
  unfold flagOption at h ⊢
  by_cases h1 : argument = ascii "--headless"
  · subst h1
    simp only [if_true] at h ⊢
    exact ⟨fun o => { o with windowMode := .headless }, ⟨fun _ => rfl, fun _ => rfl, fun _ => rfl, fun _ => rfl⟩,
      (Option.some.inj h).symm, by decide, fun _ => rfl⟩
  simp only [if_neg h1] at h ⊢
  by_cases h2 : argument = ascii "--windowed"
  · subst h2
    simp only [if_true] at h ⊢
    exact ⟨fun o => { o with windowMode := .windowed }, ⟨fun _ => rfl, fun _ => rfl, fun _ => rfl, fun _ => rfl⟩,
      (Option.some.inj h).symm, by decide, fun _ => rfl⟩
  simp only [if_neg h2] at h ⊢
  by_cases h3 : argument = ascii "--allow-unverified-build"
  · subst h3
    simp only [if_true] at h ⊢
    exact ⟨fun o => { o with allowUnverifiedBuild := true }, ⟨fun _ => rfl, fun _ => rfl, fun _ => rfl, fun _ => rfl⟩,
      (Option.some.inj h).symm, by decide, fun _ => rfl⟩
  simp only [if_neg h3] at h ⊢
  by_cases h4 : argument = ascii "--force-run-latest"
  · subst h4
    simp only [if_true] at h ⊢
    exact ⟨fun o => { o with forceRunLatest := true }, ⟨fun _ => rfl, fun _ => rfl, fun _ => rfl, fun _ => rfl⟩,
      (Option.some.inj h).symm, by decide, fun _ => rfl⟩
  simp only [if_neg h4] at h
  cases h

theorem flagOption_none {argument : Text} {options : CommandLineOptions} (h : flagOption argument options = none)
    (o : CommandLineOptions) : flagOption argument o = none := by
  cases hother : flagOption argument o with
  | none => rfl
  | some next =>
    obtain ⟨f, -, -, -, hf⟩ := flagOption_some hother
    rw [hf options] at h
    cases h

theorem textOption_some {argument : Text} {set : Text → CommandLineOptions → CommandLineOptions}
    (h : textOption argument = some set) : (∀ value, SetsOther (set value)) ∧ isLaunchOption argument = false := by
  unfold textOption at h
  by_cases h1 : argument = ascii "--roblox-lib"
  · rw [if_pos h1] at h
    cases h
    subst h1
    exact ⟨fun _ => ⟨fun _ => rfl, fun _ => rfl, fun _ => rfl, fun _ => rfl⟩, by decide⟩
  rw [if_neg h1] at h
  by_cases h2 : argument = ascii "--graphics"
  · rw [if_pos h2] at h
    cases h
    subst h2
    exact ⟨fun _ => ⟨fun _ => rfl, fun _ => rfl, fun _ => rfl, fun _ => rfl⟩, by decide⟩
  rw [if_neg h2] at h
  cases h

variable {rest : Argv} {value : Text}

theorem readOptionValue_ok {option : Text} {options : CommandLineOptions}
    (h : readOptionValue option options rest = .ok value) :
    ∃ tail, rest = some value :: tail ∧ value ≠ [] ∧ startsWithDashes value = false := by
  unfold readOptionValue at h
  split at h
  · rename_i head tail
    by_cases hbad : head = [] ∨ startsWithDashes head = true
    · rw [if_pos hbad] at h
      cases h
    · rw [if_neg hbad] at h
      cases h
      exact ⟨tail, rfl, fun hnil => hbad (Or.inl hnil), by simpa using fun hd => hbad (Or.inr hd)⟩
  · cases h

theorem readOptionValue_value (option : Text) (options : CommandLineOptions) (tail : Argv)
    (hne : value ≠ []) (hdash : startsWithDashes value = false) :
    readOptionValue option options (some value :: tail) = .ok value := by
  rw [readOptionValue, if_neg (by simp [hne, hdash])]

theorem value_not_option (h : startsWithDashes value = false) : isLaunchOption value = false := by
  cases hoption : isLaunchOption value with
  | false => rfl
  | true =>
    simp only [isLaunchOption, Bool.or_eq_true, beq_iff_eq] at hoption
    rcases hoption with rfl | rfl
    · exact absurd h (by decide)
    · exact absurd h (by decide)

/-- What an accepted argument did: `plain` is read alike by every command line, with the value it took. -/
inductive ArgumentRead (host : LaunchHost) (index : Nat) (argument : Text) (rest : Argv) (options : CommandLineOptions) :
    CommandLineOptions → Bool → Prop where
  | plain {f : CommandLineOptions → CommandLineOptions} (value : Option Text) (tail : Argv) (sets : SetsOther f)
      (taken : rest = value.toList.map some ++ tail)
      (option : isLaunchOption argument = false) (text : ∀ v ∈ value, isLaunchOption v = false)
      (replay : ∀ index tail o, parseArgument host index argument (value.toList.map some ++ tail) o = .ok (f o, value.isSome)) :
      ArgumentRead host index argument rest options (f options) value.isSome
  | launch {value : Text} {request : ExperienceLaunchRequest} (tail : Argv) (option : isLaunchOption argument = true)
      (first : options.launchRequestJson = []) (taken : rest = some value :: tail) (ne : value ≠ [])
      (canonical : Canonical host.json request.canonicalJson) :
      ArgumentRead host index argument rest options (options.withLaunch value request (index + 1)) true
  | bare {request : ExperienceLaunchRequest} (ne : argument ≠ []) (first : options.launchRequestJson = [])
      (canonical : Canonical host.json request.canonicalJson) :
      ArgumentRead host index argument rest options (options.withLaunch argument request index) false

theorem parseArgument_read {host : LaunchHost} (hjson : host.json.Stable) {index : Nat} {argument : Text}
    {options next : CommandLineOptions} {took : Bool}
    (h : parseArgument host index argument rest options = .ok (next, took)) :
    ArgumentRead host index argument rest options next took := by
  unfold parseArgument at h
  by_cases hhelp : argument = ascii "--help" ∨ argument = ascii "-h"
  · rw [if_pos hhelp] at h
    cases h
  rw [if_neg hhelp] at h
  cases hflag : flagOption argument options with
  | some flagged =>
    simp only [hflag] at h
    cases h
    obtain ⟨f, sets, rfl, option, hf⟩ := flagOption_some hflag
    refine .plain none rest sets rfl option nofun ?_
    intro index tail o
    rw [parseArgument, if_neg hhelp, hf]
    rfl
  | none =>
    simp only [hflag] at h
    cases htext : textOption argument with
    | some set =>
      simp only [htext] at h
      cases hvalue : readOptionValue argument options rest with
      | error stop =>
        rw [hvalue] at h
        cases h
      | ok value =>
        rw [hvalue] at h
        cases h
        obtain ⟨tail, rfl, hne, hdash⟩ := readOptionValue_ok hvalue
        obtain ⟨sets, option⟩ := textOption_some htext
        refine .plain (some value) tail (sets value) rfl option ?_ ?_
        · intro v hv
          cases hv
          exact value_not_option hdash
        · intro index tail o
          rw [parseArgument, if_neg hhelp, flagOption_none hflag o, htext]
          show (readOptionValue argument o (some value :: tail) >>= fun value => .ok (set value o, true)) = _
          rw [readOptionValue_value argument o tail hne hdash]
          rfl
    | none =>
      simp only [htext] at h
      by_cases huri : argument = ascii "--launch-uri"
      · rw [if_pos huri] at h
        by_cases hfirst : options.launchRequestJson ≠ []
        · rw [if_pos hfirst] at h
          cases h
        rw [if_neg hfirst] at h
        cases hvalue : readOptionValue argument options rest with
        | error stop =>
          rw [hvalue] at h
          cases h
        | ok value =>
          rw [hvalue] at h
          obtain ⟨tail, rfl, hne, -⟩ := readOptionValue_ok hvalue
          simp only [launchUriOption, bind, Except.bind] at h
          cases hparse : parseRobloxLaunchUri host value with
          | error failure =>
            rw [hparse] at h
            cases failure <;> cases h
          | ok request =>
            simp only [hparse] at h
            cases h
            refine .launch tail ?_ (not_ne_iff.mp hfirst) rfl hne (canonical_of_uri hjson hparse)
            rw [huri]
            decide
      rw [if_neg huri] at h
      by_cases hdocument : argument = ascii "--launch-request-json"
      · rw [if_pos hdocument] at h
        by_cases hfirst : options.launchRequestJson ≠ []
        · rw [if_pos hfirst] at h
          cases h
        rw [if_neg hfirst] at h
        cases hvalue : readOptionValue argument options rest with
        | error stop =>
          rw [hvalue] at h
          cases h
        | ok value =>
          rw [hvalue] at h
          obtain ⟨tail, rfl, hne, -⟩ := readOptionValue_ok hvalue
          simp only [launchDocumentOption, bind, Except.bind] at h
          cases hparse : parseRobloxExperienceLaunchJson host.json value with
          | error failure =>
            rw [hparse] at h
            cases failure <;> cases h
          | ok request =>
            simp only [hparse] at h
            cases h
            refine .launch tail ?_ (not_ne_iff.mp hfirst) rfl hne (canonical_of_accepted hjson hparse)
            rw [hdocument]
            decide
      rw [if_neg hdocument] at h
      by_cases hbare : argument ≠ [] ∧ argument.head? ≠ some 0x2d
      · rw [if_pos hbare] at h
        by_cases hfirst : options.launchRequestJson = []
        · rw [if_pos hfirst] at h
          simp only [bareArgument, bind, Except.bind] at h
          cases hparse : parseRobloxLaunchUri host argument with
          | error failure =>
            rw [hparse] at h
            cases failure <;> cases h
          | ok request =>
            simp only [hparse] at h
            cases h
            exact .bare hbare.1 hfirst (canonical_of_uri hjson hparse)
        · rw [if_neg hfirst] at h
          cases h
      · rw [if_neg hbare] at h
        cases h

/-! ## All arguments -/

variable {o o' : CommandLineOptions} {n : Nat}

section
variable {host : LaunchHost}

theorem parseArguments_cons (index : Nat) (argument : Text) (rest : Argv) (options : CommandLineOptions) :
    parseArguments host index (some argument :: rest) options =
      match parseArgument host index argument rest options with
      | .error stop => .error stop
      | .ok (next, took) => parseArguments host (index + if took then 2 else 1) (if took then rest.tail else rest) next := by
  rw [parseArguments]
  cases parseArgument host index argument rest options with
  | error stop => rfl
  | ok read =>
    obtain ⟨next, took⟩ := read
    cases took with
    | false => cases rest <;> rfl
    | true =>
      cases rest with
      | nil => simp only [parseArguments, List.tail_nil]; rfl
      | cons value tail => rfl

variable {options final : CommandLineOptions}

/-- An accepted argument and what is accepted after it. -/
theorem parseArguments_ok {index : Nat} {argument : Option Text}
    (h : parseArguments host index (argument :: rest) options = .ok final) :
    ∃ text next took, argument = some text ∧ parseArgument host index text rest options = .ok (next, took) ∧
      parseArguments host (index + if took then 2 else 1) (if took then rest.tail else rest) next = .ok final := by
  cases argument with
  | none => cases h
  | some text =>
    rw [parseArguments_cons] at h
    cases hread : parseArgument host index text rest options with
    | error stop =>
      rw [hread] at h
      cases h
    | ok read =>
      obtain ⟨next, took⟩ := read
      simp only [hread] at h
      exact ⟨text, next, took, rfl, hread, h⟩

variable {f : CommandLineOptions → CommandLineOptions}

/-- A plain argument with its value, in front of anything. -/
theorem parseArguments_plain {argument : Text} {value : Option Text}
    (replay : ∀ index tail o, parseArgument host index argument (value.toList.map some ++ tail) o = .ok (f o, value.isSome))
    (index : Nat) (tail : Argv) (options : CommandLineOptions) :
    ∃ next, parseArguments host index (some argument :: (value.toList.map some ++ tail)) options =
      parseArguments host next tail (f options) := by
  rw [parseArguments_cons, replay]
  cases value with
  | none => exact ⟨_, rfl⟩
  | some value => exact ⟨_, rfl⟩

theorem SetsOther.forget_eq (h : SetsOther f)
    (heq : o'.forget = o.forget) : (f o').forget = (f o).forget := by
  rw [h.forget, h.forget, heq]

theorem json_of_forget (h : o'.forget = o.forget) : o'.launchRequestJson = o.launchRequestJson :=
  show o'.forget.launchRequestJson = o.forget.launchRequestJson by rw [h]

theorem reexecLoop_copy {replace : Bool} {launchIndex : Int} {json : Text} {index : Nat} {argument : Text} (rest : Argv)
    (hoption : replace = false ∨ isLaunchOption argument = false ∨ (index : Int) + 1 ≠ launchIndex)
    (hindex : replace = false ∨ (index : Int) ≠ launchIndex) :
    reexecLoop replace launchIndex json index (some argument :: rest) =
      (reexecLoop replace launchIndex json (index + 1) rest).map fun p => (argument :: p.1, p.2) := by
  have hhere : launchHere replace launchIndex index argument = none := by
    rw [launchHere, if_neg ?_, if_neg ?_]
    · rintro ⟨hreplace, heq⟩
      rcases hindex with h | h
      · rw [hreplace] at h
        cases h
      · exact h heq
    · rintro ⟨hreplace, heq, hlaunch⟩
      rcases hoption with h | h | h
      · rw [hreplace] at h
        cases h
      · rw [hlaunch] at h
        cases h
      · exact h heq
  rw [reexecLoop.eq_def]
  simp only [hhere]

/-- Behind the launch everything is plain, and copied. -/
theorem after_launch (hjson : host.json.Stable) (hlen : rest.length ≤ n) {index : Nat}
    (hlaunch : options.launchRequestJson ≠ [])
    (h : parseArguments host index rest options = .ok final) :
    (final.rawLaunchArgument = options.rawLaunchArgument ∧ final.launchRequestJson = options.launchRequestJson ∧
      final.launchArgumentIndex = options.launchArgumentIndex) ∧
    ∃ out : List Text, rest = out.map some ∧
      (∀ replace launchIndex json (start : Nat), launchIndex < (start : Int) →
        reexecLoop replace launchIndex json start rest = some (out, false)) ∧
      ∀ index' o', o'.forget = options.forget → ∃ again, parseArguments host index' rest o' = .ok again ∧
        again.forget = final.forget := by
  induction n generalizing rest index options with
  | zero =>
    obtain rfl := List.length_eq_zero_iff.mp (Nat.le_zero.mp hlen)
    cases h
    exact ⟨⟨rfl, rfl, rfl⟩, [], rfl, fun _ _ _ _ _ => rfl, fun _ o' ho => ⟨o', rfl, ho⟩⟩
  | succ n ih =>
    cases rest with
    | nil =>
      cases h
      exact ⟨⟨rfl, rfl, rfl⟩, [], rfl, fun _ _ _ _ _ => rfl, fun _ o' ho => ⟨o', rfl, ho⟩⟩
    | cons argument rest =>
      obtain ⟨text, next, took, rfl, hread, hrest⟩ := parseArguments_ok h
      cases parseArgument_read hjson hread with
      | launch _ _ first => exact absurd first hlaunch
      | bare _ first => exact absurd first hlaunch
      | @plain f value tail sets taken option plainText replay =>
        subst taken
        have htail : (if value.isSome = true then (value.toList.map some ++ tail).tail else value.toList.map some ++ tail) =
            tail := by
          cases value <;> rfl
        rw [htail] at hrest
        have hshort : tail.length ≤ n := by
          rw [List.length_cons, List.length_append] at hlen
          omega
        obtain ⟨⟨hraw, hdoc, hidx⟩, out, hout, hcopy, hagain⟩ :=
          ih hshort (show (f options).launchRequestJson ≠ [] by rw [sets.json]; exact hlaunch) hrest
        rw [sets.raw] at hraw
        rw [sets.json] at hdoc
        rw [sets.index] at hidx
        refine ⟨⟨hraw, hdoc, hidx⟩, text :: (value.toList ++ out), by rw [hout]; simp, ?_, ?_⟩
        · intro replace launchIndex json start hpast
          rw [reexecLoop_copy _ (Or.inr (Or.inr (by omega))) (Or.inr (by omega))]
          cases value with
          | none =>
            rw [Option.toList_none, List.map_nil, List.nil_append, hcopy replace launchIndex json (start + 1) (by omega)]
            rfl
          | some value =>
            rw [Option.toList_some, List.map_cons, List.map_nil, List.singleton_append,
              reexecLoop_copy _ (Or.inr (Or.inr (by omega))) (Or.inr (by omega)),
              hcopy replace launchIndex json (start + 1 + 1) (by omega)]
            rfl
        · intro index' o' ho
          obtain ⟨next, hnext⟩ := parseArguments_plain replay index' tail o'
          rw [hnext]
          exact hagain next (f o') (sets.forget_eq ho)

/-- A launch at its place is written as its document. -/
theorem reexecLoop_launch {launchIndex : Int} {json : Text} {index : Nat} {argument : Text} {value : Option Text} (tail : Argv)
    (hhere : launchHere true launchIndex index argument = some value.isSome) :
    ∃ next : Nat, (next : Int) = index + 1 + (if value.isSome then 1 else 0) ∧
      reexecLoop true launchIndex json index (some argument :: (value.toList.map some ++ tail)) =
        (reexecLoop true launchIndex json next tail).map fun p => (ascii "--launch-request-json" :: json :: p.1, true) := by
  rw [reexecLoop.eq_def]
  cases value with
  | none =>
    refine ⟨index + 1, by simp, ?_⟩
    simp only [Option.isSome_none] at hhere
    simp only [hhere]
    rfl
  | some value =>
    refine ⟨index + 2, by simp; omega, ?_⟩
    simp only [Option.isSome_some] at hhere
    simp only [hhere]
    rfl

/-- The document is read where the launch stood. -/
theorem parseArguments_document {json : Text} (hcanonical : Canonical host.json json) (index : Nat) (tail : Argv)
    {options : CommandLineOptions} (hfirst : options.launchRequestJson = []) :
    ∃ request, request.canonicalJson = json ∧
      parseArguments host index (some (ascii "--launch-request-json") :: some json :: tail) options =
        parseArguments host (index + 2) tail (options.withLaunch json request (index + 1)) := by
  obtain ⟨hbrace, request, hparse, hcanon⟩ := hcanonical
  refine ⟨request, hcanon, ?_⟩
  have hne : json ≠ [] := by
    rintro rfl
    cases hbrace
  have hdash : startsWithDashes json = false := by
    obtain ⟨b, rest, rfl⟩ := List.exists_cons_of_ne_nil hne
    obtain rfl := Option.some.inj hbrace
    unfold startsWithDashes
    rw [List.take_succ_cons]
    rfl
  have hread : parseArgument host index (ascii "--launch-request-json") (some json :: tail) options =
      .ok (options.withLaunch json request (index + 1), true) := by
    have hflag : flagOption (ascii "--launch-request-json") options = none :=
      flagOption_none (show flagOption (ascii "--launch-request-json") {} = none by decide +kernel) options
    have htext : textOption (ascii "--launch-request-json") = none := by
      rw [textOption, if_neg (by decide), if_neg (by decide)]
    rw [parseArgument, if_neg (by decide), hflag]
    simp only [htext]
    rw [if_neg (by decide), if_pos trivial, if_neg (by simp [hfirst]), readOptionValue_value _ _ _ hne hdash]
    simp only [bind, Except.bind, launchDocumentOption, hparse]
  rw [parseArguments_cons, hread]
  rfl

/-- What the arguments leave of a launch: none, or one at its place. -/
def LaunchFound (index : Nat) (rest : Argv) (final : CommandLineOptions) : Prop :=
  final.rawLaunchArgument = [] ∨
    final.rawLaunchArgument ≠ [] ∧ final.launchRequestJson ≠ [] ∧ (index : Int) ≤ final.launchArgumentIndex ∧
      ∃ k, final.launchArgumentIndex = index + (k : Nat) ∧ rest[k]? = some (some final.rawLaunchArgument)

/-- What is accepted, and read again once the launch is written as its document. -/
def Reread (host : LaunchHost) (index : Nat) (rest : Argv) (options final : CommandLineOptions) : Prop :=
  ∃ out replaced, reexecLoop (decide (final.rawLaunchArgument ≠ [])) final.launchArgumentIndex final.launchRequestJson index
      rest = some (out, replaced) ∧ (final.rawLaunchArgument ≠ [] → replaced = true) ∧
    ∀ index' o', o'.forget = options.forget → ∃ again, parseArguments host index' (out.map some) o' = .ok again ∧
      again.forget = final.forget

theorem withLaunch_forget (h : o'.forget = o.forget) {request request' : ExperienceLaunchRequest}
    (hjson : request'.canonicalJson = request.canonicalJson) (raw raw' : Text) (index index' : Nat) :
    (o'.withLaunch raw' request' index').forget = (o.withLaunch raw request index).forget := by
  unfold CommandLineOptions.withLaunch CommandLineOptions.forget at *
  simp only [CommandLineOptions.mk.injEq] at h ⊢
  simp only [h, hjson, and_self]

/-- The launch itself: an option with its value, or a bare argument. -/
theorem at_launch (hjson : host.json.Stable) {index : Nat} (value : Option Text) {tail : Argv}
    (hfirst : options.launchRequestJson = [])
    (hoption : value.isSome = true → isLaunchOption text = true) (hraw : value.getD text ≠ [])
    (hcanonical : Canonical host.json request.canonicalJson) {next : Nat}
    (h : parseArguments host next tail (options.withLaunch (value.getD text) request (index + value.toList.length)) = .ok final) :
    LaunchFound index (some text :: (value.toList.map some ++ tail)) final ∧
      Reread host index (some text :: (value.toList.map some ++ tail)) options final := by
  have hne : request.canonicalJson ≠ [] := by
    intro hnil
    have hbrace := hcanonical.1
    rw [hnil] at hbrace
    cases hbrace
  obtain ⟨⟨hfraw, hfjson, hfindex⟩, out, hout, hcopy, hagain⟩ := after_launch hjson le_rfl (by exact hne) h
  have hfraw : final.rawLaunchArgument = value.getD text := hfraw
  have hfjson : final.launchRequestJson = request.canonicalJson := hfjson
  have hfindex : final.launchArgumentIndex = ((index + value.toList.length : Nat) : Int) := hfindex
  refine ⟨Or.inr ⟨by rw [hfraw]; exact hraw, by rw [hfjson]; exact hne, by omega, value.toList.length, hfindex, ?_⟩, ?_⟩
  · rw [hfraw]
    cases value <;> rfl
  · have hhere : launchHere true final.launchArgumentIndex index text = some value.isSome := by
      rw [hfindex, launchHere]
      cases value with
      | none =>
        rw [if_neg (by simp), if_pos (by simp)]
        rfl
      | some value =>
        rw [if_pos ⟨rfl, by simp, hoption rfl⟩]
        rfl
    have hreplace : decide (final.rawLaunchArgument ≠ []) = true := by
      rw [hfraw]
      exact decide_eq_true hraw
    obtain ⟨after, hafter, hloop⟩ := @reexecLoop_launch _ final.launchRequestJson _ _ _ tail hhere
    have hpast : final.launchArgumentIndex < (after : Int) := by
      have hwidth : (if value.isSome then 1 else 0 : Int) = value.toList.length := by cases value <;> rfl
      rw [hfindex, hafter, hwidth]
      omega
    refine ⟨ascii "--launch-request-json" :: final.launchRequestJson :: out, true, ?_, fun _ => rfl, ?_⟩
    · rw [hreplace, hloop, hcopy true _ _ after hpast]
      rfl
    · intro index' o' ho
      obtain ⟨request', hcanon', hparse⟩ := parseArguments_document hcanonical index' (out.map some)
        (show o'.launchRequestJson = [] by rw [json_of_forget ho]; exact hfirst)
      rw [hfjson, List.map_cons, List.map_cons, hparse, ← hout]
      exact hagain _ _ (withLaunch_forget ho hcanon' _ _ _ _)

theorem before_launch (hjson : host.json.Stable) (hlen : rest.length ≤ n) {index : Nat}
    (hfirst : options.launchRequestJson = []) (hraw : options.rawLaunchArgument = [])
    (h : parseArguments host index rest options = .ok final) :
    LaunchFound index rest final ∧ Reread host index rest options final := by
  induction n generalizing rest index options with
  | zero =>
    obtain rfl := List.length_eq_zero_iff.mp (Nat.le_zero.mp hlen)
    cases h
    exact ⟨Or.inl hraw, [], false, rfl, fun hne => absurd hraw hne, fun _ o' ho => ⟨o', rfl, ho⟩⟩
  | succ n ih =>
    cases rest with
    | nil =>
      cases h
      exact ⟨Or.inl hraw, [], false, rfl, fun hne => absurd hraw hne, fun _ o' ho => ⟨o', rfl, ho⟩⟩
    | cons argument rest =>
      obtain ⟨text, next, took, rfl, hread, hrest⟩ := parseArguments_ok h
      rw [List.length_cons] at hlen
      cases parseArgument_read hjson hread with
      | @launch value request tail option first taken ne canonical =>
        subst taken
        exact at_launch hjson (some value) first (fun _ => option) ne canonical hrest
      | @bare request ne first canonical => exact at_launch hjson none first nofun ne canonical hrest
      | @plain f value tail sets taken option plainText replay =>
        subst taken
        have htail : (if value.isSome = true then (value.toList.map some ++ tail).tail else value.toList.map some ++ tail) =
            tail := by
          cases value <;> rfl
        have hnext : index + (if value.isSome = true then 2 else 1) = index + 1 + value.toList.length := by
          cases value <;> rfl
        rw [htail, hnext] at hrest
        rw [List.length_append] at hlen
        obtain ⟨hfound, out, replaced, hloop, hreplaced, hagain⟩ := ih (by omega)
          (show (f options).launchRequestJson = [] by rw [sets.json]; exact hfirst)
          (show (f options).rawLaunchArgument = [] by rw [sets.raw]; exact hraw) hrest
        -- the launch, if any, is behind this argument and its value
        have hbehind : decide (final.rawLaunchArgument ≠ []) = false ∨
            ((index + 1 + value.toList.length : Nat) : Int) ≤ final.launchArgumentIndex := by
          rcases hfound with hnone | ⟨-, -, hle, -⟩
          · exact Or.inl (by simpa using hnone)
          · exact Or.inr hle
        refine ⟨?_, text :: (value.toList ++ out), replaced, ?_, hreplaced, ?_⟩
        · rcases hfound with hnone | ⟨hsome, hdoc, hle, k, hk, hget⟩
          · exact Or.inl hnone
          · refine Or.inr ⟨hsome, hdoc, by omega, k + 1 + value.toList.length, by omega, ?_⟩
            cases value <;> simpa using hget
        · rw [reexecLoop_copy _ (Or.inr (Or.inl option)) (hbehind.imp id fun hle => by omega)]
          cases value with
          | none =>
            rw [Option.toList_none, List.map_nil, List.nil_append]
            rw [show index + 1 + (none : Option Text).toList.length = index + 1 from rfl] at hloop
            rw [hloop]
            rfl
          | some value =>
            have hvalue : isLaunchOption value = false := plainText value rfl
            rw [Option.toList_some, List.map_cons, List.map_nil, List.singleton_append,
              reexecLoop_copy _ (Or.inr (Or.inl hvalue)) (hbehind.imp id fun hle => by simp at hle; omega)]
            rw [show index + 1 + (some value : Option Text).toList.length = index + 1 + 1 from rfl] at hloop
            rw [hloop]
            rfl
        · intro index' o' ho
          obtain ⟨next, hparse⟩ := parseArguments_plain replay index' (out.map some) o'
          rw [List.map_cons, List.map_append, hparse]
          exact hagain next (f o') (sets.forget_eq ho)

end

/-! ## The command line read again -/

/-- A stop that is an error, a request for help or an exception. -/
def Stop.Excused : Stop → Prop
  | .result r => r.error ≠ [] ∨ r.options.mode = .help
  | .exception => True

/-- Only such stops. -/
def StopsExcused {α : Type} (x : Except Stop α) : Prop := ∀ stop, x = .error stop → stop.Excused

theorem failWith_excused {α : Type} (options : CommandLineOptions) {error : Text} (h : error ≠ []) :
    StopsExcused (failWith options error : Except Stop α) := by
  intro stop hstop
  cases hstop
  exact Or.inl h

theorem StopsExcused.bind {α β : Type} {x : Except Stop α} {f : α → Except Stop β} (hx : StopsExcused x)
    (hf : ∀ a, StopsExcused (f a)) : StopsExcused (x >>= f) := by
  intro stop hstop
  cases x with
  | error other =>
    obtain rfl : other = stop := Except.error.inj hstop
    exact hx other rfl
  | ok a => exact hf a stop hstop

theorem ok_excused {α : Type} (a : α) : StopsExcused (.ok a : Except Stop α) := nofun

theorem readOptionValue_excused (option : Text) (options : CommandLineOptions) (rest : Argv) :
    StopsExcused (readOptionValue option options rest) := by
  have hmissing : ascii "missing value for " ++ option ≠ [] := by simp [ascii]
  unfold readOptionValue
  split
  · split
    · exact failWith_excused options hmissing
    · exact ok_excused _
  · exact failWith_excused options hmissing

theorem parseArgument_excused (host : LaunchHost) (index : Nat) (argument : Text) (rest : Argv) (options : CommandLineOptions) :
    StopsExcused (parseArgument host index argument rest options) := by
  have hexception : ∀ {α : Type}, StopsExcused (.error .exception : Except Stop α) := by
    intro α stop hstop
    cases hstop
    trivial
  unfold parseArgument
  by_cases hhelp : argument = ascii "--help" ∨ argument = ascii "-h"
  · rw [if_pos hhelp]
    intro stop hstop
    cases hstop
    exact Or.inr rfl
  rw [if_neg hhelp]
  cases flagOption argument options with
  | some next => exact ok_excused _
  | none =>
    cases textOption argument with
    | some set => exact (readOptionValue_excused argument options rest).bind fun _ => ok_excused _
    | none =>
      simp only
      by_cases huri : argument = ascii "--launch-uri"
      · rw [if_pos huri]
        by_cases hfirst : options.launchRequestJson ≠ []
        · rw [if_pos hfirst]
          exact failWith_excused _ (by decide)
        rw [if_neg hfirst]
        refine (readOptionValue_excused argument options rest).bind fun value => ?_
        refine StopsExcused.bind ?_ fun _ => ok_excused _
        unfold launchUriOption
        split
        · exact ok_excused _
        · exact failWith_excused _ (by simp [ascii])
        · exact hexception
      rw [if_neg huri]
      by_cases hdocument : argument = ascii "--launch-request-json"
      · rw [if_pos hdocument]
        by_cases hfirst : options.launchRequestJson ≠ []
        · rw [if_pos hfirst]
          exact failWith_excused _ (by decide)
        rw [if_neg hfirst]
        refine (readOptionValue_excused argument options rest).bind fun value => ?_
        refine StopsExcused.bind ?_ fun _ => ok_excused _
        unfold launchDocumentOption
        split
        · exact ok_excused _
        · exact failWith_excused _ (by decide)
        · exact hexception
      rw [if_neg hdocument]
      by_cases hbare : argument ≠ [] ∧ argument.head? ≠ some 0x2d
      · rw [if_pos hbare]
        by_cases hfirst : options.launchRequestJson = []
        · rw [if_pos hfirst]
          refine StopsExcused.bind ?_ fun _ => ok_excused _
          unfold bareArgument
          split
          · exact ok_excused _
          · exact failWith_excused _ (by decide)
          · exact hexception
        · rw [if_neg hfirst]
          exact failWith_excused _ (by decide)
      · rw [if_neg hbare]
        exact failWith_excused _ (by simp [ascii])

theorem parseArguments_excused (host : LaunchHost) (hlen : rest.length ≤ n) (index : Nat)
    (options : CommandLineOptions) : StopsExcused (parseArguments host index rest options) := by
  induction n generalizing rest index options with
  | zero =>
    obtain rfl := List.length_eq_zero_iff.mp (Nat.le_zero.mp hlen)
    exact ok_excused _
  | succ n ih =>
    cases rest with
    | nil => exact ok_excused _
    | cons argument rest =>
      rw [List.length_cons] at hlen
      cases argument with
      | none => exact failWith_excused _ (by decide)
      | some argument =>
        rw [parseArguments_cons]
        cases hread : parseArgument host index argument rest options with
        | error stop =>
          intro other hother
          cases hother
          exact parseArgument_excused host index argument rest options _ hread
        | ok read =>
          refine ih ?_ _ _
          split
          · rw [List.length_tail]
            omega
          · omega

theorem checkForceRunLatest_forget (h : o'.forget = o.forget)
    (hok : (checkForceRunLatest o).error = []) :
    (checkForceRunLatest o').error = [] ∧ (checkForceRunLatest o').options = o' ∧ (checkForceRunLatest o).options = o := by
  have hcheck : ∀ o : CommandLineOptions, (checkForceRunLatest o).error = (checkForceRunLatest o.forget).error ∧
      (checkForceRunLatest o).options = o := by
    intro o
    by_cases hmixed : o.forceRunLatest = true ∧ (o.robloxLibraryPath ≠ [] ∨ o.windowMode ≠ .unspecified ∨
        o.graphicsBackend ≠ [] ∨ o.allowUnverifiedBuild = true ∨ o.launchRequestJson ≠ [])
    · have here : checkForceRunLatest o = ⟨o, _⟩ := if_pos hmixed
      have forgotten : checkForceRunLatest o.forget = ⟨o.forget, _⟩ := if_pos hmixed
      rw [here, forgotten]
      exact ⟨rfl, rfl⟩
    · have here : checkForceRunLatest o = ⟨o, _⟩ := if_neg hmixed
      have forgotten : checkForceRunLatest o.forget = ⟨o.forget, _⟩ := if_neg hmixed
      rw [here, forgotten]
      exact ⟨rfl, rfl⟩
  refine ⟨?_, (hcheck o').2, (hcheck o).2⟩
  rw [(hcheck o').1, h, ← (hcheck o).1]
  exact hok

/-- An accepted command line, read again from its re-exec arguments. -/
theorem reexec_preserves_options (host : LaunchHost) (hjson : host.json.Stable) (argv : Argv) (result : CommandLineParseResult)
    (h : parseCommandLine host argv = some result) (hok : result.error = []) (hmode : result.options.mode ≠ .help) :
    ∃ arguments, buildCommandLineReexecArguments result.options argv = .ok arguments ∧
      ∃ again, parseCommandLine host (argv.take 1 ++ arguments.map some) = some again ∧ again.error = [] ∧
        again.options.forget = result.options.forget := by
  unfold parseCommandLine at h
  cases hparse : parseArguments host 1 (argv.drop 1) (initialOptions argv) with
  | error stop =>
    have hexcused := parseArguments_excused host le_rfl 1 (initialOptions argv) stop hparse
    cases stop with
    | exception =>
      rw [hparse] at h
      cases h
    | result other =>
      rw [hparse] at h
      obtain rfl := Option.some.inj h
      rcases hexcused with herror | hhelp
      · exact absurd hok herror
      · exact absurd hhelp hmode
  | ok final =>
    simp only [hparse] at h
    obtain rfl := Option.some.inj h
    have hinit : (initialOptions argv).launchRequestJson = [] ∧ (initialOptions argv).rawLaunchArgument = [] := by
      unfold initialOptions
      split
      · split <;> exact ⟨rfl, rfl⟩
      · exact ⟨rfl, rfl⟩
    obtain ⟨hfound, arguments, replaced, hloop, hreplaced, hagain⟩ := before_launch hjson le_rfl hinit.1 hinit.2 hparse
    obtain ⟨again, hread, hforget⟩ := hagain 1 (initialOptions argv) rfl
    obtain ⟨hagainOk, hagainOptions, hoptions⟩ := checkForceRunLatest_forget hforget hok
    rw [hoptions]
    refine ⟨arguments, ?_, ⟨again, []⟩, ?_, rfl, hforget⟩
    · have hplace : ¬ (decide (final.rawLaunchArgument ≠ []) = true ∧ (final.launchRequestJson = [] ∨
          final.launchArgumentIndex ≤ 0 ∨ (argv.length : Int) ≤ final.launchArgumentIndex ∨
          argv.getD final.launchArgumentIndex.toNat none ≠ some final.rawLaunchArgument)) := by
        rintro ⟨hlaunch, hbad⟩
        rcases hfound with hnone | ⟨-, hdoc, hle, k, hk, hget⟩
        · exact of_decide_eq_true hlaunch hnone
        · rw [List.getElem?_drop] at hget
          have hat : argv.getD final.launchArgumentIndex.toNat none = some final.rawLaunchArgument := by
            rw [show final.launchArgumentIndex.toNat = 1 + k by omega, List.getD_eq_getElem?_getD, hget]
            rfl
          have hlt := (List.getElem?_eq_some_iff.mp hget).1
          rcases hbad with h | h | h | h
          · exact hdoc h
          · omega
          · omega
          · exact h hat
      have hdone : ¬ (decide (final.rawLaunchArgument ≠ []) = true ∧ replaced = false) := by
        rintro ⟨hlaunch, hnot⟩
        rw [hreplaced (of_decide_eq_true hlaunch)] at hnot
        cases hnot
      unfold buildCommandLineReexecArguments
      simp only
      rw [if_neg hplace, hloop]
      simp only
      rw [if_neg hdone]
    · have hnames : initialOptions (argv.take 1 ++ arguments.map some) = initialOptions argv ∧
          (argv.take 1 ++ arguments.map some).drop 1 = arguments.map some := by
        cases argv with
        | nil =>
          obtain ⟨rfl, -⟩ := Prod.mk.inj (Option.some.inj (hloop.symm.trans rfl))
          exact ⟨rfl, rfl⟩
        | cons name rest =>
          refine ⟨?_, rfl⟩
          cases name <;> rfl
      unfold parseCommandLine
      rw [hnames.1, hnames.2, hread]
      simp only
      have hcheck : checkForceRunLatest again = ⟨again, []⟩ := by
        rw [← hagainOk]
        exact (congrArg (fun o => CommandLineParseResult.mk o (checkForceRunLatest again).error) hagainOptions)
      rw [hcheck]

theorem oneFlatDocument_stable (members : List (Text × Json)) (hbrace : text.head? = some 0x7b) :
    (oneFlatDocument text members fun _ => none).Stable := by
  have hwrites : ∀ ms written, (oneFlatDocument text members fun _ => none).dump (.object ms) = some written →
      written = text := by
    intro ms written hd
    simp only [oneFlatDocument] at hd
    split at hd
    · exact (Option.some.inj hd).symm
    · cases hd
  constructor
  · intro ms written hd
    rw [hwrites ms written hd]
    exact hbrace
  · intro json ms canonical hparse hd
    obtain rfl := hwrites ms canonical hd
    have hread : (oneFlatDocument canonical members fun _ => none).parse canonical = some (.object ms) := by
      simp only [oneFlatDocument] at hparse ⊢
      split at hparse
      · rw [if_pos trivial]
        exact hparse
      · cases hparse
    exact ⟨ms, hread, hd, List.forall₂_same.mpr fun m _ => ⟨rfl, .same m.2⟩⟩

/-- A bare URI between other options. -/
def gameArgv : Argv :=
  [some (ascii "mocktail"), some (ascii "--graphics"), some (ascii "vulkan"), some (ascii "roblox://placeId=1818"),
   some (ascii "--headless")]

def gameOptions : CommandLineOptions where
  windowMode := .headless
  graphicsBackend := ascii "vulkan"
  rawLaunchArgument := ascii "roblox://placeId=1818"
  launchRequestJson := ascii "\x7b\"placeId\":1818\x7d"
  launchArgumentIndex := 3

theorem reexec_preserves_options_demo :
    buildCommandLineReexecArguments gameOptions gameArgv =
        .ok [ascii "--graphics", ascii "vulkan", ascii "--launch-request-json", ascii "\x7b\"placeId\":1818\x7d",
          ascii "--headless"] ∧
      ∃ arguments, buildCommandLineReexecArguments gameOptions gameArgv = .ok arguments ∧
        ∃ again, parseCommandLine (place1818 fun _ => none) (gameArgv.take 1 ++ arguments.map some) = some again ∧
          again.error = [] ∧ again.options.forget = gameOptions.forget := by
  have hread : parseCommandLine (place1818 fun _ => none) gameArgv = some ⟨gameOptions, []⟩ := by decide +kernel
  refine ⟨by decide +kernel, ?_⟩
  exact reexec_preserves_options (place1818 fun _ => none) (oneFlatDocument_stable _ rfl) gameArgv ⟨gameOptions, []⟩ hread rfl
    (by decide)

end Mocktail.Launch
