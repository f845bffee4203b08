/-
  Mocktail.Launch.ExperienceLaunch — the launch contract and the bridge that receives it
  (src/runtime/roblox_experience_launch_bridge.cc).

  `parseRobloxExperienceLaunchJson` reads a launch document. `handleRawMessage` is the entry
  for a Java string: it reads the string's modified UTF-8 and hands it, as UTF-8, to the same
  parser. The two agree on the texts without code points above U+FFFF only:
  - `raw_message_survives_iff`: a text that parses is dispatched as the same request through
    a Java string exactly when no byte of it is 0xf0 or above.
-/

import Mocktail.Launch.Json
import Mocktail.Jni.Strings

namespace Mocktail.Launch

open Mocktail.Lib Mocktail.Jni

def kMaximumExperienceLaunchJsonBytes : Nat := 64 * 1024

def kMaximumLaunchStringBytes : Nat := 16 * 1024

structure ExperienceLaunchRequest where
  placeId : Int := 0
  userId : Int := 0
  conversationId : Int := 0
  referredByPlayerId : Int := 0
  gameInstanceId : Text := []
  reservedServerAccessCode : Text := []
  callId : Text := []
  referralPage : Text := []
  accessCode : Text := []
  linkCode : Text := []
  launchData : Text := []
  eventId : Text := []
  gameJoinContext : Text := []
  joinAttemptId : Text := []
  joinAttemptOrigin : Text := []
  isoContext : Text := []
  canonicalJson : Text := []
  deriving DecidableEq, Repr

/-- A field that is absent or null keeps its default. -/
def readOptionalInteger (members : List (Text × Json)) (name : String) : Result Int :=
  match findMember members (ascii name) with
  | none => .ok 0
  | some .null => .ok 0
  | some (.unsigned value) =>
    if 2 ^ 63 - 1 < value then invalid ("experience launch integer is out of range: " ++ name) else .ok value
  | some (.integer value) => .ok value
  | some _ => invalid ("experience launch field is not an integer: " ++ name)

def readOptionalString (members : List (Text × Json)) (name : String) : Result Text :=
  match findMember members (ascii name) with
  | none => .ok []
  | some .null => .ok []
  | some (.string value) =>
    if kMaximumLaunchStringBytes < value.length then invalid ("experience launch field is too large: " ++ name)
    else .ok value
  | some _ => invalid ("experience launch field is not a string: " ++ name)

/-- The integers, then `kStringFields` in order. -/
def readMembers (members : List (Text × Json)) : Result ExperienceLaunchRequest := do
  let placeId ← readOptionalInteger members "placeId"
  let userId ← readOptionalInteger members "userId"
  let conversationId ← readOptionalInteger members "conversationId"
  let referredByPlayerId ← readOptionalInteger members "referredByPlayerId"
  let gameInstanceId ← readOptionalString members "gameInstanceId"
  let reservedServerAccessCode ← readOptionalString members "reservedServerAccessCode"
  let callId ← readOptionalString members "callId"
  let referralPage ← readOptionalString members "referralPage"
  let accessCode ← readOptionalString members "accessCode"
  let linkCode ← readOptionalString members "linkCode"
  let launchData ← readOptionalString members "launchData"
  let eventId ← readOptionalString members "eventId"
  let gameJoinContext ← readOptionalString members "gameJoinContext"
  let joinAttemptId ← readOptionalString members "joinAttemptId"
  let joinAttemptOrigin ← readOptionalString members "joinAttemptOrigin"
  let isoContext ← readOptionalString members "isoContext"
  return { placeId, userId, conversationId, referredByPlayerId, gameInstanceId, reservedServerAccessCode, callId,
           referralPage, accessCode, linkCode, launchData, eventId, gameJoinContext, joinAttemptId, joinAttemptOrigin,
           isoContext }

variable (lib : JsonLibrary)

/-- The checks after the fields are read, and the canonical text. -/
def acceptParsed (members : List (Text × Json)) (parsed : ExperienceLaunchRequest) : Result ExperienceLaunchRequest :=
  if parsed.placeId ≤ 0 then invalid "experience launch requires a positive placeId"
  else if parsed.userId < 0 ∨ parsed.conversationId < 0 ∨ parsed.referredByPlayerId < 0 then
    invalid "experience launch identifiers cannot be negative"
  else
    match lib.dump (.object members) with
    | none => .error .exception
    | some canonicalJson =>
      if kMaximumExperienceLaunchJsonBytes < canonicalJson.length then
        invalid "canonical experience launch JSON is too large"
      else .ok { parsed with canonicalJson }

def parseRobloxExperienceLaunchJson (json : Text) : Result ExperienceLaunchRequest :=
  if json = [] ∨ kMaximumExperienceLaunchJsonBytes < json.length then invalid "experience launch JSON size is invalid"
  else
    match lib.parse json with
    | some (.object members) => do
      let parsed ← readMembers members
      acceptParsed lib members parsed
    | _ => invalid "experience launch payload is not a JSON object"

/-! ## The bridge -/

structure LaunchBridge where
  initializing : Bool := false
  initialized : Bool := false
  acceptingMessages : Bool := false
  inFlightDispatches : Nat := 0
  deriving DecidableEq, Repr

/-- What a delivery leaves behind: the bridge, how it ended and the requests it dispatched. -/
structure Delivery where
  bridge : LaunchBridge
  result : Result Unit
  dispatched : List ExperienceLaunchRequest

def LaunchBridge.accepts (bridge : LaunchBridge) : Bool :=
  (bridge.initializing || bridge.initialized) && bridge.acceptingMessages

/-- A `Status` as the end of a call. -/
def ended (status : Status) : Result Unit := if status.ok then .ok () else .error (.status status)

/-- An exception leaves the method between `BeginDispatch` and `EndDispatch`. -/
def handleOwnedMessage (sink : ExperienceLaunchRequest → Status) (bridge : LaunchBridge) (message : Text) : Delivery :=
  if !bridge.accepts then
    ⟨bridge, ended (Status.failedPrecondition "experience launch bridge is not accepting messages"), []⟩
  else
    match parseRobloxExperienceLaunchJson lib message with
    | .ok request => ⟨bridge, ended (sink request), [request]⟩
    | .error (.status status) => ⟨bridge, ended status, []⟩
    | .error .exception =>
      ⟨{ bridge with inFlightDispatches := bridge.inFlightDispatches + 1 }, .error .exception, []⟩

/-- `static_cast<jsize>(size)`. -/
def jsize (size : Nat) : Int := Int.bmod size (2 ^ 32)

/-- `message` is the object behind the handle. The pseudo-JVM never has a pending exception. -/
def handleRawMessage (sink : ExperienceLaunchRequest → Status) (bridge : LaunchBridge)
    (message : Option PseudoStringObject) : Delivery :=
  match message with
  | none => ⟨bridge, ended (Status.invalidArgument "ExperienceProtocol RawCallback message is null"), []⟩
  | some string =>
    let size := jsize string.modifiedUtf8.length
    if size ≤ 0 ∨ kMaximumExperienceLaunchJsonBytes < size.toNat then
      ⟨bridge, ended (Status.invalidArgument "ExperienceProtocol RawCallback message size is invalid"), []⟩
    else handleOwnedMessage lib sink bridge (string.modifiedUtf8.take size.toNat)

/-! ## Java strings carry the texts below U+10000 -/

variable {request : ExperienceLaunchRequest} {json text : Text}

theorem parse_size
    (h : parseRobloxExperienceLaunchJson lib json = .ok request) : json ≠ [] ∧ json.length ≤ 64 * 1024 := by
  unfold parseRobloxExperienceLaunchJson at h
  by_cases hs : json = [] ∨ kMaximumExperienceLaunchJsonBytes < json.length
  · rw [if_pos hs] at h
    exact absurd h (invalid_ne_ok _ _)
  · rw [not_or] at hs
    exact ⟨hs.1, Nat.not_lt.mp hs.2⟩

variable {lib}

theorem parse_wellFormed (hlib : lib.AcceptsUtf8)
    (h : parseRobloxExperienceLaunchJson lib json = .ok request) : Utf8.WellFormed json := by
  unfold parseRobloxExperienceLaunchJson at h
  split at h
  · exact absurd h (invalid_ne_ok _ _)
  · split at h
    · rename_i hp
      exact hlib _ _ hp
    · exact absurd h (invalid_ne_ok _ _)

theorem dispatched_parses {sink : ExperienceLaunchRequest → Status} {bridge : LaunchBridge} {message : Text}
    (h : (handleOwnedMessage lib sink bridge message).dispatched = [request]) :
    ∃ parsed, parseRobloxExperienceLaunchJson lib message = .ok parsed := by
  unfold handleOwnedMessage at h
  split at h
  · cases h
  · split at h
    · rename_i parsed hp
      exact ⟨parsed, hp⟩
    · cases h
    · cases h

theorem jsize_of_lt {n : Nat} (h : n < 2 ^ 31) : jsize n = n := by
  exact Int.bmod_eq_of_le_mul_two (by omega) (by omega)

theorem codePoints (hw : Utf8.WellFormed text) (hz : (0 : UInt8) ∉ text) :
    ∃ cs : List Nat, (∀ c ∈ cs, Utf8.Scalar c ∧ c ≠ 0) ∧ text = cs.flatMap Utf8.encode := by
  obtain ⟨cs, hcs, rfl⟩ := hw
  refine ⟨cs, fun c hc => ⟨hcs c hc, ?_⟩, rfl⟩
  intro heq
  subst heq
  exact hz (List.mem_flatMap.mpr ⟨0, hc, by decide⟩)

/-- No code point above U+FFFF. -/
def InBasicPlane (text : Text) : Prop := ∀ b ∈ text, b.toNat < 0xf0

instance (text : Text) : Decidable (InBasicPlane text) := List.decidableBAll (fun b : UInt8 => b.toNat < 0xf0) text

theorem inBasicPlane_iff {cs : List Nat} (hcs : ∀ c ∈ cs, Utf8.Scalar c ∧ c ≠ 0) :
    InBasicPlane (cs.flatMap Utf8.encode) ↔ ∀ c ∈ cs, c ≤ 0xffff := by
  constructor
  · intro h c hc
    exact (Utf8.encode_bytes_lt (Utf8.scalar_lt (hcs c hc).1)).mp fun b hb => h b (List.mem_flatMap.mpr ⟨c, hc, hb⟩)
  · intro h b hb
    obtain ⟨c, hc, hb⟩ := List.mem_flatMap.mp hb
    exact (Utf8.encode_bytes_lt (Utf8.scalar_lt (hcs c hc).1)).mpr (h c hc) b hb

theorem reencoded_length (c : Nat) : (reencoded c).length ≤ 6 * (Utf8.encode c).length := by
  have hpos : 0 < (Utf8.encode c).length := List.length_pos_iff.mpr (Utf8.encode_ne_nil c)
  have hu : ∀ unit, (modifiedUnit unit).length ≤ 3 := by
    intro unit
    unfold modifiedUnit
    split
    · simp
    · split
      · simp
      · split <;> simp
  unfold reencoded codeUnits
  split
  · have h := hu (UInt16.ofNat c).toNat
    simp only [List.flatMap_singleton]
    omega
  · have h1 := hu (UInt16.ofNat (0xd800 + ((c - 0x10000) >>> 10))).toNat
    have h2 := hu (UInt16.ofNat (0xdc00 + ((c - 0x10000) &&& 0x3ff))).toNat
    simp only [List.flatMap_cons, List.flatMap_nil, List.length_append, List.length_nil]
    omega

theorem flatMap_reencoded_length (cs : List Nat) :
    (cs.flatMap reencoded).length ≤ 6 * (cs.flatMap Utf8.encode).length := by
  induction cs with
  | nil => exact le_refl _
  | cons c cs ih =>
    have h := reencoded_length c
    rw [List.flatMap_cons, List.flatMap_cons, List.length_append, List.length_append]
    omega

/-- A text that parses is dispatched as the same request when it comes as a Java string, if
and only if it has no code point above U+FFFF. -/
theorem raw_message_survives_iff (hlib : lib.AcceptsUtf8) (sink : ExperienceLaunchRequest → Status)
    {bridge : LaunchBridge} (hb : bridge.accepts = true) {text : Text} (hw : Utf8.WellFormed text)
    (hz : (0 : UInt8) ∉ text) {request : ExperienceLaunchRequest}
    (hp : parseRobloxExperienceLaunchJson lib text = .ok request) :
    (handleRawMessage lib sink bridge (some (makeString (some text)))).dispatched = [request] ↔ InBasicPlane text := by
  obtain ⟨hne, hsize⟩ := parse_size lib hp
  obtain ⟨cs, hcs, rfl⟩ := codePoints hw hz
  rw [inBasicPlane_iff hcs]
  have hlen := flatMap_reencoded_length cs
  simp only [handleRawMessage, makeString_modifiedUtf8 hcs]
  rw [jsize_of_lt (by omega), Int.toNat_natCast, List.take_length]
  constructor
  · intro hd
    rw [← modifiedUtf8_wellFormed_iff hcs]
    split at hd
    · cases hd
    · obtain ⟨other, ho⟩ := dispatched_parses hd
      exact parse_wellFormed hlib ho
  · intro h
    rw [flatMap_reencoded_bmp hcs h]
    have hpos : 0 < (cs.flatMap Utf8.encode).length := List.length_pos_iff.mpr hne
    rw [if_neg (by unfold kMaximumExperienceLaunchJsonBytes; omega), handleOwnedMessage, hb, hp]
    rfl

/-- A library that knows one document. -/
def oneDocument (text : Text) (members : List (Text × Json)) : JsonLibrary where
  parse json := if json = text then some (.object members) else none
  dump _ := some text

theorem oneDocument_acceptsUtf8 (h : Utf8.WellFormed text) (members : List (Text × Json)) :
    (oneDocument text members).AcceptsUtf8 := by
  intro json document hp
  unfold oneDocument at hp
  simp only at hp
  split at hp
  · rename_i he
    rwa [he]
  · cases hp

/-- A launch document with some launch data, as the library writes it. -/
def launchText (data : Text) : Text :=
  ascii "\x7b\"launchData\":\"" ++ data ++ ascii "\",\"placeId\":1818\x7d"

def launchMembers (data : Text) : List (Text × Json) :=
  [(ascii "launchData", .string data), (ascii "placeId", .unsigned 1818)]

theorem launchText_wellFormed {data : Text} (h : Utf8.WellFormed data) : Utf8.WellFormed (launchText data) :=
  ((Utf8.wellFormed_ascii (List.all_iff_forall_prop.mp (by decide))).append h).append
    (Utf8.wellFormed_ascii (List.all_iff_forall_prop.mp (by decide)))

def acceptingBridge : LaunchBridge := { initialized := true, acceptingMessages := true }

/-- A euro sign arrives. -/
theorem raw_message_euro :
    (handleRawMessage (oneDocument (launchText [0xe2, 0x82, 0xac]) (launchMembers [0xe2, 0x82, 0xac]))
      (fun _ => Status.okStatus) acceptingBridge (some (makeString (some (launchText [0xe2, 0x82, 0xac]))))).dispatched =
    [{ placeId := 1818, launchData := [0xe2, 0x82, 0xac], canonicalJson := launchText [0xe2, 0x82, 0xac] }] :=
  (raw_message_survives_iff (oneDocument_acceptsUtf8 (launchText_wellFormed ⟨[0x20ac], by decide, by decide⟩) _)
    (fun _ => Status.okStatus) (by decide) (launchText_wellFormed ⟨[0x20ac], by decide, by decide⟩) (by decide)
    (by decide +kernel)).mpr (by decide)

/-- U+1F600 parses when it comes as bytes and is lost as a Java string. -/
theorem raw_message_drops_emoji :
    (oneDocument (launchText [0xf0, 0x9f, 0x98, 0x80]) (launchMembers [0xf0, 0x9f, 0x98, 0x80])).AcceptsUtf8 ∧
    Utf8.WellFormed (launchText [0xf0, 0x9f, 0x98, 0x80]) ∧ (0 : UInt8) ∉ launchText [0xf0, 0x9f, 0x98, 0x80] ∧
    parseRobloxExperienceLaunchJson
        (oneDocument (launchText [0xf0, 0x9f, 0x98, 0x80]) (launchMembers [0xf0, 0x9f, 0x98, 0x80]))
        (launchText [0xf0, 0x9f, 0x98, 0x80]) =
      .ok { placeId := 1818, launchData := [0xf0, 0x9f, 0x98, 0x80],
            canonicalJson := launchText [0xf0, 0x9f, 0x98, 0x80] } ∧
    (handleRawMessage (oneDocument (launchText [0xf0, 0x9f, 0x98, 0x80]) (launchMembers [0xf0, 0x9f, 0x98, 0x80]))
      (fun _ => Status.okStatus) acceptingBridge
      (some (makeString (some (launchText [0xf0, 0x9f, 0x98, 0x80]))))).dispatched = [] := by
  have hw : Utf8.WellFormed (launchText [0xf0, 0x9f, 0x98, 0x80]) :=
    launchText_wellFormed ⟨[0x1f600], by decide, by decide⟩
  exact ⟨oneDocument_acceptsUtf8 hw _, hw, by decide, by decide +kernel, by decide +kernel⟩

end Mocktail.Launch
