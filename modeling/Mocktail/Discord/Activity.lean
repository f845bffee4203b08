/-
  Mocktail.Discord.Activity — what Discord is shown (src/runtime/discord_rpc.cc).

  `buildDiscordRpcActivity` turns a presence phase and a launch request into an activity.
  While playing it may carry a join button: the URL of a page that hands the parameters of
  its fragment to the launch parser. The instance id in it is percent-encoded by one
  component and decoded by another; the launch parser gets it back as it was
  (`join_url_recovered`).
-/

import Mocktail.Launch.PlayerUris
import Mocktail.Launch.Selectors

namespace Mocktail.Discord

open Mocktail.Lib Mocktail.Launch

/-! ## Texts -/

/-- `boundary` moves back over continuation bytes. -/
def truncationBoundary (value : Text) : Nat → Nat
  | 0 => 0
  | boundary + 1 =>
    if (value.getD (boundary + 1) 0).toNat / 64 = 2 then truncationBoundary value boundary else boundary + 1

def truncateUtf8 (value : Text) (maximum : Nat) : Text :=
  if value.length ≤ maximum then value else value.take (truncationBoundary value maximum)

def kPlaceholder : Text := ascii "\x7bplace_name\x7d"

/-- The text after `skip` bytes of a placeholder that is already replaced. -/
def renderFrom (placeName : Text) : Nat → Text → Text
  | _, [] => []
  | skip + 1, _ :: rest => renderFrom placeName skip rest
  | 0, b :: rest =>
    if kPlaceholder.isPrefixOf (b :: rest) then placeName ++ renderFrom placeName (kPlaceholder.length - 1) rest
    else b :: renderFrom placeName 0 rest

def renderPlaceTemplate (text placeName : Text) : Text := truncateUtf8 (renderFrom placeName 0 text) 128

/-- It keeps letters, digits and `-_.~`, and writes capital hex digits. -/
def discordEncoder : PercentEncoder := ⟨unreserved, fun _ h => h⟩

def percentEncode (value : Text) : Text := discordEncoder.encode value

def isSafeExternalImageUrl (url : Text) : Bool :=
  decide (url.length ≤ 512) && url.take 8 == ascii "https://" && !containsControlBytes url

/-! ## The join URL -/

def kJoinPage : String := "https://komaruworld.github.io/mocktail/join.html"

def hasDiscordJoinTarget (request : ExperienceLaunchRequest) : Bool :=
  decide (0 < request.placeId) &&
    (request.gameInstanceId == [] ||
      (decide (request.gameInstanceId.length ≤ 128) && !containsControlBytes request.gameInstanceId))

def isPublicDiscordJoin (request : ExperienceLaunchRequest) : Bool :=
  hasDiscordJoinTarget request && request.reservedServerAccessCode == [] && request.accessCode == [] &&
    request.linkCode == []

/-- The parameters after the `#`. -/
def joinParameters (request : ExperienceLaunchRequest) : Text :=
  ascii "placeId=" ++ ascii (toString request.placeId) ++
    if request.gameInstanceId = [] then [] else ascii "&gameInstanceId=" ++ percentEncode request.gameInstanceId

def buildDiscordJoinUrl (request : ExperienceLaunchRequest) : Text :=
  if !hasDiscordJoinTarget request then []
  else
    let url := ascii kJoinPage ++ ascii "#" ++ joinParameters request
    if url.length ≤ 512 then url else []

/-! ## Activities -/

inductive PresencePhase where
  | browsing | joining | playing
  deriving DecidableEq, Repr

structure DiscordRpcTextConfig where
  browsing : Text := ascii "Browsing experiences"
  joining : Text := ascii "Joining an experience"
  playing : Text := kPlaceholder
  state : Text := ascii "Playing Roblox"
  unknownPlace : Text := ascii "Unknown experience"
  deriving DecidableEq, Repr

structure DiscordRpcConfig where
  enabled : Bool := false
  showPlaceName : Bool := true
  showElapsedTime : Bool := true
  joinEnabled : Bool := true
  publicServersOnly : Bool := true
  joinButtonLabel : Text := ascii "Join Server"
  applicationId : Text := []
  text : DiscordRpcTextConfig := {}
  deriving DecidableEq, Repr

structure DiscordRpcActivity where
  details : Text := []
  state : Text := []
  startTimestamp : Option Int := none
  largeImage : Text := []
  largeText : Text := []
  buttonLabel : Text := []
  buttonUrl : Text := []
  deriving DecidableEq, Repr

/-- The join button's URL; empty when there is none. -/
def joinButtonUrl (config : DiscordRpcConfig) (phase : PresencePhase) (request : Option ExperienceLaunchRequest) : Text :=
  match request with
  | none => []
  | some request =>
    if phase = .playing ∧ config.joinEnabled = true ∧
        (config.publicServersOnly = false ∨ isPublicDiscordJoin request = true) then
      buildDiscordJoinUrl request
    else []

/-- The part of the switch for a place with a name. -/
def placeActivity (config : DiscordRpcConfig) (phase : PresencePhase) (request : Option ExperienceLaunchRequest)
    (placeName : Text) (sessionStartedAt : Int) (placeIconUrl : Text) : DiscordRpcActivity :=
  let state := truncateUtf8 config.text.state 128
  let url := joinButtonUrl config phase request
  { details := if config.showPlaceName then renderPlaceTemplate config.text.playing placeName else state
    state := if config.showPlaceName then state else []
    startTimestamp :=
      if phase = .playing ∧ config.showElapsedTime = true ∧ 0 < sessionStartedAt then some sessionStartedAt else none
    largeImage := if isSafeExternalImageUrl placeIconUrl then placeIconUrl else []
    largeText := if isSafeExternalImageUrl placeIconUrl then truncateUtf8 placeName 128 else []
    buttonLabel := if url = [] then [] else config.joinButtonLabel
    buttonUrl := url }

def buildDiscordRpcActivity (config : DiscordRpcConfig) (phase : PresencePhase) (request : Option ExperienceLaunchRequest)
    (placeName : Text) (sessionStartedAt : Int) (placeIconUrl : Text) : DiscordRpcActivity :=
  let state := truncateUtf8 config.text.state 128
  if phase = .browsing then { details := truncateUtf8 config.text.browsing 128, state }
  else if placeName = [] ∧ phase = .joining then { details := truncateUtf8 config.text.joining 128, state }
  else
    placeActivity config phase request (if placeName = [] then config.text.unknownPlace else placeName) sessionStartedAt
      placeIconUrl

/-! ## The instance id in the join URL -/

theorem encode_kept {e : PercentEncoder} {value : Text} (h : ∀ b ∈ value, e.keep b = true) : e.encode value = value := by
  induction value with
  | nil => rfl
  | cons b rest ih =>
    rw [encode_cons, PercentEncoder.encodeByte, if_pos (h b List.mem_cons_self),
      ih fun c hc => h c (List.mem_cons_of_mem b hc)]
    rfl

/-- The place and the instance, as the launch parser knows them. -/
def joinPairs (request : ExperienceLaunchRequest) : List (Text × Text) :=
  (ascii "placeId", ascii (toString request.placeId)) ::
    if request.gameInstanceId = [] then [] else [(ascii "gameInstanceId", request.gameInstanceId)]

theorem digit_unreserved {b : UInt8} (h : 0x30 ≤ b.toNat ∧ b.toNat ≤ 0x39) : unreserved b = true := by
  simp [unreserved, h]

variable {request : ExperienceLaunchRequest}

theorem joinParameters_eq (h : 0 < request.placeId) :
    joinParameters request = launcherQuery discordEncoder (joinPairs request) := by
  obtain ⟨n, hn⟩ := Int.eq_ofNat_of_zero_le (show 0 ≤ request.placeId by omega)
  have hdigits : discordEncoder.encode (ascii (toString request.placeId)) = ascii (toString request.placeId) := by
    rw [hn]
    exact encode_kept fun b hb => digit_unreserved (ascii_toString_digit n b hb)
  have hplace : discordEncoder.encode (ascii "placeId") = ascii "placeId" := by decide +kernel
  have hinstance : discordEncoder.encode (ascii "gameInstanceId") = ascii "gameInstanceId" := by decide +kernel
  have hequals : ascii "placeId=" = ascii "placeId" ++ [0x3d] := by decide
  have hsecond : ascii "&gameInstanceId=" = 0x26 :: ascii "gameInstanceId" ++ [0x3d] := by decide
  unfold joinParameters joinPairs launcherQuery
  by_cases hempty : request.gameInstanceId = []
  · rw [if_pos hempty, if_pos hempty, List.map_cons, List.map_nil, List.intercalate_singleton, encodePair, hdigits, hplace,
      hequals]
    simp
  · rw [if_neg hempty, if_neg hempty, List.map_cons, List.map_cons, List.map_nil, List.intercalate_cons_cons,
      List.intercalate_singleton, encodePair, encodePair, hdigits, hplace, hinstance, hequals, hsecond, percentEncode]
    simp

variable {n : Nat}

theorem fromChars_toString (h : n < 2 ^ 63) : fromChars (ascii (toString n)) = some (n : Int) := by
  have hdigits : (ascii (toString n)).all (fun b => decide (0x30 ≤ b.toNat ∧ b.toNat ≤ 0x39)) = true := by
    rw [List.all_eq_true]
    exact fun b hb => decide_eq_true (ascii_toString_digit n b hb)
  have hdecimal : ¬ (ascii (toString n) = [] ∨
      (ascii (toString n)).all (fun b => decide (0x30 ≤ b.toNat ∧ b.toNat ≤ 0x39)) = false) := by
    rintro (hnil | hother)
    · exact ascii_toString_ne_nil n hnil
    · rw [hdigits] at hother
      cases hother
  rw [fromChars, if_neg hdecimal]
  simp only [foldl_ascii_toString]
  rw [if_pos h]

theorem readDecimalInteger_toString (hpos : 0 < n) (h : n < 2 ^ 63) (name : String) (allowZero : Bool) :
    readDecimalInteger (ascii (toString n)) name allowZero = .ok (n : Int) := by
  have hsign : ∀ b, (ascii (toString n)).head? = some b → 0x30 ≤ b.toNat := fun b hb =>
    (ascii_toString_digit n b (List.mem_of_mem_head? hb)).1
  have hunsigned : ¬ (ascii (toString n) = [] ∨ (ascii (toString n)).head? = some 0x2b ∨
      (ascii (toString n)).head? = some 0x2d) := by
    rintro (hnil | hplus | hminus)
    · exact ascii_toString_ne_nil n hnil
    · exact absurd (hsign _ hplus) (by decide)
    · exact absurd (hsign _ hminus) (by decide)
  rw [readDecimalInteger, if_neg hunsigned, fromChars_toString h]
  simp only
  rw [if_neg]
  simp only [Bool.and_eq_true, Bool.not_eq_true', beq_iff_eq, not_or, not_and]
  omega

theorem assignField_placeId (hpos : 0 < n) (h : n < 2 ^ 63) (m : Bool) :
    assignField (ascii "placeId") (ascii (toString n)) m {} =
      .ok (({} : LaunchFields).put (.integer .placeId) ((n : Int), [])) := by
  have hkey : launchFieldOf (ascii "placeId") = some (.integer .placeId) := launchFieldOf_name (.integer .placeId)
  rw [assignField_eq, if_neg (by decide), hkey]
  simp only [fieldValue]
  rw [if_neg (by simp), readDecimalInteger_toString hpos h]
  rfl

theorem assignField_gameInstanceId (value : Text) (m : Bool) {fields : LaunchFields}
    (h : fields.seenFields (.string .gameInstanceId) = false) :
    assignField (ascii "gameInstanceId") value m fields = .ok (fields.put (.string .gameInstanceId) (0, value)) := by
  have hkey : launchFieldOf (ascii "gameInstanceId") = some (.string .gameInstanceId) :=
    launchFieldOf_name (.string .gameInstanceId)
  rw [assignField_eq, if_neg (by decide), hkey]
  simp only [fieldValue, fieldText]
  rw [if_neg (by simp [h]), if_neg (by simp)]
  rfl

theorem assignPairs_joinPairs (hpos : 0 < request.placeId)
    (h : request.placeId < 2 ^ 63) (m : Bool) :
    ∃ fields, assignPairs m (joinPairs request) {} = .ok fields ∧ fields.integers .placeId = request.placeId ∧
      fields.strings .gameInstanceId = request.gameInstanceId := by
  obtain ⟨n, hn⟩ := Int.eq_ofNat_of_zero_le (show 0 ≤ request.placeId by omega)
  have hplace : assignField (ascii "placeId") (ascii (toString request.placeId)) m {} =
      .ok (({} : LaunchFields).put (.integer .placeId) (request.placeId, [])) := by
    rw [hn]
    exact assignField_placeId (by omega) (by omega) m
  unfold joinPairs assignPairs
  simp only [hplace]
  by_cases hempty : request.gameInstanceId = []
  · rw [if_pos hempty]
    refine ⟨_, rfl, ?_, ?_⟩
    · simp [LaunchFields.put]
    · simp [LaunchFields.put, hempty]
  · rw [if_neg hempty]
    have hinstance := assignField_gameInstanceId request.gameInstanceId m
      (show (({} : LaunchFields).put (.integer .placeId) (request.placeId, [])).seenFields (.string .gameInstanceId) = false
        by simp [LaunchFields.put])
    refine ⟨(({} : LaunchFields).put (.integer .placeId) (request.placeId, [])).put (.string .gameInstanceId)
      (0, request.gameInstanceId), ?_, ?_, ?_⟩
    · show assignPairs m [(ascii "gameInstanceId", request.gameInstanceId)]
        (({} : LaunchFields).put (.integer .placeId) (request.placeId, [])) = _
      unfold assignPairs
      simp only [hinstance]
      rfl
    · simp [LaunchFields.put]
    · simp [LaunchFields.put]

/-- The parameters fit everywhere a launch URI is measured. -/
theorem joinPairs_texts (hpos : 0 < request.placeId)
    (hw : Utf8.WellFormed request.gameInstanceId) (hc : containsControlBytes request.gameInstanceId = false) :
    ∀ pair ∈ joinPairs request, (∃ field, launchFieldOf pair.1 = some field) ∧ containsControlBytes pair.2 = false ∧
      Utf8.WellFormed pair.2 := by
  obtain ⟨n, hn⟩ := Int.eq_ofNat_of_zero_le (show 0 ≤ request.placeId by omega)
  intro pair hp
  unfold joinPairs at hp
  rcases List.mem_cons.mp hp with rfl | hp
  · refine ⟨⟨.integer .placeId, launchFieldOf_name (.integer .placeId)⟩, ?_⟩
    rw [hn]
    refine ascii_text fun b hb => ?_
    have hdigit := ascii_toString_digit n b hb
    omega
  · by_cases hempty : request.gameInstanceId = []
    · rw [if_pos hempty] at hp
      cases hp
    · rw [if_neg hempty] at hp
      obtain rfl := List.mem_singleton.mp hp
      exact ⟨⟨.string .gameInstanceId, launchFieldOf_name (.string .gameInstanceId)⟩, hc, hw⟩

/-- The launch URI with the parameters of a join URL. -/
def joinLaunchUri (query : Text) : Text := ascii "roblox://experiences/start?" ++ query

theorem readLaunchUri_modern (host : LaunchHost) {query : Text} (hne : query ≠ []) (hbytes : ∀ b ∈ query, queryByte b = true)
    (hsize : query.length ≤ 1024) : readLaunchUri host (joinLaunchUri query) = parseQuery query true {} := by
  have hpos := List.length_pos_of_ne_nil hne
  have hfront : ∀ b ∈ ascii "roblox://experiences/start?", 0x20 ≤ b.toNat ∧ b.toNat < 0x7f := by decide +kernel
  have hprintable : ∀ b ∈ joinLaunchUri query, 0x20 ≤ b.toNat ∧ b.toNat < 0x7f := by
    intro b hb
    rcases List.mem_append.mp hb with hb | hb
    · exact hfront b hb
    · have hq := hbytes b hb
      simp only [queryByte, unreserved, Bool.or_eq_true, decide_eq_true_eq, beq_iff_eq] at hq
      rcases hq with ((hq | rfl) | rfl) | rfl
      · omega
      · decide
      · decide
      · decide
  obtain ⟨hc, hw⟩ := ascii_text hprintable
  have hlen : (joinLaunchUri query).length = 27 + query.length := by
    rw [joinLaunchUri, List.length_append]
    rfl
  have hlimits : ¬ (joinLaunchUri query = [] ∨ kMaximumRobloxLaunchUriBytes < (joinLaunchUri query).length ∨
      containsControlBytes (joinLaunchUri query) = true ∨ isValidUtf8 (joinLaunchUri query) = false) := by
    rintro (hnil | hlong | hcontrol | hinvalid)
    · rw [hnil] at hlen
      simp only [List.length_nil] at hlen
      omega
    · simp only [kMaximumRobloxLaunchUriBytes] at hlong
      omega
    · rw [hc] at hcontrol
      cases hcontrol
    · rw [isValidUtf8_iff.mpr hw] at hinvalid
      cases hinvalid
  have hsplit : joinLaunchUri query = ascii "roblox" ++ 0x3a :: (ascii kModernExperiencePrefix ++ query) := by
    have hscheme : ascii "roblox://experiences/start?" = ascii "roblox" ++ 0x3a :: ascii kModernExperiencePrefix := by decide
    rw [joinLaunchUri, hscheme]
    simp
  have hpath : ∀ b : UInt8, queryByte b = false → b ∉ query := by
    intro b hb hm
    rw [hbytes b hm] at hb
    cases hb
  have htake : (ascii kModernExperiencePrefix ++ query).take (ascii kModernExperiencePrefix).length =
      ascii kModernExperiencePrefix := List.take_left' rfl
  have hdrop : (ascii kModernExperiencePrefix ++ query).drop (ascii kModernExperiencePrefix).length = query :=
    List.drop_left' rfl
  rw [readLaunchUri, if_neg hlimits, hsplit, cut_append _ (by decide)]
  simp only
  rw [if_neg (by decide), if_neg (by decide), if_pos (by decide), parseModern, modernQuery]
  simp only
  rw [if_pos ⟨by rw [List.length_append]; omega, by rw [htake]; decide⟩, hdrop]
  simp only [Except.bind, bind]
  rw [if_neg (by simp [hpath 0x23 (by decide), hpath 0x2f (by decide)])]

theorem joinUrl_read (hurl : buildDiscordJoinUrl request ≠ [])
    (hplace : request.placeId < 2 ^ 63) (hw : Utf8.WellFormed request.gameInstanceId) (host : LaunchHost) :
    buildDiscordJoinUrl request = ascii kJoinPage ++ ascii "#" ++ joinParameters request ∧
      ∃ fields, readLaunchUri host (joinLaunchUri (joinParameters request)) = .ok fields ∧
        fields.integers .placeId = request.placeId ∧ fields.strings .gameInstanceId = request.gameInstanceId := by
  unfold buildDiscordJoinUrl at hurl ⊢
  by_cases htarget : (!hasDiscordJoinTarget request) = true
  · rw [if_pos htarget] at hurl
    exact absurd rfl hurl
  rw [if_neg htarget] at hurl ⊢
  simp only at hurl ⊢
  by_cases hsize : (ascii kJoinPage ++ ascii "#" ++ joinParameters request).length ≤ 512
  · rw [if_pos hsize]
    refine ⟨rfl, ?_⟩
    simp only [hasDiscordJoinTarget, Bool.not_eq_true', Bool.not_eq_false, Bool.and_eq_true, Bool.or_eq_true,
      decide_eq_true_eq, beq_iff_eq] at htarget
    obtain ⟨hpos, hid⟩ := htarget
    have hc : containsControlBytes request.gameInstanceId = false := by
      rcases hid with hempty | ⟨-, hc⟩
      · rw [hempty]
        rfl
      · exact hc
    rw [List.length_append] at hsize
    have heq := joinParameters_eq hpos
    have hpairs : joinPairs request ≠ [] := List.cons_ne_nil _ _
    have hsplit : (joinParameters request).splitOn 0x26 = (joinPairs request).map (encodePair discordEncoder) := by
      rw [heq]
      exact splitOn_launcherQuery hpairs
    have hne : joinParameters request ≠ [] := by
      intro hnil
      rw [joinParameters] at hnil
      simp [ascii] at hnil
    have htexts := joinPairs_texts hpos hw hc
    have hread : parseQuery (joinParameters request) true {} = assignPairs true (joinPairs request) {} := by
      rw [parseQuery, if_neg hne, hsplit]
      refine parsePairs_encode 0 {} ?_ fun pair hp => ?_
      · unfold joinPairs kMaximumParameterCount
        split <;> simp
      · obtain ⟨hkey, hpc, hpw⟩ := htexts pair hp
        have hpiece : (encodePair discordEncoder pair).length ≤ (joinParameters request).length := by
          rw [heq]
          exact length_le_intercalate (List.mem_map_of_mem hp)
        refine ⟨hkey, hpc, hpw, ?_⟩
        simp only [kMaximumParameterValueBytes]
        omega
    obtain ⟨fields, hfields, hvalues⟩ := assignPairs_joinPairs hpos hplace true
    refine ⟨fields, ?_, hvalues⟩
    rw [readLaunchUri_modern host hne ?_ (by omega), hread, hfields]
    rw [heq]
    exact launcherQuery_bytes
  · rw [if_neg hsize] at hurl
    exact absurd rfl hurl

/-- `IsValidUtf8` accepts the concatenations of encoded scalar values, `PercentDecode` undoes
    `PercentEncode`, and the launch parser reads back the id a join URL was made from. -/
theorem join_url_recovered :
    (∀ value, isValidUtf8 value = true ↔ ∃ cs : List Nat, (∀ c ∈ cs, Utf8.Scalar c) ∧ value = cs.flatMap Utf8.encode) ∧
    (∀ value plusAsSpace, Utf8.WellFormed value → containsControlBytes value = false →
      (percentEncode value).length ≤ kMaximumParameterValueBytes →
      percentDecode (percentEncode value) plusAsSpace = .ok value) ∧
    ∀ (request : ExperienceLaunchRequest) (host : LaunchHost), buildDiscordJoinUrl request ≠ [] →
      request.placeId < 2 ^ 63 → Utf8.WellFormed request.gameInstanceId →
      ∃ query fields, buildDiscordJoinUrl request = ascii kJoinPage ++ ascii "#" ++ query ∧
        readLaunchUri host (joinLaunchUri query) = .ok fields ∧ fields.integers .placeId = request.placeId ∧
        fields.strings .gameInstanceId = request.gameInstanceId := by
  refine ⟨fun value => isValidUtf8_iff, fun value plus hw hc hsize => percentDecode_encode plus hc hw hsize, ?_⟩
  intro request host hurl hplace hw
  obtain ⟨heq, fields, hread, hvalues⟩ := joinUrl_read hurl hplace hw host
  exact ⟨_, fields, heq, hread, hvalues⟩

/-- The public server of the tests. -/
def publicServer : ExperienceLaunchRequest := { placeId := 189707, gameInstanceId := ascii "job/a+b" }

theorem join_url_recovered_demo :
    buildDiscordJoinUrl publicServer =
        ascii "https://komaruworld.github.io/mocktail/join.html#placeId=189707&gameInstanceId=job%2Fa%2Bb" ∧
      ∃ query fields, buildDiscordJoinUrl publicServer = ascii kJoinPage ++ ascii "#" ++ query ∧
        readLaunchUri (place1818 fun _ => none) (joinLaunchUri query) = .ok fields ∧ fields.integers .placeId = 189707 ∧
        fields.strings .gameInstanceId = ascii "job/a+b" := by
  have hurl : buildDiscordJoinUrl publicServer =
      ascii "https://komaruworld.github.io/mocktail/join.html#placeId=189707&gameInstanceId=job%2Fa%2Bb" := by decide +kernel
  refine ⟨hurl, join_url_recovered.2.2 publicServer _ ?_ (by decide) ?_⟩
  · rw [hurl]
    decide +kernel
  · exact (ascii_text (by decide +kernel)).2

end Mocktail.Discord
