/-
  Mocktail.Launch.Uri — launch URIs and the WebView's launchGame command
  (src/runtime/roblox_launch_uri.cc).

  A parser reads the parameters of its input into `LaunchFields` (`readLaunchUri`,
  `readWebViewLaunchGame`); `makeRequest` resolves the place of a followed user, checks the
  selectors and hands a JSON document to `parseRobloxExperienceLaunchJson`.

  The source's record of fields is three maps here: the integers, the strings and
  `seen_fields`. Outside the repository, and so a parameter (`LaunchHost`): nlohmann::json,
  libcurl's URL parser, and the answer of the presence service.
-/

import Mocktail.Launch.ExperienceLaunch
import Mocktail.Launch.Percent

namespace Mocktail.Launch

open Mocktail.Lib

/-! ## Fields -/

inductive IntegerField where
  | placeId | userId | conversationId | referredByPlayerId
  deriving DecidableEq, Repr

inductive StringField where
  | request | gameInstanceId | reservedServerAccessCode | callId | referralPage | accessCode | linkCode | launchData
  | eventId | gameJoinContext | joinAttemptId | joinAttemptOrigin | isoContext
  deriving DecidableEq, Repr

inductive LaunchField where
  | integer (field : IntegerField)
  | string (field : StringField)
  deriving DecidableEq, Repr

def IntegerField.name : IntegerField → String
  | .placeId => "placeId"
  | .userId => "userId"
  | .conversationId => "conversationId"
  | .referredByPlayerId => "referredByPlayerId"

def StringField.name : StringField → String
  | .request => "request"
  | .gameInstanceId => "gameInstanceId"
  | .reservedServerAccessCode => "reservedServerAccessCode"
  | .callId => "callId"
  | .referralPage => "referralPage"
  | .accessCode => "accessCode"
  | .linkCode => "linkCode"
  | .launchData => "launchData"
  | .eventId => "eventId"
  | .gameJoinContext => "gameJoinContext"
  | .joinAttemptId => "joinAttemptId"
  | .joinAttemptOrigin => "joinAttemptOrigin"
  | .isoContext => "isoContext"

/-- The lower-case keys `AssignField` knows. -/
def kLaunchKeys : List (String × LaunchField) :=
  [("request", .string .request), ("placeid", .integer .placeId), ("userid", .integer .userId),
   ("conversationid", .integer .conversationId), ("referredbyplayerid", .integer .referredByPlayerId),
   ("gameid", .string .gameInstanceId), ("gameinstanceid", .string .gameInstanceId),
   ("instanceid", .string .gameInstanceId), ("reservedserveraccesscode", .string .reservedServerAccessCode),
   ("callid", .string .callId), ("referralpage", .string .referralPage), ("accesscode", .string .accessCode),
   ("linkcode", .string .linkCode), ("privateserverlinkcode", .string .linkCode), ("launchdata", .string .launchData),
   ("eventid", .string .eventId), ("gamejoincontext", .string .gameJoinContext),
   ("joinattemptid", .string .joinAttemptId), ("joinattemptorigin", .string .joinAttemptOrigin),
   ("isocontext", .string .isoContext)]

/-- The field a key stands for; other keys are ignored. -/
def launchFieldOf (rawKey : Text) : Option LaunchField :=
  (kLaunchKeys.find? (fun entry => ascii entry.1 == asciiLower rawKey)).map (·.2)

structure LaunchFields where
  integers : IntegerField → Int := fun _ => 0
  strings : StringField → Text := fun _ => []
  seenFields : LaunchField → Bool := fun _ => false

/-- `std::from_chars` of an `int64_t` over a whole text without a sign. -/
def fromChars (value : Text) : Option Int :=
  if value = [] ∨ value.all (fun b => decide (0x30 ≤ b.toNat ∧ b.toNat ≤ 0x39)) = false then none
  else
    let parsed : Nat := value.foldl (fun n b => n * 10 + (b.toNat - 0x30)) 0
    if parsed < 2 ^ 63 then some (parsed : Int) else none

def readDecimalInteger (value : Text) (fieldName : String) (allowZero : Bool) : Result Int :=
  if value = [] ∨ value.head? = some 0x2b ∨ value.head? = some 0x2d then
    invalid ("Roblox launch integer is invalid: " ++ fieldName)
  else
    match fromChars value with
    | none => invalid ("Roblox launch integer is invalid: " ++ fieldName)
    | some parsed =>
      if parsed < 0 ∨ (!allowZero && parsed == 0) = true then
        invalid ("Roblox launch integer is invalid: " ++ fieldName)
      else .ok parsed

def rememberField (field : LaunchField) (fields : LaunchFields) : Result LaunchFields :=
  if fields.seenFields field then invalid "Roblox launch URI repeats a singleton field"
  else .ok { fields with seenFields := fun f => if f = field then true else fields.seenFields f }

/-- Modern launch data is percent-encoded twice. -/
def fieldText (decodeModernLaunchData : Bool) (field : LaunchField) (value : Text) : Result Text :=
  if field = .string .launchData ∧ decodeModernLaunchData = true ∧ 0x25 ∈ value then percentDecode value false
  else .ok value

/-- Only `placeId` may not be zero. -/
def storeField (field : LaunchField) (value : Text) (fields : LaunchFields) : Result LaunchFields :=
  match field with
  | .string field => .ok { fields with strings := fun f => if f = field then value else fields.strings f }
  | .integer field => do
    let parsed ← readDecimalInteger value field.name (field != .placeId)
    .ok { fields with integers := fun f => if f = field then parsed else fields.integers f }

def assignField (rawKey value : Text) (decodeModernLaunchData : Bool) (fields : LaunchFields) : Result LaunchFields :=
  if rawKey = [] ∨ kMaximumParameterKeyBytes < rawKey.length then invalid "Roblox launch parameter key is invalid"
  else
    match launchFieldOf rawKey with
    | none => .ok fields
    | some field => do
      let fields ← rememberField field fields
      let value ← fieldText decodeModernLaunchData field value
      storeField field value fields

/-! ## Queries -/

/-- A text around the first occurrence of a byte. -/
def cut (separator : UInt8) : Text → Option (Text × Text)
  | [] => none
  | b :: rest => if b = separator then some ([], rest) else (cut separator rest).map fun p => (b :: p.1, p.2)

/-- One turn of `ParseQuery`'s loop. -/
def parsePair (decodeModernLaunchData : Bool) (pair : Text) (fields : LaunchFields) : Result LaunchFields :=
  if pair = [] then invalid "Roblox launch URI contains an empty parameter"
  else
    match cut 0x3d pair with
    | none => invalid "Roblox launch URI parameter has no value"
    | some (key, value) =>
      if key = [] then invalid "Roblox launch URI parameter has no value"
      else do
        let key ← percentDecode key true
        let value ← percentDecode value true
        assignField key value decodeModernLaunchData fields

def parsePairs (decodeModernLaunchData : Bool) : Nat → List Text → LaunchFields → Result LaunchFields
  | _, [], fields => .ok fields
  | count, pair :: rest, fields =>
    if kMaximumParameterCount < count + 1 then invalid "Roblox launch URI has too many parameters"
    else do
      let fields ← parsePair decodeModernLaunchData pair fields
      parsePairs decodeModernLaunchData (count + 1) rest fields

def parseQuery (query : Text) (decodeModernLaunchData : Bool) (fields : LaunchFields) : Result LaunchFields :=
  if query = [] then invalid "Roblox launch URI query is missing"
  else parsePairs decodeModernLaunchData 0 (query.splitOn 0x26) fields

/-! ## The host -/

/-- What `curl_url_get` returns for each part of a parsed URL. -/
structure CurlUrl where
  scheme : Option Text := none
  host : Option Text := none
  path : Option Text := none
  query : Option Text := none
  user : Option Text := none
  password : Option Text := none
  fragment : Option Text := none
  port : Option Text := none
  deriving DecidableEq, Repr

/-- `place_id` is an `int64_t`. -/
structure ResolvedFollowUserPlace where
  placeId : Int
  gameInstanceId : Text
  placeId_lt : placeId < 2 ^ 63

structure LaunchHost where
  json : JsonLibrary
  curl : Text → Option CurlUrl
  /-- The presence lookup of a positive user id, with the stored cookie. -/
  presence : Int → Result ResolvedFollowUserPlace

/-! ## roblox-player -/

def getRequiredUrlPart (part : Option Text) (label : String) : Result Text :=
  match part with
  | none => invalid ("Roblox PlaceLauncher URL has no " ++ label)
  | some value => .ok value

def hasUrlPart (part : Option Text) : Bool := part.getD [] != []

def kPlaceLauncherPath : String := "/game/placelauncher.ashx"

def kPlaceLauncherHosts : List String := ["www.roblox.com", "roblox.com", "assetgame.roblox.com"]

section
variable (host : LaunchHost)

/-- The query of a PlaceLauncher URL. -/
def placeLauncherQuery (launcherUrl : Text) : Result Text :=
  if launcherUrl = [] ∨ kMaximumRobloxLaunchUriBytes < launcherUrl.length ∨ containsControlBytes launcherUrl = true ∨
      isValidUtf8 launcherUrl = false then
    invalid "Roblox PlaceLauncher URL is invalid"
  else
    match host.curl launcherUrl with
    | none => invalid "Roblox PlaceLauncher URL cannot be parsed"
    | some parsed => do
      let scheme ← getRequiredUrlPart parsed.scheme "scheme"
      let hostName ← getRequiredUrlPart parsed.host "host"
      let path ← getRequiredUrlPart parsed.path "path"
      let query ← getRequiredUrlPart parsed.query "query"
      if asciiLower scheme ≠ ascii "https" ∨ asciiLower hostName ∉ kPlaceLauncherHosts.map ascii ∨
          asciiLower path ≠ ascii kPlaceLauncherPath ∨ hasUrlPart parsed.user = true ∨
          hasUrlPart parsed.password = true ∨ hasUrlPart parsed.fragment = true then
        invalid "Roblox PlaceLauncher URL origin or path is not allowed"
      else if parsed.port.getD (ascii "443") ≠ ascii "443" then
        invalid "Roblox PlaceLauncher URL port is not allowed"
      else .ok query

def parsePlaceLauncherUrl (launcherUrl : Text) (fields : LaunchFields) : Result LaunchFields := do
  let query ← placeLauncherQuery host launcherUrl
  parseQuery query false fields

/-- The locals of `ParseClassic`'s loop; `launcherUrl` is none until the field was seen. -/
structure ClassicScan where
  count : Nat := 0
  versionSeen : Bool := false
  launchModeSeen : Bool := false
  launcherUrl : Option Text := none
  deriving DecidableEq, Repr

/-- A field after the version. -/
def scanKeyed (field : Text) (scan : ClassicScan) : Result ClassicScan :=
  match cut 0x3a field with
  | none => invalid "Roblox player launch field is malformed"
  | some (rawKey, encodedValue) =>
    if rawKey = [] then invalid "Roblox player launch field is malformed"
    else if asciiLower rawKey = ascii "launchmode" then
      if scan.launchModeSeen then invalid "Roblox player launch repeats launchmode"
      else do
        let launchMode ← percentDecode encodedValue false
        if asciiLower launchMode ≠ ascii "play" then invalid "Roblox player launch mode is unsupported"
        else .ok { scan with launchModeSeen := true }
    else if asciiLower rawKey = ascii "placelauncherurl" then
      if scan.launcherUrl.isSome then invalid "Roblox player launch repeats PlaceLauncher URL"
      else do
        let launcherUrl ← percentDecode encodedValue false
        .ok { scan with launcherUrl := some launcherUrl }
    -- gameinfo, browsertrackerid and the like are neither decoded nor kept
    else .ok scan

/-- One turn of `ParseClassic`'s loop. -/
def scanField (field : Text) (scan : ClassicScan) : Result ClassicScan :=
  if kMaximumParameterCount < scan.count + 1 then invalid "Roblox player launch payload has too many fields"
  else if kMaximumParameterKeyBytes + 1 + kMaximumParameterValueBytes < field.length then
    invalid "Roblox player launch field is too large"
  else
    let scan := { scan with count := scan.count + 1 }
    if scan.versionSeen then scanKeyed field scan
    else if field ≠ ascii "1" then invalid "Roblox player launch version is unsupported"
    else .ok { scan with versionSeen := true }

def scanFields : List Text → ClassicScan → Result ClassicScan
  | [], scan => .ok scan
  | field :: rest, scan => do
    let scan ← scanField field scan
    scanFields rest scan

/-- The PlaceLauncher URL of a payload. -/
def classicLauncherUrl (payload : Text) : Result Text :=
  if payload = [] then invalid "Roblox player launch payload is missing"
  else do
    let scan ← scanFields (payload.splitOn 0x2b) {}
    match scan.launcherUrl with
    | none => invalid "Roblox player launch contract is incomplete"
    | some launcherUrl =>
      if scan.versionSeen = false ∨ scan.launchModeSeen = false then
        invalid "Roblox player launch contract is incomplete"
      else .ok launcherUrl

def parseClassic (payload : Text) (fields : LaunchFields) : Result LaunchFields := do
  let launcherUrl ← classicLauncherUrl payload
  let fields ← parsePlaceLauncherUrl host launcherUrl fields
  if fields.strings .request = [] then invalid "Roblox PlaceLauncher request type is missing"
  else .ok fields

/-! ## roblox -/

def kModernExperiencePrefix : String := "//experiences/start?"

def kModernDirectPrefix : String := "//placeid="

/-- The query of a payload and whether its launch data is decoded twice. -/
def modernQuery (payload : Text) : Result (Text × Bool) := do
  let experience := ascii kModernExperiencePrefix
  let direct := ascii kModernDirectPrefix
  let (query, decodeLaunchDataTwice) ←
    if experience.length < payload.length ∧ asciiLower (payload.take experience.length) = experience then
      .ok (payload.drop experience.length, true)
    else if direct.length ≤ payload.length ∧ asciiLower (payload.take direct.length) = direct then
      -- roblox://placeId=<id>&... has no '?'
      .ok (payload.drop 2, false)
    else invalid "Roblox launch path is unsupported"
  if 0x23 ∈ query ∨ 0x2f ∈ query then invalid "Roblox launch URI contains an unsupported fragment"
  else .ok (query, decodeLaunchDataTwice)

def parseModern (payload : Text) (fields : LaunchFields) : Result LaunchFields := do
  let (query, decodeLaunchDataTwice) ← modernQuery payload
  parseQuery query decodeLaunchDataTwice fields

/-! ## Requests -/

def isRequest (fields : LaunchFields) (request : String) : Bool := asciiLower (fields.strings .request) == ascii request

def privateJoin (fields : LaunchFields) : Bool := fields.strings .accessCode != [] || fields.strings .linkCode != []

def selectors (fields : LaunchFields) : List Bool :=
  [decide (0 < fields.integers .userId), decide (0 < fields.integers .conversationId), privateJoin fields,
   fields.strings .gameInstanceId != [], fields.strings .reservedServerAccessCode != []]

def validateSelector (fields : LaunchFields) : Result Unit :=
  let selectorCount := (selectors fields).count true
  if 1 < selectorCount then invalid "Roblox launch URI contains conflicting join selectors"
  else if fields.strings .request = [] then .ok ()
  else if isRequest fields "requestgame" then
    if selectorCount = 0 then .ok () else invalid "RequestGame contains a non-public join selector"
  else if isRequest fields "requestgamejob" then
    if fields.strings .gameInstanceId ≠ [] then .ok () else invalid "RequestGameJob requires a game instance"
  else if isRequest fields "requestprivategame" then
    if privateJoin fields = true ∨ fields.strings .reservedServerAccessCode ≠ [] then .ok ()
    else invalid "RequestPrivateGame requires an access code"
  else if isRequest fields "requestplaytogethergame" then
    if 0 < fields.integers .conversationId then .ok () else invalid "RequestPlayTogetherGame requires a conversation"
  else if isRequest fields "requestfollowuser" then
    if 0 < fields.integers .placeId then .ok () else invalid "RequestFollowUser could not resolve a place"
  else invalid "Roblox PlaceLauncher request type is unsupported"

/-- `ResolveFollowUserPlace` with the stored cookie. -/
def resolveFollowUserPlace (userId : Int) : Result ResolvedFollowUserPlace :=
  if userId ≤ 0 then invalid "Roblox presence lookup requires a positive userId" else host.presence userId

/-- The fields after a followed user's place took the place of the user. -/
def resolveFields (fields : LaunchFields) : Result LaunchFields :=
  let isFollowUser := isRequest fields "requestfollowuser"
  if fields.integers .placeId ≤ 0 ∧ isFollowUser = false then
    invalid "Roblox launch URI requires a positive placeId"
  else if fields.integers .placeId ≤ 0 ∧ isFollowUser = true then do
    let resolved ← resolveFollowUserPlace host (fields.integers .userId)
    .ok { fields with
          integers := fun f =>
            if f = .placeId then resolved.placeId else if f = .userId then 0 else fields.integers f
          strings := fun f =>
            if f = .gameInstanceId ∧ resolved.gameInstanceId ≠ [] then resolved.gameInstanceId else fields.strings f }
  else .ok fields

def addInteger (fields : LaunchFields) (document : List (Text × Json)) (field : IntegerField) : List (Text × Json) :=
  if 0 < fields.integers field then insertMember (ascii field.name) (.integer (fields.integers field)) document
  else document

def addString (fields : LaunchFields) (document : List (Text × Json)) (field : StringField) : List (Text × Json) :=
  if fields.strings field ≠ [] then insertMember (ascii field.name) (.string (fields.strings field)) document
  else document

def requestDocument (fields : LaunchFields) : List (Text × Json) :=
  let document := [(ascii "placeId", .integer (fields.integers .placeId))]
  let document := [.userId, .conversationId, .referredByPlayerId].foldl (addInteger fields) document
  [.gameInstanceId, .reservedServerAccessCode, .callId, .referralPage, .accessCode, .linkCode, .launchData, .eventId,
   .gameJoinContext, .joinAttemptId, .joinAttemptOrigin, .isoContext].foldl (addString fields) document

def makeRequest (fieldsIn : LaunchFields) : Result ExperienceLaunchRequest := do
  let fields ← resolveFields host fieldsIn
  validateSelector fields
  match host.json.dump (.object (requestDocument fields)) with
  | none => .error .exception
  | some json => parseRobloxExperienceLaunchJson host.json json

/-! ## The two front ends -/

def readLaunchUri (uri : Text) : Result LaunchFields :=
  if uri = [] ∨ kMaximumRobloxLaunchUriBytes < uri.length ∨ containsControlBytes uri = true ∨ isValidUtf8 uri = false then
    invalid "Roblox launch URI size or encoding is invalid"
  else
    match cut 0x3a uri with
    | none => invalid "Roblox launch URI has no supported scheme"
    | some (scheme, payload) =>
      if scheme = [] then invalid "Roblox launch URI has no supported scheme"
      else if asciiLower scheme = ascii "roblox-player" then parseClassic host payload {}
      else if asciiLower scheme = ascii "roblox" then parseModern payload {}
      else invalid "Roblox launch URI scheme is unsupported"

def parseRobloxLaunchUri (uri : Text) : Result ExperienceLaunchRequest := do
  let fields ← readLaunchUri host uri
  makeRequest host fields

/-- A member as text: strings, and unsigned numbers in decimal. -/
def memberText : Json → Option Text
  | .string value => some value
  | .unsigned value => some (ascii (toString value))
  | _ => none

def assignMember (member : Text × Json) (fields : LaunchFields) : Result LaunchFields :=
  match memberText member.2 with
  | none => .ok fields
  | some text =>
    if kMaximumParameterValueBytes < text.length ∨ containsControlBytes text = true then
      invalid "Roblox launchGame field is invalid"
    else assignField (if member.1 = ascii "requestType" then ascii "request" else member.1) text false fields

def assignMembers : List (Text × Json) → LaunchFields → Result LaunchFields
  | [], fields => .ok fields
  | member :: rest, fields => do
    let fields ← assignMember member fields
    assignMembers rest fields

/-- The members of a launchGame command's request. -/
def launchGameMembers (command : Text) : Result (List (Text × Json)) :=
  let unsupported : Result (List (Text × Json)) :=
    .error (.status (Status.unsupported "WebView command is not launchGame"))
  match if command.length ≤ kMaximumRobloxLaunchUriBytes then host.json.parse command else some .null with
  | some (.object document) =>
    match findMember document (ascii "functionName") with
    | some (.string functionName) =>
      if functionName ≠ ascii "launchGame" then unsupported
      else
        match findMember document (ascii "params") with
        | some (.object params) =>
          match findMember params (ascii "request") with
          | some (.object launch) =>
            if kMaximumParameterCount < launch.length then invalid "Roblox launchGame request has too many fields"
            else .ok launch
          | _ => invalid "Roblox launchGame has no request"
        | _ => invalid "Roblox launchGame has no params"
    | _ => unsupported
  | _ => unsupported

def readWebViewLaunchGame (command : Text) : Result LaunchFields := do
  let launch ← launchGameMembers host command
  let fields ← assignMembers launch {}
  if fields.strings .request = [] then invalid "Roblox launchGame request type is missing"
  else .ok fields

def parseRobloxWebViewLaunchGame (command : Text) : Result ExperienceLaunchRequest := do
  let fields ← readWebViewLaunchGame host command
  makeRequest host fields

end

/-! ## Assignments -/

/-- What the text of a field is read as: an integer or a string. -/
def fieldValue (decodeModernLaunchData : Bool) (field : LaunchField) (value : Text) : Result (Int × Text) :=
  match field with
  | .integer f => (readDecimalInteger value f.name (f != .placeId)).map fun parsed => (parsed, [])
  | .string f => (fieldText decodeModernLaunchData (.string f) value).map fun text => (0, text)

/-- The fields once one more is seen. -/
def LaunchFields.put (fields : LaunchFields) (field : LaunchField) (x : Int × Text) : LaunchFields where
  integers f := if .integer f = field then x.1 else fields.integers f
  strings f := if .string f = field then x.2 else fields.strings f
  seenFields f := if f = field then true else fields.seenFields f

theorem put_comm (fields : LaunchFields) {f g : LaunchField} (h : f ≠ g) (x y : Int × Text) :
    (fields.put f x).put g y = (fields.put g y).put f x := by
  unfold LaunchFields.put
  congr 1
  · funext i
    by_cases hg : .integer i = g
    · simp [hg, Ne.symm h]
    · simp [hg]
  · funext i
    by_cases hg : .string i = g
    · simp [hg, Ne.symm h]
    · simp [hg]
  · funext i
    by_cases hg : i = g
    · simp [hg]
    · simp [hg]

theorem assignField_eq (rawKey value : Text) (m : Bool) (fields : LaunchFields) :
    assignField rawKey value m fields =
      if rawKey = [] ∨ kMaximumParameterKeyBytes < rawKey.length then invalid "Roblox launch parameter key is invalid"
      else
        match launchFieldOf rawKey with
        | none => .ok fields
        | some field =>
          if fields.seenFields field then invalid "Roblox launch URI repeats a singleton field"
          else (fieldValue m field value).map (fields.put field) := by
  unfold assignField
  split
  · rfl
  · cases launchFieldOf rawKey with
    | none => rfl
    | some field =>
      simp only [rememberField]
      by_cases hs : fields.seenFields field = true
      · rw [if_pos hs, if_pos hs]
        rfl
      · rw [if_neg hs, if_neg hs]
        cases field with
        | integer f =>
          have htext : fieldText m (.integer f) value = .ok value := if_neg (by simp)
          simp only [Except.bind, bind, htext, storeField, fieldValue]
          cases readDecimalInteger value f.name (f != .placeId) with
          | error e => rfl
          | ok parsed => simp [Except.map, LaunchFields.put]
        | string f =>
          simp only [Except.bind, bind, storeField, fieldValue]
          cases fieldText m (.string f) value with
          | error e => rfl
          | ok text => simp [Except.map, LaunchFields.put]

/-- The assignments of some parameters, one after the other. -/
def assignPairs (m : Bool) : List (Text × Text) → LaunchFields → Result LaunchFields
  | [], fields => .ok fields
  | pair :: rest, fields => do
    let fields ← assignField pair.1 pair.2 m fields
    assignPairs m rest fields

/-- The value of the first parameter for a field. -/
def supplied (pairs : List (Text × Text)) (field : LaunchField) : Option Text :=
  (pairs.find? (fun pair => launchFieldOf pair.1 == some field)).map (·.2)

theorem supplied_cons (pair : Text × Text) (rest : List (Text × Text)) (field : LaunchField) :
    supplied (pair :: rest) field = if launchFieldOf pair.1 = some field then some pair.2 else supplied rest field := by
  by_cases h : launchFieldOf pair.1 = some field
  · simp [supplied, h]
  · simp [supplied, h]

/-- After accepted assignments a field has the value of its parameter, or the one it had. -/
theorem assignPairs_ok {m : Bool} {pairs : List (Text × Text)} {start final : LaunchFields}
    (h : assignPairs m pairs start = .ok final) (field : LaunchField) :
    (start.seenFields field = true → supplied pairs field = none) ∧
    (supplied pairs field = none → final.seenFields field = start.seenFields field ∧
      (∀ f, field = .integer f → final.integers f = start.integers f) ∧
      ∀ f, field = .string f → final.strings f = start.strings f) ∧
    ∀ value, supplied pairs field = some value → ∃ x, fieldValue m field value = .ok x ∧
      (∀ f, field = .integer f → final.integers f = x.1) ∧ ∀ f, field = .string f → final.strings f = x.2 := by
  induction pairs generalizing start with
  | nil =>
    cases h
    exact ⟨fun _ => rfl, fun _ => ⟨rfl, fun _ _ => rfl, fun _ _ => rfl⟩, fun _ hv => by cases hv⟩
  | cons pair rest ih =>
    obtain ⟨next, hassign, hrest⟩ := bind_ok h
    obtain ⟨ihseen, ihnone, ihsome⟩ := ih hrest
    rw [assignField_eq] at hassign
    split at hassign
    · exact absurd hassign (invalid_ne_ok _ _)
    rw [supplied_cons]
    cases hkey : launchFieldOf pair.1 with
    | none =>
      rw [hkey] at hassign
      cases hassign
      rw [if_neg (by simp)]
      exact ⟨ihseen, ihnone, ihsome⟩
    | some g =>
      simp only [hkey] at hassign
      split at hassign
      · exact absurd hassign (invalid_ne_ok _ _)
      rename_i hunseen
      cases hvalue : fieldValue m g pair.2 with
      | error e =>
        rw [hvalue] at hassign
        cases hassign
      | ok x =>
        rw [hvalue] at hassign
        cases hassign
        by_cases hg : g = field
        · subst hg
          rw [if_pos rfl]
          -- it is seen now, so the rest has no parameter for it
          obtain ⟨-, hints, hstrings⟩ := ihnone (ihseen (by simp [LaunchFields.put]))
          refine ⟨fun hseen => absurd hseen hunseen, by simp, ?_⟩
          intro value hv
          obtain rfl := Option.some.inj hv
          refine ⟨x, hvalue, ?_, ?_⟩
          · intro f heq
            subst heq
            rw [hints f rfl]
            simp [LaunchFields.put]
          · intro f heq
            subst heq
            rw [hstrings f rfl]
            simp [LaunchFields.put]
        · rw [if_neg (by simpa using hg)]
          have hkeep : (start.put g x).seenFields field = start.seenFields field := if_neg (Ne.symm hg)
          refine ⟨fun hseen => ihseen (hkeep.trans hseen), fun hnone => ?_, ihsome⟩
          obtain ⟨hseen, hints, hstrings⟩ := ihnone hnone
          refine ⟨hseen.trans hkeep, ?_, ?_⟩
          · intro f heq
            subst heq
            rw [hints f rfl]
            exact if_neg (Ne.symm hg)
          · intro f heq
            subst heq
            rw [hstrings f rfl]
            exact if_neg (Ne.symm hg)

end Mocktail.Launch
