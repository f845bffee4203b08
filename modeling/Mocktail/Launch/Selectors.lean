/-
  Mocktail.Launch.Selectors — the join selector of a launch, from the parameters of the
  input to the request.

  `suppliedPairs` reads the parameters off an input; `Consistent` is what the request owes
  them: one selector at most, and a request type that fits what was supplied. It holds of
  every accepted input but one kind (`launch_consistent_iff`): `MakeRequest` asks the
  presence service only when no place is given, so a RequestFollowUser that names a place
  goes there, whoever the user is and even with no user at all.

  `makeRequest_ok` carries a request back to the fields: what `requestDocument` writes, the
  library writes and reads back (`RoundTrips`), and `readMembers` reads field by field.
-/

import Mocktail.Launch.Uri

namespace Mocktail.Launch

open Mocktail.Lib

/-! ## Parameters -/

inductive LaunchInput where
  | uri (text : Text)
  | webView (command : Text)
  deriving DecidableEq, Repr

def parseLaunch (host : LaunchHost) : LaunchInput → Result ExperienceLaunchRequest
  | .uri text => parseRobloxLaunchUri host text
  | .webView command => parseRobloxWebViewLaunchGame host command

def pairParameter (pair : Text) : Option (Text × Text) := do
  let (key, value) ← cut 0x3d pair
  let key ← (percentDecode key true).toOption
  let value ← (percentDecode value true).toOption
  return (key, value)

def queryParameters (query : Text) : Option (List (Text × Text)) := (query.splitOn 0x26).mapM pairParameter

def memberParameter (member : Text × Json) : Option (Text × Text) :=
  (memberText member.2).map fun text => (if member.1 = ascii "requestType" then ascii "request" else member.1, text)

/-- The query of a URI: its own, or that of its PlaceLauncher URL. -/
def uriQuery (host : LaunchHost) (uri : Text) : Option Text := do
  let (scheme, payload) ← cut 0x3a uri
  if asciiLower scheme = ascii "roblox-player" then
    (classicLauncherUrl payload >>= placeLauncherQuery host).toOption
  else (modernQuery payload).toOption.map (·.1)

/-- The decoded parameters of an input. -/
def suppliedPairs (host : LaunchHost) : LaunchInput → Option (List (Text × Text))
  | .uri text => (uriQuery host text).bind queryParameters
  | .webView command => (launchGameMembers host command).toOption.map (·.filterMap memberParameter)

/-- The parameters as values; what is absent is zero or empty. -/
def suppliedFields (pairs : List (Text × Text)) : LaunchFields where
  integers f := ((supplied pairs (.integer f)).bind fromChars).getD 0
  strings f := (supplied pairs (.string f)).getD []

def ExperienceLaunchRequest.integer (request : ExperienceLaunchRequest) : IntegerField → Int
  | .placeId => request.placeId
  | .userId => request.userId
  | .conversationId => request.conversationId
  | .referredByPlayerId => request.referredByPlayerId

/-- The request type is not part of the request. -/
def ExperienceLaunchRequest.string (request : ExperienceLaunchRequest) : StringField → Text
  | .request => []
  | .gameInstanceId => request.gameInstanceId
  | .reservedServerAccessCode => request.reservedServerAccessCode
  | .callId => request.callId
  | .referralPage => request.referralPage
  | .accessCode => request.accessCode
  | .linkCode => request.linkCode
  | .launchData => request.launchData
  | .eventId => request.eventId
  | .gameJoinContext => request.gameJoinContext
  | .joinAttemptId => request.joinAttemptId
  | .joinAttemptOrigin => request.joinAttemptOrigin
  | .isoContext => request.isoContext

def requestFields (request : ExperienceLaunchRequest) : LaunchFields where
  integers := request.integer
  strings := request.string

/-- One selector at most, and a request type that fits the parameters. -/
structure Consistent (host : LaunchHost) (pairs : List (Text × Text)) (request : ExperienceLaunchRequest) : Prop where
  oneSelector : (selectors (requestFields request)).count true ≤ 1
  game : isRequest (suppliedFields pairs) "requestgame" = true → (selectors (suppliedFields pairs)).count true = 0
  gameJob : isRequest (suppliedFields pairs) "requestgamejob" = true → (suppliedFields pairs).strings .gameInstanceId ≠ []
  privateGame : isRequest (suppliedFields pairs) "requestprivategame" = true →
    privateJoin (suppliedFields pairs) = true ∨ (suppliedFields pairs).strings .reservedServerAccessCode ≠ []
  playTogether : isRequest (suppliedFields pairs) "requestplaytogethergame" = true →
    0 < (suppliedFields pairs).integers .conversationId
  followUser : isRequest (suppliedFields pairs) "requestfollowuser" = true →
    0 < (suppliedFields pairs).integers .userId ∧
    ∃ place, host.presence ((suppliedFields pairs).integers .userId) = .ok place ∧ request.placeId = place.placeId

/-- A RequestFollowUser names no place, or the one the user is in. -/
def FollowsPresence (host : LaunchHost) (pairs : List (Text × Text)) : Prop :=
  isRequest (suppliedFields pairs) "requestfollowuser" = true →
    supplied pairs (.integer .placeId) = none ∨
    (0 < (suppliedFields pairs).integers .userId ∧
      ∃ place, host.presence ((suppliedFields pairs).integers .userId) = .ok place ∧
        place.placeId = (suppliedFields pairs).integers .placeId)

/-! ## From the input to the fields -/

variable {m : Bool}

theorem parsePair_ok {pair : Text} {fields final : LaunchFields} (h : parsePair m pair fields = .ok final) :
    ∃ parameter, pairParameter pair = some parameter ∧ assignField parameter.1 parameter.2 m fields = .ok final := by
  unfold parsePair at h
  split at h
  · exact absurd h (invalid_ne_ok _ _)
  split at h
  · exact absurd h (invalid_ne_ok _ _)
  · rename_i key value hcut
    split at h
    · exact absurd h (invalid_ne_ok _ _)
    · obtain ⟨k, hk, h⟩ := bind_ok h
      obtain ⟨v, hv, h⟩ := bind_ok h
      refine ⟨(k, v), ?_, h⟩
      simp [pairParameter, hcut, hk, hv, Except.toOption]

theorem parsePairs_ok {count : Nat} {pieces : List Text} {fields final : LaunchFields}
    (h : parsePairs m count pieces fields = .ok final) :
    ∃ pairs, pieces.mapM pairParameter = some pairs ∧ assignPairs m pairs fields = .ok final := by
  induction pieces generalizing count fields with
  | nil => exact ⟨[], rfl, h⟩
  | cons piece rest ih =>
    rw [parsePairs] at h
    split at h
    · exact absurd h (invalid_ne_ok _ _)
    · obtain ⟨next, hpiece, hrest⟩ := bind_ok h
      obtain ⟨parameter, hp, hassign⟩ := parsePair_ok hpiece
      obtain ⟨pairs, hmap, hpairs⟩ := ih hrest
      refine ⟨parameter :: pairs, ?_, ?_⟩
      · simp [List.mapM_cons, hp, hmap]
      · rw [assignPairs, hassign]
        exact hpairs

theorem parseQuery_ok {query : Text} {fields final : LaunchFields} (h : parseQuery query m fields = .ok final) :
    ∃ pairs, queryParameters query = some pairs ∧ assignPairs m pairs fields = .ok final := by
  unfold parseQuery at h
  split at h
  · exact absurd h (invalid_ne_ok _ _)
  · exact parsePairs_ok h

variable {fields : LaunchFields} {host : LaunchHost}

theorem readLaunchUri_ok {uri : Text} (h : readLaunchUri host uri = .ok fields) :
    ∃ pairs m, suppliedPairs host (.uri uri) = some pairs ∧ assignPairs m pairs {} = .ok fields := by
  unfold readLaunchUri at h
  split at h
  · exact absurd h (invalid_ne_ok _ _)
  split at h
  · exact absurd h (invalid_ne_ok _ _)
  rename_i scheme payload hcut
  split at h
  · exact absurd h (invalid_ne_ok _ _)
  split at h
  · rename_i hplayer
    obtain ⟨url, hurl, h⟩ := bind_ok h
    obtain ⟨read, hread, h⟩ := bind_ok h
    split at h
    · exact absurd h (invalid_ne_ok _ _)
    · cases h
      obtain ⟨query, hquery, hread⟩ := bind_ok hread
      obtain ⟨pairs, hpairs, hassign⟩ := parseQuery_ok hread
      refine ⟨pairs, false, ?_, hassign⟩
      simp [suppliedPairs, uriQuery, hcut, hplayer, hurl, hquery, hpairs, Except.toOption, bind, Except.bind]
  split at h
  · rename_i hplayer hmodern
    obtain ⟨⟨query, m⟩, hquery, hread⟩ := bind_ok h
    obtain ⟨pairs, hpairs, hassign⟩ := parseQuery_ok hread
    refine ⟨pairs, m, ?_, hassign⟩
    simp [suppliedPairs, uriQuery, hcut, hplayer, hquery, hpairs, Except.toOption]
  · exact absurd h (invalid_ne_ok _ _)

variable {members : List (Text × Json)}

theorem assignMembers_ok {fields final : LaunchFields}
    (h : assignMembers members fields = .ok final) :
    assignPairs false (members.filterMap memberParameter) fields = .ok final := by
  induction members generalizing fields with
  | nil => exact h
  | cons member rest ih =>
    obtain ⟨next, hmember, hrest⟩ := bind_ok h
    unfold assignMember at hmember
    cases htext : memberText member.2 with
    | none =>
      rw [htext] at hmember
      cases hmember
      rw [List.filterMap_cons_none (by simp [memberParameter, htext])]
      exact ih hrest
    | some text =>
      rw [htext] at hmember
      simp only at hmember
      split at hmember
      · exact absurd hmember (invalid_ne_ok _ _)
      · have hparameter : memberParameter member =
            some (if member.1 = ascii "requestType" then ascii "request" else member.1, text) := by
          rw [memberParameter, htext]
          rfl
        rw [List.filterMap_cons_some hparameter, assignPairs, hmember]
        exact ih hrest

theorem readWebView_ok {command : Text}
    (h : readWebViewLaunchGame host command = .ok fields) :
    ∃ pairs m, suppliedPairs host (.webView command) = some pairs ∧ assignPairs m pairs {} = .ok fields := by
  obtain ⟨members, hmembers, h⟩ := bind_ok h
  obtain ⟨read, hread, h⟩ := bind_ok h
  split at h
  · exact absurd h (invalid_ne_ok _ _)
  · cases h
    refine ⟨_, false, ?_, assignMembers_ok hread⟩
    simp [suppliedPairs, hmembers, Except.toOption]

variable {request : ExperienceLaunchRequest}

/-- An accepted input: its parameters, the fields they fill, and the request made of them. -/
theorem parseLaunch_ok {input : LaunchInput}
    (h : parseLaunch host input = .ok request) :
    ∃ pairs m fields, suppliedPairs host input = some pairs ∧ assignPairs m pairs {} = .ok fields ∧
      makeRequest host fields = .ok request := by
  cases input with
  | uri text =>
    obtain ⟨fields, hread, hmake⟩ := bind_ok h
    obtain ⟨pairs, m, hpairs, hassign⟩ := readLaunchUri_ok hread
    exact ⟨pairs, m, fields, hpairs, hassign, hmake⟩
  | webView command =>
    obtain ⟨fields, hread, hmake⟩ := bind_ok h
    obtain ⟨pairs, m, hpairs, hassign⟩ := readWebView_ok hread
    exact ⟨pairs, m, fields, hpairs, hassign, hmake⟩

theorem readDecimalInteger_ok {value : Text} {name : String} {allowZero : Bool} {parsed : Int}
    (h : readDecimalInteger value name allowZero = .ok parsed) :
    fromChars value = some parsed ∧ 0 ≤ parsed ∧ (allowZero = false → 0 < parsed) := by
  unfold readDecimalInteger at h
  split at h
  · exact absurd h (invalid_ne_ok _ _)
  split at h
  · exact absurd h (invalid_ne_ok _ _)
  · rename_i n hn
    split at h
    · exact absurd h (invalid_ne_ok _ _)
    · rename_i hsign
      cases h
      simp only [Bool.and_eq_true, Bool.not_eq_true', beq_iff_eq, not_or, not_and] at hsign
      refine ⟨hn, by omega, fun hz => ?_⟩
      have := hsign.2 hz
      omega

theorem fromChars_lt {value : Text} {parsed : Int} (h : fromChars value = some parsed) : parsed < 2 ^ 63 := by
  unfold fromChars at h
  split at h
  · cases h
  · simp only at h
    split at h
    · cases h
      omega
    · cases h

theorem fields_supplied {pairs : List (Text × Text)}
    (h : assignPairs m pairs {} = .ok fields) :
    (∀ f, fields.integers f = (suppliedFields pairs).integers f ∧ 0 ≤ fields.integers f ∧ fields.integers f < 2 ^ 63) ∧
    (∀ f, f ≠ .launchData → fields.strings f = (suppliedFields pairs).strings f) ∧
    (supplied pairs (.integer .placeId) ≠ none → 0 < fields.integers .placeId) := by
  refine ⟨fun f => ?_, fun f hf => ?_, fun hplace => ?_⟩
  · obtain ⟨-, hnone, hsome⟩ := assignPairs_ok h (.integer f)
    cases hs : supplied pairs (.integer f) with
    | none =>
      rw [(hnone hs).2.1 f rfl]
      simp [suppliedFields, hs]
    | some value =>
      obtain ⟨x, hx, hint, -⟩ := hsome value hs
      cases hread : readDecimalInteger value f.name (f != .placeId) with
      | error e =>
        rw [fieldValue, hread] at hx
        cases hx
      | ok parsed =>
        rw [fieldValue, hread] at hx
        cases hx
        obtain ⟨hchars, hpos, -⟩ := readDecimalInteger_ok hread
        rw [hint f rfl]
        exact ⟨by simp [suppliedFields, hs, hchars], hpos, fromChars_lt hchars⟩
  · obtain ⟨-, hnone, hsome⟩ := assignPairs_ok h (.string f)
    cases hs : supplied pairs (.string f) with
    | none =>
      rw [(hnone hs).2.2 f rfl]
      simp [suppliedFields, hs]
    | some value =>
      obtain ⟨x, hx, -, hstring⟩ := hsome value hs
      have htext : fieldText m (.string f) value = .ok value := if_neg (by simp [hf])
      rw [fieldValue, htext] at hx
      cases hx
      rw [hstring f rfl]
      simp [suppliedFields, hs]
  · obtain ⟨value, hs⟩ := Option.ne_none_iff_exists'.mp hplace
    obtain ⟨x, hx, hint, -⟩ := (assignPairs_ok h (.integer .placeId)).2.2 value hs
    cases hread : readDecimalInteger value "placeId" false with
    | error e =>
      rw [fieldValue, show (IntegerField.placeId != .placeId) = false from rfl, IntegerField.name, hread] at hx
      cases hx
    | ok parsed =>
      rw [fieldValue, show (IntegerField.placeId != .placeId) = false from rfl, IntegerField.name, hread] at hx
      cases hx
      rw [hint .placeId rfl]
      exact (readDecimalInteger_ok hread).2.2 rfl

/-! ## From the fields to the request -/

def LaunchField.name : LaunchField → String
  | .integer f => f.name
  | .string f => f.name

theorem launchFieldOf_name (field : LaunchField) : launchFieldOf (ascii field.name) = some field := by
  cases field with
  | integer f => cases f <;> decide
  | string f => cases f <;> decide

theorem name_inj {f g : LaunchField} (h : ascii f.name = ascii g.name) : f = g := by
  have hf := launchFieldOf_name f
  rw [h, launchFieldOf_name g] at hf
  exact (Option.some.inj hf).symm

theorem findMember_addInteger (fields : LaunchFields) (document : List (Text × Json)) (f : IntegerField) (g : LaunchField) :
    findMember (addInteger fields document f) (ascii g.name) =
      if g = .integer f ∧ 0 < fields.integers f then some (.integer (fields.integers f))
      else findMember document (ascii g.name) := by
  unfold addInteger
  by_cases hpos : 0 < fields.integers f
  · rw [if_pos hpos, findMember_insertMember]
    by_cases hg : g = .integer f
    · rw [if_pos (by rw [hg]; rfl), if_pos ⟨hg, hpos⟩]
    · have hname : ascii g.name ≠ ascii f.name := fun he => hg (name_inj he)
      rw [if_neg hname, if_neg (fun hh => hg hh.1)]
  · rw [if_neg hpos, if_neg (fun hh => hpos hh.2)]

theorem findMember_addString (fields : LaunchFields) (document : List (Text × Json)) (f : StringField) (g : LaunchField) :
    findMember (addString fields document f) (ascii g.name) =
      if g = .string f ∧ fields.strings f ≠ [] then some (.string (fields.strings f))
      else findMember document (ascii g.name) := by
  unfold addString
  by_cases hne : fields.strings f ≠ []
  · rw [if_pos hne, findMember_insertMember]
    by_cases hg : g = .string f
    · rw [if_pos (by rw [hg]; rfl), if_pos ⟨hg, hne⟩]
    · have hname : ascii g.name ≠ ascii f.name := fun he => hg (name_inj he)
      rw [if_neg hname, if_neg (fun hh => hg hh.1)]
  · rw [if_neg hne, if_neg (fun hh => hne hh.2)]

theorem requestDocument_integer (fields : LaunchFields) (f : IntegerField) (h : 0 < fields.integers .placeId) :
    findMember (requestDocument fields) (ascii f.name) =
      if 0 < fields.integers f then some (.integer (fields.integers f)) else none := by
  have hplace : findMember [(ascii "placeId", Json.integer (fields.integers .placeId))] (ascii (LaunchField.integer f).name) =
      if f = .placeId then some (.integer (fields.integers .placeId)) else none := by
    rw [findMember_cons, findMember_nil]
    by_cases hf : f = .placeId
    · rw [hf]
      rfl
    · rw [if_neg hf, if_neg]
      intro he
      exact hf (LaunchField.integer.inj (name_inj (g := .integer .placeId) he))
  show findMember (requestDocument fields) (ascii (LaunchField.integer f).name) = _
  simp only [requestDocument, List.foldl_cons, List.foldl_nil, findMember_addString, findMember_addInteger, hplace]
  cases f <;> simp [h]

theorem requestDocument_string (fields : LaunchFields) {f : StringField} (h : f ≠ .request) :
    findMember (requestDocument fields) (ascii f.name) =
      if fields.strings f ≠ [] then some (.string (fields.strings f)) else none := by
  have hplace : findMember [(ascii "placeId", Json.integer (fields.integers .placeId))] (ascii (LaunchField.string f).name) =
      none := by
    rw [findMember_cons, findMember_nil, if_neg]
    intro he
    exact absurd (name_inj (g := .integer .placeId) he) (by simp)
  show findMember (requestDocument fields) (ascii (LaunchField.string f).name) = _
  simp only [requestDocument, List.foldl_cons, List.foldl_nil, findMember_addString, findMember_addInteger, hplace]
  cases f <;> simp_all

/-- A property of documents that additions keep. -/
theorem requestDocument_induct {P : List (Text × Json) → Prop} (fields : LaunchFields)
    (hplace : P [(ascii "placeId", .integer (fields.integers .placeId))])
    (hinteger : ∀ document f, 0 < fields.integers f → P document →
      P (insertMember (ascii f.name) (.integer (fields.integers f)) document))
    (hstring : ∀ document f, fields.strings f ≠ [] → P document →
      P (insertMember (ascii f.name) (.string (fields.strings f)) document)) : P (requestDocument fields) := by
  have hi : ∀ document f, P document → P (addInteger fields document f) := by
    intro document f hd
    unfold addInteger
    split
    · exact hinteger document f ‹_› hd
    · exact hd
  have hs : ∀ document f, P document → P (addString fields document f) := by
    intro document f hd
    unfold addString
    split
    · exact hstring document f ‹_› hd
    · exact hd
  have hfold : ∀ {α : Type} (add : List (Text × Json) → α → List (Text × Json)),
      (∀ document f, P document → P (add document f)) → ∀ (fs : List α) document, P document → P (fs.foldl add document) := by
    intro α add hadd fs
    induction fs with
    | nil => exact fun document hd => hd
    | cons f fs ih => exact fun document hd => ih _ (hadd document f hd)
  exact hfold _ hs _ _ (hfold _ hi _ _ hplace)

theorem requestDocument_ordered (fields : LaunchFields) : Ordered (requestDocument fields) :=
  requestDocument_induct fields (List.pairwise_singleton _ _) (fun _ _ _ h => ordered_insertMember h)
    (fun _ _ _ h => ordered_insertMember h)

variable {json : JsonLibrary} {text : Text}

theorem requestDocument_plain (hjson : json.RoundTrips)
    (hint : ∀ f, 0 ≤ fields.integers f ∧ fields.integers f < 2 ^ 63)
    (hdump : json.dump (.object (requestDocument fields)) = some text) : ∀ m ∈ requestDocument fields, Plain m.2 := by
  have hkinds : ∀ m ∈ requestDocument fields, (∃ f, m.2 = .integer (fields.integers f)) ∨ ∃ value, m.2 = .string value := by
    refine requestDocument_induct (P := fun document => ∀ m ∈ document, (∃ f, m.2 = .integer (fields.integers f)) ∨
      ∃ value, m.2 = .string value) fields ?_ ?_ ?_
    · intro m hm
      obtain rfl := List.mem_singleton.mp hm
      exact Or.inl ⟨.placeId, rfl⟩
    · intro document f _ hd m hm
      rcases mem_insertMember hm with rfl | hm
      · exact Or.inl ⟨f, rfl⟩
      · exact hd m hm
    · intro document f _ hd m hm
      rcases mem_insertMember hm with rfl | hm
      · exact Or.inr ⟨_, rfl⟩
      · exact hd m hm
  intro hex hm
  obtain ⟨key, v⟩ := hex
  rcases hkinds _ hm with ⟨f, rfl⟩ | ⟨value, rfl⟩
  · exact hint f
  · exact hjson.dump_utf8 _ _ hdump key value hm

theorem findMember_reread (members : List (Text × Json)) (key : Text) :
    findMember (members.map fun m => (m.1, reread m.2)) key = (findMember members key).map reread := by
  induction members with
  | nil => rfl
  | cons m rest ih =>
    obtain ⟨name, value⟩ := m
    rw [List.map_cons, findMember_cons, findMember_cons, ih]
    split <;> rfl

theorem readMembers_ok {parsed : ExperienceLaunchRequest}
    (h : readMembers members = .ok parsed) :
    (∀ f : IntegerField, readOptionalInteger members f.name = .ok (parsed.integer f)) ∧
    ∀ f : StringField, f ≠ .request → readOptionalString members f.name = .ok (parsed.string f) := by
  unfold readMembers at h
  obtain ⟨placeId, h1, h⟩ := bind_ok h
  obtain ⟨userId, h2, h⟩ := bind_ok h
  obtain ⟨conversationId, h3, h⟩ := bind_ok h
  obtain ⟨referredByPlayerId, h4, h⟩ := bind_ok h
  obtain ⟨gameInstanceId, h5, h⟩ := bind_ok h
  obtain ⟨reservedServerAccessCode, h6, h⟩ := bind_ok h
  obtain ⟨callId, h7, h⟩ := bind_ok h
  obtain ⟨referralPage, h8, h⟩ := bind_ok h
  obtain ⟨accessCode, h9, h⟩ := bind_ok h
  obtain ⟨linkCode, h10, h⟩ := bind_ok h
  obtain ⟨launchData, h11, h⟩ := bind_ok h
  obtain ⟨eventId, h12, h⟩ := bind_ok h
  obtain ⟨gameJoinContext, h13, h⟩ := bind_ok h
  obtain ⟨joinAttemptId, h14, h⟩ := bind_ok h
  obtain ⟨joinAttemptOrigin, h15, h⟩ := bind_ok h
  obtain ⟨isoContext, h16, h⟩ := bind_ok h
  cases h
  constructor
  · intro f
    cases f with
    | placeId => exact h1
    | userId => exact h2
    | conversationId => exact h3
    | referredByPlayerId => exact h4
  · intro f hf
    cases f with
    | request => exact absurd rfl hf
    | gameInstanceId => exact h5
    | reservedServerAccessCode => exact h6
    | callId => exact h7
    | referralPage => exact h8
    | accessCode => exact h9
    | linkCode => exact h10
    | launchData => exact h11
    | eventId => exact h12
    | gameJoinContext => exact h13
    | joinAttemptId => exact h14
    | joinAttemptOrigin => exact h15
    | isoContext => exact h16

/-- The parser only adds the canonical text to what it read. -/
theorem parseLaunchJson_ok
    (hparse : json.parse text = some (.object members))
    (h : parseRobloxExperienceLaunchJson json text = .ok request) :
    ∃ parsed, readMembers members = .ok parsed ∧ request.integer = parsed.integer ∧ request.string = parsed.string := by
  unfold parseRobloxExperienceLaunchJson at h
  split at h
  · exact absurd h (invalid_ne_ok _ _)
  · rw [hparse] at h
    obtain ⟨parsed, hparsed, h⟩ := bind_ok h
    refine ⟨parsed, hparsed, ?_⟩
    unfold acceptParsed at h
    split at h
    · exact absurd h (invalid_ne_ok _ _)
    split at h
    · exact absurd h (invalid_ne_ok _ _)
    split at h
    · cases h
    split at h
    · exact absurd h (invalid_ne_ok _ _)
    · cases h
      exact ⟨by funext f; cases f <;> rfl, by funext f; cases f <;> rfl⟩

/-- The document is read back as the fields it was made of. -/
theorem request_of_document (hjson : json.RoundTrips)
    (hint : ∀ f, 0 ≤ fields.integers f ∧ fields.integers f < 2 ^ 63)
    (hplace : 0 < fields.integers .placeId) (hdump : json.dump (.object (requestDocument fields)) = some text)
    (h : parseRobloxExperienceLaunchJson json text = .ok request) :
    (∀ f, request.integer f = fields.integers f) ∧ ∀ f, f ≠ .request → request.string f = fields.strings f := by
  have hplain := requestDocument_plain hjson hint hdump
  have hparse := hjson.parse_dump _ text (requestDocument_ordered fields) hplain hdump
  obtain ⟨parsed, hparsed, hi, hs⟩ := parseLaunchJson_ok hparse h
  obtain ⟨hints, hstrings⟩ := readMembers_ok hparsed
  rw [hi, hs]
  constructor
  · intro f
    have hf := hints f
    have hrange := hint f
    rw [readOptionalInteger, findMember_reread, requestDocument_integer fields f hplace] at hf
    by_cases hpos : 0 < fields.integers f
    · rw [if_pos hpos] at hf
      simp only [Option.map_some, reread] at hf
      rw [if_neg (by omega)] at hf
      have := Except.ok.inj hf
      omega
    · rw [if_neg hpos] at hf
      have := Except.ok.inj hf
      omega
  · intro f hne
    have hf := hstrings f hne
    rw [readOptionalString, findMember_reread, requestDocument_string fields hne] at hf
    by_cases hempty : fields.strings f = []
    · rw [if_neg (by simpa using hempty)] at hf
      rw [hempty]
      exact (Except.ok.inj hf).symm
    · rw [if_pos hempty] at hf
      simp only [Option.map_some, reread] at hf
      split at hf
      · exact absurd hf (invalid_ne_ok _ _)
      · exact (Except.ok.inj hf).symm

/-! ## What the checks leave -/

theorem isRequest_eq {fields other : LaunchFields} (h : other.strings .request = fields.strings .request) (name : String) :
    isRequest other name = isRequest fields name := by
  rw [isRequest, isRequest, h]

theorem isRequest_other {a b : String} (h : isRequest fields a = true) (hab : ascii a ≠ ascii b) :
    isRequest fields b = false := by
  rw [isRequest, beq_iff_eq] at h
  rw [isRequest, h]
  exact beq_false_of_ne hab

theorem request_ne_nil {a : String} (h : isRequest fields a = true) (ha : ascii a ≠ []) :
    fields.strings .request ≠ [] := by
  intro he
  rw [isRequest, he, beq_iff_eq] at h
  exact ha h.symm

/-- The request types of `ValidateSelector` with what each requires. -/
theorem validateSelector_ok (h : validateSelector fields = .ok ()) :
    (selectors fields).count true ≤ 1 ∧
    (isRequest fields "requestgame" = true → (selectors fields).count true = 0) ∧
    (isRequest fields "requestgamejob" = true → fields.strings .gameInstanceId ≠ []) ∧
    (isRequest fields "requestprivategame" = true →
      privateJoin fields = true ∨ fields.strings .reservedServerAccessCode ≠ []) ∧
    (isRequest fields "requestplaytogethergame" = true → 0 < fields.integers .conversationId) ∧
    (isRequest fields "requestfollowuser" = true → 0 < fields.integers .placeId) := by
  -- a test of the chain that is reached and taken
  have htest : ∀ {c : Prop} [Decidable c] {message : String},
      (if c then (.ok () : Result Unit) else invalid message) = .ok () → c := by
    intro c _ message he
    by_contra hc
    rw [if_neg hc] at he
    exact absurd he (invalid_ne_ok _ _)
  unfold validateSelector at h
  simp only at h
  split at h
  · exact absurd h (invalid_ne_ok _ _)
  rename_i hcount
  refine ⟨by omega, fun hr => ?_, fun hr => ?_, fun hr => ?_, fun hr => ?_, fun hr => ?_⟩
  · rw [if_neg (request_ne_nil hr (by decide)), if_pos hr] at h
    exact htest h
  · rw [if_neg (request_ne_nil hr (by decide)), isRequest_other hr (by decide), if_neg (by decide), if_pos hr] at h
    exact htest h
  · rw [if_neg (request_ne_nil hr (by decide)), @isRequest_other _ _ "requestgame" hr (by decide), if_neg (by decide),
      @isRequest_other _ _ "requestgamejob" hr (by decide), if_neg (by decide), if_pos hr] at h
    exact htest h
  · rw [if_neg (request_ne_nil hr (by decide)), @isRequest_other _ _ "requestgame" hr (by decide), if_neg (by decide),
      @isRequest_other _ _ "requestgamejob" hr (by decide), if_neg (by decide),
      @isRequest_other _ _ "requestprivategame" hr (by decide), if_neg (by decide), if_pos hr] at h
    exact htest h
  · rw [if_neg (request_ne_nil hr (by decide)), @isRequest_other _ _ "requestgame" hr (by decide), if_neg (by decide),
      @isRequest_other _ _ "requestgamejob" hr (by decide), if_neg (by decide),
      @isRequest_other _ _ "requestprivategame" hr (by decide), if_neg (by decide),
      @isRequest_other _ _ "requestplaytogethergame" hr (by decide), if_neg (by decide), if_pos hr] at h
    exact htest h

/-- The place is the one given, or the one a followed user without a given place is in. -/
theorem resolveFields_ok {fields final : LaunchFields} (h : resolveFields host fields = .ok final) :
    (0 < fields.integers .placeId ∧ final = fields) ∨
    (fields.integers .placeId ≤ 0 ∧ isRequest fields "requestfollowuser" = true ∧ 0 < fields.integers .userId ∧
      ∃ place, host.presence (fields.integers .userId) = .ok place ∧ final.integers .placeId = place.placeId ∧
        final.integers .userId = 0 ∧ (∀ f, f ≠ .placeId → f ≠ .userId → final.integers f = fields.integers f) ∧
        ∀ f, f ≠ .gameInstanceId → final.strings f = fields.strings f) := by
  unfold resolveFields at h
  simp only at h
  by_cases hplace : fields.integers .placeId ≤ 0
  · cases hfollow : isRequest fields "requestfollowuser" with
    | false =>
      rw [if_pos ⟨hplace, hfollow⟩] at h
      exact absurd h (invalid_ne_ok _ _)
    | true =>
      rw [if_neg (by simp [hfollow]), if_pos ⟨hplace, hfollow⟩] at h
      obtain ⟨place, hresolved, h⟩ := bind_ok h
      cases h
      unfold resolveFollowUserPlace at hresolved
      split at hresolved
      · exact absurd hresolved (invalid_ne_ok _ _)
      · rename_i huser
        refine Or.inr ⟨hplace, rfl, by omega, place, hresolved, rfl, rfl, fun f hp hu => ?_, fun f hf => ?_⟩
        · simp [hp, hu]
        · simp [hf]
  · rw [if_neg (fun hh => hplace hh.1), if_neg (fun hh => hplace hh.1)] at h
    cases h
    exact Or.inl ⟨by omega, rfl⟩

theorem selectors_congr {fields other : LaunchFields} (hint : ∀ f, other.integers f = fields.integers f)
    (hstring : ∀ f, f ≠ .request → f ≠ .launchData → other.strings f = fields.strings f) :
    selectors other = selectors fields := by
  simp only [selectors, privateJoin, hint, hstring .accessCode (by decide) (by decide),
    hstring .linkCode (by decide) (by decide), hstring .gameInstanceId (by decide) (by decide),
    hstring .reservedServerAccessCode (by decide) (by decide)]

/-- A request that was made: the fields after resolution pass the checks and are the request's. -/
theorem makeRequest_ok (hjson : host.json.RoundTrips)
    (hint : ∀ f, 0 ≤ fields.integers f ∧ fields.integers f < 2 ^ 63)
    (h : makeRequest host fields = .ok request) :
    ∃ final, resolveFields host fields = .ok final ∧ validateSelector final = .ok () ∧
      (∀ f, request.integer f = final.integers f) ∧ ∀ f, f ≠ .request → request.string f = final.strings f := by
  obtain ⟨final, hresolve, h⟩ := bind_ok h
  obtain ⟨⟨⟩, hvalid, h⟩ := bind_ok h
  refine ⟨final, hresolve, hvalid, ?_⟩
  -- the place is positive whether it was given or resolved
  have hfinal : 0 < final.integers .placeId ∧ ∀ f, 0 ≤ final.integers f ∧ final.integers f < 2 ^ 63 := by
    rcases resolveFields_ok hresolve with ⟨hplace, rfl⟩ | ⟨-, hfollow, -, place, -, hp, hu, hi, hs⟩
    · exact ⟨hplace, hint⟩
    · have hpos : 0 < final.integers .placeId :=
        (validateSelector_ok hvalid).2.2.2.2.2 ((isRequest_eq (hs .request (by decide)) _).trans hfollow)
      refine ⟨hpos, fun f => ?_⟩
      by_cases hf : f = .placeId
      · subst hf
        have := place.placeId_lt
        omega
      · by_cases hf' : f = .userId
        · subst hf'
          omega
        · rw [hi f hf hf']
          exact hint f
  cases hdump : host.json.dump (.object (requestDocument final)) with
  | none =>
    rw [hdump] at h
    cases h
  | some text =>
    rw [hdump] at h
    exact request_of_document hjson hfinal.2 hfinal.1 hdump h

/-- An accepted input is consistent with its request exactly if it is no RequestFollowUser
that names a place other than the one its user is in. -/
theorem launch_consistent_iff {host : LaunchHost} (hjson : host.json.RoundTrips) {input : LaunchInput}
    {request : ExperienceLaunchRequest} (h : parseLaunch host input = .ok request) :
    ∃ pairs, suppliedPairs host input = some pairs ∧ (Consistent host pairs request ↔ FollowsPresence host pairs) := by
  obtain ⟨pairs, m, fields, hpairs, hassign, hmake⟩ := parseLaunch_ok h
  refine ⟨pairs, hpairs, ?_⟩
  obtain ⟨hints, hstrings, hgiven⟩ := fields_supplied hassign
  obtain ⟨final, hresolve, hvalid, hri, hrs⟩ := makeRequest_ok hjson (fun f => (hints f).2) hmake
  obtain ⟨hcount, hgame, hjob, hprivate, htogether, -⟩ := validateSelector_ok hvalid
  have hselectors : selectors (requestFields request) = selectors final :=
    selectors_congr hri fun f hf _ => hrs f hf
  have hsupplied : selectors (suppliedFields pairs) = selectors fields :=
    selectors_congr (fun f => ((hints f).1).symm) fun f _ hf => (hstrings f hf).symm
  have htype : ∀ name, isRequest (suppliedFields pairs) name = isRequest fields name :=
    isRequest_eq (hstrings .request (by decide)).symm
  rcases resolveFields_ok hresolve with ⟨hplace, rfl⟩ | ⟨hplace, hfollow, huser, place, hpresence, hp, -, -, -⟩
  · -- a given place is the place joined
    have hjoined : request.placeId = final.integers .placeId := hri .placeId
    constructor
    · intro hc hr
      obtain ⟨huser, place, hpresence, hplaceId⟩ := hc.followUser hr
      exact Or.inr ⟨huser, place, hpresence, by rw [← hplaceId, hjoined, (hints .placeId).1]⟩
    · intro hf
      refine ⟨hselectors ▸ hcount, fun hr => ?_, fun hr => ?_, fun hr => ?_, fun hr => ?_, fun hr => ?_⟩
      · rw [hsupplied]
        exact hgame (htype _ ▸ hr)
      · rw [← hstrings .gameInstanceId (by decide)]
        exact hjob (htype _ ▸ hr)
      · have hj : privateJoin (suppliedFields pairs) = privateJoin final := by
          rw [privateJoin, privateJoin, hstrings .accessCode (by decide), hstrings .linkCode (by decide)]
        rw [hj, ← hstrings .reservedServerAccessCode (by decide)]
        exact hprivate (htype _ ▸ hr)
      · rw [← (hints .conversationId).1]
        exact htogether (htype _ ▸ hr)
      · rcases hf hr with hnone | ⟨huser, place, hpresence, hplaceId⟩
        · have habsent : (suppliedFields pairs).integers .placeId = 0 := by simp [suppliedFields, hnone]
          have := (hints .placeId).1
          omega
        · exact ⟨huser, place, hpresence, by rw [hjoined, hplaceId, (hints .placeId).1]⟩
  · -- the place of the followed user is the place joined
    have hno : ∀ name, ascii "requestfollowuser" ≠ ascii name → isRequest (suppliedFields pairs) name = true → False := by
      intro name hne hr
      rw [htype, isRequest_other hfollow hne] at hr
      cases hr
    have hjoined : request.placeId = place.placeId := (hri .placeId).trans hp
    have hnone : supplied pairs (.integer .placeId) = none := by
      by_contra hsome
      have := hgiven hsome
      omega
    constructor
    · exact fun _ _ => Or.inl hnone
    · intro _
      refine ⟨hselectors ▸ hcount, fun hr => (hno _ (by decide) hr).elim, fun hr => (hno _ (by decide) hr).elim,
        fun hr => (hno _ (by decide) hr).elim, fun hr => (hno _ (by decide) hr).elim, fun _ => ?_⟩
      rw [← (hints .userId).1]
      exact ⟨huser, place, hpresence, hjoined⟩

/-- A host whose every user is in one place, and that writes its document. -/
def everyoneIn1818 : LaunchHost where
  json := oneFlatDocument (ascii "\x7b\"placeId\":1818\x7d") [(ascii "placeId", .integer 1818)] fun _ => none
  curl _ := none
  presence _ := .ok ⟨1818, [], by decide⟩

theorem everyoneIn1818_roundTrips : everyoneIn1818.json.RoundTrips := by
  refine oneFlatDocument_roundTrips _ _ fun m hm => ?_
  obtain rfl := List.mem_singleton.mp hm
  exact ⟨by decide, by decide⟩

theorem launch_consistent_follow :
    ∃ pairs, suppliedPairs everyoneIn1818 (.uri (ascii "roblox://experiences/start?userId=7&request=RequestFollowUser")) =
        some pairs ∧
      (Consistent everyoneIn1818 pairs { placeId := 1818, canonicalJson := ascii "\x7b\"placeId\":1818\x7d" } ↔
        FollowsPresence everyoneIn1818 pairs) :=
  launch_consistent_iff everyoneIn1818_roundTrips (by decide +kernel)

/-- RequestFollowUser with a place and no user is accepted. -/
theorem follow_without_user :
    parseLaunch everyoneIn1818 (.uri (ascii "roblox://experiences/start?placeId=1818&request=RequestFollowUser")) =
      .ok { placeId := 1818, canonicalJson := ascii "\x7b\"placeId\":1818\x7d" } ∧
    suppliedPairs everyoneIn1818 (.uri (ascii "roblox://experiences/start?placeId=1818&request=RequestFollowUser")) =
      some [(ascii "placeId", ascii "1818"), (ascii "request", ascii "RequestFollowUser")] ∧
    ¬ Consistent everyoneIn1818 [(ascii "placeId", ascii "1818"), (ascii "request", ascii "RequestFollowUser")]
      { placeId := 1818, canonicalJson := ascii "\x7b\"placeId\":1818\x7d" } := by
  refine ⟨by decide +kernel, by decide +kernel, fun hc => ?_⟩
  exact absurd (hc.followUser (by decide +kernel)).1 (by decide +kernel)

end Mocktail.Launch
