/-
  Mocktail.Launch.PlayerUris — roblox-player URIs against each other and against the
  WebView's launchGame command.

  - `tickets_never_matter`: URIs that differ only in the values of outer fields the parser
    does not know, the authentication ticket among them, have the same outcome.
  - `browser_agrees_with_webView`: parameters that are percent-encoded into a PlaceLauncher
    URL, and that URL into an outer field, are accepted exactly when a launchGame command
    with the same strings is, and the requests are equal.

  Both follow the text outside in. A separator never occurs in an encoded piece, so each
  split gives back the pieces (`cut_append`, `List.splitOn_intercalate`), and decoding gives
  back their content (`percentDecode_encode`). JSON objects are ordered by key, queries are
  not: `assignPairs_perm` says that the order of the assignments does not matter.
-/

import Mathlib.Data.List.Forall2
import Mocktail.Launch.Uri

namespace Mocktail.Launch

open Mocktail.Lib

theorem cut_append {separator : UInt8} {front : Text} (back : Text) (h : separator ∉ front) :
    cut separator (front ++ separator :: back) = some (front, back) := by
  induction front with
  | nil => simp [cut]
  | cons b front ih =>
    simp only [List.mem_cons, not_or] at h
    rw [List.cons_append, cut, if_neg (Ne.symm h.1), ih h.2]
    rfl

variable {b : UInt8}

/-- A text that is all letters in lower case has only bytes of it, or their capitals. -/
theorem not_mem_of_asciiLower {value lower : Text} (h : asciiLower value = lower) (hb : lowerByte b ∉ lower) :
    b ∉ value := by
  intro hm
  apply hb
  rw [← h]
  exact List.mem_map_of_mem hm

/-! ## Tickets -/

/-- Equal outer fields, or fields of one key the parser does not know with any values. -/
inductive SameOuterField : Text → Text → Prop where
  | same (field : Text) : SameOuterField field field
  | metadata {key : Text} (value value' : Text) (colon : 0x3a ∉ key) (mode : asciiLower key ≠ ascii "launchmode")
      (url : asciiLower key ≠ ascii "placelauncherurl") : SameOuterField (key ++ 0x3a :: value) (key ++ 0x3a :: value')

/-- The outer fields of a URI. -/
def outerFields (uri : Text) : List Text :=
  match cut 0x3a uri with
  | none => []
  | some (_, payload) => payload.splitOn 0x2b

/-- Two roblox-player URIs whose outer fields, which have no plus sign, differ in unknown values only. -/
structure SameButTickets (uri uri' : Text) : Prop where
  scheme : ∃ scheme payload payload', asciiLower scheme = ascii "roblox-player" ∧ uri = scheme ++ 0x3a :: payload ∧
    uri' = scheme ++ 0x3a :: payload'
  fields : List.Forall₂ SameOuterField (outerFields uri) (outerFields uri')

/-- Within the limits of the parser. -/
structure WithinLimits (uri : Text) : Prop where
  size : uri.length ≤ kMaximumRobloxLaunchUriBytes
  controls : containsControlBytes uri = false
  utf8 : Utf8.WellFormed uri
  fields : ∀ field ∈ outerFields uri, field.length ≤ kMaximumParameterKeyBytes + 1 + kMaximumParameterValueBytes

theorem scanKeyed_same {field field' : Text} (h : SameOuterField field field') (scan : ClassicScan) :
    scanKeyed field scan = scanKeyed field' scan := by
  cases h with
  | same field => rfl
  | metadata value value' colon mode url =>
    unfold scanKeyed
    rw [cut_append value colon, cut_append value' colon]
    simp only [if_neg mode, if_neg url]

theorem scanField_same {field field' : Text} (h : SameOuterField field field')
    (hl : field.length ≤ kMaximumParameterKeyBytes + 1 + kMaximumParameterValueBytes)
    (hl' : field'.length ≤ kMaximumParameterKeyBytes + 1 + kMaximumParameterValueBytes) (scan : ClassicScan) :
    scanField field scan = scanField field' scan := by
  unfold scanField
  rw [if_neg (Nat.not_lt.mpr hl), if_neg (Nat.not_lt.mpr hl')]
  simp only [scanKeyed_same h]
  -- a field with a colon is no version
  have hversion : field = ascii "1" ↔ field' = ascii "1" := by
    cases h with
    | same field => rfl
    | metadata value value' colon mode url =>
      have hcolon : ∀ key v : Text, key ++ 0x3a :: v ≠ ascii "1" := by
        intro key v he
        have hm : (0x3a : UInt8) ∈ key ++ 0x3a :: v := by simp
        rw [he] at hm
        exact absurd hm (by decide)
      exact ⟨fun he => absurd he (hcolon _ _), fun he => absurd he (hcolon _ _)⟩
  simp only [ne_eq, hversion]

theorem scanFields_same {fields fields' : List Text} (h : List.Forall₂ SameOuterField fields fields')
    (hl : ∀ field ∈ fields, field.length ≤ kMaximumParameterKeyBytes + 1 + kMaximumParameterValueBytes)
    (hl' : ∀ field ∈ fields', field.length ≤ kMaximumParameterKeyBytes + 1 + kMaximumParameterValueBytes)
    (scan : ClassicScan) : scanFields fields scan = scanFields fields' scan := by
  induction h generalizing scan with
  | nil => rfl
  | cons hfield hrest ih =>
    simp only [scanFields]
    rw [scanField_same hfield (hl _ (by simp)) (hl' _ (by simp))]
    refine congrArg _ (funext fun next => ?_)
    exact ih (fun f hf => hl f (by simp [hf])) (fun f hf => hl' f (by simp [hf])) next

/-- Only the empty payload has the empty field as its only one. -/
theorem empty_of_same {payload payload' : Text}
    (h : List.Forall₂ SameOuterField (payload.splitOn 0x2b) (payload'.splitOn 0x2b)) (he : payload = []) : payload' = [] := by
  subst he
  rw [List.splitOn_nil] at h
  have hjoin : [0x2b].intercalate (payload'.splitOn 0x2b) = payload' := List.intercalate_splitOn _
  generalize payload'.splitOn 0x2b = fields at h hjoin
  cases h with
  | cons hfield hrest =>
    cases hrest
    generalize hx : ([] : Text) = field at hfield
    cases hfield with
    | same _ =>
      subst hx
      rw [← hjoin]
      rfl
    | metadata value value' colon mode url => simp at hx

theorem SameOuterField.symm {field field' : Text} (h : SameOuterField field field') : SameOuterField field' field := by
  cases h with
  | same field => exact .same field
  | metadata value value' colon mode url => exact .metadata value' value colon mode url

theorem classicLauncherUrl_same {payload payload' : Text}
    (h : List.Forall₂ SameOuterField (payload.splitOn 0x2b) (payload'.splitOn 0x2b))
    (hl : ∀ field ∈ payload.splitOn 0x2b, field.length ≤ kMaximumParameterKeyBytes + 1 + kMaximumParameterValueBytes)
    (hl' : ∀ field ∈ payload'.splitOn 0x2b, field.length ≤ kMaximumParameterKeyBytes + 1 + kMaximumParameterValueBytes) :
    classicLauncherUrl payload = classicLauncherUrl payload' := by
  have hempty : payload = [] ↔ payload' = [] :=
    ⟨empty_of_same h, empty_of_same (h.flip.imp fun _ _ hf => hf.symm)⟩
  unfold classicLauncherUrl
  rw [scanFields_same h hl hl']
  simp only [hempty]

theorem roblox_player_no_colon {scheme : Text} (h : asciiLower scheme = ascii "roblox-player") : 0x3a ∉ scheme :=
  not_mem_of_asciiLower h (by decide)

/-- A URI within the limits is read by `ParseClassic`. -/
theorem readLaunchUri_classic (host : LaunchHost) {scheme payload : Text}
    (hscheme : asciiLower scheme = ascii "roblox-player")
    (hsize : (scheme ++ 0x3a :: payload).length ≤ kMaximumRobloxLaunchUriBytes)
    (hcontrol : containsControlBytes (scheme ++ 0x3a :: payload) = false)
    (hutf8 : Utf8.WellFormed (scheme ++ 0x3a :: payload)) :
    readLaunchUri host (scheme ++ 0x3a :: payload) = parseClassic host payload {} := by
  have hne : scheme ≠ [] := by
    intro heq
    subst heq
    exact absurd hscheme (by decide)
  unfold readLaunchUri
  rw [if_neg, cut_append payload (roblox_player_no_colon hscheme)]
  · simp only
    rw [if_neg hne, if_pos hscheme]
  · rw [isValidUtf8_iff.mpr hutf8, hcontrol]
    intro hor
    rcases hor with h | h | h | h
    · exact absurd h (by simp)
    · omega
    · cases h
    · cases h

/-- The values of outer fields the parser does not know reach neither status nor request. -/
theorem tickets_never_matter (host : LaunchHost) {uri uri' : Text} (h : SameButTickets uri uri') (hl : WithinLimits uri)
    (hl' : WithinLimits uri') : parseRobloxLaunchUri host uri = parseRobloxLaunchUri host uri' := by
  obtain ⟨scheme, payload, payload', hscheme, rfl, rfl⟩ := h.scheme
  have hcolon := roblox_player_no_colon hscheme
  have hfields := h.fields
  have hlimit := hl.fields
  have hlimit' := hl'.fields
  simp only [outerFields, cut_append _ hcolon] at hfields hlimit hlimit'
  unfold parseRobloxLaunchUri
  rw [readLaunchUri_classic host hscheme hl.size hl.controls hl.utf8,
    readLaunchUri_classic host hscheme hl'.size hl'.controls hl'.utf8]
  unfold parseClassic
  rw [classicLauncherUrl_same hfields hlimit hlimit']

/-- libcurl on https URLs without user, port and fragment. -/
def plainCurl (url : Text) : Option CurlUrl :=
  if url.take 8 = ascii "https://" then
    match cut 0x2f (url.drop 8) with
    | none => none
    | some (hostName, rest) =>
      match cut 0x3f rest with
      | none => none
      | some (path, query) =>
        some { scheme := some (ascii "https"), host := some hostName, path := some (0x2f :: path), query := some query }
  else none

/-- A host that writes the document of place 1818 and reads some commands. -/
def place1818 (commands : Text → Option Json) : LaunchHost where
  json := oneFlatDocument (ascii "\x7b\"placeId\":1818\x7d") [(ascii "placeId", .integer 1818)] commands
  curl := plainCurl
  presence _ := invalid "Roblox presence lookup requires an authenticated session"

/-- The outer field of a launch of place 1818. -/
def launcherField : Text :=
  ascii "placelauncherurl:https%3A%2F%2Fwww.roblox.com%2Fgame%2FPlaceLauncher.ashx%3Frequest%3DRequestGame%26placeId%3D1818"

def ticketUri (ticket : Text) : Text :=
  ascii "roblox-player" ++ 0x3a :: (ascii "1+launchmode:play+gameinfo:" ++ ticket ++ 0x2b :: launcherField)

theorem tickets_never_matter_demo :
    parseRobloxLaunchUri (place1818 fun _ => none) (ticketUri (ascii "secret")) =
      parseRobloxLaunchUri (place1818 fun _ => none) (ticketUri (ascii "other")) ∧
    parseRobloxLaunchUri (place1818 fun _ => none) (ticketUri (ascii "other")) =
      .ok { placeId := 1818, canonicalJson := ascii "\x7b\"placeId\":1818\x7d" } := by
  have hall : ∀ ticket ∈ [ascii "secret", ascii "other"],
      outerFields (ticketUri ticket) =
        [ascii "1", ascii "launchmode:play", ascii "gameinfo" ++ 0x3a :: ticket, launcherField] ∧
      (ticketUri ticket).length ≤ kMaximumRobloxLaunchUriBytes ∧ containsControlBytes (ticketUri ticket) = false ∧
      isValidUtf8 (ticketUri ticket) = true ∧ ∀ field ∈ outerFields (ticketUri ticket),
        field.length ≤ kMaximumParameterKeyBytes + 1 + kMaximumParameterValueBytes := by decide +kernel
  obtain ⟨hs, hsize, hc, hw, hl⟩ := hall (ascii "secret") (by simp)
  obtain ⟨ho, hsize', hc', hw', hl'⟩ := hall (ascii "other") (by simp)
  refine ⟨tickets_never_matter _ ⟨⟨ascii "roblox-player", _, _, by decide, rfl, rfl⟩, ?_⟩
    ⟨hsize, hc, isValidUtf8_iff.mp hw, hl⟩ ⟨hsize', hc', isValidUtf8_iff.mp hw', hl'⟩, by decide +kernel⟩
  rw [hs, ho]
  exact .cons (.same _) (.cons (.same _) (.cons (.metadata _ _ (by decide) (by decide) (by decide)) (.cons (.same _) .nil)))

/-! ## The order of the assignments -/

theorem toOption_bind {α β : Type} (x : Result α) (f : α → Result β) :
    (x >>= f).toOption = x.toOption.bind fun a => (f a).toOption := by
  cases x <;> rfl

theorem toOption_map {α β : Type} (x : Result α) (f : α → β) : (x.map f).toOption = x.toOption.map f := by
  cases x <;> rfl

variable {field : LaunchField}

/-- An assignment as an option: nothing of it depends on another field. -/
theorem assignField_toOption {key : Text} (value : Text) (m : Bool) (fields : LaunchFields)
    (hkey : launchFieldOf key = some field) (hsize : ¬ (key = [] ∨ kMaximumParameterKeyBytes < key.length)) :
    (assignField key value m fields).toOption =
      if fields.seenFields field then none else (fieldValue m field value).toOption.map (fields.put field) := by
  rw [assignField_eq, if_neg hsize, hkey]
  simp only
  split
  · rfl
  · exact toOption_map _ _

theorem assign_swap (m : Bool) (a b : Text × Text) (fields : LaunchFields) :
    (assignField a.1 a.2 m fields >>= assignField b.1 b.2 m).toOption =
      (assignField b.1 b.2 m fields >>= assignField a.1 a.2 m).toOption := by
  have hbad : ∀ c : Text × Text, (c.1 = [] ∨ kMaximumParameterKeyBytes < c.1.length) → ∀ fields,
      (assignField c.1 c.2 m fields).toOption = none := by
    intro c hc fields
    rw [assignField_eq, if_pos hc]
    rfl
  have hignored : ∀ c : Text × Text, ¬ (c.1 = [] ∨ kMaximumParameterKeyBytes < c.1.length) → launchFieldOf c.1 = none →
      ∀ fields, (assignField c.1 c.2 m fields).toOption = some fields := by
    intro c hc hnone fields
    rw [assignField_eq, if_neg hc, hnone]
    rfl
  rw [toOption_bind, toOption_bind]
  by_cases ha : a.1 = [] ∨ kMaximumParameterKeyBytes < a.1.length
  · simp [hbad a ha]
  by_cases hb : b.1 = [] ∨ kMaximumParameterKeyBytes < b.1.length
  · simp [hbad b hb]
  cases hka : launchFieldOf a.1 with
  | none => simp [hignored a ha hka]
  | some f =>
    cases hkb : launchFieldOf b.1 with
    | none => simp [hignored b hb hkb]
    | some g =>
      simp only [assignField_toOption a.2 m _ hka ha, assignField_toOption b.2 m _ hkb hb]
      by_cases hfg : f = g
      · -- whichever comes second is a repetition
        subst hfg
        by_cases hseen : fields.seenFields f = true
        · simp [hseen]
        · cases (fieldValue m f a.2).toOption <;> cases (fieldValue m f b.2).toOption <;>
            simp [hseen, LaunchFields.put]
      · have hf : ∀ y, (fields.put g y).seenFields f = fields.seenFields f := fun y => if_neg hfg
        have hg : ∀ x, (fields.put f x).seenFields g = fields.seenFields g := fun x => if_neg (Ne.symm hfg)
        cases (fieldValue m f a.2).toOption with
        | none =>
          cases (fieldValue m g b.2).toOption with
          | none => simp
          | some y => by_cases hsg : fields.seenFields g = true <;> simp [hsg]
        | some x =>
          cases (fieldValue m g b.2).toOption with
          | none => by_cases hsf : fields.seenFields f = true <;> simp [hsf]
          | some y =>
            by_cases hsf : fields.seenFields f = true
            · by_cases hsg : fields.seenFields g = true <;> simp [hsf, hsg, hf]
            · by_cases hsg : fields.seenFields g = true <;> simp [hsf, hsg, hf, hg, put_comm fields hfg]

theorem assignPairs_perm {m : Bool} {pairs pairs' : List (Text × Text)} (h : pairs.Perm pairs') (fields : LaunchFields) :
    (assignPairs m pairs fields).toOption = (assignPairs m pairs' fields).toOption := by
  induction h generalizing fields with
  | nil => rfl
  | cons pair _ ih =>
    simp only [assignPairs, toOption_bind]
    exact congrArg _ (funext fun next => ih next)
  | swap a b rest =>
    have hswap := congrArg (fun o => o.bind fun next => (assignPairs m rest next).toOption) (assign_swap m a b fields)
    simp only [toOption_bind, Option.bind_assoc] at hswap
    simp only [assignPairs, toOption_bind]
    exact hswap.symm
  | trans _ _ ih1 ih2 => exact (ih1 fields).trans (ih2 fields)

/-! ## A launch as a URI -/

def encodePair (e : PercentEncoder) (pair : Text × Text) : Text := e.encode pair.1 ++ 0x3d :: e.encode pair.2

def launcherQuery (e : PercentEncoder) (pairs : List (Text × Text)) : Text := [0x26].intercalate (pairs.map (encodePair e))

def placeLauncherUrl (hostName : String) (query : Text) : Text :=
  ascii "https://" ++ ascii hostName ++ ascii "/game/PlaceLauncher.ashx?" ++ query

theorem length_le_placeLauncherUrl (hostName : String) (query : Text) :
    query.length ≤ (placeLauncherUrl hostName query).length := by
  rw [placeLauncherUrl, List.length_append]
  omega

/-- The URI of a PlaceLauncher URL. -/
def playerUri (e : PercentEncoder) (launcherUrl : Text) : Text :=
  ascii "roblox-player" ++ 0x3a :: (ascii "1" ++ 0x2b :: (ascii "launchmode:play" ++ 0x2b ::
    (ascii "placelauncherurl" ++ 0x3a :: e.encode launcherUrl)))

theorem playerUri_eq (e : PercentEncoder) (launcherUrl : Text) :
    playerUri e launcherUrl = ascii "roblox-player:1+launchmode:play+placelauncherurl:" ++ e.encode launcherUrl := by
  have hfront : ascii "roblox-player:1+launchmode:play+placelauncherurl:" =
      ascii "roblox-player" ++ 0x3a :: (ascii "1" ++ 0x2b :: (ascii "launchmode:play" ++ 0x2b ::
        (ascii "placelauncherurl" ++ [0x3a]))) := by simp [ascii]
  rw [hfront]
  simp only [playerUri, List.append_assoc, List.cons_append, List.nil_append]

/-- Strings for recognised launch field names, the request type among them. -/
structure LaunchParameters where
  pairs : List (Text × Text)
  names_nodup : (pairs.map (·.1)).Nodup
  recognised : ∀ pair ∈ pairs, ∃ field, launchFieldOf pair.1 = some field
  controls : ∀ pair ∈ pairs, containsControlBytes pair.2 = false
  utf8 : ∀ pair ∈ pairs, Utf8.WellFormed pair.2
  requestType : ∃ pair ∈ pairs, launchFieldOf pair.1 = some (.string .request) ∧ pair.2 ≠ []

theorem launchFieldOf_letters {key : Text} (h : launchFieldOf key = some field) :
    key ≠ [] ∧ key.length ≤ kMaximumParameterKeyBytes ∧ ∀ b ∈ key, 0x41 ≤ b.toNat ∧ b.toNat ≤ 0x7a := by
  obtain ⟨entry, hfind, -⟩ := Option.map_eq_some_iff.mp h
  have hmem := List.mem_of_find?_eq_some hfind
  have heq : ascii entry.1 = asciiLower key := by simpa using List.find?_some hfind
  have htable : ∀ entry ∈ kLaunchKeys, ascii entry.1 ≠ [] ∧ (ascii entry.1).length ≤ kMaximumParameterKeyBytes ∧
      (ascii entry.1).all fun b => 0x61 ≤ b.toNat ∧ b.toNat ≤ 0x7a := by decide
  obtain ⟨hne, hlen, hletters⟩ := htable entry hmem
  have hbytes := List.all_iff_forall_prop.mp hletters
  rw [heq] at hne hlen hbytes
  refine ⟨fun he => hne (by rw [he]; rfl), by simpa [asciiLower] using hlen, fun b hb => ?_⟩
  have hlower := hbytes (lowerByte b) (List.mem_map_of_mem hb)
  unfold lowerByte at hlower
  split at hlower
  · omega
  · omega

theorem ascii_text {t : Text} (h : ∀ b ∈ t, 0x20 ≤ b.toNat ∧ b.toNat < 0x7f) :
    containsControlBytes t = false ∧ Utf8.WellFormed t := by
  constructor
  · rw [containsControlBytes, List.any_eq_false]
    intro b hb
    have := h b hb
    have h7f : b ≠ 0x7f := by
      intro heq
      subst heq
      exact absurd this.2 (by decide)
    simp [isControlByte, h7f]
    omega
  · exact Utf8.wellFormed_ascii fun b hb => by have := h b hb; omega

theorem unreserved_printable (h : unreserved b = true ∨ b = 0x25) : 0x20 ≤ b.toNat ∧ b.toNat < 0x7f := by
  rcases h with h | rfl
  · simp only [unreserved, Bool.or_eq_true, decide_eq_true_eq, beq_iff_eq] at h
    omega
  · decide

theorem mem_intercalate {b separator : UInt8} {pieces : List Text} (h : b ∈ [separator].intercalate pieces) :
    b = separator ∨ ∃ piece ∈ pieces, b ∈ piece := by
  induction pieces with
  | nil => simp at h
  | cons piece rest ih =>
    cases rest with
    | nil =>
      rw [List.intercalate_singleton] at h
      exact Or.inr ⟨piece, by simp, h⟩
    | cons next rest =>
      rw [List.intercalate_cons_cons, List.mem_append, List.mem_append, List.mem_singleton] at h
      rcases h with (h | h) | h
      · exact Or.inr ⟨piece, by simp, h⟩
      · exact Or.inl h
      · rcases ih h with h | ⟨piece', hp, hb⟩
        · exact Or.inl h
        · exact Or.inr ⟨piece', List.mem_cons_of_mem _ hp, hb⟩

theorem length_le_intercalate {separator : UInt8} {piece : Text} {pieces : List Text} (h : piece ∈ pieces) :
    piece.length ≤ ([separator].intercalate pieces).length := by
  induction pieces with
  | nil => cases h
  | cons first rest ih =>
    cases rest with
    | nil =>
      obtain rfl := List.mem_singleton.mp h
      rw [List.intercalate_singleton]
    | cons next rest =>
      rw [List.intercalate_cons_cons, List.length_append, List.length_append]
      rcases List.mem_cons.mp h with rfl | h
      · omega
      · have := ih h
        omega

variable {hostName : String} {pair : Text × Text} {host : LaunchHost}

section
variable {e : PercentEncoder}

/-- The bytes of a query: unreserved ones, percent signs and the two separators. -/
def queryByte (b : UInt8) : Bool := unreserved b || b == 0x25 || b == 0x26 || b == 0x3d

theorem mem_encodePair (h : b ∈ encodePair e pair) :
    (unreserved b = true ∨ b = 0x25) ∨ b = 0x3d := by
  rw [encodePair, List.mem_append, List.mem_cons] at h
  rcases h with h | h | h
  · exact Or.inl (mem_encode h)
  · exact Or.inr h
  · exact Or.inl (mem_encode h)

theorem launcherQuery_bytes {pairs : List (Text × Text)} : ∀ b ∈ launcherQuery e pairs, queryByte b = true := by
  intro b hb
  simp only [queryByte, Bool.or_eq_true, beq_iff_eq]
  rcases mem_intercalate hb with rfl | ⟨piece, hp, hb⟩
  · exact Or.inl (Or.inr rfl)
  · obtain ⟨pair, -, rfl⟩ := List.mem_map.mp hp
    rcases mem_encodePair hb with h | h
    · exact Or.inl (Or.inl h)
    · exact Or.inr h

theorem splitOn_launcherQuery {pairs : List (Text × Text)} (h : pairs ≠ []) :
    (launcherQuery e pairs).splitOn 0x26 = pairs.map (encodePair e) := by
  refine List.splitOn_intercalate _ (fun piece hp hm => ?_) (by simpa using h)
  obtain ⟨pair, -, rfl⟩ := List.mem_map.mp hp
  rcases mem_encodePair hm with (h | h) | h <;> exact absurd h (by decide)

/-- One parameter of the query is one assignment. -/
theorem parsePair_encode (m : Bool) (fields : LaunchFields)
    (hkey : launchFieldOf pair.1 = some field) (hc : containsControlBytes pair.2 = false) (hw : Utf8.WellFormed pair.2)
    (hsize : (encodePair e pair).length ≤ kMaximumParameterValueBytes) :
    parsePair m (encodePair e pair) fields = assignField pair.1 pair.2 m fields := by
  obtain ⟨hne, -, hletters⟩ := launchFieldOf_letters hkey
  obtain ⟨hkc, hkw⟩ := ascii_text fun b hb => by
    have := hletters b hb
    omega
  rw [encodePair, List.length_append, List.length_cons] at hsize
  unfold parsePair
  rw [if_neg (by simp [encodePair]), encodePair, cut_append _ (not_mem_encode _ (by decide) (by decide))]
  simp only
  rw [if_neg (encode_ne_nil hne), percentDecode_encode true hkc hkw (by omega), percentDecode_encode true hc hw (by omega)]
  rfl

theorem parsePairs_encode {m : Bool} {pairs : List (Text × Text)} (count : Nat) (fields : LaunchFields)
    (hcount : count + pairs.length ≤ kMaximumParameterCount)
    (hpairs : ∀ pair ∈ pairs, (∃ field, launchFieldOf pair.1 = some field) ∧ containsControlBytes pair.2 = false ∧
      Utf8.WellFormed pair.2 ∧ (encodePair e pair).length ≤ kMaximumParameterValueBytes) :
    parsePairs m count (pairs.map (encodePair e)) fields = assignPairs m pairs fields := by
  induction pairs generalizing count fields with
  | nil => rfl
  | cons pair rest ih =>
    obtain ⟨⟨field, hkey⟩, hc, hw, hsize⟩ := hpairs pair (by simp)
    rw [List.length_cons] at hcount
    rw [List.map_cons, parsePairs, if_neg (by omega), parsePair_encode m fields hkey hc hw hsize, assignPairs]
    refine congrArg _ (funext fun next => ?_)
    exact ih (count + 1) next (by omega) fun p hp => hpairs p (by simp [hp])

/-- libcurl returns the parts of a PlaceLauncher URL as they stand in it. -/
def LaunchHost.KeepsUrlParts (host : LaunchHost) : Prop :=
  ∀ hostName ∈ kPlaceLauncherHosts, ∀ query, query ≠ [] → (∀ b ∈ query, queryByte b = true) →
    host.curl (placeLauncherUrl hostName query) =
      some { scheme := some (ascii "https"), host := some (ascii hostName)
             path := some (ascii "/game/PlaceLauncher.ashx"), query := some query }

theorem placeLauncherUrl_text (hhost : hostName ∈ kPlaceLauncherHosts) {query : Text}
    (hbytes : ∀ b ∈ query, queryByte b = true) :
    containsControlBytes (placeLauncherUrl hostName query) = false ∧ Utf8.WellFormed (placeLauncherUrl hostName query) := by
  have hfront : ∀ name ∈ kPlaceLauncherHosts, (ascii "https://" ++ ascii name ++ ascii "/game/PlaceLauncher.ashx?").all
      fun b => 0x20 ≤ b.toNat ∧ b.toNat < 0x7f := by decide
  refine ascii_text fun b hb => ?_
  rcases List.mem_append.mp hb with hb | hb
  · exact List.all_iff_forall_prop.mp (hfront hostName hhost) b hb
  · have h := hbytes b hb
    simp only [queryByte, Bool.or_eq_true, beq_iff_eq] at h
    rcases h with (h | rfl) | rfl
    · exact unreserved_printable h
    · decide
    · decide

theorem placeLauncherQuery_eq (hcurl : host.KeepsUrlParts)
    (hhost : hostName ∈ kPlaceLauncherHosts) {query : Text} (hne : query ≠ []) (hbytes : ∀ b ∈ query, queryByte b = true)
    (hsize : (placeLauncherUrl hostName query).length ≤ kMaximumRobloxLaunchUriBytes) :
    placeLauncherQuery host (placeLauncherUrl hostName query) = .ok query := by
  obtain ⟨hc, hw⟩ := placeLauncherUrl_text hhost hbytes
  have hallowed : ∀ name ∈ kPlaceLauncherHosts, asciiLower (ascii name) ∈ kPlaceLauncherHosts.map ascii := by decide
  unfold placeLauncherQuery
  rw [if_neg, hcurl hostName hhost query hne hbytes]
  · simp only [getRequiredUrlPart, Except.bind, bind]
    rw [if_neg, if_neg (by decide)]
    intro hor
    rcases hor with h | h | h | h | h | h
    · exact absurd h (by decide)
    · exact h (hallowed hostName hhost)
    · exact absurd h (by decide)
    · cases h
    · cases h
    · cases h
  · rw [hc, isValidUtf8_iff.mpr hw]
    intro hor
    rcases hor with h | h | h | h
    · exact absurd h (by simp [placeLauncherUrl, hne])
    · omega
    · cases h
    · cases h

/-- The outer fields of the URI give back the PlaceLauncher URL. -/
theorem classicLauncherUrl_eq {url : Text} (hc : containsControlBytes url = false) (hw : Utf8.WellFormed url)
    (hsize : (e.encode url).length ≤ kMaximumParameterValueBytes) :
    classicLauncherUrl (ascii "1" ++ 0x2b :: (ascii "launchmode:play" ++ 0x2b ::
      (ascii "placelauncherurl" ++ 0x3a :: e.encode url))) = .ok url := by
  have hlast : 0x2b ∉ ascii "placelauncherurl" ++ 0x3a :: e.encode url := by
    rw [List.mem_append, List.mem_cons, not_or, not_or]
    exact ⟨by decide, by decide, not_mem_encode _ (by decide) (by decide)⟩
  have hkeyed : ∀ scan : ClassicScan, scan.launcherUrl = none →
      scanKeyed (ascii "placelauncherurl" ++ 0x3a :: e.encode url) scan = .ok { scan with launcherUrl := some url } := by
    intro scan hnone
    unfold scanKeyed
    rw [cut_append _ (by decide)]
    simp only
    rw [if_neg (by decide), if_neg (by decide), if_pos (by decide), hnone, if_neg (by decide),
      percentDecode_encode false hc hw hsize]
    rfl
  have hlength : ¬ kMaximumParameterKeyBytes + 1 + kMaximumParameterValueBytes <
      (ascii "placelauncherurl" ++ 0x3a :: e.encode url).length := by
    rw [List.length_append, List.length_cons, show (ascii "placelauncherurl").length = 16 by decide,
      show kMaximumParameterKeyBytes = 128 from rfl]
    omega
  have hthird : scanField (ascii "placelauncherurl" ++ 0x3a :: e.encode url)
      { count := 2, versionSeen := true, launchModeSeen := true } =
      .ok { count := 3, versionSeen := true, launchModeSeen := true, launcherUrl := some url } := by
    unfold scanField
    rw [if_neg (by decide), if_neg hlength]
    simp only [if_true]
    rw [hkeyed _ rfl]
  have hfirst : scanField (ascii "1") {} = .ok { count := 1, versionSeen := true } := by decide +kernel
  have hsecond : scanField (ascii "launchmode:play") { count := 1, versionSeen := true } =
      .ok { count := 2, versionSeen := true, launchModeSeen := true } := by decide +kernel
  unfold classicLauncherUrl
  rw [if_neg (by simp), List.splitOn_append_cons_self_of_not_mem (by decide),
    List.splitOn_append_cons_self_of_not_mem (by decide), List.splitOn_eq_singleton hlast]
  simp only [scanFields, hfirst, hsecond, hthird, Except.bind, bind]
  rfl

theorem readLaunchUri_playerUri (hcurl : host.KeepsUrlParts) {outer inner : PercentEncoder}
    (hhost : hostName ∈ kPlaceLauncherHosts) (parameters : LaunchParameters)
    (hcount : parameters.pairs.length ≤ kMaximumParameterCount)
    (hsize : (outer.encode (placeLauncherUrl hostName (launcherQuery inner parameters.pairs))).length ≤
      kMaximumParameterValueBytes) :
    readLaunchUri host (playerUri outer (placeLauncherUrl hostName (launcherQuery inner parameters.pairs))) =
      (assignPairs false parameters.pairs {} >>= fun fields =>
        if fields.strings .request = [] then invalid "Roblox PlaceLauncher request type is missing" else .ok fields) := by
  have hpairs : parameters.pairs ≠ [] := by
    obtain ⟨pair, hp, -⟩ := parameters.requestType
    exact List.ne_nil_of_mem hp
  have hbytes := @launcherQuery_bytes inner parameters.pairs
  have hsplit := splitOn_launcherQuery (e := inner) hpairs
  have hpieces : ∀ pair ∈ parameters.pairs,
      (encodePair inner pair).length ≤ (launcherQuery inner parameters.pairs).length :=
    fun pair hp => length_le_intercalate (List.mem_map_of_mem hp)
  have hparse : ∀ fields, parsePairs false 0 (parameters.pairs.map (encodePair inner)) fields =
      assignPairs false parameters.pairs fields := by
    intro fields
    refine parsePairs_encode 0 fields (by omega) fun pair hp => ?_
    refine ⟨parameters.recognised pair hp, parameters.controls pair hp, parameters.utf8 pair hp, ?_⟩
    have hurl := length_le_encode (e := outer) (placeLauncherUrl hostName (launcherQuery inner parameters.pairs))
    have hquery := length_le_placeLauncherUrl hostName (launcherQuery inner parameters.pairs)
    have hpiece := hpieces pair hp
    omega
  have hne : launcherQuery inner parameters.pairs ≠ [] := by
    intro he
    rw [he, List.splitOn_nil] at hsplit
    obtain ⟨pair, hp, -⟩ := parameters.requestType
    have hm : encodePair inner pair ∈ ([[]] : List Text) := hsplit ▸ List.mem_map_of_mem hp
    exact absurd (List.mem_singleton.mp hm) (by simp [encodePair])
  generalize launcherQuery inner parameters.pairs = query at hbytes hsplit hne hsize
  obtain ⟨hc, hw⟩ := placeLauncherUrl_text hhost hbytes
  have hurl := length_le_encode (e := outer) (placeLauncherUrl hostName query)
  have hlimits : kMaximumParameterValueBytes + 1024 ≤ kMaximumRobloxLaunchUriBytes := by decide
  have htext : ∀ b ∈ playerUri outer (placeLauncherUrl hostName query), 0x20 ≤ b.toNat ∧ b.toNat < 0x7f := by
    have hfront : ∀ b ∈ ascii "roblox-player:1+launchmode:play+placelauncherurl:", 0x20 ≤ b.toNat ∧ b.toNat < 0x7f := by
      refine List.all_iff_forall_prop.mp ?_
      decide
    intro b hb
    rw [playerUri_eq] at hb
    rcases List.mem_append.mp hb with hb | hb
    · exact hfront b hb
    · exact unreserved_printable (mem_encode hb)
  have hlength : (playerUri outer (placeLauncherUrl hostName query)).length ≤ kMaximumRobloxLaunchUriBytes := by
    have hfront : (ascii "roblox-player:1+launchmode:play+placelauncherurl:").length ≤ 1024 := by decide
    rw [playerUri_eq, List.length_append]
    omega
  obtain ⟨huc, huw⟩ := ascii_text htext
  unfold playerUri at hlength huc huw ⊢
  rw [readLaunchUri_classic host (by decide) hlength huc huw]
  unfold parseClassic parsePlaceLauncherUrl
  rw [classicLauncherUrl_eq hc hw hsize]
  simp only [Except.bind, bind]
  rw [placeLauncherQuery_eq hcurl hhost hne hbytes (by omega)]
  simp only [parseQuery]
  rw [if_neg hne, hsplit, hparse]

end

/-! ## A launch as a command -/

/-- A launchGame command whose request has these members. -/
structure LaunchGameCommand (host : LaunchHost) (command : Text) (members : List (Text × Json)) : Prop where
  size : command.length ≤ kMaximumRobloxLaunchUriBytes
  parsed : ∃ document params, host.json.parse command = some (.object document) ∧
    findMember document (ascii "functionName") = some (.string (ascii "launchGame")) ∧
    findMember document (ascii "params") = some (.object params) ∧
    findMember params (ascii "request") = some (.object members)

/-- A member has its parameter's name; the request type may be called requestType. -/
def Names (key name : Text) : Prop := name = key ∨ (asciiLower key = ascii "request" ∧ name = ascii "requestType")

theorem launchGameMembers_eq {command : Text} {members : List (Text × Json)}
    (h : LaunchGameCommand host command members) (hcount : members.length ≤ kMaximumParameterCount) :
    launchGameMembers host command = .ok members := by
  obtain ⟨document, params, hdoc, hname, hparams, hrequest⟩ := h.parsed
  unfold launchGameMembers
  rw [if_pos h.size, hdoc]
  simp only [hname, hparams, hrequest]
  rw [if_neg (by simp), if_neg (Nat.not_lt.mpr hcount)]

theorem assignMember_string {key name value : Text} (hkey : launchFieldOf key = some field)
    (hname : Names key name) (hc : containsControlBytes value = false) (hsize : value.length ≤ kMaximumParameterValueBytes)
    (fields : LaunchFields) : assignMember (name, .string value) fields = assignField key value false fields := by
  unfold assignMember
  simp only [memberText]
  rw [if_neg (by rw [hc]; simp; omega)]
  rcases hname with rfl | ⟨hlower, rfl⟩
  · have hne : name ≠ ascii "requestType" := by
      intro heq
      subst heq
      exact absurd hkey (by decide +revert)
    rw [if_neg hne]
  · rw [if_pos rfl]
    have hsame : launchFieldOf (ascii "request") = launchFieldOf key := by
      unfold launchFieldOf
      rw [hlower, show asciiLower (ascii "request") = ascii "request" by decide]
    obtain ⟨hne, hlen, -⟩ := launchFieldOf_letters hkey
    rw [assignField_eq, assignField_eq, hsame, if_neg (by decide), if_neg (by simp [hne]; omega)]

theorem assignMembers_strings {named : Text → Text} {order : List (Text × Text)} (fields : LaunchFields)
    (h : ∀ pair ∈ order, (∃ field, launchFieldOf pair.1 = some field) ∧ Names pair.1 (named pair.1) ∧
      containsControlBytes pair.2 = false ∧ pair.2.length ≤ kMaximumParameterValueBytes) :
    assignMembers (order.map fun pair => (named pair.1, .string pair.2)) fields = assignPairs false order fields := by
  induction order generalizing fields with
  | nil => rfl
  | cons pair rest ih =>
    obtain ⟨⟨field, hkey⟩, hname, hc, hsize⟩ := h pair (by simp)
    simp only [List.map_cons, assignMembers, assignPairs]
    rw [assignMember_string hkey hname hc hsize]
    refine congrArg _ (funext fun next => ?_)
    exact ih next fun p hp => h p (by simp [hp])

/-- The strings of a launch fit the command when they fit the URI. -/
theorem value_length {outer inner : PercentEncoder} {pairs : List (Text × Text)}
    (hsize : (outer.encode (placeLauncherUrl hostName (launcherQuery inner pairs))).length ≤ kMaximumParameterValueBytes)
    (hp : pair ∈ pairs) : pair.2.length ≤ kMaximumParameterValueBytes := by
  have hvalue := length_le_encode (e := inner) pair.2
  have hpiece : (encodePair inner pair).length ≤ (launcherQuery inner pairs).length :=
    length_le_intercalate (List.mem_map_of_mem hp)
  have hquery := length_le_placeLauncherUrl hostName (launcherQuery inner pairs)
  have hurl := length_le_encode (e := outer) (placeLauncherUrl hostName (launcherQuery inner pairs))
  rw [encodePair, List.length_append, List.length_cons] at hpiece
  omega

/-- A browser's launch and the WebView's launch with the same strings, in any order, are
both rejected or become equal requests. -/
theorem browser_agrees_with_webView {host : LaunchHost} (hcurl : host.KeepsUrlParts) (outer inner : PercentEncoder)
    {hostName : String} (hhost : hostName ∈ kPlaceLauncherHosts) (parameters : LaunchParameters)
    (hcount : parameters.pairs.length ≤ kMaximumParameterCount)
    (hsize : (outer.encode (placeLauncherUrl hostName (launcherQuery inner parameters.pairs))).length ≤
      kMaximumParameterValueBytes)
    (named : Text → Text) (hnamed : ∀ pair ∈ parameters.pairs, Names pair.1 (named pair.1))
    {order : List (Text × Text)} (horder : order.Perm parameters.pairs) {command : Text}
    (hcommand : LaunchGameCommand host command (order.map fun pair => (named pair.1, .string pair.2))) :
    (parseRobloxLaunchUri host
      (playerUri outer (placeLauncherUrl hostName (launcherQuery inner parameters.pairs)))).toOption =
    (parseRobloxWebViewLaunchGame host command).toOption := by
  have hmembers : ∀ fields, assignMembers (order.map fun pair => (named pair.1, .string pair.2)) fields =
      assignPairs false order fields := by
    refine fun fields => assignMembers_strings fields fun pair hp => ?_
    have hp := horder.mem_iff.mp hp
    exact ⟨parameters.recognised pair hp, hnamed pair hp, parameters.controls pair hp, value_length hsize hp⟩
  have hlength : (order.map fun pair => (named pair.1, Json.string pair.2)).length ≤ kMaximumParameterCount := by
    rw [List.length_map, horder.length_eq]
    exact hcount
  have hperm := assignPairs_perm (m := false) horder {}
  unfold parseRobloxLaunchUri parseRobloxWebViewLaunchGame readWebViewLaunchGame
  rw [readLaunchUri_playerUri hcurl hhost parameters hcount hsize, launchGameMembers_eq hcommand hlength]
  simp only [Except.bind, bind, hmembers]
  cases hu : assignPairs false parameters.pairs {} with
  | error failure =>
    rw [hu] at hperm
    cases hw : assignPairs false order {} with
    | error failure' => rfl
    | ok fields => simp [hw, Except.toOption] at hperm
  | ok fields =>
    rw [hu] at hperm
    cases hw : assignPairs false order {} with
    | error failure' => simp [hw, Except.toOption] at hperm
    | ok fields' =>
      rw [hw] at hperm
      obtain rfl : fields' = fields := by simpa [Except.toOption] using hperm
      by_cases hr : fields'.strings .request = []
      · simp [hr, invalid, Except.toOption]
      · simp [hr]

theorem plainCurl_keepsUrlParts (json : JsonLibrary) (presence : Int → Result ResolvedFollowUserPlace) :
    (LaunchHost.mk json plainCurl presence).KeepsUrlParts := by
  have hhosts : ∀ name ∈ kPlaceLauncherHosts, (0x2f : UInt8) ∉ ascii name := by decide
  intro hostName hhost query _ _
  have hurl : placeLauncherUrl hostName query =
      ascii "https://" ++ (ascii hostName ++ 0x2f :: (ascii "game/PlaceLauncher.ashx" ++ 0x3f :: query)) := by
    simp only [placeLauncherUrl, List.append_assoc]
    rfl
  have htake : (placeLauncherUrl hostName query).take 8 = ascii "https://" := by
    rw [hurl]
    exact List.take_left' (by decide)
  have hdrop : (placeLauncherUrl hostName query).drop 8 =
      ascii hostName ++ 0x2f :: (ascii "game/PlaceLauncher.ashx" ++ 0x3f :: query) := by
    rw [hurl]
    exact List.drop_left' (by decide)
  simp only [plainCurl]
  rw [if_pos htake, hdrop, cut_append _ (hhosts hostName hhost)]
  simp only
  rw [cut_append _ (by decide)]
  rfl

def plainEncoder : PercentEncoder := ⟨unreserved, fun _ h => h⟩

/-- A request for place 1818. -/
def gameParameters : LaunchParameters where
  pairs := [(ascii "request", ascii "RequestGame"), (ascii "placeId", ascii "1818")]
  names_nodup := by decide
  recognised := by
    intro pair hp
    have hall : ∀ pair ∈ [(ascii "request", ascii "RequestGame"), (ascii "placeId", ascii "1818")],
        (launchFieldOf pair.1).isSome = true := by decide
    exact Option.isSome_iff_exists.mp (hall pair hp)
  controls := by decide
  utf8 := by
    intro pair hp
    have hall : ∀ pair ∈ [(ascii "request", ascii "RequestGame"), (ascii "placeId", ascii "1818")],
        isValidUtf8 pair.2 = true := by decide +kernel
    exact isValidUtf8_iff.mp (hall pair hp)
  requestType := ⟨(ascii "request", ascii "RequestGame"), by decide⟩

/-- The same request as the WebView sends it. -/
def gameCommand : Text :=
  ascii ("\x7b\"functionName\":\"launchGame\",\"params\":\x7b\"request\":\x7b\"placeId\":\"1818\"," ++
    "\"requestType\":\"RequestGame\"\x7d\x7d\x7d")

def gameDocument : Json :=
  .object [(ascii "functionName", .string (ascii "launchGame")),
    (ascii "params", .object [(ascii "request", .object [(ascii "placeId", .string (ascii "1818")),
      (ascii "requestType", .string (ascii "RequestGame"))])])]

def readsGameCommand : LaunchHost := place1818 fun json => if json = gameCommand then some gameDocument else none

theorem browser_agrees_with_webView_demo :
    (parseRobloxLaunchUri readsGameCommand
      (playerUri plainEncoder (placeLauncherUrl "roblox.com" (launcherQuery plainEncoder gameParameters.pairs)))).toOption =
    (parseRobloxWebViewLaunchGame readsGameCommand gameCommand).toOption ∧
    parseRobloxWebViewLaunchGame readsGameCommand gameCommand =
      .ok { placeId := 1818, canonicalJson := ascii "\x7b\"placeId\":1818\x7d" } := by
  refine ⟨?_, by decide +kernel⟩
  refine browser_agrees_with_webView (plainCurl_keepsUrlParts _ _) plainEncoder plainEncoder (by decide) gameParameters
    (by decide) (by decide +kernel) (fun key => if key = ascii "request" then ascii "requestType" else key) ?_
    (List.Perm.swap _ _ []) ?_
  · have hall : ∀ pair ∈ gameParameters.pairs, pair.1 = ascii "request" ∨ pair.1 = ascii "placeId" := by decide
    intro pair hp
    rcases hall pair hp with h | h
    · exact Or.inr ⟨by rw [h]; decide, if_pos h⟩
    · exact Or.inl (if_neg (by rw [h]; decide))
  · exact ⟨by decide +kernel, _, _, rfl, rfl, rfl, rfl⟩

end Mocktail.Launch
