/-
  Mocktail.Runtime.WebViewPackets — the packets between the runtime and its web view helper
  (`webview_helper_launcher.cc`).

  A packet is a header of twelve bytes and a payload: a magic, the protocol version, a code, two
  zeros and the size of the payload. Control packets go to the helper, event packets come from
  it. Each decoder tests the payload again, by its own conditions. They are not those of the
  encoder for a ready event with a payload and for a cookie with other bytes than a cookie has:
  these are sent and refused, and everything else that is sent is read as it was
  (`packets_decode_iff`).

  The URL parser of curl is a parameter.
-/

import Mocktail.Lib.Chunks
import Mocktail.Runtime.WebViewPaths

namespace Mocktail.Runtime

open Mocktail.Lib

def kMaximumWebViewUrlBytes : Nat := 16 * 1024
def kMaximumWebViewTitleBytes : Nat := 512
def kMaximumWebViewJavaScriptBytes : Nat := 64 * 1024
def kMaximumWebViewCookieBytes : Nat := 16 * 1024
def kMaximumWebViewControlPacketBytes : Nat := kMaximumWebViewJavaScriptBytes + 12
def kMaximumWebViewHybridEventBytes : Nat := 64 * 1024
def kMaximumWebViewEventPacketBytes : Nat := kMaximumWebViewHybridEventBytes + 12

/-- "MWVC" -/
def kControlMagic : Bytes := [0x4d, 0x57, 0x56, 0x43]
/-- "MWVE" -/
def kEventMagic : Bytes := [0x4d, 0x57, 0x56, 0x45]
def kControlProtocolVersion : UInt8 := 1
def kControlHeaderBytes : Nat := 12
/-- "www:" -/
def kInternalRoutePrefix : Bytes := [0x77, 0x77, 0x77, 0x3a]
/-- "https://www.roblox.com/" -/
def kRobloxWebOrigin : Bytes :=
  [0x68, 0x74, 0x74, 0x70, 0x73, 0x3a, 0x2f, 0x2f, 0x77, 0x77, 0x77, 0x2e, 0x72, 0x6f, 0x62, 0x6c, 0x6f, 0x78, 0x2e,
   0x63, 0x6f, 0x6d, 0x2f]
/-- "roblox.com" -/
def kRobloxRoot : Bytes := [0x72, 0x6f, 0x62, 0x6c, 0x6f, 0x78, 0x2e, 0x63, 0x6f, 0x6d]
/-- "https" -/
def kHttps : Bytes := [0x68, 0x74, 0x74, 0x70, 0x73]
/-- "443" -/
def kHttpsPort : Bytes := [0x34, 0x34, 0x33]

def containsControlBytes (value : Bytes) : Bool := value.any fun b => decide (b.toNat < 0x20) || b == 0x7f

/-! ## URLs -/

/-- `curl_url_get(CURLUPART_PORT)`. -/
inductive PortStatus where
  | found (port : Bytes)
  | noPort
  | failed
  deriving DecidableEq, Repr

/-- What `curl_url_get` gives of a parsed URL. -/
structure UrlParts where
  scheme : Option Bytes
  host : Option Bytes
  user : Option Bytes
  password : Option Bytes
  port : PortStatus
  path : Option Bytes
  deriving DecidableEq, Repr

/-- `curl_url_set`; `none` is a malformed URL. -/
abbrev CurlUrl := Bytes → Option UrlParts

/-- `std::tolower` of the C locale. -/
def toLower (b : UInt8) : UInt8 := if 0x41 ≤ b.toNat ∧ b.toNat ≤ 0x5a then UInt8.ofNat (b.toNat + 0x20) else b

def isRobloxHost (host : Bytes) : Bool :=
  let normalized := host.map toLower
  normalized == kRobloxRoot ||
    (decide (kRobloxRoot.length < normalized.length) && normalized.drop (normalized.length - kRobloxRoot.length) == kRobloxRoot &&
      normalized[normalized.length - kRobloxRoot.length - 1]? == some 0x2e)

def validateWebViewUrl (curl : CurlUrl) (url : Bytes) : Except String Unit :=
  if url.isEmpty || decide (kMaximumWebViewUrlBytes < url.length) || containsControlBytes url then
    .error "webview URL is empty, oversized, or contains control bytes"
  else
    match curl url with
    | none => .error "webview URL is malformed"
    | some parts =>
      if parts.scheme ≠ some kHttps ∨ parts.host.any isRobloxHost = false then
        .error "webview URL must use HTTPS on roblox.com"
      else if parts.user.isSome || parts.password.isSome then .error "webview URL must not contain user information"
      else
        match parts.port with
        | .failed => .error "webview URL contains an invalid port"
        | .found port =>
          if port ≠ kHttpsPort then .error "webview URL must use the default HTTPS port"
          else if parts.path.any (fun path => !hasUnsafePath path) then .ok ()
          else .error "webview URL contains an unsafe path"
        | .noPort =>
          if parts.path.any (fun path => !hasUnsafePath path) then .ok ()
          else .error "webview URL contains an unsafe path"

def normalizeWebViewUrl (curl : CurlUrl) (url : Bytes) : Except String Bytes :=
  if url.isEmpty || decide (kMaximumWebViewUrlBytes < url.length) || containsControlBytes url then
    .error "webview URL is empty, oversized, or contains control bytes"
  else if kInternalRoutePrefix.isPrefixOf url then
    let route := url.drop kInternalRoutePrefix.length
    if route.isEmpty || route.head? == some kSlash then .error "webview internal Roblox route is invalid"
    else do
      validateWebViewUrl curl (kRobloxWebOrigin ++ route)
      return kRobloxWebOrigin ++ route
  else do
    validateWebViewUrl curl url
    return url

/-! ## Packets -/

/-- The size of a payload, high byte first. -/
def sizeBytes (size : Nat) : Bytes :=
  [UInt8.ofNat (size >>> 24 &&& 0xff), UInt8.ofNat (size >>> 16 &&& 0xff), UInt8.ofNat (size >>> 8 &&& 0xff),
    UInt8.ofNat (size &&& 0xff)]

def sizeOf4 (b0 b1 b2 b3 : UInt8) : Nat := b0.toNat <<< 24 ||| b1.toNat <<< 16 ||| b2.toNat <<< 8 ||| b3.toNat

def encodePacket (magic : Bytes) (code : UInt8) (payload : Bytes) : Bytes :=
  magic ++ [kControlProtocolVersion, code, 0, 0] ++ sizeBytes payload.length ++ payload

/-- The parts of a packet that both decoders read. -/
structure PacketParts where
  code : UInt8
  payloadSize : Nat
  payload : Bytes
  deriving DecidableEq, Repr

/-- The test of the header; `none` is an invalid one. -/
def readHeader (magic : Bytes) (maximum : Nat) (packet : Bytes) : Option PacketParts :=
  match packet.drop 4 with
  | version :: code :: zero :: zero' :: b0 :: b1 :: b2 :: b3 :: payload =>
    if maximum < packet.length ∨ packet.take 4 ≠ magic ∨ version ≠ kControlProtocolVersion ∨ zero ≠ 0 ∨ zero' ≠ 0 then none
    else some { code, payloadSize := sizeOf4 b0 b1 b2 b3, payload }
  | _ => none

/-! ## Control packets -/

inductive WebViewHelperControlOperation where
  | loadUrl
  | setTitle
  | setVisible
  | evaluateJavaScript
  | close
  | setBackNavigationDisabled
  | setShowDomainAsTitle
  | setRobloxCookie
  | clearRobloxCookie
  | retainPersistentRobloxCookie
  deriving DecidableEq, Repr

namespace WebViewHelperControlOperation

def code : WebViewHelperControlOperation → UInt8
  | loadUrl => 1
  | setTitle => 2
  | setVisible => 3
  | evaluateJavaScript => 4
  | close => 5
  | setBackNavigationDisabled => 6
  | setShowDomainAsTitle => 7
  | setRobloxCookie => 8
  | clearRobloxCookie => 9
  | retainPersistentRobloxCookie => 10

def ofCode (code : UInt8) : Option WebViewHelperControlOperation :=
  match code.toNat with
  | 1 => some loadUrl
  | 2 => some setTitle
  | 3 => some setVisible
  | 4 => some evaluateJavaScript
  | 5 => some close
  | 6 => some setBackNavigationDisabled
  | 7 => some setShowDomainAsTitle
  | 8 => some setRobloxCookie
  | 9 => some clearRobloxCookie
  | 10 => some retainPersistentRobloxCookie
  | _ => none

theorem ofCode_code (operation : WebViewHelperControlOperation) : ofCode operation.code = some operation := by
  cases operation <;> rfl

end WebViewHelperControlOperation

structure WebViewHelperControlCommand where
  operation : WebViewHelperControlOperation
  payload : Bytes
  visible : Bool
  deriving DecidableEq, Repr

def encodeControlPacket (operation : WebViewHelperControlOperation) (payload : Bytes) : Bytes :=
  encodePacket kControlMagic operation.code payload

/-- A byte of a cookie value. -/
def isCookieByte (b : UInt8) : Bool :=
  b == 0x21 || (decide (0x23 ≤ b.toNat) && decide (b.toNat ≤ 0x2b)) || (decide (0x2d ≤ b.toNat) && decide (b.toNat ≤ 0x3a)) ||
    (decide (0x3c ≤ b.toNat) && decide (b.toNat ≤ 0x5b)) || (decide (0x5d ≤ b.toNat) && decide (b.toNat ≤ 0x7e))

def isBooleanPayload (payload : Bytes) : Bool := payload == [0] || payload == [1]

/-- What the decoder tests of a payload. -/
def checkControlPayload (curl : CurlUrl) (payload : Bytes) : WebViewHelperControlOperation → Except String Unit
  | .loadUrl => validateWebViewUrl curl payload
  | .setTitle =>
    if kMaximumWebViewTitleBytes < payload.length ∨ containsControlBytes payload = true then
      .error "webview control title is oversized or unsafe"
    else .ok ()
  | .setVisible => if isBooleanPayload payload then .ok () else .error "webview control boolean payload is invalid"
  | .setBackNavigationDisabled => if isBooleanPayload payload then .ok () else .error "webview control boolean payload is invalid"
  | .setShowDomainAsTitle => if isBooleanPayload payload then .ok () else .error "webview control boolean payload is invalid"
  | .evaluateJavaScript =>
    if kMaximumWebViewJavaScriptBytes < payload.length ∨ payload.contains 0 = true then
      .error "webview control JavaScript is oversized or contains NUL"
    else .ok ()
  | .setRobloxCookie =>
    if payload.isEmpty = true ∨ kMaximumWebViewCookieBytes < payload.length ∨ payload.all isCookieByte = false then
      .error "webview Roblox cookie is oversized or unsafe"
    else .ok ()
  | .clearRobloxCookie => if payload.isEmpty then .ok () else .error "webview Roblox cookie clear payload must be empty"
  | .retainPersistentRobloxCookie =>
    if payload.isEmpty then .ok () else .error "webview Roblox cookie retention payload must be empty"
  | .close => if payload.isEmpty then .ok () else .error "webview control close payload must be empty"

def decodeWebViewHelperControlPacket (curl : CurlUrl) (packet : Bytes) : Except String WebViewHelperControlCommand :=
  match readHeader kControlMagic kMaximumWebViewControlPacketBytes packet with
  | none => .error "webview control packet has an invalid header"
  | some parts =>
    if parts.payloadSize ≠ packet.length - kControlHeaderBytes then .error "webview control packet has an invalid payload length"
    else
      match WebViewHelperControlOperation.ofCode parts.code with
      | none => .error "webview control operation is unsupported"
      | some operation => do
        checkControlPayload curl parts.payload operation
        return { operation, payload := parts.payload, visible := !parts.payload.isEmpty && parts.payload.head? != some 0 }

/-! ## Event packets -/

inductive WebViewHelperEventType where
  | executeRoblox
  | robloxWkHybrid
  | ready
  | robloxCookie
  deriving DecidableEq, Repr

namespace WebViewHelperEventType

def code : WebViewHelperEventType → UInt8
  | executeRoblox => 1
  | robloxWkHybrid => 2
  | ready => 3
  | robloxCookie => 4

def ofCode (code : UInt8) : Option WebViewHelperEventType :=
  match code.toNat with
  | 1 => some executeRoblox
  | 2 => some robloxWkHybrid
  | 3 => some ready
  | 4 => some robloxCookie
  | _ => none

theorem ofCode_code (type : WebViewHelperEventType) : ofCode type.code = some type := by cases type <;> rfl

/-- The bound of an encoded payload. -/
def maximumBytes : WebViewHelperEventType → Nat
  | robloxCookie => kMaximumWebViewCookieBytes
  | _ => kMaximumWebViewHybridEventBytes

end WebViewHelperEventType

structure WebViewHelperEvent where
  type : WebViewHelperEventType
  payload : Bytes
  deriving DecidableEq, Repr

def encodeWebViewHelperEventPacket (type : WebViewHelperEventType) (payload : Bytes) : Option Bytes :=
  if (type ≠ .ready ∧ payload.isEmpty = true) ∨ type.maximumBytes < payload.length ∨ payload.contains 0 = true then none
  else some (encodePacket kEventMagic type.code payload)

def decodeWebViewHelperEventPacket (packet : Bytes) : Except String WebViewHelperEvent :=
  match readHeader kEventMagic kMaximumWebViewEventPacketBytes packet with
  | none => .error "webview event packet has an invalid header"
  | some parts =>
    if parts.payloadSize ≠ parts.payload.length ∨ parts.payload.contains 0 = true then
      .error "webview event packet has an invalid payload"
    else
      match WebViewHelperEventType.ofCode parts.code with
      | none => .error "webview event type is unsupported"
      | some type =>
        if parts.payload.isEmpty ≠ decide (type = .ready) ∨
          (type = .robloxCookie ∧ kMaximumWebViewCookieBytes < parts.payload.length) then
          .error "webview event payload does not match its type"
        else .ok { type, payload := parts.payload }

/-! ## Reading what was written -/

theorem toNat_ofNat_and (n : Nat) : (UInt8.ofNat (n &&& 0xff)).toNat = n % 256 := by
  rw [UInt8.toNat_ofNat', show (0xff : Nat) = 2 ^ 8 - 1 from rfl, Nat.and_two_pow_sub_one_eq_mod]
  omega

/-- The four parts of a size have no common bit. -/
theorem sizeOf4_eq (b0 b1 b2 b3 : UInt8) :
    sizeOf4 b0 b1 b2 b3 = b0.toNat * 2 ^ 24 + b1.toNat * 2 ^ 16 + b2.toNat * 2 ^ 8 + b3.toNat := by
  have h1 := b1.toNat_lt
  have h2 := b2.toNat_lt
  have h3 := b3.toNat_lt
  have hhigh : b0.toNat <<< 24 ||| b1.toNat <<< 16 = (b0.toNat * 2 ^ 8 + b1.toNat) <<< 16 := by
    rw [← Nat.shiftLeft_add_eq_or_of_lt (by rw [Nat.shiftLeft_eq]; omega)]
    simp only [Nat.shiftLeft_eq]
    omega
  have hmiddle : b0.toNat <<< 24 ||| b1.toNat <<< 16 ||| b2.toNat <<< 8 =
      (b0.toNat * 2 ^ 16 + b1.toNat * 2 ^ 8 + b2.toNat) <<< 8 := by
    rw [hhigh, ← Nat.shiftLeft_add_eq_or_of_lt (by rw [Nat.shiftLeft_eq]; omega)]
    simp only [Nat.shiftLeft_eq]
    omega
  rw [sizeOf4, hmiddle, ← Nat.shiftLeft_add_eq_or_of_lt (by omega), Nat.shiftLeft_eq]
  omega

theorem sizeOf4_sizeBytes {n : Nat} (hn : n < 2 ^ 32) :
    sizeOf4 (UInt8.ofNat (n >>> 24 &&& 0xff)) (UInt8.ofNat (n >>> 16 &&& 0xff)) (UInt8.ofNat (n >>> 8 &&& 0xff))
      (UInt8.ofNat (n &&& 0xff)) = n := by
  rw [sizeOf4_eq]
  simp only [toNat_ofNat_and, Nat.shiftRight_eq_div_pow]
  omega

variable {magic payload url : Bytes}

theorem readHeader_encodePacket (hmagic : magic.length = 4) {maximum : Nat} (hmaximum : maximum < 2 ^ 32)
    (code : UInt8) (hsize : payload.length + 12 ≤ maximum) :
    readHeader magic maximum (encodePacket magic code payload) = some ⟨code, payload.length, payload⟩ := by
  have hdrop : (encodePacket magic code payload).drop 4 =
      [kControlProtocolVersion, code, 0, 0] ++ sizeBytes payload.length ++ payload := by
    rw [encodePacket, List.append_assoc, List.append_assoc, List.drop_left' hmagic, List.append_assoc]
  have htake : (encodePacket magic code payload).take 4 = magic := by
    rw [encodePacket, List.append_assoc, List.append_assoc, List.take_left' hmagic]
  have hlength : (encodePacket magic code payload).length = payload.length + 12 := by
    simp only [encodePacket, sizeBytes, List.length_append, List.length_cons, List.length_nil, hmagic]
    omega
  have hsum := sizeOf4_sizeBytes (n := payload.length) (by omega)
  unfold readHeader
  rw [hdrop, htake, hlength]
  simp only [sizeBytes, List.cons_append, List.nil_append]
  rw [if_neg (by simp; omega), hsum]

theorem length_encodePacket (hmagic : magic.length = 4) (code : UInt8) (payload : Bytes) :
    (encodePacket magic code payload).length = payload.length + 12 := by
  simp only [encodePacket, sizeBytes, List.length_append, List.length_cons, List.length_nil, hmagic]
  omega

/-- A control packet is read as what the test of its payload says. -/
theorem decodeControl_encoded (curl : CurlUrl) (operation : WebViewHelperControlOperation)
    (hsize : payload.length ≤ kMaximumWebViewJavaScriptBytes) :
    decodeWebViewHelperControlPacket curl (encodeControlPacket operation payload) =
      (checkControlPayload curl payload operation).map fun _ =>
        { operation, payload, visible := !payload.isEmpty && payload.head? != some 0 } := by
  have hmaximum : kMaximumWebViewControlPacketBytes < 2 ^ 32 := by decide
  have hbound : payload.length + 12 ≤ kMaximumWebViewControlPacketBytes := Nat.add_le_add_right hsize 12
  unfold decodeWebViewHelperControlPacket encodeControlPacket
  rw [readHeader_encodePacket rfl hmaximum operation.code hbound]
  have hlength : (encodePacket kControlMagic operation.code payload).length = payload.length + 12 := length_encodePacket rfl _ _
  simp only [hlength, WebViewHelperControlOperation.ofCode_code]
  rw [if_neg (by simp [kControlHeaderBytes])]
  cases checkControlPayload curl payload operation <;> rfl

theorem decodeEvent_encoded (type : WebViewHelperEventType) (hsize : payload.length ≤ kMaximumWebViewHybridEventBytes)
    (hnul : payload.contains 0 = false) :
    decodeWebViewHelperEventPacket (encodePacket kEventMagic type.code payload) =
      if payload.isEmpty ≠ decide (type = .ready) ∨ (type = .robloxCookie ∧ kMaximumWebViewCookieBytes < payload.length) then
        .error "webview event payload does not match its type"
      else .ok { type, payload } := by
  have hmaximum : kMaximumWebViewEventPacketBytes < 2 ^ 32 := by decide
  have hbound : payload.length + 12 ≤ kMaximumWebViewEventPacketBytes := Nat.add_le_add_right hsize 12
  unfold decodeWebViewHelperEventPacket
  rw [readHeader_encodePacket rfl hmaximum type.code hbound]
  simp only [WebViewHelperEventType.ofCode_code]
  rw [if_neg (by rw [hnul]; simp)]

/-! ## Senders -/

/-- A call of a sender method of `WebViewHelperProcess`. -/
inductive SenderCall where
  | loadUrl (url : Bytes)
  | setTitle (title : Bytes)
  | setVisible (visible : Bool)
  | evaluateJavaScript (script : Bytes)
  | setBackNavigationDisabled (disabled : Bool)
  | setShowDomainAsTitle (enabled : Bool)
  | setRobloxCookie (value : Bytes)
  | clearRobloxCookie
  deriving DecidableEq, Repr

def encodedBool (value : Bool) : Bytes := [if value then 1 else 0]

/-- What a call hands to `SendControlCommand`; `none` is a call that sends nothing. -/
def SenderCall.command (curl : CurlUrl) : SenderCall → Option (WebViewHelperControlOperation × Bytes)
  | .loadUrl url =>
    match normalizeWebViewUrl curl url with
    | .error _ => none
    | .ok normalized => some (.loadUrl, normalized)
  | .setTitle title =>
    if kMaximumWebViewTitleBytes < title.length ∨ containsControlBytes title = true then none else some (.setTitle, title)
  | .setVisible visible => some (.setVisible, encodedBool visible)
  | .evaluateJavaScript script =>
    if kMaximumWebViewJavaScriptBytes < script.length ∨ script.contains 0 = true then none else some (.evaluateJavaScript, script)
  | .setBackNavigationDisabled disabled => some (.setBackNavigationDisabled, encodedBool disabled)
  | .setShowDomainAsTitle enabled => some (.setShowDomainAsTitle, encodedBool enabled)
  | .setRobloxCookie value =>
    if kMaximumWebViewCookieBytes < value.length then none
    else some (if value.isEmpty then .retainPersistentRobloxCookie else .setRobloxCookie, value)
  | .clearRobloxCookie => some (.clearRobloxCookie, [])

/-- Whatever the encoder makes of an event is read as that event. -/
def EventRoundTrips (type : WebViewHelperEventType) (payload : Bytes) : Prop :=
  ∀ packet, encodeWebViewHelperEventPacket type payload = some packet →
    decodeWebViewHelperEventPacket packet = .ok { type, payload }

/-- Whatever a call sends is read as the operation and the payload it sent. -/
def SenderRoundTrips (curl : CurlUrl) (call : SenderCall) : Prop :=
  ∀ operation payload, call.command curl = some (operation, payload) →
    ∃ command, decodeWebViewHelperControlPacket curl (encodeControlPacket operation payload) = .ok command ∧
      command.operation = operation ∧ command.payload = payload

theorem eventRoundTrips_iff (type : WebViewHelperEventType) (payload : Bytes) :
    EventRoundTrips type payload ↔
      ¬(type = .ready ∧ payload ≠ [] ∧ payload.length ≤ kMaximumWebViewHybridEventBytes ∧ (0 : UInt8) ∉ payload) := by
  unfold EventRoundTrips encodeWebViewHelperEventPacket
  constructor
  · rintro htrip ⟨rfl, hne, hsize, hnul⟩
    have hcontains : payload.contains 0 = false := by simpa using hnul
    have hlow : ¬kMaximumWebViewHybridEventBytes < payload.length := by omega
    have hread := htrip _ (if_neg (by simp only [hcontains, WebViewHelperEventType.maximumBytes]; simp [hlow]))
    rw [decodeEvent_encoded .ready hsize hcontains, if_pos (Or.inl (by simpa using hne))] at hread
    cases hread
  · intro hready packet hencoded
    split at hencoded
    · cases hencoded
    · rename_i hsent
      rw [not_or, not_or, not_and] at hsent
      obtain ⟨hempty, hsize, hnul⟩ := hsent
      have hcontains : payload.contains 0 = false := Bool.eq_false_iff.mpr hnul
      have hbound : payload.length ≤ kMaximumWebViewHybridEventBytes := by
        cases type <;> simp only [WebViewHelperEventType.maximumBytes, kMaximumWebViewCookieBytes,
          kMaximumWebViewHybridEventBytes] at hsize ⊢ <;> omega
      cases hencoded
      rw [decodeEvent_encoded type hbound hcontains, if_neg]
      rintro (hkind | ⟨rfl, hlarge⟩)
      · by_cases htype : type = .ready
        · refine hready ⟨htype, ?_, hbound, by simpa using hcontains⟩
          rintro rfl
          simp [htype] at hkind
        · exact hempty htype (by simpa [htype] using hkind)
      · exact hsize hlarge

variable {curl : CurlUrl}

/-- A URL that was sent is one the decoder accepts. -/
theorem normalizeWebViewUrl_ok {normalized : Bytes} (h : normalizeWebViewUrl curl url = .ok normalized) :
    validateWebViewUrl curl normalized = .ok () := by
  unfold normalizeWebViewUrl at h
  split at h
  · cases h
  · split at h
    · dsimp only at h
      split at h
      · cases h
      · cases hvalid : validateWebViewUrl curl (kRobloxWebOrigin ++ url.drop kInternalRoutePrefix.length) with
        | error message => simp [hvalid, bind, Except.bind] at h
        | ok _ =>
          simp only [hvalid, bind, Except.bind, pure, Except.pure, Except.ok.injEq] at h
          rw [← h, hvalid]
    · cases hvalid : validateWebViewUrl curl url with
      | error message => simp [hvalid, bind, Except.bind] at h
      | ok _ =>
        simp only [hvalid, bind, Except.bind, pure, Except.pure, Except.ok.injEq] at h
        rw [← h, hvalid]

theorem length_le_of_validateWebViewUrl (h : validateWebViewUrl curl url = .ok ()) :
    url.length ≤ kMaximumWebViewUrlBytes := by
  by_contra hlarge
  unfold validateWebViewUrl at h
  rw [if_pos (by simp; omega)] at h
  cases h

/-- A call is read back when the decoder accepts what it sends. -/
theorem senderRoundTrips_of_check {call : SenderCall}
    (h : ∀ operation payload, call.command curl = some (operation, payload) →
      payload.length ≤ kMaximumWebViewJavaScriptBytes ∧ checkControlPayload curl payload operation = .ok ()) :
    SenderRoundTrips curl call := by
  intro operation payload hcommand
  obtain ⟨hsize, hcheck⟩ := h operation payload hcommand
  refine ⟨⟨operation, payload, !payload.isEmpty && payload.head? != some 0⟩, ?_, rfl, rfl⟩
  rw [decodeControl_encoded curl operation hsize, hcheck]
  rfl

theorem senderRoundTrips_setRobloxCookie_iff (curl : CurlUrl) (value : Bytes) :
    SenderRoundTrips curl (.setRobloxCookie value) ↔
      ¬(value.length ≤ kMaximumWebViewCookieBytes ∧ ∃ b ∈ value, isCookieByte b = false) := by
  constructor
  · rintro htrip ⟨hsize, b, hmem, hbyte⟩
    have hnot : ¬kMaximumWebViewCookieBytes < value.length := by omega
    have hne : value.isEmpty = false := by
      cases value with
      | nil => cases hmem
      | cons _ _ => rfl
    have hall : value.all isCookieByte = false := List.all_eq_false.mpr ⟨b, hmem, by simp [hbyte]⟩
    obtain ⟨command, hread, -, -⟩ := htrip .setRobloxCookie value (by simp [SenderCall.command, hnot, hne])
    rw [decodeControl_encoded curl _ (by simp only [kMaximumWebViewCookieBytes, kMaximumWebViewJavaScriptBytes] at *; omega)]
      at hread
    simp [checkControlPayload, hall, Except.map] at hread
  · intro hcookie
    refine senderRoundTrips_of_check fun operation payload hcommand => ?_
    simp only [SenderCall.command] at hcommand
    split at hcommand
    · cases hcommand
    · rename_i hsize
      rw [Option.some.injEq, Prod.mk.injEq] at hcommand
      obtain ⟨hoperation, rfl⟩ := hcommand
      refine ⟨by simp only [kMaximumWebViewCookieBytes, kMaximumWebViewJavaScriptBytes] at *; omega, ?_⟩
      cases hempty : value.isEmpty with
      | true =>
        rw [← hoperation, hempty]
        simp [checkControlPayload, hempty]
      | false =>
        rw [← hoperation, hempty]
        have hall : value.all isCookieByte = true := by
          rw [List.all_eq_true]
          intro b hmem
          cases hbyte : isCookieByte b with
          | true => rfl
          | false => exact absurd ⟨by omega, b, hmem, hbyte⟩ hcookie
        simp [checkControlPayload, hempty, hall, hsize]

theorem senderRoundTrips_of_ne {call : SenderCall} (hcall : ∀ value, call ≠ .setRobloxCookie value) :
    SenderRoundTrips curl call := by
  refine senderRoundTrips_of_check fun operation payload hcommand => ?_
  have hone : ∀ value, (encodedBool value).length ≤ kMaximumWebViewJavaScriptBytes ∧
      isBooleanPayload (encodedBool value) = true := by decide
  cases call with
  | setRobloxCookie value => exact absurd rfl (hcall value)
  | loadUrl url =>
    simp only [SenderCall.command] at hcommand
    split at hcommand
    · cases hcommand
    · rename_i normalized hnormalized
      cases hcommand
      have hvalid := normalizeWebViewUrl_ok hnormalized
      have hsize := length_le_of_validateWebViewUrl hvalid
      refine ⟨?_, hvalid⟩
      simp only [kMaximumWebViewUrlBytes, kMaximumWebViewJavaScriptBytes] at *
      omega
  | setTitle title =>
    simp only [SenderCall.command] at hcommand
    split at hcommand
    · cases hcommand
    · rename_i hsent
      cases hcommand
      refine ⟨?_, by rw [checkControlPayload, if_neg hsent]⟩
      simp only [kMaximumWebViewTitleBytes, kMaximumWebViewJavaScriptBytes] at *
      omega
  | evaluateJavaScript script =>
    simp only [SenderCall.command] at hcommand
    split at hcommand
    · cases hcommand
    · rename_i hsent
      cases hcommand
      exact ⟨by omega, by rw [checkControlPayload, if_neg hsent]⟩
  | setVisible visible =>
    cases hcommand
    exact ⟨(hone visible).1, by rw [checkControlPayload, if_pos (hone visible).2]⟩
  | setBackNavigationDisabled disabled =>
    cases hcommand
    exact ⟨(hone disabled).1, by rw [checkControlPayload, if_pos (hone disabled).2]⟩
  | setShowDomainAsTitle enabled =>
    cases hcommand
    exact ⟨(hone enabled).1, by rw [checkControlPayload, if_pos (hone enabled).2]⟩
  | clearRobloxCookie =>
    cases hcommand
    exact ⟨Nat.zero_le _, rfl⟩

/-- An event is read back unless it is a ready event with a payload, and what a call sends is
    read back unless it is a cookie with a byte that no cookie has. -/
theorem packets_decode_iff (curl : CurlUrl) :
    (∀ type payload, EventRoundTrips type payload ↔
      ¬(type = .ready ∧ payload ≠ [] ∧ payload.length ≤ kMaximumWebViewHybridEventBytes ∧ (0 : UInt8) ∉ payload)) ∧
    (∀ call, SenderRoundTrips curl call ↔
      ¬∃ value, call = .setRobloxCookie value ∧ value.length ≤ kMaximumWebViewCookieBytes ∧ ∃ b ∈ value,
        isCookieByte b = false) := by
  refine ⟨eventRoundTrips_iff, fun call => ?_⟩
  by_cases hcookie : ∃ value, call = .setRobloxCookie value
  · obtain ⟨value, rfl⟩ := hcookie
    rw [senderRoundTrips_setRobloxCookie_iff]
    simp
  · rw [not_exists] at hcookie
    refine iff_of_true (senderRoundTrips_of_ne hcookie) ?_
    rintro ⟨value, hvalue, -⟩
    exact hcookie value hvalue

/-- A ready event with a payload, and a cookie that is a semicolon. -/
theorem ready_payload_refused :
    ¬EventRoundTrips .ready [0x78] ∧ ¬SenderRoundTrips (fun _ => none) (.setRobloxCookie [0x3b]) := by
  rw [eventRoundTrips_iff, senderRoundTrips_setRobloxCookie_iff]
  decide

end Mocktail.Runtime
