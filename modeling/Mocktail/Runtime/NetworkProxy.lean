/-
  Mocktail.Runtime.NetworkProxy — proxy settings and their URL (`ParseNetworkProxyConfig` and
  `BuildNetworkProxyUrl` in `runtime_config.cc`).

  A configuration that is accepted has one of two schemes, a host without the delimiters of a
  URL and a port; a user name and a password can be any bytes but NUL, and there is no password
  without a user name. The URL has the credentials percent-encoded and a host with a colon in
  brackets.

  `splitProxyUrl` reads a URL by the generic grammar, without knowing how it was made: it finds
  every part of it again (`splitProxyUrl_build`), so no two configurations have one URL
  (`proxyUrls_unambiguous`).
-/

import Mathlib.Data.List.Infix
import Mocktail.Launch.Percent
import Mocktail.Lib.BitFields
import Mocktail.Runtime.WebViewPaths

namespace Mocktail.Runtime

open Mocktail.Launch (Text ascii unreserved PercentEncoder hexDigit)

structure NetworkProxyConfig where
  scheme : Text
  host : Text
  port : Int
  username : Text
  password : Text
  deriving DecidableEq

/-- Letters, digits and `-._~` are kept. -/
def proxyCredentialEncoder : PercentEncoder := ⟨unreserved, fun _ h => h⟩

def encodeProxyCredential (value : Text) : Text := proxyCredentialEncoder.encode value

/-- The number of a text that is all digits. -/
def wholeNumber (text : Text) : Option Nat :=
  if text = [] ∨ text.all (fun b => decide (0x30 ≤ b.toNat ∧ b.toNat ≤ 0x39)) = false then none
  else some (text.foldl (fun value b => value * 10 + (b.toNat - 0x30)) 0)

/-- `std::from_chars` of an `int`, over the whole text. -/
def fromCharsInt (text : Text) : Option Int :=
  match text with
  | 0x2d :: digits => (wholeNumber digits).bind fun (n : Nat) => if n ≤ 2 ^ 31 then some (-(n : Int)) else none
  | digits => (wholeNumber digits).bind fun (n : Nat) => if n < 2 ^ 31 then some (n : Int) else none

def normalizedScheme (scheme : Text) : Option Text :=
  if scheme = ascii "http" ∨ scheme = ascii "https" then some (ascii "http")
  else if scheme = ascii "socks" ∨ scheme = ascii "socks5" ∨ scheme = ascii "socks5h" then some (ascii "socks5h")
  else none

/-- The bytes that no host may have: spaces, control bytes and delimiters. -/
def refusedHostByte (b : UInt8) : Bool :=
  decide (b.toNat ≤ 0x20) || b == 0x7f || b == 0x2f || b == 0x5c || b == 0x40 || b == 0x5b || b == 0x5d || b == 0x3f || b == 0x23

def parseNetworkProxyConfig (host port scheme username password : Text) : Option NetworkProxyConfig :=
  match normalizedScheme scheme with
  | none => none
  | some normalized =>
    if username = [] ∧ password ≠ [] ∨ 0 ∈ username ∨ 0 ∈ password ∨
        normalized = ascii "socks5h" ∧ (255 < username.length ∨ 255 < password.length) then none
    else if host = [] ∨ port = [] ∨ ascii "://" <:+: host ∨ host.any refusedHostByte = true then none
    else
      match fromCharsInt port with
      | none => none
      | some parsed => if parsed ≤ 0 ∨ 65535 < parsed then none else some ⟨normalized, host, parsed, username, password⟩

def buildNetworkProxyUrl (proxy : NetworkProxyConfig) (includeCredentials : Bool) : Text :=
  let ipv6 := decide (0x3a ∈ proxy.host)
  let credentials :=
    if includeCredentials = true ∧ proxy.username ≠ [] then
      encodeProxyCredential proxy.username ++ ascii ":" ++ encodeProxyCredential proxy.password ++ ascii "@"
    else []
  proxy.scheme ++ ascii "://" ++ credentials ++ (if ipv6 then ascii "[" else []) ++ proxy.host ++
    (if ipv6 then ascii "]" else []) ++
    ascii ":" ++ ascii (toString proxy.port)

/-! ## The generic grammar -/

def before (c : UInt8) (text : Text) : Text := text.takeWhile (· != c)

/-- What stands behind the first `c`. -/
def after (c : UInt8) (text : Text) : Text := (text.dropWhile (· != c)).drop 1

/-- User name and password, decoded, and the rest of an authority. -/
def splitUserinfo (authority : Text) : (Text × Text) × Text :=
  if 0x40 ∈ authority then
    let userinfo := before 0x40 authority
    ((decodePath (before 0x3a userinfo), decodePath (after 0x3a userinfo)), after 0x40 authority)
  else (([], []), authority)

/-- A host in brackets or a plain one, and the text of the port. -/
def splitHostPort (text : Text) : Option (Text × Text) :=
  match text with
  | 0x5b :: bracketed =>
    match after 0x5d bracketed with
    | 0x3a :: port => some (before 0x5d bracketed, port)
    | _ => none
  | _ => if 0x3a ∈ text then some (before 0x3a text, after 0x3a text) else none

/-- A URL of a scheme and an authority, in its parts. -/
def splitProxyUrl (url : Text) : Option NetworkProxyConfig :=
  match url.dropWhile (· != 0x3a) with
  | 0x3a :: 0x2f :: 0x2f :: authority =>
    -- a path, a query or a fragment would end the authority
    if authority.any (fun b => b == 0x2f || b == 0x3f || b == 0x23) then none
    else
      let parts := splitUserinfo authority
      match splitHostPort parts.2 with
      | none => none
      | some (host, port) => (wholeNumber port).map fun (n : Nat) => ⟨before 0x3a url, host, (n : Int), parts.1.1, parts.1.2⟩
  | _ => none

/-! ## Accepted configurations -/

/-- What `ParseNetworkProxyConfig` makes sure of. -/
structure NetworkProxyConfig.Accepted (proxy : NetworkProxyConfig) : Prop where
  scheme : proxy.scheme = ascii "http" ∨ proxy.scheme = ascii "socks5h"
  host : ∀ b ∈ proxy.host, refusedHostByte b = false
  credentials : proxy.username = [] → proxy.password = []
  port : 0 < proxy.port

variable {proxy : NetworkProxyConfig}

theorem accepted_of_parse {host port scheme username password : Text}
    (h : parseNetworkProxyConfig host port scheme username password = some proxy) : proxy.Accepted := by
  unfold parseNetworkProxyConfig at h
  cases hs : normalizedScheme scheme with
  | none =>
    rw [hs] at h
    cases h
  | some normalized =>
    rw [hs] at h
    dsimp only at h
    split at h
    · cases h
    · rename_i hcredentials
      split at h
      · cases h
      · rename_i hhost
        cases hp : fromCharsInt port with
        | none =>
          rw [hp] at h
          cases h
        | some parsed =>
          rw [hp] at h
          dsimp only at h
          split at h
          · cases h
          · rename_i hrange
            obtain rfl := Option.some.inj h
            refine ⟨?_, ?_, ?_, by dsimp only; omega⟩
            · unfold normalizedScheme at hs
              split at hs
              · exact .inl (Option.some.inj hs).symm
              · split at hs
                · exact .inr (Option.some.inj hs).symm
                · cases hs
            · intro b hb
              rw [← Bool.not_eq_true]
              intro hrefused
              exact hhost (.inr (.inr (.inr (List.any_eq_true.mpr ⟨b, hb, hrefused⟩))))
            · intro hu
              by_contra hpw
              exact hcredentials (.inl ⟨hu, hpw⟩)

/-! ## Splitting -/

variable {front rest : Text} {c : UInt8}

theorem dropWhile_append (h : c ∉ front) : (front ++ c :: rest).dropWhile (· != c) = c :: rest := by
  rw [List.dropWhile_append_of_pos]
  · exact List.dropWhile_cons_of_neg (by simp)
  · intro b hb
    exact bne_iff_ne.mpr fun he => h (he ▸ hb)

theorem before_append (h : c ∉ front) : before c (front ++ c :: rest) = front := by
  rw [before, List.takeWhile_append_of_pos, List.takeWhile_cons_of_neg (by simp), List.append_nil]
  intro b hb
  exact bne_iff_ne.mpr fun he => h (he ▸ hb)

theorem after_append (h : c ∉ front) : after c (front ++ c :: rest) = rest := by
  rw [after, dropWhile_append h]
  rfl

theorem hexDigitValue_hexDigit {n : Nat} (h : n < 16) : hexDigitValue (hexDigit n) = some n := by
  have hall : ∀ n < 16, hexDigitValue (hexDigit n) = some n := by decide
  exact hall n h

theorem escapedByte_hexDigits (b : UInt8) : escapedByte (hexDigit (b.toNat / 16)) (hexDigit (b.toNat % 16)) = some b := by
  have hlt := b.toNat_lt
  have hbyte : b.toNat / 16 * 2 ^ 4 + b.toNat % 16 = b.toNat := by omega
  rw [escapedByte, hexDigitValue_hexDigit (by omega), hexDigitValue_hexDigit (by omega)]
  dsimp only
  rw [Lib.shiftLeft_or _ (by omega), hbyte, UInt8.ofNat_toNat]

/-- Encoded credentials are decoded to what they were. -/
theorem decodePath_encode (value : Text) : decodePath (encodeProxyCredential value) = value := by
  induction value with
  | nil => rfl
  | cons b value ih =>
    rw [encodeProxyCredential, Launch.encode_cons, PercentEncoder.encodeByte]
    by_cases hkeep : unreserved b = true
    · have hplain : b ≠ kPercent := by
        rintro rfl
        cases hkeep
      rw [show proxyCredentialEncoder.keep b = true from hkeep, if_pos rfl, List.singleton_append, decodePath_plain hplain]
      exact congrArg _ ih
    · rw [show proxyCredentialEncoder.keep b = unreserved b from rfl, if_neg hkeep]
      exact (decodePath_escape (escapedByte_hexDigits b) _).trans (congrArg _ ih)

/-- An encoded credential has none of the delimiters. -/
theorem not_mem_credential (value : Text) (hc : unreserved c = false) (hp : c ≠ 0x25) : c ∉ encodeProxyCredential value :=
  Launch.not_mem_encode value hc hp

theorem wholeNumber_toString (n : Nat) : wholeNumber (ascii (toString n)) = some n := by
  have hdigits : (ascii (toString n)).all (fun b => decide (0x30 ≤ b.toNat ∧ b.toNat ≤ 0x39)) = true :=
    List.all_eq_true.mpr fun b hb => decide_eq_true (Launch.ascii_toString_digit n b hb)
  rw [wholeNumber, if_neg, Launch.foldl_ascii_toString]
  rintro (hnil | hother)
  · exact Launch.ascii_toString_ne_nil n hnil
  · rw [hdigits] at hother
    cases hother

theorem NetworkProxyConfig.Accepted.not_mem_host (h : proxy.Accepted) (hc : refusedHostByte c = true) :
    c ∉ proxy.host := by
  intro hmem
  rw [h.host c hmem] at hc
  cases hc

/-- The host as it stands in the URL, and the port. -/
def hostPort (proxy : NetworkProxyConfig) (n : Nat) : Text :=
  if 0x3a ∈ proxy.host then ascii "[" ++ proxy.host ++ ascii "]:" ++ ascii (toString n)
    else proxy.host ++ ascii ":" ++ ascii (toString n)

theorem splitHostPort_hostPort (h : proxy.Accepted) (n : Nat) :
    splitHostPort (hostPort proxy n) = some (proxy.host, ascii (toString n)) := by
  unfold hostPort
  by_cases hcolon : 0x3a ∈ proxy.host
  · have hclose : (0x5d : UInt8) ∉ proxy.host := h.not_mem_host (by decide)
    have htext : ascii "[" ++ proxy.host ++ ascii "]:" ++ ascii (toString n) =
        0x5b :: (proxy.host ++ 0x5d :: 0x3a :: ascii (toString n)) := by
      simp [ascii]
    rw [if_pos hcolon, htext]
    simp only [splitHostPort, after_append hclose, before_append hclose]
  · have htext : proxy.host ++ ascii ":" ++ ascii (toString n) = proxy.host ++ 0x3a :: ascii (toString n) := by
      simp [ascii]
    have hmem : (0x3a : UInt8) ∈ proxy.host ++ 0x3a :: ascii (toString n) := by simp
    rw [if_neg hcolon, htext]
    unfold splitHostPort
    split
    · rename_i bracketed heq
      -- a plain host does not begin with a bracket
      have hopen : (0x5b : UInt8) ∉ proxy.host := h.not_mem_host (by decide)
      cases hhost : proxy.host with
      | nil =>
        rw [hhost] at heq
        cases heq
      | cons b rest =>
        rw [hhost] at heq hopen
        exact absurd (List.cons.inj heq).1 fun he => hopen (he ▸ List.mem_cons_self)
    · rw [if_pos hmem, before_append hcolon, after_append hcolon]

theorem not_mem_hostPort (h : proxy.Accepted) (n : Nat) (hc : refusedHostByte c = true)
    (hbracket : c ≠ 0x5b ∧ c ≠ 0x5d) : c ∉ hostPort proxy n := by
  have hhost := h.not_mem_host hc
  have hcolon : c ≠ 0x3a := by
    rintro rfl
    cases hc
  have hdigits : c ∉ ascii (toString n) := by
    intro hmem
    obtain ⟨hlow, hhigh⟩ := Launch.ascii_toString_digit n c hmem
    simp only [refusedHostByte, Bool.or_eq_true, decide_eq_true_eq, beq_iff_eq] at hc
    rcases hc with (((((((hspace | rfl) | rfl) | rfl) | rfl) | rfl) | rfl) | rfl) | rfl
    · omega
    all_goals revert hlow hhigh; decide
  unfold hostPort
  split
  · simp only [List.mem_append, not_or]
    exact ⟨⟨⟨by simpa [ascii] using hbracket.1, hhost⟩, by simpa [ascii] using ⟨hbracket.2, hcolon⟩⟩, hdigits⟩
  · simp only [List.mem_append, not_or]
    exact ⟨⟨hhost, by simpa [ascii] using hcolon⟩, hdigits⟩

/-- The authority: the credentials, if there is a user name, and the host with its port. -/
theorem splitUserinfo_authority (h : proxy.Accepted) (n : Nat) :
    splitUserinfo ((if proxy.username ≠ [] then
        encodeProxyCredential proxy.username ++ ascii ":" ++ encodeProxyCredential proxy.password ++ ascii "@"
          else []) ++ hostPort proxy n) =
      ((proxy.username, proxy.password), hostPort proxy n) := by
  by_cases hu : proxy.username = []
  · have hat : (0x40 : UInt8) ∉ hostPort proxy n := not_mem_hostPort h n (by decide) (by decide)
    rw [if_neg (not_not.mpr hu), List.nil_append, splitUserinfo, if_neg hat, hu, h.credentials hu]
  · have hcolon : (0x3a : UInt8) ∉ encodeProxyCredential proxy.username := not_mem_credential _ (by decide) (by decide)
    have hat : (0x40 : UInt8) ∉ encodeProxyCredential proxy.username ++ 0x3a :: encodeProxyCredential proxy.password := by
      rw [List.mem_append, List.mem_cons]
      rintro (hmem | hcolon | hmem)
      · exact not_mem_credential _ (by decide) (by decide) hmem
      · cases hcolon
      · exact not_mem_credential _ (by decide) (by decide) hmem
    have htext : encodeProxyCredential proxy.username ++ ascii ":" ++ encodeProxyCredential proxy.password ++
        ascii "@" ++ hostPort proxy n =
        (encodeProxyCredential proxy.username ++ 0x3a :: encodeProxyCredential proxy.password) ++ 0x40 :: hostPort proxy n := by
      simp [ascii]
    rw [if_pos hu, htext, splitUserinfo, if_pos (by simp)]
    dsimp only
    rw [before_append hat, after_append hat, before_append hcolon, after_append hcolon, decodePath_encode, decodePath_encode]

theorem splitProxyUrl_authority {scheme authority : Text} (hs : (0x3a : UInt8) ∉ scheme) :
    splitProxyUrl (scheme ++ 0x3a :: 0x2f :: 0x2f :: authority) =
      if authority.any (fun b => b == 0x2f || b == 0x3f || b == 0x23) then none
      else
        match splitHostPort (splitUserinfo authority).2 with
        | none => none
        | some (host, port) =>
          (wholeNumber port).map fun (n : Nat) =>
            ⟨scheme, host, (n : Int), (splitUserinfo authority).1.1, (splitUserinfo authority).1.2⟩ := by
  rw [splitProxyUrl, dropWhile_append hs, before_append hs]
  rfl

theorem buildNetworkProxyUrl_eq {n : Nat} (hn : proxy.port = (n : Int)) :
    buildNetworkProxyUrl proxy true = proxy.scheme ++ 0x3a :: 0x2f :: 0x2f ::
      ((if proxy.username ≠ [] then
        encodeProxyCredential proxy.username ++ ascii ":" ++ encodeProxyCredential proxy.password ++ ascii "@"
          else []) ++ hostPort proxy n) := by
  have hport : toString proxy.port = toString n := by rw [hn]; rfl
  unfold buildNetworkProxyUrl hostPort
  rw [hport]
  by_cases hcolon : 0x3a ∈ proxy.host
  · simp [hcolon, ascii]
  · simp [hcolon, ascii]

/-- The parts of the URL are those of the configuration. -/
theorem splitProxyUrl_build (h : proxy.Accepted) : splitProxyUrl (buildNetworkProxyUrl proxy true) = some proxy := by
  obtain ⟨n, hn⟩ := Int.eq_ofNat_of_zero_le h.port.le
  have hscheme : (0x3a : UInt8) ∉ proxy.scheme := by
    rcases h.scheme with hs | hs <;> rw [hs] <;> decide
  have hauthority : ((if proxy.username ≠ [] then
        encodeProxyCredential proxy.username ++ ascii ":" ++ encodeProxyCredential proxy.password ++ ascii "@"
          else []) ++ hostPort proxy n).any
      (fun b => b == 0x2f || b == 0x3f || b == 0x23) = false := by
    rw [List.any_eq_false]
    intro b hb hend
    have hdelimiter : refusedHostByte b = true ∧ (b ≠ 0x5b ∧ b ≠ 0x5d) ∧ unreserved b = false ∧ b ≠ 0x25 ∧ b ≠ 0x3a ∧
        b ≠ 0x40 := by
      simp only [Bool.or_eq_true, beq_iff_eq] at hend
      rcases hend with (rfl | rfl) | rfl <;> decide
    obtain ⟨hrefused, hbracket, hreserved, hpercent, hcolon, hat⟩ := hdelimiter
    rcases List.mem_append.mp hb with hb | hb
    · split at hb
      · simp only [List.mem_append] at hb
        rcases hb with ((hb | hb) | hb) | hb
        · exact not_mem_credential _ hreserved hpercent hb
        · exact hcolon (by simpa [ascii] using hb)
        · exact not_mem_credential _ hreserved hpercent hb
        · exact hat (by simpa [ascii] using hb)
      · cases hb
    · exact not_mem_hostPort h n hrefused hbracket hb
  rw [buildNetworkProxyUrl_eq hn, splitProxyUrl_authority hscheme, hauthority, if_neg (by decide), splitUserinfo_authority h]
  dsimp only
  rw [splitHostPort_hostPort h]
  dsimp only
  rw [wholeNumber_toString, Option.map_some, ← hn]

/-- Proxy URLs are unambiguous. -/
theorem proxyUrls_unambiguous {host port scheme username password : Text} {proxy : NetworkProxyConfig}
    (h : parseNetworkProxyConfig host port scheme username password = some proxy) :
    splitProxyUrl (buildNetworkProxyUrl proxy true) = some proxy ∧
      ∀ {host' port' scheme' username' password' : Text} {proxy' : NetworkProxyConfig},
        parseNetworkProxyConfig host' port' scheme' username' password' = some proxy' →
          buildNetworkProxyUrl proxy' true = buildNetworkProxyUrl proxy true → proxy' = proxy := by
  have hsplit := splitProxyUrl_build (accepted_of_parse h)
  refine ⟨hsplit, ?_⟩
  intro host' port' scheme' username' password' proxy' h' heq
  have hsplit' := splitProxyUrl_build (accepted_of_parse h')
  rw [heq, hsplit] at hsplit'
  exact (Option.some.inj hsplit').symm

/-- A host with colons, and credentials with the delimiters of a URL. -/
theorem proxyUrls_unambiguous_delimiters :
    parseNetworkProxyConfig (ascii "::1") (ascii "0080") (ascii "https") (ascii "a:b@c") (ascii "/%") =
        some ⟨ascii "http", ascii "::1", 80, ascii "a:b@c", ascii "/%"⟩ ∧
      splitProxyUrl (buildNetworkProxyUrl ⟨ascii "http", ascii "::1", 80, ascii "a:b@c", ascii "/%"⟩ true) =
        some ⟨ascii "http", ascii "::1", 80, ascii "a:b@c", ascii "/%"⟩ := by
  have hparse : parseNetworkProxyConfig (ascii "::1") (ascii "0080") (ascii "https") (ascii "a:b@c") (ascii "/%") =
      some ⟨ascii "http", ascii "::1", 80, ascii "a:b@c", ascii "/%"⟩ := by decide +kernel
  exact ⟨hparse, (proxyUrls_unambiguous hparse).1⟩

end Mocktail.Runtime
