/-
  Mocktail.Update.ApkSignature — APK Signature Scheme v2/v3 (src/update/apk_signature.cc).

  OpenSSL is a parameter (`Crypto`). A function of the source that returns false has set
  `*error` or has left it as it was, which is empty: `.error ""` is a false without a text.
  A `Span` whose data is null is `none`.

  The numbers in the file are little-endian; the bytes of one do not overlap, so the
  source's `|` is a sum here. The file is at least 32 bytes long (`mapFile`), so no
  subtraction below leaves the naturals.
-/

import Mocktail.Lib.Chunks
import Mocktail.Launch.Json

namespace Mocktail.Update

open Mocktail.Lib Mocktail.Launch

def kZipEocdSignature : Nat := 0x06054b50
def kV2BlockId : Nat := 0x7109871a
def kV3BlockId : Nat := 0xf05368c0
def kV31BlockId : Nat := 0x1b93ad61
def kChunkBytes : Nat := 1024 * 1024

/-- `APK Sig Block 42`. -/
def kSigningMagic : Bytes :=
  [0x41, 0x50, 0x4b, 0x20, 0x53, 0x69, 0x67, 0x20, 0x42, 0x6c, 0x6f, 0x63, 0x6b, 0x20, 0x34, 0x32]

def byteAt (bytes : Bytes) (i : Nat) : Nat := (bytes.getD i 0).toNat

def u16 (bytes : Bytes) (i : Nat) : Nat := byteAt bytes i + byteAt bytes (i + 1) * 2 ^ 8

def u32 (bytes : Bytes) (i : Nat) : Nat :=
  byteAt bytes i + byteAt bytes (i + 1) * 2 ^ 8 + byteAt bytes (i + 2) * 2 ^ 16 + byteAt bytes (i + 3) * 2 ^ 24

def u64 (bytes : Bytes) (i : Nat) : Nat := u32 bytes i + u32 bytes (i + 4) * 2 ^ 32

def putU32 (value : Nat) : Bytes :=
  [UInt8.ofNat value, UInt8.ofNat (value / 2 ^ 8), UInt8.ofNat (value / 2 ^ 16), UInt8.ofNat (value / 2 ^ 24)]

/-- The bytes from one offset up to another. -/
def slice (bytes : Bytes) (first last : Nat) : Bytes := (bytes.drop first).take (last - first)

/-! ## Reader -/

/-- `Reader::U32Value`: the value, if there is one, and what remains. -/
def u32Value (span : Bytes) : Option Nat × Bytes :=
  if span.length < 4 then (none, span) else (some (u32 span 0), span.drop 4)

/-- `Reader::LengthPrefixed`. -/
def lengthPrefixed (span : Bytes) : Option Bytes × Bytes :=
  match u32Value span with
  | (none, rest) => (none, rest)
  | (some size, rest) => if rest.length < size then (none, rest) else (some (rest.take size), rest.drop size)

/-! ## The signing block -/

inductive ApkFile where
  | missing
  | irregular
  | unmappable (bytes : Bytes)
  | regular (bytes : Bytes)

def mapFile : ApkFile → Except String Bytes
  | .missing => .error "cannot open APK for signature verification"
  | .irregular => .error "APK is not a bounded regular file"
  | .unmappable bytes =>
    if bytes.length < 32 then .error "APK is not a bounded regular file"
    else .error "cannot map APK for signature verification"
  | .regular bytes => if bytes.length < 32 then .error "APK is not a bounded regular file" else .ok bytes

/-- An end record whose comment ends with the file. -/
def eocdAt (mapping : Bytes) (position : Nat) : Bool :=
  u32 mapping position == kZipEocdSignature && position + 22 + u16 mapping (position + 20) == mapping.length

def findEocdFrom (mapping : Bytes) (minimum : Nat) : Nat → Option Nat
  | 0 => if eocdAt mapping 0 then some 0 else none
  | position + 1 =>
    if eocdAt mapping (position + 1) then some (position + 1)
    else if position + 1 = minimum then none
    else findEocdFrom mapping minimum position

def findEocd (mapping : Bytes) : Except String Nat :=
  match findEocdFrom mapping (mapping.length - 65557) (mapping.length - 22) with
  | some eocd => .ok eocd
  | none => .error "APK has no valid ZIP end record"

/-- The values of the three schemes. -/
structure Schemes where
  v2 : Option Bytes := none
  v3 : Option Bytes := none
  v31 : Option Bytes := none
  deriving DecidableEq, Repr

structure SigningBlock where
  schemes : Schemes
  first : Nat
  centralDirectory : Nat
  eocd : Nat
  deriving DecidableEq, Repr

/-- A pair of the block: its value is kept if its id is a scheme's. -/
def keepPair (id : Nat) (value : Bytes) (schemes : Schemes) : Except String Schemes :=
  let keep (held : Option Bytes) (put : Schemes) : Except String Schemes :=
    match held with
    | some _ => .error "APK contains a duplicate signature scheme block"
    | none => .ok put
  if id = kV31BlockId then keep schemes.v31 { schemes with v31 := some value }
  else if id = kV3BlockId then keep schemes.v3 { schemes with v3 := some value }
  else if id = kV2BlockId then keep schemes.v2 { schemes with v2 := some value }
  else .ok schemes

/-- One pair: where the next one is, and the schemes with its value. -/
def readPair (mapping : Bytes) (pairsEnd cursor : Nat) (schemes : Schemes) : Except String (Nat × Schemes) := do
  if pairsEnd - cursor < 12 then throw "APK signing block pair is truncated"
  let pairSize := u64 mapping cursor
  let cursor := cursor + 8
  if pairSize < 4 ∨ pairsEnd - cursor < pairSize then throw "APK signing block pair has an invalid size"
  let schemes ← keepPair (u32 mapping cursor) (slice mapping (cursor + 4) (cursor + pairSize)) schemes
  return (cursor + pairSize, schemes)

/-- The loop over the pairs; each is at least 12 bytes long. -/
def readPairs (mapping : Bytes) (pairsEnd : Nat) : Nat → Nat → Schemes → Except String (Nat × Schemes)
  | 0, cursor, schemes => .ok (cursor, schemes)
  | fuel + 1, cursor, schemes =>
    if cursor < pairsEnd then
      match readPair mapping pairsEnd cursor schemes with
      | .error e => .error e
      | .ok (next, schemes) => readPairs mapping pairsEnd fuel next schemes
    else .ok (cursor, schemes)

def parseSigningBlock (mapping : Bytes) : Except String SigningBlock := do
  let eocd ← findEocd mapping
  let centralDirectory := u32 mapping (eocd + 16)
  if centralDirectory < 32 ∨ eocd < centralDirectory ∨
      slice mapping (centralDirectory - 16) centralDirectory ≠ kSigningMagic then
    throw "APK has no Signature Scheme v2/v3 block"
  let footerSize := u64 mapping (centralDirectory - 24)
  if footerSize < 24 ∨ centralDirectory - 8 < footerSize then throw "APK signing block size is invalid"
  let first := centralDirectory - (footerSize + 8)
  if u64 mapping first ≠ footerSize then throw "APK signing block size headers disagree"
  let (cursor, schemes) ← readPairs mapping (centralDirectory - 24) mapping.length (first + 8) {}
  if cursor ≠ centralDirectory - 24 ∨ schemes.v2 = none ∧ schemes.v3 = none ∧ schemes.v31 = none then
    throw "APK has no supported signing scheme"
  return { schemes, first, centralDirectory, eocd }

/-! ## OpenSSL -/

inductive DigestKind where
  | sha256 | sha512
  deriving DecidableEq, Repr

/-- `EVP_MD_get_size`. -/
def DigestKind.size : DigestKind → Nat
  | .sha256 => 32
  | .sha512 => 64

structure SignatureAlgorithm where
  id : Nat
  digest : DigestKind
  pss : Bool
  deriving DecidableEq, Repr

def supportedAlgorithm (id : Nat) : Option SignatureAlgorithm :=
  if id = 0x0101 then some ⟨id, .sha256, true⟩
  else if id = 0x0102 then some ⟨id, .sha512, true⟩
  else if id = 0x0103 then some ⟨id, .sha256, false⟩
  else if id = 0x0104 then some ⟨id, .sha512, false⟩
  else if id = 0x0201 then some ⟨id, .sha256, false⟩
  else if id = 0x0202 then some ⟨id, .sha512, false⟩
  else if id = 0x0301 then some ⟨id, .sha256, false⟩
  else none

/-- What `VerifySignedData` comes to. -/
inductive Verdict where
  | notInitialised | notConfigured | bad | good
  deriving DecidableEq, Repr

structure Crypto (Key Certificate : Type) where
  /-- A digest of some bytes; none is an EVP call that failed. -/
  digest : DigestKind → Bytes → Option Bytes
  /-- The key in a DER prefix, and how many bytes of it were read. -/
  d2iPubkey : Bytes → Option (Key × Nat)
  d2iX509 : Bytes → Option (Certificate × Nat)
  getPubkey : Certificate → Option Key
  sameKey : Key → Key → Bool
  /-- Of a signature over some data. -/
  verify : SignatureAlgorithm → Key → Bytes → Bytes → Verdict

section
variable {Key Certificate : Type} (crypto : Crypto Key Certificate)

/-- `DigestParts`. -/
def digestParts (kind : DigestKind) (parts : List Bytes) : Option Bytes :=
  match crypto.digest kind parts.flatten with
  | none => none
  | some hash => if hash.length = kind.size then some hash else none

/-! ## The content digest -/

/-- The end record with the offset of the signing block in the place of the central directory's. -/
def patchedEocd (mapping : Bytes) (block : SigningBlock) : Bytes :=
  let eocd := mapping.drop block.eocd
  eocd.take 16 ++ putU32 block.first ++ eocd.drop 20

def sections (mapping : Bytes) (block : SigningBlock) : List Bytes :=
  [mapping.take block.first, slice mapping block.centralDirectory block.eocd, patchedEocd mapping block]

/-- What is hashed for a chunk. -/
def chunkInput (chunk : Bytes) : Bytes := 0xa5 :: putU32 chunk.length ++ chunk

/-- The digests of the chunks, one after the other. -/
def digestChunks (kind : DigestKind) : List Bytes → Except String Bytes
  | [] => .ok []
  | chunk :: rest =>
    match digestParts crypto kind [0xa5 :: putU32 chunk.length, chunk] with
    | none => .error "cannot hash APK content chunk"
    | some hash =>
      match digestChunks kind rest with
      | .error e => .error e
      | .ok hashes => .ok (hash ++ hashes)

def computeContentDigest (mapping : Bytes) (block : SigningBlock) (kind : DigestKind) : Except String Bytes := do
  if (mapping.drop block.eocd).length < 20 ∨ 0xffffffff < block.first then
    throw "APK is too large for Signature Scheme v2/v3"
  let chunkCount := ((sections mapping block).map fun part => (part.length + kChunkBytes - 1) / kChunkBytes).sum
  if chunkCount = 0 ∨ 0xffffffff < chunkCount then throw "APK content chunk count is invalid"
  let hashes ← digestChunks crypto kind ((sections mapping block).flatMap (chunks kChunkBytes))
  match digestParts crypto kind [0x5a :: putU32 chunkCount, hashes] with
  | none => throw "cannot hash APK content digest list"
  | some digest => return digest

/-! ## Signers -/

structure IdBytes where
  id : Nat
  bytes : Bytes
  deriving DecidableEq, Repr

def readIdRecord (record : Bytes) : Option IdBytes :=
  match u32Value record with
  | (none, _) => none
  | (some id, rest) =>
    match lengthPrefixed rest with
    | (some bytes, []) => some { id, bytes }
    | _ => none

/-- The loop of `ParseIdSequence`; a record takes at least 4 bytes. -/
def idRecords : Nat → Bytes → Except String (List IdBytes)
  | 0, _ => .ok []
  | fuel + 1, records =>
    if records.length = 0 then .ok []
    else
      match lengthPrefixed records with
      | (none, _) => .error "APK signer record is malformed"
      | (some record, rest) =>
        match readIdRecord record with
        | none => .error "APK signer algorithm record is malformed"
        | some value =>
          match idRecords fuel rest with
          | .error e => .error e
          | .ok values => .ok (value :: values)

/-- False without a text for an empty sequence. -/
def parseIdSequence (sequence : Bytes) : Except String (List IdBytes) :=
  match idRecords sequence.length sequence with
  | .error e => .error e
  | .ok [] => .error ""
  | .ok values => .ok values

/-- The bounds of a v3 SDK range. -/
def sdkRange (span : Bytes) : Option (Nat × Nat) × Bytes :=
  match u32Value span with
  | (none, rest) => (none, rest)
  | (some minimum, rest) =>
    match u32Value rest with
    | (none, rest) => (none, rest)
    | (some maximum, rest) => (some (minimum, maximum), rest)

structure SignerFields where
  signedData : Bytes
  sdk : Option (Nat × Nat)
  signatures : Bytes
  publicKey : Bytes

def readSignerFields (signer : Bytes) (v3 : Bool) : Except String SignerFields := do
  match lengthPrefixed signer with
  | (none, _) => throw "APK signer has no signed data"
  | (some signedData, rest) =>
    let (sdk, rest) ←
      if v3 then
        match sdkRange rest with
        | (some (minimum, maximum), rest) =>
          if maximum < minimum then throw "APK v3 signer SDK range is invalid" else pure (some (minimum, maximum), rest)
        | (none, _) => throw "APK v3 signer SDK range is invalid"
      else pure (none, rest)
    let malformed (rest : Bytes) : Except String SignerFields :=
      .error s!"APK signer fields are malformed (signer={signer.length}, signed={signedData.length}, remaining={rest.length})"
    match lengthPrefixed rest with
    | (none, rest) => malformed rest
    | (some signatures, rest) =>
      match lengthPrefixed rest with
      | (none, rest) => malformed rest
      | (some publicKey, rest) =>
        if rest.length = 0 then return { signedData, sdk, signatures, publicKey } else malformed rest

structure SignedData where
  digests : Bytes
  certificates : Bytes
  sdk : Option (Nat × Nat)

/-- apksig appends one empty field to v2 signed data: nothing else may follow the attributes. -/
def readReserved (rest : Bytes) (v3 : Bool) : Except String Bytes :=
  if v3 = false ∧ rest.length ≠ 0 then
    match lengthPrefixed rest with
    | (some [], rest) => .ok rest
    | _ => .error "APK v2 signed-data reserved field is malformed"
  else .ok rest

def readSignedData (signedData : Bytes) (v3 : Bool) : Except String SignedData := do
  match lengthPrefixed signedData with
  | (none, _) => throw "APK signed-data digest list is malformed"
  | (some digests, rest) =>
    match lengthPrefixed rest with
    | (none, _) => throw "APK signed-data certificate list is malformed"
    | (some certificates, rest) =>
      let (sdk, rest) ←
        if v3 then
          match sdkRange rest with
          | (some range, rest) => pure (some range, rest)
          | (none, _) => throw "APK v3 signed-data SDK range is malformed"
        else pure (none, rest)
      match lengthPrefixed rest with
      | (none, _) => throw "APK signed-data attributes are malformed"
      | (some _, rest) =>
        let rest ← readReserved rest v3
        if rest.length ≠ 0 then throw s!"APK signed-data has trailing fields: {rest.length}"
        return { digests, certificates, sdk }

/-- The algorithm that is checked, with its signature and its digest. -/
structure Selected where
  algorithm : SignatureAlgorithm
  signature : Bytes
  digest : Bytes
  deriving DecidableEq, Repr

/-- The first signature with an algorithm that is supported and has a digest. -/
def selectAlgorithm (digests : List IdBytes) : List IdBytes → Option Selected
  | [] => none
  | record :: rest =>
    match supportedAlgorithm record.id with
    | none => selectAlgorithm digests rest
    | some algorithm =>
      match digests.find? (·.id == algorithm.id) with
      | none => selectAlgorithm digests rest
      | some digest => some { algorithm, signature := record.bytes, digest := digest.bytes }

def selectEvidence (digests signatures : Bytes) : Except String Selected := do
  let digestRecords ← parseIdSequence digests
  let signatureRecords ← parseIdSequence signatures
  if digestRecords.map (·.id) ≠ signatureRecords.map (·.id) then
    throw "APK signer digest and signature algorithms disagree"
  match selectAlgorithm digestRecords signatureRecords with
  | none => throw "APK signer has no supported matching signature and digest"
  | some selected => return selected

def readPublicKey (bytes : Bytes) : Except String Key :=
  match crypto.d2iPubkey bytes with
  | some (key, size) => if size = bytes.length then .ok key else .error "APK signer public key is malformed"
  | none => .error "APK signer public key is malformed"

def verifySignedData (signedData signature : Bytes) (algorithm : SignatureAlgorithm) (key : Key) : Except String Unit :=
  match crypto.verify algorithm key signature signedData with
  | .notInitialised => .error "cannot initialise APK signer verification"
  | .notConfigured => .error "cannot configure APK RSA-PSS verification"
  | .bad => .error "APK signer signature verification failed"
  | .good => .ok ()

def checkContentDigest (mapping : Bytes) (block : SigningBlock) (selected : Selected) : Except String Unit := do
  let calculated ← computeContentDigest crypto mapping block selected.algorithm.digest
  if selected.digest ≠ calculated then throw "APK content digest verification failed"

/-- `Hex`. -/
def hex (bytes : Bytes) : Text :=
  let digit (n : Nat) : UInt8 := if n < 10 then UInt8.ofNat (0x30 + n) else UInt8.ofNat (0x57 + n)
  bytes.flatMap fun b => [digit (b.toNat / 16), digit (b.toNat % 16)]

/-- One certificate: its fingerprint, once its key has been compared if it is the leaf. -/
def readCertificate (key : Key) (leaf : Bool) (encoded : Bytes) : Except String Text := do
  match crypto.d2iX509 encoded with
  | none => throw "APK signer certificate is malformed"
  | some (certificate, size) =>
    if size ≠ encoded.length then throw "APK signer certificate is malformed"
    if leaf ∧ ((crypto.getPubkey certificate).any fun certificateKey => crypto.sameKey certificateKey key) = false then
      throw "APK signer public key does not match its certificate"
    match crypto.digest .sha256 encoded with
    | some hash => if hash.length = 32 then return hex hash else throw "cannot hash APK signing certificate"
    | none => throw "cannot hash APK signing certificate"

/-- The certificates of a signer: the fingerprint of the first. -/
def readCertificates (key : Key) : Nat → Option Text → Bytes → Except String Text
  | 0, _, _ => .error "APK signer has no certificate"
  | fuel + 1, leaf, sequence =>
    if sequence.length = 0 then
      match leaf with
      | none => .error "APK signer has no certificate"
      | some fingerprint => .ok fingerprint
    else
      match lengthPrefixed sequence with
      | (none, _) => .error "APK signer certificate sequence is malformed"
      | (some encoded, rest) =>
        if encoded.length = 0 then .error "APK signer certificate sequence is malformed"
        else
          match readCertificate crypto key leaf.isNone encoded with
          | .error e => .error e
          | .ok fingerprint => readCertificates key fuel (some (leaf.getD fingerprint)) rest

/-- `VerifySigner`: the fingerprint it adds. -/
def verifySigner (mapping : Bytes) (block : SigningBlock) (signer : Bytes) (v3 : Bool) : Except String Text := do
  let fields ← readSignerFields signer v3
  let signed ← readSignedData fields.signedData v3
  if fields.sdk ≠ signed.sdk then throw "APK signed-data has a mismatched SDK range"
  let selected ← selectEvidence signed.digests fields.signatures
  let key ← readPublicKey crypto fields.publicKey
  verifySignedData crypto fields.signedData selected.signature selected.algorithm key
  checkContentDigest crypto mapping block selected
  readCertificates crypto key (signed.certificates.length + 1) none signed.certificates

/-! ## The scheme -/

/-- The loop over the signers; a false without a text becomes one here. -/
def verifySigners (mapping : Bytes) (block : SigningBlock) (v3 : Bool) : Nat → Nat → Bytes → Except String (List Text)
  | 0, _, _ => .ok []
  | fuel + 1, count, signers =>
    if signers.length = 0 then .ok []
    else
      match lengthPrefixed signers with
      | (none, _) => .error "APK signer sequence is malformed"
      | (some signer, rest) =>
        if signer.length = 0 then .error "APK signer sequence is malformed"
        else
          match verifySigner crypto mapping block signer v3 with
          | .error e => .error (if e = "" then "APK signer sequence is malformed" else e)
          | .ok fingerprint =>
            if 16 < count + 1 then .error "APK contains too many signers"
            else
              match verifySigners mapping block v3 fuel (count + 1) rest with
              | .error e => .error e
              | .ok fingerprints => .ok (fingerprint :: fingerprints)

def verifyScheme (mapping : Bytes) (block : SigningBlock) (scheme : Bytes) (v3 : Bool) : Except String (List Text) :=
  match lengthPrefixed scheme with
  | (some signers, []) =>
    match verifySigners crypto mapping block v3 signers.length 0 signers with
    | .error e => .error e
    -- `return signer_count > 0`
    | .ok [] => .error ""
    | .ok fingerprints => .ok fingerprints
  | _ => .error "APK signature scheme signer container is malformed"

structure ApkSignatureResult where
  certificateSha256 : List Text := []
  error : String := ""
  deriving DecidableEq, Repr

/-- The conversion to bool. -/
def ApkSignatureResult.truthy (result : ApkSignatureResult) : Bool := result.error == ""

/-- `std::unique`. -/
def unique : List Text → List Text
  | [] => []
  | a :: rest =>
    match unique rest with
    | [] => [a]
    | b :: more => if a = b then b :: more else a :: b :: more

/-- v2 if there is one. -/
def selectScheme (schemes : Schemes) : Bytes × Bool :=
  match schemes.v2 with
  | some scheme => (scheme, false)
  | none =>
    match schemes.v31 with
    | some scheme => (scheme, true)
    | none => (schemes.v3.getD [], true)

def verifyApkSignature (file : ApkFile) : ApkSignatureResult :=
  match mapFile file with
  | .error error => { error }
  | .ok mapping =>
    match parseSigningBlock mapping with
    | .error error => { error }
    | .ok block =>
      match verifyScheme crypto mapping block (selectScheme block.schemes).1 (selectScheme block.schemes).2 with
      | .error error => { error }
      | .ok fingerprints =>
        { certificateSha256 := unique (fingerprints.mergeSort fun a b => !textBefore b a) }

end

end Mocktail.Update
