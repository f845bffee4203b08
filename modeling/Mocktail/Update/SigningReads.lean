/-
  Mocktail.Update.SigningReads — the offsets at which the APK signature is read
  (src/update/apk_signature.cc).

  `Update.ApkSignature` has the functions of the source over the bytes of their spans. Here the
  same functions run over offsets in the file, in `Traced Event`: each byte that is read, each
  span that is built and each size or offset that is computed is logged, with the exact value
  and the type it is computed in. A span is logged with the signing block it is built in, which
  the source does not pass on; the functions that build one have it as `block`.

  `size_t` has 64 bits. The loop of `FindEocd` counts down; the others run on fuel, and running
  out of it is an event of its own.
-/

import Mocktail.Update.AndroidManifest
import Mocktail.Update.ApkSignature

namespace Mocktail.Update.Signing

open Mocktail.Lib Mocktail.Launch
open Mocktail.Update.Manifest (Event View byte sizeT copyBytes)

/-- A byte of the file. -/
def fileByte (mapping : Bytes) (offset : Nat) : Traced Event Nat := byte mapping ⟨0, mapping.length⟩ offset

def u32At (mapping : Bytes) (offset : Nat) : Traced Event Nat := do
  let b₀ ← fileByte mapping offset
  let i₁ ← sizeT (offset + 1)
  let b₁ ← fileByte mapping i₁
  let i₂ ← sizeT (offset + 2)
  let b₂ ← fileByte mapping i₂
  let i₃ ← sizeT (offset + 3)
  let b₃ ← fileByte mapping i₃
  return b₀ + b₁ * 2 ^ 8 + b₂ * 2 ^ 16 + b₃ * 2 ^ 24

def u64At (mapping : Bytes) (offset : Nat) : Traced Event Nat := do
  let low ← u32At mapping offset
  let next ← sizeT (offset + 4)
  let high ← u32At mapping next
  return low + high * 2 ^ 32

/-- The bytes of a span, for `memcmp`, a copy or a call of OpenSSL. -/
def spanBytes (mapping : Bytes) (span : View) : Traced Event Bytes := copyBytes mapping span span.size 0

/-- The bytes from `begin` to the central directory. -/
structure Window where
  first : Nat
  last : Nat
  deriving DecidableEq, Repr

def newSpan (block : Window) (base size : Nat) : Traced Event View := ⟨⟨base, size⟩, [.view block.first block.last base size]⟩

def outOfFuel {α : Type} (a : α) : Traced Event α := ⟨a, [.exhausted]⟩

/-! ## Reader -/

structure Reader where
  span : View
  position : Nat := 0
  deriving DecidableEq, Repr

namespace Reader

def remaining (r : Reader) : Traced Event Nat := sizeT (r.span.size - r.position)

def u32Value (mapping : Bytes) (r : Reader) : Traced Event (Option Nat × Reader) := do
  let left ← r.remaining
  if left < 4 then return (none, r)
  else do
    let place ← sizeT (r.span.base + r.position)
    let value ← u32At mapping place
    let next ← sizeT (r.position + 4)
    return (some value, { r with position := next })

def lengthPrefixed (mapping : Bytes) (block : Window) (r : Reader) : Traced Event (Option View × Reader) := do
  match ← r.u32Value mapping with
  | (none, r) => return (none, r)
  | (some size, r) => do
    let left ← r.remaining
    if left < size then return (none, r)
    else do
      let base ← sizeT (r.span.base + r.position)
      let value ← newSpan block base size
      let next ← sizeT (r.position + size)
      return (some value, { r with position := next })

end Reader

/-! ## The signing block -/

def eocdAt (mapping : Bytes) (position : Nat) : Traced Event Bool := do
  let signature ← u32At mapping position
  if signature ≠ kZipEocdSignature then return false
  else do
    let i ← sizeT (position + 20)
    let low ← fileByte mapping i
    let j ← sizeT (position + 21)
    let high ← fileByte mapping j
    let last ← sizeT (position + 22 + (low + high * 2 ^ 8))
    return last == mapping.length

def findEocdFrom (mapping : Bytes) (minimum : Nat) : Nat → Traced Event (Option Nat)
  | 0 => do
    if ← eocdAt mapping 0 then return some 0
    else if 0 = minimum then return none
    else do
      -- `--position` would wrap.
      let _ ← sizeT (0 - 1)
      return none
  | position + 1 => do
    if ← eocdAt mapping (position + 1) then return some (position + 1)
    else if position + 1 = minimum then return none
    else findEocdFrom mapping minimum position

/-- The lowest position of an end record, whose comment is shorter than 65536 bytes. -/
def minimumEocd (mapping : Bytes) : Traced Event Nat :=
  if 65557 < mapping.length then sizeT (mapping.length - 65557) else return 0

def findEocd (mapping : Bytes) : Traced Event (Except String Nat) := do
  let minimum ← minimumEocd mapping
  let position ← sizeT (mapping.length - 22)
  match ← findEocdFrom mapping minimum position with
  | some eocd => return .ok eocd
  | none => return .error "APK has no valid ZIP end record"

structure Spans where
  v2 : Option View := none
  v3 : Option View := none
  v31 : Option View := none
  deriving DecidableEq, Repr

structure Block where
  spans : Spans
  first : Nat
  centralDirectory : Nat
  eocd : Nat
  deriving DecidableEq, Repr

def Block.window (block : Block) : Window := ⟨block.first, block.centralDirectory⟩

def keepPair (id : Nat) (value : View) (spans : Spans) : Except String Spans :=
  let keep (held : Option View) (put : Spans) : Except String Spans :=
    match held with
    | some _ => .error "APK contains a duplicate signature scheme block"
    | none => .ok put
  if id = kV31BlockId then keep spans.v31 { spans with v31 := some value }
  else if id = kV3BlockId then keep spans.v3 { spans with v3 := some value }
  else if id = kV2BlockId then keep spans.v2 { spans with v2 := some value }
  else .ok spans

def readPair (mapping : Bytes) (block : Window) (pairsEnd cursor : Nat) (spans : Spans) :
    Traced Event (Except String (Nat × Spans)) := do
  let left ← sizeT (pairsEnd - cursor)
  if left < 12 then return .error "APK signing block pair is truncated"
  else do
    let pairSize ← u64At mapping cursor
    let cursor ← sizeT (cursor + 8)
    if pairSize < 4 then return .error "APK signing block pair has an invalid size"
    else do
      let left ← sizeT (pairsEnd - cursor)
      if left < pairSize then return .error "APK signing block pair has an invalid size"
      else do
        let id ← u32At mapping cursor
        let base ← sizeT (cursor + 4)
        let size ← sizeT (pairSize - 4)
        let value ← newSpan block base size
        match keepPair id value spans with
        | .error e => return .error e
        | .ok spans => do
          let next ← sizeT (cursor + pairSize)
          return .ok (next, spans)

def readPairs (mapping : Bytes) (block : Window) (pairsEnd : Nat) : Nat → Nat → Spans → Traced Event (Except String (Nat × Spans))
  | 0, cursor, spans => if cursor < pairsEnd then outOfFuel (.ok (cursor, spans)) else return .ok (cursor, spans)
  | fuel + 1, cursor, spans =>
    if cursor < pairsEnd then do
      match ← readPair mapping block pairsEnd cursor spans with
      | .error e => return .error e
      | .ok (next, spans) => readPairs mapping block pairsEnd fuel next spans
    else return .ok (cursor, spans)

/-- `ParseSigningBlock` from where `begin` is known. -/
def parsePairs (mapping : Bytes) (eocd centralDirectory first : Nat) : Traced Event (Except String Block) := do
  let cursor ← sizeT (first + 8)
  let pairsEnd ← sizeT (centralDirectory - 24)
  match ← readPairs mapping ⟨first, centralDirectory⟩ pairsEnd mapping.length cursor {} with
  | .error e => return .error e
  | .ok (cursor, spans) =>
    if cursor ≠ pairsEnd ∨ spans.v2 = none ∧ spans.v3 = none ∧ spans.v31 = none then
      return .error "APK has no supported signing scheme"
    else return .ok { spans, first, centralDirectory, eocd }

/-- `ParseSigningBlock` from where the central directory is known to start after a signing block's magic. -/
def parseFooter (mapping : Bytes) (eocd centralDirectory : Nat) : Traced Event (Except String Block) := do
  let footerAt ← sizeT (centralDirectory - 24)
  let footerSize ← u64At mapping footerAt
  let largest ← sizeT (centralDirectory - 8)
  if footerSize < 24 ∨ largest < footerSize ∨ 2 ^ 64 - 1 - 8 < footerSize then return .error "APK signing block size is invalid"
  else do
    let totalSize ← sizeT (footerSize + 8)
    let first ← sizeT (centralDirectory - totalSize)
    let headerSize ← u64At mapping first
    if headerSize ≠ footerSize then return .error "APK signing block size headers disagree"
    else parsePairs mapping eocd centralDirectory first

def parseSigningBlock (mapping : Bytes) : Traced Event (Except String Block) := do
  match ← findEocd mapping with
  | .error e => return .error e
  | .ok eocd => do
    let directoryAt ← sizeT (eocd + 16)
    let centralDirectory ← u32At mapping directoryAt
    if centralDirectory < 32 ∨ eocd < centralDirectory then return .error "APK has no Signature Scheme v2/v3 block"
    else do
      let magicAt ← sizeT (centralDirectory - 16)
      let magic ← spanBytes mapping ⟨magicAt, 16⟩
      if magic ≠ kSigningMagic then return .error "APK has no Signature Scheme v2/v3 block"
      else parseFooter mapping eocd centralDirectory

/-! ## The content digest -/

/-- A `Span` of the file, or of the patched end record. -/
inductive Part where
  | file (span : View)
  | patched (bytes : Bytes)
  deriving DecidableEq, Repr

def Part.size : Part → Nat
  | .file span => span.size
  | .patched bytes => bytes.length

def Part.piece (mapping : Bytes) (offset size : Nat) : Part → Traced Event Bytes
  | .file span => do
    let base ← sizeT (span.base + offset)
    spanBytes mapping ⟨base, size⟩
  | .patched bytes => return slice bytes offset (offset + size)

section
variable {Key Certificate : Type} (crypto : Crypto Key Certificate)

/-- The digests of a section's chunks. -/
def digestPart (mapping : Bytes) (kind : DigestKind) (part : Part) : Nat → Nat → Traced Event (Except String Bytes)
  | 0, offset => if offset < part.size then outOfFuel (.ok []) else return .ok []
  | fuel + 1, offset =>
    if offset < part.size then do
      let left ← sizeT (part.size - offset)
      let chunk ← part.piece mapping offset (min kChunkBytes left)
      match digestParts crypto kind [0xa5 :: putU32 chunk.length, chunk] with
      | none => return .error "cannot hash APK content chunk"
      | some hash => do
        let next ← sizeT (offset + kChunkBytes)
        match ← digestPart mapping kind part fuel next with
        | .error e => return .error e
        | .ok hashes => return .ok (hash ++ hashes)
    else return .ok []

def digestSections (mapping : Bytes) (kind : DigestKind) : List Part → Traced Event (Except String Bytes)
  | [] => return .ok []
  | part :: rest => do
    match ← digestPart crypto mapping kind part part.size 0 with
    | .error e => return .error e
    | .ok hashes => do
      match ← digestSections mapping kind rest with
      | .error e => return .error e
      | .ok more => return .ok (hashes ++ more)

def countChunks : List Part → Nat → Traced Event Nat
  | [], count => return count
  | part :: rest, count => do
    let rounded ← sizeT (part.size + kChunkBytes - 1)
    let count ← sizeT (count + rounded / kChunkBytes)
    countChunks rest count

def computeContentDigest (mapping : Bytes) (block : Block) (kind : DigestKind) : Traced Event (Except String Bytes) := do
  let size ← sizeT (mapping.length - block.eocd)
  let eocd ← spanBytes mapping ⟨block.eocd, size⟩
  if eocd.length < 20 ∨ 0xffffffff < block.first then return .error "APK is too large for Signature Scheme v2/v3"
  else do
    let middle ← sizeT (block.eocd - block.centralDirectory)
    let parts := [.file ⟨0, block.first⟩, .file ⟨block.centralDirectory, middle⟩,
      .patched (eocd.take 16 ++ putU32 block.first ++ eocd.drop 20)]
    let chunkCount ← countChunks parts 0
    if chunkCount = 0 ∨ 0xffffffff < chunkCount then return .error "APK content chunk count is invalid"
    else do
      let _ ← sizeT (chunkCount * kind.size)
      match ← digestSections crypto mapping kind parts with
      | .error e => return .error e
      | .ok hashes =>
        match digestParts crypto kind [0x5a :: putU32 chunkCount, hashes] with
        | none => return .error "cannot hash APK content digest list"
        | some digest => return .ok digest

/-! ## Signers -/

structure IdSpan where
  id : Nat
  bytes : View
  deriving DecidableEq, Repr

def readIdRecord (mapping : Bytes) (block : Window) (record : View) : Traced Event (Option IdSpan) := do
  match ← Reader.u32Value mapping ⟨record, 0⟩ with
  | (none, _) => return none
  | (some id, fields) => do
    match ← fields.lengthPrefixed mapping block with
    | (none, _) => return none
    | (some bytes, fields) => do
      let left ← fields.remaining
      if left ≠ 0 then return none else return some { id, bytes }

def idRecords (mapping : Bytes) (block : Window) : Nat → Reader → Traced Event (Except String (List IdSpan))
  | 0, records => do
    let left ← records.remaining
    if left = 0 then return .ok [] else outOfFuel (.ok [])
  | fuel + 1, records => do
    let left ← records.remaining
    if left = 0 then return .ok []
    else do
      match ← records.lengthPrefixed mapping block with
      | (none, _) => return .error "APK signer record is malformed"
      | (some record, records) => do
        match ← readIdRecord mapping block record with
        | none => return .error "APK signer algorithm record is malformed"
        | some value => do
          match ← idRecords mapping block fuel records with
          | .error e => return .error e
          | .ok values => return .ok (value :: values)

def parseIdSequence (mapping : Bytes) (block : Window) (sequence : View) : Traced Event (Except String (List IdSpan)) := do
  match ← idRecords mapping block sequence.size ⟨sequence, 0⟩ with
  | .error e => return .error e
  | .ok [] => return .error ""
  | .ok values => return .ok values

def sdkRange (mapping : Bytes) (r : Reader) : Traced Event (Option (Nat × Nat) × Reader) := do
  match ← r.u32Value mapping with
  | (none, r) => return (none, r)
  | (some minimum, r) => do
    match ← r.u32Value mapping with
    | (none, r) => return (none, r)
    | (some maximum, r) => return (some (minimum, maximum), r)

structure FieldSpans where
  signedData : View
  sdk : Option (Nat × Nat)
  signatures : View
  publicKey : View
  deriving DecidableEq, Repr

/-- The SDK range of a v3 signer. -/
def signerRange (mapping : Bytes) (v3 : Bool) (r : Reader) : Traced Event (Except String (Option (Nat × Nat) × Reader)) :=
  if v3 then do
    match ← sdkRange mapping r with
    | (none, _) => return .error "APK v3 signer SDK range is invalid"
    | (some (minimum, maximum), r) =>
      if maximum < minimum then return .error "APK v3 signer SDK range is invalid"
      else return .ok (some (minimum, maximum), r)
  else return .ok (none, r)

def malformedText (signer signed remaining : Nat) : String :=
  s!"APK signer fields are malformed (signer={signer}, signed={signed}, remaining={remaining})"

def malformedFields (signer signedData : View) (r : Reader) : Traced Event (Except String FieldSpans) := do
  let left ← r.remaining
  return .error (malformedText signer.size signedData.size left)

def readSignerFields (mapping : Bytes) (block : Window) (signer : View) (v3 : Bool) :
    Traced Event (Except String FieldSpans) := do
  match ← Reader.lengthPrefixed mapping block ⟨signer, 0⟩ with
  | (none, _) => return .error "APK signer has no signed data"
  | (some signedData, r) => do
    match ← signerRange mapping v3 r with
    | .error e => return .error e
    | .ok (sdk, r) => do
      match ← r.lengthPrefixed mapping block with
      | (none, r) => malformedFields signer signedData r
      | (some signatures, r) => do
        match ← r.lengthPrefixed mapping block with
        | (none, r) => malformedFields signer signedData r
        | (some publicKey, r) => do
          let left ← r.remaining
          if left = 0 then return .ok { signedData, sdk, signatures, publicKey } else malformedFields signer signedData r

structure SignedSpans where
  digests : View
  certificates : View
  sdk : Option (Nat × Nat)
  deriving DecidableEq, Repr

def signedRange (mapping : Bytes) (v3 : Bool) (r : Reader) : Traced Event (Except String (Option (Nat × Nat) × Reader)) :=
  if v3 then do
    match ← sdkRange mapping r with
    | (none, _) => return .error "APK v3 signed-data SDK range is malformed"
    | (some range, r) => return .ok (some range, r)
  else return .ok (none, r)

def readReserved (mapping : Bytes) (block : Window) (v3 : Bool) (r : Reader) : Traced Event (Except String Reader) := do
  let left ← r.remaining
  if v3 = false ∧ left ≠ 0 then do
    match ← r.lengthPrefixed mapping block with
    | (none, _) => return .error "APK v2 signed-data reserved field is malformed"
    | (some reserved, r) =>
      if reserved.size ≠ 0 then return .error "APK v2 signed-data reserved field is malformed" else return .ok r
  else return .ok r

def trailingText (remaining : Nat) : String := s!"APK signed-data has trailing fields: {remaining}"

def readSignedData (mapping : Bytes) (block : Window) (signedData : View) (v3 : Bool) :
    Traced Event (Except String SignedSpans) := do
  match ← Reader.lengthPrefixed mapping block ⟨signedData, 0⟩ with
  | (none, _) => return .error "APK signed-data digest list is malformed"
  | (some digests, r) => do
    match ← r.lengthPrefixed mapping block with
    | (none, _) => return .error "APK signed-data certificate list is malformed"
    | (some certificates, r) => do
      match ← signedRange mapping v3 r with
      | .error e => return .error e
      | .ok (sdk, r) => do
        match ← r.lengthPrefixed mapping block with
        | (none, _) => return .error "APK signed-data attributes are malformed"
        | (some _, r) => do
          match ← readReserved mapping block v3 r with
          | .error e => return .error e
          | .ok r => do
            let left ← r.remaining
            if left ≠ 0 then return .error (trailingText left)
            else return .ok { digests, certificates, sdk }

/-- The algorithm, its signature and its digest. -/
def selectAlgorithm (digests : List IdSpan) : List IdSpan → Option (SignatureAlgorithm × View × View)
  | [] => none
  | record :: rest =>
    match supportedAlgorithm record.id with
    | none => selectAlgorithm digests rest
    | some algorithm =>
      match digests.find? (·.id == algorithm.id) with
      | none => selectAlgorithm digests rest
      | some digest => some (algorithm, record.bytes, digest.bytes)

def selectEvidence (mapping : Bytes) (block : Window) (digests signatures : View) :
    Traced Event (Except String (SignatureAlgorithm × View × View)) := do
  match ← parseIdSequence mapping block digests with
  | .error e => return .error e
  | .ok digestRecords => do
    match ← parseIdSequence mapping block signatures with
    | .error e => return .error e
    | .ok signatureRecords =>
      if digestRecords.map (·.id) ≠ signatureRecords.map (·.id) then
        return .error "APK signer digest and signature algorithms disagree"
      else
        match selectAlgorithm digestRecords signatureRecords with
        | none => return .error "APK signer has no supported matching signature and digest"
        | some selected => return .ok selected

def readCertificates (mapping : Bytes) (block : Window) (key : Key) : Nat → Option Text → Reader →
    Traced Event (Except String Text)
  | 0, _, _ => outOfFuel (.error "APK signer has no certificate")
  | fuel + 1, leaf, r => do
    let left ← r.remaining
    if left = 0 then
      match leaf with
      | none => return .error "APK signer has no certificate"
      | some fingerprint => return .ok fingerprint
    else do
      match ← r.lengthPrefixed mapping block with
      | (none, _) => return .error "APK signer certificate sequence is malformed"
      | (some span, r) =>
        if span.size = 0 then return .error "APK signer certificate sequence is malformed"
        else do
          let encoded ← spanBytes mapping span
          match readCertificate crypto key leaf.isNone encoded with
          | .error e => return .error e
          | .ok fingerprint => readCertificates mapping block key fuel (some (leaf.getD fingerprint)) r

/-- `VerifySigner` from where the evidence has been selected. -/
def checkEvidence (mapping : Bytes) (block : Block) (fields : FieldSpans) (signed : SignedSpans) (algorithm : SignatureAlgorithm)
    (signature digest : View) : Traced Event (Except String Text) := do
  let publicKey ← spanBytes mapping fields.publicKey
  match readPublicKey crypto publicKey with
  | .error e => return .error e
  | .ok key => do
    let signatureBytes ← spanBytes mapping signature
    let signedBytes ← spanBytes mapping fields.signedData
    match verifySignedData crypto signedBytes signatureBytes algorithm key with
    | .error e => return .error e
    | .ok () => do
      match ← computeContentDigest crypto mapping block algorithm.digest with
      | .error e => return .error e
      | .ok calculated => do
        -- The sizes are compared before the bytes.
        if digest.size ≠ calculated.length then return .error "APK content digest verification failed"
        else do
          let held ← spanBytes mapping digest
          if held ≠ calculated then return .error "APK content digest verification failed"
          else readCertificates crypto mapping block.window key (signed.certificates.size + 1) none ⟨signed.certificates, 0⟩

def verifySigner (mapping : Bytes) (block : Block) (signer : View) (v3 : Bool) : Traced Event (Except String Text) := do
  match ← readSignerFields mapping block.window signer v3 with
  | .error e => return .error e
  | .ok fields => do
    match ← readSignedData mapping block.window fields.signedData v3 with
    | .error e => return .error e
    | .ok signed =>
      if fields.sdk ≠ signed.sdk then return .error "APK signed-data has a mismatched SDK range"
      else do
        match ← selectEvidence mapping block.window signed.digests fields.signatures with
        | .error e => return .error e
        | .ok (algorithm, signature, digest) => checkEvidence crypto mapping block fields signed algorithm signature digest

/-! ## The scheme -/

def verifySigners (mapping : Bytes) (block : Block) (v3 : Bool) : Nat → Nat → Reader → Traced Event (Except String (List Text))
  | 0, _, signers => do
    let left ← signers.remaining
    if left = 0 then return .ok [] else outOfFuel (.ok [])
  | fuel + 1, count, signers => do
    let left ← signers.remaining
    if left = 0 then return .ok []
    else do
      match ← signers.lengthPrefixed mapping block.window with
      | (none, _) => return .error "APK signer sequence is malformed"
      | (some signer, signers) =>
        if signer.size = 0 then return .error "APK signer sequence is malformed"
        else do
          match ← verifySigner crypto mapping block signer v3 with
          | .error e => return .error (if e = "" then "APK signer sequence is malformed" else e)
          | .ok fingerprint => do
            let count ← sizeT (count + 1)
            if 16 < count then return .error "APK contains too many signers"
            else do
              match ← verifySigners mapping block v3 fuel count signers with
              | .error e => return .error e
              | .ok fingerprints => return .ok (fingerprint :: fingerprints)

def verifyScheme (mapping : Bytes) (block : Block) (scheme : View) (v3 : Bool) : Traced Event (Except String (List Text)) := do
  match ← Reader.lengthPrefixed mapping block.window ⟨scheme, 0⟩ with
  | (none, _) => return .error "APK signature scheme signer container is malformed"
  | (some signers, r) => do
    let left ← r.remaining
    if left ≠ 0 then return .error "APK signature scheme signer container is malformed"
    else do
      match ← verifySigners crypto mapping block v3 signers.size 0 ⟨signers, 0⟩ with
      | .error e => return .error e
      | .ok [] => return .error ""
      | .ok fingerprints => return .ok fingerprints

end

end Mocktail.Update.Signing
