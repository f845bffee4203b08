/-
  Mocktail.Update.AndroidManifest — the binary XML parser (src/update/android_manifest.cc).

  Everything is computed in `Traced Event`: each byte that is read is logged with the view
  it is read through, each sum, product and difference with its exact value and the type it
  is computed in, each use of a vector's element with the vector's size. `unsigned` returns
  the value as the type holds it, so a result that did not fit would go on wrapped, as in the
  source. `size_t` has 64 bits and `int` 32.

  The loops over strings, characters and attributes count down what remains. The loop over
  chunks runs on fuel; running out of it is an event of its own.
-/

import Mocktail.Lib.Chunks
import Mocktail.Lib.Traced
import Mocktail.Launch.Json

namespace Mocktail.Update.Manifest

open Mocktail.Lib Mocktail.Launch

def kStringPoolChunk : Nat := 0x0001
def kXmlChunk : Nat := 0x0003
def kStartElementChunk : Nat := 0x0102
def kNoIndex : Nat := 0xffffffff
def kTypeString : Nat := 0x03

inductive Event where
  /-- A byte of the input, through the view of the bytes from `first` to `last`. -/
  | read (first last offset : Nat)
  /-- A view of `size` bytes at `base`, for a string of the chunk from `first` to `last`. -/
  | view (first last base size : Nat)
  /-- A result of an unsigned type. -/
  | unsigned (bits : Nat) (value : Int)
  /-- A result of type `int`. -/
  | signed (value : Int)
  /-- An element of a vector. -/
  | element (index size : Nat)
  /-- Elements that are copied or reserved. -/
  | copy (size : Nat)
  /-- A step from a chunk to the next. -/
  | chunk (offset next : Nat)
  | exhausted
  deriving DecidableEq, Repr

/-- What an input of `n` bytes allows. -/
def Event.Ok (n : Nat) : Event → Prop
  | .read first last offset => first ≤ offset ∧ offset < last ∧ last ≤ n
  | .view first last base size => first ≤ base ∧ base + size ≤ last ∧ last ≤ n
  | .unsigned bits value => 0 ≤ value ∧ value < 2 ^ bits
  | .signed value => -2 ^ 31 ≤ value ∧ value < 2 ^ 31
  | .element index size => index < size
  | .copy _ => True
  | .chunk offset next => offset + 8 ≤ next ∧ next ≤ n
  | .exhausted => False

def Event.cost : Event → Nat
  | .copy size => size
  | _ => 1

/-- A `string_view` into the input. -/
structure View where
  base : Nat
  size : Nat
  deriving DecidableEq, Repr

def byte (input : Bytes) (view : View) (i : Nat) : Traced Event Nat :=
  ⟨(input.getD (view.base + i) 0).toNat, [.read view.base (view.base + view.size) (view.base + i)]⟩

def unsigned (bits : Nat) (value : Int) : Traced Event Nat := ⟨(value % 2 ^ bits).toNat, [.unsigned bits value]⟩

def signed (value : Int) : Traced Event Int := ⟨value, [.signed value]⟩

def sizeT (value : Int) : Traced Event Nat := unsigned 64 value

/-! ## Bytes -/

/-- Two bytes of a view, little-endian. -/
def pairAt (input : Bytes) (view : View) (offset : Nat) : Traced Event Nat := do
  let low ← byte input view offset
  let second ← sizeT (offset + 1)
  let high ← byte input view second
  return low + high * 2 ^ 8

def readU16 (input : Bytes) (offset : Nat) : Traced Event (Option Nat) :=
  if input.length < offset then return none
  else do
    let left ← sizeT (input.length - offset)
    if left < 2 then return none
    else do
      let value ← pairAt input ⟨0, input.length⟩ offset
      return some value

def readU32 (input : Bytes) (offset : Nat) : Traced Event (Option Nat) :=
  if input.length < offset then return none
  else do
    let left ← sizeT (input.length - offset)
    if left < 4 then return none
    else do
      let low ← pairAt input ⟨0, input.length⟩ offset
      let third ← sizeT (offset + 2)
      let high ← pairAt input ⟨0, input.length⟩ third
      return some (low + high * 2 ^ 16)

def slice (input : Bytes) (offset size : Nat) : Traced Event View :=
  if input.length < offset then return ⟨0, 0⟩
  else do
    let left ← sizeT (input.length - offset)
    if left < size then return ⟨0, 0⟩ else return ⟨offset, size⟩

structure Chunk where
  type : Nat
  headerSize : Nat
  size : Nat
  deriving DecidableEq, Repr

def readChunk (input : Bytes) (offset : Nat) : Traced Event (Option Chunk) := do
  match ← readU16 input offset with
  | none => return none
  | some type => do
    let headerAt ← sizeT (offset + 2)
    match ← readU16 input headerAt with
    | none => return none
    | some headerSize => do
      let sizeAt ← sizeT (offset + 4)
      match ← readU32 input sizeAt with
      | none => return none
      | some size =>
        if headerSize < 8 ∨ size < headerSize ∨ input.length < offset then return none
        else do
          let left ← sizeT (input.length - offset)
          if left < size then return none else return some { type, headerSize, size }

/-! ## Strings -/

/-- The length and the cursor after it. -/
def readUtf8Length (input : Bytes) (storage : View) (cursor : Nat) : Traced Event (Option (Nat × Nat)) :=
  if storage.size ≤ cursor then return none
  else do
    let first ← byte input storage cursor
    let cursor ← sizeT (cursor + 1)
    if first < 0x80 then return some (first, cursor)
    else if storage.size ≤ cursor then return none
    else do
      let second ← byte input storage cursor
      let cursor ← sizeT (cursor + 1)
      let length ← sizeT (first % 2 ^ 7 * 2 ^ 8 + second)
      return some (length, cursor)

def readUtf16Length (input : Bytes) (storage : View) (cursor : Nat) : Traced Event (Option (Nat × Nat)) :=
  if storage.size < cursor then return none
  else do
    let left ← sizeT (storage.size - cursor)
    if left < 2 then return none
    else do
      let first ← pairAt input storage cursor
      let cursor ← sizeT (cursor + 2)
      if first < 0x8000 then return some (first, cursor)
      else if storage.size < cursor then return none
      else do
        let left ← sizeT (storage.size - cursor)
        if left < 2 then return none
        else do
          let second ← pairAt input storage cursor
          let cursor ← sizeT (cursor + 2)
          let length ← sizeT (first % 2 ^ 15 * 2 ^ 16 + second)
          return some (length, cursor)

def appendUtf8 (point : Nat) : Text :=
  if point ≤ 0x7f then [UInt8.ofNat point]
  else if point ≤ 0x7ff then [UInt8.ofNat (0xc0 + point / 2 ^ 6), UInt8.ofNat (0x80 + point % 2 ^ 6)]
  else
    [UInt8.ofNat (0xe0 + point / 2 ^ 12), UInt8.ofNat (0x80 + point / 2 ^ 6 % 2 ^ 6), UInt8.ofNat (0x80 + point % 2 ^ 6)]

/-- `value.assign(storage.substr(cursor, count))`. -/
def copyBytes (input : Bytes) (storage : View) : Nat → Nat → Traced Event Text
  | 0, _ => return []
  | count + 1, cursor => do
    let value ← byte input storage cursor
    let rest ← copyBytes input storage count (cursor + 1)
    return UInt8.ofNat value :: rest

def readUtf8 (input : Bytes) (storage : View) : Traced Event (Except String Text) := do
  match ← readUtf8Length input storage 0 with
  | none => return .error "Android UTF-8 string is malformed"
  | some (_, cursor) => do
    match ← readUtf8Length input storage cursor with
    | none => return .error "Android UTF-8 string is malformed"
    | some (byteLength, cursor) =>
      if storage.size < cursor then return .error "Android UTF-8 string is malformed"
      else do
        let left ← sizeT (storage.size - cursor)
        if left ≤ byteLength then return .error "Android UTF-8 string is malformed"
        else do
          let terminator ← sizeT (cursor + byteLength)
          let last ← byte input storage terminator
          if last ≠ 0 then return .error "Android UTF-8 string is malformed"
          else do
            let value ← copyBytes input storage byteLength cursor
            return .ok value

/-- The characters from one on, how many are left and which it is. -/
def readCharacters (input : Bytes) (storage : View) (cursor : Nat) : Nat → Nat → Traced Event (Except String Text)
  | 0, _ => return .ok []
  | remaining + 1, character => do
    let scaled ← sizeT (character * 2)
    let position ← sizeT (cursor + scaled)
    let point ← pairAt input storage position
    if 0xd800 ≤ point ∧ point ≤ 0xdfff then return .error "Android manifest contains unsupported UTF-16 surrogate"
    else do
      let next ← sizeT (character + 1)
      match ← readCharacters input storage cursor remaining next with
      | .error e => return .error e
      | .ok rest => return .ok (appendUtf8 point ++ rest)

def readUtf16 (input : Bytes) (storage : View) : Traced Event (Except String Text) := do
  match ← readUtf16Length input storage 0 with
  | none => return .error "Android UTF-16 string is malformed"
  | some (characterLength, cursor) => do
    let left ← sizeT (storage.size - cursor)
    if left / 2 < characterLength then return .error "Android UTF-16 string is malformed"
    else readCharacters input storage cursor characterLength 0

/-! ## The string pool -/

structure PoolHeader where
  count : Nat
  utf8 : Bool
  stringsStart : Nat
  deriving DecidableEq, Repr

def readPoolHeader (input : Bytes) (offset : Nat) (chunk : Chunk) : Traced Event (Option PoolHeader) :=
  if chunk.headerSize < 28 then return none
  else do
    let countAt ← sizeT (offset + 8)
    match ← readU32 input countAt with
    | none => return none
    | some count =>
      if 1000000 < count then return none
      else do
        let flagsAt ← sizeT (offset + 16)
        match ← readU32 input flagsAt with
        | none => return none
        | some flags => do
          let startAt ← sizeT (offset + 20)
          match ← readU32 input startAt with
          | none => return none
          | some stringsStart =>
            if chunk.size ≤ stringsStart then return none
            else do
              let table ← unsigned 64 (count * 4)
              let room ← unsigned 32 (chunk.size - chunk.headerSize)
              if room < table then return none
              else return some { count, utf8 := flags.testBit 8, stringsStart }

/-- One string of the pool, given where its storage begins. -/
def readString (input : Bytes) (offset : Nat) (chunk : Chunk) (header : PoolHeader) (relative : Nat) :
    Traced Event (Except String Text) := do
  let start ← sizeT (offset + header.stringsStart)
  let base ← sizeT (start + relative)
  let room ← unsigned 32 (chunk.size - header.stringsStart)
  let size ← unsigned 32 (room - relative)
  let storage ← slice input base size
  Traced.emit (.view offset (offset + chunk.size) storage.base storage.size)
  if header.utf8 then readUtf8 input storage else readUtf16 input storage

/-- The strings from one on, how many are left and which it is. -/
def readStrings (input : Bytes) (offset : Nat) (chunk : Chunk) (header : PoolHeader) :
    Nat → Nat → Traced Event (Except String (List Text))
  | 0, _ => return .ok []
  | remaining + 1, index => do
    let scaled ← unsigned 32 (index * 4)
    let table ← sizeT (offset + chunk.headerSize)
    let entry ← sizeT (table + scaled)
    match ← readU32 input entry with
    | none => return .error "Android string pool offset is invalid"
    | some relative => do
      let room ← unsigned 32 (chunk.size - header.stringsStart)
      if room ≤ relative then return .error "Android string pool offset is invalid"
      else do
        match ← readString input offset chunk header relative with
        | .error e => return .error e
        | .ok value => do
          let next ← unsigned 32 (index + 1)
          match ← readStrings input offset chunk header remaining next with
          | .error e => return .error e
          | .ok rest => return .ok (value :: rest)

def parseStringPool (input : Bytes) (offset : Nat) (chunk : Chunk) : Traced Event (Except String (List Text)) := do
  match ← readPoolHeader input offset chunk with
  | none => return .error "Android string pool header is invalid"
  | some header => do
    Traced.emit (.copy header.count)
    readStrings input offset chunk header header.count 0

def poolString (pool : List Text) (index : Nat) : Traced Event (Option Text) :=
  if index = kNoIndex then return none
  else if pool.length ≤ index then return none
  else do
    Traced.emit (.element index pool.length)
    let text := pool.getD index []
    Traced.emit (.copy text.length)
    return some text

/-! ## The manifest element -/

structure AndroidManifestIdentity where
  packageName : Text := []
  versionName : Text := []
  splitName : Text := []
  versionCode : Nat := 0
  error : String := ""
  deriving DecidableEq, Repr

/-- The name, raw and typed words of an attribute. -/
def readWords (input : Bytes) (place : Nat) : Traced Event (Option (Nat × Nat × Nat)) := do
  let nameAt ← sizeT (place + 4)
  match ← readU32 input nameAt with
  | none => return none
  | some nameIndex => do
    let rawAt ← sizeT (place + 8)
    match ← readU32 input rawAt with
    | none => return none
    | some rawIndex => do
      let typedAt ← sizeT (place + 16)
      match ← readU32 input typedAt with
      | none => return none
      | some typedData => return some (nameIndex, rawIndex, typedData)

/-- The value of an attribute: its raw string, or the typed one. -/
def readValue (pool : List Text) (rawIndex typedData dataType : Nat) : Traced Event (Option Text) := do
  match ← poolString pool rawIndex with
  | some value => return some value
  | none => if dataType = kTypeString then poolString pool typedData else return none

/-- What an attribute does to the result. -/
def applyAttribute (name : Text) (value : Option Text) (dataType typedData : Nat) (result : AndroidManifestIdentity) :
    Traced Event AndroidManifestIdentity :=
  match value with
  | some text =>
    if name = ascii "package" then do
      Traced.emit (.copy text.length)
      return { result with packageName := text }
    else if name = ascii "versionName" then do
      Traced.emit (.copy text.length)
      return { result with versionName := text }
    else if name = ascii "split" then do
      Traced.emit (.copy text.length)
      return { result with splitName := text }
    else if name = ascii "versionCode" ∧ 0x10 ≤ dataType ∧ dataType ≤ 0x1f then
      return { result with versionCode := typedData }
    else return result
  | none =>
    if name = ascii "versionCode" ∧ 0x10 ≤ dataType ∧ dataType ≤ 0x1f then
      return { result with versionCode := typedData }
    else return result

/-- One attribute; none is a truncated one. -/
def readAttribute (input : Bytes) (pool : List Text) (attributes attributeSize index : Nat) (result : AndroidManifestIdentity) :
    Traced Event (Option AndroidManifestIdentity) := do
  let scaled ← signed (index * attributeSize)
  let place ← sizeT (attributes + scaled)
  match ← readWords input place with
  | none => return none
  | some (nameIndex, rawIndex, typedData) => do
    match ← poolString pool nameIndex with
    | none => return some result
    | some name => do
      let typeAt ← sizeT (place + 15)
      let dataType ← byte input ⟨0, input.length⟩ typeAt
      let value ← readValue pool rawIndex typedData dataType
      let result ← applyAttribute name value dataType typedData result
      return some result

/-- The attributes from one on, how many are left and which it is. -/
def readAttributes (input : Bytes) (pool : List Text) (attributes attributeSize : Nat) :
    Nat → Nat → AndroidManifestIdentity → Traced Event AndroidManifestIdentity
  | 0, _, result =>
    if result.packageName = [] ∨ result.versionCode = 0 then
      return { result with error := "Android manifest has no package or versionCode" }
    else return result
  | remaining + 1, index, result => do
    match ← readAttribute input pool attributes attributeSize index result with
    | none => return { result with error := "Android manifest attribute is truncated" }
    | some result => do
      let next ← unsigned 16 (index + 1)
      readAttributes input pool attributes attributeSize remaining next result

structure StartElement where
  tagIndex : Nat
  attributeStart : Nat
  attributeSize : Nat
  attributeCount : Nat
  deriving DecidableEq, Repr

def readStartElement (input : Bytes) (offset : Nat) (chunk : Chunk) : Traced Event (Option StartElement) :=
  if chunk.headerSize ≠ 16 ∨ chunk.size < 36 then return none
  else do
    let tagAt ← sizeT (offset + 20)
    match ← readU32 input tagAt with
    | none => return none
    | some tagIndex => do
      let startAt ← sizeT (offset + 24)
      match ← readU16 input startAt with
      | none => return none
      | some attributeStart => do
        let sizeAt ← sizeT (offset + 26)
        match ← readU16 input sizeAt with
        | none => return none
        | some attributeSize => do
          let countAt ← sizeT (offset + 28)
          match ← readU16 input countAt with
          | none => return none
          | some attributeCount =>
            if attributeSize < 20 then return none
            else return some { tagIndex, attributeStart, attributeSize, attributeCount }

/-- The attributes of the manifest element. -/
def readManifest (input : Bytes) (pool : List Text) (offset : Nat) (chunk : Chunk) (element : StartElement) :
    Traced Event AndroidManifestIdentity := do
  let body ← sizeT (offset + 16)
  let attributes ← sizeT (body + element.attributeStart)
  let last ← sizeT (offset + chunk.size)
  if last < attributes then return { error := "Android manifest attributes exceed their chunk" }
  else do
    let table ← sizeT (element.attributeCount * element.attributeSize)
    let room ← sizeT (last - attributes)
    if room < table then return { error := "Android manifest attributes exceed their chunk" }
    else readAttributes input pool attributes element.attributeSize element.attributeCount 0 {}

/-- What a chunk comes to: a result, or the pool to go on with. -/
inductive Scanned where
  | done (result : AndroidManifestIdentity)
  | next (pool : Option (List Text))

def scanChunk (input : Bytes) (offset : Nat) (chunk : Chunk) (pool : Option (List Text)) : Traced Event Scanned :=
  if chunk.type = kStringPoolChunk then
    match pool with
    | some _ => return .done { error := "duplicate Android string pool" }
    | none => do
      match ← parseStringPool input offset chunk with
      | .error e => return .done { error := if e = "" then "duplicate Android string pool" else e }
      | .ok strings => return .next (some strings)
  else
    match pool with
    | some strings =>
      if chunk.type = kStartElementChunk then do
        match ← readStartElement input offset chunk with
        | none => return .done { error := "Android XML start element is malformed" }
        | some element => do
          let tag ← poolString strings element.tagIndex
          if tag = some (ascii "manifest") then do
            let result ← readManifest input strings offset chunk element
            return .done result
          else return .next pool
      else return .next pool
    | none => return .next pool

/-- The loop over the chunks. -/
def scanChunks (input : Bytes) (size : Nat) : Nat → Nat → Option (List Text) → Traced Event AndroidManifestIdentity
  | 0, _, _ => do
    Traced.emit .exhausted
    return {}
  | fuel + 1, offset, pool =>
    if offset < size then do
      match ← readChunk input offset with
      | none => return { error := "AndroidManifest.xml contains an invalid chunk" }
      | some chunk => do
        match ← scanChunk input offset chunk pool with
        | .done result => return result
        | .next pool => do
          let next ← sizeT (offset + chunk.size)
          Traced.emit (.chunk offset next)
          scanChunks input size fuel next pool
    else return { error := "Android manifest element is missing" }

def parseAndroidManifest (input : Bytes) : Traced Event AndroidManifestIdentity := do
  match ← readChunk input 0 with
  | none => return { error := "AndroidManifest.xml is not valid binary XML" }
  | some xml =>
    if xml.type ≠ kXmlChunk ∨ xml.size ≠ input.length then return { error := "AndroidManifest.xml is not valid binary XML" }
    else scanChunks input xml.size (input.length + 1) xml.headerSize none

end Mocktail.Update.Manifest
