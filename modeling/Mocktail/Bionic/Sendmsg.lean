/-
  Mocktail.Bionic.Sendmsg — segmented UDP sends on a host without them (`BionicSendmsg` in
  `bionic_socket_runtime.cc`).

  A guest asks for segmentation with a `UDP_SEGMENT` control message. Where FreeBSD refuses the
  send, the bytes of the iovecs are sent in datagrams of the segment size, with the other
  control messages. A control buffer is a sequence of messages, each behind a header with its
  length and aligned to eight bytes; `controlMessages` reads it as the kernel does.

  The memory of the guest is a function from addresses, the kernel a function from the number
  of a call and its message. Messages are those of a 64-bit host: the header of a control
  message has 16 bytes, low byte first.

  Proved: a slice of iovecs has the bytes of that part (`payload_sliceIovecs`); what is kept of a
  control buffer is read as its other messages, in their order (`parseControlMessages_kept`); and
  the datagrams are the pieces of the whole payload (`segments_sent`).
-/

import Mathlib.Algebra.Ring.Int.Defs
import Mocktail.Lib.Chunks
import Mocktail.Lib.Memory

namespace Mocktail.Bionic.Sendmsg

open Mocktail.Lib

def kSolUdp : Nat := 17
def kUdpSegment : Nat := 103
def kIovMax : Nat := 1024
def kSizeMax : Nat := 2 ^ 64 - 1
/-- `std::vector<unsigned char>::max_size`. -/
def kVectorMax : Nat := 2 ^ 63 - 1
/-- `sizeof(cmsghdr)`. -/
def kHeaderBytes : Nat := 16

inductive SendErrno where
  | enoprotoopt
  | einval
  | eopnotsupp
  | eio
  | other (code : Nat)
  deriving DecidableEq, Repr

def isUnsupportedSocketOptionError : SendErrno → Bool
  | .enoprotoopt => true
  | .einval => true
  | .eopnotsupp => true
  | _ => false

structure Iovec where
  base : Nat
  len : Nat
  deriving DecidableEq, Repr

structure MsgHdr where
  name : Option Bytes
  /-- The `msg_iovlen` entries. -/
  iov : List Iovec
  iovNull : Bool := false
  /-- The `msg_controllen` bytes. -/
  control : Bytes
  controlNull : Bool := false
  flags : Nat := 0
  deriving DecidableEq, Repr

/-! ## Control messages -/

structure ControlHeader where
  len : Nat
  level : Nat
  type : Nat
  deriving DecidableEq, Repr

def readControlHeader (buffer : Bytes) : ControlHeader :=
  ⟨leValue (buffer.take 8), leValue ((buffer.drop 8).take 4), leValue ((buffer.drop 12).take 4)⟩

/-- `CMSG_ALIGN`. -/
def cmsgAlign (length : Nat) : Nat := (length + 7) / 8 * 8

structure ParsedControlMessages where
  present : Bool := false
  segmentSize : Nat := 0
  passthrough : Bytes := []
  deriving DecidableEq, Repr

def ControlHeader.isSegment (header : ControlHeader) : Bool := header.level == kSolUdp && header.type == kUdpSegment

theorem drop_aligned_lt {buffer : Bytes} {length : Nat} (hlow : ¬length < kHeaderBytes) (hhigh : ¬buffer.length < length) :
    (buffer.drop (min (cmsgAlign length) buffer.length)).length < buffer.length := by
  unfold kHeaderBytes at hlow
  unfold cmsgAlign
  rw [List.length_drop]
  omega

/-- The loop; the flag is `udp_segment_seen`. `none` is a buffer that is not accepted. -/
def parseLoop (buffer : Bytes) (seen : Bool) (result : ParsedControlMessages) : Option ParsedControlMessages :=
  if buffer.length < kHeaderBytes then some result
  else
    let header := readControlHeader buffer
    let length := header.len
    let aligned := cmsgAlign length
    if _hlength : length < kHeaderBytes ∨ buffer.length < length ∨ kSizeMax - 7 < length then none
    else if aligned < length then none
    else if header.isSegment then
      if length < kHeaderBytes + 2 then none
      else if seen then parseLoop (buffer.drop (min aligned buffer.length)) true result
      else
        let size := leValue ((buffer.drop kHeaderBytes).take 2)
        parseLoop (buffer.drop (min aligned buffer.length)) true { result with segmentSize := size, present := size != 0 }
    else if kSizeMax - result.passthrough.length < aligned ∨ kVectorMax - result.passthrough.length < aligned then none
    else
      parseLoop (buffer.drop (min aligned buffer.length)) seen
        { result with passthrough := result.passthrough ++ buffer.take length ++ List.replicate (aligned - length) 0 }
termination_by buffer.length
decreasing_by all_goals exact drop_aligned_lt (fun h => _hlength (.inl h)) fun h => _hlength (.inr (.inl h))

def parseControlMessages (message : MsgHdr) : Option ParsedControlMessages :=
  if message.control.length = 0 then some {}
  else if message.controlNull then none
  else parseLoop message.control false {}

/-! ## Iovecs -/

def byteCount (iov : List Iovec) : Nat := (iov.map Iovec.len).sum

def countBytes : Nat → List Iovec → Option Nat
  | total, [] => some total
  | total, entry :: iov => if kSizeMax - total < entry.len then none else countBytes (total + entry.len) iov

def iovecByteCount (message : MsgHdr) : Option Nat :=
  if kIovMax < message.iov.length ∨ (message.iov.length ≠ 0 ∧ message.iovNull = true) then none else countBytes 0 message.iov

def sliceIovecs : List Iovec → Nat → Nat → List Iovec
  | [], _, _ => []
  | source :: iov, offset, length =>
    if length = 0 then []
    else if source.len ≤ offset then sliceIovecs iov (offset - source.len) length
    else
      let available := source.len - offset
      let selected := if available < length then available else length
      ⟨source.base + offset, selected⟩ :: sliceIovecs iov 0 (length - selected)

/-! ## Sends -/

/-- What one call of `sendmsg` gives. -/
abbrev Kernel := Nat → MsgHdr → Except SendErrno Nat

/-- What the guest gets, with `errno`, and the messages of the calls that were made. -/
structure SendOutcome where
  result : Int
  errno : SendErrno
  calls : List MsgHdr
  deriving DecidableEq, Repr

theorem sliceIovecs_zero (iov : List Iovec) (offset : Nat) : sliceIovecs iov offset 0 = [] := by
  cases iov <;> simp [sliceIovecs]

/-- A `std::size_t` as a `ssize_t`. -/
def toSsize (n : Nat) : Int := if n < 2 ^ 63 then n else (n : Int) - 2 ^ 64

def segmentOf (message : MsgHdr) (control : ParsedControlMessages) (iov : List Iovec) : MsgHdr :=
  { message with
    iov
    iovNull := false
    control := control.passthrough
    controlNull := control.passthrough.isEmpty }

/-- The loop over the segments; `call` is the number of the next call. -/
def sendSegments (kernel : Kernel) (message : MsgHdr) (control : ParsedControlMessages) (previous : SendErrno)
    (total call sent : Nat) :
    SendOutcome :=
  if _hsent : sent < total then
    let length := min control.segmentSize (total - sent)
    let iov := sliceIovecs message.iov sent length
    if hiov : iov = [] then ⟨-1, .einval, []⟩
    else
      let segment := segmentOf message control iov
      match kernel call segment with
      | .error errno => ⟨-1, errno, [segment]⟩
      | .ok count =>
        if count ≠ length then ⟨-1, .eio, [segment]⟩
        else
          let rest := sendSegments kernel message control previous total (call + 1) (sent + length)
          { rest with calls := segment :: rest.calls }
  else ⟨toSsize sent, previous, []⟩
termination_by total - sent
decreasing_by
  have hpos : length ≠ 0 := fun h0 => hiov (by rw [show iov = sliceIovecs message.iov sent length from rfl, h0, sliceIovecs_zero])
  omega

/-- `none` is a null message; `freeBsd` is `IsFreeBsdLinuxulator()`. -/
def bionicSendmsg (kernel : Kernel) (freeBsd : Bool) (previous : SendErrno) : Option MsgHdr → SendOutcome
  | none => ⟨-1, .einval, []⟩
  | some message =>
    match kernel 0 message with
    | .ok count => ⟨toSsize count, previous, [message]⟩
    | .error errno =>
      if freeBsd = false ∨ isUnsupportedSocketOptionError errno = false then ⟨-1, errno, [message]⟩
      else
        match parseControlMessages message with
        | none => ⟨-1, .einval, [message]⟩
        | some control =>
          if control.present = false then ⟨-1, errno, [message]⟩
          else
            match iovecByteCount message with
            | none => ⟨-1, .einval, [message]⟩
            | some total =>
              if total = 0 then ⟨-1, errno, [message]⟩
              else
                let rest := sendSegments kernel message control previous total 1 0
                { rest with calls := message :: rest.calls }

/-! ## Slices -/

/-- The bytes of iovecs, one after the other. -/
def payload (memory : Nat → UInt8) (iov : List Iovec) : Bytes := iov.flatMap fun entry => cellsAt memory entry.base entry.len

theorem length_payload (memory : Nat → UInt8) (iov : List Iovec) : (payload memory iov).length = byteCount iov := by
  simp [payload, byteCount, List.length_flatMap]

theorem payload_sliceIovecs (memory : Nat → UInt8) (iov : List Iovec) : ∀ offset length : Nat,
    payload memory (sliceIovecs iov offset length) = ((payload memory iov).drop offset).take length := by
  induction iov with
  | nil => simp [sliceIovecs, payload]
  | cons source iov ih =>
    intro offset length
    have hcons : payload memory (source :: iov) = cellsAt memory source.base source.len ++ payload memory iov := List.flatMap_cons
    rw [sliceIovecs, hcons]
    by_cases hzero : length = 0
    · rw [if_pos hzero, hzero, List.take_zero]
      rfl
    · rw [if_neg hzero]
      by_cases hskip : source.len ≤ offset
      · have hdrop : (cellsAt memory source.base source.len).drop offset = [] :=
          List.drop_of_length_le (by rw [length_cellsAt]; exact hskip)
        rw [if_pos hskip, ih, List.drop_append, hdrop, List.nil_append, length_cellsAt]
      · rw [if_neg hskip, List.drop_append, length_cellsAt, Nat.sub_eq_zero_of_le (Nat.le_of_not_le hskip),
          List.drop_zero, drop_cellsAt]
        show cellsAt memory (source.base + offset) _ ++ payload memory (sliceIovecs iov 0 _) = _
        rw [ih, List.drop_zero, List.take_append, length_cellsAt]
        by_cases hall : source.len - offset < length
        · have htake : (cellsAt memory (source.base + offset) (source.len - offset)).take length =
              cellsAt memory (source.base + offset) (source.len - offset) :=
                List.take_of_length_le (by rw [length_cellsAt]; omega)
          rw [if_pos hall, htake]
        · rw [if_neg hall, take_cellsAt _ _ (by omega), Nat.sub_self, Nat.sub_eq_zero_of_le (by omega)]

/-! ## Control buffers -/

structure ControlMessage where
  level : Nat
  type : Nat
  data : Bytes
  deriving DecidableEq, Repr

/-- The messages of a control buffer, as the kernel walks over it. -/
def controlMessages (buffer : Bytes) : List ControlMessage :=
  if buffer.length < kHeaderBytes then []
  else
    let header := readControlHeader buffer
    if _hlength : header.len < kHeaderBytes ∨ buffer.length < header.len then []
    else
      ⟨header.level, header.type, (buffer.take header.len).drop kHeaderBytes⟩ ::
        controlMessages (buffer.drop (min (cmsgAlign header.len) buffer.length))
termination_by buffer.length
decreasing_by exact drop_aligned_lt (fun h => _hlength (.inl h)) fun h => _hlength (.inr h)

def ControlMessage.isSegment (message : ControlMessage) : Bool := message.level == kSolUdp && message.type == kUdpSegment

theorem readControlHeader_append {front : Bytes} (hfront : kHeaderBytes ≤ front.length) (rest : Bytes) :
    readControlHeader (front ++ rest) = readControlHeader front := by
  unfold kHeaderBytes at hfront
  unfold readControlHeader
  rw [List.take_append_of_le_length (by omega), List.drop_append_of_le_length (by omega),
    List.drop_append_of_le_length (by omega), List.take_append_of_le_length (by rw [List.length_drop]; omega),
    List.take_append_of_le_length (by rw [List.length_drop]; omega)]

theorem controlMessages_accepted {buffer : Bytes} {length : Nat} (hlength : (readControlHeader buffer).len = length)
    (hlow : kHeaderBytes ≤ length) (hhigh : length ≤ buffer.length) :
    controlMessages buffer = ⟨(readControlHeader buffer).level, (readControlHeader buffer).type,
      (buffer.take length).drop kHeaderBytes⟩ ::
      controlMessages (buffer.drop (min (cmsgAlign length) buffer.length)) := by
  rw [controlMessages, if_neg (by omega)]
  dsimp only
  rw [hlength, dif_neg (by omega)]

/-- A message with its padding, before other messages. -/
theorem controlMessages_padded {buffer : Bytes} {length : Nat} (hlength : (readControlHeader buffer).len = length)
    (hlow : kHeaderBytes ≤ length) (hhigh : length ≤ buffer.length) (rest : Bytes) :
    controlMessages (buffer.take length ++ List.replicate (cmsgAlign length - length) 0 ++ rest) =
      ⟨(readControlHeader buffer).level, (readControlHeader buffer).type,
        (buffer.take length).drop kHeaderBytes⟩ :: controlMessages rest := by
  have halign : length ≤ cmsgAlign length := by
    unfold cmsgAlign
    omega
  have hfront : (buffer.take length).length = length := by rw [List.length_take, Nat.min_eq_left hhigh]
  have hheader : readControlHeader (buffer.take length ++ (List.replicate (cmsgAlign length - length) 0 ++ rest)) =
      readControlHeader buffer := by
    rw [readControlHeader_append (by omega), ← readControlHeader_append (by omega) (buffer.drop length), List.take_append_drop]
  have hblock : (buffer.take length ++ List.replicate (cmsgAlign length - length) 0).length = cmsgAlign length := by
    rw [List.length_append, hfront, List.length_replicate]
    omega
  rw [List.append_assoc, controlMessages_accepted (hheader ▸ hlength) hlow (by rw [List.length_append, hfront]; omega), hheader,
    List.take_left' hfront, ← List.append_assoc, List.length_append, hblock, Nat.min_eq_left (Nat.le_add_right _ _),
    List.drop_left' hblock]

/-- What the loop adds to the kept bytes is read as the other messages. -/
theorem parseLoop_kept (buffer : Bytes) : ∀ (seen : Bool) (result : ParsedControlMessages) {parsed : ParsedControlMessages},
    parseLoop buffer seen result = some parsed →
      ∃ kept, parsed.passthrough = result.passthrough ++ kept ∧
        controlMessages kept = (controlMessages buffer).filter fun message => !message.isSegment := by
  induction hsize : buffer.length using Nat.strongRecOn generalizing buffer with
  | ind size ih =>
    intro seen result parsed h
    rw [parseLoop] at h
    split at h
    · rename_i hshort
      cases h
      refine ⟨[], (List.append_nil _).symm, ?_⟩
      rw [controlMessages, controlMessages, if_pos hshort, if_pos (by decide)]
      rfl
    · dsimp only at h
      split at h
      · cases h
      · rename_i hlength
        have hless := drop_aligned_lt (fun h => hlength (.inl h)) fun h => hlength (.inr (.inl h))
        simp only [not_or, Nat.not_lt] at hlength
        have hmessages := controlMessages_accepted rfl hlength.1 hlength.2.1
        have hnext := ih _ (hsize ▸ hless) (buffer.drop (min (cmsgAlign (readControlHeader buffer).len) buffer.length)) rfl
        split at h
        · cases h
        · split at h
          · rename_i hsegment
            -- the segment size is taken from the message, and nothing is kept of it
            rw [hmessages, List.filter_cons_of_neg (by simpa [ControlMessage.isSegment, ControlHeader.isSegment] using hsegment)]
            split at h
            · cases h
            · split at h
              · exact hnext _ _ h
              · obtain ⟨kept, hkept, hread⟩ := hnext _ _ h
                exact ⟨kept, hkept, hread⟩
          · rename_i hsegment
            have hother : ¬ControlMessage.isSegment ⟨(readControlHeader buffer).level, (readControlHeader buffer).type,
                (buffer.take (readControlHeader buffer).len).drop kHeaderBytes⟩ = true := hsegment
            split at h
            · cases h
            · obtain ⟨kept, hkept, hread⟩ := hnext _ _ h
              refine ⟨buffer.take (readControlHeader buffer).len ++
                List.replicate (cmsgAlign (readControlHeader buffer).len - (readControlHeader buffer).len) 0 ++ kept, ?_, ?_⟩
              · rw [hkept]
                simp only [List.append_assoc]
              · rw [controlMessages_padded rfl hlength.1 hlength.2.1, hmessages, hread,
                  List.filter_cons_of_pos (by rw [Bool.eq_false_iff.mpr hother]; rfl)]

theorem parseControlMessages_kept {message : MsgHdr} {parsed : ParsedControlMessages}
    (h : parseControlMessages message = some parsed) :
    controlMessages parsed.passthrough = (controlMessages message.control).filter fun message => !message.isSegment := by
  unfold parseControlMessages at h
  split at h
  · rename_i hempty
    cases h
    rw [List.length_eq_zero_iff.mp hempty, controlMessages, if_pos (by decide)]
    rfl
  · split at h
    · cases h
    · obtain ⟨kept, hkept, hread⟩ := parseLoop_kept message.control false {} h
      rw [hkept]
      exact hread

/-! ## Segments -/

theorem countBytes_eq (iov : List Iovec) : ∀ total : Nat, total + byteCount iov ≤ kSizeMax →
    countBytes total iov = some (total + byteCount iov) := by
  induction iov with
  | nil => exact fun _ _ => rfl
  | cons entry iov ih =>
    intro total htotal
    have hcons : byteCount (entry :: iov) = entry.len + byteCount iov := rfl
    rw [hcons] at htotal ⊢
    rw [countBytes, if_neg (by omega), ih _ (by omega), Nat.add_assoc]

/-- Segmentation is asked for by a size that is not zero. -/
theorem parseLoop_present (buffer : Bytes) : ∀ (seen : Bool) (result : ParsedControlMessages) {parsed : ParsedControlMessages},
    result.present = (result.segmentSize != 0) → parseLoop buffer seen result = some parsed →
      parsed.present = (parsed.segmentSize != 0) := by
  induction hsize : buffer.length using Nat.strongRecOn generalizing buffer with
  | ind size ih =>
    intro seen result parsed hresult h
    rw [parseLoop] at h
    split at h
    · cases h
      exact hresult
    · dsimp only at h
      split at h
      · cases h
      · rename_i hlength
        have hless := drop_aligned_lt (fun h => hlength (.inl h)) fun h => hlength (.inr (.inl h))
        have hnext := ih _ (hsize ▸ hless) (buffer.drop (min (cmsgAlign (readControlHeader buffer).len) buffer.length)) rfl
        split at h
        · cases h
        · split at h
          · split at h
            · cases h
            · split at h
              · exact hnext _ _ hresult h
              · exact hnext true _ rfl h
          · split at h
            · cases h
            · refine hnext seen _ ?_ h
              exact hresult

/-- A kernel that sends each datagram completely. -/
def SendsWhole (kernel : Kernel) : Prop := ∀ call segment, 0 < call → kernel call segment = .ok (byteCount segment.iov)

/-- What the segments from `sent` on have to be. -/
structure Segmented (memory : Nat → UInt8) (message : MsgHdr) (control : ParsedControlMessages) (previous : SendErrno)
    (sent : Nat) (outcome : SendOutcome) : Prop where
  result : outcome.result = toSsize (byteCount message.iov)
  errno : outcome.errno = previous
  payloads : outcome.calls.map (fun segment => payload memory segment.iov) =
    chunks control.segmentSize ((payload memory message.iov).drop sent)
  segments : ∀ segment ∈ outcome.calls, segment = segmentOf message control segment.iov

theorem sendSegments_whole {kernel : Kernel} (hkernel : SendsWhole kernel) (memory : Nat → UInt8) (message : MsgHdr)
    (control : ParsedControlMessages) (previous : SendErrno) (hsize : 0 < control.segmentSize) : ∀ call sent : Nat, 0 < call →
      sent ≤ byteCount message.iov →
      Segmented memory message control previous sent
        (sendSegments kernel message control previous (byteCount message.iov) call sent) := by
  intro call sent
  have hlength := length_payload memory message.iov
  induction hleft : byteCount message.iov - sent using Nat.strongRecOn generalizing call sent with
  | ind left ih =>
    intro hcall hsent
    rw [sendSegments]
    by_cases hless : sent < byteCount message.iov
    · have hpart := payload_sliceIovecs memory message.iov sent (min control.segmentSize (byteCount message.iov - sent))
      have hrest : ((payload memory message.iov).drop sent).length = byteCount message.iov - sent := by
        rw [List.length_drop, hlength]
      have hcount : byteCount (sliceIovecs message.iov sent (min control.segmentSize (byteCount message.iov - sent))) =
          min control.segmentSize (byteCount message.iov - sent) := by
        rw [← length_payload memory, hpart, List.length_take, hrest]
        omega
      have hslice : sliceIovecs message.iov sent (min control.segmentSize (byteCount message.iov - sent)) ≠ [] := by
        intro hempty
        rw [hempty, show byteCount [] = 0 from rfl] at hcount
        omega
      obtain ⟨hresult, herrno, hpayloads, hsegments⟩ := ih _ (by omega) (call + 1)
        (sent + min control.segmentSize (byteCount message.iov - sent)) rfl (Nat.succ_pos _) (by omega)
      rw [dif_pos hless]
      dsimp only
      rw [dif_neg hslice, hkernel _ _ hcall]
      dsimp only
      rw [if_neg (by rw [segmentOf, hcount]; exact fun h => h rfl)]
      refine ⟨hresult, herrno, ?_, fun segment hsegment => ?_⟩
      · have hne : (payload memory message.iov).drop sent ≠ [] := fun hnil => by
          rw [hnil, List.length_nil] at hrest
          omega
        have htake : ((payload memory message.iov).drop sent).take (min control.segmentSize (byteCount message.iov - sent)) =
            ((payload memory message.iov).drop sent).take control.segmentSize := by
          rw [← hrest, ← List.take_eq_take_min]
        have hdrop : ((payload memory message.iov).drop sent).drop control.segmentSize =
            (payload memory message.iov).drop (sent + min control.segmentSize (byteCount message.iov - sent)) := by
          rw [List.drop_drop]
          by_cases hlast : control.segmentSize ≤ byteCount message.iov - sent
          · rw [Nat.min_eq_left hlast]
          · rw [List.drop_of_length_le (by omega), List.drop_of_length_le (by omega)]
        rw [chunks_cons hsize hne, List.map_cons, hpayloads, hdrop]
        exact congrArg (· :: _) (hpart.trans htake)
      · rcases List.mem_cons.mp hsegment with rfl | hsegment
        · rfl
        · exact hsegments segment hsegment
    · rw [dif_neg hless]
      obtain rfl : sent = byteCount message.iov := by omega
      refine ⟨rfl, rfl, ?_, fun _ hsegment => absurd hsegment List.not_mem_nil⟩
      rw [List.drop_of_length_le (by omega), chunks_nil]
      rfl

theorem parseControlMessages_present {message : MsgHdr} {parsed : ParsedControlMessages}
    (h : parseControlMessages message = some parsed) :
    parsed.present = (parsed.segmentSize != 0) := by
  unfold parseControlMessages at h
  split at h
  · cases h
    rfl
  · split at h
    · cases h
    · exact parseLoop_present message.control false {} rfl h

/-- Where the host refuses a segmented send and sends each datagram completely, the datagrams are
    the payload cut at the segment size, each with the other control messages, and the guest gets
    the length of the payload. -/
theorem segments_sent {kernel : Kernel} {message : MsgHdr} {control : ParsedControlMessages} {errno : SendErrno}
    (memory : Nat → UInt8) (previous : SendErrno) (hrefused : kernel 0 message = .error errno)
    (hunsupported : isUnsupportedSocketOptionError errno = true)
    (hkernel : SendsWhole kernel) (hparsed : parseControlMessages message = some control) (hsize : control.segmentSize ≠ 0)
    (hiov : message.iovNull = false) (hentries : message.iov.length ≤ kIovMax) (hlow : 1 ≤ byteCount message.iov)
    (hhigh : byteCount message.iov ≤ 2 ^ 63 - 1) :
    (bionicSendmsg kernel true previous (some message)).result = byteCount message.iov ∧
    (bionicSendmsg kernel true previous (some message)).errno = previous ∧
    (∃ datagrams, (bionicSendmsg kernel true previous (some message)).calls = message :: datagrams ∧
      (datagrams.map fun datagram => payload memory datagram.iov).flatten = payload memory message.iov ∧
      (∀ datagram ∈ datagrams.dropLast, (payload memory datagram.iov).length = control.segmentSize) ∧
      (∀ datagram ∈ datagrams, 1 ≤ (payload memory datagram.iov).length ∧
        (payload memory datagram.iov).length ≤ control.segmentSize) ∧
      ∀ datagram ∈ datagrams, datagram.name = message.name ∧
        controlMessages datagram.control = (controlMessages message.control).filter fun message => !message.isSegment) ∧
    ∀ iov offset length, payload memory (sliceIovecs iov offset length) = ((payload memory iov).drop offset).take length := by
  have hpos : 0 < control.segmentSize := Nat.pos_of_ne_zero hsize
  have hpresent : control.present = true := by rw [parseControlMessages_present hparsed]; simpa using hsize
  have hbytes : iovecByteCount message = some (byteCount message.iov) := by
    have hcount := countBytes_eq message.iov 0 (by unfold kSizeMax; omega)
    unfold iovecByteCount
    rw [if_neg (by rw [hiov]; simpa using hentries), hcount, Nat.zero_add]
  have hwhole := sendSegments_whole hkernel memory message control previous hpos 1 0 Nat.one_pos (Nat.zero_le _)
  have hpayloads := hwhole.payloads
  rw [List.drop_zero] at hpayloads
  obtain ⟨hfull, hall⟩ := length_of_mem_chunks hpos (payload memory message.iov)
  have hcall : bionicSendmsg kernel true previous (some message) =
      { sendSegments kernel message control previous (byteCount message.iov) 1 0 with
        calls := message :: (sendSegments kernel message control previous (byteCount message.iov) 1 0).calls } := by
    unfold bionicSendmsg
    simp only [hrefused, hunsupported, hparsed, hpresent, hbytes]
    rw [if_neg (by simp), if_neg (by simp), if_neg (by omega)]
  rw [hcall]
  refine ⟨?_, hwhole.errno, ⟨_, rfl, ?_, fun datagram hdatagram => ?_, fun datagram hdatagram => ?_,
    fun datagram hdatagram => ?_⟩, payload_sliceIovecs memory⟩
  · show (sendSegments kernel message control previous (byteCount message.iov) 1 0).result = _
    rw [hwhole.result, toSsize, if_pos (by omega)]
  · rw [hpayloads, flatten_chunks hpos]
  · refine hfull _ ?_
    rw [← hpayloads, ← List.map_dropLast]
    exact List.mem_map_of_mem hdatagram
  · refine hall _ ?_
    rw [← hpayloads]
    exact List.mem_map_of_mem hdatagram
  · rw [hwhole.segments datagram hdatagram]
    exact ⟨rfl, parseControlMessages_kept hparsed⟩

/-- Seven bytes of three iovecs, in segments of three. -/
theorem segments_sent_seven :
    let kernel : Kernel := fun call segment => if call = 0 then .error .einval else .ok (byteCount segment.iov)
    let message : MsgHdr :=
      { name := none, iov := [⟨0, 3⟩, ⟨10, 0⟩, ⟨20, 4⟩], control := leBytes 8 18 ++ leBytes 4 17 ++ leBytes 4 103 ++ [3, 0] }
    (bionicSendmsg kernel true .eio (some message)).result = 7 := by
  intro kernel message
  have hparsed : parseControlMessages message = some ⟨true, 3, []⟩ := by
    rw [parseControlMessages, if_neg (by decide), if_neg (by decide), parseLoop, if_neg (by decide)]
    dsimp only
    rw [dif_neg (by decide), if_neg (by decide), if_pos (by decide), if_neg (by decide), if_neg (by decide), parseLoop,
      if_pos (by decide)]
    decide
  have hkernel : SendsWhole kernel := fun call segment hcall => if_neg (by omega)
  exact (segments_sent (fun a => UInt8.ofNat a) .eio rfl rfl hkernel hparsed (by decide) rfl (by decide) (by decide)
    (by decide)).1

end Mocktail.Bionic.Sendmsg
