/-
  Mocktail.Runtime.WebViewStream — events out of a byte stream (`FramePacket`, `ExtractFrame`,
  `ReceivePacket`, `WaitUntilReady` and `DrainEvents` in `webview_helper_launcher.cc`, on the
  TCP connection of a FreeBSD host).

  The helper sends each event packet behind its size. The runtime reads chunks into one receive
  buffer and takes packets off its front, in two calls: `WaitUntilReady` stops at the ready
  packet and keeps the other events in a queue, `DrainEvents` empties the queue and then goes on
  until a read would block. What the socket gives is a list of reads; when it is used up every
  further read would block. The clock and `poll` decide how often `WaitUntilReady` looks again
  (`Round`).

  Proved: however the stream is cut into reads and the calls are mixed, the events that the
  `DrainEvents` calls gave and those in the queue are the ones of the packets taken so far, and
  what is in the buffer and still unread are the frames of the others (`Inv`). So no event is
  lost or given twice, the buffer never grows too large and the ready flag says whether a ready
  packet was taken (`stream_reassembled`).
-/

import Mocktail.Runtime.WebViewPackets

namespace Mocktail.Runtime

open Mocktail.Lib

/-- What one `read` of the socket gives. -/
inductive ReadResult where
  /-- No bytes is the end of the stream. -/
  | bytes (chunk : Bytes)
  | wouldBlock
  | interrupted
  | failed
  deriving DecidableEq, Repr

/-- What `ReceivePacket` returns: a size, 0, -1 or -2. -/
inductive Received where
  | packet (packet : Bytes)
  | closed
  | wouldBlock
  | failed
  deriving DecidableEq, Repr

def framePacket (packet : Bytes) : Bytes := sizeBytes packet.length ++ packet

/-- The first frame of the buffer and what stays of the buffer. -/
def extractFrame (buffer : Bytes) : Option Bytes × Bytes :=
  match buffer with
  | b0 :: b1 :: b2 :: b3 :: rest =>
    let size := sizeOf4 b0 b1 b2 b3
    if kMaximumWebViewEventPacketBytes < size then (none, [])
    else if rest.length < size then (none, buffer)
    else (some (rest.take size), rest.drop size)
  | _ => (none, buffer)

/-- A packet without bytes looks like the end of the stream. -/
def receivedFrame (packet : Bytes) : Received := if packet.isEmpty then .closed else .packet packet

def receivePacket : List ReadResult → Bytes → Received × Bytes × List ReadResult
  | [], buffer =>
    match extractFrame buffer with
    | (some packet, rest) => (receivedFrame packet, rest, [])
    | (none, rest) => (.wouldBlock, rest, [])
  | read :: reads, buffer =>
    match extractFrame buffer with
    | (some packet, rest) => (receivedFrame packet, rest, read :: reads)
    | (none, rest) =>
      match read with
      | .interrupted => receivePacket reads rest
      | .wouldBlock => (.wouldBlock, rest, reads)
      | .failed => (.failed, rest, reads)
      | .bytes chunk =>
        if chunk.isEmpty then (.closed, rest, reads)
        else if kMaximumWebViewEventPacketBytes * 2 < (rest ++ chunk).length then (.failed, rest ++ chunk, reads)
        else receivePacket reads (rest ++ chunk)

structure Connection where
  receiveBuffer : Bytes
  pendingEvents : List WebViewHelperEvent
  ready : Bool
  /-- What the reads of the socket will give. -/
  unread : List ReadResult
  /-- All that `ReceivePacket` has returned. The program does not keep it. -/
  received : List Received
  deriving DecidableEq, Repr

namespace Connection

def connected (reads : List ReadResult) : Connection := ⟨[], [], false, reads, []⟩

def receive (c : Connection) : Received × Connection :=
  match receivePacket c.unread c.receiveBuffer with
  | (result, buffer, reads) => (result, { c with receiveBuffer := buffer, unread := reads, received := c.received ++ [result] })

end Connection

def ReadResult.chunk : ReadResult → Bytes
  | .bytes chunk => chunk
  | _ => []

def bytesOf (reads : List ReadResult) : Bytes := reads.flatMap ReadResult.chunk

/-- The bytes that are not taken off the buffer. -/
def Connection.weight (c : Connection) : Nat := c.receiveBuffer.length + (bytesOf c.unread).length

theorem extractFrame_length (buffer : Bytes) :
    (extractFrame buffer).2.length + (if (extractFrame buffer).1 = none then 0 else 4) ≤ buffer.length := by
  unfold extractFrame
  split
  · dsimp only
    split
    · simp
    · split
      · simp
      · simp only [reduceCtorEq, if_false, List.length_drop, List.length_cons]
        omega
  · simp

variable {packet : Bytes}

theorem receivePacket_length (reads : List ReadResult) : ∀ {buffer buffer' : Bytes} {reads' : List ReadResult},
    receivePacket reads buffer = (.packet packet, buffer', reads') →
      buffer'.length + (bytesOf reads').length < buffer.length + (bytesOf reads).length := by
  induction reads with
  | nil =>
    intro buffer buffer' reads' h
    have hshort := extractFrame_length buffer
    rw [receivePacket] at h
    split at h
    · rename_i frame rest hframe
      rw [hframe] at hshort
      simp only [reduceCtorEq, if_false, Prod.mk.injEq] at h hshort
      rw [← h.2.1, ← h.2.2]
      omega
    · simp at h
  | cons read reads ih =>
    intro buffer buffer' reads' h
    have hshort := extractFrame_length buffer
    have hbytes : bytesOf (read :: reads) = read.chunk ++ bytesOf reads := rfl
    rw [receivePacket] at h
    split at h
    · rename_i frame rest hframe
      rw [hframe] at hshort
      simp only [reduceCtorEq, if_false, Prod.mk.injEq] at h hshort
      rw [← h.2.1, ← h.2.2]
      omega
    · rename_i rest hframe
      rw [hframe] at hshort
      simp only [if_true, Nat.add_zero] at hshort
      rw [hbytes, List.length_append]
      cases read with
      | interrupted =>
        have hlt := ih h
        omega
      | wouldBlock => simp at h
      | failed => simp at h
      | bytes chunk =>
        dsimp only at h
        split at h
        · simp at h
        · split at h
          · simp at h
          · have hlt := ih h
            rw [List.length_append] at hlt
            simp only [ReadResult.chunk]
            omega

theorem Connection.receive_weight {c c' : Connection} (h : c.receive = (.packet packet, c')) : c'.weight < c.weight := by
  unfold receive at h
  split at h
  rename_i result buffer reads hreceive
  rw [Prod.mk.injEq] at h
  obtain ⟨rfl, rfl⟩ := h
  exact receivePacket_length c.unread hreceive

/-! ## The two calls -/

/-- The inner loop of `WaitUntilReady`; the flag is `closed`. -/
def waitLoop (c : Connection) : Bool × Connection :=
  if c.ready then (false, c)
  else
    match _hreceive : c.receive with
    | (.packet packet, c') =>
      match decodeWebViewHelperEventPacket packet with
      | .error _ => waitLoop c'
      | .ok event =>
        if event.type = .ready then waitLoop { c' with ready := true }
        else waitLoop { c' with pendingEvents := c'.pendingEvents ++ [event] }
    | (.closed, c') => (true, c')
    | (.failed, c') => (true, c')
    | (.wouldBlock, c') => (false, c')
termination_by c.weight
decreasing_by
  all_goals
    have hlt := Connection.receive_weight _hreceive
    exact hlt

/-- What the clock and `poll` say in one round of the outer loop. -/
inductive Round where
  | expired
  | pollFailed
  | polled (broken : Bool)
  deriving DecidableEq, Repr

/-- The outer loop. The child is running and the descriptor open, as on every TCP connection. -/
def waitRounds : List Round → Connection → Connection
  | [], c => c
  | round :: rounds, c =>
    if c.ready then c
    else if round = .expired then c
    else
      match waitLoop c with
      | (closed, c') =>
        if closed || c'.ready then c'
        else
          match round with
          | .polled false => waitRounds rounds c'
          | _ => c'

def waitUntilReady (timeout : Int) (rounds : List Round) (c : Connection) : Bool × Connection :=
  if timeout < 0 then (false, c)
  else
    let c' := waitRounds rounds c
    (c'.ready, c')

/-- The loop of `DrainEvents`, with the events it has given. -/
def drainLoop (c : Connection) (events : List WebViewHelperEvent) : Bool × List WebViewHelperEvent × Connection :=
  match _hreceive : c.receive with
  | (.packet packet, c') =>
    match decodeWebViewHelperEventPacket packet with
    | .error _ => drainLoop c' events
    | .ok event =>
      if event.type = .ready then drainLoop { c' with ready := true } events
      else drainLoop c' (events ++ [event])
  | (.closed, c') => (true, events, c')
  | (.wouldBlock, c') => (true, events, c')
  | (.failed, c') => (false, events, c')
termination_by c.weight
decreasing_by
  all_goals
    have hlt := Connection.receive_weight _hreceive
    exact hlt

def drainEvents (c : Connection) : Bool × List WebViewHelperEvent × Connection :=
  drainLoop { c with pendingEvents := [] } c.pendingEvents

inductive Call where
  | waitUntilReady (timeout : Int) (rounds : List Round)
  | drainEvents
  deriving DecidableEq, Repr

/-- The calls of one connection, one after the other, with all events the `DrainEvents` calls gave. -/
def runCalls (given : List WebViewHelperEvent) (c : Connection) : List Call → List WebViewHelperEvent × Connection
  | [] => (given, c)
  | .waitUntilReady timeout rounds :: calls => runCalls given (waitUntilReady timeout rounds c).2 calls
  | .drainEvents :: calls => runCalls (given ++ (drainEvents c).2.1) (drainEvents c).2.2 calls

variable {event : WebViewHelperEvent}

theorem waitLoop_packet {c c' : Connection} (hready : c.ready = false)
    (hreceive : c.receive = (.packet packet, c')) (hevent : decodeWebViewHelperEventPacket packet = .ok event) :
    waitLoop c = if event.type = .ready then waitLoop { c' with ready := true }
      else waitLoop { c' with pendingEvents := c'.pendingEvents ++ [event] } := by
  rw [waitLoop, if_neg (by simp [hready])]
  split <;> rename_i heq <;> rw [hreceive, Prod.mk.injEq] at heq
  · obtain ⟨hpacket, rfl⟩ := heq
    cases hpacket
    simp only [hevent]
  all_goals exact absurd heq.1 (by simp)

theorem waitLoop_wouldBlock {c c' : Connection} (hready : c.ready = false) (hreceive : c.receive = (.wouldBlock, c')) :
    waitLoop c = (false, c') := by
  rw [waitLoop, if_neg (by simp [hready])]
  split <;> rename_i heq <;> rw [hreceive, Prod.mk.injEq] at heq
  · exact absurd heq.1 (by simp)
  · exact absurd heq.1 (by simp)
  · exact absurd heq.1 (by simp)
  · rw [heq.2]

theorem drainLoop_packet {c c' : Connection} (events : List WebViewHelperEvent)
    (hreceive : c.receive = (.packet packet, c')) (hevent : decodeWebViewHelperEventPacket packet = .ok event) :
    drainLoop c events = if event.type = .ready then drainLoop { c' with ready := true } events
      else drainLoop c' (events ++ [event]) := by
  rw [drainLoop]
  split <;> rename_i heq <;> rw [hreceive, Prod.mk.injEq] at heq
  · obtain ⟨hpacket, rfl⟩ := heq
    cases hpacket
    simp only [hevent]
  all_goals exact absurd heq.1 (by simp)

theorem drainLoop_wouldBlock {c c' : Connection} (events : List WebViewHelperEvent) (hreceive : c.receive = (.wouldBlock, c')) :
    drainLoop c events = (true, events, c') := by
  rw [drainLoop]
  split <;> rename_i heq <;> rw [hreceive, Prod.mk.injEq] at heq
  · exact absurd heq.1 (by simp)
  · exact absurd heq.1 (by simp)
  · rw [heq.2]
  · exact absurd heq.1 (by simp)

/-! ## Frames of a stream -/

/-- A read of the stream: at most 4096 bytes, and no end or failure of it. -/
def ReadResult.Fits : ReadResult → Prop
  | .bytes chunk => chunk ≠ [] ∧ chunk.length ≤ 4096
  | .wouldBlock => True
  | .interrupted => True
  | .failed => False

instance (read : ReadResult) : Decidable read.Fits := by
  cases read <;> unfold ReadResult.Fits <;> infer_instance

/-- The frames of these packets are what is in the buffer and what is still unread. -/
structure Flows (packets : List Bytes) (buffer : Bytes) (reads : List ReadResult) : Prop where
  stream : buffer ++ bytesOf reads = packets.flatMap framePacket
  sizes : ∀ packet ∈ packets, packet ≠ [] ∧ packet.length ≤ kMaximumWebViewEventPacketBytes
  reads : ∀ read ∈ reads, read.Fits

variable {reads : List ReadResult}

theorem Flows.tail {packets : List Bytes} {buffer : Bytes}
    (h : Flows (packet :: packets) (framePacket packet ++ buffer) reads) : Flows packets buffer reads := by
  refine ⟨?_, fun other hother => h.sizes other (List.mem_cons_of_mem _ hother), h.reads⟩
  have hstream := h.stream
  rw [List.flatMap_cons, List.append_assoc] at hstream
  exact List.append_cancel_left hstream

/-- A frame that is complete comes off the buffer as a whole. -/
theorem extractFrame_framePacket (hsize : packet.length ≤ kMaximumWebViewEventPacketBytes) (rest : Bytes) :
    extractFrame (framePacket packet ++ rest) = (some packet, rest) := by
  have hbound : kMaximumWebViewEventPacketBytes < 2 ^ 32 := by decide
  have hread := sizeOf4_sizeBytes (n := packet.length) (by omega)
  unfold extractFrame framePacket sizeBytes
  simp only [List.cons_append, List.nil_append, hread]
  rw [if_neg (by omega), if_neg (by rw [List.length_append]; omega), List.take_left' rfl, List.drop_left' rfl]

theorem extractFrame_incomplete {packet buffer rest : Bytes} (hsize : packet.length ≤ kMaximumWebViewEventPacketBytes)
    (hpart : framePacket packet = buffer ++ rest) (hrest : rest ≠ []) : extractFrame buffer = (none, buffer) := by
  have hbound : kMaximumWebViewEventPacketBytes < 2 ^ 32 := by decide
  have hread := sizeOf4_sizeBytes (n := packet.length) (by omega)
  have hpos := List.length_pos_of_ne_nil hrest
  unfold framePacket sizeBytes at hpart
  unfold extractFrame
  split
  · rename_i b0 b1 b2 b3 body
    simp only [List.cons_append, List.nil_append, List.cons.injEq] at hpart
    obtain ⟨h0, h1, h2, h3, hbody⟩ := hpart
    subst h0 h1 h2 h3
    have hlength := congrArg List.length hbody
    rw [List.length_append] at hlength
    dsimp only
    rw [hread, if_neg (by omega), if_pos (by omega)]
  · rfl

/-- The front of a stream of frames is a complete frame or a part of one. -/
theorem Flows.extract {packets : List Bytes} {buffer : Bytes} (h : Flows packets buffer reads) :
    (∃ packet packets' buffer', packets = packet :: packets' ∧ extractFrame buffer = (some packet, buffer') ∧
      packet ≠ [] ∧ Flows packets' buffer' reads) ∨
    (extractFrame buffer = (none, buffer) ∧ buffer.length < 4 + kMaximumWebViewEventPacketBytes ∧
      (bytesOf reads = [] → packets = [])) := by
  cases packets with
  | nil =>
    have hempty : buffer = [] := (List.append_eq_nil_iff.mp h.stream).1
    subst hempty
    exact .inr ⟨rfl, by decide, fun _ => rfl⟩
  | cons packet packets =>
    obtain ⟨hne, hsize⟩ := h.sizes packet List.mem_cons_self
    have hstream := h.stream
    rw [List.flatMap_cons, List.append_eq_append_iff] at hstream
    rcases hstream with ⟨rest, hframe, hunread⟩ | ⟨buffer', rfl, -⟩
    · by_cases hrest : rest = []
      · subst hrest
        rw [List.append_nil] at hframe
        refine .inl ⟨packet, packets, [], rfl, ?_, hne, ?_⟩
        · rw [← hframe, ← List.append_nil (framePacket packet), extractFrame_framePacket hsize]
        · exact Flows.tail (by rwa [List.append_nil, hframe])
      · refine .inr ⟨extractFrame_incomplete hsize hframe hrest, ?_, fun hnone => ?_⟩
        · have hlength := congrArg List.length hframe
          have hpos := List.length_pos_of_ne_nil hrest
          simp only [framePacket, sizeBytes, List.length_append, List.length_cons, List.length_nil] at hlength
          omega
        · rw [hnone] at hunread
          exact absurd (List.append_eq_nil_iff.mp hunread.symm).1 hrest
    · exact .inl ⟨packet, packets, buffer', rfl, extractFrame_framePacket hsize buffer', hne, h.tail⟩

/-- What `ReceivePacket` gives of a stream: its next packet, or nothing until more is read. -/
def Delivers (packets : List Bytes) (reads : List ReadResult) (out : Received × Bytes × List ReadResult) : Prop :=
  (∃ packet packets', packets = packet :: packets' ∧ out.1 = .packet packet ∧ Flows packets' out.2.1 out.2.2 ∧
    out.2.2 <:+ reads) ∨
  (out.1 = .wouldBlock ∧ Flows packets out.2.1 out.2.2 ∧ (bytesOf out.2.2 = [] → packets = []) ∧
    out.2.2 <:+ reads ∧ (out.2.2.length < reads.length ∨ out.2.2 = []))

theorem Delivers.cons {packets : List Bytes} {out : Received × Bytes × List ReadResult} (read : ReadResult)
    (h : Delivers packets reads out) : Delivers packets (read :: reads) out := by
  rcases h with ⟨packet, packets', hpackets, hout, hflows, hle⟩ | ⟨hout, hflows, hdone, hle, hless⟩
  · exact .inl ⟨packet, packets', hpackets, hout, hflows, hle.trans (List.suffix_cons read reads)⟩
  · exact .inr ⟨hout, hflows, hdone, hle.trans (List.suffix_cons read reads), hless.imp_left Nat.lt_succ_of_lt⟩

theorem Flows.delivers {packets : List Bytes} (reads : List ReadResult) :
    ∀ {buffer : Bytes}, Flows packets buffer reads → Delivers packets reads (receivePacket reads buffer) := by
  have hchunk : 4 + kMaximumWebViewEventPacketBytes + 4096 ≤ kMaximumWebViewEventPacketBytes * 2 := by decide
  induction reads with
  | nil =>
    intro buffer h
    rw [receivePacket]
    rcases h.extract with ⟨packet, packets', buffer', hpackets, hextract, hne, hflows⟩ | ⟨hextract, -, hdone⟩
    · rw [hextract]
      exact .inl ⟨packet, packets', hpackets, by simp [receivedFrame, hne], hflows, List.suffix_rfl⟩
    · rw [hextract]
      exact .inr ⟨rfl, h, hdone, List.suffix_rfl, .inr rfl⟩
  | cons read reads ih =>
    intro buffer h
    rw [receivePacket]
    rcases h.extract with ⟨packet, packets', buffer', hpackets, hextract, hne, hflows⟩ | ⟨hextract, hsmall, hdone⟩
    · rw [hextract]
      exact .inl ⟨packet, packets', hpackets, by simp [receivedFrame, hne], hflows, List.suffix_rfl⟩
    · have hfits := h.reads read List.mem_cons_self
      have hrest : ∀ other ∈ reads, other.Fits := fun other hother => h.reads other (List.mem_cons_of_mem _ hother)
      rw [hextract]
      cases read with
      | interrupted => exact (ih ⟨h.stream, h.sizes, hrest⟩).cons _
      | failed => exact absurd hfits id
      | wouldBlock => exact .inr ⟨rfl, ⟨h.stream, h.sizes, hrest⟩, hdone, List.suffix_cons _ _, .inl (Nat.lt_succ_self _)⟩
      | bytes chunk =>
        obtain ⟨hne, hsize⟩ := hfits
        dsimp only
        rw [if_neg (by simp [hne]), if_neg (by rw [List.length_append]; omega)]
        refine (ih ⟨?_, h.sizes, hrest⟩).cons _
        rw [List.append_assoc]
        exact h.stream

/-- A packet that can be decoded has a header, and is not too large. -/
theorem decodable_size (h : decodeWebViewHelperEventPacket packet = .ok event) :
    packet ≠ [] ∧ packet.length ≤ kMaximumWebViewEventPacketBytes := by
  unfold decodeWebViewHelperEventPacket at h
  split at h
  · cases h
  · rename_i parts hparts
    unfold readHeader at hparts
    split at hparts
    · rename_i hdrop
      split at hparts
      · cases hparts
      · rename_i hheader
        refine ⟨?_, Nat.le_of_not_lt fun hlarge => hheader (.inl hlarge)⟩
        rintro rfl
        cases hdrop
    · cases hparts

/-! ## What a call keeps -/

def isReadyPacket (packet : Bytes) : Bool :=
  match decodeWebViewHelperEventPacket packet with
  | .ok event => event.type = .ready
  | .error _ => false

/-- The events of packets, without the ready events. -/
def eventsOf (packets : List Bytes) : List WebViewHelperEvent :=
  packets.filterMap fun packet =>
    match decodeWebViewHelperEventPacket packet with
    | .ok event => if event.type = .ready then none else some event
    | .error _ => none

/-- The packets that either call has taken off the buffer. -/
def Connection.packets (c : Connection) : List Bytes :=
  c.received.filterMap fun
    | .packet packet => some packet
    | _ => none

attribute [local simp] Connection.packets

structure Inv (packets rest : List Bytes) (c : Connection) (given : List WebViewHelperEvent) : Prop where
  all : packets = c.packets ++ rest
  flows : Flows rest c.receiveBuffer c.unread
  events : given ++ c.pendingEvents = eventsOf c.packets
  ready : c.ready = c.packets.any isReadyPacket
  clean : ∀ result ∈ c.received, result = .wouldBlock ∨ ∃ packet, result = .packet packet
  decodes : ∀ packet ∈ rest, ∃ event, decodeWebViewHelperEventPacket packet = .ok event

variable {packets rest : List Bytes} {c : Connection} {given : List WebViewHelperEvent}

theorem Inv.given_le (h : Inv packets rest c given) : given <+: eventsOf packets := by
  refine ⟨c.pendingEvents ++ eventsOf rest, ?_⟩
  rw [← List.append_assoc, h.events, h.all]
  exact (List.filterMap_append ..).symm

/-- A call of `ReceivePacket` either takes the next packet, whose event is then to be kept or
    given, or leaves all as it was. -/
theorem Inv.receive (h : Inv packets rest c given) :
    (∃ packet rest' event c', rest = packet :: rest' ∧ decodeWebViewHelperEventPacket packet = .ok event ∧
      c.receive = (.packet packet, c') ∧ c'.ready = c.ready ∧ c'.pendingEvents = c.pendingEvents ∧ c'.unread <:+ c.unread ∧
      (event.type = .ready → Inv packets rest' { c' with ready := true } given) ∧
      (event.type ≠ .ready → ∀ given' pending, given' ++ pending = given ++ c.pendingEvents ++ [event] →
        Inv packets rest' { c' with pendingEvents := pending } given')) ∨
    (∃ c', c.receive = (.wouldBlock, c') ∧ c'.ready = c.ready ∧ Inv packets rest c' given ∧ c'.pendingEvents = c.pendingEvents ∧
      (bytesOf c'.unread = [] → rest = []) ∧ c'.unread <:+ c.unread ∧ (c'.unread.length < c.unread.length ∨ c'.unread = [])) := by
  have hclean : ∀ result, (result = .wouldBlock ∨ ∃ packet, result = .packet packet) →
      ∀ other ∈ c.received ++ [result], other = .wouldBlock ∨ ∃ packet, other = .packet packet := by
    intro result hresult other hother
    rcases List.mem_append.mp hother with hother | hother
    · exact h.clean other hother
    · rwa [List.mem_singleton.mp hother]
  have hdelivers := h.flows.delivers
  unfold Connection.receive
  rcases hout : receivePacket c.unread c.receiveBuffer with ⟨result, buffer, reads⟩
  rw [hout] at hdelivers
  rcases hdelivers with ⟨packet, rest', rfl, hresult, hflows, hle⟩ | ⟨hresult, hflows, hdone, hle, hless⟩
  · dsimp only at hresult
    subst hresult
    obtain ⟨event, hevent⟩ := h.decodes packet List.mem_cons_self
    have hdecodes : ∀ other ∈ rest', ∃ event, decodeWebViewHelperEventPacket other = .ok event :=
      fun other hother => h.decodes other (List.mem_cons_of_mem _ hother)
    refine .inl ⟨packet, rest', event, _, rfl, hevent, rfl, rfl, rfl, hle, fun htype => ?_, fun htype given' pending hgiven => ?_⟩
    · refine ⟨?_, hflows, ?_, ?_, hclean _ (.inr ⟨_, rfl⟩), hdecodes⟩
      · rw [h.all]
        simp
      · rw [show given ++ c.pendingEvents = eventsOf c.packets from h.events]
        simp [eventsOf, hevent, htype]
      · simp [isReadyPacket, hevent, htype]
    · refine ⟨?_, hflows, ?_, ?_, hclean _ (.inr ⟨_, rfl⟩), hdecodes⟩
      · rw [h.all]
        simp
      · rw [hgiven, h.events]
        simp [eventsOf, hevent, htype]
      · rw [h.ready]
        simp [isReadyPacket, hevent, htype]
  · dsimp only at hresult
    subst hresult
    refine .inr ⟨_, rfl, rfl, ⟨?_, hflows, ?_, ?_, hclean _ (.inl rfl), h.decodes⟩, rfl, hdone, hle, hless⟩
    · rw [h.all]
      simp
    · rw [h.events]
      simp
    · rw [h.ready]
      simp

theorem waitLoop_inv (rest : List Bytes) : ∀ {c : Connection}, Inv packets rest c given →
    ∃ rest', Inv packets rest' (waitLoop c).2 given ∧ (waitLoop c).2.unread <:+ c.unread := by
  induction rest with
  | nil =>
    intro c h
    cases hready : c.ready with
    | true =>
      rw [waitLoop, if_pos hready]
      exact ⟨[], h, List.suffix_rfl⟩
    | false =>
      rcases h.receive with ⟨_, _, _, _, hrest, -⟩ | ⟨c', hreceive, -, hinv, -, -, hle, -⟩
      · cases hrest
      · rw [waitLoop_wouldBlock hready hreceive]
        exact ⟨[], hinv, hle⟩
  | cons packet rest ih =>
    intro c h
    cases hready : c.ready with
    | true =>
      rw [waitLoop, if_pos hready]
      exact ⟨packet :: rest, h, List.suffix_rfl⟩
    | false =>
      rcases h.receive with ⟨packet', rest', event, c', hrest, hevent, hreceive, -, hpending, hle, hyes, hno⟩ |
          ⟨c', hreceive, -, hinv, -, -, hle, -⟩
      · cases hrest
        rw [waitLoop_packet hready hreceive hevent]
        by_cases htype : event.type = .ready
        · rw [if_pos htype]
          obtain ⟨rest', hinv, hle'⟩ := ih (hyes htype)
          exact ⟨rest', hinv, hle'.trans hle⟩
        · rw [if_neg htype]
          obtain ⟨rest', hinv, hle'⟩ := ih (hno htype given (c'.pendingEvents ++ [event]) (by rw [hpending, List.append_assoc]))
          exact ⟨rest', hinv, hle'.trans hle⟩
      · rw [waitLoop_wouldBlock hready hreceive]
        exact ⟨packet :: rest, hinv, hle⟩

theorem waitUntilReady_inv (timeout : Int) (rounds : List Round) {rest : List Bytes} (h : Inv packets rest c given) :
    ∃ rest', Inv packets rest' (waitUntilReady timeout rounds c).2 given ∧
      (waitUntilReady timeout rounds c).2.unread <:+ c.unread := by
  have hrounds : ∃ rest', Inv packets rest' (waitRounds rounds c) given ∧ (waitRounds rounds c).unread <:+ c.unread := by
    induction rounds generalizing c rest with
    | nil => exact ⟨rest, h, List.suffix_rfl⟩
    | cons round rounds ih =>
      rw [waitRounds]
      split
      · exact ⟨rest, h, List.suffix_rfl⟩
      · split
        · exact ⟨rest, h, List.suffix_rfl⟩
        · obtain ⟨rest', hinv, hle⟩ := waitLoop_inv rest h
          rcases hloop : waitLoop c with ⟨closed, c'⟩
          rw [hloop] at hinv hle
          dsimp only
          split
          · exact ⟨rest', hinv, hle⟩
          · split
            · obtain ⟨rest'', hinv', hle'⟩ := ih hinv
              exact ⟨rest'', hinv', hle'.trans hle⟩
            · exact ⟨rest', hinv, hle⟩
  unfold waitUntilReady
  split
  · exact ⟨rest, h, List.suffix_rfl⟩
  · exact hrounds

/-- The loop of `DrainEvents` stops where a read would block, with all it could give. -/
theorem drainLoop_inv (rest : List Bytes) : ∀ {c : Connection} {events : List WebViewHelperEvent},
    Inv packets rest c (given ++ events) → c.pendingEvents = [] →
    ∃ rest', Inv packets rest' (drainLoop c events).2.2 (given ++ (drainLoop c events).2.1) ∧
      (drainLoop c events).2.2.pendingEvents = [] ∧
      (bytesOf (drainLoop c events).2.2.unread = [] → rest' = []) ∧ (drainLoop c events).2.2.unread <:+ c.unread ∧
      ((drainLoop c events).2.2.unread.length < c.unread.length ∨ (drainLoop c events).2.2.unread = []) := by
  induction rest with
  | nil =>
    intro c events h hpending
    rcases h.receive with ⟨_, _, _, _, hrest, -⟩ | ⟨c', hreceive, -, hinv, hsame, hdone, hle, hless⟩
    · cases hrest
    · rw [drainLoop_wouldBlock events hreceive]
      exact ⟨[], hinv, hsame.trans hpending, hdone, hle, hless⟩
  | cons packet rest ih =>
    intro c events h hpending
    rcases h.receive with ⟨packet', rest', event, c', hrest, hevent, hreceive, -, hsame, hle, hyes, hno⟩ |
        ⟨c', hreceive, -, hinv, hsame, hdone, hle, hless⟩
    · cases hrest
      have hempty : c'.pendingEvents = [] := hsame.trans hpending
      have hlonger : ∀ {d : Connection}, d.unread.length < c'.unread.length ∨ d.unread = [] →
          d.unread.length < c.unread.length ∨ d.unread = [] := fun h => h.imp_left fun hlt => Nat.lt_of_lt_of_le hlt hle.length_le
      rw [drainLoop_packet events hreceive hevent]
      by_cases htype : event.type = .ready
      · rw [if_pos htype]
        obtain ⟨rest', hinv, hnone, hdone, hle', hless⟩ := ih (hyes htype) hempty
        exact ⟨rest', hinv, hnone, hdone, hle'.trans hle, hlonger hless⟩
      · rw [if_neg htype]
        have hgiven := hno htype (given ++ (events ++ [event])) [] (by rw [hpending]; simp)
        rw [show { c' with pendingEvents := [] } = c' by rw [← hempty]] at hgiven
        obtain ⟨rest', hinv, hnone, hdone, hle', hless⟩ := ih hgiven hempty
        exact ⟨rest', hinv, hnone, hdone, hle'.trans hle, hlonger hless⟩
    · rw [drainLoop_wouldBlock events hreceive]
      exact ⟨packet :: rest, hinv, hsame.trans hpending, hdone, hle, hless⟩

theorem drainEvents_inv (h : Inv packets rest c given) :
    ∃ rest', Inv packets rest' (drainEvents c).2.2 (given ++ (drainEvents c).2.1) ∧ (drainEvents c).2.2.pendingEvents = [] ∧
      (bytesOf (drainEvents c).2.2.unread = [] → rest' = []) ∧ (drainEvents c).2.2.unread <:+ c.unread ∧
      ((drainEvents c).2.2.unread.length < c.unread.length ∨ (drainEvents c).2.2.unread = []) := by
  refine drainLoop_inv rest ⟨h.all, h.flows, ?_, h.ready, h.clean, h.decodes⟩ rfl
  rw [List.append_nil]
  exact h.events

/-! ## Runs -/

theorem runCalls_inv (calls : List Call) : ∀ {rest : List Bytes} {c : Connection} {given : List WebViewHelperEvent},
    Inv packets rest c given → ∃ rest', Inv packets rest' (runCalls given c calls).2 (runCalls given c calls).1 := by
  induction calls with
  | nil => exact fun h => ⟨_, h⟩
  | cons call calls ih =>
    intro rest c given h
    cases call with
    | waitUntilReady timeout rounds =>
      obtain ⟨rest', hinv, -⟩ := waitUntilReady_inv timeout rounds h
      exact ih hinv
    | drainEvents =>
      obtain ⟨rest', hinv, -⟩ := drainEvents_inv h
      exact ih hinv

theorem runCalls_append (calls more : List Call) : ∀ (given : List WebViewHelperEvent) (c : Connection),
    runCalls given c (calls ++ more) = runCalls (runCalls given c calls).1 (runCalls given c calls).2 more := by
  induction calls with
  | nil => exact fun _ _ => rfl
  | cons call calls ih =>
    intro given c
    cases call <;> exact ih _ _

theorem given_le_runCalls (calls : List Call) : ∀ (given : List WebViewHelperEvent) (c : Connection),
    given <+: (runCalls given c calls).1 := by
  induction calls with
  | nil => exact fun given _ => List.prefix_rfl
  | cons call calls ih =>
    intro given c
    cases call with
    | waitUntilReady timeout rounds => exact ih _ _
    | drainEvents => exact (List.prefix_append _ _).trans (ih _ _)

/-- A drain that leaves nothing unread has given everything. -/
theorem drained_all (h : Inv packets rest c given) (hread : bytesOf (drainEvents c).2.2.unread = []) :
    given ++ (drainEvents c).2.1 = eventsOf packets := by
  obtain ⟨rest', hinv, hpending, hdone, -⟩ := drainEvents_inv h
  have hevents := hinv.events
  rw [hpending, List.append_nil] at hevents
  rw [hevents, hinv.all, hdone hread, List.append_nil]

/-- Each drain uses up a read, so more drains than reads give everything. -/
theorem runCalls_all (calls : List Call) : ∀ {rest : List Bytes} {c : Connection} {given : List WebViewHelperEvent},
    Inv packets rest c given → c.unread.length < calls.count .drainEvents → (runCalls given c calls).1 = eventsOf packets := by
  induction calls with
  | nil => exact fun _ hcount => absurd hcount (Nat.not_lt_zero _)
  | cons call calls ih =>
    intro rest c given h hcount
    cases call with
    | waitUntilReady timeout rounds =>
      obtain ⟨rest', hinv, hle⟩ := waitUntilReady_inv timeout rounds h
      refine ih hinv (Nat.lt_of_le_of_lt hle.length_le ?_)
      rwa [List.count_cons_of_ne (by simp)] at hcount
    | drainEvents =>
      obtain ⟨rest', hinv, -, -, -, hless⟩ := drainEvents_inv h
      rcases hless with hless | hnone
      · refine ih hinv ?_
        rw [List.count_cons_self] at hcount
        omega
      · -- everything was given here, and no later call takes it back
        have hall := drained_all h (by rw [hnone]; rfl)
        have hle := given_le_runCalls calls (given ++ (drainEvents c).2.1) (drainEvents c).2.2
        obtain ⟨rest'', hlast⟩ := runCalls_inv calls hinv
        have hlong := Nat.le_trans (Nat.le_of_eq (congrArg List.length hall).symm) hle.length_le
        exact hlast.given_le.eq_of_length (Nat.le_antisymm hlast.given_le.length_le hlong)

theorem connected_inv (hpackets : ∀ packet ∈ packets, ∃ event, decodeWebViewHelperEventPacket packet = .ok event)
    (hreads : ∀ read ∈ reads, read.Fits) (hstream : bytesOf reads = packets.flatMap framePacket) :
    Inv packets packets (.connected reads) [] := by
  refine ⟨rfl, ⟨hstream, fun packet hpacket => ?_, hreads⟩, rfl, rfl, nofun, hpackets⟩
  obtain ⟨event, hevent⟩ := hpackets packet hpacket
  exact decodable_size hevent

/-- Whatever the calls and the reads: what was given is a front part of the events and, with the
    queue, all events of the packets that were taken; one more drain at the end of the stream, or
    as many drains as there are reads, gives all of them; no receive fails; and the ready flag
    says that a ready packet was taken. -/
theorem stream_reassembled {packets : List Bytes} {reads : List ReadResult}
    (hpackets : ∀ packet ∈ packets, ∃ event, decodeWebViewHelperEventPacket packet = .ok event)
    (hreads : ∀ read ∈ reads, read.Fits) (hstream : bytesOf reads = packets.flatMap framePacket) (calls : List Call) :
    (runCalls [] (.connected reads) calls).1 <+: eventsOf packets ∧
    (bytesOf (runCalls [] (.connected reads) calls).2.unread = [] →
      (runCalls [] (.connected reads) (calls ++ [.drainEvents])).1 = eventsOf packets) ∧
    (reads.length < calls.count .drainEvents → (runCalls [] (.connected reads) calls).1 = eventsOf packets) ∧
    ((runCalls [] (.connected reads) calls).1 ++ (runCalls [] (.connected reads) calls).2.pendingEvents =
        eventsOf (runCalls [] (.connected reads) calls).2.packets ∧
      (runCalls [] (.connected reads) calls).2.packets <+: packets) ∧
    (∀ result ∈ (runCalls [] (.connected reads) calls).2.received, result ≠ .failed ∧ result ≠ .closed) ∧
    ((runCalls [] (.connected reads) calls).2.ready = true ↔
      ∃ packet ∈ (runCalls [] (.connected reads) calls).2.packets, isReadyPacket packet = true) := by
  have hstart := connected_inv hpackets hreads hstream
  obtain ⟨rest, hinv⟩ := runCalls_inv calls hstart
  refine ⟨hinv.given_le, fun hread => ?_, runCalls_all calls hstart, ⟨hinv.events, rest, hinv.all.symm⟩,
    fun result hresult => ?_, ?_⟩
  · rw [runCalls_append]
    refine drained_all hinv ?_
    -- a drain reads no bytes where none are left
    obtain ⟨-, -, -, -, ⟨before, hbefore⟩, -⟩ := drainEvents_inv hinv
    rw [← hbefore, bytesOf, List.flatMap_append] at hread
    exact (List.append_eq_nil_iff.mp hread).2
  · rcases hinv.clean result hresult with rfl | ⟨packet, rfl⟩
    · exact ⟨nofun, nofun⟩
    · exact ⟨nofun, nofun⟩
  · rw [hinv.ready, List.any_eq_true]

/-- An event, the ready packet and another event. -/
def threePackets : List Bytes :=
  [encodePacket kEventMagic 1 [0x78], encodePacket kEventMagic 3 [], encodePacket kEventMagic 2 [0x79, 0x7a]]

/-- Their frames, cut inside the first size and inside the second one. -/
def cutReads : List ReadResult :=
  let stream := threePackets.flatMap framePacket
  [.bytes (stream.take 3), .wouldBlock, .bytes ((stream.drop 3).take 16), .interrupted, .bytes (stream.drop 19)]

theorem stream_reassembled_cut :
    (runCalls [] (.connected cutReads) (.waitUntilReady 5 [.polled false, .polled false, .expired] :: List.replicate 6
      .drainEvents)).1 =
      [⟨.executeRoblox, [0x78]⟩, ⟨.robloxWkHybrid, [0x79, 0x7a]⟩] := by
  have hevents : ∀ packet ∈ threePackets, ∃ event, decodeWebViewHelperEventPacket packet = .ok event := by
    intro packet hpacket
    simp only [threePackets, List.mem_cons, List.not_mem_nil, or_false] at hpacket
    rcases hpacket with rfl | rfl | rfl
    · exact ⟨⟨.executeRoblox, [0x78]⟩, by decide⟩
    · exact ⟨⟨.ready, []⟩, by decide⟩
    · exact ⟨⟨.robloxWkHybrid, [0x79, 0x7a]⟩, by decide⟩
  have hall := (stream_reassembled hevents (show ∀ read ∈ cutReads, read.Fits by decide) (by decide)
    (.waitUntilReady 5 [.polled false, .polled false, .expired] :: List.replicate 6 .drainEvents)).2.2.1 (by decide)
  rw [hall]
  decide

end Mocktail.Runtime
