/-
  Mocktail.Runtime.WebViewEventQueue — the events that wait in the web view helper
  (`QueueHelperEvent` and `FlushHybridEvents` in `mocktail_webview_helper.cc`).

  In every order of turns the counter is the size of what waits, packets wait only with a watch,
  and the runtime reads what was queued, in order, until a send fails (`events_in_order`). The ids
  of GLib's sources are positive.
-/

import Mocktail.Runtime.WebViewPackets

namespace Mocktail.Runtime.EventQueue

open Mocktail.Lib

def kMaximumQueuedHybridEvents : Nat := 64
def kMaximumQueuedHybridBytes : Nat := 1024 * 1024

/-- What `send` returns when no signal interrupts it. -/
inductive Sending where
  | all
  | wouldBlock
  | failed

/-- The part of `AppState` about events, with what was queued and what was sent. -/
structure Queue where
  pendingPackets : List Bytes := []
  pendingBytes : Nat := 0
  writeSource : Bool := false
  terminating : Bool := false
  accepted : List WebViewHelperEvent := []
  sent : List Bytes := []

variable {q : Queue} {packet : Bytes}

def Queue.queueHelperEvent (q : Queue) (type : WebViewHelperEventType) (command : Bytes) : Bool × Queue :=
  match encodeWebViewHelperEventPacket type command with
  | none => (false, q)
  | some packet =>
    if kMaximumQueuedHybridEvents ≤ q.pendingPackets.length ∨
        (kMaximumQueuedHybridBytes + 2 ^ 64 - q.pendingBytes) % 2 ^ 64 < packet.length then (false, q)
    else
      (true, { q with
        pendingPackets := q.pendingPackets ++ [packet]
        pendingBytes := (q.pendingBytes + packet.length) % 2 ^ 64
        writeSource := true
        accepted := q.accepted ++ [⟨type, command⟩] })

/-- The packet in front leaves the queue. -/
def Queue.popFront (q : Queue) (packet : Bytes) : Queue :=
  { q with
    pendingPackets := q.pendingPackets.tail
    pendingBytes := (q.pendingBytes + 2 ^ 64 - packet.length) % 2 ^ 64
    sent := q.sent ++ [packet] }

/-- The loop of `FlushHybridEvents`; a send that is not given would block. -/
def Queue.flush (q : Queue) (sends : List Sending) : Queue :=
  match q.pendingPackets.head?, sends with
  | none, _ => { q with writeSource := false }
  | some packet, .all :: more => (q.popFront packet).flush more
  | some packet, .failed :: _ => { q.popFront packet with sent := q.sent, terminating := true, writeSource := false }
  | some _, _ => q

def Queue.flushHybridEvents (q : Queue) (disconnected : Bool) (sends : List Sending) : Queue :=
  if disconnected then { q with terminating := true, writeSource := false } else q.flush sends

/-- A turn of the main loop. The ready event is queued without a payload. -/
inductive Turn where
  | queue (type : WebViewHelperEventType) (command : Bytes) (hready : type = .ready → command = [])
  | writable (disconnected : Bool) (sends : List Sending)

def Queue.turn (q : Queue) : Turn → Queue
  | .queue type command _ => (q.queueHelperEvent type command).2
  | .writable disconnected sends => if q.writeSource then q.flushHybridEvents disconnected sends else q

def run (turns : List Turn) : Queue := turns.foldl Queue.turn {}

structure Sound (q : Queue) : Prop where
  bytes : q.pendingBytes = (q.pendingPackets.map List.length).sum
  room : q.pendingBytes ≤ kMaximumQueuedHybridBytes
  count : q.pendingPackets.length ≤ kMaximumQueuedHybridEvents
  watched : q.writeSource = true ∨ q.pendingPackets = [] ∨ q.terminating = true
  order : q.terminating = true ∨
    (q.sent ++ q.pendingPackets).map decodeWebViewHelperEventPacket = q.accepted.map .ok

theorem Sound.queueHelperEvent (h : Sound q) {type : WebViewHelperEventType} {command : Bytes}
    (htrip : EventRoundTrips type command) : Sound (q.queueHelperEvent type command).2 := by
  have hroom : q.pendingBytes ≤ 1024 * 1024 := h.room
  have hbytes := h.bytes
  unfold Queue.queueHelperEvent kMaximumQueuedHybridBytes
  split
  · exact h
  · rename_i packet hpacket
    split
    · exact h
    · refine ⟨?_, ?_, ?_, .inl rfl, h.order.imp_right fun horder => ?_⟩
      · rw [List.map_append, List.sum_append, List.map_singleton, List.sum_singleton]
        dsimp only
        omega
      · dsimp only [kMaximumQueuedHybridBytes]
        omega
      · rw [List.length_append, List.length_singleton]
        omega
      · rw [← List.append_assoc, List.map_append, horder, List.map_append, List.map_singleton, htrip packet hpacket]
        rfl

theorem Sound.popFront (h : Sound q) (hfront : q.pendingPackets.head? = some packet) : Sound (q.popFront packet) := by
  obtain ⟨rest, hrest⟩ := List.head?_eq_some_iff.mp hfront
  have hroom : q.pendingBytes ≤ 1024 * 1024 := h.room
  obtain ⟨hbytes, -, hcount, hwatched, horder⟩ := h
  rw [hrest] at hbytes hcount hwatched horder
  rw [List.map_cons, List.sum_cons] at hbytes
  rw [List.length_cons] at hcount
  rw [List.append_cons] at horder
  refine ⟨?_, ?_, ?_, hwatched.imp_right fun h => h.imp_left nofun, ?_⟩ <;>
    simp only [Queue.popFront, hrest, List.tail_cons, kMaximumQueuedHybridBytes]
  · omega
  · omega
  · omega
  · exact horder

theorem Sound.flush (h : Sound q) (sends : List Sending) : Sound (q.flush sends) := by
  fun_induction Queue.flush q sends with
  | case1 q sends hfront => exact ⟨h.bytes, h.room, h.count, .inr (.inl (List.head?_eq_none_iff.mp hfront)), h.order⟩
  | case2 q packet more hfront ih => exact ih (h.popFront hfront)
  | case3 q packet more hfront =>
    have hpop := h.popFront hfront
    exact ⟨hpop.bytes, hpop.room, hpop.count, .inr (.inr rfl), .inl rfl⟩
  | case4 => exact h

theorem Sound.turn (h : Sound q) (t : Turn) : Sound (q.turn t) := by
  cases t with
  | queue type command hready =>
    exact h.queueHelperEvent ((eventRoundTrips_iff ..).mpr fun hbad => hbad.2.1 (hready hbad.1))
  | writable disconnected sends =>
    dsimp only [Queue.turn, Queue.flushHybridEvents]
    split
    · split
      · exact ⟨h.bytes, h.room, h.count, .inr (.inr rfl), .inl rfl⟩
      · exact h.flush sends
    · exact h

theorem flush_all {n : Nat} : ∀ {q : Queue}, q.pendingPackets.length ≤ n →
    ∃ r, q.flush (.replicate n .all) = r ∧ r.pendingPackets = [] ∧ r.terminating = q.terminating ∧ r.accepted = q.accepted := by
  induction n with
  | zero =>
    intro q hn
    simp [Queue.flush, List.length_eq_zero_iff.mp (Nat.le_zero.mp hn)]
  | succ n ih =>
    intro q hn
    cases hp : q.pendingPackets with
    | nil => simp [Queue.flush, hp]
    | cons packet rest =>
      obtain ⟨r, hr, hend⟩ := @ih (q.popFront packet) (by simpa [Queue.popFront, hp] using hn)
      exact ⟨r, by simp [Queue.flush, List.replicate_succ, hp, hr], hend⟩

/-- And once the socket takes what waits, the runtime has read every event that was queued. -/
theorem events_in_order (turns : List Turn) :
    Sound (run turns) ∧ ((run turns).terminating = false → ∃ sends,
      ((run turns).turn (.writable false sends)).sent.map decodeWebViewHelperEventPacket = (run turns).accepted.map .ok) := by
  have hsound : Sound (run turns) := by
    refine List.foldlRecOn turns Queue.turn ?_ fun _ h t _ => h.turn t
    exact ⟨rfl, Nat.zero_le _, Nat.zero_le _, .inr (.inl rfl), .inr rfl⟩
  generalize run turns = q at hsound ⊢
  obtain ⟨r, hr, hempty, hterminating, haccepted⟩ := flush_all q.pendingPackets.length.le_refl
  refine ⟨hsound, fun hgoing => ⟨.replicate q.pendingPackets.length .all, ?_⟩⟩
  cases hwatch : q.writeSource with
  | true =>
    have horder := (hr ▸ hsound.flush _).order
    simp_all [Queue.turn, Queue.flushHybridEvents]
  | false =>
    have horder := hsound.order
    have hwatched := hsound.watched
    simp_all [Queue.turn]

end Mocktail.Runtime.EventQueue
