import VntClient.EnhancedInbound
import VntClient.InternalNat
import VntClient.Machine

/-!
`quic_over/enhanced_io/enhanced_inbound.rs`: the channel that hands the QUIC packets of
other nodes to the socket of the QUIC endpoint. An endpoint stops for good when its
socket fails to receive.
-/

namespace VntClient

/-- What the endpoint is told of a datagram; the rest of `RecvMeta` is left alone. -/
structure RecvMeta where
  addr : SocketAddr
  len : Nat
  stride : Nat

inductive IoErrorKind where
  | invalidInput
  | brokenPipe
deriving DecidableEq

/-- `Poll<io::Result<usize>>` with the buffers as they are left. -/
inductive PollRecv where
  | ok (count : Nat) (bufs : List Bytes) (metas : List RecvMeta)
  | err (kind : IoErrorKind) (message : String)
  | pending

def PollRecv.datagram : PollRecv → Option (Bytes × SocketAddr)
  | ok 1 (buf :: _) (info :: _) =>
      if info.stride = info.len ∧ info.len ≤ buf.length then some (buf.take info.len, info.addr)
      else none
  | _ => none

structure QuicInnerInbound where
  queue : List (Bytes × Ipv4Addr)
  isOpen : Bool

inductive QuicEvent where
  | send (data : Bytes) (addr : Ipv4Addr)
  | pollRecv (bufs : List Bytes) (metas : List RecvMeta)
  | close

namespace QuicInnerInbound

def capacity : Nat := 256

def create : QuicInnerInbound := ⟨[], true⟩

/-- What a send adds to the queue. With a full one it waits, and is an event once it can go on. -/
def pushed (channel : QuicInnerInbound) : QuicEvent → List (Bytes × Ipv4Addr)
  | .send data addr =>
      if channel.isOpen && channel.queue.length < capacity then [(data, addr)] else []
  | _ => []

/-- A datagram that has been taken off the queue goes into the first buffer. -/
def fill (data : Bytes) (ip : Ipv4Addr) : List Bytes → List RecvMeta → PollRecv
  | buf :: bufs, _ :: metas =>
      if buf.length < data.length then
        .err .invalidInput s!"buffer too small: need {data.length}, got {buf.length}"
      else
        .ok 1 ((data ++ buf.drop data.length) :: bufs)
          (⟨⟨.v4 ip, 10000⟩, data.length, data.length⟩ :: metas)
  | _, _ => .err .invalidInput "no buffer available"

def pollRecv (channel : QuicInnerInbound) (bufs : List Bytes) (metas : List RecvMeta) :
    QuicInnerInbound × PollRecv :=
  match channel.queue with
  | (data, ip) :: rest => ({ channel with queue := rest }, fill data ip bufs metas)
  | [] =>
      (channel, if channel.isOpen then .pending else .err .brokenPipe "inbound channel closed")

def step (channel : QuicInnerInbound) (event : QuicEvent) : QuicInnerInbound × List PollRecv :=
  match event with
  | .send _ _ => ({ channel with queue := channel.queue ++ channel.pushed event }, [])
  | .pollRecv bufs metas =>
      let polled := channel.pollRecv bufs metas
      (polled.1, [polled.2])
  | .close => ({ channel with isOpen := false }, [])

def Fits (bufs : List Bytes) (metas : List RecvMeta) (data : Bytes) : Prop :=
  ∃ buf, bufs.head? = some buf ∧ metas ≠ [] ∧ data.length ≤ buf.length

def source (datagram : Bytes × Ipv4Addr) : Bytes × SocketAddr :=
  (datagram.1, ⟨.v4 datagram.2, 10000⟩)

/-- A poll that loses only what does not fit, and does not fail. -/
inductive Serves (bufs : List Bytes) (metas : List RecvMeta) (before after : List (Bytes × Ipv4Addr)) :
    PollRecv → Prop
  | ready (dropped : List (Bytes × Ipv4Addr)) (datagram : Bytes × Ipv4Addr) (result : PollRecv)
      (taken : before = dropped ++ datagram :: after)
      (unfit : ∀ other ∈ dropped, ¬ Fits bufs metas other.1) (fit : Fits bufs metas datagram.1)
      (unmodified : result.datagram = some (source datagram)) : Serves bufs metas before after result
  | idle (unfit : ∀ other ∈ before, ¬ Fits bufs metas other.1) (empty : after = []) :
      Serves bufs metas before after .pending

/-- While the channel is open every poll serves. -/
def Served (channel : QuicInnerInbound) : QuicEvent → Prop
  | .pollRecv bufs metas => channel.isOpen = true →
      Serves bufs metas channel.queue (channel.pollRecv bufs metas).1.queue
        (channel.pollRecv bufs metas).2
  | _ => True

/-- The datagram whose turn it is fits. -/
def Fitting (channel : QuicInnerInbound) : QuicEvent → Prop
  | .pollRecv bufs metas => channel.isOpen = true →
      ∀ datagram ∈ channel.queue.head?, Fits bufs metas datagram.1
  | _ => True

variable {bufs : List Bytes} {metas : List RecvMeta} {data : Bytes}

theorem fill_datagram (fit : Fits bufs metas data) (ip : Ipv4Addr) :
    (fill data ip bufs metas).datagram = some (source (data, ip)) := by
  obtain ⟨buf, first, some, long⟩ := fit
  cases bufs with
  | nil => cases first
  | cons buf' bufs =>
      cases first
      cases metas with
      | nil => exact absurd rfl some
      | cons info metas =>
          rw [fill, if_neg (by omega), PollRecv.datagram, if_pos (by simp), List.take_left]
          rfl

theorem fill_err (unfit : ¬ Fits bufs metas data) (ip : Ipv4Addr) :
    ∃ message, fill data ip bufs metas = .err .invalidInput message := by
  cases bufs with
  | nil => exact ⟨_, rfl⟩
  | cons buf bufs =>
      cases metas with
      | nil => exact ⟨_, rfl⟩
      | cons info metas =>
          have short : buf.length < data.length :=
            Nat.lt_of_not_le fun long => unfit ⟨buf, rfl, List.cons_ne_nil _ _, long⟩
          rw [fill, if_pos short]
          exact ⟨_, rfl⟩

theorem served_iff (channel : QuicInnerInbound) (event : QuicEvent) :
    channel.Served event ↔ channel.Fitting event := by
  cases event with
  | send data addr => rfl
  | close => rfl
  | pollRecv bufs metas =>
      apply forall_congr'
      intro here
      cases queued : channel.queue with
      | nil =>
          simp only [pollRecv, queued, here, ↓reduceIte]
          exact iff_of_true (.idle (fun _ member => by cases member) rfl)
            fun _ member => by cases member
      | cons datagram rest =>
          simp only [pollRecv, queued, List.head?_cons, Option.mem_some_iff, forall_eq']
          constructor
          · intro serves
            by_contra unfit
            obtain ⟨message, failed⟩ := fill_err unfit datagram.2
            rw [failed] at serves
            cases serves with
            | ready _ _ _ _ _ _ unmodified => cases unmodified
          · intro fit
            exact .ready [] datagram _ rfl (fun _ member => by cases member) fit
              (fill_datagram fit datagram.2)

/-- What a step takes off the front of the queue is what the endpoint gets. -/
theorem step_fifo {channel : QuicInnerInbound} (here : channel.isOpen = true) {event : QuicEvent}
    (stays : event ≠ .close) (fitting : channel.Fitting event) :
    (channel.step event).1.isOpen = true ∧
      (channel.queue ++ channel.pushed event).map source =
        (channel.step event).2.filterMap PollRecv.datagram ++
          (channel.step event).1.queue.map source := by
  cases event with
  | send data addr => exact ⟨here, rfl⟩
  | close => exact absurd rfl stays
  | pollRecv bufs metas =>
      cases queued : channel.queue with
      | nil =>
          simp only [step, pollRecv, queued, here, ↓reduceIte]
          exact ⟨trivial, rfl⟩
      | cons datagram rest =>
          have fit := fitting here datagram (by rw [queued]; rfl)
          simp only [step, pollRecv, queued]
          rw [List.filterMap_cons_some (fill_datagram fit datagram.2)]
          exact ⟨here, by simp [pushed]⟩

def pushes : QuicInnerInbound → List QuicEvent → List (Bytes × Ipv4Addr)
  | _, [] => []
  | channel, event :: rest => channel.pushed event ++ pushes (channel.step event).1 rest

/-- The datagrams come out as they were sent: each once, in order, with its source. -/
theorem run_fifo (events : List QuicEvent) (stays : ∀ event ∈ events, event ≠ .close)
    (channel : QuicInnerInbound) (here : channel.isOpen = true)
    (fitting : Machine.Along step Fitting channel events) :
    (channel.queue ++ pushes channel events).map source =
      (Machine.run step channel events).2.filterMap PollRecv.datagram ++
        (Machine.run step channel events).1.queue.map source := by
  induction events generalizing channel with
  | nil => simp [pushes]
  | cons event rest ih =>
      obtain ⟨open', first⟩ := step_fifo here (stays event List.mem_cons_self) fitting.1
      have later := ih (fun event member => stays event (List.mem_cons_of_mem _ member)) _ open'
        fitting.2
      rw [Machine.run_cons, List.filterMap_append, List.append_assoc, ← later, pushes,
        ← List.append_assoc, List.map_append, first, List.map_append, List.append_assoc]

/-- While the channel is open no poll of a run fails and none loses what fits, exactly if
every datagram whose turn it is at a poll has a buffer. -/
theorem polls_served_iff (events : List QuicEvent) :
    Machine.Along step Served create events ↔ Machine.Along step Fitting create events := by
  apply Machine.along_iff step (fun _ => True)
  · exact fun _ _ _ _ _ => trivial
  · exact fun channel event _ _ => channel.served_iff event
  · trivial

def oversized : List QuicEvent :=
  [.send (List.replicate 1301 0) 0x0A1A0004,
    .pollRecv [List.replicate 1300 0] [⟨⟨.v4 0, 0⟩, 0, 0⟩]]

theorem oversized_not_served : ¬ Machine.Along step Served create oversized := by
  rintro ⟨_, served, _⟩
  obtain ⟨buf, first, _, long⟩ := (served_iff _ _).mp served rfl _ rfl
  cases first
  rw [List.length_replicate, List.length_replicate] at long
  exact absurd long (by decide)

end QuicInnerInbound

end VntClient
