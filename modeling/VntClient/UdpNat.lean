import VntClient.Bindings
import VntClient.InternalNat
import VntClient.Machine

/-!
`nat/internal_nat/udp_nat.rs` as it runs: outbound datagrams, the task that each socket
has for its replies, and the collection of idle entries take turns at the table.
-/

namespace VntClient

/-- An entry with the number of its socket. -/
structure SocketEntry extends NatEntry where
  socket : Nat

/-- Where a task is in its loop: at `recv`, with a reply to write back, with a time to
refresh, or past the loop with its entry to remove. -/
inductive InboundPhase where
  | receiving
  | writing (packet : Bytes)
  | refreshing
  | removing

structure InboundTask where
  key : SocketAddr × SocketAddr
  socket : Nat
  phase : InboundPhase

/-- Sockets are numbered as they are bound, tasks as they are spawned. -/
structure UdpNat where
  table : AList fun _ : SocketAddr × SocketAddr => SocketEntry
  tasks : Nat → Option InboundTask
  sockets : Nat
  spawned : Nat

/-- How far a new socket gets. -/
inductive Opening where
  | unbound
  | unconnected
  | connected

/-- The sections under the lock of the table, and what happens to the tasks between them. -/
inductive UdpNatEvent where
  | outbound (src dst : SocketAddr) (packet : Bytes) (opening : Opening) (now : Instant)
  | recv (id : Nat) (reply : Option Bytes)
  | sendFromTo (id : Nat) (sent : Bool)
  | refresh (id : Nat) (now : Instant)
  | remove (id : Nat)
  | gc (now : Instant)

inductive UdpNatOutput where
  | effect (socket : Nat) (effect : NatEffect)
  | sendFromTo (packet : Bytes) (src dst : SocketAddr)

def natIdleTimeout : Nat := fromSecs (60 * 5)

namespace UdpNat

def new : UdpNat := ⟨∅, fun _ => none, 0, 0⟩

def spawnInbound (nat : UdpNat) (src dst : SocketAddr) (socket : Nat) : UdpNat :=
  { nat with
    tasks := Function.update nat.tasks nat.spawned (some ⟨(src, dst), socket, .receiving⟩)
    spawned := nat.spawned + 1 }

def handleOutbound (nat : UdpNat) (src dst : SocketAddr) (packet : Bytes) (opening : Opening)
    (now : Instant) : UdpNat × List UdpNatOutput :=
  match nat.table.lookup (src, dst) with
  | some entry =>
      ({ nat with table := nat.table.insert (src, dst) { entry with lastActive := now } },
        [.effect entry.socket (.sendUdp dst entry.target packet)])
  | none =>
      let sock := nat.sockets
      let connect := UdpNatOutput.effect sock (.connectUdp (.addr dst) (.addr dst))
      match opening with
      | .unbound => (nat, [])
      | .unconnected => ({ nat with sockets := sock + 1 }, [connect])
      | .connected =>
          let nat := { nat with
            table := nat.table.insert (src, dst) ⟨⟨dst, now⟩, sock⟩
            sockets := sock + 1 }
          (nat.spawnInbound src dst sock, [connect, .effect sock (.sendUdp dst dst packet)])

def proceed (nat : UdpNat) (id : Nat) (task : InboundTask) : UdpNat :=
  { nat with tasks := Function.update nat.tasks id (some task) }

def recv (nat : UdpNat) (id : Nat) (reply : Option Bytes) : UdpNat :=
  match nat.tasks id with
  | some ⟨key, socket, .receiving⟩ => nat.proceed id ⟨key, socket, reply.elim .removing .writing⟩
  | _ => nat

def sendFromTo (nat : UdpNat) (id : Nat) (sent : Bool) : UdpNat × List UdpNatOutput :=
  match nat.tasks id with
  | some ⟨key, socket, .writing packet⟩ =>
      (nat.proceed id ⟨key, socket, if sent then .refreshing else .removing⟩,
        [.sendFromTo packet key.2 key.1])
  | _ => (nat, [])

def refresh (nat : UdpNat) (id : Nat) (now : Instant) : UdpNat :=
  match nat.tasks id with
  | some ⟨key, socket, .refreshing⟩ =>
      let nat := nat.proceed id ⟨key, socket, .receiving⟩
      match nat.table.lookup key with
      | some entry => { nat with table := nat.table.insert key { entry with lastActive := now } }
      | none => nat
  | _ => nat

def remove (nat : UdpNat) (id : Nat) : UdpNat :=
  match nat.tasks id with
  | some ⟨key, _, .removing⟩ =>
      { nat with table := nat.table.erase key, tasks := Function.update nat.tasks id none }
  | _ => nat

def alive (now : Instant) (entry : SocketEntry) : Bool :=
  decide (now - entry.lastActive < natIdleTimeout)

/-- One tick of `spawn_nat_gc`. -/
def gc (nat : UdpNat) (now : Instant) : UdpNat :=
  { nat with table := Table.retain (fun _ entry => alive now entry) nat.table }

def step (nat : UdpNat) (event : UdpNatEvent) : UdpNat × List UdpNatOutput :=
  match event with
  | .outbound src dst packet opening now => nat.handleOutbound src dst packet opening now
  | .recv id reply => (nat.recv id reply, [])
  | .sendFromTo id sent => nat.sendFromTo id sent
  | .refresh id now => (nat.refresh id now, [])
  | .remove id => (nat.remove id, [])
  | .gc now => (nat.gc now, [])

section Forgetting

def Forgets (nat : UdpNat) (table : NatTable) : Prop :=
  ∀ key, (nat.table.lookup key).map SocketEntry.toNatEntry = table.entries.lookup key

variable {nat : UdpNat} {table : NatTable}

theorem Forgets.insert (forgets : nat.Forgets table) (key : SocketAddr × SocketAddr)
    (entry : SocketEntry) (own : entry.target = key.2) (tasks : Nat → Option InboundTask)
    (sockets spawned : Nat) :
    (⟨nat.table.insert key entry, tasks, sockets, spawned⟩ : UdpNat).Forgets
      (table.insert key entry.lastActive) := by
  intro other
  simp only [NatTable.insert, ← own]
  by_cases same : other = key
  · subst same
    rw [AList.lookup_insert, AList.lookup_insert, Option.map_some]
  · rw [AList.lookup_insert_ne same, AList.lookup_insert_ne same]
    exact forgets other

theorem handleOutbound_forgets (forgets : nat.Forgets table) (src dst : SocketAddr)
    (packet : Bytes) (connects : Bool) (now : Instant) :
    let opening := if connects then Opening.connected else .unconnected
    (nat.handleOutbound src dst packet opening now).1.Forgets
        (VntClient.handleOutbound table now connects src dst packet).1 ∧
      ((nat.handleOutbound src dst packet opening now).2.map fun
        | .effect _ effect => some effect
        | .sendFromTo _ _ _ => none) =
      (VntClient.handleOutbound table now connects src dst packet).2.map some := by
  have here := forgets (src, dst)
  unfold handleOutbound VntClient.handleOutbound
  rw [← here]
  cases known : nat.table.lookup (src, dst) with
  | some entry =>
      rw [known] at here
      have own := table.own (src, dst) entry.toNatEntry here.symm
      exact ⟨forgets.insert (src, dst) { entry with lastActive := now } own _ _ _, rfl⟩
  | none =>
      cases connects with
      | false => exact ⟨forgets, rfl⟩
      | true => exact ⟨forgets.insert (src, dst) ⟨⟨dst, now⟩, nat.sockets⟩ rfl _ _ _, rfl⟩

theorem gc_forgets (forgets : nat.Forgets table) (now : Instant) :
    (nat.gc now).Forgets (table.gc now) := by
  intro key
  simp only [gc, NatTable.gc, Table.lookup_retain, ← forgets key, Option.filter_map]
  rfl

end Forgetting

/-- Which socket is stored under a key, and which a task has: times and phases forgotten. -/
def bindings (nat : UdpNat) : Bindings (SocketAddr × SocketAddr) where
  stored key := (nat.table.lookup key).map SocketEntry.socket
  owner id := (nat.tasks id).map fun task => (task.key, task.socket)
  resources := nat.sockets
  workers := nat.spawned

def action (nat : UdpNat) : UdpNatEvent → Bindings.Action (SocketAddr × SocketAddr)
  | .outbound src dst _ opening _ =>
      match nat.table.lookup (src, dst), opening with
      | none, .unconnected => .reserve
      | none, .connected => .connect (src, dst)
      | _, _ => .skip
  | .remove id =>
      match nat.tasks id with
      | some ⟨_, _, .removing⟩ => .finish id
      | _ => .skip
  | .gc now => .expire fun key => (nat.table.lookup key).any fun entry => !alive now entry
  | _ => .skip

section Bindings
variable {nat : UdpNat}

theorem stored_insert (table : AList fun _ : SocketAddr × SocketAddr => SocketEntry)
    (key : SocketAddr × SocketAddr) (entry : SocketEntry) :
    (fun other => ((table.insert key entry).lookup other).map SocketEntry.socket) =
      Function.update (fun other => (table.lookup other).map SocketEntry.socket) key
        (some entry.socket) := by
  funext other
  by_cases same : other = key
  · subst same
    rw [AList.lookup_insert, Function.update_self, Option.map_some]
  · rw [AList.lookup_insert_ne same, Function.update_of_ne same]

theorem stored_erase (table : AList fun _ : SocketAddr × SocketAddr => SocketEntry)
    (key : SocketAddr × SocketAddr) :
    (fun other => ((table.erase key).lookup other).map SocketEntry.socket) =
      Function.update (fun other => (table.lookup other).map SocketEntry.socket) key none := by
  funext other
  by_cases same : other = key
  · subst same
    rw [AList.lookup_erase, Function.update_self, Option.map_none]
  · rw [AList.lookup_erase_ne same, Function.update_of_ne same]

theorem stored_refresh {table : AList fun _ : SocketAddr × SocketAddr => SocketEntry}
    {key : SocketAddr × SocketAddr} {entry : SocketEntry} (known : table.lookup key = some entry)
    (now : Instant) :
    (fun other => ((table.insert key { entry with lastActive := now }).lookup other).map
      SocketEntry.socket) = fun other => (table.lookup other).map SocketEntry.socket := by
  rw [stored_insert]
  refine (congrArg _ ?_).trans (Function.update_eq_self key _)
  rw [known, Option.map_some]

theorem stored_filter (found : Option SocketEntry) (now : Instant) :
    (found.filter fun entry => alive now entry).map SocketEntry.socket =
      if found.any fun entry => !alive now entry then none else found.map SocketEntry.socket := by
  cases found with
  | none => rfl
  | some entry =>
      rw [Option.filter_some, Option.any_some]
      cases alive now entry <;> rfl

theorem owner_update (tasks : Nat → Option InboundTask) (id : Nat) (task : Option InboundTask) :
    (fun other => (Function.update tasks id task other).map fun task => (task.key, task.socket)) =
      Function.update (fun other => (tasks other).map fun task => (task.key, task.socket)) id
        (task.map fun task => (task.key, task.socket)) := by
  funext other
  by_cases same : other = id
  · subst same
    rw [Function.update_self, Function.update_self]
  · rw [Function.update_of_ne same, Function.update_of_ne same]

theorem proceed_bindings {id : Nat} {key : SocketAddr × SocketAddr} {socket : Nat}
    {phase : InboundPhase} (running : nat.tasks id = some ⟨key, socket, phase⟩)
    (next : InboundPhase) : (nat.proceed id ⟨key, socket, next⟩).bindings = nat.bindings := by
  have owner : (nat.proceed id ⟨key, socket, next⟩).bindings.owner = nat.bindings.owner := by
    refine (owner_update nat.tasks id _).trans ?_
    refine (congrArg _ ?_).trans (Function.update_eq_self id _)
    rw [running, Option.map_some, Option.map_some]
  exact Bindings.ext rfl owner rfl rfl

theorem handleOutbound_bindings (src dst : SocketAddr) (packet : Bytes) (opening : Opening)
    (now : Instant) :
    (nat.handleOutbound src dst packet opening now).1.bindings =
      nat.bindings.apply (nat.action (.outbound src dst packet opening now)) := by
  cases known : nat.table.lookup (src, dst) with
  | some entry =>
      simp only [handleOutbound, action, known]
      exact Bindings.ext (stored_refresh known now) rfl rfl rfl
  | none =>
      cases opening with
      | unbound | unconnected =>
          simp only [handleOutbound, action, known]
          rfl
      | connected =>
          have absent : nat.bindings.stored (src, dst) = none := by
            simp only [bindings, known, Option.map_none]
          simp only [handleOutbound, action, known, Bindings.apply, if_pos absent]
          exact Bindings.ext (stored_insert _ _ _) (owner_update _ _ _) rfl rfl

/-- Each event does to the bindings what its action says. -/
theorem step_bindings (nat : UdpNat) (event : UdpNatEvent) :
    (nat.step event).1.bindings = nat.bindings.apply (nat.action event) := by
  cases event with
  | outbound src dst packet opening now => exact handleOutbound_bindings src dst packet opening now
  | recv id reply =>
      simp only [step, recv]
      split
      · rename_i running
        exact proceed_bindings running _
      · rfl
  | sendFromTo id sent =>
      simp only [step, sendFromTo]
      split
      · rename_i running
        exact proceed_bindings running _
      · rfl
  | refresh id now =>
      simp only [step, refresh]
      split
      · rename_i key socket running
        have same := proceed_bindings running .receiving
        change _ = nat.bindings
        rw [← same]
        split
        · rename_i entry known
          exact Bindings.ext (stored_refresh known now) rfl rfl rfl
        · rfl
      · rfl
  | remove id =>
      simp only [step, remove, action]
      cases running : nat.tasks id with
      | none => rfl
      | some task =>
          obtain ⟨key, socket, phase⟩ := task
          cases phase with
          | receiving | writing | refreshing => rfl
          | removing =>
              have owned : nat.bindings.owner id = some (key, socket) := by
                simp only [bindings, running, Option.map_some]
              simp only [Bindings.apply, owned]
              refine Bindings.ext ?_ (owner_update _ _ _) rfl rfl
              exact stored_erase _ _
  | gc now =>
      refine Bindings.ext (funext fun key => ?_) rfl rfl rfl
      refine (congrArg (Option.map SocketEntry.socket) (Table.lookup_retain _ _ key)).trans ?_
      exact stored_filter (nat.table.lookup key) now

end Bindings

/-- The tasks and the entries of the table correspond one to one. -/
structure Corresponds (nat : UdpNat) : Prop where
  owns : ∀ id task, nat.tasks id = some task →
    (nat.table.lookup task.key).map SocketEntry.socket = some task.socket
  served : ∀ key entry, nat.table.lookup key = some entry →
    ∃! id, ∃ task, nat.tasks id = some task ∧ task.key = key ∧ task.socket = entry.socket

/-- A task that ends removes no entry of another socket. -/
def RemovesOwn (nat : UdpNat) : UdpNatEvent → Prop
  | .remove id => ∀ task entry, nat.tasks id = some task →
      nat.table.lookup task.key = some entry →
        (nat.step (.remove id)).1.table.lookup task.key = none → entry.socket = task.socket
  | _ => True

/-- A collection finds no entry to drop. -/
def NothingIdle (nat : UdpNat) : UdpNatEvent → Prop
  | .gc now => ∀ key entry, nat.table.lookup key = some entry →
      now - entry.lastActive < natIdleTimeout
  | _ => True

section Correspondence
variable {nat : UdpNat}

theorem owner_iff {id : Nat} {key : SocketAddr × SocketAddr} {socket : Nat} :
    nat.bindings.owner id = some (key, socket) ↔
      ∃ task, nat.tasks id = some task ∧ task.key = key ∧ task.socket = socket := by
  simp only [bindings, Option.map_eq_some_iff, Prod.mk.injEq]

theorem stored_iff {key : SocketAddr × SocketAddr} {socket : Nat} :
    nat.bindings.stored key = some socket ↔
      ∃ entry, nat.table.lookup key = some entry ∧ entry.socket = socket := by
  simp only [bindings, Option.map_eq_some_iff]

theorem corresponds_iff : nat.Corresponds ↔ nat.bindings.Matched := by
  constructor
  · intro corresponds
    constructor
    · rintro id ⟨key, socket⟩ owned
      obtain ⟨task, running, rfl, rfl⟩ := owner_iff.mp owned
      exact corresponds.owns id task running
    · intro key socket present
      obtain ⟨entry, known, rfl⟩ := stored_iff.mp present
      simpa only [owner_iff] using corresponds.served key entry known
  · intro matched
    constructor
    · intro id task running
      exact matched.holds id _ (owner_iff.mpr ⟨task, running, rfl, rfl⟩)
    · intro key entry known
      simpa only [owner_iff] using matched.served key _ (stored_iff.mpr ⟨entry, known, rfl⟩)

theorem Corresponds.removesOwn (corresponds : nat.Corresponds) (event : UdpNatEvent) :
    nat.RemovesOwn event := by
  cases event with
  | remove id =>
      intro task entry running known _
      have owned := corresponds.owns id task running
      rw [known, Option.map_some] at owned
      exact Option.some.inj owned
  | _ => trivial

/-- One step leaves the two in correspondence exactly if it drops no idle entry. -/
theorem corresponds_step (sound : nat.bindings.Sound) (corresponds : nat.Corresponds)
    (event : UdpNatEvent) : (nat.step event).1.Corresponds ↔ nat.NothingIdle event := by
  rw [corresponds_iff, step_bindings,
    Bindings.apply_matched_iff sound (corresponds_iff.mp corresponds)]
  cases event with
  | gc now =>
      constructor
      · intro absent key entry known
        by_contra idle
        have none := absent _ rfl key (by simp [known, alive, idle])
        simp [bindings, known] at none
      · rintro fresh _ ⟨⟩ key dropped
        cases known : nat.table.lookup key with
        | none => simp only [bindings, known, Option.map_none]
        | some entry => simp [known, alive, fresh key entry known] at dropped
  | outbound src dst packet opening now =>
      refine iff_of_true ?_ trivial
      intro gone same
      simp only [action] at same
      split at same <;> cases same
  | remove id =>
      refine iff_of_true ?_ trivial
      intro gone same
      simp only [action] at same
      split at same <;> cases same
  | recv id reply => exact iff_of_true (fun _ same => (by cases same)) trivial
  | sendFromTo id sent => exact iff_of_true (fun _ same => (by cases same)) trivial
  | refresh id now => exact iff_of_true (fun _ same => (by cases same)) trivial

end Correspondence

/-- In every run tasks and entries correspond, and no task removes the entry of another
socket, exactly as far as no collection drops an idle entry. -/
theorem corresponds_along_iff (events : List UdpNatEvent) :
    Machine.Along step
        (fun nat event => (nat.step event).1.Corresponds ∧ nat.RemovesOwn event) new events ↔
      Machine.Along step NothingIdle new events := by
  apply Machine.along_iff step fun nat => nat.bindings.Sound ∧ nat.Corresponds
  · rintro nat event _ ⟨sound, corresponds⟩ fresh
    refine ⟨?_, (corresponds_step sound corresponds event).mpr fresh⟩
    rw [step_bindings]
    exact sound.apply _
  · rintro nat event _ ⟨sound, corresponds⟩
    rw [corresponds_step sound corresponds event]
    exact and_iff_left (corresponds.removesOwn event)
  · exact ⟨Bindings.sound_empty, corresponds_iff.mpr Bindings.matched_empty⟩

def idleFlow : List UdpNatEvent :=
  let src : SocketAddr := ⟨.v4 0x0A1A0002, 5353⟩
  let dst : SocketAddr := ⟨.v4 0x08080808, 53⟩
  [.outbound src dst [1] .connected 0, .gc (fromSecs 300),
    .outbound src dst [2] .connected (fromSecs 301), .recv 0 none]

/-- The collection leaves the first task behind, and its end removes the second socket. -/
theorem idle_flow_left_behind :
    ¬ Machine.Along step
        (fun nat event => (nat.step event).1.Corresponds ∧ nat.RemovesOwn event) new idleFlow ∧
      ¬ (Machine.run step new idleFlow).1.RemovesOwn (.remove 0) := by
  constructor
  · rintro ⟨-, ⟨corresponds, -⟩, -⟩
    have owned := corresponds.owns 0 _ rfl
    exact absurd owned (by decide +kernel)
  · intro own
    have same := own _ _ rfl rfl (by decide +kernel)
    exact absurd same (by decide +kernel)

end UdpNat
end VntClient
