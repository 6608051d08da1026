import VntClient.InternalNat
import VntClient.Machine

/-!
`nat/internal_nat/icmp_nat.rs` as it runs: one task takes the echo requests of the stack
and the packets of a raw socket in turn. Who waits for an answer is known by address,
identifier and sequence number alone.
-/

namespace VntClient

def Ipv4Packet.getSource (packet : Ipv4Packet) : Ipv4Addr :=
  fromBeBytes32 (packet.data.getD 12 0) (packet.data.getD 13 0) (packet.data.getD 14 0)
    (packet.data.getD 15 0)

/-- What has been put in the map: the source that asked, under which key, and how. -/
structure IcmpEntry where
  src : Ipv4Addr
  key : Ipv4Addr × Bytes × Bytes
  icmpType : UInt8

/-- The task. The code does not keep the last field: all entries so far. -/
structure IcmpNat where
  map : IcmpMap
  running : Bool
  entries : List IcmpEntry

/-- What the task receives, with the network at that time and whether its own packet can
be sent. A packet from outside says which entry it is to answer. -/
inductive IcmpNatEvent where
  | inner (src dst : IpAddr) (buf : Bytes) (network : Option NetworkAddr) (sent : Bool)
  | outer (answered : Nat) (buf : Bytes) (network : Option NetworkAddr) (sent : Bool)
  | recvFails

inductive IcmpNatOutput where
  | effect (effect : NatEffect)
  | sendFromTo (packet : Bytes) (src dst : Ipv4Addr)

namespace IcmpNat

def latest (entries : List IcmpEntry) (key : Ipv4Addr × Bytes × Bytes) : Option Ipv4Addr :=
  (entries.reverse.find? fun entry => entry.key == key).map IcmpEntry.src

@[simp] theorem latest_nil (key : Ipv4Addr × Bytes × Bytes) : latest [] key = none := rfl

theorem latest_append (entries : List IcmpEntry) (entry : IcmpEntry)
    (key : Ipv4Addr × Bytes × Bytes) : latest (entries ++ [entry]) key =
      if entry.key = key then some entry.src else latest entries key := by
  rw [latest, List.reverse_append, List.reverse_singleton, List.singleton_append]
  by_cases same : entry.key = key
  · rw [if_pos same, List.find?_cons_of_pos (by simpa using same)]
    rfl
  · rw [if_neg same, List.find?_cons_of_neg (by simpa using same)]
    rfl

theorem latest_isSome {entries : List IcmpEntry} {entry : IcmpEntry} (member : entry ∈ entries) :
    (latest entries entry.key).isSome = true := by
  rw [latest, Option.isSome_map, List.find?_isSome]
  exact ⟨entry, List.mem_reverse.mpr member, beq_self_eq_true _⟩

-- `Ipv4Packet::payload` of `pnet_packet`
variable (payload : Ipv4Packet → Bytes) (noTun : Bool)

/-- The part of an echo packet that its answer is known by, with its type. -/
def echoKey (src : Ipv4Addr) (buf : Bytes) : Option ((Ipv4Addr × Bytes × Bytes) × UInt8) :=
  match IcmpPacket.new buf with
  | none => none
  | some icmp =>
      if icmp.isEcho then
        some ((src, icmp.payload.take 2, (icmp.payload.drop 2).take 2), icmp.icmpType)
      else none

def tokioIcmpSocketRecv (map : IcmpMap) (network : Option NetworkAddr) (buf : Bytes) :
    Outcome (List IcmpNatOutput) :=
  match Ipv4Packet.new buf with
  | none => .ok []
  | some ipv4 =>
      match echoKey ipv4.getSource (payload ipv4) with
      | none => .ok []
      | some (key, _) =>
          match map.lookup key with
          | none => .ok []
          | some dst =>
              if noTun && ipv4.getSource == localhost then
                match network with
                | none => .err "not ip"
                | some net => .ok [.sendFromTo (payload ipv4) net.ip dst]
              else .ok [.sendFromTo (payload ipv4) ipv4.getSource dst]

def entryOf (src : IpAddr) (buf : Bytes) : NatEffect → Option IcmpEntry
  | .sendIcmp _ target _ =>
      match src, echoKey target buf with
      | .v4 src, some (key, icmpType) => some ⟨src, key, icmpType⟩
      | _, _ => none
  | _ => none

/-- An error ends the task. -/
def step (nat : IcmpNat) (event : IcmpNatEvent) : IcmpNat × List IcmpNatOutput :=
  if !nat.running then (nat, [])
  else
    match event with
    | .inner src dst buf network sent =>
        match innerIcmpSocketRecv noTun network nat.map src dst buf with
        | .ok (map, effects) =>
            ({ map
               running := sent || effects.isEmpty
               entries := nat.entries ++ effects.filterMap (entryOf src buf) },
              if sent then effects.map .effect else [])
        | _ => ({ nat with running := false }, [])
    | .outer _ buf network sent =>
        match tokioIcmpSocketRecv payload noTun nat.map network buf with
        | .ok outputs => ({ nat with running := sent || outputs.isEmpty }, if sent then outputs else [])
        | _ => ({ nat with running := false }, [])
    | .recvFails => ({ nat with running := false }, [])

def new : IcmpNat := ⟨∅, true, []⟩

/-- The map has the last source of every key. -/
def Sound (nat : IcmpNat) : Prop := ∀ key, nat.map.lookup key = latest nat.entries key

/-- The packet is an echo reply to the request of the entry. -/
structure Answers (buf : Bytes) (entry : IcmpEntry) : Prop where
  request : entry.icmpType = 8
  reply : ∃ ipv4, Ipv4Packet.new buf = some ipv4 ∧
    echoKey ipv4.getSource (payload ipv4) = some (entry.key, 0)

/-- A forwarded reply goes to the source of the request it answers. -/
def Returned (nat : IcmpNat) : IcmpNatEvent → Prop
  | .outer answered buf network sent =>
      ∀ entry, nat.entries[answered]? = some entry → Answers payload buf entry →
        ∀ packet src dst, .sendFromTo packet src dst ∈
          (step payload noTun nat (.outer answered buf network sent)).2 → dst = entry.src
  | _ => True

/-- When a reply can be forwarded, nobody else has asked the same since the request. -/
def Unshared (nat : IcmpNat) : IcmpNatEvent → Prop
  | .outer answered buf network sent =>
      ∀ entry, nat.entries[answered]? = some entry → Answers payload buf entry →
        nat.running = true → sent = true →
          (noTun = true → entry.key.1 = localhost → network ≠ none) →
            latest nat.entries entry.key = some entry.src
  | _ => True

variable {payload noTun}

/-- What a packet of the stack puts in the map is what goes out for it. -/
theorem innerIcmpSocketRecv_ok {network : Option NetworkAddr} {map after : IcmpMap}
    {src dst : IpAddr} {buf : Bytes} {effects : List NatEffect}
    (ok : innerIcmpSocketRecv noTun network map src dst buf = .ok (after, effects)) :
    after = map ∧ effects = [] ∨ ∃ effect entry, effects = [effect] ∧
      entryOf src buf effect = some entry ∧ after = map.insert entry.key entry.src := by
  cases src with
  | v6 src =>
      cases ok
      exact .inl ⟨rfl, rfl⟩
  | v4 src =>
      cases dst with
      | v6 dst =>
          cases ok
          exact .inl ⟨rfl, rfl⟩
      | v4 dst =>
          simp only [innerIcmpSocketRecv] at ok
          cases parsed : IcmpPacket.new buf with
          | none =>
              simp only [parsed] at ok
              cases ok
              exact .inl ⟨rfl, rfl⟩
          | some icmp =>
              simp only [parsed] at ok
              by_cases echo : icmp.isEcho = true
              · have entry : ∀ target, entryOf (.v4 src) buf (.sendIcmp dst target buf) = some ⟨src,
                    (target, icmp.payload.take 2, (icmp.payload.drop 2).take 2), icmp.icmpType⟩ := by
                  intro target
                  simp only [entryOf, echoKey, parsed, echo, ↓reduceIte]
                rw [if_pos echo] at ok
                split at ok
                · split at ok
                  · cases ok
                  · cases ok
                    exact .inr ⟨_, _, rfl, entry _, rfl⟩
                · cases ok
                  exact .inr ⟨_, _, rfl, entry _, rfl⟩
              · rw [if_neg echo] at ok
                cases ok
                exact .inl ⟨rfl, rfl⟩

theorem Sound.step {nat : IcmpNat} (sound : nat.Sound) (event : IcmpNatEvent) :
    (IcmpNat.step payload noTun nat event).1.Sound := by
  unfold IcmpNat.step
  split
  · exact sound
  · cases event with
    | recvFails => exact sound
    | outer answered buf network sent =>
        dsimp only
        split
        · exact sound
        · exact sound
    | inner src dst buf network sent =>
        dsimp only
        split
        · rename_i after effects ok
          intro key
          rcases innerIcmpSocketRecv_ok ok with ⟨rfl, rfl⟩ | ⟨effect, entry, rfl, put, rfl⟩
          · simpa using sound key
          · rw [List.filterMap_cons_some put, List.filterMap_nil, latest_append]
            by_cases same : entry.key = key
            · rw [if_pos same, ← same]
              exact AList.lookup_insert _
            · rw [if_neg same, ← sound key]
              exact AList.lookup_insert_ne (Ne.symm same)
        · exact sound

theorem Answers.source {buf : Bytes} {entry : IcmpEntry} (answers : Answers payload buf entry) :
    ∃ ipv4, Ipv4Packet.new buf = some ipv4 ∧ ipv4.getSource = entry.key.1 ∧
      echoKey entry.key.1 (payload ipv4) = some (entry.key, 0) := by
  obtain ⟨_, ipv4, parsed, key⟩ := answers
  have source : ipv4.getSource = entry.key.1 := by
    rw [echoKey] at key
    split at key
    · cases key
    · split at key
      · rw [← congrArg Prod.fst (congrArg Prod.fst (Option.some.inj key))]
      · cases key
  exact ⟨ipv4, parsed, source, source ▸ key⟩

section Reply
variable {map : IcmpMap} {network : Option NetworkAddr} {buf : Bytes} {entry : IcmpEntry}

/-- A reply goes to whom the map has under its key, under an address that is known. -/
theorem Answers.sent (answers : Answers payload buf entry) {outputs : List IcmpNatOutput}
    (ok : tokioIcmpSocketRecv payload noTun map network buf = .ok outputs)
    {packet : Bytes} {src dst : Ipv4Addr} (member : .sendFromTo packet src dst ∈ outputs) :
    map.lookup entry.key = some dst ∧
      (noTun = true → entry.key.1 = localhost → network ≠ none) := by
  obtain ⟨ipv4, parsed, source, key⟩ := answers.source
  rw [tokioIcmpSocketRecv, parsed] at ok
  simp only [source, key] at ok
  cases found : map.lookup entry.key with
  | none =>
      simp only [found] at ok
      cases ok
      cases member
  | some holder =>
      simp only [found] at ok
      split at ok
      · cases network with
        | none => cases ok
        | some net =>
            cases ok
            cases List.mem_singleton.mp member
            exact ⟨rfl, fun _ _ none => by cases none⟩
      · rename_i foreign
        cases ok
        cases List.mem_singleton.mp member
        refine ⟨rfl, fun here loopback => absurd ?_ foreign⟩
        rw [here, loopback]
        rfl

/-- It goes out unless the own address is needed and not known. -/
theorem Answers.sends (answers : Answers payload buf entry) {dst : Ipv4Addr}
    (found : map.lookup entry.key = some dst)
    (addressed : noTun = true → entry.key.1 = localhost → network ≠ none) :
    ∃ packet src, tokioIcmpSocketRecv payload noTun map network buf =
      .ok [.sendFromTo packet src dst] := by
  obtain ⟨ipv4, parsed, source, key⟩ := answers.source
  rw [tokioIcmpSocketRecv, parsed]
  simp only [source, key, found]
  split
  · rename_i own
    obtain ⟨here, loopback⟩ := Bool.and_eq_true_iff.mp own
    cases network with
    | none => exact absurd rfl (addressed here (beq_iff_eq.mp loopback))
    | some net => exact ⟨_, _, rfl⟩
  · exact ⟨_, _, rfl⟩

end Reply

theorem returned_iff {nat : IcmpNat} (sound : nat.Sound) (event : IcmpNatEvent) :
    Returned payload noTun nat event ↔ Unshared payload noTun nat event := by
  cases event with
  | inner src dst buf network sent => rfl
  | recvFails => rfl
  | outer answered buf network sent =>
      apply forall_congr'
      intro entry
      apply forall_congr'
      intro there
      apply forall_congr'
      intro answers
      constructor
      · intro returned running sent' addressed
        cases found : latest nat.entries entry.key with
        | none =>
            have known := latest_isSome (List.mem_of_getElem? there)
            rw [found] at known
            cases known
        | some holder =>
            obtain ⟨packet, src, sends⟩ := answers.sends ((sound _).trans found) addressed
            have out : .sendFromTo packet src holder ∈
                (step payload noTun nat (.outer answered buf network sent)).2 := by
              simp [step, running, sends, sent']
            rw [returned packet src holder out]
      · intro unshared packet src dst out
        simp only [step] at out
        split at out
        · cases out
        · rename_i running
          split at out
          · rename_i outputs ok
            split at out
            · rename_i sent'
              obtain ⟨found, addressed⟩ := answers.sent ok out
              have latest := unshared (by simpa using running) sent' addressed
              rw [sound entry.key, latest] at found
              exact (Option.some.inj found).symm
            · cases out
          · cases out

/-- In a run of the task every forwarded reply goes back to the source it is for exactly if
every reply comes before another source has used its address, identifier and number. -/
theorem replies_returned_iff (payload : Ipv4Packet → Bytes) (noTun : Bool)
    (events : List IcmpNatEvent) :
    Machine.Along (step payload noTun) (Returned payload noTun) new events ↔
      Machine.Along (step payload noTun) (Unshared payload noTun) new events := by
  apply Machine.along_iff (step payload noTun) Sound
  · exact fun nat event _ sound _ => sound.step event
  · exact fun nat event _ sound => returned_iff sound event
  · exact fun _ => rfl

/-- An IP header without options from an address, and an ICMP packet. -/
def ipv4Bytes (source : Ipv4Addr) (icmp : Bytes) : Bytes :=
  List.replicate 12 0 ++ toBeBytes32 source ++ List.replicate 4 0 ++ icmp

def echo (icmpType : UInt8) : Bytes := [icmpType, 0, 0, 0, 0, 1, 0, 1]

/-- Two nodes ping the same server, both with identifier 1 and sequence number 1. -/
def twoPings : List IcmpNatEvent :=
  [.inner (.v4 0x0A1A0004) (.v4 0x08080808) (echo 8) none true,
    .inner (.v4 0x0A1A0005) (.v4 0x08080808) (echo 8) none true,
    .outer 0 (ipv4Bytes 0x08080808 (echo 0)) none true]

def withoutHeader (packet : Ipv4Packet) : Bytes := packet.data.drop 20

-- The answer to 10.26.0.4 goes to 10.26.0.5.
theorem reply_goes_astray :
    ¬ Machine.Along (step withoutHeader false) (Returned withoutHeader false) new twoPings := by
  rintro ⟨_, _, returned, _⟩
  have answers : Answers withoutHeader (ipv4Bytes 0x08080808 (echo 0))
      ⟨0x0A1A0004, (0x08080808, [0, 1], [0, 1]), 8⟩ := ⟨rfl, _, rfl, by decide⟩
  have there := (returned_iff (Sound.step (Sound.step (fun _ => rfl) _) _) _).mp returned
  exact absurd (there _ rfl answers rfl rfl fun here => by cases here) (by decide +kernel)

end IcmpNat

end VntClient
