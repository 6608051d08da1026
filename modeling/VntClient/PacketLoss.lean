import VntClient.Machine
import VntClient.NetPacket
import VntClient.Table

/-!
`PacketLossStats` of `context/mod.rs` and who calls it: the pings of `ping_all` are
counted once they are sent, those of the relay probe are not, and every pong counts.
Counters do not wrap around here.
-/

namespace VntClient

structure PingStats where
  sent : Nat
  received : Nat

/-- The loss rate as a rational number; the code rounds it to a double. -/
structure PacketLossInfo where
  ip : Ipv4Addr
  sent : Nat
  received : Nat
  lossRate : ℚ

abbrev PacketLossStats := AList fun _ : Ipv4Addr => PingStats

namespace PacketLossStats

def default : PingStats := ⟨0, 0⟩

/-- `get_or_create`, and what the caller does under the lock. -/
def update (stats : PacketLossStats) (ip : Ipv4Addr) (change : PingStats → PingStats) :
    PacketLossStats :=
  stats.insert ip (change ((stats.lookup ip).getD default))

def recordSent (stats : PacketLossStats) (ip : Ipv4Addr) : PacketLossStats :=
  stats.update ip fun counts => { counts with sent := counts.sent + 1 }

def recordReceived (stats : PacketLossStats) (ip : Ipv4Addr) : PacketLossStats :=
  stats.update ip fun counts => { counts with received := counts.received + 1 }

def lossInfo (ip : Ipv4Addr) (counts : PingStats) : PacketLossInfo where
  ip
  sent := counts.sent
  received := counts.received
  lossRate := if 0 < counts.sent then 1 - counts.received / counts.sent else 0

def getLossInfo (stats : PacketLossStats) (ip : Ipv4Addr) : Option PacketLossInfo :=
  (stats.lookup ip).map (lossInfo ip)

def getAllLossInfo (stats : PacketLossStats) : List PacketLossInfo :=
  stats.entries.map fun entry => lossInfo entry.1 entry.2

def reset (stats : PacketLossStats) (ip : Ipv4Addr) : PacketLossStats :=
  match stats.lookup ip with
  | some _ => stats.insert ip default
  | none => stats

def resetAll (stats : PacketLossStats) : PacketLossStats :=
  Table.mapValues (fun _ _ => default) stats

def Consistent (stats : PacketLossStats) : Prop :=
  ∀ info ∈ stats.getAllLossInfo, info.received ≤ info.sent ∧ 0 ≤ info.lossRate ∧ info.lossRate ≤ 1

def counts (stats : PacketLossStats) (ip : Ipv4Addr) : PingStats := (stats.lookup ip).getD default

variable {stats : PacketLossStats}

theorem mem_getAllLossInfo {info : PacketLossInfo} :
    info ∈ stats.getAllLossInfo ↔ ∃ ip, stats.getLossInfo ip = some info := by
  simp only [getAllLossInfo, getLossInfo, List.mem_map, Option.map_eq_some_iff]
  constructor
  · rintro ⟨entry, member, rfl⟩
    exact ⟨entry.1, entry.2, AList.mem_lookup_iff.mpr member, rfl⟩
  · rintro ⟨ip, counts, found, rfl⟩
    exact ⟨⟨ip, counts⟩, AList.mem_lookup_iff.mp found, rfl⟩

theorem lossRate_bounds (ip : Ipv4Addr) {counts : PingStats} (fewer : counts.received ≤ counts.sent) :
    0 ≤ (lossInfo ip counts).lossRate ∧ (lossInfo ip counts).lossRate ≤ 1 := by
  rw [lossInfo]
  split
  · rename_i some
    have positive : (0 : ℚ) < counts.sent := Nat.cast_pos.mpr some
    have ratio : (counts.received : ℚ) / counts.sent ≤ 1 :=
      (div_le_one positive).mpr (Nat.cast_le.mpr fewer)
    have least : (0 : ℚ) ≤ counts.received / counts.sent := by positivity
    exact ⟨sub_nonneg.mpr ratio, sub_le_self 1 least⟩
  · exact ⟨le_refl 0, zero_le_one⟩

theorem consistent_iff :
    stats.Consistent ↔ ∀ ip, (stats.counts ip).received ≤ (stats.counts ip).sent := by
  constructor
  · intro consistent ip
    rw [counts]
    cases found : stats.lookup ip with
    | none => exact le_refl 0
    | some counts =>
        have member : lossInfo ip counts ∈ stats.getAllLossInfo :=
          mem_getAllLossInfo.mpr ⟨ip, by rw [getLossInfo, found]; rfl⟩
        exact (consistent _ member).1
  · intro fewer info member
    obtain ⟨ip, found⟩ := mem_getAllLossInfo.mp member
    obtain ⟨counts, held, rfl⟩ := Option.map_eq_some_iff.mp found
    have here := fewer ip
    rw [PacketLossStats.counts, held] at here
    exact ⟨here, lossRate_bounds ip here⟩

theorem counts_update (ip other : Ipv4Addr) (change : PingStats → PingStats) :
    (stats.update ip change).counts other =
      if other = ip then change (stats.counts ip) else stats.counts other := by
  rw [counts, update]
  by_cases same : other = ip
  · rw [if_pos same, same, AList.lookup_insert]
    rfl
  · rw [if_neg same, AList.lookup_insert_ne same]
    rfl

theorem counts_reset (ip other : Ipv4Addr) :
    (stats.reset ip).counts other = if other = ip then default else stats.counts other := by
  rw [reset]
  cases found : stats.lookup ip with
  | none =>
      by_cases same : other = ip
      · rw [if_pos same, counts, same, found]
        rfl
      · rw [if_neg same]
  | some held =>
      by_cases same : other = ip
      · rw [if_pos same, counts, same, AList.lookup_insert]
        rfl
      · rw [if_neg same, counts, AList.lookup_insert_ne same]
        rfl

theorem counts_resetAll (ip : Ipv4Addr) : stats.resetAll.counts ip = default := by
  rw [counts, resetAll, Table.lookup_mapValues]
  cases stats.lookup ip <;> rfl

end PacketLossStats

/-- A ping that was sent, with the time it carries. The code keeps none of the flags: who
sent it, whether it has been counted and answered, and which of the two count in the stats
since the last reset of its peer. -/
structure SentPing where
  peer : Ipv4Addr
  time : Int
  direct : Bool
  recorded : Bool
  answered : Bool
  inSent : Bool
  inReceived : Bool

namespace SentPing

def counted (ping : SentPing) : SentPing := { ping with recorded := true, inSent := true }

def received (ping : SentPing) : SentPing := { ping with answered := true, inReceived := true }

def uncounted (ping : SentPing) : SentPing := { ping with answered := true }

def forget (ping : SentPing) : SentPing := { ping with inSent := false, inReceived := false }

end SentPing

structure LossAccounting where
  stats : PacketLossStats
  pings : List SentPing

/-- Pings are numbered as they are sent. A direct one is counted after it is sent, so its
pong may come first. -/
inductive LossEvent where
  | pingAll (peer : Ipv4Addr) (time : Int)
  | relayProbe (target : Ipv4Addr) (time : Int)
  | recordSent (n : Nat)
  | pong (n : Nat) (now : Int)
  | reset (ip : Ipv4Addr)
  | resetAll

namespace LossAccounting

def new : LossAccounting := ⟨∅, []⟩

/-- A pong of the past is not counted, and a ping is answered once. -/
def pong (accounting : LossAccounting) (n : Nat) (now : Int) : LossAccounting :=
  match accounting.pings[n]? with
  | none => accounting
  | some ping =>
      if ping.answered then accounting
      else if ping.time ≤ now then
        ⟨accounting.stats.recordReceived ping.peer,
          accounting.pings.set n ping.received⟩
      else { accounting with pings := accounting.pings.set n ping.uncounted }

def recordSent (accounting : LossAccounting) (n : Nat) : LossAccounting :=
  match accounting.pings[n]? with
  | none => accounting
  | some ping =>
      if ping.direct && !ping.recorded then
        ⟨accounting.stats.recordSent ping.peer,
          accounting.pings.set n ping.counted⟩
      else accounting

def send (accounting : LossAccounting) (peer : Ipv4Addr) (time : Int) (direct : Bool) :
    LossAccounting :=
  { accounting with
    pings := accounting.pings ++ [⟨peer, time, direct, false, false, false, false⟩] }

def step (accounting : LossAccounting) (event : LossEvent) : LossAccounting × List Empty :=
  match event with
  | .pingAll peer time => (accounting.send peer time true, [])
  | .relayProbe target time => (accounting.send target time false, [])
  | .recordSent n => (accounting.recordSent n, [])
  | .pong n now => (accounting.pong n now, [])
  | .reset ip =>
      (⟨accounting.stats.reset ip, accounting.pings.map fun ping =>
        if ping.peer = ip then ping.forget else ping⟩, [])
  | .resetAll => (⟨accounting.stats.resetAll, accounting.pings.map SentPing.forget⟩, [])

/-- How many pings to a peer have a flag. -/
def tally (pings : List SentPing) (ip : Ipv4Addr) (flag : SentPing → Bool) : Nat :=
  pings.countP fun ping => ping.peer == ip && flag ping

/-- Every count goes back to pings, each of which counts once. -/
structure Sound (accounting : LossAccounting) : Prop where
  counts : ∀ ip, accounting.stats.counts ip =
    ⟨tally accounting.pings ip SentPing.inSent, tally accounting.pings ip SentPing.inReceived⟩
  recorded : ∀ ping ∈ accounting.pings, ping.recorded = false → ping.inSent = false
  answered : ∀ ping ∈ accounting.pings, ping.answered = false → ping.inReceived = false

/-- A pong that counts answers a ping of which the stats know since the last reset. -/
def Answering (accounting : LossAccounting) : LossEvent → Prop
  | .pong n now => ∀ ping, accounting.pings[n]? = some ping → ping.answered = false →
      ping.time ≤ now → ping.inSent = true
  | _ => True

/-- Only pings that count have answers that do. -/
def Paid (accounting : LossAccounting) : Prop :=
  ∀ ping ∈ accounting.pings, ping.inReceived = true → ping.inSent = true

section Tally
variable {pings : List SentPing} {n : Nat} {old new : SentPing} {flag : SentPing → Bool}

theorem countP_set_of_get {Item : Type} {items : List Item} {n : Nat} {old new : Item}
    (test : Item → Bool) (found : items[n]? = some old) :
    (items.set n new).countP test + (test old).toNat = items.countP test + (test new).toNat := by
  induction items generalizing n with
  | nil => cases found
  | cons head rest ih =>
      cases n with
      | zero =>
          cases found
          simp only [List.set_cons_zero, List.countP_cons]
          cases test old <;> cases test new <;> simp
      | succ n =>
          have later := ih found
          simp only [List.set_cons_succ, List.countP_cons]
          omega

theorem tally_set (found : pings[n]? = some old) (same : new.peer = old.peer) (ip : Ipv4Addr) :
    tally (pings.set n new) ip flag + (old.peer == ip && flag old).toNat =
      tally pings ip flag + (old.peer == ip && flag new).toNat := by
  have counted := @countP_set_of_get _ pings n old new (fun ping => ping.peer == ip && flag ping) found
  rwa [same] at counted

theorem tally_append (flag : SentPing → Bool) (ping : SentPing) (ip : Ipv4Addr)
    (unset : flag ping = false) : tally (pings ++ [ping]) ip flag = tally pings ip flag := by
  rw [tally, List.countP_append, List.countP_singleton, unset, Bool.and_false]
  rfl

/-- A flag that is set on one ping of a peer is one more for the peer. -/
theorem tally_raised (found : pings[n]? = some old) (same : new.peer = old.peer)
    (before : flag old = false) (after : flag new = true) (ip : Ipv4Addr) :
    tally (pings.set n new) ip flag =
      if ip = old.peer then tally pings old.peer flag + 1 else tally pings ip flag := by
  have counted := @tally_set pings n old new flag found same ip
  rw [before, after, Bool.and_false, Bool.and_true] at counted
  by_cases here : ip = old.peer
  · rw [if_pos here, ← here]
    simpa [← here] using counted
  · have other : (old.peer == ip) = false := by simpa using Ne.symm here
    rw [if_neg here]
    simpa [other] using counted

theorem tally_kept (found : pings[n]? = some old) (same : new.peer = old.peer)
    (kept : flag new = flag old) (ip : Ipv4Addr) :
    tally (pings.set n new) ip flag = tally pings ip flag := by
  have counted := @tally_set pings n old new flag found same ip
  rw [kept] at counted
  exact Nat.add_right_cancel counted

end Tally

variable {accounting : LossAccounting} {n : Nat}

theorem Sound.send (sound : accounting.Sound) (peer : Ipv4Addr) (time : Int) (direct : Bool) :
    (accounting.send peer time direct).Sound := by
  constructor
  · intro ip
    rw [LossAccounting.send, tally_append _ _ _ rfl, tally_append _ _ _ rfl]
    exact sound.counts ip
  · intro ping member unrecorded
    rcases List.mem_append.mp member with old | new
    · exact sound.recorded ping old unrecorded
    · rw [List.mem_singleton.mp new]
  · intro ping member unanswered
    rcases List.mem_append.mp member with old | new
    · exact sound.answered ping old unanswered
    · rw [List.mem_singleton.mp new]

/-- One ping is replaced, and the stats count it as it is now. -/
theorem Sound.set (sound : accounting.Sound) {new : SentPing} {stats : PacketLossStats}
    (recorded : new.recorded = false → new.inSent = false)
    (answered : new.answered = false → new.inReceived = false)
    (counts : ∀ ip, stats.counts ip = ⟨tally (accounting.pings.set n new) ip SentPing.inSent,
      tally (accounting.pings.set n new) ip SentPing.inReceived⟩) :
    Sound ⟨stats, accounting.pings.set n new⟩ where
  counts := counts
  recorded := by
    intro ping member
    rcases List.mem_or_eq_of_mem_set member with there | rfl
    · exact sound.recorded ping there
    · exact recorded
  answered := by
    intro ping member
    rcases List.mem_or_eq_of_mem_set member with there | rfl
    · exact sound.answered ping there
    · exact answered

theorem Sound.recordSent (sound : accounting.Sound) (n : Nat) : (accounting.recordSent n).Sound := by
  rw [LossAccounting.recordSent]
  cases found : accounting.pings[n]? with
  | none => exact sound
  | some ping =>
      dsimp only
      split
      · rename_i first
        have member := List.mem_of_getElem? found
        have unsent : ping.inSent = false :=
          sound.recorded ping member (by simpa using (Bool.and_eq_true_iff.mp first).2)
        refine sound.set (fun unrecorded => ?_) (sound.answered ping member) fun ip => ?_
        · cases unrecorded
        · rw [PacketLossStats.recordSent, PacketLossStats.counts_update,
            @tally_raised _ n ping ping.counted SentPing.inSent found rfl unsent rfl,
            @tally_kept _ n ping ping.counted SentPing.inReceived found rfl rfl, sound.counts, sound.counts]
          by_cases same : ip = ping.peer
          · rw [if_pos same, if_pos same, same]
          · rw [if_neg same, if_neg same]
      · exact sound

theorem Sound.pong (sound : accounting.Sound) (n : Nat) (now : Int) :
    (accounting.pong n now).Sound := by
  rw [LossAccounting.pong]
  cases found : accounting.pings[n]? with
  | none => exact sound
  | some ping =>
      have member := List.mem_of_getElem? found
      dsimp only
      split
      · exact sound
      · rename_i first
        have fresh : ping.inReceived = false := sound.answered ping member (by simpa using first)
        split
        · refine sound.set (sound.recorded ping member) (fun unanswered => ?_) fun ip => ?_
          · cases unanswered
          · rw [PacketLossStats.recordReceived, PacketLossStats.counts_update,
              @tally_raised _ n ping ping.received SentPing.inReceived found rfl fresh rfl,
              @tally_kept _ n ping ping.received SentPing.inSent found rfl rfl, sound.counts, sound.counts]
            by_cases same : ip = ping.peer
            · rw [if_pos same, if_pos same, same]
            · rw [if_neg same, if_neg same]
        · refine sound.set (sound.recorded ping member) (fun unanswered => ?_) fun ip => ?_
          · cases unanswered
          · rw [@tally_kept _ n ping ping.uncounted SentPing.inSent found rfl rfl,
              @tally_kept _ n ping ping.uncounted SentPing.inReceived found rfl rfl]
            exact sound.counts ip

section Reset
variable (chosen : Ipv4Addr → Prop) [DecidablePred chosen]

theorem tally_forget {flag : SentPing → Bool} (cleared : ∀ ping : SentPing, flag ping.forget = false)
    (pings : List SentPing) (ip : Ipv4Addr) :
    tally (pings.map fun ping => if chosen ping.peer then ping.forget else ping) ip flag =
      if chosen ip then 0 else tally pings ip flag := by
  simp only [tally]
  induction pings with
  | nil => simp
  | cons ping rest ih =>
      rw [List.map_cons, List.countP_cons, List.countP_cons, ih]
      by_cases picked : chosen ping.peer
      · rw [if_pos picked, cleared, Bool.and_false]
        by_cases here : ping.peer = ip
        · rw [← here, if_pos picked, if_pos picked]
          rfl
        · simp [here]
      · rw [if_neg picked]
        by_cases here : ping.peer = ip
        · rw [← here, if_neg picked, if_neg picked]
        · simp [here]

theorem Sound.forget (sound : accounting.Sound) {stats : PacketLossStats}
    (counts : ∀ ip, stats.counts ip =
      if chosen ip then PacketLossStats.default else accounting.stats.counts ip) :
    Sound ⟨stats, accounting.pings.map fun ping =>
      if chosen ping.peer then ping.forget else ping⟩ where
  counts := by
    intro ip
    rw [counts, tally_forget _ (fun _ => rfl), tally_forget _ (fun _ => rfl), sound.counts]
    split
    · rfl
    · rfl
  recorded := by
    intro ping member
    obtain ⟨old, there, rfl⟩ := List.mem_map.mp member
    split
    · exact fun _ => rfl
    · exact sound.recorded old there
  answered := by
    intro ping member
    obtain ⟨old, there, rfl⟩ := List.mem_map.mp member
    split
    · exact fun _ => rfl
    · exact sound.answered old there

end Reset

theorem Sound.reset (sound : accounting.Sound) (ip : Ipv4Addr) :
    (LossAccounting.step accounting (.reset ip)).1.Sound :=
  sound.forget (fun peer => peer = ip) fun other => PacketLossStats.counts_reset ip other

theorem Sound.resetAll (sound : accounting.Sound) :
    (LossAccounting.step accounting .resetAll).1.Sound := by
  have all : Sound ⟨accounting.stats.resetAll, accounting.pings.map fun ping =>
      if True then ping.forget else ping⟩ := by
    apply sound.forget (fun _ => True)
    intro ip
    rw [if_pos trivial]
    exact PacketLossStats.counts_resetAll ip
  simp only [if_true] at all
  exact all

theorem Sound.step (sound : accounting.Sound) (event : LossEvent) :
    (LossAccounting.step accounting event).1.Sound := by
  cases event with
  | pingAll peer time => exact sound.send peer time true
  | relayProbe target time => exact sound.send target time false
  | recordSent n => exact sound.recordSent n
  | pong n now => exact sound.pong n now
  | reset ip => exact sound.reset ip
  | resetAll => exact sound.resetAll

theorem Paid.consistent (paid : accounting.Paid) (sound : accounting.Sound) :
    accounting.stats.Consistent := by
  rw [PacketLossStats.consistent_iff]
  intro ip
  rw [sound.counts ip]
  apply List.countP_mono_left
  intro ping member counted
  simp only [Bool.and_eq_true] at counted ⊢
  exact ⟨counted.1, paid ping member counted.2⟩

theorem Paid.step (paid : accounting.Paid) {event : LossEvent}
    (answering : Answering accounting event) : (LossAccounting.step accounting event).1.Paid := by
  have sent : ∀ peer time direct, (accounting.send peer time direct).Paid := by
    intro peer time direct ping member received
    rcases List.mem_append.mp member with old | new
    · exact paid ping old received
    · rw [List.mem_singleton.mp new] at received
      cases received
  cases event with
  | pingAll peer time => exact sent peer time true
  | relayProbe target time => exact sent target time false
  | recordSent n =>
      simp only [LossAccounting.step, LossAccounting.recordSent]
      split
      · exact paid
      · split
        · intro other inside received
          rcases List.mem_or_eq_of_mem_set inside with old | rfl
          · exact paid other old received
          · rfl
        · exact paid
  | pong n now =>
      simp only [LossAccounting.step, LossAccounting.pong]
      split
      · exact paid
      · rename_i ping found
        split
        · exact paid
        · rename_i first
          have member := List.mem_of_getElem? found
          split
          · rename_i late
            intro other inside received
            rcases List.mem_or_eq_of_mem_set inside with old | rfl
            · exact paid other old received
            · exact answering ping found (by simpa using first) late
          · intro other inside received
            rcases List.mem_or_eq_of_mem_set inside with old | rfl
            · exact paid other old received
            · exact paid ping member received
  | reset ip =>
      intro ping member received
      obtain ⟨old, inside, rfl⟩ := List.mem_map.mp member
      split at received
      · cases received
      · rename_i other
        rw [if_neg other]
        exact paid old inside received
  | resetAll =>
      intro ping member received
      obtain ⟨old, inside, rfl⟩ := List.mem_map.mp member
      cases received

theorem new_sound : new.Sound :=
  ⟨fun _ => rfl, fun _ member => by (cases member), fun _ member => by cases member⟩

/-- Where every pong that counts answers a ping that does, no peer has more answers than pings
and every loss rate is between 0 and 1. -/
theorem losses_consistent_of_answering (events : List LossEvent)
    (answering : Machine.Along step Answering new events) :
    Machine.Along step (fun accounting event => (step accounting event).1.stats.Consistent) new
      events := by
  apply Machine.along_of_invariant step (fun accounting => accounting.Sound ∧ accounting.Paid)
    Answering
  · rintro accounting event _ ⟨sound, paid⟩ answering
    have sound' := sound.step event
    have paid' := paid.step answering
    exact ⟨paid'.consistent sound', sound', paid'⟩
  · exact ⟨new_sound, fun _ member => by cases member⟩
  · exact answering

def resetBetween : List LossEvent :=
  [.pingAll 0x0A1A0002 5, .recordSent 0, .relayProbe 0x0A1A0004 6, .pingAll 0x0A1A0002 8, .pong 0 9,
    .recordSent 2, .reset 0x0A1A0002, .pingAll 0x0A1A0002 20, .recordSent 3, .pong 3 21,
    .pong 1 4, .resetAll]

theorem reset_between_consistent : Machine.Along step
    (fun accounting event => (step accounting event).1.stats.Consistent) new resetBetween := by
  apply losses_consistent_of_answering
  refine ⟨trivial, trivial, trivial, trivial, fun ping found _ _ => ?_, trivial, trivial, trivial,
    trivial, fun ping found _ _ => ?_, fun ping found _ late => ?_, trivial, trivial⟩
  · cases found
    rfl
  · cases found
    rfl
  · cases found
    exact absurd late (by decide)

/-- A pong that answers the probe of a relay. -/
def probed : List LossEvent := [.relayProbe 0x0A1A0004 5, .pong 0 7]

theorem probed_inconsistent : ¬ Machine.Along step
    (fun accounting event => (step accounting event).1.stats.Consistent) new probed := by
  rintro ⟨_, consistent, _⟩
  exact absurd (PacketLossStats.consistent_iff.mp consistent 0x0A1A0004) (by decide)

end LossAccounting

end VntClient
