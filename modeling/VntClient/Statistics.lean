import VntClient.PacketLoss
import VntClient.SharedCounters

/-!
`TrafficStats` and `PacketLossStats` of `context/mod.rs` as tasks share them: `get_or_create`
looks twice and lets go of the map before the caller adds to the counter, and a report or a
reset goes through the map with the lock for reading. Bytes are added in 64 bits, as the
release build adds them; the counts of packets go up by one and do not come to the end of theirs.
-/

namespace VntClient
open SharedCounters

structure TrafficCounter where
  txBytes : UInt64
  rxBytes : UInt64
deriving DecidableEq

structure TrafficInfo where
  ip : Ipv4Addr
  txBytes : UInt64
  rxBytes : UInt64

inductive TrafficChange
  | tx (bytes : UInt64)
  | rx (bytes : UInt64)
deriving DecidableEq

namespace TrafficChange

def apply : TrafficChange → TrafficCounter → TrafficCounter
  | tx bytes, counter => { counter with txBytes := counter.txBytes + bytes }
  | rx bytes, counter => { counter with rxBytes := counter.rxBytes + bytes }

def sent : TrafficChange → Nat
  | tx bytes => bytes.toNat
  | rx _ => 0

def received : TrafficChange → Nat
  | tx _ => 0
  | rx bytes => bytes.toNat

theorem foldl_apply (changes : List TrafficChange) (counter : TrafficCounter) :
    let total := changes.foldl (fun counter change => change.apply counter) counter
    total.txBytes.toNat = (counter.txBytes.toNat + (changes.map sent).sum) % 2 ^ 64 ∧
      total.rxBytes.toNat = (counter.rxBytes.toNat + (changes.map received).sum) % 2 ^ 64 := by
  induction changes generalizing counter with
  | nil =>
      have tx := counter.txBytes.toNat_lt
      have rx := counter.rxBytes.toNat_lt
      exact ⟨(Nat.mod_eq_of_lt tx).symm, (Nat.mod_eq_of_lt rx).symm⟩
  | cons change rest ih =>
      obtain ⟨tx, rx⟩ := ih (change.apply counter)
      rw [List.foldl_cons]
      refine ⟨tx.trans ?_, rx.trans ?_⟩
      · cases change with
        | tx bytes | rx bytes => simp [apply, sent, UInt64.toNat_add, Nat.add_assoc]
      · cases change with
        | tx bytes | rx bytes => simp [apply, received, UInt64.toNat_add, Nat.add_assoc]

end TrafficChange

namespace TrafficStats

abbrev default : TrafficCounter := ⟨0, 0⟩

def recordTx (ip : Ipv4Addr) (bytes : UInt64) : SharedCounters.Call Ipv4Addr TrafficChange :=
  .record ip (.tx bytes)

def recordRx (ip : Ipv4Addr) (bytes : UInt64) : SharedCounters.Call Ipv4Addr TrafficChange :=
  .record ip (.rx bytes)

def getTrafficInfo (ip : Ipv4Addr) : SharedCounters.Call Ipv4Addr TrafficChange :=
  .walk .read (some ip)

def getAllTrafficInfo : SharedCounters.Call Ipv4Addr TrafficChange := .walk .read none
def reset (ip : Ipv4Addr) : SharedCounters.Call Ipv4Addr TrafficChange := .walk .empty (some ip)
def resetAll : SharedCounters.Call Ipv4Addr TrafficChange := .walk .empty none
def clear : SharedCounters.Call Ipv4Addr TrafficChange := .clear

def step : State Ipv4Addr TrafficCounter TrafficChange → Event Ipv4Addr TrafficChange →
    State Ipv4Addr TrafficCounter TrafficChange ×
      List (Note Ipv4Addr TrafficCounter TrafficChange) :=
  State.step default TrafficChange.apply

def report : Note Ipv4Addr TrafficCounter TrafficChange → Option TrafficInfo
  | .read _ ip counter => some ⟨ip, counter.txBytes, counter.rxBytes⟩
  | _ => none

/-- However calls from any number of tasks interleave, each takes effect once between its
start and its end, and what is reported of an address is, in 64 bits, the sum of the bytes
recorded for it since its last reset, or since the map was cleared. -/
theorem reports_are_totals (events : List (Event Ipv4Addr TrafficChange)) :
    Chronicle (Note.Fits default TrafficChange.apply) (Machine.run step State.new events).2 ∧
    ∀ before note after info, (Machine.run step State.new events).2 = before ++ note :: after →
      report note = some info →
        info.txBytes.toNat =
            ((sinceEmptied info.ip before).map TrafficChange.sent).sum % 2 ^ 64 ∧
          info.rxBytes.toNat =
            ((sinceEmptied info.ip before).map TrafficChange.received).sum % 2 ^ 64 := by
  obtain ⟨chronicle, _⟩ := State.run_recorded default TrafficChange.apply events
  refine ⟨chronicle, ?_⟩
  intro before note after info split reported
  cases note with
  | read index ip counter =>
      cases reported
      have total := read_total chronicle split
      have sums := TrafficChange.foldl_apply (sinceEmptied ip before) default
      rw [← total] at sums
      simpa using sums
  | _ => cases reported

def sampleCalls : List (Event Ipv4Addr TrafficChange) :=
  [.call (recordTx 7 100), .proceed 0, .proceed 0, .call (reset 7), .proceed 1, .proceed 1,
    .proceed 1, .call clear, .proceed 2, .proceed 0, .call (recordRx 7 5), .proceed 3, .proceed 3,
    .proceed 3, .call (getTrafficInfo 7), .proceed 4, .proceed 4]

theorem sample_report_is_total :
    ∃ before note info, (Machine.run step State.new sampleCalls).2 = before ++ [note] ∧
      report note = some info ∧
      info.txBytes.toNat = ((sinceEmptied info.ip before).map TrafficChange.sent).sum % 2 ^ 64 ∧
      info.rxBytes.toNat =
        ((sinceEmptied info.ip before).map TrafficChange.received).sum % 2 ^ 64 ∧
      sinceEmptied info.ip before = [.rx 5] :=
  have made : (Machine.run step State.new sampleCalls).2 =
      (Machine.run step State.new sampleCalls).2.dropLast ++ [.read 4 7 ⟨0, 5⟩] := rfl
  have total := (reports_are_totals sampleCalls).2 _ _ [] ⟨7, 0, 5⟩ made rfl
  ⟨_, _, _, made, rfl, total.1, total.2, by decide +kernel⟩

end TrafficStats

inductive PingChange
  | sent
  | received
deriving DecidableEq

namespace PingChange

def apply : PingChange → PingStats → PingStats
  | sent, counts => { counts with sent := counts.sent + 1 }
  | received, counts => { counts with received := counts.received + 1 }

end PingChange

namespace PacketLossStats

/-- What a note does to the statistics when every call is done at once. -/
def applyNote (stats : PacketLossStats) :
    Note Ipv4Addr PingStats PingChange → PacketLossStats
  | .recorded _ ip .sent => stats.recordSent ip
  | .recorded _ ip .received => stats.recordReceived ip
  | .emptied _ ip => stats.reset ip
  | .cleared _ => ∅
  | .called _ _ | .created _ _ | .found _ _ | .read _ _ _ | .returned _ => stats

def atOnce (notes : List (Note Ipv4Addr PingStats PingChange)) : PacketLossStats :=
  notes.foldl applyNote ∅

theorem counts_atOnce {notes : List (Note Ipv4Addr PingStats PingChange)}
    (chronicle : Chronicle (Note.Fits default PingChange.apply) notes) (ip : Ipv4Addr) :
    (atOnce notes).counts ip = (replay default PingChange.apply notes ip).getD default := by
  induction notes using List.reverseRecOn with
  | nil => rfl
  | append_singleton notes note ih =>
      obtain ⟨before, fits⟩ := (Chronicle.concat_iff notes note).mp chronicle
      have earlier := ih before
      rw [replay_append, atOnce, List.foldl_append, ← atOnce]
      simp only [List.foldl_cons, List.foldl_nil]
      cases note with
      | called index call | found index keys | read index other counter | returned index =>
          exact earlier
      | cleared index => rfl
      | created index other =>
          simp only [applyNote, Note.apply, earlier]
          by_cases same : ip = other
          · subst same
            rw [Function.update_self, fits.2]
            rfl
          · rw [Function.update_of_ne same]
      | emptied index other =>
          obtain ⟨counter, there⟩ := fits.2
          simp only [applyNote, Note.apply, counts_reset]
          by_cases same : ip = other
          · rw [if_pos same, same, Function.update_self, there]
            rfl
          · rw [if_neg same, Function.update_of_ne same, earlier]
      | recorded index other change =>
          obtain ⟨counter, there⟩ := fits.2.2
          have updated : applyNote (atOnce notes) (.recorded index other change) =
              (atOnce notes).update other change.apply := by
            cases change with
            | sent => rfl
            | received => rfl
          rw [updated, counts_update, Note.apply]
          by_cases same : ip = other
          · subst same
            rw [if_pos rfl, Function.update_self, earlier, there]
            rfl
          · rw [if_neg same, Function.update_of_ne same, earlier]

/-- The statistics as tasks share them are those whose operations are done at once, in the
order of the notes, where each call has its effect once and while it is open: at every report,
and when a run is over. -/
theorem shared_refine (events : List (Event Ipv4Addr PingChange)) :
    Chronicle (Note.Fits default PingChange.apply)
      (Machine.run (State.step default PingChange.apply) State.new events).2 ∧
    (∀ ip, ((Machine.run (State.step default PingChange.apply) State.new events).1.view ip).getD
        default =
      (atOnce (Machine.run (State.step default PingChange.apply) State.new events).2).counts ip) ∧
    ∀ before index ip counts after,
      (Machine.run (State.step default PingChange.apply) State.new events).2 =
          before ++ .read index ip counts :: after →
        counts = (atOnce before).counts ip := by
  obtain ⟨chronicle, view⟩ := State.run_recorded default PingChange.apply events
  refine ⟨chronicle, ?_, ?_⟩
  · intro ip
    rw [view, counts_atOnce chronicle]
  · intro before index ip counts after split
    have fits := (chronicle before _ after split).2
    rw [counts_atOnce (chronicle.before split), fits, Option.getD_some]

def samplePings : List (Event Ipv4Addr PingChange) :=
  [.call (.record 7 .sent), .call (.record 7 .received), .proceed 0, .proceed 1, .proceed 0,
    .proceed 1, .proceed 1, .proceed 0, .call (.walk .read (some 7)), .proceed 2, .proceed 2]

theorem sample_shared_refine :
    ∃ before, (Machine.run (State.step default PingChange.apply) State.new samplePings).2 =
        before ++ [.read 2 7 ⟨1, 1⟩] ∧ (⟨1, 1⟩ : PingStats) = (atOnce before).counts 7 :=
  have made : (Machine.run (State.step default PingChange.apply) State.new samplePings).2 =
      (Machine.run (State.step default PingChange.apply) State.new samplePings).2.dropLast ++
        [.read 2 7 ⟨1, 1⟩] := rfl
  ⟨_, made, (shared_refine samplePings).2.2 _ _ _ _ [] made⟩

end PacketLossStats
end VntClient
