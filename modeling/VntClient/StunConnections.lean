import VntClient.Chronicle
import VntClient.PunchInfo

/-!
`query_tcp_public_addr_loop`: two connections to STUN servers are kept open from one port, so
that the NAT keeps its mapping, and what both say of the public address is published. When
they disagree nothing is.
-/

namespace VntClient

/-- How a candidate turns out, once its name is looked up. -/
inductive StunAttempt
  | unresolved
  | unanswered (addr : SocketAddr)
  | answered (addr pubAddr : SocketAddr)

/-- What a look at an open connection finds. -/
inductive StunHealth
  | eof
  | readError
  | writeError
  | writeTimeout
  | alive
deriving DecidableEq

namespace StunHealth

/-- After an error of reading nothing is written. -/
def toRemove : StunHealth → Bool
  | eof | readError | writeError | writeTimeout => true
  | alive => false

end StunHealth

inductive StunPhase
  | shuffling
  | trying (stun : String) (candidates : List String)
  | resting
  | mismatched

inductive StunEvent
  | shuffled (candidates : List String)
  | attempted (attempt : StunAttempt)
  | checked (health : SocketAddr → StunHealth)
  | waited

/-- `published` is a call of `update_tcp_public_addr`. -/
inductive StunNote
  | attempted
  | connected (addr pubAddr : SocketAddr)
  | lost (addr : SocketAddr)
  | mismatched (pubAddr : SocketAddr)
  | published (pubAddr : SocketAddr)
  | rested
deriving DecidableEq

structure StunConnections where
  activeConnections : AList fun _ : SocketAddr => SocketAddr
  phase : StunPhase

/-- 0.0.0.0:0, which takes the published address back. -/
def unspecifiedAddr : SocketAddr := ⟨.v4 0, 0⟩

namespace StunConnections
variable (servers : List String)

def targetConnCount : Nat := min servers.length 2

def new : StunConnections := ⟨∅, .shuffling⟩

/-- `values().next()`. -/
def existingPubAddr (connections : StunConnections) : Option SocketAddr :=
  connections.activeConnections.entries.head?.map Sigma.snd

def rest (connections : StunConnections) : StunConnections × List StunNote :=
  ({ connections with phase := .resting },
    connections.existingPubAddr.toList.map .published ++ [.rested])

def fill (connections : StunConnections) : StunConnections × List StunNote :=
  if connections.activeConnections.entries.length < targetConnCount servers then
    ({ connections with phase := .shuffling }, [])
  else connections.rest

def skip (connections : StunConnections) : List String → StunConnections × List StunNote
  | [] => connections.rest
  | stun :: candidates => ({ connections with phase := .trying stun candidates }, [])

def accept (connections : StunConnections) (addr pubAddr : SocketAddr) :
    StunConnections × List StunNote :=
  match connections.existingPubAddr with
  | some existing =>
      if existing ≠ pubAddr then
        (⟨∅, .mismatched⟩, [.mismatched pubAddr, .published unspecifiedAddr])
      else connect
  | none => connect
where
  connect : StunConnections × List StunNote :=
    let filled := fill servers
      { connections with activeConnections := connections.activeConnections.insert addr pubAddr }
    (filled.1, .connected addr pubAddr :: filled.2)

def attempt (connections : StunConnections) (candidates : List String) :
    StunAttempt → StunConnections × List StunNote
  | .unresolved => connections.skip candidates
  | .unanswered _ => connections.skip candidates
  | .answered addr pubAddr =>
      if addr ∈ connections.activeConnections then connections.skip candidates
      else connections.accept servers addr pubAddr

def check (connections : StunConnections) (health : SocketAddr → StunHealth) :
    StunConnections × List StunNote :=
  let toRemove := connections.activeConnections.keys.filter fun addr => (health addr).toRemove
  let filled := fill servers { connections with
    activeConnections := toRemove.foldl (fun active addr => active.erase addr)
      connections.activeConnections }
  (filled.1, toRemove.map .lost ++ filled.2)

/-- What does not fit the phase does not happen. -/
def step (connections : StunConnections) : StunEvent → StunConnections × List StunNote
  | .shuffled candidates =>
      match connections.phase with
      | .shuffling =>
          if candidates.isPerm servers then connections.skip candidates else (connections, [])
      | _ => (connections, [])
  | .attempted attempt =>
      match connections.phase with
      | .trying _ candidates =>
          let attempted := connections.attempt servers candidates attempt
          (attempted.1, .attempted :: attempted.2)
      | _ => (connections, [])
  | .checked health =>
      match connections.phase with
      | .resting => connections.check servers health
      | _ => (connections, [])
  | .waited =>
      match connections.phase with
      | .mismatched => fill servers connections
      | _ => (connections, [])

end StunConnections

namespace StunNote
variable (servers : List String)

/-- The connections that are open, with the public address that each has told. -/
def live (notes : List StunNote) : SocketAddr → Option SocketAddr :=
  notes.foldl (fun live note =>
    match note with
    | connected addr pubAddr => Function.update live addr (some pubAddr)
    | lost addr => Function.update live addr none
    | mismatched _ => fun _ => none
    | attempted | published _ | rested => live) fun _ => none

/-- Candidates tried since the loop has rested. -/
def attempts (notes : List StunNote) : Nat :=
  notes.foldl (fun count note =>
    match note with
    | attempted => count + 1
    | rested | mismatched _ => 0
    | connected _ _ | lost _ | published _ => count) 0

/-- Every open connection has told this address. -/
def AllTell (notes : List StunNote) (pubAddr : SocketAddr) : Prop :=
  ∀ addr told, live notes addr = some told → told = pubAddr

/-- A connection is to an address not yet connected and agrees with the others; what is
published is what every open connection tells, and it is taken back when none is left after
a mismatch; the loop rests after so many attempts at the latest, and then what the open
connections tell has just been published. -/
def Fits (before : List StunNote) : StunNote → Prop
  | attempted => attempts before < StunConnections.targetConnCount servers * servers.length
  | connected addr pubAddr => live before addr = none ∧ AllTell before pubAddr
  | lost addr => ∃ told, live before addr = some told
  | mismatched pubAddr => ∃ addr told, live before addr = some told ∧ told ≠ pubAddr
  | published pubAddr => AllTell before pubAddr ∧
      ((∃ addr, live before addr = some pubAddr) ∨
        pubAddr = unspecifiedAddr ∧ ∀ addr, live before addr = none)
  | rested => ∀ addr told, live before addr = some told →
      before.getLast? = some (.published told)

variable {notes : List StunNote} (note : StunNote)

theorem live_concat : live (notes ++ [note]) =
    match note with
    | connected addr pubAddr => Function.update (live notes) addr (some pubAddr)
    | lost addr => Function.update (live notes) addr none
    | mismatched _ => fun _ => none
    | attempted | published _ | rested => live notes := List.foldl_concat ..

theorem attempts_concat : attempts (notes ++ [note]) =
    match note with
    | attempted => attempts notes + 1
    | rested | mismatched _ => 0
    | connected _ _ | lost _ | published _ => attempts notes := List.foldl_concat ..

end StunNote

namespace StunConnections
open StunNote

/-- The open connections are those of the notes, agree and are few enough. -/
structure Core (servers : List String) (connections : StunConnections) (notes : List StunNote) :
    Prop where
  live : live notes = fun addr => connections.activeConnections.lookup addr
  agreed : ∀ addr other told pubAddr, connections.activeConnections.lookup addr = some told →
    connections.activeConnections.lookup other = some pubAddr → told = pubAddr
  few : connections.activeConnections.entries.length ≤ targetConnCount servers

/-- The attempts made, with those that may still come, are no more than the bound. -/
def Counted (servers : List String) (connections : StunConnections) (count : Nat) : Prop :=
  let left := targetConnCount servers - connections.activeConnections.entries.length
  match connections.phase with
  | .shuffling => (0 < left ∨ servers = []) ∧
      count + left * servers.length ≤ targetConnCount servers * servers.length
  | .trying _ candidates => 0 < left ∧ count + (candidates.length + 1) + (left - 1) * servers.length ≤
      targetConnCount servers * servers.length
  | .resting => count = 0
  | .mismatched => count = 0

structure Sound (servers : List String) (connections : StunConnections) (notes : List StunNote) :
    Prop where
  core : connections.Core servers notes
  counted : connections.Counted servers (attempts notes)

def Kept (servers : List String) (notes : List StunNote)
    (stepped : StunConnections × List StunNote) : Prop :=
  stepped.1.Sound servers (notes ++ stepped.2) ∧ Chronicle (Fits servers) (notes ++ stepped.2)

variable {servers : List String} {connections : StunConnections} {notes : List StunNote}

theorem Core.rephase (core : connections.Core servers notes) (phase : StunPhase) :
    ({ connections with phase } : StunConnections).Core servers notes :=
  ⟨core.live, core.agreed, core.few⟩

theorem Core.note (core : connections.Core servers notes) (note : StunNote)
    (quiet : StunNote.live (notes ++ [note]) = StunNote.live notes) :
    connections.Core servers (notes ++ [note]) :=
  ⟨quiet.trans core.live, core.agreed, core.few⟩

/-- Whichever connection comes first tells what all tell. -/
theorem Core.existing (core : connections.Core servers notes) :
    connections.existingPubAddr = none ∧ connections.activeConnections = ∅ ∨
      ∃ addr pubAddr, connections.existingPubAddr = some pubAddr ∧
        connections.activeConnections.lookup addr = some pubAddr ∧ AllTell notes pubAddr := by
  cases held : connections.activeConnections.entries with
  | nil => exact .inl ⟨by rw [existingPubAddr, held]; rfl, AList.ext held⟩
  | cons first others =>
      have there : connections.activeConnections.lookup first.1 = some first.2 := by
        rw [← Option.mem_def, AList.mem_lookup_iff, held]
        exact List.mem_cons_self
      refine .inr ⟨first.1, first.2, by rw [existingPubAddr, held]; rfl, there, ?_⟩
      intro addr told known
      rw [core.live] at known
      exact core.agreed addr first.1 told first.2 known there

theorem rest_kept (core : connections.Core servers notes)
    (chronicle : Chronicle (Fits servers) notes) : Kept servers notes connections.rest := by
  rw [rest]
  rcases core.existing with ⟨none, empty⟩ | ⟨addr, pubAddr, some, there, agreed⟩
  · simp only [none, Option.toList_none, List.map_nil, List.nil_append]
    refine ⟨⟨(core.rephase .resting).note .rested (live_concat _), attempts_concat _⟩, ?_⟩
    apply chronicle.add
    intro addr told known
    rw [core.live, empty] at known
    cases known
  · have open_ : ∃ addr, StunNote.live notes addr = Option.some pubAddr :=
      ⟨addr, by rw [core.live]; exact there⟩
    simp only [some, Option.toList_some, List.map_singleton, List.singleton_append]
    refine ⟨⟨?_, ?_⟩, chronicle.add_two ⟨agreed, .inl open_⟩ ?_⟩
    · have published := (core.rephase .resting).note (.published pubAddr) (live_concat _)
      simpa using published.note .rested (live_concat _)
    · have rested : attempts ((notes ++ [.published pubAddr]) ++ [.rested]) = 0 :=
        attempts_concat _
      simpa [Counted] using rested
    · intro other told known
      rw [live_concat] at known
      rw [agreed other told known, List.getLast?_concat]

theorem fill_kept (core : connections.Core servers notes)
    (chronicle : Chronicle (Fits servers) notes)
    (count : attempts notes +
      (targetConnCount servers - connections.activeConnections.entries.length) * servers.length ≤
        targetConnCount servers * servers.length) :
    Kept servers notes (fill servers connections) := by
  rw [fill]
  split
  · rename_i more
    rw [Kept, List.append_nil]
    exact ⟨⟨core.rephase .shuffling, .inl (Nat.sub_pos_of_lt more), count⟩, chronicle⟩
  · exact rest_kept core chronicle

theorem skip_kept (core : connections.Core servers notes)
    (chronicle : Chronicle (Fits servers) notes) {candidates : List String}
    (left : 0 < targetConnCount servers - connections.activeConnections.entries.length ∨
      candidates = [])
    (count : attempts notes + candidates.length +
      (targetConnCount servers - connections.activeConnections.entries.length - 1) *
        servers.length ≤ targetConnCount servers * servers.length) :
    Kept servers notes (connections.skip candidates) := by
  cases candidates with
  | nil => exact rest_kept core chronicle
  | cons stun candidates =>
      rw [skip, Kept, List.append_nil]
      refine ⟨⟨core.rephase (.trying stun candidates), left.resolve_right (by simp), ?_⟩, chronicle⟩
      simpa [Nat.add_assoc] using count

theorem Core.insert (core : connections.Core servers notes) {addr pubAddr : SocketAddr}
    (absent : connections.activeConnections.lookup addr = none) (agreed : AllTell notes pubAddr)
    (more : connections.activeConnections.entries.length < targetConnCount servers) :
    ({ connections with
        activeConnections := connections.activeConnections.insert addr pubAddr } :
      StunConnections).Core servers (notes ++ [.connected addr pubAddr]) := by
  refine ⟨?_, ?_, ?_⟩
  · rw [live_concat, core.live]
    exact (Table.lookup_insert_update _ addr pubAddr).symm
  · have same : ∀ other told, (connections.activeConnections.insert addr pubAddr).lookup other =
        some told → told = pubAddr := by
      intro other told known
      by_cases here : other = addr
      · rw [here, AList.lookup_insert] at known
        exact (Option.some.inj known).symm
      · rw [AList.lookup_insert_ne here, ← congrFun core.live other] at known
        exact agreed other told known
    intro first second told other known there
    rw [same first told known, same second other there]
  · have fresh : addr ∉ connections.activeConnections := by
      rwa [← AList.lookup_eq_none]
    rw [AList.entries_insert_of_notMem fresh, List.length_cons]
    exact more

theorem accept_kept (core : connections.Core servers notes)
    (chronicle : Chronicle (Fits servers) notes) {addr pubAddr : SocketAddr}
    (absent : connections.activeConnections.lookup addr = none)
    (more : connections.activeConnections.entries.length < targetConnCount servers)
    (count : attempts notes +
      (targetConnCount servers - connections.activeConnections.entries.length - 1) *
        servers.length ≤ targetConnCount servers * servers.length) :
    Kept servers notes (connections.accept servers addr pubAddr) := by
  have closed : StunNote.live notes addr = none := by
    rw [core.live]
    exact absent
  have connect : AllTell notes pubAddr →
      Kept servers notes (accept.connect servers connections addr pubAddr) := by
    intro agreed
    have fresh : addr ∉ connections.activeConnections := by rwa [← AList.lookup_eq_none]
    have made : attempts (notes ++ [.connected addr pubAddr]) = attempts notes := attempts_concat _
    have filled := fill_kept (core.insert absent agreed more)
      (chronicle.add ⟨closed, agreed⟩) (by
        simp only [made, AList.entries_insert_of_notMem fresh, List.length_cons]
        rwa [Nat.sub_sub] at count)
    rwa [Kept, List.append_assoc] at filled
  rw [accept]
  -- With no connection left any address is taken; else it has to be the one they told.
  rcases core.existing with ⟨none, empty⟩ | ⟨first, told, some, there, agreed⟩
  · rw [none]
    apply connect
    intro other told known
    rw [core.live, empty] at known
    cases known
  · rw [some]
    simp only
    split
    -- A mismatch: all connections are closed and the unspecified address is published.
    · rename_i differs
      have open_ : StunNote.live notes first = Option.some told := by
        rw [core.live]
        exact there
      have gone : StunNote.live (notes ++ [.mismatched pubAddr]) = fun _ => none := live_concat _
      have none : ∀ other, StunNote.live (notes ++ [.mismatched pubAddr]) other = Option.none :=
        fun other => congrFun gone other
      have agrees : AllTell (notes ++ [.mismatched pubAddr]) unspecifiedAddr := by
        intro other told known
        rw [none] at known
        cases known
      have split : notes ++ [.mismatched pubAddr, .published unspecifiedAddr] =
          (notes ++ [.mismatched pubAddr]) ++ [.published unspecifiedAddr] := by simp
      refine ⟨⟨⟨?_, ?_, Nat.zero_le _⟩, ?_⟩, ?_⟩
      · rw [split, live_concat, gone]
        rfl
      · intro first second told other known
        cases known
      · rw [split, attempts_concat, Counted, attempts_concat]
      · exact chronicle.add_two ⟨first, told, open_, differs⟩ ⟨agrees, .inr ⟨rfl, none⟩⟩
    · rename_i same
      exact connect (not_not.mp same ▸ agreed)

theorem attempt_kept {stun : String} {candidates : List String}
    (sound : connections.Sound servers notes) (chronicle : Chronicle (Fits servers) notes)
    (phase : connections.phase = .trying stun candidates) (attempt : StunAttempt) :
    Kept servers notes (connections.step servers (.attempted attempt)) := by
  obtain ⟨core, counted⟩ := sound
  simp only [Counted, phase] at counted
  obtain ⟨left, count⟩ := counted
  have attempted : Chronicle (Fits servers) (notes ++ [.attempted]) := by
    apply chronicle.add
    rw [Fits]
    omega
  have still : connections.Core servers (notes ++ [.attempted]) := core.note _ (live_concat _)
  have made : attempts (notes ++ [.attempted]) = attempts notes + 1 := attempts_concat _
  have skipped : Kept servers (notes ++ [.attempted]) (connections.skip candidates) :=
    skip_kept still attempted (.inl left) (by omega)
  simp only [step, phase]
  cases attempt with
  | unresolved => simpa [Kept, StunConnections.attempt] using skipped
  | unanswered addr => simpa [Kept, StunConnections.attempt] using skipped
  | answered addr pubAddr =>
      rw [StunConnections.attempt]
      split
      · simpa [Kept] using skipped
      · rename_i absent
        have accepted : Kept servers (notes ++ [.attempted])
            (connections.accept servers addr pubAddr) :=
          accept_kept still attempted (AList.lookup_eq_none.mpr absent) (by omega) (by omega)
        simpa [Kept] using accepted

theorem Core.erase (core : connections.Core servers notes) (addr : SocketAddr) :
    ({ connections with activeConnections := connections.activeConnections.erase addr } :
      StunConnections).Core servers (notes ++ [.lost addr]) := by
  have kept : ∀ other told, (connections.activeConnections.erase addr).lookup other = some told →
      connections.activeConnections.lookup other = some told := by
    intro other told known
    by_cases same : other = addr
    · rw [same, AList.lookup_erase] at known
      cases known
    · rwa [AList.lookup_erase_ne same] at known
  refine ⟨?_, ?_, ?_⟩
  · rw [live_concat, core.live]
    exact (Table.lookup_erase_update _ addr).symm
  · intro first second told other known there
    exact core.agreed first second told other (kept first told known) (kept second other there)
  · exact (List.kerase_sublist addr connections.activeConnections.entries).length_le.trans core.few

theorem Core.lose (core : connections.Core servers notes)
    (chronicle : Chronicle (Fits servers) notes) {addrs : List SocketAddr} (distinct : addrs.Nodup)
    (open_ : ∀ addr ∈ addrs, ∃ told, connections.activeConnections.lookup addr = some told) :
    ({ connections with
        activeConnections := addrs.foldl (fun active addr => active.erase addr)
          connections.activeConnections } : StunConnections).Core servers
        (notes ++ addrs.map .lost) ∧
      Chronicle (Fits servers) (notes ++ addrs.map .lost) ∧
      attempts (notes ++ addrs.map .lost) = attempts notes := by
  induction addrs generalizing connections notes with
  | nil => simpa using ⟨core, chronicle⟩
  | cons addr rest ih =>
      obtain ⟨absent, distinct⟩ := List.nodup_cons.mp distinct
      obtain ⟨told, known⟩ := open_ addr List.mem_cons_self
      have fits : Fits servers notes (.lost addr) := ⟨told, by rw [core.live]; exact known⟩
      have later : ∀ other ∈ rest, ∃ told,
          (connections.activeConnections.erase addr).lookup other = some told := by
        intro other member
        have apart : other ≠ addr := fun same => absent (same ▸ member)
        rw [AList.lookup_erase_ne apart]
        exact open_ other (List.mem_cons_of_mem _ member)
      obtain ⟨after, recorded, count⟩ := ih (core.erase addr) (chronicle.add fits) distinct later
      have made : attempts (notes ++ [.lost addr]) = attempts notes := attempts_concat _
      rw [List.append_assoc, List.singleton_append] at after recorded count
      exact ⟨after, recorded, count.trans made⟩

theorem check_kept (sound : connections.Sound servers notes)
    (chronicle : Chronicle (Fits servers) notes) (phase : connections.phase = .resting)
    (health : SocketAddr → StunHealth) :
    Kept servers notes (connections.check servers health) := by
  obtain ⟨core, counted⟩ := sound
  simp only [Counted, phase] at counted
  have there : ∀ addr ∈ connections.activeConnections.keys.filter (fun addr =>
      (health addr).toRemove), ∃ told, connections.activeConnections.lookup addr = some told := by
    intro addr member
    have inside := AList.mem_keys.mp (List.mem_filter.mp member).1
    rwa [← Option.isSome_iff_exists, AList.lookup_isSome]
  obtain ⟨after, recorded, count⟩ :=
    core.lose chronicle (connections.activeConnections.keys_nodup.filter _) there
  have filled := fill_kept after recorded (by
    rw [count, counted, Nat.zero_add]
    exact Nat.mul_le_mul_right _ (Nat.sub_le _ _))
  rwa [Kept, List.append_assoc] at filled

variable (servers) in
theorem step_kept (sound : connections.Sound servers notes)
    (chronicle : Chronicle (Fits servers) notes) (event : StunEvent) :
    Kept servers notes (connections.step servers event) := by
  have unmoved : Kept servers notes (connections, []) := by
    rw [Kept, List.append_nil]
    exact ⟨sound, chronicle⟩
  cases event with
  | shuffled candidates =>
      simp only [step]
      split
      · rename_i phase
        split
        · rename_i shuffled
          obtain ⟨core, counted⟩ := sound
          simp only [Counted, phase] at counted
          obtain ⟨left, count⟩ := counted
          have all : candidates.length = servers.length :=
            (List.isPerm_iff.mp shuffled).length_eq
          apply skip_kept core chronicle
          · refine left.imp_right fun none => ?_
            exact List.length_eq_zero_iff.mp (by rw [all, none, List.length_nil])
          · rcases left with positive | none
            · obtain ⟨more, same⟩ := Nat.exists_eq_succ_of_ne_zero (Nat.ne_of_gt positive)
              rw [same, Nat.succ_mul] at count
              rw [same, Nat.succ_sub_one, all]
              omega
            · simpa [all, none] using count
        · exact unmoved
      · exact unmoved
  | attempted attempt =>
      cases phase : connections.phase with
      | trying stun candidates => exact attempt_kept sound chronicle phase attempt
      | _ => simpa [step, phase] using unmoved
  | checked health =>
      simp only [step]
      split
      · rename_i phase
        exact check_kept sound chronicle phase health
      · exact unmoved
  | waited =>
      simp only [step]
      split
      · rename_i phase
        obtain ⟨core, counted⟩ := sound
        simp only [Counted, phase] at counted
        apply fill_kept core chronicle
        rw [counted, Nat.zero_add]
        exact Nat.mul_le_mul_right _ (Nat.sub_le _ _)
      · exact unmoved

end StunConnections

namespace StunNote

/-- A connection stays open until it is lost, or all are. -/
theorem live_stays {servers : List String} {front back : List StunNote} {addr told : SocketAddr}
    (open_ : live front addr = some told) (chronicle : Chronicle (Fits servers) (front ++ back))
    (kept : .lost addr ∉ back) (matched : ∀ pubAddr, .mismatched pubAddr ∉ back) :
    live (front ++ back) addr = some told := by
  induction back generalizing front with
  | nil => rwa [List.append_nil]
  | cons note rest ih =>
      rw [Chronicle.append_cons_iff] at chronicle
      have fits : Fits servers front note := chronicle front note rest (by simp)
      have still : live (front ++ [note]) addr = some told := by
        rw [live_concat]
        cases note with
        | attempted | published pubAddr | rested => exact open_
        | mismatched pubAddr => exact absurd List.mem_cons_self (matched pubAddr)
        | connected other pubAddr =>
            have apart : addr ≠ other := by
              rintro rfl
              rw [fits.1] at open_
              cases open_
            simpa only [Function.update_of_ne apart] using open_
        | lost other =>
            have apart : addr ≠ other := by
              rintro rfl
              exact kept List.mem_cons_self
            simpa only [Function.update_of_ne apart] using open_
      have later := ih still chronicle (fun member => kept (List.mem_cons_of_mem _ member))
        fun pubAddr member => matched pubAddr (List.mem_cons_of_mem _ member)
      rwa [List.append_assoc] at later

end StunNote

namespace StunConnections
open StunNote

/-- Whatever the servers and the network do: at most two connections are open, to different
addresses, and all tell one address, which is published; it changes only when each of those
that told the old one has been lost, or after a mismatch. -/
theorem run_fits (servers : List String) (events : List StunEvent) :
    Chronicle (Fits servers) (Machine.run (step servers) new events).2 ∧
    (Machine.run (step servers) new events).1.activeConnections.entries.length ≤
      targetConnCount servers ∧
    (live (Machine.run (step servers) new events).2 = fun addr =>
      (Machine.run (step servers) new events).1.activeConnections.lookup addr) ∧
    ∀ before first middle second after, (Machine.run (step servers) new events).2 =
        before ++ .published first :: (middle ++ .published second :: after) → first ≠ second →
      ∀ addr told, live before addr = some told →
        .lost addr ∈ middle ∨ ∃ pubAddr, .mismatched pubAddr ∈ middle := by
  have initial : new.Sound servers [] := by
    refine ⟨⟨rfl, fun _ _ _ _ known => (by cases known), Nat.zero_le _⟩, ?_, ?_⟩
    · cases servers with
      | nil => exact .inr rfl
      | cons server rest =>
          refine .inl ?_
          simp [targetConnCount, new]
    · simp [attempts, new]
  obtain ⟨⟨core, _⟩, chronicle⟩ := Chronicle.run (Sound servers)
    (fun connections notes event sound chronicle => step_kept servers sound chronicle event)
    initial Chronicle.nil events
  refine ⟨chronicle, core.few, core.live, ?_⟩
  intro before first middle second after split differs addr told open_
  by_contra neither
  obtain ⟨kept, matched⟩ := not_or.mp neither
  have front := (chronicle before _ _ split).1
  have shape : (Machine.run (step servers) new events).2 =
      (before ++ .published first :: middle) ++ .published second :: after := by
    rw [split, List.append_assoc, List.cons_append]
  have back := (chronicle _ _ _ shape).1
  have stays : live (before ++ .published first :: middle) addr = some told :=
    live_stays open_ (chronicle.before shape) (by simpa using kept)
      (by simpa using fun pubAddr member => matched ⟨pubAddr, member⟩)
  exact differs ((front addr told open_).symm.trans (back addr told stays))

/-- One server answers, the other one disagrees. -/
example : (Machine.run (step ["a:1", "b:1"]) new [.shuffled ["b:1", "a:1"],
      .attempted (.answered ⟨.v4 1, 1⟩ ⟨.v4 9, 40⟩), .shuffled ["a:1", "b:1"],
      .attempted .unresolved, .attempted (.answered ⟨.v4 2, 1⟩ ⟨.v4 9, 41⟩)]).2 =
    [.attempted, .connected ⟨.v4 1, 1⟩ ⟨.v4 9, 40⟩, .attempted, .attempted,
      .mismatched ⟨.v4 9, 41⟩, .published unspecifiedAddr] := by decide +kernel

def sampleStun : List StunEvent :=
  [.shuffled ["a:1"], .attempted (.answered ⟨.v4 1, 1⟩ ⟨.v4 9, 40⟩), .checked fun _ => .eof,
    .shuffled ["a:1"], .attempted (.answered ⟨.v4 1, 1⟩ ⟨.v4 9, 41⟩)]

theorem sample_address_changes : ∃ before middle,
    (Machine.run (step ["a:1"]) new sampleStun).2 =
        before ++ .published ⟨.v4 9, 40⟩ :: (middle ++ [.published ⟨.v4 9, 41⟩, .rested]) ∧
      live before ⟨.v4 1, 1⟩ = some ⟨.v4 9, 40⟩ ∧
      (.lost ⟨.v4 1, 1⟩ ∈ middle ∨ ∃ pubAddr, .mismatched pubAddr ∈ middle) := by
  have noted : (Machine.run (step ["a:1"]) new sampleStun).2 =
      [.attempted, .connected ⟨.v4 1, 1⟩ ⟨.v4 9, 40⟩] ++ .published ⟨.v4 9, 40⟩ ::
        ([.rested, .lost ⟨.v4 1, 1⟩, .attempted, .connected ⟨.v4 1, 1⟩ ⟨.v4 9, 41⟩] ++
          [.published ⟨.v4 9, 41⟩, .rested]) := by decide +kernel
  have told : live [.attempted, .connected ⟨.v4 1, 1⟩ ⟨.v4 9, 40⟩] ⟨.v4 1, 1⟩ =
      some ⟨.v4 9, 40⟩ := by decide +kernel
  exact ⟨_, _, noted, told, (run_fits ["a:1"] sampleStun).2.2.2 _ _ _ _ [.rested] noted
    (by decide) _ _ told⟩

end StunConnections
end VntClient
