import VntClient.GaloisField
import VntClient.ErasureCode
import VntClient.NetPacket

/-!
The `galois_8` Reed-Solomon codec as its callers see it: systematic, built from
the Vandermonde matrix on the points 0, 1, 2, ..., applied on its own at every
byte position. `reconstruct` checks the present shards in order and refuses
shards of different lengths before it writes anything.
-/

namespace VntClient
open ErasureCode

structure ReedSolomon where
  dataShards : Nat
  parityShards : Nat
deriving DecidableEq

namespace ReedSolomon

def point (i : Nat) : GF256 := ⟨BitVec.ofNat 8 i⟩

theorem point_injOn (positions : List Nat) (small : ∀ i ∈ positions, i < 256) :
    Set.InjOn point {i | i ∈ positions} := by
  intro i iMember j jMember same
  have bits : (point i).bits.toNat = (point j).bits.toNat := by rw [same]
  have iSmall := small i iMember
  have jSmall := small j jMember
  simp only [point, BitVec.toNat_ofNat] at bits
  omega

def byteAt (shard : Bytes) (k : Nat) : GF256 := ⟨(shard.getD k 0).toBitVec⟩

def shardAt (known : List Nat) (shard : Nat → Bytes) (length m : Nat) : Bytes :=
  (List.range length).map fun k =>
    UInt8.ofBitVec (interpolate point known (fun i => byteAt (shard i) k) m).bits

@[simp] theorem shardAt_length (known : List Nat) (shard : Nat → Bytes) (length m : Nat) :
    (shardAt known shard length m).length = length := by
  simp [shardAt]

theorem byteAt_shardAt (known : List Nat) (shard : Nat → Bytes) (length m k : Nat)
    (inside : k < length) :
    byteAt (shardAt known shard length m) k =
      interpolate point known (fun i => byteAt (shard i) k) m := by
  simp [byteAt, shardAt, inside]

theorem byteAt_set_self {shard : Bytes} {k : Nat} (inside : k < shard.length) (byte : UInt8) :
    byteAt (shard.set k byte) k = ⟨byte.toBitVec⟩ := by
  simp [byteAt, inside]

theorem byteAt_set_ne {k k' : Nat} (other : k ≠ k') (shard : Bytes) (byte : UInt8) :
    byteAt (shard.set k' byte) k = byteAt shard k := by
  simp [byteAt, List.getElem?_set_ne (Ne.symm other)]

theorem byteAt_ext {left right : Bytes} (length : left.length = right.length)
    (agree : ∀ k < left.length, byteAt left k = byteAt right k) : left = right := by
  apply List.ext_getElem length
  intro k leftInside rightInside
  have same := congrArg GF256.bits (agree k leftInside)
  simp only [byteAt, List.getD_eq_getElem?_getD, List.getElem?_eq_getElem leftInside,
    List.getElem?_eq_getElem rightInside, Option.getD_some] at same
  exact UInt8.toBitVec_inj.mp same

def total (rs : ReedSolomon) : Nat := rs.dataShards + rs.parityShards

def new (dataShards parityShards : Nat) : Outcome ReedSolomon :=
  if dataShards = 0 then .err "TooFewDataShards"
  else if parityShards = 0 then .err "TooFewParityShards"
  else if 256 < dataShards + parityShards then .err "TooManyShards"
  else .ok ⟨dataShards, parityShards⟩

/-- The parity rows replace the last shards; the data shards stay as they are. -/
def encode (rs : ReedSolomon) (shards : List Bytes) : Outcome (List Bytes) :=
  let length := (shards.headD []).length
  if shards.length < rs.total then .err "TooFewShards"
  else if rs.total < shards.length then .err "TooManyShards"
  else if length = 0 then .err "EmptyShard"
  else if shards.any fun shard => shard.length != length then .err "IncorrectShardSize"
  else .ok (shards.take rs.dataShards ++ (List.range rs.parityShards).map fun j =>
    shardAt (List.range rs.dataShards) (fun i => shards.getD i []) length (rs.dataShards + j))

def presentIndices (shards : List (Option Bytes)) : List Nat :=
  (List.range shards.length).filter fun i => (shards.getD i none).isSome

/-- The length every present shard has, read in index order. -/
def scanLengths : Option Nat → List (Option Bytes) → Outcome (Option Nat)
  | seen, [] => .ok seen
  | seen, none :: rest => scanLengths seen rest
  | seen, some shard :: rest =>
      if shard.length = 0 then .err "EmptyShard"
      else if seen.any (· != shard.length) then .err "IncorrectShardSize"
      else scanLengths (some shard.length) rest

/-- The missing shards from the first `dataShards` present ones. -/
def fill (rs : ReedSolomon) (length : Nat) (shards : List (Option Bytes)) :
    List (Option Bytes) :=
  let known := (presentIndices shards).take rs.dataShards
  (List.range shards.length).map fun m =>
    some ((shards.getD m none).getD
      (shardAt known (fun i => (shards.getD i none).getD []) length m))

def reconstruct (rs : ReedSolomon) (shards : List (Option Bytes)) :
    Outcome (List (Option Bytes)) :=
  if shards.length < rs.total then .err "TooFewShards"
  else if rs.total < shards.length then .err "TooManyShards"
  else do
    let length ← scanLengths none shards
    if (presentIndices shards).length = rs.total then pure shards
    else if (presentIndices shards).length < rs.dataShards then .err "TooFewShardsPresent"
    else pure (rs.fill (length.getD 0) shards)

theorem getD_map_range (shards : List (Option Bytes)) :
    (List.range shards.length).map (fun i => shards.getD i none) = shards := by
  apply List.ext_getElem (by simp)
  intro i _ inside
  simp [inside]

theorem presentIndices_length (shards : List (Option Bytes)) :
    (presentIndices shards).length = (shards.filter Option.isSome).length := by
  conv_rhs => rw [← getD_map_range shards, List.filter_map, List.length_map]
  rfl

theorem mem_of_getD {shards : List (Option Bytes)} {i : Nat} {shard : Bytes}
    (held : shards.getD i none = some shard) : some shard ∈ shards := by
  rw [List.getD_eq_getElem?_getD] at held
  cases entry : shards[i]? with
  | none => simp [entry] at held
  | some slot =>
      simp only [entry, Option.getD_some] at held
      exact List.mem_of_getElem? (held ▸ entry)

theorem getD_of_mem {shards : List (Option Bytes)} {shard : Bytes}
    (member : some shard ∈ shards) : ∃ i, shards.getD i none = some shard := by
  obtain ⟨i, inside, held⟩ := List.mem_iff_getElem.mp member
  exact ⟨i, by simp [inside, held]⟩

theorem scanLengths_uniform (length : Nat) (positive : 0 < length) (shards : List (Option Bytes))
    (uniform : ∀ shard, some shard ∈ shards → shard.length = length) (seen : Option Nat)
    (before : seen = none ∨ seen = some length) :
    scanLengths seen shards =
      .ok (if (shards.filter Option.isSome).length = 0 then seen else some length) := by
  induction shards generalizing seen with
  | nil => simp [scanLengths]
  | cons slot rest ih =>
      cases slot with
      | none =>
          simpa [scanLengths] using
            ih (fun shard member => uniform shard (List.mem_cons_of_mem _ member)) seen before
      | some shard =>
          have here : shard.length = length := uniform shard (by simp)
          have nonempty : ¬ length = 0 := by omega
          have agrees : seen.any (· != length) = false := by
            rcases before with rfl | rfl <;> simp
          have tail := ih (fun shard member => uniform shard (List.mem_cons_of_mem _ member))
            (some length) (Or.inr rfl)
          simp only [scanLengths, here, nonempty, agrees, Bool.false_eq_true, ↓reduceIte, tail]
          simp

theorem scanLengths_ok {seen result : Option Nat} {shards : List (Option Bytes)}
    (accepted : scanLengths seen shards = .ok result) :
    (∀ length, seen = some length → result = some length) ∧
      ∀ shard, some shard ∈ shards → result = some shard.length := by
  induction shards generalizing seen with
  | nil =>
      simp only [scanLengths, Outcome.ok.injEq] at accepted
      subst accepted
      exact ⟨fun _ same => same, by simp⟩
  | cons slot rest ih =>
      cases slot with
      | none => simpa using ih accepted
      | some shard =>
          simp only [scanLengths] at accepted
          split at accepted
          · cases accepted
          · split at accepted
            · cases accepted
            · rename_i agrees
              obtain ⟨kept, rest⟩ := ih accepted
              have here := kept shard.length rfl
              refine ⟨?_, ?_⟩
              · rintro length rfl
                simp only [Option.any_some, bne_iff_ne, ne_eq, not_not] at agrees
                rw [here, agrees]
              · intro other member
                rcases List.mem_cons.mp member with same | member
                · cases same; exact here
                · exact rest other member

/-- Shards of different lengths are never reconstructed. -/
theorem reconstruct_ok {rs : ReedSolomon} {shards filled : List (Option Bytes)}
    (accepted : rs.reconstruct shards = .ok filled) :
    ∃ length, ∀ shard, some shard ∈ shards → shard.length = length := by
  unfold reconstruct at accepted
  split at accepted
  · cases accepted
  · split at accepted
    · cases accepted
    · cases scanned : scanLengths none shards with
      | ok result =>
          refine ⟨result.getD 0, fun shard member => ?_⟩
          rw [(scanLengths_ok scanned).2 shard member, Option.getD_some]
      | err message => simp [scanned] at accepted
      | panic => simp [scanned] at accepted

theorem fill_complete (rs : ReedSolomon) (length : Nat) (shards : List (Option Bytes))
    (complete : (presentIndices shards).length = shards.length) :
    rs.fill length shards = shards := by
  conv_rhs => rw [← getD_map_range shards]
  apply List.map_congr_left
  intro m inside
  have everywhere := List.length_filter_eq_length_iff.mp
    (complete.trans List.length_range.symm) m inside
  obtain ⟨shard, held⟩ := Option.isSome_iff_exists.mp everywhere
  simp only [held, Option.getD_some]

theorem reconstruct_uniform (rs : ReedSolomon) (length : Nat) (shards : List (Option Bytes))
    (count : shards.length = rs.total) (positive : 0 < length) (needed : 0 < rs.dataShards)
    (uniform : ∀ shard, some shard ∈ shards → shard.length = length)
    (enough : rs.dataShards ≤ (presentIndices shards).length) :
    rs.reconstruct shards = .ok (rs.fill length shards) := by
  have some_present : ¬ (shards.filter Option.isSome).length = 0 := by
    rw [← presentIndices_length]; omega
  have scanned := scanLengths_uniform length positive shards uniform none (Or.inl rfl)
  rw [if_neg some_present] at scanned
  simp only [reconstruct, count, Nat.lt_irrefl, ↓reduceIte, scanned, Outcome.ok_bind,
    Outcome.pure_eq]
  split
  · rename_i complete
    rw [fill_complete rs length shards (by rw [complete, count])]
  · rw [if_neg (by omega)]
    rfl

section Codeword
variable (data : List Bytes) (length : Nat)

/-- Position `m` of the codeword of `data`: the data, then the parity rows. -/
def codeword (m : Nat) : Bytes :=
  if m < data.length then data.getD m []
  else shardAt (List.range data.length) (fun i => data.getD i []) length m

variable {data length}

theorem codeword_length (uniform : ∀ shard ∈ data, shard.length = length) (m : Nat) :
    (codeword data length m).length = length := by
  unfold codeword
  split
  · rename_i inside
    rw [List.getD_eq_getElem _ _ inside]
    exact uniform _ (List.getElem_mem inside)
  · exact shardAt_length _ _ _ _

theorem byteAt_codeword (few : data.length ≤ 256) (m k : Nat) (inside : k < length) :
    byteAt (codeword data length m) k = interpolate point (List.range data.length)
      (fun i => byteAt (data.getD i []) k) m := by
  unfold codeword
  split
  · rename_i early
    symm
    apply interpolate_known point _ List.nodup_range _ _ m (List.mem_range.mpr early)
    apply point_injOn
    intro i member
    have := List.mem_range.mp member
    omega
  · exact byteAt_shardAt _ _ _ _ _ inside

/-- Equally long data shards and as many spare shards become their codeword. -/
theorem encode_uniform (rs : ReedSolomon) (data : List Bytes) (length : Nat)
    (count : data.length = rs.dataShards) (nonempty : data ≠ []) (positive : length ≠ 0)
    (uniform : ∀ shard ∈ data, shard.length = length) :
    rs.encode (data ++ List.replicate rs.parityShards (List.replicate length 0)) =
      .ok (data ++ (List.range rs.parityShards).map fun j =>
        codeword data length (data.length + j)) := by
  obtain ⟨first, rest, shape⟩ := List.exists_cons_of_ne_nil nonempty
  have size : (data ++ List.replicate rs.parityShards (List.replicate length 0)).length =
      rs.total := by
    simp [total, count]
  have head : ((data ++ List.replicate rs.parityShards (List.replicate length 0)).headD []).length =
      length := by
    rw [shape] at uniform ⊢
    exact uniform first (by simp)
  have same : ((data ++ List.replicate rs.parityShards (List.replicate length 0)).any
      fun shard => shard.length != length) = false := by
    rw [List.any_eq_false]
    intro shard member
    rcases List.mem_append.mp member with inside | spare
    · simp [uniform shard inside]
    · simp [List.eq_of_mem_replicate spare]
  simp only [encode, size, head, same, positive, Nat.lt_irrefl, Bool.false_eq_true, ↓reduceIte]
  rw [← count, List.take_left]
  congr 2
  apply List.map_congr_left
  intro j _
  unfold codeword
  rw [if_neg (by omega)]
  apply List.map_congr_left
  intro k _
  congr 2
  apply interpolate_congr
  intro i member
  have inside := List.mem_range.mp member
  simp [List.getElem?_append_left inside]

/-- A byte column that is off by `shift` at the known positions comes back off
by the interpolation of `shift`. -/
theorem byteAt_recovered {known : List Nat} (distinct : known.Nodup)
    (enough : known.length = data.length) (small : ∀ i ∈ known, i < 256)
    (few : data.length ≤ 256) (stored : Nat → Bytes) (shift : Nat → GF256) (m k : Nat)
    (inside : k < length)
    (agree : ∀ i ∈ known, byteAt (stored i) k = byteAt (codeword data length i) k + shift i) :
    byteAt (shardAt known stored length m) k =
      byteAt (codeword data length m) k + interpolate point known shift m := by
  have sourceSmall : ∀ i ∈ List.range data.length, i < 256 := by
    intro i member
    have := List.mem_range.mp member
    omega
  rw [byteAt_shardAt _ _ _ _ _ inside, byteAt_codeword few m k inside,
    interpolate_congr point known agree, interpolate_add]
  congr 1
  rw [interpolate_congr point known fun i _ => byteAt_codeword few i k inside]
  exact interpolate_again point (List.range data.length) known List.nodup_range distinct
    (by rw [List.length_range, enough]) (point_injOn known small)
    (point_injOn _ sourceSmall) _ m

end Codeword
end ReedSolomon
end VntClient
