import VntClient.Transmission
import VntClient.Machine

/-!
`TransmissionBytes` with everything its methods depend on: a capacity that may exceed the
length, `usize` arithmetic, and fields that nothing keeps in order but the methods
themselves. The windows of `Transmission` are these fields where the order holds.
-/

namespace VntClient

namespace TransmissionBytes

theorem resizeBuf_of_le {buf : Bytes} {size : Nat} (room : size ≤ buf.length) (value : UInt8) :
    resizeBuf buf size value = buf.take size := by
  rw [resizeBuf, Nat.sub_eq_zero_of_le room, List.replicate_zero, List.append_nil]

theorem take_resizeBuf {buf : Bytes} {front size : Nat} (held : front ≤ buf.length)
    (within : front ≤ size) (value : UInt8) :
    (resizeBuf buf size value).take front = buf.take front := by
  rw [resizeBuf, List.take_append_of_le_length, List.take_take, Nat.min_eq_left within]
  rw [List.length_take]
  exact Nat.le_min.mpr ⟨within, held⟩

theorem drop_resizeBuf {buf : Bytes} {front : Nat} (held : front ≤ buf.length) (size : Nat)
    (value : UInt8) :
    (resizeBuf buf (front + size) value).drop front = resizeBuf (buf.drop front) size value := by
  have added : front + size - buf.length = size - (buf.length - front) := by omega
  rw [resizeBuf, resizeBuf, List.drop_append_of_le_length, List.drop_take, List.length_drop, added,
    Nat.add_sub_cancel_left]
  rw [List.length_take]
  exact Nat.le_min.mpr ⟨Nat.le_add_right _ _, held⟩

end TransmissionBytes

def usizeCount : Nat := 2 ^ 64

/-- No allocation is larger. -/
def isizeMax : Nat := 2 ^ 63 - 1

/-- `+` of `usize`, which wraps around unless overflow is checked; none where it panics. -/
def addUsize (checks : Bool) (left right : Nat) : Option Nat :=
  if left + right < usizeCount then some (left + right)
  else if checks then none else some (left + right - usizeCount)

def subUsize (checks : Bool) (left right : Nat) : Option Nat :=
  if right ≤ left then some (left - right)
  else if checks then none else some (left + usizeCount - right)

structure BytesMut where
  bytes : Bytes
  capacity : Nat
  held : bytes.length ≤ capacity
  allocated : capacity ≤ isizeMax

namespace BytesMut

/-- What an allocation of `size` bytes may be good for, `spare` being up to the allocator. -/
def granted (size spare : Nat) : Nat := min (size + spare) isizeMax

theorem size_le_granted {size : Nat} (fits : size ≤ isizeMax) (spare : Nat) :
    size ≤ granted size spare := Nat.le_min.mpr ⟨Nat.le_add_right _ _, fits⟩

theorem granted_le (size spare : Nat) : granted size spare ≤ isizeMax := Nat.min_le_right _ _

def zeroed (spare size : Nat) : Option BytesMut :=
  if fits : size ≤ isizeMax then
    some
      { bytes := List.replicate size 0
        capacity := granted size spare
        held := by rw [List.length_replicate]; exact size_le_granted fits spare
        allocated := granted_le size spare }
  else none

variable (buf : BytesMut)

/-- Only a size beyond the capacity allocates. -/
def resize (spare size : Nat) (value : UInt8) : Option BytesMut :=
  if fits : size ≤ buf.capacity then
    some
      { bytes := TransmissionBytes.resizeBuf buf.bytes size value
        capacity := buf.capacity
        held := by rwa [TransmissionBytes.resizeBuf_length]
        allocated := buf.allocated }
  else if fits : size ≤ isizeMax then
    some
      { bytes := TransmissionBytes.resizeBuf buf.bytes size value
        capacity := granted size spare
        held := by rw [TransmissionBytes.resizeBuf_length]; exact size_le_granted fits spare
        allocated := granted_le size spare }
  else none

/-- `buf[first..last].copy_from_slice(data)`. -/
def copyFromSlice (first last : Nat) (data : Bytes) : Option BytesMut :=
  if fits : first + data.length = last ∧ last ≤ buf.bytes.length then
    some
      { bytes := buf.bytes.take first ++ data ++ buf.bytes.drop last
        capacity := buf.capacity
        held := by
          have held := buf.held
          simp only [List.length_append, List.length_take, List.length_drop]
          omega
        allocated := buf.allocated }
  else none

theorem resize_ok {size : Nat} (fits : size ≤ isizeMax) (spare : Nat) (value : UInt8) :
    ∃ resized, buf.resize spare size value = some resized ∧
      resized.bytes = TransmissionBytes.resizeBuf buf.bytes size value := by
  unfold resize
  split
  · exact ⟨_, rfl, rfl⟩
  · exact ⟨_, rfl, rfl⟩

theorem resize_none {size : Nat} (large : isizeMax < size) (spare : Nat) (value : UInt8) :
    buf.resize spare size value = none := by
  have allocated := buf.allocated
  rw [resize, dif_neg (by omega), dif_neg (by omega)]

theorem copyFromSlice_ok {first : Nat} {data : Bytes}
    (fits : first + data.length ≤ buf.bytes.length) :
    ∃ written, buf.copyFromSlice first (first + data.length) data = some written ∧
      written.bytes = buf.bytes.take first ++ data ++ buf.bytes.drop (first + data.length) :=
  ⟨_, dif_pos ⟨rfl, fits⟩, rfl⟩

theorem copyFromSlice_none {first last : Nat} {data : Bytes} (outside : buf.bytes.length < last) :
    buf.copyFromSlice first last data = none :=
  dif_neg fun fits => absurd fits.2 (Nat.not_le.mpr outside)

end BytesMut

structure TransmissionFields where
  buf : BytesMut
  start : Nat
  stop : Nat

namespace TransmissionFields

-- `checks` is off in the release profile
variable (checks : Bool) (fields : TransmissionFields)

def len : Option Nat := subUsize checks fields.stop fields.start

/-- What a method that may fail leaves behind; none where it panics. -/
abbrev Called := Option (Except String Unit × TransmissionFields)

def put (data : Bytes) : Called := do
  let need := data.length
  let free ← subUsize checks fields.buf.capacity fields.stop
  if free < need then return (.error s!"data too large:need={need},free={free}", fields)
  let buf ← fields.buf.copyFromSlice fields.stop (← addUsize checks fields.stop need) data
  return (.ok (), { fields with buf, stop := ← addUsize checks fields.stop need })

def retreatHead (len : Nat) : Called := do
  let headRoom := fields.start
  if headRoom < len then
    return (.error s!"retreat_head beyond start: len={len}, head_room={headRoom}", fields)
  return (.ok (), { fields with start := ← subUsize checks fields.start len })

def advanceHead (len : Nat) : Called := do
  let dataLen ← fields.len checks
  if dataLen < len then
    return (.error s!"advance_head beyond end: len={len}, data_len={dataLen}", fields)
  return (.ok (), { fields with start := ← addUsize checks fields.start len })

def setLen (newLen : Nat) : Called := do
  let newEnd ← addUsize checks fields.start newLen
  if fields.buf.capacity < newEnd then
    let max ← subUsize checks fields.buf.capacity fields.start
    return (.error s!"set_len exceeds capacity: new_len={newLen}, max={max}", fields)
  return (.ok (), { fields with stop := newEnd })

def resize (spare newLen : Nat) (value : UInt8) : Option TransmissionFields := do
  let newEnd ← addUsize checks fields.start newLen
  let buf ← fields.buf.resize spare newEnd value
  return { fields with buf, stop := newEnd }

def extendEnd (spare n : Nat) : Option TransmissionFields := do
  let newEnd ← addUsize checks fields.stop n
  let buf ← if fields.buf.bytes.length < newEnd then fields.buf.resize spare newEnd 0
    else some fields.buf
  return { fields with buf, stop := newEnd }

def shrinkEnd (n : Nat) : Option TransmissionFields := do
  let dataLen ← fields.len checks
  if dataLen ≤ n then return { fields with stop := fields.start }
  return { fields with stop := ← subUsize checks fields.stop n }

def clear : TransmissionFields := { fields with start := 0, stop := 0 }

end TransmissionFields

/-- A call with its arguments, and what an allocation grants beyond what it is asked for. -/
inductive BufferCall where
  | put (data : Bytes)
  | retreatHead (len : UInt64)
  | advanceHead (len : UInt64)
  | setLen (newLen : UInt64)
  | resize (newLen : UInt64) (value : UInt8) (spare : Nat)
  | extendEnd (n : UInt64) (spare : Nat)
  | shrinkEnd (n : UInt64)
  | clear

namespace TransmissionBytes
variable (bytes : TransmissionBytes)

def call : BufferCall → Outcome TransmissionBytes
  | .put data => bytes.put data
  | .retreatHead len => bytes.retreatHead len.toNat
  | .advanceHead len => bytes.advanceHead len.toNat
  | .setLen newLen => bytes.setLen newLen.toNat
  | .resize newLen value _ => .ok (bytes.resize newLen.toNat value)
  | .extendEnd n _ => .ok (bytes.extendEnd n.toNat)
  | .shrinkEnd n => .ok (bytes.shrinkEnd n.toNat)
  | .clear => .ok bytes.clear

end TransmissionBytes

namespace TransmissionFields
variable (checks : Bool) (fields : TransmissionFields)

def called (after : Option TransmissionFields) : Called := after.map (.ok (), ·)

def call : BufferCall → Called
  | .put data => fields.put checks data
  | .retreatHead len => fields.retreatHead checks len.toNat
  | .advanceHead len => fields.advanceHead checks len.toNat
  | .setLen newLen => fields.setLen checks newLen.toNat
  | .resize newLen value spare => called (fields.resize checks spare newLen.toNat value)
  | .extendEnd n spare => called (fields.extendEnd checks spare n.toNat)
  | .shrinkEnd n => called (fields.shrinkEnd checks n.toNat)
  | .clear => called (some fields.clear)

/-- The process ends where a call panics; nothing is said of what would come after. -/
def step (fields : TransmissionFields) (event : BufferCall) :
    TransmissionFields × List (Option (Except String Unit)) :=
  match fields.call checks event with
  | some (result, after) => (after, [some result])
  | none => (fields, [none])

/-- `buf[start..end]`, which is there if the fields are sound. -/
def asSlice : Bytes := (fields.buf.bytes.take fields.stop).drop fields.start

structure Sound : Prop where
  ordered : fields.start ≤ fields.stop
  inside : fields.stop ≤ fields.buf.bytes.length

/-- What an accepted call is for, of the bytes in the window. -/
def Shows (after : TransmissionFields) : BufferCall → Prop
  | .put data => after.asSlice = fields.asSlice ++ data
  | .retreatHead len => after.asSlice =
      (fields.buf.bytes.take fields.start).drop (fields.start - len.toNat) ++ fields.asSlice
  | .advanceHead len => after.asSlice = fields.asSlice.drop len.toNat
  | .setLen newLen => after.asSlice = (fields.buf.bytes.drop fields.start).take newLen.toNat
  | .resize newLen value _ => after.asSlice =
      TransmissionBytes.resizeBuf (fields.buf.bytes.drop fields.start) newLen.toNat value
  | .extendEnd n _ => after.asSlice = TransmissionBytes.resizeBuf
      (fields.buf.bytes.drop fields.start) (fields.asSlice.length + n.toNat) 0
  | .shrinkEnd n => after.asSlice = fields.asSlice.take (fields.asSlice.length - n.toNat)
  | .clear => after.asSlice = []

/-- A call does not panic and leaves sound fields; an error changes nothing, and a call that
succeeds does to the window what it is for and keeps the bytes in front of it. -/
def Kept (fields : TransmissionFields) (event : BufferCall) : Prop :=
  match fields.call checks event with
  | none => False
  | some (.error _, after) => after.Sound ∧ after = fields
  | some (.ok _, after) => after.Sound ∧ fields.Shows after event ∧
      after.buf.bytes.take fields.start = fields.buf.bytes.take fields.start

/-- No end between the length and the capacity is asked for, and none beyond what can be
allocated. -/
def Fits (fields : TransmissionFields) : BufferCall → Prop
  | .put data => fields.stop + data.length ≤ fields.buf.bytes.length ∨
      fields.buf.capacity < fields.stop + data.length
  | .setLen newLen => fields.start + newLen.toNat ≤ fields.buf.bytes.length ∨
      (fields.buf.capacity < fields.start + newLen.toNat ∧
        fields.start + newLen.toNat < usizeCount)
  | .resize newLen _ _ => fields.start + newLen.toNat ≤ isizeMax
  | .extendEnd n _ => fields.stop + n.toNat ≤ isizeMax
  | _ => True

instance (fields : TransmissionFields) : (event : BufferCall) → Decidable (fields.Fits event)
  | .put _ | .setLen _ => inferInstanceAs (Decidable (_ ∨ _))
  | .resize _ _ _ | .extendEnd _ _ => inferInstanceAs (Decidable (_ ≤ _))
  | .retreatHead _ | .advanceHead _ | .shrinkEnd _ | .clear => isTrue trivial

/-! ### What each call does to sound fields -/

variable {checks} {fields}

theorem kept_of_error {event : BufferCall} {message : String} (sound : fields.Sound)
    (called : fields.call checks event = some (.error message, fields)) :
    fields.Kept checks event := by
  rw [Kept, called]
  exact ⟨sound, rfl⟩

theorem kept_of_ok {event : BufferCall} {after : TransmissionFields}
    (called : fields.call checks event = some (.ok (), after)) (sound : after.Sound)
    (shows : fields.Shows after event)
    (front : after.buf.bytes.take fields.start = fields.buf.bytes.take fields.start) :
    fields.Kept checks event := by
  rw [Kept, called]
  exact ⟨sound, shows, front⟩

/-- A call that succeeds and leaves its end out of place breaks what is kept. -/
theorem sound_of_kept {event : BufferCall} {after : TransmissionFields}
    (called : fields.call checks event = some (.ok (), after)) (kept : fields.Kept checks event) :
    after.Sound ∧ fields.Shows after event := by
  rw [Kept, called] at kept
  exact ⟨kept.1, kept.2.1⟩

theorem not_kept_of_panic {event : BufferCall} (called : fields.call checks event = none) :
    ¬fields.Kept checks event := by
  rw [Kept, called]
  exact not_false

theorem addUsize_of_lt (checks : Bool) {left right : Nat} (fits : left + right < usizeCount) :
    addUsize checks left right = some (left + right) := if_pos fits

theorem addUsize_of_le (checks : Bool) {left right : Nat} (wraps : usizeCount ≤ left + right) :
    addUsize checks left right = if checks then none else some (left + right - usizeCount) :=
  if_neg (Nat.not_lt.mpr wraps)

theorem subUsize_of_le {left right : Nat} (fits : right ≤ left) :
    subUsize checks left right = some (left - right) := if_pos fits

theorem toNat_lt (value : UInt64) : value.toNat < usizeCount := by
  have bound := value.toNat_lt
  unfold usizeCount
  omega

theorem isizeMax_lt : isizeMax < usizeCount := by decide

theorem call_retreatHead_err {len : UInt64} (beyond : fields.start < len.toNat) :
    ∃ message, fields.call checks (.retreatHead len) = some (.error message, fields) := by
  unfold call retreatHead
  simp only [if_pos beyond]
  exact ⟨_, rfl⟩

theorem call_retreatHead {len : UInt64} (room : len.toNat ≤ fields.start) :
    fields.call checks (.retreatHead len) =
      some (.ok (), { fields with start := fields.start - len.toNat }) := by
  unfold call retreatHead
  simp only [if_neg (Nat.not_lt.mpr room), subUsize_of_le room]
  rfl

theorem clear_kept : fields.Kept checks .clear :=
  kept_of_ok rfl ⟨Nat.le_refl _, Nat.zero_le _⟩ rfl rfl

section Added
variable {newLen n : UInt64} {newEnd : Nat} (value : UInt8) (spare : Nat)

theorem call_setLen_none (added : addUsize checks fields.start newLen.toNat = none) :
    fields.call checks (.setLen newLen) = none := by
  rw [call, setLen, added, Option.bind_eq_bind, Option.bind_none]

theorem call_setLen (added : addUsize checks fields.start newLen.toNat = some newEnd)
    (within : newEnd ≤ fields.buf.capacity) :
    fields.call checks (.setLen newLen) = some (.ok (), { fields with stop := newEnd }) := by
  rw [call, setLen, added, Option.bind_eq_bind, Option.bind_some, if_neg (Nat.not_lt.mpr within)]
  rfl

theorem call_resize_none (added : addUsize checks fields.start newLen.toNat = none) :
    fields.call checks (.resize newLen value spare) = none := by
  rw [call, resize, added, Option.bind_eq_bind, Option.bind_none]
  rfl

theorem call_resize (added : addUsize checks fields.start newLen.toNat = some newEnd) :
    fields.call checks (.resize newLen value spare) =
      (fields.buf.resize spare newEnd value).map fun buf =>
        (.ok (), { fields with buf, stop := newEnd }) := by
  rw [call, resize, added, Option.bind_eq_bind, Option.bind_some]
  cases fields.buf.resize spare newEnd value <;> rfl

theorem call_extendEnd_none (added : addUsize checks fields.stop n.toNat = none) :
    fields.call checks (.extendEnd n spare) = none := by
  rw [call, extendEnd, added, Option.bind_eq_bind, Option.bind_none]
  rfl

theorem call_extendEnd (added : addUsize checks fields.stop n.toNat = some newEnd)
    (beyond : fields.buf.bytes.length < newEnd) :
    fields.call checks (.extendEnd n spare) =
      (fields.buf.resize spare newEnd 0).map fun buf =>
        (.ok (), { fields with buf, stop := newEnd }) := by
  rw [call, extendEnd, added, Option.bind_eq_bind, Option.bind_some, if_pos beyond]
  cases fields.buf.resize spare newEnd 0 <;> rfl

theorem call_extendEnd_room (added : addUsize checks fields.stop n.toNat = some newEnd)
    (room : newEnd ≤ fields.buf.bytes.length) :
    fields.call checks (.extendEnd n spare) = some (.ok (), { fields with stop := newEnd }) := by
  rw [call, extendEnd, added, Option.bind_eq_bind, Option.bind_some, if_neg (Nat.not_lt.mpr room)]
  rfl

end Added

namespace Sound
variable (sound : fields.Sound)
include sound

theorem stop_le_capacity : fields.stop ≤ fields.buf.capacity :=
  Nat.le_trans sound.inside fields.buf.held

theorem stop_lt : fields.stop < usizeCount :=
  Nat.lt_of_le_of_lt (Nat.le_trans sound.stop_le_capacity fields.buf.allocated) isizeMax_lt

theorem start_le_capacity : fields.start ≤ fields.buf.capacity :=
  Nat.le_trans sound.ordered sound.stop_le_capacity

theorem len_eq : fields.len checks = some (fields.stop - fields.start) :=
  subUsize_of_le sound.ordered

theorem asSlice_length : fields.asSlice.length = fields.stop - fields.start := by
  have inside := sound.inside
  rw [asSlice, List.length_drop, List.length_take, Nat.min_eq_left inside]

theorem put_full {data : Bytes} (full : fields.buf.capacity < fields.stop + data.length) :
    ∃ message, fields.put checks data = some (.error message, fields) := by
  have within := sound.stop_le_capacity
  have free : fields.buf.capacity - fields.stop < data.length := by omega
  unfold put
  rw [subUsize_of_le within]
  simp only [Option.bind_eq_bind, Option.bind_some, if_pos free]
  exact ⟨_, rfl⟩

theorem put_room {data : Bytes} (room : fields.stop + data.length ≤ fields.buf.capacity) :
    fields.put checks data =
      (fields.buf.copyFromSlice fields.stop (fields.stop + data.length) data).bind fun buf =>
        some (.ok (), { fields with buf, stop := fields.stop + data.length }) := by
  have free : ¬fields.buf.capacity - fields.stop < data.length := by omega
  have small : fields.stop + data.length < usizeCount :=
    Nat.lt_of_le_of_lt (Nat.le_trans room fields.buf.allocated) isizeMax_lt
  unfold put
  rw [subUsize_of_le sound.stop_le_capacity]
  simp only [Option.bind_eq_bind, Option.bind_some, if_neg free, addUsize_of_lt _ small]
  rfl

theorem call_put {data : Bytes} (room : fields.stop + data.length ≤ fields.buf.bytes.length) :
    ∃ buf : BytesMut, buf.bytes = fields.buf.bytes.take fields.stop ++ data ++
        fields.buf.bytes.drop (fields.stop + data.length) ∧
      fields.call checks (.put data) =
        some (.ok (), { fields with buf, stop := fields.stop + data.length }) := by
  obtain ⟨buf, written, bytes⟩ := fields.buf.copyFromSlice_ok room
  refine ⟨buf, bytes, ?_⟩
  rw [call, sound.put_room (Nat.le_trans room fields.buf.held), written]
  rfl

theorem call_advanceHead_err {len : UInt64} (beyond : fields.stop - fields.start < len.toNat) :
    ∃ message, fields.call checks (.advanceHead len) = some (.error message, fields) := by
  unfold call advanceHead
  simp only [sound.len_eq, Option.bind_eq_bind, Option.bind_some, if_pos beyond]
  exact ⟨_, rfl⟩

theorem call_advanceHead {len : UInt64} (within : fields.start + len.toNat ≤ fields.stop) :
    fields.call checks (.advanceHead len) =
      some (.ok (), { fields with start := fields.start + len.toNat }) := by
  have room : ¬fields.stop - fields.start < len.toNat := by omega
  unfold call advanceHead
  simp only [sound.len_eq, Option.bind_eq_bind, Option.bind_some, if_neg room,
    addUsize_of_lt _ (Nat.lt_of_le_of_lt within sound.stop_lt)]
  rfl

theorem call_shrinkEnd (n : UInt64) :
    fields.call checks (.shrinkEnd n) = some (.ok (), { fields with
      stop := if fields.stop - fields.start ≤ n.toNat then fields.start else fields.stop - n.toNat }) := by
  have ordered := sound.ordered
  unfold call shrinkEnd
  by_cases whole : fields.stop - fields.start ≤ n.toNat
  · simp only [sound.len_eq, Option.bind_eq_bind, Option.bind_some, if_pos whole]
    rfl
  · have within : n.toNat ≤ fields.stop := by omega
    simp only [sound.len_eq, Option.bind_eq_bind, Option.bind_some, if_neg whole,
      subUsize_of_le within]
    rfl

theorem call_setLen_err {newLen : UInt64} (full : fields.buf.capacity < fields.start + newLen.toNat)
    (small : fields.start + newLen.toNat < usizeCount) :
    ∃ message, fields.call checks (.setLen newLen) = some (.error message, fields) := by
  unfold call setLen
  simp only [addUsize_of_lt _ small, Option.bind_eq_bind, Option.bind_some, if_pos full,
    subUsize_of_le sound.start_le_capacity]
  exact ⟨_, rfl⟩

theorem put_kept (data : Bytes) :
    fields.Kept checks (.put data) ↔ fields.Fits (.put data) := by
  have ordered := sound.ordered
  have inside := sound.inside
  constructor
  · intro kept
    by_contra torn
    rw [Fits, not_or, Nat.not_le, Nat.not_lt] at torn
    refine not_kept_of_panic ?_ kept
    rw [call, sound.put_room torn.2, fields.buf.copyFromSlice_none torn.1]
    rfl
  · rintro (room | full)
    · obtain ⟨buf, bytes, called⟩ := sound.call_put room
      refine kept_of_ok called ⟨?_, ?_⟩ ?_ ?_
      · exact Nat.le_trans ordered (Nat.le_add_right _ _)
      · simp only [bytes, List.length_append, List.length_take, List.length_drop]
        omega
      · apply List.ext_getElem?
        intro i
        simp only [asSlice, bytes, List.getElem?_append, List.getElem?_take, List.getElem?_drop,
          List.length_append, List.length_take, List.length_drop]
        grind
      · rw [bytes, List.append_assoc, List.take_append_of_le_length, List.take_take,
          Nat.min_eq_left ordered]
        rw [List.length_take]
        omega
    · obtain ⟨message, called⟩ := sound.put_full full
      exact kept_of_error sound called

theorem retreatHead_kept (len : UInt64) : fields.Kept checks (.retreatHead len) := by
  have ordered := sound.ordered
  have inside := sound.inside
  by_cases beyond : fields.start < len.toNat
  · obtain ⟨message, called⟩ := call_retreatHead_err beyond
    exact kept_of_error sound called
  · refine kept_of_ok (call_retreatHead (Nat.not_lt.mp beyond))
      ⟨Nat.le_trans (Nat.sub_le _ _) ordered, inside⟩ ?_ rfl
    apply List.ext_getElem?
    intro i
    simp only [asSlice, List.getElem?_append, List.getElem?_take, List.getElem?_drop,
      List.length_take, List.length_drop]
    grind

theorem advanceHead_kept (len : UInt64) : fields.Kept checks (.advanceHead len) := by
  by_cases beyond : fields.stop - fields.start < len.toNat
  · obtain ⟨message, called⟩ := sound.call_advanceHead_err beyond
    exact kept_of_error sound called
  · have ordered := sound.ordered
    have within : fields.start + len.toNat ≤ fields.stop := by omega
    exact kept_of_ok (sound.call_advanceHead within) ⟨within, sound.inside⟩ List.drop_drop.symm rfl

theorem shrinkEnd_kept (n : UInt64) : fields.Kept checks (.shrinkEnd n) := by
  have ordered := sound.ordered
  have inside := sound.inside
  have stop : (if fields.stop - fields.start ≤ n.toNat then fields.start
      else fields.stop - n.toNat) = fields.start + (fields.stop - fields.start - n.toNat) := by
    split <;> omega
  have cut : fields.start + (fields.stop - fields.start - n.toNat) ≤ fields.stop := by omega
  have called : fields.call checks (.shrinkEnd n) = _ := sound.call_shrinkEnd n
  rw [stop] at called
  refine kept_of_ok called ⟨Nat.le_add_right _ _, Nat.le_trans cut inside⟩ ?_ rfl
  rw [Shows, sound.asSlice_length, asSlice, asSlice, List.take_drop, List.take_take,
    Nat.min_eq_left cut]

theorem setLen_fits {newLen : UInt64} (fits : fields.Fits (.setLen newLen)) :
    fields.Kept checks (.setLen newLen) := by
  have held := fields.buf.held
  rcases fits with room | ⟨full, small⟩
  · have within := Nat.le_trans room held
    have small := Nat.lt_of_le_of_lt (Nat.le_trans within fields.buf.allocated) isizeMax_lt
    exact kept_of_ok (call_setLen (addUsize_of_lt _ small) within)
      ⟨Nat.le_add_right _ _, room⟩ List.take_drop.symm rfl
  · obtain ⟨message, called⟩ := sound.call_setLen_err full small
    exact kept_of_error sound called

/-- An end that wraps around comes to lie before the start. -/
theorem setLen_wraps {newLen : UInt64} (wraps : usizeCount ≤ fields.start + newLen.toNat) :
    ¬fields.Kept checks (.setLen newLen) := by
  have short := toNat_lt newLen
  have capacity := sound.start_le_capacity
  intro kept
  cases checks with
  | true => exact not_kept_of_panic (call_setLen_none (addUsize_of_le true wraps)) kept
  | false =>
      have called := call_setLen (addUsize_of_le false wraps) (by omega)
      have ordered : fields.start ≤ fields.start + newLen.toNat - usizeCount :=
        (sound_of_kept called kept).1.ordered
      omega

theorem setLen_kept (newLen : UInt64) :
    fields.Kept checks (.setLen newLen) ↔ fields.Fits (.setLen newLen) := by
  refine ⟨fun kept => ?_, sound.setLen_fits⟩
  by_cases small : fields.start + newLen.toNat < usizeCount
  · by_cases full : fields.buf.capacity < fields.start + newLen.toNat
    · exact .inr ⟨full, small⟩
    · have called := call_setLen (addUsize_of_lt checks small) (Nat.not_lt.mp full)
      exact .inl (sound_of_kept called kept).1.inside
  · exact absurd kept (sound.setLen_wraps (Nat.not_lt.mp small))

theorem resize_wraps {newLen : UInt64} {value : UInt8} {spare : Nat}
    (wraps : usizeCount ≤ fields.start + newLen.toNat) :
    ¬fields.Kept checks (.resize newLen value spare) := by
  have short := toNat_lt newLen
  have start := Nat.le_trans sound.start_le_capacity fields.buf.allocated
  intro kept
  cases checks with
  | true => exact not_kept_of_panic (call_resize_none value spare (addUsize_of_le true wraps)) kept
  | false =>
      have fits : fields.start + newLen.toNat - usizeCount ≤ isizeMax := by omega
      obtain ⟨buf, resized, _⟩ := fields.buf.resize_ok fits spare value
      have called := call_resize value spare (addUsize_of_le false wraps)
      rw [resized] at called
      have ordered : fields.start ≤ fields.start + newLen.toNat - usizeCount :=
        (sound_of_kept called kept).1.ordered
      omega

theorem resize_kept (newLen : UInt64) (value : UInt8) (spare : Nat) :
    fields.Kept checks (.resize newLen value spare) ↔ fields.Fits (.resize newLen value spare) := by
  have head : fields.start ≤ fields.buf.bytes.length := Nat.le_trans sound.ordered sound.inside
  constructor
  · intro kept
    by_contra large
    rw [Fits, Nat.not_le] at large
    by_cases small : fields.start + newLen.toNat < usizeCount
    · refine not_kept_of_panic ?_ kept
      rw [call_resize value spare (addUsize_of_lt _ small), fields.buf.resize_none large]
      rfl
    · exact absurd kept (sound.resize_wraps (Nat.not_lt.mp small))
  · intro fits
    obtain ⟨buf, resized, bytes⟩ := fields.buf.resize_ok fits spare value
    have called : fields.call checks (.resize newLen value spare) =
        some (.ok (), { fields with buf, stop := fields.start + newLen.toNat }) := by
      rw [call_resize value spare (addUsize_of_lt _ (Nat.lt_of_le_of_lt fits isizeMax_lt)), resized]
      rfl
    have length : buf.bytes.length = fields.start + newLen.toNat := by
      rw [bytes, TransmissionBytes.resizeBuf_length]
    refine kept_of_ok called ⟨Nat.le_add_right _ _, Nat.le_of_eq length.symm⟩ ?_ ?_
    · rw [Shows, asSlice, ← length, List.take_length, bytes,
        TransmissionBytes.drop_resizeBuf head]
    · exact (congrArg _ bytes).trans
        (TransmissionBytes.take_resizeBuf head (Nat.le_add_right _ _) _)

/-- An end that wraps around comes to lie before the old one, and the window shrinks. -/
theorem extendEnd_wraps {n : UInt64} {spare : Nat} (wraps : usizeCount ≤ fields.stop + n.toNat) :
    ¬fields.Kept checks (.extendEnd n spare) := by
  have short := toNat_lt n
  have inside := sound.inside
  have stop := sound.stop_lt
  intro kept
  cases checks with
  | true => exact not_kept_of_panic (call_extendEnd_none spare (addUsize_of_le true wraps)) kept
  | false =>
      have called := call_extendEnd_room spare (addUsize_of_le false wraps) (by omega)
      obtain ⟨after, shows⟩ := sound_of_kept called kept
      have length := congrArg List.length shows
      rw [after.asSlice_length, TransmissionBytes.resizeBuf_length, sound.asSlice_length] at length
      dsimp only at length
      omega

theorem extendEnd_fits {n : UInt64} {spare : Nat} (fits : fields.stop + n.toNat ≤ isizeMax) :
    fields.Kept checks (.extendEnd n spare) := by
  have ordered := sound.ordered
  have inside := sound.inside
  have head := Nat.le_trans ordered inside
  have small := Nat.lt_of_le_of_lt fits isizeMax_lt
  have grows : fields.start ≤ fields.stop + n.toNat :=
    Nat.le_trans ordered (Nat.le_add_right _ _)
  have grown : fields.stop + n.toNat = fields.start + (fields.asSlice.length + n.toNat) := by
    rw [sound.asSlice_length]
    omega
  by_cases beyond : fields.buf.bytes.length < fields.stop + n.toNat
  · obtain ⟨buf, resized, bytes⟩ := fields.buf.resize_ok fits spare 0
    have called : fields.call checks (.extendEnd n spare) =
        some (.ok (), { fields with buf, stop := fields.stop + n.toNat }) := by
      rw [call_extendEnd spare (addUsize_of_lt _ small) beyond, resized]
      rfl
    have length : buf.bytes.length = fields.stop + n.toNat := by
      rw [bytes, TransmissionBytes.resizeBuf_length]
    refine kept_of_ok called ⟨grows, Nat.le_of_eq length.symm⟩ ?_ ?_
    · rw [Shows, asSlice, ← length, List.take_length, bytes, grown,
        TransmissionBytes.drop_resizeBuf head]
    · exact (congrArg _ bytes).trans (TransmissionBytes.take_resizeBuf head grows _)
  · have room : fields.asSlice.length + n.toNat ≤ (fields.buf.bytes.drop fields.start).length := by
      rw [List.length_drop, sound.asSlice_length]
      omega
    refine kept_of_ok (call_extendEnd_room spare (addUsize_of_lt _ small) (Nat.not_lt.mp beyond))
      ⟨grows, Nat.not_lt.mp beyond⟩ ?_ rfl
    rw [Shows, TransmissionBytes.resizeBuf_of_le room, List.take_drop, ← grown, asSlice]

theorem extendEnd_kept (n : UInt64) (spare : Nat) :
    fields.Kept checks (.extendEnd n spare) ↔ fields.Fits (.extendEnd n spare) := by
  have held := fields.buf.held
  have allocated := fields.buf.allocated
  refine ⟨fun kept => ?_, fun fits => sound.extendEnd_fits fits⟩
  by_contra large
  rw [Fits, Nat.not_le] at large
  by_cases small : fields.stop + n.toNat < usizeCount
  · refine not_kept_of_panic ?_ kept
    rw [call_extendEnd spare (addUsize_of_lt _ small) (by omega), fields.buf.resize_none large]
    rfl
  · exact absurd kept (sound.extendEnd_wraps (Nat.not_lt.mp small))

/-- In every call, exactly those that fit keep what is to be kept. -/
theorem kept_iff (event : BufferCall) : fields.Kept checks event ↔ fields.Fits event := by
  cases event with
  | put data => exact sound.put_kept data
  | retreatHead len => exact iff_of_true (sound.retreatHead_kept len) trivial
  | advanceHead len => exact iff_of_true (sound.advanceHead_kept len) trivial
  | setLen newLen => exact sound.setLen_kept newLen
  | resize newLen value spare => exact sound.resize_kept newLen value spare
  | extendEnd n spare => exact sound.extendEnd_kept n spare
  | shrinkEnd n => exact iff_of_true (sound.shrinkEnd_kept n) trivial
  | clear => exact iff_of_true clear_kept trivial

end Sound

theorem sound_step {event : BufferCall} (kept : fields.Kept checks event) :
    (fields.step checks event).1.Sound := by
  rw [Kept] at kept
  rw [step]
  split at kept
  · cases kept
  · rename_i called
    rw [called]
    exact kept.1
  · rename_i called
    rw [called]
    exact kept.1

/-! ### The windows of the other modules -/

/-- Sound fields are a window, whatever the capacity is. -/
def window (fields : TransmissionFields) (sound : fields.Sound) : TransmissionBytes :=
  ⟨fields.buf.bytes, fields.start, fields.stop, sound.ordered, sound.inside⟩

def Agrees : Called → Outcome TransmissionBytes → Prop
  | some (.ok _, after), .ok window =>
      after.buf.bytes = window.buf ∧ after.start = window.start ∧ after.stop = window.stop
  | some (.error _, after), .err _ => after = fields
  | _, _ => False

/-- Where a call fits, a window whose capacity is its length does what the fields do. -/
theorem window_agrees (sound : fields.Sound) {event : BufferCall} (fits : fields.Fits event) :
    fields.Agrees (fields.call checks event) ((fields.window sound).call event) := by
  have ordered := sound.ordered
  cases event with
  | put data =>
      rcases fits with room | full
      · obtain ⟨buf, bytes, called⟩ := sound.call_put room
        have put : (fields.window sound).put data = .ok _ := dif_pos room
        rw [called, TransmissionBytes.call, put]
        exact ⟨bytes, rfl, rfl⟩
      · obtain ⟨message, called⟩ := sound.put_full full
        have beyond := Nat.not_le.mpr (Nat.lt_of_le_of_lt fields.buf.held full)
        have put : (fields.window sound).put data = .err _ := dif_neg beyond
        rw [call, called, TransmissionBytes.call, put]
        rfl
  | retreatHead len =>
      by_cases room : len.toNat ≤ fields.start
      · have retreated : (fields.window sound).retreatHead len.toNat = .ok _ := if_pos room
        rw [call_retreatHead room, TransmissionBytes.call, retreated]
        exact ⟨rfl, rfl, rfl⟩
      · obtain ⟨message, called⟩ := call_retreatHead_err (Nat.not_le.mp room)
        have retreated : (fields.window sound).retreatHead len.toNat = .err _ := if_neg room
        rw [called, TransmissionBytes.call, retreated]
        rfl
  | advanceHead len =>
      by_cases room : len.toNat ≤ fields.stop - fields.start
      · have advanced : (fields.window sound).advanceHead len.toNat = .ok _ := dif_pos room
        rw [sound.call_advanceHead (by omega), TransmissionBytes.call, advanced]
        exact ⟨rfl, rfl, rfl⟩
      · obtain ⟨message, called⟩ := sound.call_advanceHead_err (Nat.not_le.mp room)
        have advanced : (fields.window sound).advanceHead len.toNat = .err _ := dif_neg room
        rw [called, TransmissionBytes.call, advanced]
        rfl
  | setLen newLen =>
      rcases fits with room | ⟨full, small⟩
      · have within := Nat.le_trans room fields.buf.held
        have small := Nat.lt_of_le_of_lt (Nat.le_trans within fields.buf.allocated) isizeMax_lt
        have set : (fields.window sound).setLen newLen.toNat = .ok _ := dif_pos room
        rw [call_setLen (addUsize_of_lt _ small) within, TransmissionBytes.call, set]
        exact ⟨rfl, rfl, rfl⟩
      · obtain ⟨message, called⟩ := sound.call_setLen_err full small
        have beyond := Nat.not_le.mpr (Nat.lt_of_le_of_lt fields.buf.held full)
        have set : (fields.window sound).setLen newLen.toNat = .err _ := dif_neg beyond
        rw [called, TransmissionBytes.call, set]
        rfl
  | resize newLen value spare =>
      obtain ⟨buf, resized, bytes⟩ := fields.buf.resize_ok fits spare value
      rw [call_resize value spare (addUsize_of_lt _ (Nat.lt_of_le_of_lt fits isizeMax_lt)), resized]
      exact ⟨bytes, rfl, rfl⟩
  | extendEnd n spare =>
      have small := Nat.lt_of_le_of_lt fits isizeMax_lt
      by_cases beyond : fields.buf.bytes.length < fields.stop + n.toNat
      · obtain ⟨buf, resized, bytes⟩ := fields.buf.resize_ok fits spare 0
        rw [call_extendEnd spare (addUsize_of_lt _ small) beyond, resized]
        exact ⟨bytes.trans (if_pos beyond).symm, rfl, rfl⟩
      · rw [call_extendEnd_room spare (addUsize_of_lt _ small) (Nat.not_lt.mp beyond)]
        exact ⟨(if_neg beyond).symm, rfl, rfl⟩
  | shrinkEnd n =>
      rw [sound.call_shrinkEnd n]
      exact ⟨rfl, rfl, rfl⟩
  | clear => exact ⟨rfl, rfl, rfl⟩

end TransmissionFields

/-- The constructors and `From`; what `bytes` makes of its argument is a buffer already. -/
inductive BufferConstructor where
  | ofBytes (buf : BytesMut)
  | newOffset (start : UInt64)
  | newOffsetZeroed (start : UInt64)
  | zeroed (cap : UInt64)
  | zeroedSize (size reserve : UInt64)
  | withCapacity (headRoom capacity : UInt64)

namespace BufferConstructor
variable (checks : Bool) (spare : Nat)

def make : BufferConstructor → Option TransmissionFields
  | ofBytes buf => some ⟨buf, 0, buf.bytes.length⟩
  | newOffset start => do
      let buf ← BytesMut.zeroed spare defaultBufSize
      return ⟨buf, start.toNat, start.toNat⟩
  | newOffsetZeroed start => do
      let buf ← BytesMut.zeroed spare defaultBufSize
      return ⟨buf, start.toNat, defaultBufSize⟩
  | zeroed cap => do
      let buf ← BytesMut.zeroed spare cap.toNat
      return ⟨buf, 0, cap.toNat⟩
  | zeroedSize size reserve => do
      let buf ← BytesMut.zeroed spare (← addUsize checks size.toNat reserve.toNat)
      return ⟨buf, 0, size.toNat⟩
  | withCapacity headRoom capacity => do
      let buf ← BytesMut.zeroed spare capacity.toNat
      return ⟨buf, headRoom.toNat, headRoom.toNat⟩

/-- The size with its reserve does not wrap around. -/
def Fits : BufferConstructor → Prop
  | zeroedSize size reserve => size.toNat + reserve.toNat < usizeCount
  | _ => True

variable {checks} {spare}

theorem length_zeroed {size : Nat} {buf : BytesMut} (made : BytesMut.zeroed spare size = some buf) :
    buf.bytes.length = size := by
  unfold BytesMut.zeroed at made
  split at made
  · cases made
    exact List.length_replicate
  · cases made

theorem sound_zeroedSize {size reserve total : Nat} {buf : BytesMut}
    (added : addUsize checks size reserve = some total) (length : buf.bytes.length = total)
    (short : reserve < usizeCount) :
    (TransmissionFields.mk buf 0 size).Sound ↔ size + reserve < usizeCount := by
  unfold addUsize at added
  split at added
  · rename_i small
    cases added
    have inside : size ≤ buf.bytes.length := length ▸ Nat.le_add_right _ _
    exact iff_of_true ⟨Nat.zero_le _, inside⟩ small
  · rename_i wraps
    split at added
    · cases added
    · have same := Option.some.inj added
      refine iff_of_false (fun sound => ?_) wraps
      have inside : size ≤ buf.bytes.length := sound.inside
      omega

/-- A new buffer with its start inside is sound, but for a size that wrapped around. -/
theorem sound_iff {constructor : BufferConstructor} {fields : TransmissionFields}
    (made : constructor.make checks spare = some fields)
    (inside : fields.start ≤ fields.buf.bytes.length) : fields.Sound ↔ constructor.Fits := by
  cases constructor with
  | ofBytes buf =>
      cases made
      exact iff_of_true ⟨Nat.zero_le _, Nat.le_refl _⟩ trivial
  | newOffset start =>
      rw [make, Option.bind_eq_bind, Option.bind_eq_some_iff] at made
      obtain ⟨buf, _, same⟩ := made
      cases same
      exact iff_of_true ⟨Nat.le_refl _, inside⟩ trivial
  | newOffsetZeroed start =>
      rw [make, Option.bind_eq_bind, Option.bind_eq_some_iff] at made
      obtain ⟨buf, zeroed, same⟩ := made
      cases same
      have length := length_zeroed zeroed
      have within : start.toNat ≤ defaultBufSize := inside.trans_eq length
      exact iff_of_true ⟨within, Nat.le_of_eq length.symm⟩ trivial
  | zeroed cap =>
      rw [make, Option.bind_eq_bind, Option.bind_eq_some_iff] at made
      obtain ⟨buf, zeroed, same⟩ := made
      cases same
      exact iff_of_true ⟨Nat.zero_le _, Nat.le_of_eq (length_zeroed zeroed).symm⟩ trivial
  | zeroedSize size reserve =>
      simp only [make, Option.bind_eq_bind, Option.bind_eq_some_iff] at made
      obtain ⟨total, added, buf, zeroed, same⟩ := made
      cases same
      have length := length_zeroed zeroed
      exact sound_zeroedSize added length (TransmissionFields.toNat_lt reserve)
  | withCapacity headRoom capacity =>
      rw [make, Option.bind_eq_bind, Option.bind_eq_some_iff] at made
      obtain ⟨buf, _, same⟩ := made
      cases same
      exact iff_of_true ⟨Nat.le_refl _, inside⟩ trivial

end BufferConstructor

open TransmissionFields in
/-- In every run of calls after a constructor with its start inside the buffer, everything is
kept exactly if every call fits. -/
theorem bufferCalls_kept_iff {checks : Bool} {spare : Nat} {constructor : BufferConstructor}
    {fields : TransmissionFields} (made : constructor.make checks spare = some fields)
    (inside : fields.start ≤ fields.buf.bytes.length) (events : List BufferCall) :
    (fields.Sound ∧ Machine.Along (step checks) (Kept checks) fields events) ↔
      (constructor.Fits ∧ Machine.Along (step checks) Fits fields events) := by
  rw [BufferConstructor.sound_iff made inside]
  apply and_congr_right
  intro fits
  apply Machine.along_iff (step checks) Sound
  · intro state event _ sound fits
    exact sound_step ((sound.kept_iff event).mpr fits)
  · intro state event _ sound
    exact sound.kept_iff event
  · exact (BufferConstructor.sound_iff made inside).mpr fits

def headRoomCalls : List BufferCall :=
  [.put [1, 2, 3, 4], .retreatHead 4, .advanceHead 6, .extendEnd 60 20, .shrinkEnd 1,
   .put [5], .setLen 2, .resize 3 9 0, .retreatHead 100, .clear]

theorem headRoomCalls_kept : ∃ fields,
    (BufferConstructor.withCapacity 16 64).make false 0 = some fields ∧ fields.Sound ∧
      Machine.Along (TransmissionFields.step false) (TransmissionFields.Kept false) fields
        headRoomCalls := by
  have made : (BufferConstructor.withCapacity 16 64).make false 0 = some _ := rfl
  refine ⟨_, made, (bufferCalls_kept_iff made (by decide) headRoomCalls).mpr ⟨trivial, ?_⟩⟩
  exact ⟨by decide +kernel, trivial, trivial, by decide +kernel, trivial, by decide +kernel,
    by decide +kernel, by decide +kernel, trivial, trivial, trivial⟩

/-- A buffer that was cut keeps its capacity, which is what `put` looks at. -/
theorem cut_put_panics : ¬∀ checks spare constructor fields events,
    BufferConstructor.make checks spare constructor = some fields →
      fields.start ≤ fields.buf.bytes.length → fields.Sound ∧
        Machine.Along (TransmissionFields.step checks) (TransmissionFields.Kept checks) fields events := by
  intro always
  obtain ⟨_, _, kept, _⟩ := always false 0 (.zeroed 10) _ [.resize 2 0 0, .put [1, 2, 3, 4, 5]] rfl
    (by decide)
  refine TransmissionFields.not_kept_of_panic ?_ kept
  decide +kernel

end VntClient
