import VntClient.RustText

/-!
The lower case of Unicode 14, which has what `CaseMapping` asks for.
-/

namespace RustText

/-- Characters from `start` to `stop`, every one or every other of them, that have their lower case
from `target` on. -/
structure LowerRun where
  start : Nat
  stop : Nat
  step : Nat
  target : Nat

namespace LowerRun

def covers (run : LowerRun) (code : Nat) : Bool :=
  run.start.ble code && code.ble run.stop && ((code - run.start) % run.step).beq 0

def map (run : LowerRun) (code : Nat) : Nat := run.target + (code - run.start)

def last (run : LowerRun) : Nat := run.map run.stop

def avoids (run other : LowerRun) : Bool :=
  run.last.blt other.start || other.stop.blt run.target ||
    (run.step.beq 2 && other.step.beq 2 && ((run.target + other.start) % 2).beq 1)

theorem target_le_map (run : LowerRun) (code : Nat) : run.target ≤ run.map code :=
  Nat.le_add_right _ _

theorem map_le_last {run : LowerRun} {code : Nat} (covered : run.covers code) :
    run.map code ≤ run.last := by
  simp only [covers, Bool.and_eq_true, Nat.ble_eq] at covered
  simp only [last, map]
  omega

theorem not_covers_map {run other : LowerRun} (avoids : run.avoids other) {code : Nat}
    (covered : run.covers code) : ¬ other.covers (run.map code) := by
  intro again
  have least := target_le_map run code
  have most := map_le_last covered
  simp only [LowerRun.avoids, covers, Bool.or_eq_true, Bool.and_eq_true, Nat.ble_eq, Nat.blt_eq,
    Nat.beq_eq] at avoids covered again
  obtain ⟨⟨low, high⟩, aligned⟩ := again
  obtain (before | after) | ⟨⟨step, otherStep⟩, odd⟩ := avoids
  · omega
  · omega
  · rw [step] at covered
    rw [otherStep] at aligned
    simp only [map] at low aligned
    omega

end LowerRun

def lowerRuns : List LowerRun :=
  [⟨0x41, 0x5A, 1, 0x61⟩, ⟨0xC0, 0xD6, 1, 0xE0⟩, ⟨0xD8, 0xDE, 1, 0xF8⟩, ⟨0x100, 0x12E, 2, 0x101⟩,
    ⟨0x132, 0x136, 2, 0x133⟩, ⟨0x139, 0x147, 2, 0x13A⟩, ⟨0x14A, 0x176, 2, 0x14B⟩,
    ⟨0x178, 0x178, 2, 0xFF⟩, ⟨0x179, 0x17D, 2, 0x17A⟩, ⟨0x181, 0x181, 2, 0x253⟩,
    ⟨0x182, 0x184, 2, 0x183⟩, ⟨0x186, 0x186, 2, 0x254⟩, ⟨0x187, 0x187, 2, 0x188⟩,
    ⟨0x189, 0x18A, 1, 0x256⟩, ⟨0x18B, 0x18B, 2, 0x18C⟩, ⟨0x18E, 0x18E, 2, 0x1DD⟩,
    ⟨0x18F, 0x18F, 2, 0x259⟩, ⟨0x190, 0x190, 2, 0x25B⟩, ⟨0x191, 0x191, 2, 0x192⟩,
    ⟨0x193, 0x193, 2, 0x260⟩, ⟨0x194, 0x194, 2, 0x263⟩, ⟨0x196, 0x196, 2, 0x269⟩,
    ⟨0x197, 0x197, 2, 0x268⟩, ⟨0x198, 0x198, 2, 0x199⟩, ⟨0x19C, 0x19C, 2, 0x26F⟩,
    ⟨0x19D, 0x19D, 2, 0x272⟩, ⟨0x19F, 0x19F, 2, 0x275⟩, ⟨0x1A0, 0x1A4, 2, 0x1A1⟩,
    ⟨0x1A6, 0x1A6, 2, 0x280⟩, ⟨0x1A7, 0x1A7, 2, 0x1A8⟩, ⟨0x1A9, 0x1A9, 2, 0x283⟩,
    ⟨0x1AC, 0x1AC, 2, 0x1AD⟩, ⟨0x1AE, 0x1AE, 2, 0x288⟩, ⟨0x1AF, 0x1AF, 2, 0x1B0⟩,
    ⟨0x1B1, 0x1B2, 1, 0x28A⟩, ⟨0x1B3, 0x1B5, 2, 0x1B4⟩, ⟨0x1B7, 0x1B7, 2, 0x292⟩,
    ⟨0x1B8, 0x1B8, 2, 0x1B9⟩, ⟨0x1BC, 0x1BC, 2, 0x1BD⟩, ⟨0x1C4, 0x1C4, 2, 0x1C6⟩,
    ⟨0x1C5, 0x1C5, 2, 0x1C6⟩, ⟨0x1C7, 0x1C7, 2, 0x1C9⟩, ⟨0x1C8, 0x1C8, 2, 0x1C9⟩,
    ⟨0x1CA, 0x1CA, 2, 0x1CC⟩, ⟨0x1CB, 0x1DB, 2, 0x1CC⟩, ⟨0x1DE, 0x1EE, 2, 0x1DF⟩,
    ⟨0x1F1, 0x1F1, 2, 0x1F3⟩, ⟨0x1F2, 0x1F4, 2, 0x1F3⟩, ⟨0x1F6, 0x1F6, 2, 0x195⟩,
    ⟨0x1F7, 0x1F7, 2, 0x1BF⟩, ⟨0x1F8, 0x21E, 2, 0x1F9⟩, ⟨0x220, 0x220, 2, 0x19E⟩,
    ⟨0x222, 0x232, 2, 0x223⟩, ⟨0x23A, 0x23A, 2, 0x2C65⟩, ⟨0x23B, 0x23B, 2, 0x23C⟩,
    ⟨0x23D, 0x23D, 2, 0x19A⟩, ⟨0x23E, 0x23E, 2, 0x2C66⟩, ⟨0x241, 0x241, 2, 0x242⟩,
    ⟨0x243, 0x243, 2, 0x180⟩, ⟨0x244, 0x244, 2, 0x289⟩, ⟨0x245, 0x245, 2, 0x28C⟩,
    ⟨0x246, 0x24E, 2, 0x247⟩, ⟨0x370, 0x372, 2, 0x371⟩, ⟨0x376, 0x376, 2, 0x377⟩,
    ⟨0x37F, 0x37F, 2, 0x3F3⟩, ⟨0x386, 0x386, 2, 0x3AC⟩, ⟨0x388, 0x38A, 1, 0x3AD⟩,
    ⟨0x38C, 0x38C, 2, 0x3CC⟩, ⟨0x38E, 0x38F, 1, 0x3CD⟩, ⟨0x391, 0x3A1, 1, 0x3B1⟩,
    ⟨0x3A3, 0x3AB, 1, 0x3C3⟩, ⟨0x3CF, 0x3CF, 2, 0x3D7⟩, ⟨0x3D8, 0x3EE, 2, 0x3D9⟩,
    ⟨0x3F4, 0x3F4, 2, 0x3B8⟩, ⟨0x3F7, 0x3F7, 2, 0x3F8⟩, ⟨0x3F9, 0x3F9, 2, 0x3F2⟩,
    ⟨0x3FA, 0x3FA, 2, 0x3FB⟩, ⟨0x3FD, 0x3FF, 1, 0x37B⟩, ⟨0x400, 0x40F, 1, 0x450⟩,
    ⟨0x410, 0x42F, 1, 0x430⟩, ⟨0x460, 0x480, 2, 0x461⟩, ⟨0x48A, 0x4BE, 2, 0x48B⟩,
    ⟨0x4C0, 0x4C0, 2, 0x4CF⟩, ⟨0x4C1, 0x4CD, 2, 0x4C2⟩, ⟨0x4D0, 0x52E, 2, 0x4D1⟩,
    ⟨0x531, 0x556, 1, 0x561⟩, ⟨0x10A0, 0x10C5, 1, 0x2D00⟩, ⟨0x10C7, 0x10C7, 2, 0x2D27⟩,
    ⟨0x10CD, 0x10CD, 2, 0x2D2D⟩, ⟨0x13A0, 0x13EF, 1, 0xAB70⟩, ⟨0x13F0, 0x13F5, 1, 0x13F8⟩,
    ⟨0x1C90, 0x1CBA, 1, 0x10D0⟩, ⟨0x1CBD, 0x1CBF, 1, 0x10FD⟩, ⟨0x1E00, 0x1E94, 2, 0x1E01⟩,
    ⟨0x1E9E, 0x1E9E, 2, 0xDF⟩, ⟨0x1EA0, 0x1EFE, 2, 0x1EA1⟩, ⟨0x1F08, 0x1F0F, 1, 0x1F00⟩,
    ⟨0x1F18, 0x1F1D, 1, 0x1F10⟩, ⟨0x1F28, 0x1F2F, 1, 0x1F20⟩, ⟨0x1F38, 0x1F3F, 1, 0x1F30⟩,
    ⟨0x1F48, 0x1F4D, 1, 0x1F40⟩, ⟨0x1F59, 0x1F5F, 2, 0x1F51⟩, ⟨0x1F68, 0x1F6F, 1, 0x1F60⟩,
    ⟨0x1F88, 0x1F8F, 1, 0x1F80⟩, ⟨0x1F98, 0x1F9F, 1, 0x1F90⟩, ⟨0x1FA8, 0x1FAF, 1, 0x1FA0⟩,
    ⟨0x1FB8, 0x1FB9, 1, 0x1FB0⟩, ⟨0x1FBA, 0x1FBB, 1, 0x1F70⟩, ⟨0x1FBC, 0x1FBC, 2, 0x1FB3⟩,
    ⟨0x1FC8, 0x1FCB, 1, 0x1F72⟩, ⟨0x1FCC, 0x1FCC, 2, 0x1FC3⟩, ⟨0x1FD8, 0x1FD9, 1, 0x1FD0⟩,
    ⟨0x1FDA, 0x1FDB, 1, 0x1F76⟩, ⟨0x1FE8, 0x1FE9, 1, 0x1FE0⟩, ⟨0x1FEA, 0x1FEB, 1, 0x1F7A⟩,
    ⟨0x1FEC, 0x1FEC, 2, 0x1FE5⟩, ⟨0x1FF8, 0x1FF9, 1, 0x1F78⟩, ⟨0x1FFA, 0x1FFB, 1, 0x1F7C⟩,
    ⟨0x1FFC, 0x1FFC, 2, 0x1FF3⟩, ⟨0x2126, 0x2126, 2, 0x3C9⟩, ⟨0x212A, 0x212A, 2, 0x6B⟩,
    ⟨0x212B, 0x212B, 2, 0xE5⟩, ⟨0x2132, 0x2132, 2, 0x214E⟩, ⟨0x2160, 0x216F, 1, 0x2170⟩,
    ⟨0x2183, 0x2183, 2, 0x2184⟩, ⟨0x24B6, 0x24CF, 1, 0x24D0⟩, ⟨0x2C00, 0x2C2F, 1, 0x2C30⟩,
    ⟨0x2C60, 0x2C60, 2, 0x2C61⟩, ⟨0x2C62, 0x2C62, 2, 0x26B⟩, ⟨0x2C63, 0x2C63, 2, 0x1D7D⟩,
    ⟨0x2C64, 0x2C64, 2, 0x27D⟩, ⟨0x2C67, 0x2C6B, 2, 0x2C68⟩, ⟨0x2C6D, 0x2C6D, 2, 0x251⟩,
    ⟨0x2C6E, 0x2C6E, 2, 0x271⟩, ⟨0x2C6F, 0x2C6F, 2, 0x250⟩, ⟨0x2C70, 0x2C70, 2, 0x252⟩,
    ⟨0x2C72, 0x2C72, 2, 0x2C73⟩, ⟨0x2C75, 0x2C75, 2, 0x2C76⟩, ⟨0x2C7E, 0x2C7F, 1, 0x23F⟩,
    ⟨0x2C80, 0x2CE2, 2, 0x2C81⟩, ⟨0x2CEB, 0x2CED, 2, 0x2CEC⟩, ⟨0x2CF2, 0x2CF2, 2, 0x2CF3⟩,
    ⟨0xA640, 0xA66C, 2, 0xA641⟩, ⟨0xA680, 0xA69A, 2, 0xA681⟩, ⟨0xA722, 0xA72E, 2, 0xA723⟩,
    ⟨0xA732, 0xA76E, 2, 0xA733⟩, ⟨0xA779, 0xA77B, 2, 0xA77A⟩, ⟨0xA77D, 0xA77D, 2, 0x1D79⟩,
    ⟨0xA77E, 0xA786, 2, 0xA77F⟩, ⟨0xA78B, 0xA78B, 2, 0xA78C⟩, ⟨0xA78D, 0xA78D, 2, 0x265⟩,
    ⟨0xA790, 0xA792, 2, 0xA791⟩, ⟨0xA796, 0xA7A8, 2, 0xA797⟩, ⟨0xA7AA, 0xA7AA, 2, 0x266⟩,
    ⟨0xA7AB, 0xA7AB, 2, 0x25C⟩, ⟨0xA7AC, 0xA7AC, 2, 0x261⟩, ⟨0xA7AD, 0xA7AD, 2, 0x26C⟩,
    ⟨0xA7AE, 0xA7AE, 2, 0x26A⟩, ⟨0xA7B0, 0xA7B0, 2, 0x29E⟩, ⟨0xA7B1, 0xA7B1, 2, 0x287⟩,
    ⟨0xA7B2, 0xA7B2, 2, 0x29D⟩, ⟨0xA7B3, 0xA7B3, 2, 0xAB53⟩, ⟨0xA7B4, 0xA7C2, 2, 0xA7B5⟩,
    ⟨0xA7C4, 0xA7C4, 2, 0xA794⟩, ⟨0xA7C5, 0xA7C5, 2, 0x282⟩, ⟨0xA7C6, 0xA7C6, 2, 0x1D8E⟩,
    ⟨0xA7C7, 0xA7C9, 2, 0xA7C8⟩, ⟨0xA7D0, 0xA7D0, 2, 0xA7D1⟩, ⟨0xA7D6, 0xA7D8, 2, 0xA7D7⟩,
    ⟨0xA7F5, 0xA7F5, 2, 0xA7F6⟩, ⟨0xFF21, 0xFF3A, 1, 0xFF41⟩, ⟨0x10400, 0x10427, 1, 0x10428⟩,
    ⟨0x104B0, 0x104D3, 1, 0x104D8⟩, ⟨0x10570, 0x1057A, 1, 0x10597⟩,
    ⟨0x1057C, 0x1058A, 1, 0x105A3⟩, ⟨0x1058C, 0x10592, 1, 0x105B3⟩,
    ⟨0x10594, 0x10595, 1, 0x105BB⟩, ⟨0x10C80, 0x10CB2, 1, 0x10CC0⟩,
    ⟨0x118A0, 0x118BF, 1, 0x118C0⟩, ⟨0x16E40, 0x16E5F, 1, 0x16E60⟩,
    ⟨0x1E900, 0x1E921, 1, 0x1E922⟩]

/-- The one character with a lower case of two. -/
def dottedI : LowerRun := ⟨0x130, 0x130, 1, 0x69⟩

theorem eq_of_covers_dottedI {code : Nat} (covered : dottedI.covers code) : code = 0x130 := by
  simp only [LowerRun.covers, dottedI, Bool.and_eq_true, Nat.ble_eq] at covered
  omega

def unicodeLower (char : Char) : List Char :=
  if char.toNat = 0x130 then ['i', Char.ofNat 0x307]
  else
    match lowerRuns.find? fun run => run.covers char.toNat with
    | some run => [Char.ofNat (run.map char.toNat)]
    | none => [char]

/-- What the table is checked for: its lower case has none itself, and is a character that shows. -/
structure Settled (run : LowerRun) : Prop where
  valid : run.last < 0xD800 ∨ 0xE000 ≤ run.target ∧ run.last < 0x110000
  avoids : ∀ other ∈ dottedI :: lowerRuns, run.avoids other
  visible : ∀ range ∈ whiteSpace, run.last < range.1 ∨ range.2 < run.target

def settled (run : LowerRun) : Bool :=
  (run.last.blt 0xD800 || (Nat.ble 0xE000 run.target && run.last.blt 0x110000)) &&
    (dottedI :: lowerRuns).all run.avoids &&
    whiteSpace.all fun range => run.last.blt range.1 || range.2.blt run.target

theorem all_settled : lowerRuns.all settled = true := by decide +kernel

theorem settled_lowerRuns (run : LowerRun) (member : run ∈ lowerRuns) : Settled run := by
  have checked := List.all_eq_true.1 all_settled run member
  simp only [settled, Bool.and_eq_true, Bool.or_eq_true, Nat.blt_eq, Nat.ble_eq,
    List.all_eq_true] at checked
  exact ⟨checked.1.1, checked.1.2, checked.2⟩

theorem toNat_ofNat {code : Nat} (valid : code < 0xD800 ∨ 0xE000 ≤ code ∧ code < 0x110000) :
    (Char.ofNat code).toNat = code := by
  have isValid : code.isValidChar := by
    obtain below | ⟨above, below⟩ := valid
    · exact Or.inl below
    · exact Or.inr ⟨by omega, below⟩
  rw [Char.ofNat, dif_pos isValid]
  rfl

section Lowering
variable {run : LowerRun} {char : Char}

theorem toNat_map (settled : Settled run) (covered : run.covers char.toNat) :
    (Char.ofNat (run.map char.toNat)).toNat = run.map char.toNat := by
  have least := run.target_le_map char.toNat
  have most := LowerRun.map_le_last covered
  apply toNat_ofNat
  obtain below | ⟨above, below⟩ := settled.valid
  · exact Or.inl (by omega)
  · exact Or.inr ⟨by omega, by omega⟩

/-- A character of the first lower case, of a run, or without one. -/
theorem unicodeLower_cases (char : Char) :
    (char.toNat = 0x130 ∧ unicodeLower char = ['i', Char.ofNat 0x307]) ∨
    (∃ run ∈ lowerRuns, run.covers char.toNat ∧
      unicodeLower char = [Char.ofNat (run.map char.toNat)]) ∨
    (char.toNat ≠ 0x130 ∧ (∀ run ∈ lowerRuns, ¬ run.covers char.toNat) ∧
      unicodeLower char = [char]) := by
  by_cases dotted : char.toNat = 0x130
  · exact Or.inl ⟨dotted, by simp only [unicodeLower, dotted, if_true]⟩
  · cases found : lowerRuns.find? fun run => run.covers char.toNat with
    | some run =>
        have covered : run.covers char.toNat :=
          @List.find?_some _ (fun run : LowerRun => run.covers char.toNat) _ _ found
        refine Or.inr (Or.inl ⟨run, List.mem_of_find?_eq_some found, covered, ?_⟩)
        simp only [unicodeLower, dotted, if_false, found]
    | none =>
        refine Or.inr (Or.inr ⟨dotted, List.find?_eq_none.1 found, ?_⟩)
        simp only [unicodeLower, dotted, if_false, found]

theorem unicodeLower_of_uncovered (uncovered : ∀ run ∈ dottedI :: lowerRuns, ¬ run.covers char.toNat) :
    unicodeLower char = [char] := by
  obtain ⟨dotted, -⟩ | ⟨run, member, covered, -⟩ | ⟨-, -, same⟩ := unicodeLower_cases char
  · exact absurd (by rw [dotted]; decide) (uncovered dottedI List.mem_cons_self)
  · exact absurd covered (uncovered run (List.mem_cons_of_mem _ member))
  · exact same

theorem not_sigma (uncovered : ∀ run ∈ dottedI :: lowerRuns, ¬ run.covers char.toNat) :
    char ≠ 'Σ' := by
  rintro rfl
  have listed : (dottedI :: lowerRuns).any (·.covers 'Σ'.toNat) = true := by decide +kernel
  obtain ⟨run, member, covered⟩ := List.any_eq_true.1 listed
  exact uncovered run member covered

theorem unicodeLower_fixed (mapped : Char) (member : mapped ∈ unicodeLower char) :
    unicodeLower mapped = [mapped] ∧ mapped ≠ 'Σ' := by
  obtain ⟨-, lower⟩ | ⟨run, known, covered, lower⟩ | ⟨dotted, uncovered, lower⟩ :=
    unicodeLower_cases char
  · rw [lower] at member
    obtain rfl | rfl := List.mem_pair.1 member
    · decide +kernel
    · decide +kernel
  · rw [lower] at member
    have settled := settled_lowerRuns run known
    have uncovered : ∀ other ∈ dottedI :: lowerRuns, ¬ other.covers mapped.toNat := by
      intro other here
      rw [List.mem_singleton.1 member, toNat_map settled covered]
      exact LowerRun.not_covers_map (settled.avoids other here) covered
    exact ⟨unicodeLower_of_uncovered uncovered, not_sigma uncovered⟩
  · rw [lower] at member
    rw [List.mem_singleton.1 member]
    have nowhere : ∀ run ∈ dottedI :: lowerRuns, ¬ run.covers char.toNat := by
      intro run here
      obtain rfl | here := List.mem_cons.1 here
      · exact fun covered => dotted (eq_of_covers_dottedI covered)
      · exact uncovered run here
    exact ⟨lower, not_sigma nowhere⟩

theorem unicodeLower_visible (visible : isWhitespace char = false) (mapped : Char)
    (member : mapped ∈ unicodeLower char) : isWhitespace mapped = false := by
  obtain ⟨-, lower⟩ | ⟨run, known, covered, lower⟩ | ⟨-, -, lower⟩ := unicodeLower_cases char
  · rw [lower] at member
    obtain rfl | rfl := List.mem_pair.1 member
    · decide +kernel
    · decide +kernel
  · rw [lower] at member
    have settled := settled_lowerRuns run known
    have least := run.target_le_map char.toNat
    have most := LowerRun.map_le_last covered
    simp only [isWhitespace, List.any_eq_false, Bool.and_eq_true, decide_eq_true_eq]
    intro range space
    rw [List.mem_singleton.1 member, toNat_map settled covered]
    have apart := settled.visible range space
    omega
  · rw [lower] at member
    rw [List.mem_singleton.1 member]
    exact visible

end Lowering

theorem unicodeLower_ascii_codes :
    ∀ code < 0x80, unicodeLower (Char.ofNat code) = [(Char.ofNat code).toLower] := by
  decide +kernel

/-- Which characters are cased and which ignorable is left open. -/
def unicodeCase (cased caseIgnorable : Char → Bool) : CaseMapping where
  lower := unicodeLower
  cased
  caseIgnorable
  ascii char small := by
    have read := unicodeLower_ascii_codes char.toNat small
    rwa [Char.ofNat_toNat] at read
  nonempty char := by
    obtain ⟨-, lower⟩ | ⟨run, -, -, lower⟩ | ⟨-, -, lower⟩ := unicodeLower_cases char
    · rw [lower]; exact List.cons_ne_nil _ _
    · rw [lower]; exact List.cons_ne_nil _ _
    · rw [lower]; exact List.cons_ne_nil _ _
  fixed _ mapped member := unicodeLower_fixed mapped member
  sigma := by decide +kernel
  visible _ visible mapped member := unicodeLower_visible visible mapped member

end RustText
