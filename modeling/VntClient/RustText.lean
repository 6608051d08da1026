import Mathlib

/-!
The operations on text of Rust's standard library that parsers are written with, over
lists of characters: splitting, trimming, unsigned numbers and lower case. `CaseMapping` leaves
the version of the Unicode tables open and holds what every version of them promises.
-/

namespace RustText

section Splitting
variable {α : Type} [DecidableEq α]

/-- `str::split_once`: at the first occurrence. -/
def splitOnce (sep : List α) : List α → Option (List α × List α)
  | [] => if sep = [] then some ([], []) else none
  | first :: rest =>
      match (first :: rest).dropPrefix? sep with
      | some after => some ([], after)
      | none => (splitOnce sep rest).map (Prod.map (first :: ·) id)

/-- `str::rsplit_once` with a separator that does not overlap itself. -/
def rsplitOnce (sep text : List α) : Option (List α × List α) :=
  (splitOnce sep.reverse text.reverse).map fun parts => (parts.2.reverse, parts.1.reverse)

def splitn (sep : List α) : Nat → List α → List (List α)
  | 0, _ => []
  | 1, text => [text]
  | count + 2, text =>
      match splitOnce sep text with
      | some (first, rest) => first :: splitn sep (count + 1) rest
      | none => [text]

def contains (needle text : List α) : Bool := (splitOnce needle text).isSome

theorem splitOnce_append {head : α} {first : List α} (absent : head ∉ first) (sep rest : List α) :
    splitOnce (head :: sep) (first ++ head :: (sep ++ rest)) = some (first, rest) := by
  induction first with
  | nil =>
      have found : (head :: (sep ++ rest)).dropPrefix? (head :: sep) = some rest :=
        List.dropPrefix?_eq_some_iff.2 ⟨head :: sep, rfl, beq_self_eq_true _⟩
      simp only [List.nil_append, splitOnce, found]
  | cons next others ih =>
      obtain ⟨different, absent⟩ := List.ne_and_not_mem_of_not_mem_cons absent
      have skipped : (next :: (others ++ head :: (sep ++ rest))).dropPrefix? (head :: sep) = none := by
        simp [List.dropPrefix?, Ne.symm different]
      simp only [List.cons_append, splitOnce, skipped, ih absent]
      rfl

theorem rsplitOnce_append {sep : α} {last : List α} (absent : sep ∉ last) (first : List α) :
    rsplitOnce [sep] (first ++ sep :: last) = some (first, last) := by
  have split := splitOnce_append (fun member => absent (List.mem_reverse.1 member)) []
    first.reverse
  have turned : (first ++ sep :: last).reverse = last.reverse ++ sep :: ([] ++ first.reverse) := by
    simp
  rw [rsplitOnce, turned, List.reverse_singleton, split]
  simp

theorem splitn_append {sep : α} {first : List α} (absent : sep ∉ first) (count : Nat)
    (rest : List α) :
    splitn [sep] (count + 2) (first ++ sep :: rest) = first :: splitn [sep] (count + 1) rest := by
  have split := splitOnce_append absent [] rest
  rw [List.nil_append] at split
  simp only [splitn, split]

end Splitting

section Trimming
variable {α : Type} (space : α → Bool)

def trim (text : List α) : List α := (text.dropWhile space).rdropWhile space

variable {space}

theorem trim_eq_self {text : List α} (left : ∀ first ∈ text.head?, space first = false)
    (right : ∀ last ∈ text.getLast?, space last = false) : trim space text = text := by
  have begins : text.dropWhile space = text := by
    cases text with
    | nil => rfl
    | cons first rest => simp [left first rfl]
  rw [trim, begins, List.rdropWhile_eq_self_iff]
  intro some
  simp [right _ (List.getLast?_eq_some_getLast some)]

theorem trim_getLast {text : List α} : ∀ last ∈ (trim space text).getLast?, space last = false := by
  intro last found
  have nonempty : trim space text ≠ [] := List.ne_nil_of_mem (List.mem_of_getLast? found)
  have same : (trim space text).getLast nonempty = last :=
    Option.some.inj ((List.getLast?_eq_some_getLast nonempty).symm.trans found)
  have kept := List.rdropWhile_last_not space (text.dropWhile space) nonempty
  rw [← same]
  exact Bool.eq_false_iff.2 kept

end Trimming

inductive ParseIntError
  | empty
  | invalidDigit
  | posOverflow
deriving DecidableEq

def ParseIntError.display : ParseIntError → String
  | .empty => "cannot parse integer from empty string"
  | .invalidDigit => "invalid digit found in string"
  | .posOverflow => "number too large to fit in target type"

section Numbers
variable (bound : Nat)

def parseDigits : Nat → List Char → Except ParseIntError Nat
  | value, [] => .ok value
  | value, digit :: rest =>
      if digit.isDigit then
        let value := 10 * value + (digit.toNat - '0'.toNat)
        if value < bound then parseDigits value rest else .error .posOverflow
      else .error .invalidDigit

/-- `from_str` of an unsigned type with `bound` values. -/
def parseUnsigned : List Char → Except ParseIntError Nat
  | [] => .error .empty
  | ['+'] | ['-'] => .error .invalidDigit
  | '+' :: digits => parseDigits bound 0 digits
  | digits => parseDigits bound 0 digits

theorem le_ofDigitChars (digits : List Char) (value : Nat) :
    value ≤ Nat.ofDigitChars 10 digits value := by
  induction digits generalizing value with
  | nil => simp
  | cons digit rest ih =>
      rw [Nat.ofDigitChars_cons]
      have grows := ih (10 * value + (digit.toNat - '0'.toNat))
      omega

variable {bound}

theorem parseDigits_ofDigitChars {digits : List Char} (all : ∀ digit ∈ digits, digit.isDigit)
    {value : Nat} (fits : Nat.ofDigitChars 10 digits value < bound) :
    parseDigits bound value digits = .ok (Nat.ofDigitChars 10 digits value) := by
  induction digits generalizing value with
  | nil => simp [parseDigits]
  | cons digit rest ih =>
      have isDigit := all digit List.mem_cons_self
      have others := fun next member => all next (List.mem_cons_of_mem _ member)
      rw [Nat.ofDigitChars_cons] at fits ⊢
      have small := Nat.lt_of_le_of_lt (le_ofDigitChars rest _) fits
      simp only [parseDigits, isDigit, if_true, small, ih others fits]

theorem digits_of_parseDigits {digits : List Char} {start value : Nat}
    (read : parseDigits bound start digits = .ok value) :
    (∀ digit ∈ digits, digit.isDigit = true) ∧ value = Nat.ofDigitChars 10 digits start ∧
      (digits ≠ [] → value < bound) := by
  induction digits generalizing start with
  | nil =>
      cases read
      simp
  | cons digit rest ih =>
      rw [parseDigits] at read
      split at read
      · rename_i isDigit
        dsimp only at read
        split at read
        · rename_i small
          obtain ⟨others, same, fits⟩ := ih read
          refine ⟨List.forall_mem_cons.mpr ⟨isDigit, others⟩, ?_, fun _ => ?_⟩
          · rw [same, Nat.ofDigitChars_cons]
          · by_cases last : rest = []
            · subst last
              cases read
              exact small
            · exact fits last
        · cases read
      · cases read

/-- What is read as a number are its digits, perhaps behind a plus sign. -/
theorem digits_of_parseUnsigned {text : List Char} {value : Nat}
    (read : parseUnsigned bound text = .ok value) :
    ∃ digits, (text = digits ∨ text = '+' :: digits) ∧ digits ≠ [] ∧
      (∀ digit ∈ digits, digit.isDigit = true) ∧ value = Nat.ofDigitChars 10 digits 0 ∧
      value < bound := by
  unfold parseUnsigned at read
  split at read
  · cases read
  · cases read
  · cases read
  · rename_i digits single
    obtain ⟨all, same, fits⟩ := digits_of_parseDigits read
    have nonempty : digits ≠ [] := by
      rintro rfl
      exact single rfl
    exact ⟨digits, .inr rfl, nonempty, all, same, fits nonempty⟩
  · rename_i nonempty _ _ _
    obtain ⟨all, same, fits⟩ := digits_of_parseDigits read
    exact ⟨text, .inl rfl, nonempty, all, same, fits nonempty⟩

/-- A number without sign or leading zeros is read back. -/
theorem parseUnsigned_toDigits {value : Nat} (fits : value < bound) :
    parseUnsigned bound (Nat.toDigits 10 value) = .ok value := by
  have digits : ∀ digit ∈ Nat.toDigits 10 value, digit.isDigit := fun _ member =>
    Nat.isDigit_of_mem_toDigits (by decide) (by decide) member
  have small : Nat.ofDigitChars 10 (Nat.toDigits 10 value) 0 < bound := by
    rwa [Nat.ofDigitChars_ten_toDigits]
  have read := parseDigits_ofDigitChars digits small
  rw [Nat.ofDigitChars_ten_toDigits] at read
  rw [← read]
  cases shape : Nat.toDigits 10 value with
  | nil => exact absurd shape Nat.toDigits_ne_nil
  | cons digit rest =>
      have isDigit := digits digit (by simp [shape])
      have notPlus : digit ≠ '+' := by rintro rfl; exact absurd isDigit (by decide)
      have notMinus : digit ≠ '-' := by rintro rfl; exact absurd isDigit (by decide)
      unfold parseUnsigned
      split <;> simp_all

end Numbers

/-- Unicode's `White_Space`, from and to. -/
def whiteSpace : List (Nat × Nat) :=
  [(0x9, 0xD), (0x20, 0x20), (0x85, 0x85), (0xA0, 0xA0), (0x1680, 0x1680), (0x2000, 0x200A),
    (0x2028, 0x2029), (0x202F, 0x202F), (0x205F, 0x205F), (0x3000, 0x3000)]

def isWhitespace (char : Char) : Bool :=
  whiteSpace.any fun range => range.1 ≤ char.toNat && char.toNat ≤ range.2

/-- The Unicode tables behind `str::to_lowercase`, in whichever version. -/
structure CaseMapping where
  lower : Char → List Char
  cased : Char → Bool
  caseIgnorable : Char → Bool
  ascii : ∀ char, char.toNat < 0x80 → lower char = [char.toLower]
  nonempty : ∀ char, lower char ≠ []
  fixed : ∀ char, ∀ mapped ∈ lower char, lower mapped = [mapped] ∧ mapped ≠ 'Σ'
  sigma : lower 'Σ' = ['σ'] ∧ lower 'ς' = ['ς']
  visible : ∀ char, isWhitespace char = false → ∀ mapped ∈ lower char, isWhitespace mapped = false

namespace CaseMapping
variable (mapping : CaseMapping)

def caseIgnorableThenCased (text : List Char) : Bool :=
  ((text.dropWhile mapping.caseIgnorable).head?.map mapping.cased).getD false

/-- `before` is in reverse. -/
def mapUppercaseSigma (before rest : List Char) : Char :=
  if mapping.caseIgnorableThenCased before && !mapping.caseIgnorableThenCased rest then 'ς' else 'σ'

def lowerAt (before : List Char) (char : Char) (rest : List Char) : List Char :=
  if char = 'Σ' then [mapping.mapUppercaseSigma before rest] else mapping.lower char

def toLowercaseFrom (before : List Char) : List Char → List Char
  | [] => []
  | char :: rest => mapping.lowerAt before char rest ++ toLowercaseFrom (char :: before) rest

/-- `str::to_lowercase`: the one character that depends on its surroundings is the final sigma. -/
def toLowercase (text : List Char) : List Char := mapping.toLowercaseFrom [] text

/-- The characters that `toLowercase` leaves as they are. -/
def Fixed (char : Char) : Prop := mapping.lower char = [char] ∧ char ≠ 'Σ'

variable {mapping}

theorem fixed_sigma (before rest : List Char) :
    mapping.Fixed (mapping.mapUppercaseSigma before rest) := by
  have small : 'σ' ∈ mapping.lower 'Σ' := by simp [mapping.sigma.1]
  rw [mapUppercaseSigma]
  split
  · exact ⟨mapping.sigma.2, by decide⟩
  · exact mapping.fixed 'Σ' 'σ' small

theorem fixed_lowerAt {before rest : List Char} {char mapped : Char}
    (member : mapped ∈ mapping.lowerAt before char rest) : mapping.Fixed mapped := by
  rw [lowerAt] at member
  split at member
  · rw [List.mem_singleton.1 member]
    exact fixed_sigma before rest
  · exact mapping.fixed char mapped member

theorem fixed_toLowercase {text : List Char} :
    ∀ mapped ∈ mapping.toLowercase text, mapping.Fixed mapped := by
  rw [toLowercase]
  generalize ([] : List Char) = before
  induction text generalizing before with
  | nil => simp [toLowercaseFrom]
  | cons char rest ih =>
      intro mapped member
      rcases List.mem_append.1 member with here | later
      · exact fixed_lowerAt here
      · exact ih _ mapped later

theorem toLowercase_eq_self {text : List Char} (fixed : ∀ char ∈ text, mapping.Fixed char) :
    mapping.toLowercase text = text := by
  rw [toLowercase]
  generalize ([] : List Char) = before
  induction text generalizing before with
  | nil => rfl
  | cons char rest ih =>
      obtain ⟨same, notSigma⟩ := fixed char List.mem_cons_self
      have others := ih (fun next member => fixed next (List.mem_cons_of_mem _ member))
      rw [toLowercaseFrom, lowerAt, if_neg notSigma, same, others]
      rfl

theorem lowerAt_ne_nil (before : List Char) (char : Char) (rest : List Char) :
    mapping.lowerAt before char rest ≠ [] := by
  rw [lowerAt]
  split
  · exact List.cons_ne_nil _ _
  · exact mapping.nonempty char

theorem visible_lowerAt {before rest : List Char} {char : Char} (visible : isWhitespace char = false) :
    ∀ mapped ∈ mapping.lowerAt before char rest, isWhitespace mapped = false := by
  intro mapped member
  rw [lowerAt] at member
  split at member
  · rw [List.mem_singleton.1 member, mapUppercaseSigma]
    split
    · decide
    · decide
  · exact mapping.visible char visible mapped member

theorem toLowercase_getLast {text : List Char}
    (visible : ∀ last ∈ text.getLast?, isWhitespace last = false) :
    ∀ last ∈ (mapping.toLowercase text).getLast?, isWhitespace last = false := by
  rw [toLowercase]
  generalize ([] : List Char) = before
  induction text generalizing before with
  | nil => simp [toLowercaseFrom]
  | cons char rest ih =>
      intro last found
      rw [toLowercaseFrom, List.getLast?_append] at found
      cases ends : (mapping.toLowercaseFrom (char :: before) rest).getLast? with
      | some other =>
          rw [ends] at found
          cases rest with
          | nil => simp [toLowercaseFrom] at ends
          | cons next others =>
              rw [List.getLast?_cons_cons] at visible
              exact ih visible (char :: before) last (ends.trans found)
      | none =>
          rw [ends] at found
          cases rest with
          | nil => exact visible_lowerAt (visible char rfl) last (List.mem_of_getLast? found)
          | cons next others =>
              rw [List.getLast?_eq_none_iff, toLowercaseFrom] at ends
              exact absurd (List.append_eq_nil_iff.1 ends).1 (lowerAt_ne_nil _ _ _)

theorem fixed_ascii {char : Char} (ascii : char.toNat < 0x80) (lower : char.toLower = char) :
    mapping.Fixed char := by
  refine ⟨by rw [mapping.ascii char ascii, lower], ?_⟩
  rintro rfl
  exact absurd ascii (by decide)

end CaseMapping

end RustText
