import Mathlib

/-!
The part of TOML that flat configuration files are written in: a line for each bare key, whose
value is a basic string, a decimal integer, a boolean or an array of these. The reader scans
tokens first and then follows what may come next. It tells a text that is no TOML from one
that uses a form of TOML left out here.
-/

namespace Toml

inductive Scalar where
  | string (text : String)
  | integer (value : Int)
  | boolean (value : Bool)
deriving DecidableEq

inductive Value where
  | scalar (value : Scalar)
  | array (items : List Scalar)
deriving DecidableEq

abbrev Document := List (String × Value)

inductive Fault where
  | malformed
  -- multi-line and literal strings, tables, nested arrays, quoted and dotted keys,
  -- numbers that are not decimal integers, dates
  | beyond
deriving DecidableEq

inductive Token where
  | atom (text : List Char)
  | string (text : List Char)
  | equals
  | comma
  | openSquare
  | closeSquare
  | newline
deriving DecidableEq

/-- The control characters without the tab: a basic string or a comment holds none of them. -/
def control (char : Char) : Bool := (char.toNat < 0x20 && char ≠ '\t') || char.toNat = 0x7F

def special : List Char := [' ', '\t', '=', ',', '[', ']', '#', '"', '.', '{', '}', '\'']

def punctuation : List (Char × List Token) :=
  [(' ', []), ('\t', []), ('\n', [.newline]), ('=', [.equals]), (',', [.comma]),
   ('[', [.openSquare]), (']', [.closeSquare])]

def bareChar (char : Char) : Bool := !control char && !special.contains char

def escapes : List (Char × Char) :=
  [('b', '\x08'), ('t', '\t'), ('n', '\n'), ('f', '\x0c'), ('r', '\r'), ('e', '\x1b'), ('"', '"'),
   ('\\', '\\')]

/-- How many hexadecimal digits follow. -/
def escapeDigits : Char → Option Nat
  | 'x' => some 2
  | 'u' => some 4
  | 'U' => some 8
  | _ => none

def hexDigit (char : Char) : Option Nat :=
  if char.isDigit then some (char.toNat - '0'.toNat)
  else if 'a' ≤ char ∧ char ≤ 'f' then some (char.toNat - 'a'.toNat + 10)
  else if 'A' ≤ char ∧ char ≤ 'F' then some (char.toNat - 'A'.toNat + 10)
  else none

/-- Where the scan is, with what it has read of an atom or a string. -/
inductive Mode where
  | bare (read : List Char)
  | comment
  | string (read : List Char)
  | escape (read : List Char)
  | codePoint (read : List Char) (digits value : Nat)

def flush (read : List Char) : List Token := if read = [] then [] else [.atom read]

def emit (tokens : List Token) : Except Fault (List Token) → Except Fault (List Token) :=
  Except.map (tokens ++ ·)

def lex : Mode → List Char → Except Fault (List Token)
  | .bare read, [] => .ok (flush read)
  | .comment, [] => .ok []
  | _, [] => .error .malformed
  | .bare read, char :: rest =>
      if bareChar char then lex (.bare (read ++ [char])) rest
      else if char = '"' then
        -- three quotes open a multi-line string
        if rest.take 2 = ['"', '"'] then .error .beyond
        else emit (flush read) (lex (.string []) rest)
      else if char = '#' then emit (flush read) (lex .comment rest)
      else if char = '\r' then
        if rest.head? = some '\n' then emit (flush read) (lex (.bare []) rest)
        else .error .malformed
      else
        match List.lookup char punctuation with
        | some tokens => emit (flush read ++ tokens) (lex (.bare []) rest)
        | none => if control char then .error .malformed else .error .beyond
  | .comment, char :: rest =>
      if char = '\n' then emit [.newline] (lex (.bare []) rest)
      else if control char && !(char = '\r' && rest.head? = some '\n') then .error .malformed
      else lex .comment rest
  | .string read, char :: rest =>
      if char = '"' then emit [.string read] (lex (.bare []) rest)
      else if char = '\\' then lex (.escape read) rest
      else if control char then .error .malformed
      else lex (.string (read ++ [char])) rest
  | .escape read, char :: rest =>
      match escapeDigits char, List.lookup char escapes with
      | some digits, _ => lex (.codePoint read digits 0) rest
      | none, some meant => lex (.string (read ++ [meant])) rest
      | none, none => .error .malformed
  | .codePoint read digits value, char :: rest =>
      match hexDigit char with
      | none => .error .malformed
      | some digit =>
          if 1 < digits then lex (.codePoint read (digits - 1) (16 * value + digit)) rest
          else if (16 * value + digit).isValidChar then
            lex (.string (read ++ [Char.ofNat (16 * value + digit)])) rest
          else .error .malformed

/-- Digits with single underscores between them, and no zero in front of others. -/
def decimal (text : List Char) : Except Fault Nat :=
  if text.all fun char => char.isDigit || char = '_' then
    let groups := text.splitOn '_'
    if groups.all (· ≠ []) && (text.head? ≠ some '0' || text.length = 1) then
      .ok (Nat.ofDigitChars 10 groups.flatten 0)
    else .error .malformed
  else .error .beyond

def integer : List Char → Except Fault Int
  | '-' :: digits => (decimal digits).map fun value => -value
  | '+' :: digits => (decimal digits).map Int.ofNat
  | digits => (decimal digits).map Int.ofNat

def atom (text : List Char) : Except Fault Scalar :=
  if text = "true".toList then .ok (.boolean true)
  else if text = "false".toList then .ok (.boolean false)
  else (integer text).map .integer

def Token.scalar : Token → Except Fault Scalar
  | .atom text => Toml.atom text
  | .string text => .ok (.string (String.ofList text))
  -- an array in an array
  | openSquare => .error .beyond
  | _ => .error .malformed

def keyChar (char : Char) : Bool := char.isAlphanum || char = '_' || char = '-'

inductive Expecting where
  | key
  | equals (key : String)
  | value (key : String)
  | item (key : String) (items : List Scalar)
  | separator (key : String) (items : List Scalar)
  | lineEnd

abbrev State := Document × Expecting

def step : State → Token → Except Fault State
  | (document, .key), token =>
      match token with
      | .newline => .ok (document, .key)
      | .atom text =>
          if text.all keyChar && !(document.map Prod.fst).contains (String.ofList text) then
            .ok (document, .equals (String.ofList text))
          else .error .malformed
      | .string _ | .openSquare => .error .beyond
      | _ => .error .malformed
  | (document, .equals key), token =>
      if token = .equals then .ok (document, .value key) else .error .malformed
  | (document, .value key), token =>
      if token = .openSquare then .ok (document, .item key [])
      else token.scalar.map fun found => (document ++ [(key, .scalar found)], .lineEnd)
  | (document, .item key items), token =>
      match token with
      | .newline => .ok (document, .item key items)
      | .closeSquare => .ok (document ++ [(key, .array items)], .lineEnd)
      | token => token.scalar.map fun found => (document, .separator key (items ++ [found]))
  | (document, .separator key items), token =>
      match token with
      | .newline => .ok (document, .separator key items)
      | .closeSquare => .ok (document ++ [(key, .array items)], .lineEnd)
      | .comma => .ok (document, .item key items)
      | _ => .error .malformed
  | (document, .lineEnd), token =>
      if token = .newline then .ok (document, .key) else .error .malformed

def finish : State → Except Fault Document
  | (document, .key) | (document, .lineEnd) => .ok document
  | _ => .error .malformed

def parse (text : List Char) : Except Fault Document := do
  let tokens ← lex (.bare []) text
  let state ← tokens.foldlM step ([], .key)
  finish state

/-! ### Numbers and booleans -/

def leadingZero (digits : List Char) : Bool := digits.head? = some '0' && digits.length ≠ 1

theorem decimal_digits {digits : List Char} (nonempty : digits ≠ [])
    (all : ∀ digit ∈ digits, digit.isDigit = true) :
    decimal digits =
      if leadingZero digits then .error .malformed else .ok (Nat.ofDigitChars 10 digits 0) := by
  have group : digits.splitOn '_' = [digits] := by
    apply List.splitOn_eq_singleton
    intro member
    exact absurd (all _ member) (by decide)
  have allowed : (digits.all fun char => char.isDigit || char = '_') = true := by
    rw [List.all_eq_true]
    intro digit member
    rw [all digit member, Bool.true_or]
  unfold decimal
  rw [if_pos allowed, group]
  by_cases zero : digits.head? = some '0' <;> by_cases single : digits.length = 1 <;>
    simp [leadingZero, zero, single, nonempty]

theorem toDigits_head {number : Nat} (positive : 0 < number) :
    (Nat.toDigits 10 number).head? ≠ some '0' := by
  induction number using Nat.strongRecOn with
  | ind number ih =>
      rw [Nat.toDigits_eq_if (by decide)]
      split
      · rename_i small
        interval_cases number <;> decide
      · have front := ih (number / 10) (by omega) (by omega)
        rw [List.head?_append]
        cases shape : (Nat.toDigits 10 (number / 10)).head? with
        | none => simp at shape
        | some digit =>
            rw [shape] at front
            exact front

theorem isDigit_toDigits (number : Nat) : ∀ digit ∈ Nat.toDigits 10 number, digit.isDigit = true :=
  fun _ member => Nat.isDigit_of_mem_toDigits (by decide) (by decide) member

theorem decimal_toDigits (number : Nat) : decimal (Nat.toDigits 10 number) = .ok number := by
  have front : leadingZero (Nat.toDigits 10 number) = false := by
    rcases Nat.eq_zero_or_pos number with rfl | positive
    · rfl
    · rw [leadingZero, decide_eq_false (toDigits_head positive), Bool.false_and]
  rw [decimal_digits Nat.toDigits_ne_nil (isDigit_toDigits number)]
  rw [front, if_neg Bool.false_ne_true, Nat.ofDigitChars_ten_toDigits]

theorem atom_eq_integer {text : List Char} (decided : integer text ≠ .error .beyond) :
    atom text = (integer text).map .integer := by
  rw [atom, if_neg, if_neg]
  · rintro rfl
    exact decided (by decide)
  · rintro rfl
    exact decided (by decide)

theorem integer_digits {digits : List Char} (nonempty : digits ≠ [])
    (all : ∀ digit ∈ digits, digit.isDigit = true) :
    integer digits = (decimal digits).map Int.ofNat := by
  cases digits with
  | nil => exact absurd rfl nonempty
  | cons digit rest =>
      have isDigit := all digit List.mem_cons_self
      have notPlus : digit ≠ '+' := by rintro rfl; exact absurd isDigit (by decide)
      have notMinus : digit ≠ '-' := by rintro rfl; exact absurd isDigit (by decide)
      unfold integer
      split <;> simp_all

theorem integer_toString (value : Int) : integer (toString value).toList = .ok value := by
  cases value with
  | ofNat number =>
      have text : (toString (Int.ofNat number)).toList = Nat.toDigits 10 number := Nat.toList_repr
      rw [text, integer_digits Nat.toDigits_ne_nil (isDigit_toDigits number), decimal_toDigits]
      rfl
  | negSucc number =>
      have text : (toString (Int.negSucc number)).toList = '-' :: Nat.toDigits 10 (number + 1) := by
        rw [← Nat.toList_repr]
        exact String.toList_append
      rw [text, integer, decimal_toDigits]
      rfl

theorem atom_toString_int (value : Int) : atom (toString value).toList = .ok (.integer value) := by
  have read := integer_toString value
  rw [atom_eq_integer (by rw [read]; nofun), read]
  rfl

theorem atom_toString_bool (value : Bool) : atom (toString value).toList = .ok (.boolean value) := by
  cases value with
  | false => rfl
  | true => rfl

/-! ### What a scan makes of texts as they are written -/

@[simp] theorem emit_error (tokens : List Token) (fault : Fault) :
    emit tokens (.error fault) = .error fault := rfl

@[simp] theorem emit_emit (first second : List Token) (rest : Except Fault (List Token)) :
    emit first (emit second rest) = emit (first ++ second) rest := by
  cases rest with
  | error fault => rfl
  | ok tokens => simp [emit, Except.map]

@[simp] theorem emit_nil (rest : Except Fault (List Token)) : emit [] rest = rest := by
  cases rest <;> rfl

theorem lex_bare {text : List Char} (bare : ∀ char ∈ text, bareChar char = true)
    (read rest : List Char) : lex (.bare read) (text ++ rest) = lex (.bare (read ++ text)) rest := by
  induction text generalizing read with
  | nil => rw [List.nil_append, List.append_nil]
  | cons char text ih =>
      have first := bare char List.mem_cons_self
      have others := fun next member => bare next (List.mem_cons_of_mem _ member)
      rw [List.cons_append, lex, if_pos first, ih others, List.append_assoc]
      rfl

/-- A writer's escapes: a backslash in front of backslashes and quotes, and no other. -/
def escapeChar (char : Char) : List Char :=
  if char = '\\' ∨ char = '"' then ['\\', char] else [char]

def escaped (text : List Char) : List Char := text.flatMap escapeChar

/-- What is escaped stands for itself. -/
theorem lex_escapeChar {char : Char} (escapes : char = '\\' ∨ char = '"') (read rest : List Char) :
    lex (.string read) (escapeChar char ++ rest) = lex (.string (read ++ [char])) rest := by
  rw [escapeChar, if_pos escapes]
  obtain rfl | rfl := escapes
  · rfl
  · rfl

theorem lex_plainChar {char : Char} (plain : ¬(char = '\\' ∨ char = '"')) (read rest : List Char) :
    lex (.string read) (escapeChar char ++ rest) =
      if control char then .error .malformed else lex (.string (read ++ [char])) rest := by
  rw [escapeChar, if_neg plain]
  rw [not_or] at plain
  rw [List.singleton_append, lex, if_neg plain.2, if_neg plain.1]

def visible (text : List Char) : Bool := text.all (!control ·)

/-- Up to its closing quote such a text is read as it was before, unless a control
character stands in it. -/
theorem lex_escaped (text read rest : List Char) :
    lex (.string read) (escaped text ++ '"' :: rest) =
      if visible text then emit [.string (read ++ text)] (lex (.bare []) rest)
      else .error .malformed := by
  induction text generalizing read with
  | nil =>
      rw [List.append_nil]
      rfl
  | cons char text ih =>
      rw [escaped, List.flatMap_cons, List.append_assoc, ← escaped]
      by_cases escapes : char = '\\' ∨ char = '"'
      · have allowed : visible (char :: text) = visible text := by
          obtain rfl | rfl := escapes <;> rfl
        rw [lex_escapeChar escapes, ih, allowed, List.append_assoc]
        rfl
      · have first : visible (char :: text) = (!control char && visible text) := rfl
        rw [lex_plainChar escapes, ih, first, List.append_assoc]
        cases control char <;> rfl

def quote (text : List Char) : List Char := '"' :: escaped text ++ ['"']

theorem escaped_take {text rest : List Char} (follows : rest.head? ≠ some '"') :
    (escaped text ++ '"' :: rest).take 2 ≠ ['"', '"'] := by
  cases text with
  | nil =>
      cases rest with
      | nil => simp [escaped]
      | cons next rest => simpa [escaped] using follows
  | cons char text =>
      unfold escaped
      rw [List.flatMap_cons, escapeChar]
      split
      · simp
      · rename_i plain
        simp only [not_or] at plain
        simp [plain.2]

theorem lex_quote (read text : List Char) {rest : List Char} (follows : rest.head? ≠ some '"') :
    lex (.bare read) (quote text ++ rest) =
      if visible text then emit (flush read ++ [.string text]) (lex (.bare []) rest)
      else .error .malformed := by
  have opened : bareChar '"' = false := by decide
  have body : quote text ++ rest = '"' :: (escaped text ++ '"' :: rest) := by simp [quote]
  rw [body, lex, opened]
  rw [if_neg Bool.false_ne_true, if_pos rfl, if_neg (escaped_take follows), lex_escaped,
    List.nil_append]
  cases visible text with
  | true => exact emit_emit _ _ _
  | false => rfl

theorem lex_punctuation {char : Char} (tokens : List Token)
    (listed : (char, tokens) ∈ punctuation) (read rest : List Char) :
    lex (.bare read) (char :: rest) = emit (flush read ++ tokens) (lex (.bare []) rest) := by
  simp only [punctuation, List.mem_cons, Prod.mk.injEq, List.not_mem_nil, or_false] at listed
  rcases listed with ⟨rfl, rfl⟩ | ⟨rfl, rfl⟩ | ⟨rfl, rfl⟩ | ⟨rfl, rfl⟩ | ⟨rfl, rfl⟩ | ⟨rfl, rfl⟩ |
    ⟨rfl, rfl⟩ <;> rfl

def items (texts : List String) : List Char :=
  [',', ' '].intercalate (texts.map fun text => quote text.toList)

def itemTokens (texts : List String) : List Token :=
  (texts.map fun text => Token.string text.toList).intersperse .comma

theorem lex_items (texts : List String) (rest : List Char) :
    lex (.bare []) (items texts ++ ']' :: rest) =
      if texts.all (visible ·.toList) then emit (itemTokens texts) (lex (.bare []) (']' :: rest))
      else .error .malformed := by
  induction texts with
  | nil => exact (emit_nil _).symm
  | cons text texts ih =>
      cases texts with
      | nil =>
          rw [items, List.map_singleton, List.intercalate_singleton, lex_quote _ _ (by simp),
            List.all_cons, List.all_nil, Bool.and_true]
          rfl
      | cons next texts =>
          have split : items (text :: next :: texts) ++ ']' :: rest =
              quote text.toList ++ ',' :: ' ' :: (items (next :: texts) ++ ']' :: rest) := by
            simp [items]
          have first : (text :: next :: texts).all (visible ·.toList) =
              (visible text.toList && (next :: texts).all (visible ·.toList)) := rfl
          rw [split, lex_quote _ _ (by simp), lex_punctuation [.comma] (by decide),
            lex_punctuation [] (by decide), ih, first]
          cases visible text.toList with
          | false => rfl
          | true =>
              cases (next :: texts).all (visible ·.toList) with
              | false => rfl
              | true =>
                  simp only [if_true, Bool.true_and, emit_emit]
                  rfl

/-- A value as a writer sets it down; an atom is a number or a boolean. -/
inductive Written where
  | string (text : String)
  | strings (texts : List String)
  | atom (text : String)

namespace Written

def text : Written → List Char
  | string text => quote text.toList
  | strings texts => '[' :: items texts ++ [']']
  | atom text => text.toList

def tokens : Written → List Token
  | string text => [.string text.toList]
  | strings texts => .openSquare :: itemTokens texts ++ [.closeSquare]
  | atom text => [.atom text.toList]

def readable : Written → Bool
  | string text => visible text.toList
  | strings texts => texts.all (visible ·.toList)
  | atom _ => true

def Bare : Written → Prop
  | atom text => text.toList ≠ [] ∧ ∀ char ∈ text.toList, bareChar char = true
  | _ => True

theorem lex_text {written : Written} (bare : written.Bare) (rest : List Char) :
    lex (.bare []) (written.text ++ '\n' :: rest) =
      if written.readable then emit (written.tokens ++ [.newline]) (lex (.bare []) rest)
      else .error .malformed := by
  cases written with
  | string text =>
      rw [Written.text, lex_quote _ _ (by simp), lex_punctuation [.newline] (by decide), readable]
      cases visible text.toList with
      | true => exact emit_emit _ _ _
      | false => rfl
  | strings texts =>
      have split : (strings texts).text ++ '\n' :: rest = '[' :: (items texts ++ ']' :: '\n' :: rest) := by
        simp [Written.text]
      rw [split, lex_punctuation [.openSquare] (by decide), lex_items,
        lex_punctuation [.closeSquare] (by decide),
        lex_punctuation [.newline] (by decide), readable]
      cases texts.all (visible ·.toList) with
      | false => rfl
      | true =>
          simp [tokens, flush]
  | atom text =>
      obtain ⟨nonempty, bare⟩ := bare
      rw [Written.text, lex_bare bare, List.nil_append,
        lex_punctuation [.newline] (by decide), flush, if_neg nonempty]
      rfl

def value : Written → Except Fault Value
  | string text =>
      if visible text.toList then .ok (.scalar (.string text)) else .error .malformed
  | strings texts =>
      if texts.all (visible ·.toList) then .ok (.array (texts.map .string)) else .error .malformed
  | atom text => (Toml.atom text.toList).map .scalar

theorem value_of_not_readable {written : Written} (hidden : written.readable = false) :
    written.value = .error .malformed := by
  cases written with
  | string text => simp_all [readable, value]
  | strings texts => exact if_neg (Bool.eq_false_iff.mp hidden)
  | atom text => cases hidden

end Written

abbrev Line := String × Written

namespace Line
variable (line : Line)

def text : List Char := line.1.toList ++ ' ' :: '=' :: ' ' :: (line.2.text ++ ['\n'])

def tokens : List Token := .atom line.1.toList :: .equals :: (line.2.tokens ++ [.newline])

def entry : Except Fault (String × Value) := line.2.value.map (line.1, ·)

variable {line} in
theorem entry_key {entry : String × Value} (read : line.entry = .ok entry) : entry.1 = line.1 := by
  rw [Line.entry] at read
  cases found : line.2.value with
  | error fault =>
      rw [found] at read
      cases read
  | ok value =>
      rw [found] at read
      cases read
      rfl

structure Bare : Prop where
  named : line.1.toList ≠ []
  key : ∀ char ∈ line.1.toList, keyChar char = true
  value : line.2.Bare

end Line

theorem not_control_of_keyChar {char : Char} (key : keyChar char = true) : control char = false := by
  have small : 0x2D ≤ char.toNat ∧ char.toNat < 0x7F := by
    simp only [keyChar, Char.isAlphanum, Char.isAlpha, Char.isUpper, Char.isLower, Char.isDigit,
      Bool.or_eq_true, Bool.and_eq_true, decide_eq_true_eq, UInt32.le_iff_toNat_le,
      Char.reduceVal, UInt32.reduceToNat] at key
    rw [Char.toNat]
    rcases key with ((letter | digit) | rfl) | rfl
    · omega
    · omega
    · decide
    · decide
  simp only [control, Bool.or_eq_false_iff, Bool.and_eq_false_iff, decide_eq_false_iff_not]
  omega

theorem bareChar_of_keyChar {char : Char} (key : keyChar char = true) : bareChar char = true := by
  have others : special.all (!keyChar ·) = true := by decide
  have plain : special.contains char = false := by
    rw [← Bool.not_eq_true, List.contains_iff_mem]
    intro member
    have other := List.all_eq_true.mp others char member
    rw [key] at other
    cases other
  rw [bareChar, not_control_of_keyChar key, plain]
  rfl

theorem lex_line {line : Line} (bare : line.Bare) (rest : List Char) :
    lex (.bare []) (line.text ++ rest) =
      if line.2.readable then emit line.tokens (lex (.bare []) rest) else .error .malformed := by
  have key := fun char member => bareChar_of_keyChar (bare.key char member)
  have split : line.text ++ rest =
      line.1.toList ++ ' ' :: '=' :: ' ' :: (line.2.text ++ '\n' :: rest) := by
    simp [Line.text]
  rw [split, lex_bare key, List.nil_append, lex_punctuation [] (by decide),
    lex_punctuation [.equals] (by decide), lex_punctuation [] (by decide), Written.lex_text bare.value]
  cases line.2.readable with
  | false => rfl
  | true =>
      simp only [if_true, emit_emit, flush, if_neg bare.named]
      rfl

theorem lex_lines {lines : List Line} (bare : ∀ line ∈ lines, line.Bare) :
    lex (.bare []) (lines.flatMap Line.text) =
      if lines.all (·.2.readable) then .ok (lines.flatMap Line.tokens) else .error .malformed := by
  induction lines with
  | nil => rfl
  | cons line lines ih =>
      have others := fun next member => bare next (List.mem_cons_of_mem _ member)
      rw [List.flatMap_cons, lex_line (bare line List.mem_cons_self), ih others, List.all_cons]
      cases line.2.readable with
      | false => rfl
      | true => cases lines.all (·.2.readable) <;> rfl

/-! ### What the reader makes of the tokens -/

theorem foldlM_itemTokens (texts : List String) (document : Document) (key : String)
    (found : List Scalar) :
    (itemTokens texts ++ [Token.closeSquare]).foldlM step (document, Expecting.item key found) =
      .ok (document ++ [(key, Value.array (found ++ texts.map .string))], Expecting.lineEnd) := by
  induction texts generalizing found with
  | nil =>
      rw [List.map_nil, List.append_nil]
      rfl
  | cons text texts ih =>
      have first : step (document, .item key found) (.string text.toList) =
          .ok (document, .separator key (found ++ [.string text])) := by
        simp [step, Token.scalar, Except.map]
      cases texts with
      | nil =>
          rw [itemTokens, List.map_singleton, List.intersperse_singleton, List.singleton_append,
            List.foldlM_cons, first]
          rfl
      | cons next texts =>
          have split : itemTokens (text :: next :: texts) =
              .string text.toList :: .comma :: itemTokens (next :: texts) := rfl
          rw [split, List.cons_append, List.foldlM_cons, first]
          have later := ih (found ++ [.string text])
          rw [List.append_assoc] at later
          exact later

theorem foldlM_written {written : Written} (readable : written.readable = true)
    (document : Document) (key : String) :
    (written.tokens ++ [Token.newline]).foldlM step (document, Expecting.value key) =
      written.value.map fun found => (document ++ [(key, found)], Expecting.key) := by
  cases written with
  | string text =>
      have shown : visible text.toList = true := readable
      have read : step (document, .value key) (.string text.toList) =
          .ok (document ++ [(key, .scalar (.string text))], .lineEnd) := by
        simp [step, Token.scalar, Except.map]
      rw [Written.value, if_pos shown, Written.tokens, List.singleton_append, List.foldlM_cons, read]
      rfl
  | strings texts =>
      have shown : texts.all (visible ·.toList) = true := readable
      have opened : step (document, .value key) .openSquare = .ok (document, .item key []) := rfl
      have read := foldlM_itemTokens texts document key []
      rw [Written.value, if_pos shown, Written.tokens, List.cons_append, List.cons_append,
        List.foldlM_cons, opened]
      change (itemTokens texts ++ [Token.closeSquare] ++ [Token.newline]).foldlM step
        (document, Expecting.item key []) = _
      rw [List.foldlM_append, read]
      rfl
  | atom text =>
      have read : step (document, .value key) (.atom text.toList) =
          (Toml.atom text.toList).map
            fun found => (document ++ [(key, .scalar found)], Expecting.lineEnd) := rfl
      rw [Written.value, Written.tokens, List.singleton_append, List.foldlM_cons, read]
      cases Toml.atom text.toList <;> rfl

theorem foldlM_line {line : Line} (bare : line.Bare) (readable : line.2.readable = true)
    {document : Document} (fresh : line.1 ∉ document.map Prod.fst) :
    line.tokens.foldlM step (document, Expecting.key) =
      line.entry.map fun entry => (document ++ [entry], Expecting.key) := by
  have named : step (document, .key) (.atom line.1.toList) = .ok (document, .equals line.1) := by
    have key : line.1.toList.all keyChar = true := List.all_eq_true.mpr bare.key
    have unused : (document.map Prod.fst).contains line.1 = false := by
      rw [← Bool.not_eq_true, List.contains_iff_mem]
      exact fresh
    simp only [step, key, String.ofList_toList, unused]
    rfl
  rw [Line.tokens, List.foldlM_cons, named]
  change (line.2.tokens ++ [Token.newline]).foldlM step (document, Expecting.value line.1) = _
  rw [foldlM_written readable, Line.entry]
  cases line.2.value <;> rfl

theorem foldlM_lines {lines : List Line} (bare : ∀ line ∈ lines, line.Bare)
    (readable : ∀ line ∈ lines, line.2.readable = true) (document : Document)
    (distinct : (document.map Prod.fst ++ lines.map Prod.fst).Nodup) :
    (lines.flatMap Line.tokens).foldlM step (document, Expecting.key) =
      (lines.mapM Line.entry).map fun entries => (document ++ entries, Expecting.key) := by
  induction lines generalizing document with
  | nil =>
      rw [List.mapM_nil, List.flatMap_nil, List.foldlM_nil]
      exact congrArg (fun document => Except.ok (document, Expecting.key)) (List.append_nil _).symm
  | cons line lines ih =>
      have fresh : line.1 ∉ document.map Prod.fst := by
        intro member
        exact (List.nodup_append.mp distinct).2.2 _ member _ List.mem_cons_self rfl
      rw [List.flatMap_cons, List.foldlM_append, foldlM_line (bare line List.mem_cons_self)
        (readable line List.mem_cons_self) fresh, List.mapM_cons]
      cases read : line.entry with
      | error fault => rfl
      | ok entry =>
          have later := ih (fun next member => bare next (List.mem_cons_of_mem _ member))
            (fun next member => readable next (List.mem_cons_of_mem _ member))
            (document ++ [entry]) (by simpa [Line.entry_key read] using distinct)
          change (lines.flatMap Line.tokens).foldlM step (document ++ [entry], Expecting.key) = _
          rw [later]
          cases lines.mapM Line.entry with
          | error fault => rfl
          | ok entries =>
              simp only [Except.map, List.append_assoc]
              rfl

theorem mapM_malformed {Item Result : Type} {read : Item → Except Fault Result} {items : List Item}
    (decided : ∀ item ∈ items, read item ≠ .error .beyond)
    (faulty : ∃ item ∈ items, read item = .error .malformed) :
    items.mapM read = .error .malformed := by
  induction items with
  | nil =>
      obtain ⟨_, member, _⟩ := faulty
      cases member
  | cons item items ih =>
      rw [List.mapM_cons]
      cases here : read item with
      | error fault =>
          cases fault with
          | malformed => rfl
          | beyond => exact absurd here (decided item List.mem_cons_self)
      | ok result =>
          have later : items.mapM read = .error .malformed := by
            apply ih fun next member => decided next (List.mem_cons_of_mem _ member)
            obtain ⟨next, member, fault⟩ := faulty
            rcases List.mem_cons.mp member with rfl | member
            · rw [here] at fault
              cases fault
            · exact ⟨next, member, fault⟩
          rw [later]
          rfl

theorem parse_lines {lines : List Line} (bare : ∀ line ∈ lines, line.Bare)
    (distinct : (lines.map Prod.fst).Nodup) (decided : ∀ line ∈ lines, line.entry ≠ .error .beyond) :
    parse (lines.flatMap Line.text) = lines.mapM Line.entry := by
  rw [parse, lex_lines bare]
  cases readable : lines.all (·.2.readable) with
  | true =>
      have read := foldlM_lines bare (List.all_eq_true.mp readable) [] distinct
      change (lines.flatMap Line.tokens).foldlM step ([], Expecting.key) >>= finish = _
      rw [read]
      cases lines.mapM Line.entry <;> rfl
  | false =>
      obtain ⟨line, member, hidden⟩ := List.all_eq_false.mp readable
      have faulty : line.entry = .error .malformed := by
        rw [Line.entry, Written.value_of_not_readable (Bool.not_eq_true _ ▸ hidden)]
        rfl
      exact (mapM_malformed decided ⟨line, member, faulty⟩).symm

/-- The reader takes more than the writer writes. -/
example : parse "port = 80 # http\n\nnames = [ \"a\",\n \"\\u00e9\\t\" ]\r\n".toList = .ok
    [("port", .scalar (.integer 80)), ("names", .array [.string "a", .string "é\t"])] := by
  decide +kernel

theorem entries_cons {line : Line} {lines : List Line} {document : Document} :
    (line :: lines).mapM Line.entry = .ok document ↔ ∃ value entries, line.2.value = .ok value ∧
      lines.mapM Line.entry = .ok entries ∧ document = (line.1, value) :: entries := by
  rw [List.mapM_cons, Line.entry]
  cases line.2.value with
  | error fault => simp [Except.map, bind, Except.bind]
  | ok value =>
      cases lines.mapM Line.entry with
      | error fault => simp [Except.map, bind, Except.bind]
      | ok entries => simp [Except.map, bind, Except.bind, pure, Except.pure, eq_comm]

/-- Lines that all have a value make up a document. -/
theorem entries_of_values {lines : List Line}
    (readable : ∀ line ∈ lines, ∃ value, line.2.value = .ok value) :
    ∃ document, lines.mapM Line.entry = .ok document := by
  induction lines with
  | nil => exact ⟨[], rfl⟩
  | cons line lines ih =>
      obtain ⟨value, read⟩ := readable line List.mem_cons_self
      obtain ⟨entries, others⟩ := ih fun next member => readable next (List.mem_cons_of_mem _ member)
      exact ⟨_, entries_cons.mpr ⟨value, entries, read, others, rfl⟩⟩

theorem lookup_entries {lines : List Line} {document : Document}
    (read : lines.mapM Line.entry = .ok document) (key : String) :
    List.lookup key document =
      (List.lookup key lines).bind fun written => written.value.toOption := by
  induction lines generalizing document with
  | nil =>
      cases read
      rfl
  | cons line lines ih =>
      obtain ⟨value, entries, first, others, rfl⟩ := entries_cons.mp read
      obtain ⟨name, written⟩ := line
      rw [List.lookup_cons, List.lookup_cons, ih others]
      cases key == name with
      | true => simp only [Option.bind_some, first, Except.toOption]
      | false => rfl

end Toml
