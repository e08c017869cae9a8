import AntiForgery.Text.Hex
import AntiForgery.Text.Utf8

/-!
# Strings in JSON

Writing a text between quotes and reading it back, on bytes.  Writing escapes the two characters
that end or change a string and the control characters; every other byte stands for itself, so a
text keeps its UTF-8 form.  Reading takes each escape of the grammar, and a pair of surrogates as
the one character that they name.  `unquote?_quote` says that what is written reads back.
-/

namespace AntiForgery
namespace Json

/-- The mark at both ends of a string. -/
def quoteMark : UInt8 := 0x22

/-- The byte that begins an escape. -/
def backslash : UInt8 := 0x5C

/-- The form of a byte inside a string. -/
def escape (byte : UInt8) : List UInt8 :=
  if byte = quoteMark ∨ byte = backslash then [backslash, byte]
  else if byte = 0x08 then [backslash, 0x62]
  else if byte = 0x09 then [backslash, 0x74]
  else if byte = 0x0A then [backslash, 0x6E]
  else if byte = 0x0C then [backslash, 0x66]
  else if byte = 0x0D then [backslash, 0x72]
  else if byte < 0x20 then
    [backslash, 0x75, 0x30, 0x30, Hex.digit (byte / 16), Hex.digit (byte % 16)]
  else [byte]

/-- A text as a string. -/
def quote (text : String) : List UInt8 :=
  quoteMark :: ((Text.utf8 text).flatMap escape ++ [quoteMark])

/-- The byte that an escape of one letter stands for. -/
def shortEscape? (letter : UInt8) : Option UInt8 :=
  if letter = quoteMark ∨ letter = backslash ∨ letter = 0x2F then some letter
  else if letter = 0x62 then some 0x08
  else if letter = 0x66 then some 0x0C
  else if letter = 0x6E then some 0x0A
  else if letter = 0x72 then some 0x0D
  else if letter = 0x74 then some 0x09
  else none

/-- The first half of a pair of surrogates. -/
def isHighSurrogate (unit : Nat) : Bool := 0xD800 ≤ unit && unit < 0xDC00

/-- The second half of a pair of surrogates. -/
def isLowSurrogate (unit : Nat) : Bool := 0xDC00 ≤ unit && unit < 0xE000

/-- The code point that a pair of surrogates names. -/
def combine (high low : Nat) : Nat := 0x10000 + (high - 0xD800) * 0x400 + (low - 0xDC00)

/-- The bytes of a code point, in reverse in front of others. -/
def pushCodePoint (codePoint : Nat) (reversed : List UInt8) : List UInt8 :=
  (Text.utf8 (String.singleton (Char.ofNat codePoint))).reverse ++ reversed

/-- Takes in a number of four hexadecimal digits.  `high` is a first surrogate that waits for its
second; the answer is the surrogate that waits then, and the bytes read so far in reverse. -/
def absorb? (high : Option Nat) (unit : Nat) (reversed : List UInt8) :
    Option (Option Nat × List UInt8) :=
  match high with
  | some waiting =>
      if isLowSurrogate unit then some (none, pushCodePoint (combine waiting unit) reversed)
      else none
  | none =>
      if isHighSurrogate unit then some (some unit, reversed)
      else if isLowSurrogate unit then none
      else some (none, pushCodePoint unit reversed)

/-- Where in a string a reader is. -/
inductive Place where
  /-- In front of a character or the end. -/
  | plain
  /-- Behind a backslash. -/
  | escaped
  /-- Behind the beginning of a number, of which so many digits are missing. -/
  | unit (missing : Nat) (value : Nat)
  deriving DecidableEq, Repr

/-- Reads what follows the opening mark, up to and with the closing one.  `high` is a first
surrogate that waits for its second, and `reversed` holds the bytes read so far. -/
def readQuoted (high : Option Nat) (reversed : List UInt8) :
    Place → List UInt8 → Option (List UInt8 × List UInt8)
  | _, [] => none
  | .plain, byte :: rest =>
      if byte = backslash then readQuoted high reversed .escaped rest
      else if high.isSome then none
      else if byte = quoteMark then some (reversed.reverse, rest)
      else if byte < 0x20 then none
      else readQuoted none (byte :: reversed) .plain rest
  | .escaped, byte :: rest =>
      if byte = 0x75 then readQuoted high reversed (.unit 3 0) rest
      else
        match high, shortEscape? byte with
        | none, some meant => readQuoted none (meant :: reversed) .plain rest
        | _, _ => none
  | .unit missing value, byte :: rest =>
      match Hex.digitValue? byte, missing with
      | none, _ => none
      | some digit, missing + 1 =>
          readQuoted high reversed (.unit missing (16 * value + digit.toNat)) rest
      | some digit, 0 =>
          match absorb? high (16 * value + digit.toNat) reversed with
          | none => none
          | some (high, reversed) => readQuoted high reversed .plain rest

/-- Reads a string after its opening mark: its text and what follows it. -/
def unquote? (bytes : List UInt8) : Option (String × List UInt8) :=
  match readQuoted none [] .plain bytes with
  | none => none
  | some (content, rest) => (Text.ofUtf8? content).map (·, rest)

/-- What follows a string, of which only the form is looked at: an escape has to be one of the
grammar, but surrogates need no partner and the bytes need not spell a text. -/
def skipQuoted? : Place → List UInt8 → Option (List UInt8)
  | _, [] => none
  | .plain, byte :: rest =>
      if byte = backslash then skipQuoted? .escaped rest
      else if byte = quoteMark then some rest
      else if byte < 0x20 then none
      else skipQuoted? .plain rest
  | .escaped, byte :: rest =>
      if byte = 0x75 then skipQuoted? (.unit 3 0) rest
      else if (shortEscape? byte).isSome then skipQuoted? .plain rest
      else none
  | .unit missing value, byte :: rest =>
      match Hex.digitValue? byte, missing with
      | none, _ => none
      | some _, missing + 1 => skipQuoted? (.unit missing value) rest
      | some _, 0 => skipQuoted? .plain rest

theorem pushCodePoint_control (byte : UInt8) (control : byte < 0x20) (reversed : List UInt8) :
    pushCodePoint byte.toNat reversed = byte :: reversed := by
  have cases : ∀ n : Fin 32,
      Text.utf8 (String.singleton (Char.ofNat n.val)) = [UInt8.ofNat n.val] := by
    decide
  have bound : byte.toNat < 32 := UInt8.lt_iff_toNat_lt.mp control
  have whole : Text.utf8 (String.singleton (Char.ofNat byte.toNat)) = [byte] := by
    simpa using cases ⟨byte.toNat, bound⟩
  simp [pushCodePoint, whole]

/-- A number below the surrogates is one byte if it is that of a control character. -/
theorem absorb?_control (byte : UInt8) (control : byte < 0x20) (reversed : List UInt8) :
    absorb? none byte.toNat reversed = some (none, byte :: reversed) := by
  have small := byte.toNat_lt
  have high : isHighSurrogate byte.toNat = false := by simp [isHighSurrogate]; omega
  have low : isLowSurrogate byte.toNat = false := by simp [isLowSurrogate]; omega
  simp [absorb?, high, low, pushCodePoint_control byte control]

theorem readQuoted_short (letter byte : UInt8) (reversed rest : List UInt8)
    (short : shortEscape? letter = some byte) (notUnit : letter ≠ 0x75) :
    readQuoted none reversed .plain (backslash :: letter :: rest) =
      readQuoted none (byte :: reversed) .plain rest := by
  simp [readQuoted, short, notUnit]

theorem readQuoted_control (byte : UInt8) (control : byte < 0x20) (reversed rest : List UInt8) :
    readQuoted none reversed .plain
        (backslash :: 0x75 :: 0x30 :: 0x30 :: Hex.digit (byte / 16) :: Hex.digit (byte % 16) ::
          rest) =
      readQuoted none (byte :: reversed) .plain rest := by
  have bound : byte.toNat < 32 := UInt8.lt_iff_toNat_lt.mp control
  have high : byte / 16 < 16 := by
    rw [UInt8.lt_iff_toNat_lt]
    simp
    omega
  have low : byte % 16 < 16 := by
    rw [UInt8.lt_iff_toNat_lt]
    simp
    omega
  have zero : Hex.digitValue? 0x30 = some 0 := by decide
  have joined : 16 * (byte.toNat / 16) + byte.toNat % 16 = byte.toNat := by omega
  simp [readQuoted, zero, Hex.digitValue?_digit _ high, Hex.digitValue?_digit _ low, joined,
    absorb?_control byte control]

/-- Reading takes one byte from its form inside a string. -/
theorem readQuoted_escape (byte : UInt8) (reversed rest : List UInt8) :
    readQuoted none reversed .plain (escape byte ++ rest) =
      readQuoted none (byte :: reversed) .plain rest := by
  unfold escape
  split
  · next special =>
      rcases special with equal | equal <;> subst equal <;>
        exact readQuoted_short _ _ _ _ (by decide) (by decide)
  · next ordinary =>
      split
      · next equal => subst equal; exact readQuoted_short _ _ _ _ (by decide) (by decide)
      · split
        · next equal => subst equal; exact readQuoted_short _ _ _ _ (by decide) (by decide)
        · split
          · next equal => subst equal; exact readQuoted_short _ _ _ _ (by decide) (by decide)
          · split
            · next equal => subst equal; exact readQuoted_short _ _ _ _ (by decide) (by decide)
            · split
              · next equal =>
                  subst equal; exact readQuoted_short _ _ _ _ (by decide) (by decide)
              · split
                · next control => exact readQuoted_control byte control reversed rest
                · next printed =>
                    have notQuote : byte ≠ quoteMark := fun equal => ordinary (.inl equal)
                    have notBackslash : byte ≠ backslash := fun equal => ordinary (.inr equal)
                    simp [readQuoted, notQuote, notBackslash, printed]

theorem readQuoted_flatMap_escape (bytes reversed rest : List UInt8) :
    readQuoted none reversed .plain (bytes.flatMap escape ++ quoteMark :: rest) =
      some (reversed.reverse ++ bytes, rest) := by
  induction bytes generalizing reversed with
  | nil => simp [readQuoted, quoteMark, backslash]
  | cons byte bytes ih =>
      rw [List.flatMap_cons, List.append_assoc, readQuoted_escape, ih]
      simp

/-- What is written reads back, behind its opening mark. -/
theorem unquote?_quote (text : String) (rest : List UInt8) :
    unquote? ((quote text).drop 1 ++ rest) = some (text, rest) := by
  have read := readQuoted_flatMap_escape (Text.utf8 text) [] rest
  simp only [quote, List.drop_succ_cons, List.drop_zero, List.append_assoc, List.cons_append,
    List.nil_append, unquote?, List.reverse_nil] at read ⊢
  rw [read]
  simp [Text.ofUtf8?_utf8]

end Json
end AntiForgery
