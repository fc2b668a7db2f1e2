import PooledArena.Word

/-!
# `PooledArena.Text.Numeral`: words written in base ten or sixteen

A numeral is a row of decimal digits, or of hexadecimal digits of either case
behind the marker `0x` or `0X`. A plus sign may stand before the digits. Digits are read
from the left, and the first thing that is wrong is reported: at one and the same
character, a bad digit rather than a number too large.
-/

set_option autoImplicit false

namespace PooledArena.Text

/-- What is wrong with a text that is no numeral. -/
inductive NumeralError where
  | empty
  | badDigit
  | tooLarge
  deriving DecidableEq

/-- The reason, in words. -/
def NumeralError.message : NumeralError → String
  | empty => "cannot parse integer from empty string"
  | badDigit => "invalid digit found in string"
  | tooLarge => "number too large to fit in target type"

/-- The value of a digit in base `radix`, which is at most sixteen. -/
def digitValue? (radix : Nat) (c : Char) : Option Nat :=
  let value? :=
    if '0' ≤ c ∧ c ≤ '9' then some (c.toNat - '0'.toNat)
    else if 'a' ≤ c ∧ c ≤ 'f' then some (c.toNat - 'a'.toNat + 10)
    else if 'A' ≤ c ∧ c ≤ 'F' then some (c.toNat - 'A'.toNat + 10)
    else none
  value?.filter (· < radix)

/-- Read further digits behind those that make `value`. -/
def readDigits (radix : Nat) : List Char → (value : Nat) → Except NumeralError Word
  | [], value => .ok (UInt64.ofNat value)
  | c :: cs, value =>
    match digitValue? radix c with
    | none => .error .badDigit
    | some digit =>
      let longer := value * radix + digit
      if longer < 0x10000000000000000 then readDigits radix cs longer else .error .tooLarge

/-- Read a row of digits that may have a plus sign before it. A sign alone is a
digit, and a bad one. -/
def readSigned (radix : Nat) : List Char → Except NumeralError Word
  | [] => .error .empty
  | '+' :: c :: cs => readDigits radix (c :: cs) 0
  | cs => readDigits radix cs 0

/-- Read a numeral of either base. -/
def readNumeral (text : String) : Except NumeralError Word :=
  match text.toList with
  | '0' :: 'x' :: cs => readSigned 16 cs
  | '0' :: 'X' :: cs => readSigned 16 cs
  | cs => readSigned 10 cs

end PooledArena.Text
