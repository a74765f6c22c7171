/-!
# Digits

Numbers as written text. Every notation of this library that holds a number
(ranges of code points, escapes, TOML integers, JSON numbers, byte positions)
reads and writes its digits through this module, so the question of what a
digit is worth is answered once.

Reading is a left fold over digits that the caller has already recognised.
Writing uses the digits of the core library, most significant first and
without leading zeros.

## Main definitions

* `Digit.value?`: What a hexadecimal digit is worth.
* `Digit.valueIn?`: The same, for the digits of a smaller base.
* `Digit.read`: The number that a run of digits denotes.
* `Digit.decimal`: The decimal digits of a number.
* `Digit.padded`: Digits brought to a least width with zeros in front.
-/

namespace IrcHarness

namespace Digit

/-- The worth of a hexadecimal digit of either letter case. -/
def value? (c : Char) : Option Nat :=
  if '0' ≤ c ∧ c ≤ '9' then some (c.toNat - '0'.toNat)
  else if 'a' ≤ c ∧ c ≤ 'f' then some (c.toNat - 'a'.toNat + 10)
  else if 'A' ≤ c ∧ c ≤ 'F' then some (c.toNat - 'A'.toNat + 10)
  else none

/-- The worth of a digit in a base of at most sixteen. -/
def valueIn? (base : Nat) (c : Char) : Option Nat :=
  (value? c).filter (· < base)

/-- Whether a character is a digit of the base. -/
def isDigitIn (base : Nat) (c : Char) : Bool :=
  (valueIn? base c).isSome

/-- The number a run of digits denotes, most significant digit first. -/
def read (base : Nat) (cs : List Char) : Nat :=
  cs.foldl (fun n c => n * base + (value? c).getD 0) 0

/-- The decimal digits of a number. -/
def decimal (n : Nat) : List Char :=
  Nat.toDigits 10 n

/-- The lower-case hexadecimal digits of a number. -/
def hexadecimal (n : Nat) : List Char :=
  Nat.toDigits 16 n

/-- A run of digits with zeros in front until it is `width` long. -/
def padded (width : Nat) (cs : List Char) : List Char :=
  List.replicate (width - cs.length) '0' ++ cs

/-- The decimal digits of an integer, with a minus sign when it is negative. -/
def signedDecimal (n : Int) : List Char :=
  if n < 0 then '-' :: decimal n.natAbs else decimal n.natAbs

end Digit

end IrcHarness
