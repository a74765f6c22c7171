import IrcHarness.Text.Digit
import Mathlib

/-!
# Reading Digits Back

The digits of a number say which number it is. In every base that has digits, reading is
the left inverse of writing (`read_toDigits`), and zeros in front make no difference
(`read_padded`). So no two numbers are written alike (`decimal_injective`).

## Theorems

* `isDigitIn_of_mem_toDigits`: A number is written with the digits of its base.
* `read_toDigits`: A written number is read back.
* `read_padded`: Zeros in front of a number are worth nothing.
* `decimal_injective`: The decimal digits say which number it is.
-/

namespace IrcHarness

namespace Digit

variable {base : Nat}

theorem value?_digitChar {d : Nat} (h : d < 16) : value? (Nat.digitChar d) = some d := by
  decide +revert

theorem isDigitIn_digitChar {d : Nat} (h : d < base) (hbase : base ≤ 16) :
    isDigitIn base (Nat.digitChar d) = true := by
  rw [isDigitIn, valueIn?, value?_digitChar (Nat.lt_of_lt_of_le h hbase),
    Option.filter_some, if_pos (decide_eq_true h), Option.isSome_some]

/-- A number is written with the digits of its base. -/
theorem isDigitIn_of_mem_toDigits (h : 1 < base) (hbase : base ≤ 16) {n : Nat} {c : Char}
    (hc : c ∈ Nat.toDigits base n) : isDigitIn base c = true := by
  induction n using Nat.strong_induction_on with
  | _ n ih =>
    rw [Nat.toDigits_eq_if h] at hc
    split at hc
    · next hlt =>
      rw [List.mem_singleton.1 hc]
      exact isDigitIn_digitChar hlt hbase
    · rcases List.mem_append.1 hc with hc | hc
      · exact ih (n / base) (Nat.div_lt_self (by omega) h) hc
      · rw [List.mem_singleton.1 hc]
        exact isDigitIn_digitChar (Nat.mod_lt n (by omega)) hbase

theorem read_append (base : Nat) (cs : List Char) (c : Char) :
    read base (cs ++ [c]) = read base cs * base + (value? c).getD 0 := by
  rw [read, List.foldl_append]
  rfl

/-- A written number is read back. -/
theorem read_toDigits (h : 1 < base) (hbase : base ≤ 16) (n : Nat) :
    read base (Nat.toDigits base n) = n := by
  induction n using Nat.strong_induction_on with
  | _ n ih =>
    rw [Nat.toDigits_eq_if h]
    split
    · next hlt =>
      have hone := read_append base [] (Nat.digitChar n)
      rw [List.nil_append, value?_digitChar (Nat.lt_of_lt_of_le hlt hbase)] at hone
      rw [hone, read, List.foldl_nil, Nat.zero_mul, Nat.zero_add, Option.getD_some]
    · -- The last digit is the remainder, and those in front of it are of the quotient.
      have hdigit : n % base < 16 := Nat.lt_of_lt_of_le (Nat.mod_lt n (by omega)) hbase
      rw [read_append, ih (n / base) (Nat.div_lt_self (by omega) h), value?_digitChar hdigit,
        Option.getD_some]
      exact Nat.div_add_mod' n base

/-- Zeros in front of a number are worth nothing. -/
theorem read_padded (base width : Nat) (cs : List Char) :
    read base (padded width cs) = read base cs := by
  have hzeros : ∀ n, read base (List.replicate n '0') = 0 := by
    intro n
    induction n with
    | zero => rfl
    | succ n ih =>
        rw [List.replicate_succ', read_append, ih, Nat.zero_mul, Nat.zero_add]
        rfl
  have h := hzeros (width - cs.length)
  rw [read] at h
  rw [padded, read, List.foldl_append, h, read]

/-- The decimal digits say which number it is. -/
theorem decimal_injective : Function.Injective decimal :=
  Function.LeftInverse.injective (read_toDigits (by decide) (by decide))

end Digit

end IrcHarness
