import IrcHarness.Text.Digit

/-!
# Binary Floating-Point Numbers

Finite numbers of the 64-bit binary format as exact values: a sign, a
significand below 2^53, and an exponent of two. Rounding and printing are
integer arithmetic on these, so nothing here depends on a processor.

`roundQuotient` rounds a quotient of natural numbers to the nearest number of
the format, a tie to the even significand. Reading a decimal takes two such
steps: the digits are rounded to a number first, and the result is multiplied
or divided by the number nearest to a power of ten.

`shortest` finds the fewest digits that read back. The numbers that round to a
value form an interval around it, whose ends belong to it when the significand
is even. On the grid of decimals with a given count of digits, if any point
lies in the interval then one of the two next to the value does, so it is
enough to try these, with one digit more each time.

## Main definitions

* `Binary64`: A finite number of the format.
* `Binary64.roundQuotient`: Rounding to the nearest number of the format.
* `Binary64.ofDecimal`: The number read from digits and a power of ten.
* `Binary64.shortest`: The fewest digits that read back, and their exponent.
* `Binary64.same`: Equality of values, for which the sign of zero counts for
  nothing.
-/

namespace IrcHarness

/-- A finite number of the 64-bit binary format: `significand * 2 ^ exponent`
    with a sign. The significand is at least 2^52 unless the exponent is the
    least one. -/
structure Binary64 where
  /-- Whether the number has a minus sign, which zero may have too. -/
  negative : Bool
  /-- The significand, below 2^53. -/
  significand : Nat
  /-- The exponent of two, from -1074 to 971. -/
  exponent : Int
deriving DecidableEq, Repr

namespace Binary64

/-- The exponent of the smallest numbers. -/
def minExponent : Int := -1074

/-- The exponent of the largest numbers. -/
def maxExponent : Int := 971

/-- Zero without a sign. -/
def zero : Binary64 := ⟨false, 0, minExponent⟩

/-- The number with the opposite sign. -/
def negate (x : Binary64) : Binary64 := { x with negative := !x.negative }

/-- Two to a power, as the numerator and denominator it contributes to. -/
def scale (num den : Nat) (e : Int) : Nat × Nat :=
  if 0 ≤ e then (num * Nat.pow 2 e.toNat, den) else (num, den * Nat.pow 2 (-e).toNat)

/-- A quotient rounded to the nearest integer, a tie to the even one. -/
def roundHalfEven (num den : Nat) : Nat :=
  let q := num / den
  let r := num % den
  if den < 2 * r ∨ (2 * r = den ∧ q % 2 = 1) then q + 1 else q

/-- The number nearest to a quotient, a tie to the even significand, or
    nothing when it is out of range. -/
def roundQuotient (num den : Nat) : Option Binary64 :=
  if num = 0 then some zero
  else
    let e₀ : Int := (Nat.log2 num : Int) - (Nat.log2 den : Int) - 52
    let first := scale num den (-e₀)
    let e₁ := if first.1 / first.2 < Nat.pow 2 52 then e₀ - 1 else e₀
    let e := max e₁ minExponent
    let scaled := scale num den (-e)
    let m := roundHalfEven scaled.1 scaled.2
    let result : Binary64 :=
      if m = Nat.pow 2 53 then ⟨false, Nat.pow 2 52, e + 1⟩ else ⟨false, m, e⟩
    if maxExponent < result.exponent then none else some result

/-- The number nearest to a natural number. -/
def ofNat (n : Nat) : Option Binary64 :=
  roundQuotient n 1

/-- The value without its sign, as numerator and denominator. -/
def magnitude (x : Binary64) : Nat × Nat :=
  scale x.significand 1 x.exponent

/-- The largest power of ten that the format holds. -/
def maxPowerOfTen : Nat := 308

/-- The number `x * 10 ^ k` for a natural `k`, with the power of ten rounded
    first. -/
def timesPowerOfTen (x : Binary64) (k : Nat) : Option Binary64 :=
  if x.significand = 0 then some x
  else if maxPowerOfTen < k then none
  else match ofNat (Nat.pow 10 k) with
    | none => none
    | some p =>
      let a := x.magnitude
      let b := p.magnitude
      roundQuotient (a.1 * b.1) (a.2 * b.2)

/-- The number `x / 10 ^ k` for a natural `k`, by steps of the largest power of
    ten. -/
def overPowerOfTen (x : Binary64) (k : Nat) : Option Binary64 :=
  if x.significand = 0 then some x
  else
    let step := min k maxPowerOfTen
    match ofNat (Nat.pow 10 step) with
    | none => none
    | some p =>
      let a := x.magnitude
      let b := p.magnitude
      match roundQuotient (a.1 * b.2) (a.2 * b.1) with
      | none => none
      | some y => if _h : maxPowerOfTen < k then overPowerOfTen y (k - maxPowerOfTen) else some y
termination_by k
decreasing_by simp only [maxPowerOfTen] at *; omega

/-- The number read from a significand and a power of ten. -/
def ofDecimal (significand : Nat) (exponent : Int) : Option Binary64 :=
  match ofNat significand with
  | none => none
  | some x =>
    if 0 ≤ exponent then timesPowerOfTen x exponent.toNat
    else overPowerOfTen x (-exponent).toNat

/-- Whether two numbers have the same value. -/
def same (x y : Binary64) : Bool :=
  (x.significand = 0 && y.significand = 0) || x = y

/-- The interval of values that round to a number, in quarters of the last
    place: the distance of the lower and of the upper end from the value. -/
def halfGaps (x : Binary64) : Nat × Nat :=
  if x.significand = Nat.pow 2 52 ∧ minExponent < x.exponent then (1, 2) else (2, 2)

/-- Numerator and denominator times a power of ten. -/
def scaleTen (num den : Nat) (k : Int) : Nat × Nat :=
  if 0 ≤ k then (num * Nat.pow 10 k.toNat, den) else (num, den * Nat.pow 10 (-k).toNat)

/-- The exponent of the leading decimal digit of a quotient, found near a
    guess that is at most two off. -/
def leadingExponent (num den : Nat) : Int :=
  let guess : Int := ((Nat.log2 num : Int) - (Nat.log2 den : Int)) * 1233 / 4096
  let atLeast (k : Int) : Bool :=
    let t := scaleTen num den (-k)
    t.2 ≤ t.1
  if atLeast (guess + 2) then guess + 2
  else if atLeast (guess + 1) then guess + 1
  else if atLeast guess then guess
  else if atLeast (guess - 1) then guess - 1
  else guess - 2

/-- The point of the decimal grid with the given step that reads back as the
    number, the nearer of the two when both do. -/
def gridPoint? (x : Binary64) (step : Int) : Option Nat :=
  let unit := scale 1 4 x.exponent
  let inGrid (quarters : Nat) : Nat × Nat := scaleTen (quarters * unit.1) unit.2 (-step)
  let value := inGrid (4 * x.significand)
  let gaps := halfGaps x
  let low := inGrid (4 * x.significand - gaps.1)
  let high := inGrid (4 * x.significand + gaps.2)
  let closed := x.significand % 2 = 0
  let inside (d : Nat) : Bool :=
    let a := d * low.2
    let b := d * high.2
    if closed then low.1 ≤ a && b ≤ high.1 else low.1 < a && b < high.1
  let below := value.1 / value.2
  let above := below + 1
  let remainder := value.1 % value.2
  let aboveNearer := value.2 < 2 * remainder ∨ (2 * remainder = value.2 ∧ below % 2 = 1)
  if inside below && inside above then some (if aboveNearer then above else below)
  else if inside below then some below
  else if inside above then some above
  else none

/-- Try grids with one digit more each time, at most `tries` of them. -/
def shortestFrom (x : Binary64) (lead : Int) : Nat → Nat → Nat × Int
  | 0, _ => (0, 0)
  | tries + 1, digits =>
    let step := lead - (digits : Int) + 1
    match gridPoint? x step with
    | some d => (d, step)
    | none => shortestFrom x lead tries (digits + 1)

/-- The fewest digits that read back as a number, as an integer and the power
    of ten it is multiplied with. -/
def shortest (x : Binary64) : Nat × Int :=
  let a := x.magnitude
  shortestFrom x (leadingExponent a.1 a.2) 17 1

end Binary64

end IrcHarness
