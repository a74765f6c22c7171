import IrcHarness.Text.Digit

/-!
# Durations

Spans of time as whole seconds and nanoseconds, of which there are fewer than
make a second. The seconds have 64 bits, so a span in milliseconds can need
more than that.

A span is shown in the largest of four units that it reaches, with as many
places of the fraction as are not zero.

## Main definitions

* `Duration`: A span of time.
* `Duration.ofParts`: A span of seconds and any number of nanoseconds.
* `Duration.ofMillis`, `Duration.millis`: Milliseconds, and back.
* `Duration.write`: The text of a span.
-/

namespace IrcHarness

/-- The nanoseconds of a second. -/
def nanosPerSecond : Nat := 1000000000

/-- A span of time. -/
structure Duration where
  /-- Whole seconds. -/
  seconds : UInt64
  /-- Nanoseconds behind them. -/
  nanos : Fin 1000000000
deriving DecidableEq, Repr

namespace Duration

/-- A span of seconds and nanoseconds, of which whole seconds are carried. -/
def ofParts (seconds nanos : Nat) : Duration :=
  ⟨UInt64.ofNat (seconds + nanos / nanosPerSecond), ⟨nanos % 1000000000, by omega⟩⟩

/-- A span of milliseconds. -/
def ofMillis (ms : UInt64) : Duration :=
  ⟨ms / 1000, ⟨ms.toNat % 1000 * 1000000, by omega⟩⟩

/-- The whole milliseconds of a span. -/
def millis (d : Duration) : Nat :=
  d.seconds.toNat * 1000 + d.nanos.val / 1000000

/-- A whole part and a fraction of so many places, without the zeros at its
    end. -/
def writeFraction (whole fraction places : Nat) : List Char :=
  let digits := Digit.padded places (Digit.decimal fraction)
  match (digits.reverse.dropWhile (· = '0')).reverse with
  | [] => Digit.decimal whole
  | kept => Digit.decimal whole ++ '.' :: kept

/-- The text of a span. -/
def write (d : Duration) : String :=
  let nanos := d.nanos.val
  String.ofList <|
    if d.seconds ≠ 0 then writeFraction d.seconds.toNat nanos 9 ++ ['s']
    else if 1000000 ≤ nanos then writeFraction (nanos / 1000000) (nanos % 1000000) 6 ++ ['m', 's']
    else if 1000 ≤ nanos then writeFraction (nanos / 1000) (nanos % 1000) 3 ++ ['µ', 's']
    else Digit.decimal nanos ++ ['n', 's']

end Duration

end IrcHarness
