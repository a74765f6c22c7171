import IrcHarness.Regex.Form

/-!
# Characters as Ranges of Bytes

A machine that reads bytes knows a set of characters by rows of byte ranges.
A row stands for the characters whose encoding has as many bytes as the row has
ranges, each byte in its range. A run of characters falls apart into a few rows:
it is cut where the number of bytes changes and around the halves of encodings
by sixteen bits, and a piece is cut further until all bytes behind the first
one that varies take all their values.

## Main definitions

* `Regex.ByteRow`: Ranges of bytes, one for each byte of an encoding.
* `Regex.cutPieces`: A run cut into pieces that are one row each.
* `Regex.byteRows`: The rows of a set of characters, in order.
-/

namespace IrcHarness

namespace Regex

/-- The first and last value of each byte of an encoding. -/
abbrev ByteRow := List (Nat × Nat)

/-- Cut a run, so that in each piece all bytes behind the first one that varies
    take all their values. The run ends at multiples of `block`, the number of
    characters that the bytes looked at so far tell apart, and `levels` more
    bytes are left to look at. -/
def cutPieces : Nat → Nat → Nat → Nat → List (Nat × Nat)
  | 0, _, lo, hi => [(lo, hi)]
  | levels + 1, block, lo, hi =>
    if lo / block = hi / block then [(lo, hi)]
    else
      let first := (lo + block - 1) / block * block
      let last := (hi + 1) / block * block
      let front := if lo < first then [(lo, first - 1)] else []
      let back := if last ≤ hi then [(last, hi)] else []
      let middle :=
        if first < last then cutPieces levels (64 * block) first (last - 1) else []
      front ++ middle ++ back

/-- The row of a piece, from the encodings of its ends. -/
def pieceRow (piece : Nat × Nat) : ByteRow :=
  let bytes (n : Nat) : List Nat := (Utf8.encode [Char.ofNat n]).map UInt8.toNat
  (bytes piece.1).zip (bytes piece.2)

/-- The runs of code points whose encodings have the same number of bytes. -/
def encodedRuns : List (Nat × Nat) := [
  (0, 0x7F), (0x80, 0x7FF), (0x800, 0xD7FF), (0xE000, 0xFFFF), (0x10000, 0x10FFFF)]

/-- The rows of a run of code points. -/
def runRows (run : Nat × Nat) : List ByteRow :=
  encodedRuns.flatMap fun bounds =>
    let lo := max run.1 bounds.1
    let hi := min run.2 bounds.2
    if hi < lo then []
    else if hi < 0x80 then [[(lo, hi)]]
    else (cutPieces 3 64 lo hi).map pieceRow

/-- The rows of a set of characters, in order. -/
def byteRows (s : CharSet) : List ByteRow :=
  s.ranges.flatMap runRows

end Regex

end IrcHarness
