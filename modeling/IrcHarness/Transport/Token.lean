import IrcHarness.Config.Duration

/-!
# Synchronization Tokens

A peer answers a `PING` with the token it was sent, after it has processed
everything in front. A token has to be new, so that the answer to an earlier
`PING` is not taken for the answer to this one. Its last part counts the
tokens of one transport, which alone makes them distinct; the part before is a
clock reading, which tells the tokens of different transports apart.

## Main definitions

* `Token.text`: The token of a clock reading and a count.

## Theorems

* `newline_not_mem_chars`: A token stays on one line.
-/

namespace IrcHarness

namespace Token

/-- The characters of the token for a clock reading and a count. -/
def chars (reading : Duration) (count : Nat) : List Char :=
  ['s', 'y', 'n', 'c'] ++ Digit.decimal reading.seconds.toNat ++
    '.' :: (Digit.padded 9 (Digit.decimal reading.nanos.val) ++ '.' :: Digit.decimal count)

/-- The token for a clock reading and a count. -/
def text (reading : Duration) (count : Nat) : String :=
  String.ofList (chars reading count)

theorem newline_not_mem_chars (reading : Duration) (count : Nat) :
    '\n' ∉ chars reading count := by
  have hd : ∀ n, '\n' ∉ Digit.decimal n := by
    intro n h
    have := Nat.isDigit_of_mem_toDigits (by omega) (by omega) h
    simp at this
  have hp : ∀ n, '\n' ∉ Digit.padded 9 (Digit.decimal n) := by
    intro n h
    rcases List.mem_append.1 h with h | h
    · simp [List.mem_replicate] at h
    · exact hd n h
  simp only [chars, List.mem_append, List.mem_cons, List.not_mem_nil, or_false]
  rintro ((h | h) | h | h | h | h)
  · simp at h
  · exact hd _ h
  · simp at h
  · exact hp _ h
  · simp at h
  · exact hd _ h

end Token

end IrcHarness
