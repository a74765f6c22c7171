/-!
# UTF-8

Characters as bytes and back. A stream brings bytes, a message is made of
characters, and bytes that no characters stand behind have to be reported in
two ways: by the position of the first of them, and as text with a replacement
character in the place of each ill-formed run.

Decoding goes by steps. `next` takes one character off the front of a list of
bytes, or the longest run that starts an encoding without completing one; such
a run is at least one byte long, so decoding comes to an end. The bytes allowed
behind a first byte depend on it, which rules out encodings that are longer
than needed, the halves of encodings by sixteen bits, and code points out of
range.

## Main definitions

* `Utf8.encode`: The bytes of a list of characters.
* `Utf8.next`: One character, or one ill-formed run, off the front.
* `Utf8.decode`: The characters of a list of bytes, or the position of the
  first byte that is not part of one.
* `Utf8.decodeLossy`: The characters, with a replacement for each ill-formed
  run.

## Theorems

* `next_encode`: Decoding takes off what encoding put in front.
* `decode_encode`: Encoded characters are decoded to themselves.
* `exists_of_mem_encode`: An ASCII byte stands for an ASCII character.
-/

namespace IrcHarness

namespace Utf8

/-- The bytes of a list of characters. -/
def encode (cs : List Char) : List UInt8 :=
  cs.flatMap String.utf8EncodeChar

/-- The bytes of a text. -/
def ofString (s : String) : List UInt8 :=
  encode s.toList

/-- What stands at the front of a list of bytes. -/
inductive Step where
  /-- Nothing. -/
  | done
  /-- A character, and the bytes behind it. -/
  | char (c : Char) (rest : List UInt8)
  /-- A run that is no character, and the bytes behind it. -/
  | bad (rest : List UInt8)

/-- Bytes left behind the front, none when there was nothing. -/
def Step.rest : Step → List UInt8
  | .done => []
  | .char _ rest => rest
  | .bad rest => rest

/-- Take `more` continuation bytes, the first of them between `lo` and `hi`,
    behind an encoding that has given `code` so far. -/
def continuation (lo hi : Nat) : Nat → Nat → List UInt8 → Step
  | 0, code, bytes => .char (Char.ofNat code) bytes
  | _ + 1, _, [] => .bad []
  | more + 1, code, b :: rest =>
    if lo ≤ b.toNat ∧ b.toNat ≤ hi then
      continuation 0x80 0xBF more (code * 64 + (b.toNat - 0x80)) rest
    else .bad (b :: rest)

/-- Take one character, or one ill-formed run, off the front. -/
def next : List UInt8 → Step
  | [] => .done
  | b :: rest =>
    let n := b.toNat
    if n < 0x80 then .char (Char.ofNat n) rest
    else if n < 0xC2 then .bad rest
    else if n < 0xE0 then continuation 0x80 0xBF 1 (n - 0xC0) rest
    else if n < 0xF0 then
      continuation (if n = 0xE0 then 0xA0 else 0x80) (if n = 0xED then 0x9F else 0xBF)
        2 (n - 0xE0) rest
    else if n < 0xF5 then
      continuation (if n = 0xF0 then 0x90 else 0x80) (if n = 0xF4 then 0x8F else 0xBF)
        3 (n - 0xF0) rest
    else .bad rest

theorem continuation_rest_le (lo hi more code : Nat) (bytes : List UInt8) :
    (continuation lo hi more code bytes).rest.length ≤ bytes.length := by
  induction more generalizing lo hi code bytes with
  | zero => simp [continuation, Step.rest]
  | succ more ih =>
      cases bytes with
      | nil => simp [continuation, Step.rest]
      | cons b rest =>
          simp only [continuation]
          split
          · exact Nat.le_succ_of_le (ih 0x80 0xBF (code * 64 + (b.toNat - 0x80)) rest)
          · simp [Step.rest]

theorem next_rest_lt (b : UInt8) (bytes : List UInt8) :
    (next (b :: bytes)).rest.length < (b :: bytes).length := by
  have hc := fun lo hi more code => continuation_rest_le lo hi more code bytes
  simp only [next, List.length_cons]
  split
  · simp [Step.rest]
  · split
    · simp [Step.rest]
    · split
      · exact Nat.lt_succ_of_le (hc ..)
      · split
        · exact Nat.lt_succ_of_le (hc ..)
        · split
          · exact Nat.lt_succ_of_le (hc ..)
          · simp [Step.rest]

theorem length_lt_of_next_char {bytes rest : List UInt8} {c : Char}
    (h : next bytes = .char c rest) : rest.length < bytes.length := by
  cases bytes with
  | nil => simp [next] at h
  | cons b bytes =>
      have hlt := next_rest_lt b bytes
      rw [h] at hlt
      exact hlt

theorem length_lt_of_next_bad {bytes rest : List UInt8} (h : next bytes = .bad rest) :
    rest.length < bytes.length := by
  cases bytes with
  | nil => simp [next] at h
  | cons b bytes =>
      have hlt := next_rest_lt b bytes
      rw [h] at hlt
      exact hlt

/-- The characters of a list of bytes, or the number of bytes in front of the
    first that is not part of a character. -/
def decode (bytes : List UInt8) : Except Nat (List Char) :=
  match _h : next bytes with
  | .done => .ok []
  | .bad _ => .error 0
  | .char c rest =>
    match decode rest with
    | .ok cs => .ok (c :: cs)
    | .error position => .error (c.utf8Size + position)
termination_by bytes.length
decreasing_by exact length_lt_of_next_char _h

/-- The character that stands for an ill-formed run. -/
def replacement : Char := '\uFFFD'

/-- The characters of a list of bytes, with a replacement for each ill-formed
    run. -/
def decodeLossy (bytes : List UInt8) : List Char :=
  match _h : next bytes with
  | .done => []
  | .bad rest => replacement :: decodeLossy rest
  | .char c rest => c :: decodeLossy rest
termination_by bytes.length
decreasing_by
  · exact length_lt_of_next_bad _h
  · exact length_lt_of_next_char _h

theorem next_encode (c : Char) (bytes : List UInt8) :
    next (String.utf8EncodeChar c ++ bytes) = .char c bytes := by
  have hval : c.toNat < 0xD800 ∨ (0xDFFF < c.toNat ∧ c.toNat < 0x110000) := c.valid
  have hofNat : Char.ofNat c.toNat = c := Char.ofNat_toNat c
  have hv : c.val.toNat = c.toNat := rfl
  simp only [String.utf8EncodeChar, hv]
  split
  -- One byte, which is the code point itself.
  · have h0 : (UInt8.ofNat c.toNat).toNat = c.toNat := by
      rw [UInt8.toNat_ofNat']
      omega
    simp only [List.cons_append, List.nil_append, next, h0]
    rw [if_pos (by omega), hofNat]
  · split
    -- Two bytes: the first is at least C2, since the code point is at least 80.
    · have h0 : (UInt8.ofNat (c.toNat / 64 % 32 + 0xC0)).toNat = c.toNat / 64 + 0xC0 := by
        rw [UInt8.toNat_ofNat']
        omega
      have h1 : (UInt8.ofNat (c.toNat % 64 + 0x80)).toNat = c.toNat % 64 + 0x80 := by
        rw [UInt8.toNat_ofNat']
        omega
      simp only [List.cons_append, List.nil_append, next, continuation, h0, h1]
      rw [if_neg (by omega), if_neg (by omega), if_pos (by omega), if_pos (by omega)]
      rw [show (c.toNat / 64 + 192 - 192) * 64 + (c.toNat % 64 + 128 - 128) = c.toNat by omega,
        hofNat]
    · split
      -- Three bytes: the range of the second depends on the first, and the
      -- halves of surrogate pairs are no characters.
      · have h0 : (UInt8.ofNat (c.toNat / 4096 % 16 + 0xE0)).toNat = c.toNat / 4096 + 0xE0 := by
          rw [UInt8.toNat_ofNat']
          omega
        have h1 : (UInt8.ofNat (c.toNat / 64 % 64 + 0x80)).toNat = c.toNat / 64 % 64 + 0x80 := by
          rw [UInt8.toNat_ofNat']
          omega
        have h2 : (UInt8.ofNat (c.toNat % 64 + 0x80)).toNat = c.toNat % 64 + 0x80 := by
          rw [UInt8.toNat_ofNat']
          omega
        simp only [List.cons_append, List.nil_append, next, continuation, h0, h1, h2]
        rw [if_neg (by omega), if_neg (by omega), if_neg (by omega), if_pos (by omega)]
        rw [if_pos (by split <;> split <;> omega), if_pos (by omega)]
        rw [show ((c.toNat / 4096 + 224 - 224) * 64 + (c.toNat / 64 % 64 + 128 - 128)) * 64
          + (c.toNat % 64 + 128 - 128) = c.toNat by omega, hofNat]
      -- Four bytes: the range of the second depends on the first again.
      · have h0 : (UInt8.ofNat (c.toNat / 262144 % 8 + 0xF0)).toNat
            = c.toNat / 262144 + 0xF0 := by
          rw [UInt8.toNat_ofNat']
          omega
        have h1 : (UInt8.ofNat (c.toNat / 4096 % 64 + 0x80)).toNat
            = c.toNat / 4096 % 64 + 0x80 := by
          rw [UInt8.toNat_ofNat']
          omega
        have h2 : (UInt8.ofNat (c.toNat / 64 % 64 + 0x80)).toNat = c.toNat / 64 % 64 + 0x80 := by
          rw [UInt8.toNat_ofNat']
          omega
        have h3 : (UInt8.ofNat (c.toNat % 64 + 0x80)).toNat = c.toNat % 64 + 0x80 := by
          rw [UInt8.toNat_ofNat']
          omega
        simp only [List.cons_append, List.nil_append, next, continuation, h0, h1, h2, h3]
        rw [if_neg (by omega), if_neg (by omega), if_neg (by omega), if_neg (by omega),
          if_pos (by omega)]
        rw [if_pos (by split <;> split <;> omega), if_pos (by omega), if_pos (by omega)]
        rw [show (((c.toNat / 262144 + 240 - 240) * 64 + (c.toNat / 4096 % 64 + 128 - 128)) * 64
          + (c.toNat / 64 % 64 + 128 - 128)) * 64 + (c.toNat % 64 + 128 - 128) = c.toNat by omega,
          hofNat]

theorem decode_of_next_char {bytes rest : List UInt8} {c : Char}
    (h : next bytes = .char c rest) :
    decode bytes = match decode rest with
      | .ok cs => .ok (c :: cs)
      | .error position => .error (c.utf8Size + position) := by
  rw [decode]
  split <;> simp_all

theorem decode_encode (cs : List Char) : decode (encode cs) = .ok cs := by
  induction cs with
  | nil => simp [encode, decode, next]
  | cons c cs ih =>
      have h : encode (c :: cs) = String.utf8EncodeChar c ++ encode cs := rfl
      rw [h, decode_of_next_char (next_encode c (encode cs)), ih]

/-- An ASCII byte stands only for its own character, and never within the
    encoding of another one. -/
theorem exists_of_mem_encode {b : UInt8} {cs : List Char} (hb : b.toNat < 0x80)
    (h : b ∈ encode cs) : ∃ c ∈ cs, c.toNat = b.toNat := by
  rcases List.mem_flatMap.1 h with ⟨c, hc, hbc⟩
  refine ⟨c, hc, ?_⟩
  have hv : c.val.toNat = c.toNat := rfl
  have hlt : c.toNat < 0x110000 := by
    have hvalid : c.toNat < 0xD800 ∨ (0xDFFF < c.toNat ∧ c.toNat < 0x110000) := c.valid
    omega
  have hbyte : ∀ n, n < 256 → (UInt8.ofNat n).toNat = n := by
    intro n hn
    rw [UInt8.toNat_ofNat']
    omega
  -- In a longer encoding every byte has its highest bit set.
  have hhigh : ∀ n, 0x80 ≤ n → n < 256 → b ≠ UInt8.ofNat n := by
    intro n hn hn' he
    have := hbyte n hn'
    rw [← he] at this
    omega
  simp only [String.utf8EncodeChar, hv] at hbc
  split at hbc
  · simp only [List.mem_singleton] at hbc
    rw [hbc, hbyte _ (by omega)]
  · split at hbc
    · simp only [List.mem_cons, List.not_mem_nil, or_false] at hbc
      rcases hbc with hbc | hbc
      · exact absurd hbc (hhigh _ (by omega) (by omega))
      · exact absurd hbc (hhigh _ (by omega) (by omega))
    · split at hbc
      · simp only [List.mem_cons, List.not_mem_nil, or_false] at hbc
        rcases hbc with hbc | hbc | hbc
        · exact absurd hbc (hhigh _ (by omega) (by omega))
        · exact absurd hbc (hhigh _ (by omega) (by omega))
        · exact absurd hbc (hhigh _ (by omega) (by omega))
      · simp only [List.mem_cons, List.not_mem_nil, or_false] at hbc
        rcases hbc with hbc | hbc | hbc | hbc
        · exact absurd hbc (hhigh _ (by omega) (by omega))
        · exact absurd hbc (hhigh _ (by omega) (by omega))
        · exact absurd hbc (hhigh _ (by omega) (by omega))
        · exact absurd hbc (hhigh _ (by omega) (by omega))

end Utf8

end IrcHarness
