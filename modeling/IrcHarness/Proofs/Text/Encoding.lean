import IrcHarness.Text.Utf8

/-!
# Decoded Bytes

Decoding gives no characters but those that the bytes encode. A character has one
encoding, and the ranges that decoding asks of the bytes leave nothing else: an encoding
that is longer than needed, half of a surrogate pair or a code point out of range is
refused at its second byte. So text that was decoded is the bytes that came, and what is
said of its characters is said of them (`decode_eq_ok_iff`).

## Theorems

* `encodeChar_one` to `encodeChar_four`: The encodings, by their length.
* `eq_of_next_char`: What is taken off the front is the encoding of the character.
* `decode_eq_ok_iff`: Decoding is the inverse of encoding.
-/

namespace IrcHarness

namespace Utf8

theorem ofNat_eq_of_toNat {b : UInt8} {n : Nat} (h : n = b.toNat) : UInt8.ofNat n = b := by
  rw [h, UInt8.ofNat_toNat]

section Encodings

variable {c : Char} {a b d e : UInt8}

theorem encodeChar_one (hc : c.toNat = a.toNat) (ha : a.toNat < 0x80) :
    String.utf8EncodeChar c = [a] := by
  have hv : c.val.toNat = a.toNat := hc
  simp only [String.utf8EncodeChar, hv]
  rw [if_pos (by omega), ofNat_eq_of_toNat rfl]

theorem encodeChar_two (hc : c.toNat = (a.toNat - 0xC0) * 64 + (b.toNat - 0x80))
    (ha : 0xC2 ≤ a.toNat ∧ a.toNat < 0xE0) (hb : 0x80 ≤ b.toNat ∧ b.toNat ≤ 0xBF) :
    String.utf8EncodeChar c = [a, b] := by
  have hv : c.val.toNat = c.toNat := rfl
  simp only [String.utf8EncodeChar, hv]
  rw [if_neg (by omega), if_pos (by omega), ofNat_eq_of_toNat (b := a) (by omega),
    ofNat_eq_of_toNat (b := b) (by omega)]

theorem encodeChar_three
    (hc : c.toNat = ((a.toNat - 0xE0) * 64 + (b.toNat - 0x80)) * 64 + (d.toNat - 0x80))
    (ha : 0xE0 ≤ a.toNat ∧ a.toNat < 0xF0) (hb : 0x80 ≤ b.toNat ∧ b.toNat ≤ 0xBF)
    (hlow : a.toNat = 0xE0 → 0xA0 ≤ b.toNat) (hd : 0x80 ≤ d.toNat ∧ d.toNat ≤ 0xBF) :
    String.utf8EncodeChar c = [a, b, d] := by
  have hv : c.val.toNat = c.toNat := rfl
  simp only [String.utf8EncodeChar, hv]
  rw [if_neg (by omega), if_neg (by omega), if_pos (by omega),
    ofNat_eq_of_toNat (b := a) (by omega), ofNat_eq_of_toNat (b := b) (by omega),
    ofNat_eq_of_toNat (b := d) (by omega)]

theorem encodeChar_four
    (hc : c.toNat = (((a.toNat - 0xF0) * 64 + (b.toNat - 0x80)) * 64 + (d.toNat - 0x80)) * 64 +
      (e.toNat - 0x80))
    (ha : 0xF0 ≤ a.toNat ∧ a.toNat < 0xF5) (hb : 0x80 ≤ b.toNat ∧ b.toNat ≤ 0xBF)
    (hlow : a.toNat = 0xF0 → 0x90 ≤ b.toNat) (hd : 0x80 ≤ d.toNat ∧ d.toNat ≤ 0xBF)
    (he : 0x80 ≤ e.toNat ∧ e.toNat ≤ 0xBF) : String.utf8EncodeChar c = [a, b, d, e] := by
  have hv : c.val.toNat = c.toNat := rfl
  simp only [String.utf8EncodeChar, hv]
  rw [if_neg (by omega), if_neg (by omega), if_neg (by omega),
    ofNat_eq_of_toNat (b := a) (by omega), ofNat_eq_of_toNat (b := b) (by omega),
    ofNat_eq_of_toNat (b := d) (by omega), ofNat_eq_of_toNat (b := e) (by omega)]

end Encodings

variable {lo hi more code : Nat} {bytes rest : List UInt8} {c : Char}

theorem toNat_charOfNat {n : Nat} (h : n < 0xD800 ∨ 0xDFFF < n ∧ n < 0x110000) :
    (Char.ofNat n).toNat = n := by
  have hvalid : n.isValidChar := h
  rw [Char.ofNat, dif_pos hvalid]
  rfl

/-- A continuation that is completed begins with a byte in its range. -/
theorem continuation_succ_eq_char (h : continuation lo hi (more + 1) code bytes = .char c rest) :
    ∃ b behind, bytes = b :: behind ∧ (lo ≤ b.toNat ∧ b.toNat ≤ hi) ∧
      continuation 0x80 0xBF more (code * 64 + (b.toNat - 0x80)) behind = .char c rest := by
  cases bytes with
  | nil => cases h
  | cons b behind =>
      simp only [continuation] at h
      split at h
      · next hb => exact ⟨b, behind, rfl, hb, h⟩
      · cases h

theorem continuation_zero_eq_char (h : continuation lo hi 0 code bytes = .char c rest)
    (hcode : code < 0xD800 ∨ 0xDFFF < code ∧ code < 0x110000) : c.toNat = code ∧ bytes = rest := by
  rw [continuation, Step.char.injEq] at h
  rw [← h.1]
  exact ⟨toNat_charOfNat hcode, h.2⟩

/-- What decoding takes off the front is what encoding puts there. -/
theorem eq_of_next_char (h : next bytes = .char c rest) :
    bytes = String.utf8EncodeChar c ++ rest := by
  cases bytes with
  | nil => cases h
  | cons a bytes =>
      simp only [next] at h
      split at h
      · rw [Step.char.injEq] at h
        have hc : c.toNat = a.toNat := by
          rw [← h.1]
          exact toNat_charOfNat (by omega)
        rw [encodeChar_one hc (by omega), h.2]
        rfl
      · split at h
        · cases h
        · split at h
          -- Two bytes, the second of which may be any continuation.
          · rcases continuation_succ_eq_char h with ⟨b, behind, rfl, hb, h⟩
            rcases continuation_zero_eq_char h (by omega) with ⟨hc, rfl⟩
            rw [encodeChar_two hc (by omega) hb]
            rfl
          · split at h
            -- Three bytes, of which the second keeps out long encodings and surrogates.
            · rcases continuation_succ_eq_char h with ⟨b, behind, rfl, hb, h⟩
              rcases continuation_succ_eq_char h with ⟨d, behind, rfl, hd, h⟩
              have hrange : (0x80 ≤ b.toNat ∧ b.toNat ≤ 0xBF) ∧
                  (a.toNat = 0xE0 → 0xA0 ≤ b.toNat) ∧ (a.toNat = 0xED → b.toNat ≤ 0x9F) := by
                revert hb
                split <;> split <;> omega
              rcases continuation_zero_eq_char h (by omega) with ⟨hc, rfl⟩
              rw [encodeChar_three hc (by omega) hrange.1 hrange.2.1 hd]
              rfl
            · split at h
              -- Four bytes, of which the second keeps the code point in range.
              · rcases continuation_succ_eq_char h with ⟨b, behind, rfl, hb, h⟩
                rcases continuation_succ_eq_char h with ⟨d, behind, rfl, hd, h⟩
                rcases continuation_succ_eq_char h with ⟨e, behind, rfl, he, h⟩
                have hrange : (0x80 ≤ b.toNat ∧ b.toNat ≤ 0xBF) ∧
                    (a.toNat = 0xF0 → 0x90 ≤ b.toNat) ∧ (a.toNat = 0xF4 → b.toNat ≤ 0x8F) := by
                  revert hb
                  split <;> split <;> omega
                rcases continuation_zero_eq_char h (by omega) with ⟨hc, rfl⟩
                rw [encodeChar_four hc (by omega) hrange.1 hrange.2.1 hd he]
                rfl
              · cases h

theorem continuation_ne_done (lo hi more code : Nat) (bytes : List UInt8) :
    continuation lo hi more code bytes ≠ .done := by
  induction more generalizing lo hi code bytes with
  | zero => exact Step.noConfusion
  | succ more ih =>
      cases bytes with
      | nil => exact Step.noConfusion
      | cons b rest =>
          simp only [continuation]
          split
          · exact ih 0x80 0xBF _ rest
          · exact Step.noConfusion

/-- Decoding ends only where there are no bytes. -/
theorem next_cons_ne_done (b : UInt8) (bytes : List UInt8) : next (b :: bytes) ≠ .done := by
  simp only [next]
  split
  · exact Step.noConfusion
  · split
    · exact Step.noConfusion
    · split
      · exact continuation_ne_done _ _ _ _ bytes
      · split
        · exact continuation_ne_done _ _ _ _ bytes
        · split
          · exact continuation_ne_done _ _ _ _ bytes
          · exact Step.noConfusion

/-- Decoding gives some characters exactly if the bytes are their encoding. -/
theorem decode_eq_ok_iff (bytes : List UInt8) (cs : List Char) :
    decode bytes = .ok cs ↔ bytes = encode cs := by
  constructor
  · intro h
    fun_induction decode bytes generalizing cs with
    | case1 bytes hnext =>
        rw [Except.ok.injEq] at h
        cases bytes with
        | nil => exact congrArg encode h
        | cons b bytes => exact absurd hnext (next_cons_ne_done b bytes)
    | case2 => cases h
    | case3 bytes c rest hnext ds hrest ih =>
        rw [Except.ok.injEq] at h
        rw [← h, eq_of_next_char hnext, ih ds hrest]
        rfl
    | case4 => cases h
  · rintro rfl
    exact decode_encode cs

end Utf8

end IrcHarness
