import IrcHarness.Json.Printer
import IrcHarness.Json.Reader
import IrcHarness.Proofs.Text.Digits

/-!
# Reading Texts Back

A text in quotes is read as the text that it was written from, whatever characters it has.
The walk takes one written character after another, and each of the three ways to write
one is undone in a single step: as it is, with a letter behind a backslash, or by its
number (`readString_escapeChar`). No written character is the quote that ends the text, so
nothing behind the text is touched.

An object whose values are texts is read back likewise, entry by entry, into the object
that its entries describe (`read?_write_texts`). The entries need not be in order.

## Main definitions

* `Json.behindEntry`: What is read behind an entry.
* `Json.texts`: Entries with texts as values.

## Theorems

* `readUnit_hexadecimal`: A number of four digits is read back.
* `readString_escapeChar`: A written character is read back.
* `readString_writeString`: A text in quotes is read back.
* `readEntries_texts`: The entries of an object are read back.
* `read?_write_texts`: An object of texts is read back.
-/

namespace IrcHarness

namespace Json

variable {cs rest read : List Char}

theorem readUnit_append (hlen : cs.length = 4)
    (hdigits : ∀ c ∈ cs, Digit.isDigitIn 16 c = true) (rest : List Char) :
    readUnit (cs ++ rest) = some (Digit.read 16 cs, rest) := by
  match cs, hlen with
  | [a, b, c, d], _ => exact if_pos (List.all_eq_true.2 hdigits)

/-- A number of up to four hexadecimal digits is read back. -/
theorem readUnit_hexadecimal {n : Nat} (h : n < 16 ^ 4) (rest : List Char) :
    readUnit (Digit.padded 4 (Digit.hexadecimal n) ++ rest) = some (n, rest) := by
  have hlen : (Digit.hexadecimal n).length ≤ 4 :=
    (Nat.length_toDigits_le_iff (by decide) (by decide)).2 h
  have hfour : (Digit.padded 4 (Digit.hexadecimal n)).length = 4 := by
    rw [Digit.padded, List.length_append, List.length_replicate]
    omega
  have hdigits : ∀ c ∈ Digit.padded 4 (Digit.hexadecimal n), Digit.isDigitIn 16 c = true := by
    intro c hc
    rcases List.mem_append.1 hc with hc | hc
    · rw [(List.mem_replicate.1 hc).2]
      decide
    · exact Digit.isDigitIn_of_mem_toDigits (by decide) (by decide) hc
  rw [readUnit_append hfour hdigits, Digit.read_padded, Digit.hexadecimal,
    Digit.read_toDigits (by decide) (by decide)]

theorem readString_escape {d : Char} {cs more : List Char} (h : readEscape cs = some (d, more))
    (steps : Nat) : readString (steps + 1) read ('\\' :: cs) = readString steps (d :: read) more := by
  rw [readString, if_neg (by decide), if_pos rfl, h]

/-- A written character is read back. -/
theorem readString_escapeChar (steps : Nat) (c : Char) :
    readString (steps + 1) read (escapeChar c ++ rest) = readString steps (c :: read) rest := by
  unfold escapeChar
  split
  -- Seven characters have a letter of their own.
  · exact readString_escape rfl steps
  · exact readString_escape rfl steps
  · exact readString_escape rfl steps
  · exact readString_escape rfl steps
  · exact readString_escape rfl steps
  · exact readString_escape rfl steps
  · exact readString_escape rfl steps
  · next hquote hbackslash _ _ _ _ _ =>
    split
    · next hlow =>
      -- A number this small is no half of a pair, so it stands for a character alone.
      have hread : readEscape ('u' :: (Digit.padded 4 (Digit.hexadecimal c.toNat) ++ rest)) =
          some (c, rest) := by
        rw [readEscape, readUnit_hexadecimal (by omega)]
        dsimp only
        rw [if_pos (.inl (by omega)), Char.ofNat_toNat]
      exact readString_escape hread steps
    · next hlow =>
      rw [List.cons_append, List.nil_append, readString, if_neg hquote, if_neg hbackslash,
        if_neg hlow]

/-- Characters that were written up to the quote are read back. -/
theorem readString_flatMap {steps : Nat} (h : cs.length < steps) :
    readString steps read (cs.flatMap escapeChar ++ '"' :: rest) =
      some (String.ofList (read.reverse ++ cs), rest) := by
  induction cs generalizing steps read with
  | nil =>
      cases steps with
      | zero => cases h
      | succ steps => rw [List.flatMap_nil, List.nil_append, readString, if_pos rfl, List.append_nil]
  | cons c cs ih =>
      cases steps with
      | zero => cases h
      | succ steps =>
          rw [List.flatMap_cons, List.append_assoc, readString_escapeChar,
            ih (Nat.lt_of_succ_lt_succ h), List.reverse_cons, List.append_assoc]
          rfl

theorem writeString_append (s : String) (rest : List Char) :
    writeString s ++ rest = '"' :: (s.toList.flatMap escapeChar ++ '"' :: rest) := by
  rw [writeString, List.cons_append, List.append_assoc]
  rfl

theorem length_escapeChar_pos (c : Char) : 0 < (escapeChar c).length := by
  unfold escapeChar
  grind

theorem length_le_flatMap_escapeChar (cs : List Char) :
    cs.length ≤ (cs.flatMap escapeChar).length := by
  induction cs with
  | nil => exact Nat.le_refl _
  | cons c cs ih =>
      have hone := length_escapeChar_pos c
      rw [List.flatMap_cons, List.length_append, List.length_cons]
      omega

/-- A text in quotes is read back, behind the quote that begins it. -/
theorem readString_writeString (s : String) (rest : List Char) :
    readString ((s.toList.flatMap escapeChar ++ '"' :: rest).length + 1) []
      (s.toList.flatMap escapeChar ++ '"' :: rest) = some (s, rest) := by
  have hlen := length_le_flatMap_escapeChar s.toList
  rw [readString_flatMap (by rw [List.length_append]; omega), List.reverse_nil, List.nil_append,
    String.ofList_toList]

theorem readValue_writeString (steps : Nat) (s : String) (rest : List Char) :
    readValue (steps + 1) (writeString s ++ rest) = some (.string s, rest) := by
  have hquote : ∀ cs, readValue (steps + 1) ('"' :: cs) =
      (readString (cs.length + 1) [] cs).map fun r => (.string r.1, r.2) := fun _ => rfl
  rw [writeString_append, hquote, readString_writeString, Option.map_some]

/-- What is read behind an entry: the brace that closes the object, or a comma and further
    entries. -/
def behindEntry (steps : Nat) (entry : String × Json) (cs : List Char) :
    Option (List (String × Json) × List Char) :=
  match dropSpace cs with
  | '\x7d' :: rest => some ([entry], rest)
  | ',' :: rest => (readEntries steps rest).map fun r => (entry :: r.1, r.2)
  | _ => none

/-- An entry is read back, and then what is behind it. -/
theorem readEntries_entry (steps : Nat) (key s : String) (rest : List Char) :
    readEntries (steps + 2) (writeString key ++ ':' :: (writeString s ++ rest)) =
      behindEntry (steps + 1) (key, .string s) rest := by
  have hquote : ∀ cs, dropSpace ('"' :: cs) = '"' :: cs := fun _ => rfl
  have hcolon : ∀ cs, dropSpace (':' :: cs) = ':' :: cs := fun _ => rfl
  rw [writeString_append, readEntries, hquote]
  simp only [readString_writeString, hcolon, readValue_writeString]
  rfl

theorem behindEntry_brace (steps : Nat) (entry : String × Json) (rest : List Char) :
    behindEntry steps entry ('\x7d' :: rest) = some ([entry], rest) := rfl

theorem behindEntry_comma (steps : Nat) (entry : String × Json) (rest : List Char) :
    behindEntry steps entry (',' :: rest) =
      (readEntries steps rest).map fun r => (entry :: r.1, r.2) := rfl

/-- Entries with texts as values. -/
def texts (entries : List (String × String)) : List (String × Json) :=
  entries.map fun e => (e.1, .string e.2)

/-- The entries of an object are read back, up to the brace that closes it. -/
theorem readEntries_texts (key s : String) (entries : List (String × String)) (steps : Nat)
    (rest : List Char) :
    readEntries (entries.length + steps + 2)
        (writeString key ++ ':' :: (writeString s ++ (writeFields (texts entries) ++ rest))) =
      some (texts ((key, s) :: entries), rest) := by
  induction entries generalizing key s with
  | nil =>
      rw [readEntries_entry]
      exact behindEntry_brace _ _ rest
  | cons e entries ih =>
      have hmore : writeFields (texts (e :: entries)) ++ rest =
          ',' :: (writeString e.1 ++ ':' ::
            (writeString e.2 ++ (writeFields (texts entries) ++ rest))) := by
        simp [texts, writeFields, writeChars]
      have hsteps : (e :: entries).length + steps + 2 = entries.length + steps + 1 + 2 := by
        rw [List.length_cons]
        omega
      rw [hsteps, readEntries_entry, hmore, behindEntry_comma, ih]
      rfl

theorem length_lt_writeFields (fields : List (String × Json)) :
    fields.length < (writeFields fields).length := by
  induction fields with
  | nil => exact Nat.zero_lt_one
  | cons f fields ih =>
      rw [writeFields, List.length_cons, List.length_cons, List.length_append, List.length_cons,
        List.length_append]
      omega

/-- An object of texts is read back as the object that its entries describe. -/
theorem read?_write_texts (entries : List (String × String)) :
    read? (write (.object (texts entries))) = some (ofFields (texts entries)) := by
  unfold read? write
  rw [String.toList_ofList]
  dsimp only
  cases entries with
  | nil => rfl
  | cons e entries =>
      have hbrace : ∀ steps, readValue (steps + 1) (writeChars (.object (texts (e :: entries)))) =
          (readEntries steps (writeString e.1 ++ ':' ::
            (writeString e.2 ++ (writeFields (texts entries) ++ [])))).map
              fun r => (ofFields r.1, r.2) := by
        intro steps
        rw [List.append_nil]
        rfl
      -- Every entry takes up some of the text, so the amount for nesting suffices.
      have hlen : entries.length < (writeChars (.object (texts (e :: entries)))).length := by
        have h := length_lt_writeFields (texts entries)
        rw [texts, List.length_map] at h
        simp only [texts, List.map_cons, writeChars, List.length_cons, List.length_append]
        omega
      generalize writeChars (.object (texts (e :: entries))) = cs at *
      have hsteps : 2 * cs.length + 1 =
          entries.length + (2 * cs.length - entries.length - 1) + 2 := by omega
      rw [hbrace, hsteps, readEntries_texts]
      rfl

end Json

end IrcHarness
