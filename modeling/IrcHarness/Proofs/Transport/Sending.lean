import IrcHarness.Transport.Basic
import Mathlib

/-!
# Lines as They Go Out

A line is written with an ending behind it, and a caller may give it with an
ending or without. The ending that the caller gave is taken off in two places,
once for the log and once where the bytes are made, and one is put on. So a text
that ends with one ending goes out as it is, and one without gets an ending. A
text that ends with two of them loses one. Apart from that nothing is lost
within the text, whatever stands in it, and lines follow each other without a
gap.

## Main definitions

* `Line.IsEnded`, `Line.IsEndedTwice`: A text ends with one ending, or with two.
* `Line.ended`: A text with an ending, which is put on when it is missing.
* `Line.written`: What goes out for a text.
* `Transport.sendLines`: Write lines, up to the first one that fails.

## Theorems

* `written_eq`: What goes out is the ended text, less the second of two endings.
* `written_eq_ended_iff`: Only a second ending is lost.
* `sendLines_of_writable`: Lines go out as what is written for them.
* `sendLines_writes`: Lines go out in full, unless one ends with two endings.
-/

namespace IrcHarness

namespace Line

/-- A text ends with a line ending. -/
def IsEnded (text : String) : Prop :=
  endingText <:+ text.toList

/-- A text ends with two line endings. -/
def IsEndedTwice (text : String) : Prop :=
  endingText ++ endingText <:+ text.toList

instance (text : String) : Decidable (IsEnded text) :=
  inferInstanceAs (Decidable (_ <:+ _))

instance (text : String) : Decidable (IsEndedTwice text) :=
  inferInstanceAs (Decidable (_ <:+ _))

/-- A text as a line: with the ending that it has, or with one put behind it. -/
def ended (text : String) : String :=
  if IsEnded text then text else text ++ "\r\n"

/-- What goes out for a text. -/
def written (text : String) : String :=
  withoutEnding (withoutEnding text) ++ "\r\n"

variable {text : String}

theorem isEnded_iff : IsEnded text ↔ ∃ front, text = front ++ "\r\n" := by
  constructor
  · rintro ⟨front, hfront⟩
    refine ⟨String.ofList front, ?_⟩
    rw [← String.toList_inj, String.toList_append, String.toList_ofList, ← hfront]
    rfl
  · rintro ⟨front, rfl⟩
    refine ⟨front.toList, ?_⟩
    rw [String.toList_append]
    rfl

theorem isEndedTwice_iff : IsEndedTwice text ↔ ∃ front, text = front ++ "\r\n" ++ "\r\n" := by
  constructor
  · rintro ⟨front, hfront⟩
    refine ⟨String.ofList front, ?_⟩
    rw [← String.toList_inj, String.toList_append, String.toList_append, String.toList_ofList,
      List.append_assoc, ← hfront]
    rfl
  · rintro ⟨front, rfl⟩
    refine ⟨front.toList, ?_⟩
    rw [String.toList_append, String.toList_append, List.append_assoc]
    rfl

theorem withoutEnding_of_not_isEnded (h : ¬IsEnded text) : withoutEnding text = text := by
  have hsuffix : ¬endingText.isSuffixOf text.toList = true :=
    fun hs => h (List.isSuffixOf_iff_suffix.1 hs)
  simp only [withoutEnding, if_neg hsuffix]

/-- What goes out is the text with its ending, unless there are two. Then one of
    them is lost. -/
theorem written_eq (text : String) :
    written text = if IsEndedTwice text then withoutEnding text else ended text := by
  unfold written ended
  by_cases hended : IsEnded text
  · rcases isEnded_iff.1 hended with ⟨front, rfl⟩
    rw [withoutEnding_append_ending, if_pos hended]
    by_cases hfront : IsEnded front
    · rcases isEnded_iff.1 hfront with ⟨first, rfl⟩
      rw [withoutEnding_append_ending, if_pos (isEndedTwice_iff.2 ⟨first, rfl⟩)]
    · -- A second ending would be one of the text in front of the first.
      have htwice : ¬IsEndedTwice (front ++ "\r\n") := by
        intro htwice
        rcases isEndedTwice_iff.1 htwice with ⟨first, hfirst⟩
        exact hfront (isEnded_iff.2 ⟨first, (String.append_left_inj _).1 hfirst⟩)
      rw [withoutEnding_of_not_isEnded hfront, if_neg htwice]
  · have htwice : ¬IsEndedTwice text := by
      intro htwice
      rcases isEndedTwice_iff.1 htwice with ⟨first, hfirst⟩
      exact hended (isEnded_iff.2 ⟨first ++ "\r\n", hfirst⟩)
    rw [if_neg htwice, if_neg hended, withoutEnding_of_not_isEnded hended,
      withoutEnding_of_not_isEnded hended]

/-- What is lost of a text is the second of two endings. -/
theorem length_written (text : String) :
    (written text).length + (if IsEndedTwice text then 2 else 0) = (ended text).length := by
  rw [written_eq]
  by_cases htwice : IsEndedTwice text
  · rcases isEndedTwice_iff.1 htwice with ⟨first, rfl⟩
    rw [if_pos htwice, if_pos htwice, withoutEnding_append_ending, ended,
      if_pos (isEnded_iff.2 ⟨_, rfl⟩), String.length_append (_ ++ _)]
    rfl
  · rw [if_neg htwice, if_neg htwice, Nat.add_zero]

theorem length_join_written_le (lines : List String) :
    (String.join (lines.map written)).length ≤ (String.join (lines.map ended)).length := by
  induction lines with
  | nil => exact Nat.le_refl _
  | cons line lines ih =>
      have hline := length_written line
      simp only [List.map_cons, String.join_cons, String.length_append]
      omega

/-- Lines go out with all that they are, exactly when none ends with two
    endings. -/
theorem join_written_eq_iff (lines : List String) :
    String.join (lines.map written) = String.join (lines.map ended) ↔
      ∀ line ∈ lines, ¬IsEndedTwice line := by
  constructor
  · intro h
    -- Each line with two endings makes what goes out shorter.
    have hlength := congrArg String.length h
    clear h
    induction lines with
    | nil => exact fun _ h => absurd h List.not_mem_nil
    | cons line lines ih =>
        have hline := length_written line
        have hrest := length_join_written_le lines
        simp only [List.map_cons, String.join_cons, String.length_append] at hlength
        have hone : ¬IsEndedTwice line := by
          intro htwice
          rw [if_pos htwice] at hline
          omega
        rw [if_neg hone] at hline
        intro other hother
        rcases List.mem_cons.1 hother with rfl | hother
        · exact hone
        · exact ih (by omega) other hother
  · intro h
    refine congrArg String.join (List.map_congr_left fun line hline => ?_)
    rw [written_eq, if_neg (h line hline)]

end Line

namespace Transport

/-- Write lines, up to the first one that fails. -/
def sendLines (t : Transport) : List String → Except TransportError Unit × Transport
  | [] => (.ok (), t)
  | line :: rest =>
    match t.sendLine line with
    | (.ok _, t') => t'.sendLines rest
    | (.error e, t') => (.error e, t')

variable {t : Transport}

/-- A line goes out behind all that stayed behind before. -/
theorem sendLine_of_writable (h : t.outgoing.writable = true) (line : String) :
    (t.sendLine line).1 = .ok () ∧ (t.sendLine line).2.outgoing =
      ⟨true, t.outgoing.sent ++ t.outgoing.unsent ++ Line.written line, ""⟩ := by
  simp only [sendLine, noteLine, note, Outgoing.write, h, if_true, Line.written, and_self]

/-- Lines go out one behind the other. -/
theorem sendLines_of_writable (h : t.outgoing.writable = true) (hunsent : t.outgoing.unsent = "")
    (lines : List String) :
    (t.sendLines lines).1 = .ok () ∧ (t.sendLines lines).2.outgoing =
      ⟨true, t.outgoing.sent ++ String.join (lines.map Line.written), ""⟩ := by
  induction lines generalizing t with
  | nil =>
      refine ⟨rfl, ?_⟩
      rw [List.map_nil, String.join_nil, String.append_empty, ← hunsent, ← h]
      rfl
  | cons line lines ih =>
      have hsent := sendLine_of_writable h line
      cases hline : t.sendLine line with
      | mk answer t' =>
          rw [hline] at hsent
          rcases hsent with ⟨rfl, hout⟩
          have hrest := ih (t := t') (by rw [hout]) (by rw [hout])
          rw [sendLines]
          simp only [hline]
          rw [hrest.1, hrest.2, hout, hunsent, String.append_empty, List.map_cons,
            String.join_cons, String.append_assoc]
          exact ⟨rfl, rfl⟩

/-- Lines go out one behind the other, and each of them as a text with its ending,
    except that one of two endings is lost. So all that the caller gave goes out
    exactly when no line ends with two endings. -/
theorem sendLines_writes (h : t.outgoing.writable = true) (hunsent : t.outgoing.unsent = "")
    (lines : List String) :
    (t.sendLines lines).1 = .ok () ∧
      (t.sendLines lines).2.outgoing = ⟨true, t.outgoing.sent ++ String.join (lines.map fun line =>
        if Line.IsEndedTwice line then Line.withoutEnding line else Line.ended line), ""⟩ ∧
      ((t.sendLines lines).2.outgoing.sent =
          t.outgoing.sent ++ String.join (lines.map Line.ended) ↔
        ∀ line ∈ lines, ¬Line.IsEndedTwice line) := by
  rcases sendLines_of_writable h hunsent lines with ⟨hok, hout⟩
  refine ⟨hok, ?_, ?_⟩
  · rw [hout, funext Line.written_eq]
  · rw [hout, ← Line.join_written_eq_iff]
    exact String.append_right_inj _

/-- Lines without an ending, with one, with two, and with a line feed alone. The
    third one loses an ending. -/
theorem sendLines_writes_mixed :
    (Transport.sendLines (.initial "c" .initial fun _ => ⟨0, 0⟩)
      ["NICK foo", "USER u 0 * :real\r\n", "PING x\r\n\r\n", "A\n"]).2.outgoing.sent =
        "NICK foo\r\nUSER u 0 * :real\r\nPING x\r\nA\n\r\n" := by
  have hsent := (@sendLines_writes (.initial "c" .initial fun _ => ⟨0, 0⟩) rfl rfl
    ["NICK foo", "USER u 0 * :real\r\n", "PING x\r\n\r\n", "A\n"]).2.1
  rw [hsent]
  decide +kernel

/-- A line that ends with two endings ends with one, and it does not go out as it
    is. -/
theorem sendLine_loses_ending :
    Line.IsEnded "PING x\r\n\r\n" ∧
      (Transport.sendLine (.initial "c" .initial fun _ => ⟨0, 0⟩) "PING x\r\n\r\n").1 = .ok () ∧
      (Transport.sendLine (.initial "c" .initial fun _ => ⟨0, 0⟩)
        "PING x\r\n\r\n").2.outgoing.sent = "PING x\r\n" := by
  decide +kernel

end Transport

end IrcHarness
