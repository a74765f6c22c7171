import IrcHarness.Proofs.Message.Grammar
import IrcHarness.Proofs.Message.RoundTrip
import IrcHarness.Proofs.Text.Digits
import IrcHarness.Proofs.Transport.Sending
import IrcHarness.Proofs.Transport.Synchronization

/-!
# What a Token Says

A token ends with its number, and no digit is a dot, so the number can be read
back from behind the last dot. That makes the tokens of one transport distinct
whatever the clock shows, also when it stands still or goes back.

A token is made of letters, digits and dots. It is one word, so the line that
carries it goes out as it is made and reads back as a `PING` with this token as
its only parameter.

## Main definitions

* `Message.ping`: The message that asks for a token.

## Theorems

* `Token.number_eq_of_text_eq`: Equal tokens have equal numbers.
* `nodup_tokens`: The tokens of a transport are distinct.
* `parse_ping`: The line of a `PING` says what it should.
* `outgoing_collectLines`: A synchronized collection writes one such line.
* `count_collectLines`: It makes one token.
-/

namespace IrcHarness

namespace Token

theorem isDigit_of_mem_decimal {c : Char} {n : Nat} (h : c ∈ Digit.decimal n) :
    c.isDigit = true :=
  Nat.isDigit_of_mem_toDigits (by omega) (by omega) h

/-- The number of a token stands behind its last dot. -/
theorem behindLast_chars (reading : Duration) (number : Nat) :
    TagKey.behindLast '.' (chars reading number) = Digit.decimal number := by
  rw [TagKey.behindLast_eq_iff]
  refine ⟨.inr ⟨_, (List.append_assoc _ ('.' :: _) _).symm⟩, fun h => ?_⟩
  exact Bool.false_ne_true (isDigit_of_mem_decimal h)

/-- Equal tokens have equal numbers, whatever the clock has shown. -/
theorem number_eq_of_text_eq {reading reading' : Duration} {number number' : Nat}
    (h : text reading number = text reading' number') : number = number' := by
  have hchars : chars reading number = chars reading' number' := String.ofList_injective h
  have hlast := congrArg (TagKey.behindLast '.') hchars
  rw [behindLast_chars, behindLast_chars] at hlast
  exact Digit.decimal_injective hlast

/-- A token is one word. -/
theorem isWordBreaker_of_mem {reading : Duration} {number : Nat} {c : Char}
    (h : c ∈ chars reading number) : Message.isWordBreaker c = false := by
  have hdigit : ∀ n, c ∈ Digit.decimal n → Message.isWordBreaker c = false := by
    intro n hc
    have hd := isDigit_of_mem_decimal hc
    rw [Message.isWordBreaker_eq_false_iff]
    refine ⟨?_, ?_⟩
    · rintro rfl
      exact Bool.false_ne_true hd
    · simp only [Message.isLineBreaker, Bool.or_eq_false_iff, decide_eq_false_iff_not]
      refine ⟨⟨?_, ?_⟩, ?_⟩ <;>
        · rintro rfl
          exact Bool.false_ne_true hd
  have hdot : c = '.' → Message.isWordBreaker c = false := by
    rintro rfl
    decide
  simp only [chars, List.mem_append, List.mem_cons, List.not_mem_nil, or_false] at h
  rcases h with (h | h) | h | h | h | h
  · rcases h with rfl | rfl | rfl | rfl <;> decide
  · exact hdigit _ h
  · exact hdot h
  · rcases List.mem_append.1 h with h | h
    · rw [(List.mem_replicate.1 h).2]
      decide
    · exact hdigit _ h
  · exact hdot h
  · exact hdigit _ h

end Token

namespace Message

/-- The message that asks for a token. -/
def ping (token : String) : Message :=
  ⟨[], none, "PING", [token]⟩

variable (reading : Duration) (number : Nat)

/-- A token is written without a colon. -/
theorem needsColon_token : needsColon (Token.text reading number).toList = false := by
  rw [Token.text, String.toList_ofList, needsColon_eq_false_iff]
  refine ⟨List.cons_ne_nil _ _, fun h => ?_, ?_⟩
  · exact absurd (Token.isWordBreaker_of_mem h) (by decide)
  · simp [Token.chars]

theorem readable_ping : (ping (Token.text reading number)).Readable := by
  have hcommand : isWritableCommand "PING".toList = true := by decide
  refine ⟨⟨fun _ h => absurd h List.not_mem_nil, fun _ h => absurd h (Option.some_ne_none _).symm,
    hcommand, ?_, ?_⟩, List.Pairwise.nil, fun _ h => absurd h List.not_mem_nil⟩
  · intro p hp c hc
    rw [ping, List.map_singleton, List.mem_singleton] at hp
    rw [hp, Token.text, String.toList_ofList] at hc
    exact ((isWordBreaker_eq_false_iff c).1 (Token.isWordBreaker_of_mem hc)).2
  · intro p hp
    rw [ping, List.map_singleton, List.dropLast_singleton] at hp
    exact absurd hp List.not_mem_nil

theorem render_ping :
    (ping (Token.text reading number)).render = "PING " ++ Token.text reading number ++ "\r\n" := by
  rw [← String.toList_inj, toList_render, String.toList_append, String.toList_append]
  simp [renderBody, ping, renderParams, needsColon_token]

/-- The line of a `PING` says what it should. -/
theorem parse_ping :
    parse ("PING " ++ Token.text reading number ++ "\r\n") =
      .ok (ping (Token.text reading number)) := by
  rw [← render_ping]
  exact parse_render (readable_ping reading number)

end Message

namespace Transport

variable (t : Transport)

/-- The tokens of a transport are distinct. -/
theorem nodup_tokens : t.tokens.Nodup := by
  refine (List.nodup_map_iff_inj_on List.nodup_range).2 fun a _ b _ h => ?_
  have hnumber := Token.number_eq_of_text_eq h
  omega

/-- What is written for a line goes out at once or stays behind. -/
theorem outgoing_sendLine (line : String) :
    (t.sendLine line).2.outgoing = t.outgoing.write (Line.written line) := by
  simp only [sendLine]
  split <;> rfl

/-- The line of a `PING` as it goes out. -/
theorem written_ping (reading : Duration) (number : Nat) :
    Line.written ("PING " ++ Token.text reading number) =
      "PING " ++ Token.text reading number ++ "\r\n" := by
  have hended : ¬Line.IsEnded ("PING " ++ Token.text reading number) := by
    intro h
    have hlf : '\n' ∈ ("PING " ++ Token.text reading number).toList :=
      h.subset (List.mem_cons_of_mem _ List.mem_cons_self)
    rw [String.toList_append] at hlf
    rcases List.mem_append.1 hlf with hlf | hlf
    · exact absurd hlf (by decide)
    · rw [Token.text, String.toList_ofList] at hlf
      exact Token.newline_not_mem_chars reading number hlf
  rw [Line.written, Line.withoutEnding_of_not_isEnded hended,
    Line.withoutEnding_of_not_isEnded hended]

theorem outgoing_sendPing :
    t.sendPing.2.outgoing = t.outgoing.write ("PING " ++ t.nextToken ++ "\r\n") := by
  have hsent := outgoing_sendLine { t with syncCount := t.syncCount + 1 } ("PING " ++ t.nextToken)
  rw [show Line.written ("PING " ++ t.nextToken) = _ from written_ping _ _] at hsent
  rw [nextToken] at hsent ⊢
  simp only [sendPing]
  split <;> next heq =>
    rw [heq] at hsent
    exact hsent

/-- A collection writes the line of its `PING` when it is synchronized, and
    nothing when it is not. -/
theorem outgoing_collectLines (synchronize required queued raw : Bool) (limit : Nat) :
    (t.collectLines synchronize required queued raw limit).2.outgoing =
      if synchronize then t.outgoing.write ("PING " ++ t.nextToken ++ "\r\n") else t.outgoing := by
  unfold collectLines
  by_cases hsync : synchronize = true
  · rw [if_pos hsync, if_pos hsync, ← outgoing_sendPing]
    cases t.sendPing with
    | mk answer u =>
        cases answer with
        | error e => rfl
        | ok token => exact (agree_gather _ [] u).outgoing
  · rw [if_neg hsync, if_neg hsync]
    exact (agree_gather _ [] t).outgoing

/-- A collection makes one token when it is synchronized, and none when it is
    not. -/
theorem count_collectLines (synchronize required queued raw : Bool) (limit : Nat) :
    (t.collectLines synchronize required queued raw limit).2.clock = t.clock ∧
      (t.collectLines synchronize required queued raw limit).2.syncCount =
        t.syncCount + if synchronize then 1 else 0 := by
  unfold collectLines
  by_cases hsync : synchronize = true
  · rw [if_pos hsync, if_pos hsync]
    cases hping : t.sendPing with
    | mk answer u =>
        have hclock := congrArg clock (sendPing_eq hping)
        have hcount := congrArg syncCount (sendPing_eq hping)
        cases answer with
        | error e => exact ⟨hclock, hcount⟩
        | ok token =>
            have hagree := agree_gather ⟨some token, required, queued, raw, limit⟩ [] u
            exact ⟨hagree.clock.trans hclock, hagree.syncCount.trans hcount⟩
  · rw [if_neg hsync, if_neg hsync]
    exact ⟨(agree_gather _ [] t).clock, (agree_gather _ [] t).syncCount⟩

end Transport

end IrcHarness
