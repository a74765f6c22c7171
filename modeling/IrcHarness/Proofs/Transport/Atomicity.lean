import IrcHarness.Proofs.Transport.Collection

/-!
# Collections That Fail

A collection can fail at many places, and after any number of lines. Whatever
it has taken by then is gone, but nothing else is: the messages that were left
over by an earlier call stay where they were, and when it was a line that made
the collection fail, the stream stands right behind that line, so that the next
call goes on with the next one.

The first half holds of every state, since a collection touches the messages
that were left over only after it has succeeded. The second half needs a
framing that is sound. It is read off the lines that the collection took
(`ends_of_collectLines`), of which the last one is to blame.

## Main definitions

* `Transport.FailsAt`: A collection failed at a line and left the rest.

## Theorems

* `failsAt_of_collectLines`: A line that fails a collection is its last.
* `failed_collection_atomic`: What a collection that fails leaves behind.
-/

namespace IrcHarness

open StreamItem (ofBytes)

namespace Transport

/-- A collection failed at a line. The lines in front of it were kept, the line
    itself gives the reason, everything behind it is still to come, and no read
    has failed on the way. -/
def FailsAt (t : Transport) (r : Request) (e : TransportError) (t' : Transport) : Prop :=
  ∃ lines taken line, r.Keeps [] lines taken ∧ r.Offends taken line e ∧
    Takes t (lines ++ [line]) t' ∧ t'.Undisturbed

variable {t u : Transport}

/-- A line that fails a collection is the last line that it takes. -/
theorem failsAt_of_collectLines (h : t.Undisturbed) {synchronize required queued raw : Bool}
    {limit : Nat} {e : TransportError} (he : e.IsRefusal)
    (hfail : t.collectLines synchronize required queued raw limit = (.error e, u)) :
    ∃ lines taken line,
      (t.request synchronize required queued raw limit).Keeps [] lines taken ∧
        (t.request synchronize required queued raw limit).Offends taken line e ∧
        Takes t (lines ++ [line]) u := by
  rcases ends_of_collectLines h.sound hfail with (hclosed | ⟨f, hfault⟩) | ⟨lines, hends, htake, _⟩
  -- Neither the end of the stream nor a failed read is the fault of a line.
  · rw [Outcome.error.injEq] at hclosed
    rw [hclosed] at he
    exact he.elim
  · rw [Outcome.error.injEq] at hfault
    rw [hfault] at he
    exact he.elim
  · cases hends with
    | refused hkept hoffends => exact ⟨_, _, _, hkept, hoffends, htake⟩

/-- A call that only takes lines off the stream disturbs nothing. -/
theorem Undisturbed.of_takes {lines : List (List UInt8)} (h : t.Undisturbed) (hcall : Call t u)
    (htake : Takes t lines u) : u.Undisturbed :=
  h.call hcall htake.faults

theorem error_of_collect {synchronize required : Bool} {limit : Nat} {e : TransportError}
    (h : (t.collect synchronize required limit).1 = .error e) :
    t.collectLines synchronize (required && t.inbox.isEmpty) (!t.inbox.isEmpty) false limit =
      (.error e, (t.collect synchronize required limit).2) := by
  unfold collect at h ⊢
  simp only [Bool.not_not] at h ⊢
  split at h
  · cases h
  · next e' u hlines =>
      rw [hlines]
      rw [Outcome.error.injEq] at h
      rw [h]
  · cases h

theorem error_of_collectRaw {synchronize required : Bool} {limit : Nat} {e : TransportError}
    (h : (t.collectRaw synchronize required limit).1 = .error e) :
    t.collectLines synchronize required false true limit =
      (.error e, (t.collectRaw synchronize required limit).2) := by
  unfold collectRaw at h ⊢
  cases hlines : t.collectLines synchronize required false true limit with
  | mk outcome u =>
      rw [hlines] at h
      cases outcome with
      | ok lines => cases h
      | error e' =>
          rw [Outcome.error.inj h]
      | abandoned => cases h

/-- What a collection that fails leaves behind. The messages that were left over
    by an earlier call stay, and so they do in a collection of lines, which has
    no use for them. When a line made the collection fail, in a state that was
    reached without a failed read, the stream stands right behind that line. -/
theorem failed_collection_atomic (t : Transport) (synchronize required : Bool) (limit : Nat) :
    ((∀ messages, (t.collect synchronize required limit).1 ≠ .ok messages) →
        (t.collect synchronize required limit).2.inbox = t.inbox) ∧
      (t.collectRaw synchronize required limit).2.inbox = t.inbox ∧
      (t.Undisturbed → ∀ e : TransportError, e.IsRefusal →
        ((t.collect synchronize required limit).1 = .error e →
            t.FailsAt
              (t.request synchronize (required && t.inbox.isEmpty) (!t.inbox.isEmpty) false limit)
              e (t.collect synchronize required limit).2) ∧
          ((t.collectRaw synchronize required limit).1 = .error e →
            t.FailsAt (t.request synchronize required false true limit) e
              (t.collectRaw synchronize required limit).2)) := by
  refine ⟨fun hfailed => ?_, ?_, fun h e he => ⟨fun hfail => ?_, fun hfail => ?_⟩⟩
  · have hinbox := inbox_collectLines t synchronize (required && !!t.inbox.isEmpty)
      (!t.inbox.isEmpty) false limit
    unfold collect at hfailed ⊢
    dsimp only at hfailed ⊢
    split
    · next lines u hlines =>
        rw [hlines] at hfailed
        exact absurd rfl (hfailed _)
    · next e u hlines =>
        rw [hlines] at hinbox
        exact hinbox
    · next u hlines =>
        rw [hlines] at hinbox
        exact hinbox
  · exact inbox_collectLines t synchronize required false true limit
  · rcases failsAt_of_collectLines h he (error_of_collect hfail) with
      ⟨lines, taken, line, hkept, hoffends, htake⟩
    exact ⟨lines, taken, line, hkept, hoffends, htake, h.of_takes (.collect ..) htake⟩
  · rcases failsAt_of_collectLines h he (error_of_collectRaw hfail) with
      ⟨lines, taken, line, hkept, hoffends, htake⟩
    exact ⟨lines, taken, line, hkept, hoffends, htake, h.of_takes (.collectRaw ..) htake⟩

/-- One message is left over from a search, and the next collection takes a
    message and then a line that has no command. The message that was left over
    stays, and the stream goes on behind the line. -/
theorem failed_collection_atomic_left_over :
    ∃ t : Transport, t.Undisturbed ∧ t.inbox = [⟨[], none, "NOTICE", ["a", "queued"]⟩] ∧
      (t.collect true false 10000).1 = .error (.parse "@a=b" (.missingCommand "@a=b")) ∧
      (t.collect true false 10000).2.inbox = [⟨[], none, "NOTICE", ["a", "queued"]⟩] ∧
      t.FailsAt (t.request true false true false 10000) (.parse "@a=b" (.missingCommand "@a=b"))
        (t.collect true false 10000).2 ∧
      (t.collect true false 10000).2.unread = Utf8.ofString "TAIL" := by
  have hrun : ∃ t : Transport, t.Undisturbed ∧
      t.inbox = [⟨[], none, "NOTICE", ["a", "queued"]⟩] ∧
      (t.collect true false 10000).1 = .error (.parse "@a=b" (.missingCommand "@a=b")) ∧
      (t.collect true false 10000).2.unread = Utf8.ofString "TAIL" := by
    have hstart := Undisturbed.willDo (.initial "c" .initial fun _ => ⟨0, 0⟩)
      [.data [.literal (Utf8.ofString "PRIVMSG a :want\r\nNOTICE a :queued\r\nPONG "),
          .latestToken, .literal (Utf8.ofString "\r\n")],
        .data [.literal (Utf8.ofString "NOTICE a :lost\r\n@a=b\r\nTAIL")]]
    have hleft := hstart.call (.getOne (fun _ m => (m.isCommand "PRIVMSG", ())) true 10000 () _)
      (by decide +kernel)
    exact ⟨_, hleft, by decide +kernel, by decide +kernel, by decide +kernel⟩
  rcases hrun with ⟨t, ht, hinbox, herror, hunread⟩
  have hatomic := failed_collection_atomic t true false 10000
  refine ⟨t, ht, hinbox, herror, ?_, ?_, hunread⟩
  · refine (hatomic.1 fun messages hok => ?_).trans hinbox
    rw [herror] at hok
    cases hok
  · have hfails := (hatomic.2.2 ht (.parse "@a=b" (.missingCommand "@a=b")) trivial).1 herror
    rw [hinbox] at hfails
    exact hfails

end Transport

end IrcHarness
