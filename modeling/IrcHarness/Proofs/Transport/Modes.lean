import IrcHarness.Proofs.Transport.Reports

/-!
# Messages or Lines

A collection for messages and one for lines go through the same loop. They differ
in what they make of a line that is no message: the first one fails with it, the
second one keeps it. So as long as every line is a message, both do the same,
down to the log, and what they give is the same batch in two forms.

The first line that is no message parts them. Up to it they are in the same state
and have kept the same lines. Then one of them ends, and the other one goes on.
What it does from there on depends on the state alone: a collection looks at what
it has taken only to see whether that is nothing (`gather_behind`). So any other
line that is kept in this place leads to the same lines behind it, and to the same
end.

Nothing is asked of the state. Reads may have failed before, and the search of the
buffer may stand anywhere.

## Main definitions

* `Request.Consumes`: A line that a collection takes off the stream.
* `Received.Readable`: A line that was kept as the message that its text spells.
* `Request.decoding`: The same request, for messages.
* `Transport.rawRequest`: What a collection of lines asks for.
* `Outcome.Agrees`: The same batch as messages and as lines.

## Theorems

* `judge_of_message`: Both kinds of collection judge a message alike.
* `gather_behind`: What comes next does not depend on what was taken.
* `gather_decoding`: Both kinds agree up to the first line that is no message.
* `collect_agrees_with_lines`: Collecting messages and collecting lines agree.
-/

namespace IrcHarness

namespace Utf8

theorem decodeLossy_of_decode {bytes : List UInt8} {cs : List Char} (h : decode bytes = .ok cs) :
    decodeLossy bytes = cs := by
  fun_induction decode bytes generalizing cs with
  | case1 bytes hnext =>
      rw [decodeLossy]
      split <;> simp_all
  | case2 bytes rest hnext => cases h
  | case3 bytes c rest hnext ds hrest ih =>
      rw [decodeLossy]
      split <;> simp_all
  | case4 bytes c rest hnext position hrest ih => cases h

end Utf8

/-- A line of bytes that is a message is one as text as well. -/
theorem Message.parse_decodeLossy {line : List UInt8} {m : Message} (h : parseBytes line = .ok m) :
    parse (String.ofList (Utf8.decodeLossy line)) = .ok m := by
  unfold parseBytes at h
  cases hd : Utf8.decode line with
  | error position => simp only [hd, reduceCtorEq] at h
  | ok cs =>
      simp only [hd] at h
      rw [parse, Utf8.decodeLossy_of_decode hd, String.toList_ofList]
      exact h

/-- A line that was kept as the message that its text spells. -/
def Received.Readable (received : Received) : Prop :=
  ∃ m, received.message = some m ∧ Message.parse received.text = .ok m

theorem Received.map_parse_text {lines : List Received} (h : ∀ received ∈ lines, received.Readable) :
    (lines.map text).map Message.parse = (lines.filterMap message).map .ok := by
  induction lines with
  | nil => rfl
  | cons received lines ih =>
      rcases h received List.mem_cons_self with ⟨m, hm, hparse⟩
      rw [List.map_cons, List.map_cons, List.filterMap_cons_some hm, List.map_cons, hparse,
        ih fun other hother => h other (List.mem_cons_of_mem received hother)]

namespace Request

open Transport

/-- The same request, for messages. -/
def decoding (r : Request) : Request :=
  { r with raw := false }

/-- A line that a collection takes off the stream. -/
def Consumes (r : Request) (taken : List Received) (t : Transport) (line : List UInt8) : Prop :=
  ∃ u moment v, r.Asks taken t u moment ∧ u.receive moment = (.line line, v)

variable {r : Request} {taken : List Received} {t u : Transport} {line : List UInt8}

theorem isComplete_of_ne_nil {taken' : List Received} (h : taken ≠ []) (h' : taken' ≠ [])
    (unread : List UInt8) : r.isComplete taken unread = r.isComplete taken' unread := by
  simp only [isComplete, List.isEmpty_eq_false_iff.2 h, List.isEmpty_eq_false_iff.2 h']

theorem judge_of_ne_nil {taken' : List Received} (h : taken ≠ []) (h' : taken' ≠ [])
    (line : List UInt8) : r.judge taken line = r.judge taken' line := by
  simp only [judge, h, h']

/-- Both kinds of collection judge a message alike. -/
theorem judge_of_message {m : Message} (h : Message.parseBytes line = .ok m) :
    r.decoding.judge taken line = r.judge taken line := by
  simp only [judge, h, decoding]
  rfl

/-- A line that is no message is kept by the one and fails the other. -/
theorem judge_of_garbage (hraw : r.raw = true) {cause : ParseError}
    (h : Message.parseBytes line = .error cause) :
    r.judge taken line = .keep ⟨String.ofList (Utf8.decodeLossy line), none⟩ ∧
      r.decoding.judge taken line =
        .fail (.parse (String.ofList (Utf8.decodeLossy line)) cause) := by
  simp only [judge, h, hraw, decoding, if_true, Bool.false_eq_true, if_false, and_self]

/-- A line that was kept as the message that its text spells, and that is not the
    answer that the collection waits for. -/
def Suits (r : Request) (received : Received) : Prop :=
  received.Readable ∧ ∀ token m, r.token = some token → received.message = some m →
    m.answersPing token = false

/-- A message that is kept neither ends the collection nor reads otherwise than
    its text. -/
theorem suits_of_judge {m : Message} (h : Message.parseBytes line = .ok m) {received : Received}
    (hj : r.judge taken line = .keep received) : r.Suits received := by
  have hkept : received = ⟨String.ofList (Utf8.decodeLossy line), some m⟩ ∧
      ∀ token, r.token = some token → m.answersPing token = false := by
    simp only [judge, h] at hj
    split at hj
    · next hnone =>
        rw [Judgement.keep.injEq] at hj
        exact ⟨hj.symm, fun token ht => absurd (hnone.symm.trans ht) (Option.some_ne_none _).symm⟩
    · next token hsome =>
        split at hj
        · split at hj <;> cases hj
        · next hanswer =>
            split at hj
            · cases hj
            · rw [Judgement.keep.injEq] at hj
              refine ⟨hj.symm, fun other ht => ?_⟩
              rw [← Option.some.inj (hsome.symm.trans ht)]
              exact Bool.eq_false_iff.2 hanswer
  rcases hkept with ⟨rfl, htoken⟩
  refine ⟨⟨m, rfl, Message.parse_decodeLossy h⟩, fun token other ht hm => ?_⟩
  rw [← Option.some.inj hm]
  exact htoken token ht

/-- The lines that a collection consumes are the one that comes next and those
    behind it. -/
theorem consumes_iff {a : Arrival} (hopen : ¬r.isComplete taken t.unread = true)
    (h : t.receive (r.deadline t) = (a, u)) (line : List UInt8) :
    r.Consumes taken t line ↔ a = .line line ∨
      match a with
      | .line first =>
        match r.judge taken first with
        | .keep received => r.Consumes (taken ++ [received])
            (u.noteLine "<-" (String.ofList (Utf8.decodeLossy first))) line
        | .complete | .fail _ => False
      | .timedOut => (¬r.limit < t.peer.now + t.readTimeout ∧ ¬r.endsInSilence u.unread = true ∧
          t.peer.now < r.limit) ∧
          r.Consumes taken ((u.note .trace "waiting").waitUntil (t.peer.now + 1)) line
      | .closed | .fault _ => False := by
  constructor
  · rintro ⟨v, moment, w, hasks, hline⟩
    rcases (asks_iff hopen h v moment).1 hasks with ⟨rfl, rfl⟩ | hrest
    · rw [h, Prod.mk.injEq] at hline
      exact .inl hline.1
    · right
      cases a with
      | line first =>
          cases hj : r.judge taken first with
          | keep received =>
              simp only [hj] at hrest ⊢
              exact ⟨v, moment, w, hrest, hline⟩
          | complete =>
              simp only [hj] at hrest
          | fail e =>
              simp only [hj] at hrest
      | timedOut => exact ⟨hrest.1, v, moment, w, hrest.2, hline⟩
      | closed => exact hrest
      | fault f => exact hrest
  · rintro (rfl | hrest)
    · exact ⟨t, _, u, .first hopen, h⟩
    · cases a with
      | line first =>
          simp only [] at hrest
          split at hrest
          · next received hj =>
              rcases hrest with ⟨v, moment, w, hasks, hline⟩
              exact ⟨v, moment, w, .kept hopen h hj hasks, hline⟩
          · exact hrest.elim
          · exact hrest.elim
      | timedOut =>
          rcases hrest with ⟨⟨hpatient, hends, htime⟩, v, moment, w, hasks, hline⟩
          exact ⟨v, moment, w, .waited hopen h hpatient hends htime hasks, hline⟩
      | closed => exact hrest.elim
      | fault f => exact hrest.elim

theorem not_consumes_of_complete (h : r.isComplete taken t.unread = true) :
    ¬r.Consumes taken t line := by
  rintro ⟨u, moment, v, hasks, -⟩
  cases hasks with
  | first hopen => exact hopen h
  | kept hopen => exact hopen h
  | waited hopen => exact hopen h

/-- Up to the first line that is no message, a collection for lines has done what
    one for messages does. Both have kept `front`, the line is taken, and they
    part: the one for messages fails and stays where it is, and the one for lines
    goes on. -/
def PartsAt (r : Request) (taken : List Received) (t : Transport) : Prop :=
  ∃ (front : List Received) (line : List UInt8) (cause : ParseError) (u : Transport),
    (∀ received ∈ front, received.Readable) ∧ r.Consumes taken t line ∧
      Message.parseBytes line = .error cause ∧
      gather r.decoding taken t =
        (.error (.parse (String.ofList (Utf8.decodeLossy line)) cause), u) ∧
      gather r taken t =
        gather r (taken ++ front ++ [⟨String.ofList (Utf8.decodeLossy line), none⟩]) u

/-- Every line that a collection consumes is a message, and both kinds of
    collection do the same. -/
def Coincides (r : Request) (taken : List Received) (t : Transport) : Prop :=
  (∀ line, r.Consumes taken t line → ∃ m, Message.parseBytes line = .ok m) ∧
    gather r.decoding taken t = gather r taken t

end Request

namespace Transport

open Request

/-- One step of a collection behind the first line, which is the same whatever it
    has taken. -/
theorem gather_step_behind {r : Request} {taken taken' : List Received} {t u : Transport}
    {a : Arrival} (h : taken ≠ []) (h' : taken' ≠ [])
    (hopen : ¬r.isComplete taken t.unread = true) (hr : t.receive (r.deadline t) = (a, u)) :
    gather r taken' t =
      match a with
      | .line line =>
        match r.judge taken line with
        | .keep received =>
          gather r (taken' ++ [received]) (u.noteLine "<-" (String.ofList (Utf8.decodeLossy line)))
        | .complete => (.ok taken', u.noteLine "<-" (String.ofList (Utf8.decodeLossy line)))
        | .fail e => (.error e, u.noteLine "<-" (String.ofList (Utf8.decodeLossy line)))
      | .closed => (.error .connectionClosed, u)
      | .fault f =>
        if f.isDisconnect then
          (.error .connectionClosed,
            { u.note .debug "read failed" with framing := u.framing.discard })
        else (.error (.io f), u)
      | .timedOut =>
        if r.limit < t.peer.now + t.readTimeout then (.abandoned, u)
        else if r.endsInSilence u.unread then (.ok taken', u)
        else if t.peer.now < r.limit then
          gather r taken' ((u.note .trace "waiting").waitUntil (t.peer.now + 1))
        else (.abandoned, u) := by
  rw [isComplete_of_ne_nil h h'] at hopen
  rw [gather_of_receive hopen hr]
  cases a with
  | line line =>
      have hjudge := judge_of_ne_nil (r := r) h h' line
      cases hkind : r.judge taken' line <;> simp only [hjudge, hkind]
  | closed => rfl
  | fault f => rfl
  | timedOut => rfl

/-- What a collection does behind the first line depends on the state alone. It
    takes the same lines and ends in the same way, whatever it has taken. -/
theorem gather_behind (r : Request) (taken : List Received) (t : Transport) (h : taken ≠ []) :
    ∃ outcome u, ∀ taken', taken' ≠ [] →
      gather r taken' t = (Outcome.map (taken' ++ ·) outcome, u) := by
  fun_induction gather r taken t with
  | case1 taken t hc =>
      refine ⟨.ok [], t, fun taken' h' => ?_⟩
      rw [isComplete_of_ne_nil h h'] at hc
      rw [gather, if_pos hc, Outcome.map, List.append_nil]
  | case2 taken t hc line t' hr _ received hj ih =>
      rcases ih (List.append_ne_nil_of_left_ne_nil h _) with ⟨outcome, u, hnext⟩
      refine ⟨outcome.map (received :: ·), u, fun taken' h' => ?_⟩
      rw [gather_step_behind h h' hc hr]
      simp only [hj]
      rw [hnext _ (List.append_ne_nil_of_left_ne_nil h' _)]
      cases outcome <;> simp only [Outcome.map, List.append_assoc, List.singleton_append]
  | case3 taken t hc line t' hr u hj =>
      refine ⟨.ok [], u, fun taken' h' => ?_⟩
      rw [gather_step_behind h h' hc hr]
      simp only [hj, Outcome.map, List.append_nil]
      rfl
  | case4 taken t hc line t' hr u e hj =>
      refine ⟨.error e, u, fun taken' h' => ?_⟩
      rw [gather_step_behind h h' hc hr]
      simp only [hj]
      rfl
  | case5 taken t hc t' hr =>
      exact ⟨.error .connectionClosed, t', fun taken' h' => gather_step_behind h h' hc hr⟩
  | case6 taken t hc f t' hr hf u =>
      refine ⟨.error .connectionClosed, { u with framing := u.framing.discard },
        fun taken' h' => ?_⟩
      rw [gather_step_behind h h' hc hr]
      simp only [if_pos hf]
      rfl
  | case7 taken t hc f t' hr hf =>
      refine ⟨.error (.io f), t', fun taken' h' => ?_⟩
      rw [gather_step_behind h h' hc hr]
      simp only [if_neg hf]
      rfl
  | case8 taken t hc t' hr hl =>
      refine ⟨.abandoned, t', fun taken' h' => ?_⟩
      rw [gather_step_behind h h' hc hr]
      simp only [if_pos hl]
      rfl
  | case9 taken t hc t' hr hl he =>
      refine ⟨.ok [], t', fun taken' h' => ?_⟩
      rw [gather_step_behind h h' hc hr]
      simp only [if_neg hl, if_pos he, Outcome.map, List.append_nil]
  | case10 taken t hc t' hr hl he ht ih =>
      rcases ih h with ⟨outcome, u, hnext⟩
      refine ⟨outcome, u, fun taken' h' => ?_⟩
      rw [gather_step_behind h h' hc hr]
      simp only [if_neg hl, if_neg he, if_pos ht]
      exact hnext taken' h'
  | case11 taken t hc t' hr hl he ht =>
      refine ⟨.abandoned, t', fun taken' h' => ?_⟩
      rw [gather_step_behind h h' hc hr]
      simp only [if_neg hl, if_neg he, if_neg ht]
      rfl

section Decoding

variable {r : Request} {taken : List Received} {t u : Transport} {a : Arrival}

/-- An answer that is no line and ends a collection ends both kinds alike. -/
theorem coincides_of_last (hopen : ¬r.isComplete taken t.unread = true)
    (hr : t.receive (r.deadline t) = (a, u)) (hline : ∀ line, a ≠ .line line)
    (hstop : a = .timedOut → r.limit < t.peer.now + t.readTimeout ∨
      r.endsInSilence u.unread = true ∨ ¬t.peer.now < r.limit) : r.Coincides taken t := by
  have hdecoding := gather_of_receive (r := r.decoding) hopen hr
  have hraw := gather_of_receive hopen hr
  constructor
  · intro line hconsumes
    rcases (consumes_iff hopen hr _).1 hconsumes with rfl | hrest
    · exact absurd rfl (hline line)
    · cases a with
      | line first => exact absurd rfl (hline first)
      | closed => exact hrest.elim
      | fault f => exact hrest.elim
      | timedOut =>
          rcases hrest with ⟨⟨hpatient, hends, htime⟩, -⟩
          rcases hstop rfl with h | h | h
          · exact absurd h hpatient
          · exact absurd h hends
          · exact absurd htime h
  · rw [hdecoding, hraw]
    cases a with
    | line first => exact absurd rfl (hline first)
    | closed => rfl
    | fault f => rfl
    | timedOut =>
        change (if r.limit < _ then _ else if r.endsInSilence _ = true then _ else
          if _ < r.limit then _ else _) = _
        by_cases hl : r.limit < t.peer.now + t.readTimeout
        · simp only [if_pos hl]
        · by_cases he : r.endsInSilence u.unread = true
          · simp only [if_neg hl, if_pos he]
          · have ht := ((hstop rfl).resolve_left hl).resolve_left he
            simp only [if_neg hl, if_neg he, if_neg ht]

/-- A line that ends a collection for lines is a message, and ends both kinds
    alike. -/
theorem coincides_of_last_line (hraw : r.raw = true) (hopen : ¬r.isComplete taken t.unread = true)
    {line : List UInt8} (hr : t.receive (r.deadline t) = (.line line, u))
    (hj : ∀ received, r.judge taken line ≠ .keep received) : r.Coincides taken t := by
  have hdecoding := gather_of_receive (r := r.decoding) hopen hr
  have hlines := gather_of_receive hopen hr
  cases hparse : Message.parseBytes line with
  | error cause => exact absurd (judge_of_garbage hraw hparse).1 (hj _)
  | ok m =>
      simp only [judge_of_message hparse] at hdecoding
      constructor
      · intro other hconsumes
        rcases (consumes_iff hopen hr _).1 hconsumes with hfirst | hrest
        · rw [← Arrival.line.inj hfirst]
          exact ⟨m, hparse⟩
        · cases hjudge : r.judge taken line with
          | keep received => exact absurd hjudge (hj received)
          | complete => simp only [hjudge] at hrest
          | fail e => simp only [hjudge] at hrest
      · cases hjudge : r.judge taken line with
        | keep received => exact absurd hjudge (hj received)
        | complete =>
            simp only [hjudge] at hdecoding hlines
            rw [hdecoding, hlines]
        | fail e =>
            simp only [hjudge] at hdecoding hlines
            rw [hdecoding, hlines]

/-- What holds behind a step that both kinds take alike holds in front of it. -/
theorem coincides_or_partsAt_of_step {taken' more : List Received} {v : Transport}
    (htaken : taken' = taken ++ more) (hmore : ∀ received ∈ more, received.Readable)
    (hconsumes : ∀ line, r.Consumes taken' v line → r.Consumes taken t line)
    (hfirst : ∀ line, r.Consumes taken t line →
      (∃ m, Message.parseBytes line = .ok m) ∨ r.Consumes taken' v line)
    (hraw : gather r taken t = gather r taken' v)
    (hdecoding : gather r.decoding taken t = gather r.decoding taken' v)
    (h : r.Coincides taken' v ∨ r.PartsAt taken' v) : r.Coincides taken t ∨ r.PartsAt taken t := by
  rcases h with ⟨hparse, hsame⟩ | ⟨front, line, cause, w, hfront, hline, hgarbage, hfails, hgoes⟩
  · refine .inl ⟨fun line hline => ?_, by rw [hdecoding, hsame, hraw]⟩
    exact (hfirst line hline).elim id (hparse line)
  · refine .inr ⟨more ++ front, line, cause, w, fun received hmem => ?_, hconsumes line hline,
      hgarbage, hdecoding.trans hfails, hraw.trans ?_⟩
    · exact (List.mem_append.1 hmem).elim (hmore received) (hfront received)
    · rw [hgoes, htaken, List.append_assoc taken more front]

/-- Both kinds of collection agree up to the first line that is no message. -/
theorem gather_decoding (hraw : r.raw = true) (taken : List Received) (t : Transport) :
    r.Coincides taken t ∨ r.PartsAt taken t := by
  have hopen : ∀ {taken : List Received} {t : Transport}, ¬r.isComplete taken t.unread = true →
      ¬r.decoding.isComplete taken t.unread = true := fun hc => hc
  fun_induction gather r taken t with
  | case1 taken t hc =>
      have hc' : r.decoding.isComplete taken t.unread = true := hc
      refine .inl ⟨fun line h => absurd h (not_consumes_of_complete hc), ?_⟩
      rw [gather, if_pos hc', gather, if_pos hc]
  | case2 taken t hc line t' hr u received hj ih =>
      have hiff := consumes_iff hc hr
      simp only [hj, Arrival.line.injEq] at hiff
      have hstep := gather_of_receive hc hr
      simp only [hj] at hstep
      cases hparse : Message.parseBytes line with
      | ok m =>
          -- A message is judged alike, and kept by both.
          have hstep' := gather_of_receive (hopen hc) hr
          simp only [judge_of_message hparse, hj] at hstep'
          refine coincides_or_partsAt_of_step rfl (fun other hother => ?_)
            (fun l h => (hiff l).2 (.inr h)) (fun l h => ?_) hstep hstep' ih
          · rw [List.mem_singleton.1 hother]
            exact (suits_of_judge hparse hj).1
          · rcases (hiff l).1 h with rfl | h
            · exact .inl ⟨m, hparse⟩
            · exact .inr h
      | error cause =>
          -- This is the line at which they part.
          rcases @judge_of_garbage r taken line hraw cause hparse with ⟨hkeep, hfail⟩
          have hstep' := gather_of_receive (hopen hc) hr
          simp only [hfail] at hstep'
          rw [hkeep, Judgement.keep.injEq] at hj
          refine .inr ⟨[], line, cause, u, fun _ h => absurd h List.not_mem_nil,
            (hiff line).2 (.inl rfl), hparse, hstep', ?_⟩
          rw [hstep, List.append_nil, hj]
  | case3 taken t hc line t' hr u hj =>
      exact .inl (coincides_of_last_line hraw hc hr fun received h => by rw [hj] at h; cases h)
  | case4 taken t hc line t' hr u e hj =>
      exact .inl (coincides_of_last_line hraw hc hr fun received h => by rw [hj] at h; cases h)
  | case5 taken t hc t' hr =>
      exact .inl (coincides_of_last hc hr (fun _ => Arrival.noConfusion) Arrival.noConfusion)
  | case6 taken t hc f t' hr hf u =>
      exact .inl (coincides_of_last hc hr (fun _ => Arrival.noConfusion) Arrival.noConfusion)
  | case7 taken t hc f t' hr hf =>
      exact .inl (coincides_of_last hc hr (fun _ => Arrival.noConfusion) Arrival.noConfusion)
  | case8 taken t hc t' hr hl =>
      exact .inl (coincides_of_last hc hr (fun _ => Arrival.noConfusion) fun _ => .inl hl)
  | case9 taken t hc t' hr hl he =>
      exact .inl (coincides_of_last hc hr (fun _ => Arrival.noConfusion) fun _ => .inr (.inl he))
  | case10 taken t hc t' hr hl he ht ih =>
      have hiff := consumes_iff hc hr
      simp only [reduceCtorEq, false_or] at hiff
      have hstep := gather_of_receive hc hr
      have hstep' := gather_of_receive (hopen hc) hr
      have hl' : ¬r.decoding.limit < t.peer.now + t.readTimeout := hl
      have he' : ¬r.decoding.endsInSilence t'.unread = true := he
      have ht' : t.peer.now < r.decoding.limit := ht
      simp only [if_neg hl, if_neg he, if_pos ht] at hstep
      simp only [if_neg hl', if_neg he', if_pos ht'] at hstep'
      exact coincides_or_partsAt_of_step (List.append_nil taken).symm
        (fun _ h => absurd h List.not_mem_nil) (fun l h => (hiff l).2 ⟨⟨hl, he, ht⟩, h⟩)
        (fun l h => .inr ((hiff l).1 h).2) hstep hstep' ih
  | case11 taken t hc t' hr hl he ht =>
      exact .inl (coincides_of_last hc hr (fun _ => Arrival.noConfusion) fun _ => .inr (.inr ht))

/-- A collection for messages gives messages that their texts spell, and none of
    them is the answer that it waits for. -/
theorem readable_of_gather {r : Request} (hraw : r.raw = false) {taken lines : List Received}
    {t u : Transport} (h : gather r taken t = (.ok lines, u))
    (htaken : ∀ received ∈ taken, r.Suits received) : ∀ received ∈ lines, r.Suits received := by
  fun_induction gather r taken t with
  | case1 taken t hc =>
      rw [Prod.mk.injEq, Outcome.ok.injEq] at h
      rw [← h.1]
      exact htaken
  | case2 taken t hc line t' hr _ received hj ih =>
      refine ih h fun other hother => ?_
      rcases List.mem_append.1 hother with hother | hother
      · exact htaken other hother
      · rw [List.mem_singleton.1 hother]
        rcases message_of_judge hraw hj with ⟨m, hparse, -⟩
        exact suits_of_judge hparse hj
  | case3 taken t hc line t' hr u hj =>
      rw [Prod.mk.injEq, Outcome.ok.injEq] at h
      rw [← h.1]
      exact htaken
  | case4 => cases h
  | case5 => cases h
  | case6 => cases h
  | case7 => cases h
  | case8 => cases h
  | case9 taken t hc t' hr hl he =>
      rw [Prod.mk.injEq, Outcome.ok.injEq] at h
      rw [← h.1]
      exact htaken
  | case10 taken t hc t' hr hl he ht ih => exact ih h htaken
  | case11 => cases h

end Decoding

end Transport

/-- The same batch, as messages and as lines. Each message is what its line spells,
    and none of them is the answer that was waited for. -/
inductive Outcome.SameBatch (token : Option String) :
    Outcome (List Message) → Outcome (List String) → Prop where
  /-- Both gave something. -/
  | ok {messages : List Message} {texts : List String}
      (hparse : texts.map Message.parse = messages.map .ok)
      (hanswer : ∀ m ∈ messages, ∀ value, token = some value → m.answersPing value = false) :
      SameBatch token (.ok messages) (.ok texts)
  /-- Both failed for one reason. -/
  | error (e : TransportError) : SameBatch token (.error e) (.error e)
  /-- Both still wait. -/
  | abandoned : SameBatch token .abandoned .abandoned

theorem Outcome.sameBatch_of_suits {r : Request} {outcome : Outcome (List Received)}
    (h : ∀ lines, outcome = .ok lines → ∀ received ∈ lines, r.Suits received) :
    SameBatch r.token (outcome.map fun lines => lines.filterMap Received.message)
      (outcome.map fun lines => lines.map Received.text) := by
  cases outcome with
  | error e => exact .error e
  | abandoned => exact .abandoned
  | ok lines =>
      have hlines := h lines rfl
      refine .ok (Received.map_parse_text fun received hmem => (hlines received hmem).1) ?_
      intro m hm value hvalue
      rcases List.mem_filterMap.1 hm with ⟨received, hmem, hmessage⟩
      exact (hlines received hmem).2 value m hvalue hmessage

namespace Transport

open Request

/-- What a collection of lines asks for. -/
def rawRequest (t : Transport) (synchronize required : Bool) (limit : Nat) : Request :=
  ⟨if synchronize then some t.nextToken else none, required, false, true, limit⟩

/-- A line that a collection of lines takes off the stream. -/
def ConsumesLine (t : Transport) (synchronize required : Bool) (limit : Nat)
    (line : List UInt8) : Prop :=
  ∃ u moment v, t.CollectionAsks synchronize required false true limit u moment ∧
    u.receive moment = (.line line, v)

/-- Both kinds of collection fail with their `PING`, or they start in the same
    state. -/
theorem collectLines_cases (t : Transport) (synchronize required : Bool) (limit : Nat) :
    (∃ u, (∀ raw, t.collectLines synchronize required false raw limit =
        (.error .connectionClosed, u)) ∧
      ∀ line, ¬t.ConsumesLine synchronize required limit line) ∨
    ∃ u, t.collectLines synchronize required false true limit =
        gather (t.rawRequest synchronize required limit) [] u ∧
      t.collectLines synchronize required false false limit =
        gather (t.rawRequest synchronize required limit).decoding [] u ∧
      ∀ line, t.ConsumesLine synchronize required limit line ↔
        (t.rawRequest synchronize required limit).Consumes [] u line := by
  cases synchronize with
  | false => exact .inr ⟨t, rfl, rfl, fun line => Iff.rfl⟩
  | true =>
      rcases t.sendPing_cases with ⟨u, hping⟩ | ⟨u, hping⟩
      · refine .inr ⟨u, collectLines_of_sendPing hping required false true limit,
          collectLines_of_sendPing hping required false false limit, fun line => ?_⟩
        constructor
        · rintro ⟨v, moment, w, hasks, hline⟩
          exact ⟨v, moment, w, (collectionAsks_iff hping required false true limit v moment).1 hasks,
            hline⟩
        · rintro ⟨v, moment, w, hasks, hline⟩
          exact ⟨v, moment, w, (collectionAsks_iff hping required false true limit v moment).2 hasks,
            hline⟩
      · refine .inl ⟨u, fun raw => ?_, ?_⟩
        · unfold collectLines
          rw [if_pos rfl, hping]
        · rintro line ⟨v, moment, w, hasks, -⟩
          unfold CollectionAsks at hasks
          rw [if_pos rfl] at hasks
          rcases hasks with ⟨token, u', hping', -⟩
          rw [hping] at hping'
          cases hping'

/-- From one state with nothing left over, collecting messages and collecting lines
    lead to the same state and give the same batch, as long as all lines that are
    taken are messages. Otherwise the collection for messages fails with the first
    line that is none. The one for lines has kept the same lines up to there,
    keeps this line behind them, and goes on in the state in which the other one
    has failed. What it does from there on is the same for every line that it may
    have kept in this place. -/
theorem collect_agrees_with_lines {t : Transport} (hinbox : t.inbox = [])
    (synchronize required : Bool) (limit : Nat) :
    ((∀ line, t.ConsumesLine synchronize required limit line →
        ∃ m, Message.parseBytes line = .ok m) →
      (t.collect synchronize required limit).2 = (t.collectRaw synchronize required limit).2 ∧
        Outcome.SameBatch (if synchronize then some t.nextToken else none)
          (t.collect synchronize required limit).1 (t.collectRaw synchronize required limit).1) ∧
    ((∃ line, t.ConsumesLine synchronize required limit line ∧
        ∀ m, Message.parseBytes line ≠ .ok m) →
      ∃ (front : List Received) (line : List UInt8) (cause : ParseError) (u : Transport),
        (∀ received ∈ front, received.Readable) ∧
        t.ConsumesLine synchronize required limit line ∧
        Message.parseBytes line = .error cause ∧
        t.collect synchronize required limit =
          (.error (.parse (String.ofList (Utf8.decodeLossy line)) cause), u) ∧
        ∃ (outcome : Outcome (List Received)) (v : Transport),
          t.collectRaw synchronize required limit =
            (outcome.map fun behind => front.map Received.text ++
              String.ofList (Utf8.decodeLossy line) :: behind.map Received.text, v) ∧
          ∀ received, gather (t.rawRequest synchronize required limit) (front ++ [received]) u =
            (outcome.map fun behind => front ++ received :: behind, v)) := by
  rw [collect_of_empty hinbox]
  unfold collectRaw
  rcases t.collectLines_cases synchronize required limit with
    ⟨u, hfails, hnone⟩ | ⟨u, hraw, hdecoding, hconsumes⟩
  · rw [hfails, hfails]
    exact ⟨fun _ => ⟨rfl, .error _⟩, fun ⟨line, hline, _⟩ => absurd hline (hnone line)⟩
  · rw [hraw, hdecoding]
    rcases gather_decoding (r := t.rawRequest synchronize required limit) rfl [] u with
      ⟨hparse, hsame⟩ | ⟨front, line, cause, w, hfront, hline, hgarbage, hends, hgoes⟩
    · refine ⟨fun _ => ?_, fun ⟨line, hline, hgarbage⟩ => ?_⟩
      · refine ⟨congrArg Prod.snd hsame, ?_⟩
        rw [← hsame]
        refine Outcome.sameBatch_of_suits
          (r := (t.rawRequest synchronize required limit).decoding) fun lines hlines => ?_
        exact readable_of_gather rfl (Prod.ext hlines rfl) fun _ h => absurd h List.not_mem_nil
      · rcases hparse line ((hconsumes line).1 hline) with ⟨m, hm⟩
        exact absurd hm (hgarbage m)
    · refine ⟨fun hparse => ?_, fun _ => ?_⟩
      · rcases hparse line ((hconsumes line).2 hline) with ⟨m, hm⟩
        rw [hgarbage] at hm
        cases hm
      · rcases gather_behind (t.rawRequest synchronize required limit)
          (front ++ [⟨String.ofList (Utf8.decodeLossy line), none⟩]) w
          (List.append_ne_nil_of_right_ne_nil _ (List.cons_ne_nil _ _)) with ⟨outcome, v, hbehind⟩
        have hany : ∀ received, gather (t.rawRequest synchronize required limit)
            (front ++ [received]) w = (outcome.map fun behind => front ++ received :: behind, v) := by
          intro received
          rw [hbehind _ (List.append_ne_nil_of_right_ne_nil _ (List.cons_ne_nil _ _))]
          simp only [List.append_assoc, List.singleton_append]
        refine ⟨front, line, cause, w, hfront, (hconsumes line).2 hline, hgarbage, ?_, outcome, v,
          ?_, hany⟩
        · rw [hends]
          rfl
        · rw [hgoes, List.nil_append, hany]
          cases outcome <;> simp only [Outcome.map, List.map_append, List.map_cons]

/-- One read brings a message, a line that has tags and no command, and another
    message. -/
theorem collect_agrees_with_lines_garbage :
    ∃ t : Transport, t.inbox = [] ∧ t.ConsumesLine false true 10000 (Utf8.ofString "@a=b") ∧
      (∃ line cause u, t.collect false true 10000 = (.error (.parse line cause), u)) ∧
      (t.collectRaw false true 10000).1 = .ok ["NOTICE a :b", "@a=b", "PING x"] := by
  have hconsumes : Transport.ConsumesLine
      { Transport.initial "c" .initial fun _ => ⟨0, 0⟩ with
        peer := Peer.idle.willDo
          [.data [.literal (Utf8.ofString "NOTICE a :b\r\n@a=b\r\nPING x\r\n")]] }
      false true 10000 (Utf8.ofString "@a=b") :=
    ⟨_, _, _, @Asks.kept _ _ _ _ _ _ (Utf8.ofString "NOTICE a :b")
      ⟨"NOTICE a :b", some ⟨[], none, "NOTICE", ["a", "b"]⟩⟩ (by decide +kernel)
      (Prod.ext (by decide +kernel) rfl) (by decide +kernel) (.first (by decide +kernel)),
      Prod.ext (by decide +kernel) rfl⟩
  have hgarbage : ∀ m, Message.parseBytes (Utf8.ofString "@a=b") ≠ .ok m := by
    have herror : Message.parseBytes (Utf8.ofString "@a=b") =
        .error (.missingCommand "@a=b") := by cbv
    intro m hm
    rw [herror] at hm
    cases hm
  rcases (collect_agrees_with_lines rfl false true 10000).2 ⟨_, hconsumes, hgarbage⟩ with
    ⟨front, line, cause, u, -, -, -, hcollect, -⟩
  exact ⟨_, rfl, hconsumes, ⟨_, cause, u, hcollect⟩, by decide +kernel⟩

end Transport

end IrcHarness
