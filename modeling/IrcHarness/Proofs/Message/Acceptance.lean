import IrcHarness.Proofs.Message.Grammar
import IrcHarness.Proofs.Message.RoundTrip

/-!
# What Reading Accepts

Reading accepts the lines of the grammar and no others, and of a line that it
does not accept it reports the first thing that is wrong in a fixed order. Each
fault is said here of the line alone: what may be wrong with a line is nothing
that reading has to find out step by step, and a line may have several faults
at once. The order is theirs, from an empty line to a command that opens a
section, and it is not the order of the places at which they stand: a missing
command comes in front of a tag without a name, although the tags are further
left.

A line that reading accepts has no fault, and one that it does not accept has
one (`parseBody_of_firstFault`, `exists_message_of_faultless`). So both halves
of the main result are read off the same cases.

## Main definitions

* `Message.BodyOf`: A text without its line ending.
* `Message.Denotes`: The message that sections stand for.
* `Message.Accepts`: A line of the grammar and its message.
* `Message.Fault`: What may be wrong with a line, with its place in the order.
* `Message.FirstFault`: The fault that is reported.

## Theorems

* `bodyOf_iff`: One line ending is taken off.
* `parseBody_iff_accepts`: Reading accepts the lines of the grammar.
* `parseBody_eq_error_iff`: Reading reports the first fault.
* `parse_accepts_grammar`: What reading makes of a text.
-/

namespace IrcHarness

namespace Message

/-- A text without its line ending, which is CR LF or LF alone. -/
inductive BodyOf : List Char → List Char → Prop where
  /-- The ending is CR LF. -/
  | crlf (body : List Char) : BodyOf (body ++ ['\r', '\n']) body
  /-- The ending is LF. -/
  | lf {body : List Char} (h : body.getLast? ≠ some '\r') : BodyOf (body ++ ['\n']) body
  /-- There is no ending. -/
  | bare {body : List Char} (h : body.getLast? ≠ some '\n') : BodyOf body body

theorem dropEnding_of_bodyOf {text body : List Char} (h : BodyOf text body) :
    dropEnding text = body := by
  -- Only the last character of the body can be taken for part of an ending.
  have hlast : ∀ {cs more : List Char} {c : Char}, cs.reverse = c :: more →
      cs.getLast? = some c := by
    intro cs more c hrev
    rw [List.getLast?_eq_head?_reverse, hrev]
    rfl
  cases h with
  | crlf body => exact dropEnding_append body
  | lf h =>
      have hrev : (body ++ ['\n']).reverse = '\n' :: body.reverse := by
        rw [List.reverse_append]
        rfl
      unfold dropEnding
      rw [hrev]
      split
      · next hcr =>
          rw [List.cons.injEq] at hcr
          exact absurd (hlast hcr.2) h
      · next hlf =>
          rw [List.cons.injEq] at hlf
          rw [← hlf.2, List.reverse_reverse]
      · next hno => exact absurd rfl (hno _)
  | bare h =>
      unfold dropEnding
      split
      · next hcr => exact absurd (hlast hcr) h
      · next hlf => exact absurd (hlast hlf) h
      · rfl

theorem bodyOf_dropEnding (text : List Char) : BodyOf text (dropEnding text) := by
  have hback : ∀ cs more : List Char, text.reverse = cs ++ more →
      text = more.reverse ++ cs.reverse := by
    intro cs more hrev
    rw [← List.reverse_append, ← hrev, List.reverse_reverse]
  unfold dropEnding
  split
  · next rest hcr =>
      have htext := hback ['\n', '\r'] rest hcr
      rw [htext]
      exact .crlf rest.reverse
  · next rest hcr hlf =>
      have htext := hback ['\n'] rest hlf
      rw [htext]
      refine .lf fun hlast => ?_
      rw [List.getLast?_reverse] at hlast
      rcases List.head?_eq_some_iff.1 hlast with ⟨more, hmore⟩
      exact hcr more hmore
  · next hcr hlf =>
      refine .bare fun hlast => ?_
      rw [List.getLast?_eq_head?_reverse] at hlast
      rcases List.head?_eq_some_iff.1 hlast with ⟨more, hmore⟩
      exact hlf more hmore

/-- Every text has one body, which is what reading is made of. -/
theorem bodyOf_iff (text body : List Char) : BodyOf text body ↔ body = dropEnding text :=
  ⟨fun h => (dropEnding_of_bodyOf h).symm, fun h => h ▸ bodyOf_dropEnding text⟩

/-- Characters that may all stand within a line. -/
def Legal (cs : List Char) : Prop :=
  ∀ c ∈ cs, c ≠ '\r' ∧ c ≠ '\n' ∧ c ≠ '\x00'

/-- The message that sections stand for. -/
structure Denotes (s : Sections) (m : Message) : Prop where
  /-- The tags, each set where its key came first. -/
  tags : TagsText s.tags m.tags
  /-- The source, which is not empty. -/
  source_ne_nil : s.source ≠ some []
  /-- The source as text. -/
  source : m.source = s.source.map String.ofList
  /-- The command as text. -/
  command : m.command = String.ofList s.command
  /-- The parameters as texts. -/
  params : m.params = s.params.map String.ofList

/-- A line of the grammar, and the message that it stands for. -/
def Accepts (line : List Char) (m : Message) : Prop :=
  line ≠ [] ∧ Legal line ∧ ∃ s, Proper line s ∧ Denotes s m

/-- What may be wrong with a line, with its place in the order and what is
    reported of it. -/
inductive Fault (line : List Char) : Nat → ParseError → Prop where
  /-- There is nothing. -/
  | empty (h : line = []) : Fault line 0 .emptyMessage
  /-- A character may not stand within a line. The place of the first one is
      counted in bytes. -/
  | illegal {front rest : List Char} {c : Char} (h : line = front ++ c :: rest)
      (hfront : Legal front) (hc : c = '\r' ∨ c = '\n' ∨ c = '\x00') :
      Fault line 1 (.illegalCharacter c.toNat (Utf8.encode front).length)
  /-- Nothing follows the tags, the source and the blanks. -/
  | nothing {tags source : Option (List Char)} (h : Front line tags source []) :
      Fault line 2 (.missingCommand (String.ofList line))
  /-- A tag cannot be read. -/
  | tag {tags rest : List Char} {e : ParseError} (h : Opens '@' line (some tags) rest)
      (htags : TagsFault tags e) : Fault line 3 e
  /-- There is a source, and it is empty. -/
  | source {tags : Option (List Char)} {n : Nat} {middle rest : List Char}
      (h : Opens '@' line tags (blanks n ++ middle)) (hsource : Opens ':' middle (some []) rest) :
      Fault line 4 (.invalidSource "")
  /-- The line can be split, but each time the command opens a section. -/
  | command {s : Sections} (h : Spells line s)
      (hall : ∀ s, Spells line s → s.command.head? = some ':' ∨ s.command.head? = some '@') :
      Fault line 5 (.missingCommand (String.ofList line))

/-- The fault that comes first. -/
def FirstFault (line : List Char) (e : ParseError) : Prop :=
  ∃ rank, Fault line rank e ∧ ∀ earlier < rank, ∀ other, ¬Fault line earlier other

variable {line : List Char} {s : Sections} {m : Message} {e : ParseError}

theorem isLineBreaker_eq_false_iff (c : Char) :
    isLineBreaker c = false ↔ c ≠ '\r' ∧ c ≠ '\n' ∧ c ≠ '\x00' := by
  simp only [isLineBreaker, Bool.or_eq_false_iff, decide_eq_false_iff_not, and_assoc]

theorem legal_iff (cs : List Char) : Legal cs ↔ firstIllegal? cs = none := by
  rw [firstIllegal?_eq_none_iff]
  exact forall₂_congr fun c _ => (isLineBreaker_eq_false_iff c).symm

/-- Where the first illegal character stands, counted in bytes. -/
theorem firstIllegal?_append {front : List Char} (hfront : Legal front) {c : Char}
    (hc : c = '\r' ∨ c = '\n' ∨ c = '\x00') (rest : List Char) :
    firstIllegal? (front ++ c :: rest) = some (c, (Utf8.encode front).length) := by
  induction front with
  | nil =>
      have hill : isIllegal c = true := by
        rw [isIllegal, Bool.or_eq_true, Bool.or_eq_true, decide_eq_true_eq, decide_eq_true_eq,
          decide_eq_true_eq, or_assoc]
        exact hc
      rw [List.nil_append, firstIllegal?, if_pos hill]
      rfl
  | cons d front ih =>
      have hd := (isLineBreaker_eq_false_iff d).2 (hfront d List.mem_cons_self)
      have hrest := ih fun x hx => hfront x (List.mem_cons_of_mem d hx)
      have hlen : (Utf8.encode (d :: front)).length = d.utf8Size + (Utf8.encode front).length := by
        rw [Utf8.encode, List.flatMap_cons, List.length_append, String.length_utf8EncodeChar]
        rfl
      have hlegal : ¬isIllegal d = true := Bool.eq_false_iff.1 hd
      rw [List.cons_append, firstIllegal?, if_neg hlegal, hrest, hlen]
      rfl

theorem exists_illegal {cs : List Char} (h : ¬Legal cs) :
    ∃ front c rest, cs = front ++ c :: rest ∧ Legal front ∧
      (c = '\r' ∨ c = '\n' ∨ c = '\x00') := by
  induction cs with
  | nil => exact absurd (fun c hc => absurd hc List.not_mem_nil) h
  | cons d rest ih =>
      by_cases hd : d ≠ '\r' ∧ d ≠ '\n' ∧ d ≠ '\x00'
      · have hrest : ¬Legal rest := fun hlegal => h (List.forall_mem_cons.2 ⟨hd, hlegal⟩)
        rcases ih hrest with ⟨front, c, more, rfl, hfront, hc⟩
        exact ⟨d :: front, c, more, rfl, List.forall_mem_cons.2 ⟨hd, hfront⟩, hc⟩
      · refine ⟨[], d, rest, rfl, fun c hc => absurd hc List.not_mem_nil, ?_⟩
        by_contra hno
        rw [not_or, not_or] at hno
        exact hd hno

theorem legal_of_faultless (h : ∀ rank < 2, ∀ other, ¬Fault line rank other) :
    line ≠ [] ∧ Legal line := by
  refine ⟨fun hnil => h 0 (by decide) _ (.empty hnil), ?_⟩
  by_contra hill
  rcases exists_illegal hill with ⟨front, c, rest, hline, hfront, hc⟩
  exact h 1 (by decide) _ (.illegal hline hfront hc)

/-- Reading cuts a line in which no fault of the first three kinds is found. -/
theorem exists_ofLine (h : ∀ rank < 3, ∀ other, ¬Fault line rank other) :
    line ≠ [] ∧ Legal line ∧ ∃ s, Sections.ofLine line = some s := by
  rcases legal_of_faultless fun rank hrank => h rank (by omega) with ⟨hne, hlegal⟩
  refine ⟨hne, hlegal, ?_⟩
  cases hcut : Sections.ofLine line with
  | some s => exact ⟨s, rfl⟩
  | none =>
      rcases (ofLine_eq_none_iff line).1 hcut with ⟨tags, source, hfront⟩
      exact absurd (.nothing hfront) (h 2 (by decide) _)

theorem parseBody_of_ofLine (hne : line ≠ []) (hlegal : Legal line)
    (hcut : Sections.ofLine line = some s) : parseBody line = ofSections line s := by
  rw [parseBody, if_neg hne, (legal_iff line).1 hlegal]
  simp only [hcut]

/-- The tags that reading finds are those that open the line. -/
theorem tags_of_opens {tags rest : List Char} (hcut : Sections.ofLine line = some s)
    (h : Opens '@' line (some tags) rest) : s.tags = some tags := by
  rw [(eq_of_ofLine hcut).1, markedSection_of_opens h (by simp)]

theorem opens_of_tags {tags : List Char} (hcut : Sections.ofLine line = some s)
    (h : s.tags = some tags) : Opens '@' line (some tags) (markedSection '@' line).2 := by
  have hopens := opens_markedSection '@' line
  rw [← (eq_of_ofLine hcut).1, h] at hopens
  exact hopens

/-- Without a fault in the tags they can be read. -/
theorem exists_tagsOf (hcut : Sections.ofLine line = some s) (h : ∀ e, ¬Fault line 3 e) :
    ∃ tags, TagsOf s.tags tags := by
  cases htags : s.tags with
  | none => exact ⟨[], rfl⟩
  | some text =>
      cases hread : parseTags text with
      | ok tags => exact ⟨tags, hread⟩
      | error e =>
          exact absurd (.tag (opens_of_tags hcut htags) ((tagsFault_iff text e).2 hread)) (h e)

theorem ofSections_of_tagsFault {tags : List Char} (htags : s.tags = some tags)
    (h : parseTags tags = .error e) : ofSections line s = .error e := by
  unfold ofSections
  rw [htags]
  simp only [h, bind, Except.bind]

/-- The source that reading finds is empty exactly when an empty source stands
    behind the tags and the blanks. -/
theorem source_eq_nil_iff (hcut : Sections.ofLine line = some s) :
    s.source = some [] ↔ Fault line 4 (.invalidSource "") := by
  rw [source_of_ofLine hcut]
  constructor
  · intro hsource
    rcases exists_blanks (markedSection '@' line).2 with ⟨n, hn⟩
    have htags := opens_markedSection '@' line
    rw [hn] at htags
    have hopens := opens_markedSection ':' (dropBlanks (markedSection '@' line).2)
    rw [hsource] at hopens
    exact .source htags hopens
  · intro hfault
    cases hfault with
    | @source tags n middle rest htags hsource =>
        cases hsource with
        | present hw hend =>
            -- Behind its blanks the source starts with its mark.
            have hfirst : markedSection '@' line = (tags, blanks n ++ (':' :: ([] ++ rest))) := by
              refine markedSection_of_opens htags fun hnone => ?_
              rw [hnone] at htags
              cases htags with
              | absent => exact blanks_append_head_ne (by decide) n (by simp)
            rw [hfirst]
            dsimp only
            rw [dropBlanks_blanks, dropBlanks_of_ne _ (by decide),
              markedSection_of_opens (.present hw hend) (by simp)]

/-- Reading accepts the lines of the grammar, and gives the message that they
    stand for. -/
theorem parseBody_iff_accepts (line : List Char) (m : Message) :
    parseBody line = .ok m ↔ Accepts line m := by
  rw [parseBody_eq_ok_iff]
  constructor
  · rintro ⟨hlegal, s, hcut, hs⟩
    rcases (ofSections_eq_ok_iff line s m).1 hs with
      ⟨htags, hne, hcolon, hat, hsource, hcommand, hparams⟩
    refine ⟨fun hnil => ?_, fun c hc => (isLineBreaker_eq_false_iff c).1 (hlegal c hc), s,
      (proper_iff line s).2 ⟨hcut, hcolon, hat⟩, (tagsText_iff _ _).2 htags, hne, hsource,
      hcommand, hparams⟩
    rw [hnil] at hcut
    exact absurd hcut.symm (Option.some_ne_none s)
  · rintro ⟨_, hlegal, s, hproper, hs⟩
    rcases (proper_iff line s).1 hproper with ⟨hcut, hcolon, hat⟩
    refine ⟨fun c hc => (isLineBreaker_eq_false_iff c).2 (hlegal c hc), s, hcut, ?_⟩
    exact (ofSections_eq_ok_iff line s m).2 ⟨(tagsText_iff _ _).1 hs.tags, hs.source_ne_nil, hcolon,
      hat, hs.source, hs.command, hs.params⟩

/-- A line without a fault is read. -/
theorem exists_message_of_faultless (h : ∀ rank other, ¬Fault line rank other) :
    ∃ m, parseBody line = .ok m := by
  rcases exists_ofLine fun rank _ => h rank with ⟨hne, hlegal, s, hcut⟩
  rcases exists_tagsOf hcut (h 3) with ⟨tags, htags⟩
  have hsource : s.source ≠ some [] := fun hs => h 4 _ ((source_eq_nil_iff hcut).1 hs)
  have hcommand : ¬(s.command.head? = some ':' ∨ s.command.head? = some '@') := by
    intro hhead
    refine h 5 _ (.command (spells_of_ofLine hcut) fun s' hs' => ?_)
    -- Another way to split the line would be the one that reading finds.
    by_contra hno
    rw [not_or] at hno
    have hother := Proper.ofLine ⟨hs', hno.1, hno.2⟩
    rw [hcut, Option.some.injEq] at hother
    rw [← hother] at hno
    exact hhead.elim hno.1 hno.2
  rw [parseBody_of_ofLine hne hlegal hcut, ofSections_of_tagsOf htags, if_neg hsource,
    if_neg hcommand]
  exact ⟨_, rfl⟩

/-- Of a line with faults the first one is reported. -/
theorem parseBody_of_firstFault (h : FirstFault line e) : parseBody line = .error e := by
  rcases h with ⟨rank, hfault, hfirst⟩
  -- In each case the faults that come earlier are absent, so reading gets as far
  -- as the step that finds this one.
  cases hfault with
  | empty hnil => rw [parseBody, if_pos hnil]
  | @illegal front rest c hline hfront hc =>
      have hill := firstIllegal?_append hfront hc rest
      rw [← hline] at hill
      have hne : line ≠ [] := by
        rw [hline]
        exact List.append_ne_nil_of_right_ne_nil _ (List.cons_ne_nil _ _)
      rw [parseBody, if_neg hne, hill]
  | nothing hfront =>
      rcases legal_of_faultless hfirst with ⟨hne, hlegal⟩
      rw [parseBody, if_neg hne, (legal_iff line).1 hlegal]
      simp only [(ofLine_eq_none_iff line).2 ⟨_, _, hfront⟩]
  | tag hopens htags =>
      rcases exists_ofLine fun rank hrank => hfirst rank (by omega) with ⟨hne, hlegal, s, hcut⟩
      rw [parseBody_of_ofLine hne hlegal hcut]
      exact ofSections_of_tagsFault (tags_of_opens hcut hopens) ((tagsFault_iff _ _).1 htags)
  | source hopens hsource =>
      rcases exists_ofLine fun rank hrank => hfirst rank (by omega) with ⟨hne, hlegal, s, hcut⟩
      rcases exists_tagsOf hcut (hfirst 3 (by decide)) with ⟨tags, htags⟩
      rw [parseBody_of_ofLine hne hlegal hcut, ofSections_of_tagsOf htags,
        if_pos ((source_eq_nil_iff hcut).2 (.source hopens hsource))]
  | command hspells hall =>
      rcases exists_ofLine fun rank hrank => hfirst rank (by omega) with ⟨hne, hlegal, s, hcut⟩
      rcases exists_tagsOf hcut (hfirst 3 (by decide)) with ⟨tags, htags⟩
      have hsource : s.source ≠ some [] := fun hs =>
        hfirst 4 (by decide) _ ((source_eq_nil_iff hcut).1 hs)
      rw [parseBody_of_ofLine hne hlegal hcut, ofSections_of_tagsOf htags, if_neg hsource,
        if_pos (hall s (spells_of_ofLine hcut))]

/-- An error is the first fault of the line. -/
theorem parseBody_eq_error_iff (line : List Char) (e : ParseError) :
    parseBody line = .error e ↔ FirstFault line e := by
  refine ⟨fun herror => ?_, parseBody_of_firstFault⟩
  have hfaulty : ∃ rank, ∃ other, Fault line rank other := by
    by_contra hno
    rcases exists_message_of_faultless fun rank other h => hno ⟨rank, other, h⟩ with ⟨m, hm⟩
    rw [herror] at hm
    cases hm
  -- Among the faults there is a first one, and it is the one that is reported.
  classical
  rcases Nat.find_spec hfaulty with ⟨other, hother⟩
  have hfirst : FirstFault line other :=
    ⟨Nat.find hfaulty, hother, fun earlier hlt e' he' => Nat.find_min hfaulty hlt ⟨e', he'⟩⟩
  have hreported := parseBody_of_firstFault hfirst
  rw [herror, Except.error.injEq] at hreported
  rw [hreported]
  exact hfirst

/-- What reading makes of a text. Every text has one body. Reading gives a message
    exactly when the body is a line of the grammar, and then there is one way to
    split it and the message is the one that this way stands for. Otherwise it
    reports the first fault of the body. -/
theorem parse_accepts_grammar (line : String) :
    ∃ body, (∀ other, BodyOf line.toList other ↔ other = body) ∧
      (∀ m, parse line = .ok m ↔ Accepts body m) ∧
      (∀ s s', Proper body s → Proper body s' → s = s') ∧
      ∀ e, parse line = .error e ↔ FirstFault body e := by
  refine ⟨dropEnding line.toList, bodyOf_iff line.toList, fun m => parseBody_iff_accepts _ m,
    fun s s' hs hs' => ?_, fun e => parseBody_eq_error_iff _ e⟩
  have hcut := hs.ofLine
  rw [hs'.ofLine, Option.some.injEq] at hcut
  exact hcut.symm

/-- Three faults at once: the first tag has no name, the value of the second one
    has no end, and the source is empty. -/
example : parse "@=x;a=\\ : CMD" = .error (.emptyTagKey "=x;a=\\") := by cbv

end Message

end IrcHarness
