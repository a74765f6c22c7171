import IrcHarness.Proofs.Message.Sections

/-!
# Reading What Was Written

Writing a message and reading the line again gives the message back, field by
field and with the tags in their order, when the message is writable, no two
of its tags share a key and no value holds a NUL (`parse_render`). Whatever
was read from a line is such a message (`readable_of_parse`). The two together
close the circle: a message that came from a line survives any number of trips,
and its line does not change after the first.

Both are stated of the line without its ending, so that they hold of text and
of bytes alike.

A value with a NUL spoils the whole line, and then it is the NUL that reading
reports, since no other character of a writable message is illegal
(`parse_render_of_nul`).

## Main definitions

* `Message.Readable`: A message as reading gives it.
* `Message.sections`: The sections of a message as it is written.

## Theorems

* `parseBody_eq_ok_iff`: A line gives a message when each step does.
* `readable_of_parseBody`, `readable_of_parse`: What was read is readable.
* `parseBody_renderBody`, `parse_render`: What is readable is read back.
* `parse_render_of_nul`: A NUL in a value is what reading reports.
* `reparse_of_parse`: Reading, writing and reading again changes nothing.
-/

namespace IrcHarness

namespace Message

/-- A message as reading gives it. -/
structure Readable (m : Message) : Prop where
  /-- Its parts can be told apart. -/
  writable : m.Writable
  /-- No two tags share a key. -/
  distinct : m.KeysDistinct
  /-- No value holds a NUL. -/
  nulFree : m.NulFree

/-- The sections of a message as it is written. -/
def sections (m : Message) : Sections :=
  ⟨if m.tags = [] then none else some (renderTags m.tags), m.source.map String.toList,
    m.command.toList, m.params.map String.toList⟩

theorem dropEnding_append (body : List Char) : dropEnding (body ++ ['\r', '\n']) = body := by
  have hrev : (body ++ ['\r', '\n']).reverse = '\n' :: '\r' :: body.reverse := by
    rw [List.reverse_append]
    rfl
  rw [dropEnding, hrev]
  simp only [List.reverse_reverse]

theorem firstIllegal?_eq_none_iff (cs : List Char) :
    firstIllegal? cs = none ↔ ∀ c ∈ cs, isLineBreaker c = false := by
  induction cs with
  | nil => exact ⟨fun _ c h => absurd h List.not_mem_nil, fun _ => rfl⟩
  | cons c rest ih =>
      rw [firstIllegal?, List.forall_mem_cons, ← ih]
      by_cases hc : isIllegal c = true
      · rw [if_pos hc]
        constructor
        · intro h
          exact absurd h (Option.some_ne_none _)
        · rintro ⟨h, _⟩
          exact absurd (hc.symm.trans h) Bool.true_eq_false.mp
      · rw [if_neg hc, Option.map_eq_none_iff]
        rw [Bool.not_eq_true] at hc
        exact ⟨fun h => ⟨hc, h⟩, fun h => h.2⟩

theorem mem_of_firstIllegal? {cs : List Char} {c : Char} {position : Nat}
    (h : firstIllegal? cs = some (c, position)) : c ∈ cs ∧ isLineBreaker c = true := by
  induction cs generalizing position with
  | nil => exact absurd h.symm (Option.some_ne_none _)
  | cons d rest ih =>
      rw [firstIllegal?] at h
      by_cases hd : isIllegal d = true
      · rw [if_pos hd, Option.some.injEq, Prod.mk.injEq] at h
        rw [← h.1]
        exact ⟨List.mem_cons_self, hd⟩
      · rw [if_neg hd] at h
        rcases Option.map_eq_some_iff.1 h with ⟨⟨e, n⟩, hfound, heq⟩
        rw [Prod.mk.injEq] at heq
        rcases heq with ⟨rfl, _⟩
        have hrest := ih hfound
        exact ⟨List.mem_cons_of_mem d hrest.1, hrest.2⟩

/-- A line gives a message when no character is illegal, it can be cut, and the
    sections pass. -/
theorem parseBody_eq_ok_iff (line : List Char) (m : Message) :
    parseBody line = .ok m ↔
      (∀ c ∈ line, isLineBreaker c = false) ∧
        ∃ s, Sections.ofLine line = some s ∧ ofSections line s = .ok m := by
  rw [← firstIllegal?_eq_none_iff, parseBody]
  by_cases hne : line = []
  · rw [if_pos hne]
    constructor
    · intro h
      cases h
    · rintro ⟨_, s, hcut, _⟩
      rw [hne] at hcut
      exact absurd hcut.symm (Option.some_ne_none s)
  · rw [if_neg hne]
    cases hill : firstIllegal? line with
    | some found =>
        constructor
        · intro h
          cases h
        · rintro ⟨h, _⟩
          exact absurd h (Option.some_ne_none found)
    | none =>
        simp only [true_and]
        cases hcut : Sections.ofLine line with
        | none =>
            constructor
            · intro h
              cases h
            · rintro ⟨s, hs, _⟩
              exact absurd hs.symm (Option.some_ne_none s)
        | some s =>
            constructor
            · intro h
              exact ⟨s, rfl, h⟩
            · rintro ⟨s', hs, h⟩
              rw [Option.some.inj hs]
              exact h

theorem isWritableSource_iff (source : List Char) :
    isWritableSource source = true ↔ source ≠ [] ∧ ∀ c ∈ source, isWordBreaker c = false := by
  rw [isWritableSource, Bool.and_eq_true, decide_eq_true_eq, Bool.not_eq_true', List.any_eq_false]
  simp only [Bool.not_eq_true]

theorem isWritableCommand_iff (command : List Char) :
    isWritableCommand command = true ↔
      command ≠ [] ∧ command.head? ≠ some ':' ∧ command.head? ≠ some '@' ∧
        ∀ c ∈ command, isWordBreaker c = false := by
  rw [isWritableCommand, Bool.and_eq_true, Bool.and_eq_true, Bool.and_eq_true, decide_eq_true_eq,
    decide_eq_true_eq, decide_eq_true_eq, Bool.not_eq_true', List.any_eq_false, and_assoc,
    and_assoc]
  simp only [Bool.not_eq_true]

theorem blank_not_mem_of_words {w : List Char} (h : ∀ c ∈ w, isWordBreaker c = false) :
    ' ' ∉ w := fun hmem => absurd (h ' ' hmem) (by decide)

/-- Whatever is read from a line is readable. -/
theorem readable_of_parseBody {line : List Char} {m : Message} (h : parseBody line = .ok m) :
    m.Readable := by
  rcases (parseBody_eq_ok_iff line m).1 h with ⟨hlegal, s, hcut, hs⟩
  rcases (ofSections_eq_ok_iff line s m).1 hs with
    ⟨htags, hsource, hcolon, hat, hmsource, hmcommand, hmparams⟩
  have hwords := words_of_ofLine hcut
  have hmem := mem_of_ofLine hcut
  -- A word of the line holds nothing that ends a word.
  have hword : ∀ w : List Char, ' ' ∉ w → (∀ c ∈ w, c ∈ line) →
      ∀ c ∈ w, isWordBreaker c = false := by
    intro w hblank hsub c hc
    rw [isWordBreaker_eq_false_iff]
    refine ⟨fun he => ?_, hlegal c (hsub c hc)⟩
    rw [he] at hc
    exact hblank hc
  have hreadable : Tags.Readable m.tags := by
    unfold TagsOf at htags
    cases ht : s.tags with
    | none =>
        rw [ht] at htags
        rw [show m.tags = [] from htags]
        exact Tags.readable_nil
    | some text =>
        rw [ht] at htags
        exact readable_of_parseTags
          (hword text (hwords.tags text ht) fun c => (hmem c).1 text ht) htags
  refine ⟨⟨hreadable.writable, fun source hsome => ?_, ?_, ?_, ?_⟩, hreadable.distinct,
    hreadable.nulFree⟩
  · rw [hmsource] at hsome
    rcases Option.map_eq_some_iff.1 hsome with ⟨text, ht, rfl⟩
    rw [String.toList_ofList, isWritableSource_iff]
    refine ⟨fun he => hsource ?_, hword text (hwords.source text ht) fun c => (hmem c).2.1 text ht⟩
    rw [ht, he]
  · rw [hmcommand, String.toList_ofList, isWritableCommand_iff]
    exact ⟨hwords.command_ne_nil, hcolon, hat,
      hword s.command hwords.command fun c => (hmem c).2.2.1⟩
  · intro p hp c hc
    rw [hmparams, List.map_map, String.toList_comp_ofList, List.map_id] at hp
    exact hlegal c ((hmem c).2.2.2 p hp hc)
  · rw [hmparams, List.map_map, String.toList_comp_ofList, List.map_id]
    exact hwords.params

theorem readable_of_parse {line : String} {m : Message} (h : parse line = .ok m) : m.Readable :=
  readable_of_parseBody h

theorem renderBody_eq_line (m : Message) : m.renderBody = m.sections.line := by
  unfold renderBody Sections.line sections
  by_cases htags : m.tags = []
  · rw [if_pos htags, if_pos htags]
    cases m.source with
    | none => simp only [marked, Option.map_none, List.nil_append]
    | some source =>
        simp only [marked, Option.map_some, List.nil_append, List.cons_append, List.append_assoc]
  · rw [if_neg htags, if_neg htags]
    cases m.source with
    | none =>
        simp only [marked, Option.map_none, List.nil_append, List.cons_append, List.append_assoc]
    | some source =>
        simp only [marked, Option.map_some, List.nil_append, List.cons_append, List.append_assoc]

theorem mem_renderTags {tags : List Tag} {c : Char} (h : c ∈ renderTags tags) :
    c = ';' ∨ ∃ t ∈ tags, c ∈ renderTag t := by
  induction tags with
  | nil => exact absurd h List.not_mem_nil
  | cons t rest ih =>
      cases rest with
      | nil => exact .inr ⟨t, List.mem_cons_self, h⟩
      | cons u more =>
          rw [renderTags, List.mem_append, List.mem_cons] at h
          · rcases h with h | h | h
            · exact .inr ⟨t, List.mem_cons_self, h⟩
            · exact .inl h
            · rcases ih h with h | ⟨v, hv, hc⟩
              · exact .inl h
              · exact .inr ⟨v, List.mem_cons_of_mem t hv, hc⟩
          · exact fun he => List.cons_ne_nil u more he

theorem mem_renderParams {params : List (List Char)} {c : Char} (h : c ∈ renderParams params) :
    c = ' ' ∨ c = ':' ∨ ∃ p ∈ params, c ∈ p := by
  induction params with
  | nil => exact absurd h List.not_mem_nil
  | cons p rest ih =>
      cases rest with
      | nil =>
          rw [renderParams, List.mem_cons, List.mem_append] at h
          rcases h with h | h | h
          · exact .inl h
          · by_cases hp : needsColon p = true
            · rw [if_pos hp, List.mem_singleton] at h
              exact .inr (.inl h)
            · rw [if_neg hp] at h
              exact absurd h List.not_mem_nil
          · exact .inr (.inr ⟨p, List.mem_cons_self, h⟩)
      | cons q qs =>
          rw [renderParams, List.mem_cons, List.mem_append] at h
          · rcases h with h | h | h
            · exact .inl h
            · exact .inr (.inr ⟨p, List.mem_cons_self, h⟩)
            · rcases ih h with h | h | ⟨r, hr, hc⟩
              · exact .inl h
              · exact .inr (.inl h)
              · exact .inr (.inr ⟨r, List.mem_cons_of_mem p hr, hc⟩)
          · exact fun he => List.cons_ne_nil q qs he

theorem mem_marked {mark c : Char} {text : Option (List Char)} {rest : List Char}
    (h : c ∈ marked mark text rest) :
    c = mark ∨ c = ' ' ∨ (∃ w, text = some w ∧ c ∈ w) ∨ c ∈ rest := by
  cases text with
  | none => exact .inr (.inr (.inr h))
  | some w =>
      rw [marked, List.mem_cons, List.mem_append, List.mem_cons] at h
      rcases h with h | h | h | h
      · exact .inl h
      · exact .inr (.inr (.inl ⟨w, rfl, h⟩))
      · exact .inr (.inl h)
      · exact .inr (.inr (.inr h))

/-- The line of a writable message is one line, and holds no NUL unless a tag
    value does. -/
theorem renderBody_oneLine {m : Message} (h : m.Writable) (c : Char) (hc : c ∈ m.renderBody) :
    c ≠ '\r' ∧ c ≠ '\n' ∧ (m.NulFree → c ≠ '\x00') := by
  have hlegal : isLineBreaker c = false → c ≠ '\r' ∧ c ≠ '\n' ∧ (m.NulFree → c ≠ '\x00') := by
    intro hl
    simp only [isLineBreaker, Bool.or_eq_false_iff, decide_eq_false_iff_not] at hl
    exact ⟨hl.1.1, hl.1.2, fun _ => hl.2⟩
  -- A character comes from a mark or a blank, or from one of the four parts.
  rw [renderBody_eq_line, Sections.line] at hc
  rcases mem_marked hc with rfl | rfl | ⟨text, ht, hc⟩ | hc
  · exact hlegal rfl
  · exact hlegal rfl
  · by_cases htags : m.tags = []
    · rw [sections, if_pos htags] at ht
      exact absurd ht.symm (Option.some_ne_none text)
    · rw [sections, if_neg htags, Option.some.injEq] at ht
      rw [← ht] at hc
      rcases mem_renderTags hc with rfl | ⟨t, hmem, hc⟩
      · exact hlegal rfl
      · have hsafe := renderTag_wireSafe (h.tags t hmem) c hc
        exact ⟨hsafe.2.2.1, hsafe.2.2.2.1, fun hn => hsafe.2.2.2.2 (hn t hmem)⟩
  · rcases mem_marked hc with rfl | rfl | ⟨text, ht, hc⟩ | hc
    · exact hlegal rfl
    · exact hlegal rfl
    · rcases Option.map_eq_some_iff.1 ht with ⟨source, hs, rfl⟩
      have hword := ((isWritableSource_iff _).1 (h.source source hs)).2 c hc
      exact hlegal ((isWordBreaker_eq_false_iff c).1 hword).2
    · rcases List.mem_append.1 hc with hc | hc
      · have hword := ((isWritableCommand_iff _).1 h.command).2.2.2 c hc
        exact hlegal ((isWordBreaker_eq_false_iff c).1 hword).2
      · rcases mem_renderParams hc with rfl | rfl | ⟨p, hp, hc⟩
        · exact hlegal rfl
        · exact hlegal rfl
        · exact hlegal (h.params.oneLine p hp c hc)

/-- The sections of a writable message cannot be taken for one another. -/
theorem apart_sections {m : Message} (h : m.Writable) : m.sections.Apart := by
  have hcommand := (isWritableCommand_iff _).1 h.command
  refine ⟨⟨fun text ht => ?_, fun text ht => ?_, hcommand.1,
    blank_not_mem_of_words hcommand.2.2.2, h.params.words⟩, hcommand.2.1, hcommand.2.2.1⟩
  · by_cases htags : m.tags = []
    · rw [sections, if_pos htags] at ht
      exact absurd ht.symm (Option.some_ne_none text)
    · rw [sections, if_neg htags, Option.some.injEq] at ht
      rw [← ht]
      intro hmem
      rcases mem_renderTags hmem with he | ⟨t, htm, hc⟩
      · exact absurd he (by decide)
      · exact (renderTag_wireSafe (h.tags t htm) ' ' hc).1 rfl
  · rcases Option.map_eq_some_iff.1 ht with ⟨source, hs, rfl⟩
    exact blank_not_mem_of_words ((isWritableSource_iff _).1 (h.source source hs)).2

theorem toList_render (m : Message) : m.render.toList = m.renderBody ++ ['\r', '\n'] :=
  String.toList_ofList

/-- What is readable is read back from its line. -/
theorem parseBody_renderBody {m : Message} (h : m.Readable) : parseBody m.renderBody = .ok m := by
  rw [parseBody_eq_ok_iff]
  refine ⟨fun c hc => ?_, m.sections, ?_, ?_⟩
  · have hsafe := renderBody_oneLine h.writable c hc
    simp only [isLineBreaker, Bool.or_eq_false_iff, decide_eq_false_iff_not]
    exact ⟨⟨hsafe.1, hsafe.2.1⟩, hsafe.2.2 h.nulFree⟩
  · rw [renderBody_eq_line]
    exact ofLine_line (apart_sections h.writable)
  · have hcommand := (isWritableCommand_iff _).1 h.writable.command
    rw [ofSections_eq_ok_iff]
    refine ⟨?_, fun hs => ?_, hcommand.2.1, hcommand.2.2.1, ?_, ?_, ?_⟩
    · unfold TagsOf sections
      by_cases htags : m.tags = []
      · rw [if_pos htags]
        exact htags
      · rw [if_neg htags]
        exact parseTags_renderTags m.tags htags h.writable.tags h.distinct
    · rcases Option.map_eq_some_iff.1 hs with ⟨source, hsome, hempty⟩
      exact ((isWritableSource_iff _).1 (h.writable.source source hsome)).1 hempty
    · rw [sections, Option.map_map, String.ofList_comp_toList, Option.map_id_apply]
    · rw [sections, String.ofList_toList]
    · rw [sections, List.map_map, String.ofList_comp_toList, List.map_id]

theorem parse_render {m : Message} (h : m.Readable) : parse m.render = .ok m := by
  rw [parse, toList_render, dropEnding_append]
  exact parseBody_renderBody h

theorem nul_mem_renderTags {tags : List Tag} {t : Tag} (ht : t ∈ tags) (hn : ¬ t.NulFree) :
    '\x00' ∈ renderTags tags := by
  have htag : '\x00' ∈ renderTag t := by
    unfold Tag.NulFree at hn
    rw [Classical.not_forall] at hn
    rcases hn with ⟨value, hvalue⟩
    rw [Classical.not_imp, Classical.not_not] at hvalue
    rw [renderTag, hvalue.1]
    exact List.mem_append_right _
      (List.mem_cons_of_mem _ ((TagValue.nul_mem_escape_iff _).2 hvalue.2))
  induction tags with
  | nil => exact absurd ht List.not_mem_nil
  | cons u rest ih =>
      cases rest with
      | nil =>
          rw [← List.mem_singleton.1 ht]
          exact htag
      | cons v more =>
          rw [renderTags, List.mem_append, List.mem_cons]
          · rcases List.mem_cons.1 ht with he | hmem
            · exact .inl (he ▸ htag)
            · exact .inr (.inr (ih hmem))
          · exact fun he => List.cons_ne_nil v more he

/-- A NUL in a value is what reading reports of an otherwise writable message. -/
theorem parse_render_of_nul {m : Message} (hw : m.Writable) (hn : ¬ m.NulFree) :
    ∃ position, parse m.render = .error (.illegalCharacter 0 position) := by
  unfold NulFree at hn
  rw [Classical.not_forall] at hn
  rcases hn with ⟨t, ht⟩
  rw [Classical.not_imp] at ht
  -- The NUL is in the tags section, so reading meets something illegal.
  have htags : m.tags ≠ [] := List.ne_nil_of_mem ht.1
  have hmem : '\x00' ∈ m.renderBody := by
    rw [renderBody, if_neg htags]
    refine List.mem_append_left _ (List.mem_append_left _ (List.mem_append_left _ ?_))
    exact List.mem_cons_of_mem _ (List.mem_append_left _ (nul_mem_renderTags ht.1 ht.2))
  rw [parse, toList_render, dropEnding_append, parseBody, if_neg (List.ne_nil_of_mem hmem)]
  cases hfound : firstIllegal? m.renderBody with
  | none =>
      have hlegal := (firstIllegal?_eq_none_iff _).1 hfound _ hmem
      exact absurd hlegal (by decide)
  | some found =>
      rcases found with ⟨c, position⟩
      have hc := mem_of_firstIllegal? hfound
      have hsafe := renderBody_oneLine hw c hc.1
      -- It breaks the line, and neither CR nor LF is in it.
      have hnul : c = '\x00' := by
        rw [isLineBreaker, Bool.or_eq_true, Bool.or_eq_true, decide_eq_true_eq, decide_eq_true_eq,
          decide_eq_true_eq] at hc
        exact hc.2.resolve_left fun h => h.elim hsafe.1 hsafe.2.1
      rw [hnul]
      exact ⟨position, rfl⟩

/-- Whatever a line spells, writing the message and reading it again gives the
    same message, and its line stays the same from then on. -/
theorem reparse_of_parse {line : String} {m : Message} (h : parse line = .ok m) :
    m.validate = .ok () ∧ m.KeysDistinct ∧ parse m.render = .ok m ∧
      ∀ again, parse m.render = .ok again → again.render = m.render := by
  have hreadable := readable_of_parse h
  have hback := parse_render hreadable
  refine ⟨(validate_eq_ok_iff m).2 hreadable.writable, hreadable.distinct, hback, ?_⟩
  intro again ha
  rw [hback, Except.ok.injEq] at ha
  rw [ha]

/-- A line with runs of blanks, a repeated key, an empty value, an escape that
    means its letter, and a colon that the trailing parameter does not need. -/
theorem reparse_of_parse_loose_line :
    parse "@a=1;b;a=x\\q\\s;c=  :src   CMD  p   :last\n"
        = .ok ⟨[⟨"a", some "xq "⟩, ⟨"b", none⟩, ⟨"c", some ""⟩], some "src", "CMD", ["p", "last"]⟩ ∧
      parse "@a=xq\\s;b;c= :src CMD p last\r\n"
        = .ok ⟨[⟨"a", some "xq "⟩, ⟨"b", none⟩, ⟨"c", some ""⟩], some "src", "CMD",
          ["p", "last"]⟩ := by
  have h : parse "@a=1;b;a=x\\q\\s;c=  :src   CMD  p   :last\n"
      = .ok ⟨[⟨"a", some "xq "⟩, ⟨"b", none⟩, ⟨"c", some ""⟩], some "src", "CMD",
        ["p", "last"]⟩ := by
    cbv
  exact ⟨h, (reparse_of_parse h).2.2.1⟩

end Message

end IrcHarness
