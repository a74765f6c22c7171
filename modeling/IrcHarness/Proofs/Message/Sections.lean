import IrcHarness.Proofs.Message.Parameters
import IrcHarness.Proofs.Message.TagSection

/-!
# Lines and Sections

A line is its sections one behind the other, and cutting it finds them again
as long as none of them can be taken for another one. `Sections.Apart` says
when that is so. It asks for less than a writable message does: what stands
within a section makes no difference to where the section ends.

In the other direction, whatever cutting gives keeps these conditions, but for
one. A command may come out with a colon or an `@` in front, when the section
that this sign would have opened was over already, and `ofSections` refuses
it.

## Main definitions

* `marked`: A section with its mark, in front of the rest of a line.
* `Sections.line`: Sections one behind the other.
* `Sections.Words`, `Sections.Apart`: No section can be taken for another one.

## Theorems

* `ofLine_line`: Sections that are apart are found again.
* `words_of_ofLine`: What cutting gives are words where words belong.
* `mem_of_ofLine`: Cutting brings no characters of its own.
* `ofSections_eq_ok_iff`: What a message is made of.
-/

namespace IrcHarness

namespace Message

/-- A section with its mark and the blank that ends it, if there is one, in
    front of the rest of a line. -/
def marked (mark : Char) (text : Option (List Char)) (rest : List Char) : List Char :=
  match text with
  | none => rest
  | some text => mark :: (text ++ ' ' :: rest)

/-- Sections one behind the other. -/
def Sections.line (s : Sections) : List Char :=
  marked '@' s.tags (marked ':' s.source (s.command ++ renderParams s.params))

/-- Sections that hold words where words belong. -/
structure Sections.Words (s : Sections) : Prop where
  /-- No blank ends the tags early. -/
  tags : ∀ tags, s.tags = some tags → ' ' ∉ tags
  /-- No blank ends the source early. -/
  source : ∀ source, s.source = some source → ' ' ∉ source
  /-- There is a command. -/
  command_ne_nil : s.command ≠ []
  /-- No blank ends the command early. -/
  command : ' ' ∉ s.command
  /-- All parameters but the last are words. -/
  params : ∀ p ∈ s.params.dropLast, needsColon p = false

/-- Sections of which none can be taken for another one. -/
structure Sections.Apart (s : Sections) : Prop extends s.Words where
  /-- The command opens no source. -/
  head_ne_colon : s.command.head? ≠ some ':'
  /-- The command opens no tags. -/
  head_ne_at : s.command.head? ≠ some '@'

theorem dropBlanks_of_head_ne {cs : List Char} (h : cs.head? ≠ some ' ') : dropBlanks cs = cs := by
  cases cs with
  | nil => rfl
  | cons c rest => exact dropBlanks_of_ne rest fun he => h (congrArg some he)

/-- A section is taken off a line that it stands in front of. -/
theorem markedSection_marked (mark : Char) (text : Option (List Char)) (rest : List Char)
    (htext : ∀ w, text = some w → ' ' ∉ w) (hmark : rest.head? ≠ some mark)
    (hblank : rest.head? ≠ some ' ') :
    (markedSection mark (marked mark text rest)).1 = text ∧
      dropBlanks (markedSection mark (marked mark text rest)).2 = rest := by
  cases text with
  | some w =>
      have hspan := span_word (' ' :: rest) (htext w rfl) (.inr rfl)
      rw [marked, markedSection, if_pos rfl, hspan.1, hspan.2]
      refine ⟨rfl, ?_⟩
      rw [dropBlanks_blank, dropBlanks_of_head_ne hblank]
  | none =>
      rw [marked]
      cases rest with
      | nil => exact ⟨rfl, rfl⟩
      | cons c more =>
          rw [markedSection, if_neg fun he => hmark (congrArg some he)]
          exact ⟨rfl, dropBlanks_of_head_ne hblank⟩

theorem marked_head_ne {mark c : Char} {text : Option (List Char)} {rest : List Char}
    (hc : mark ≠ c) (h : rest.head? ≠ some c) : (marked mark text rest).head? ≠ some c := by
  cases text with
  | none => exact h
  | some w => exact fun he => hc (Option.some.inj he)

theorem head_append_ne {w : List Char} {c : Char} (rest : List Char) (hne : w ≠ [])
    (h : w.head? ≠ some c) : (w ++ rest).head? ≠ some c := by
  cases w with
  | nil => exact absurd rfl hne
  | cons d more => exact h

/-- Sections that are apart are found again. -/
theorem ofLine_line {s : Sections} (h : s.Apart) : Sections.ofLine s.line = some s := by
  have hblank : s.command.head? ≠ some ' ' := fun he =>
    h.command (List.mem_of_head? he)
  have hcommand := fun c => head_append_ne (c := c) (renderParams s.params) h.command_ne_nil
  -- Each section ends at its blank, and what stands behind it starts with no
  -- mark of its own.
  have htags := markedSection_marked '@' s.tags
    (marked ':' s.source (s.command ++ renderParams s.params)) h.tags
    (marked_head_ne (by decide) (hcommand _ h.head_ne_at))
    (marked_head_ne (by decide) (hcommand _ hblank))
  have hsource := markedSection_marked ':' s.source (s.command ++ renderParams s.params) h.source
    (hcommand _ h.head_ne_colon) (hcommand _ hblank)
  have hspan := span_word (renderParams s.params) h.command (renderParams_head s.params)
  unfold Sections.ofLine Sections.line
  dsimp only
  rw [htags.1, htags.2, hsource.1, hsource.2, hspan.1, hspan.2,
    splitParams_renderParams _ h.params]
  split
  · next hn => exact absurd hn h.command_ne_nil
  · rfl

theorem markedSection_sublist (mark : Char) (cs : List Char) :
    (∀ w, (markedSection mark cs).1 = some w → ' ' ∉ w ∧ ∀ c ∈ w, c ∈ cs) ∧
      ∀ c ∈ (markedSection mark cs).2, c ∈ cs := by
  cases cs with
  | nil => exact ⟨fun w h => absurd h.symm (Option.some_ne_none w), fun c h => h⟩
  | cons d rest =>
      rw [markedSection]
      by_cases hd : d = mark
      · rw [if_pos hd]
        refine ⟨fun w hw => ?_, fun c hc => ?_⟩
        · rw [← Option.some.inj hw]
          refine ⟨fun hmem => ?_, fun c hc => ?_⟩
          · exact (isWordChar_eq_true_iff ' ').1 (List.all_eq_true.1 List.all_takeWhile _ hmem) rfl
          · exact List.mem_cons_of_mem d ((List.takeWhile_sublist _).subset hc)
        · exact List.mem_cons_of_mem d ((List.dropWhile_sublist _).subset hc)
      · rw [if_neg hd]
        exact ⟨fun w h => absurd h.symm (Option.some_ne_none w), fun c h => h⟩

/-- What the cuts of a line are, one after the other. -/
theorem eq_of_ofLine {line : List Char} {s : Sections} (h : Sections.ofLine line = some s) :
    s.tags = (markedSection '@' line).1 ∧
      ∃ rest, (∀ c ∈ rest, c ∈ line) ∧ s.source = (markedSection ':' rest).1 ∧
        s.command = (dropBlanks (markedSection ':' rest).2).takeWhile isWordChar ∧
        s.command ≠ [] ∧
        s.params = splitParams ((dropBlanks (markedSection ':' rest).2).dropWhile isWordChar) := by
  unfold Sections.ofLine at h
  dsimp only at h
  split at h
  · exact absurd h.symm (Option.some_ne_none s)
  · next hne =>
      rw [Option.some.injEq] at h
      rw [← h]
      refine ⟨rfl, dropBlanks (markedSection '@' line).2, fun c hc => ?_, rfl, rfl, hne, rfl⟩
      exact (markedSection_sublist '@' line).2 c (mem_of_mem_dropBlanks hc)

/-- What cutting gives are words where words belong. -/
theorem words_of_ofLine {line : List Char} {s : Sections} (h : Sections.ofLine line = some s) :
    s.Words := by
  rcases eq_of_ofLine h with ⟨htags, rest, _, hsource, hcommand, hne, hparams⟩
  refine ⟨fun w hw => ?_, fun w hw => ?_, hne, fun hmem => ?_, ?_⟩
  · rw [htags] at hw
    exact ((markedSection_sublist '@' line).1 w hw).1
  · rw [hsource] at hw
    exact ((markedSection_sublist ':' rest).1 w hw).1
  · rw [hcommand] at hmem
    exact (isWordChar_eq_true_iff ' ').1 (List.all_eq_true.1 List.all_takeWhile _ hmem) rfl
  · rw [hparams]
    exact needsColon_of_mem_splitParams _

/-- Cutting brings no characters of its own. -/
theorem mem_of_ofLine {line : List Char} {s : Sections} (h : Sections.ofLine line = some s)
    (c : Char) :
    (∀ w, s.tags = some w → c ∈ w → c ∈ line) ∧ (∀ w, s.source = some w → c ∈ w → c ∈ line) ∧
      (c ∈ s.command → c ∈ line) ∧ ∀ p ∈ s.params, c ∈ p → c ∈ line := by
  rcases eq_of_ofLine h with ⟨htags, rest, hrest, hsource, hcommand, _, hparams⟩
  -- The command and the parameters come from what is left behind the source.
  have hleft : ∀ d ∈ dropBlanks (markedSection ':' rest).2, d ∈ line := fun d hd =>
    hrest d ((markedSection_sublist ':' rest).2 d (mem_of_mem_dropBlanks hd))
  refine ⟨fun w hw hc => ?_, fun w hw hc => ?_, fun hc => ?_, fun p hp hc => ?_⟩
  · rw [htags] at hw
    exact ((markedSection_sublist '@' line).1 w hw).2 c hc
  · rw [hsource] at hw
    exact hrest c (((markedSection_sublist ':' rest).1 w hw).2 c hc)
  · rw [hcommand] at hc
    exact hleft c ((List.takeWhile_sublist _).subset hc)
  · rw [hparams] at hp
    exact hleft c ((List.dropWhile_sublist _).subset (mem_of_mem_splitParams _ p hp c hc))

/-- The tags of a tags section that may be missing. -/
def TagsOf (text : Option (List Char)) (tags : List Tag) : Prop :=
  match text with
  | none => tags = []
  | some text => parseTags text = .ok tags

/-- The checks that are left once the tags have been read. -/
theorem ofSections_of_tagsOf {s : Sections} {tags : List Tag} (h : TagsOf s.tags tags)
    (line : List Char) :
    ofSections line s =
      if s.source = some [] then .error (.invalidSource "")
      else if s.command.head? = some ':' ∨ s.command.head? = some '@' then
        .error (.missingCommand (String.ofList line))
      else .ok ⟨tags, s.source.map String.ofList, String.ofList s.command,
        s.params.map String.ofList⟩ := by
  unfold TagsOf at h
  unfold ofSections
  cases htags : s.tags with
  | none =>
      rw [htags] at h
      rw [show tags = [] from h]
      simp only [bind, Except.bind]
  | some text =>
      rw [htags] at h
      dsimp only at h
      simp only [bind, Except.bind, h]

theorem exists_tagsOf_of_ofSections {line : List Char} {s : Sections} {m : Message}
    (h : ofSections line s = .ok m) : ∃ tags, TagsOf s.tags tags := by
  unfold ofSections at h
  unfold TagsOf
  cases htags : s.tags with
  | none => exact ⟨[], rfl⟩
  | some text =>
      rw [htags] at h
      dsimp only at h
      cases hread : parseTags text with
      | ok tags => exact ⟨tags, hread⟩
      | error e =>
          rw [hread] at h
          exact absurd h (by simp only [bind, Except.bind, reduceCtorEq, not_false_eq_true])

/-- What a message is made of: sections whose tags can be read, with a source
    that is not empty and a command that opens no other section. -/
theorem ofSections_eq_ok_iff (line : List Char) (s : Sections) (m : Message) :
    ofSections line s = .ok m ↔
      TagsOf s.tags m.tags ∧ s.source ≠ some [] ∧ s.command.head? ≠ some ':' ∧
        s.command.head? ≠ some '@' ∧ m.source = s.source.map String.ofList ∧
        m.command = String.ofList s.command ∧ m.params = s.params.map String.ofList := by
  constructor
  · intro h
    rcases exists_tagsOf_of_ofSections h with ⟨tags, htags⟩
    rw [ofSections_of_tagsOf htags] at h
    by_cases hsource : s.source = some []
    · rw [if_pos hsource] at h
      cases h
    · rw [if_neg hsource] at h
      by_cases hhead : s.command.head? = some ':' ∨ s.command.head? = some '@'
      · rw [if_pos hhead] at h
        cases h
      · rw [if_neg hhead, Except.ok.injEq] at h
        rw [← h]
        exact ⟨htags, hsource, fun hc => hhead (.inl hc), fun ha => hhead (.inr ha), rfl, rfl, rfl⟩
  · rintro ⟨htags, hsource, hcolon, hat, hs, hc, hp⟩
    rw [ofSections_of_tagsOf htags, if_neg hsource, if_neg fun h => h.elim hcolon hat, ← hs, ← hc,
      ← hp]

end Message

end IrcHarness
