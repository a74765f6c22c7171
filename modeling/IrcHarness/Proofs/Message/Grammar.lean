import IrcHarness.Proofs.Message.Sections

/-!
# The Grammar of a Line

What a line may look like, said without the way in which it is read. A line
without its ending is

    ['@' tags] blanks [':' source] blanks command params

where tags and source are words, each as long as it can be. A section is
recognised by its mark alone, and the grammar does not say that a section has
to be taken where its mark stands. It need not: a command that starts with
neither of the marks leaves a single way to split a line (`Proper.ofLine`), and
it is the one that reading takes, from left to right and always as much as it
can.

The tags are pieces between semicolons, a key alone or a key and a value, and
the parameters are words up to one with a colon in front, which takes the rest
of the line.

## Main definitions

* `TagValue.Means`, `TagValue.Dangles`: What a written value means, if anything.
* `TagKey.NameIs`: The name inside a key.
* `Message.TagText`, `Message.TagFault`: A tag as it is written, or none.
* `Message.TagsText`, `Message.TagsFault`: The same of a whole section.
* `Message.Opens`, `Message.Front`: The sections in front of the command.
* `Message.ParamsText`: Parameters as they are written.
* `Message.Spells`, `Message.Proper`: A line that consists of some sections.

## Theorems

* `means_iff`, `dangles_iff`, `nameIs_iff`: Values and keys.
* `parseTag_cases`, `tagsText_iff`, `tagsFault_iff`: Tags.
* `splitParams_of_paramsText`, `paramsText_splitParams`: Parameters.
* `front_unique`: The command leaves one way to split what is in front of it.
* `ofLine_eq_none_iff`, `proper_iff`: Reading cuts a line as the grammar says.
-/

namespace IrcHarness

namespace TagValue

/-- What a written value means. A backslash and the character behind it stand
    for one character, and any other character stands for itself. -/
inductive Means : List Char → List Char → Prop where
  /-- Nothing means nothing. -/
  | nil : Means [] []
  /-- A character that is no backslash. -/
  | plain {c : Char} {w v : List Char} (hc : c ≠ '\\') (h : Means w v) : Means (c :: w) (c :: v)
  /-- A backslash and a character. -/
  | escaped (d : Char) {w v : List Char} (h : Means w v) : Means ('\\' :: d :: w) (meaning d :: v)

/-- A written value that ends in a backslash with nothing behind it. -/
def Dangles (w : List Char) : Prop :=
  ∃ front v, Means front v ∧ w = front ++ ['\\']

theorem means_iff (w v : List Char) : Means w v ↔ unescape w = some v := by
  constructor
  · intro h
    induction h with
    | nil => rfl
    | plain hc h ih => rw [unescape_cons_of_ne hc, ih, Option.map_some]
    | escaped d h ih => rw [unescape_backslash, ih, Option.map_some]
  · fun_induction unescape w generalizing v with
    | case1 =>
        intro h
        rw [← Option.some.inj h]
        exact .nil
    | case2 =>
        intro h
        exact absurd h.symm (Option.some_ne_none v)
    | case3 c hc =>
        intro h
        rw [← Option.some.inj h]
        exact .plain hc .nil
    | case4 d rest ih =>
        intro h
        rcases Option.map_eq_some_iff.1 h with ⟨more, hmore, rfl⟩
        exact .escaped d (ih more hmore)
    | case5 c d rest hc ih =>
        intro h
        rcases Option.map_eq_some_iff.1 h with ⟨more, hmore, rfl⟩
        exact .plain hc (ih more hmore)

theorem dangles_iff (w : List Char) : Dangles w ↔ unescape w = none := by
  constructor
  · rintro ⟨front, v, h, rfl⟩
    induction h with
    | nil => rfl
    | plain hc h ih => rw [List.cons_append, unescape_cons_of_ne hc, ih, Option.map_none]
    | escaped d h ih =>
        rw [List.cons_append, List.cons_append, unescape_backslash, ih, Option.map_none]
  · fun_induction unescape w with
    | case1 =>
        intro h
        exact absurd h (Option.some_ne_none _)
    | case2 => exact fun _ => ⟨[], [], .nil, rfl⟩
    | case3 c hc =>
        intro h
        exact absurd h (Option.some_ne_none _)
    | case4 d rest ih =>
        intro h
        rcases ih (Option.map_eq_none_iff.1 h) with ⟨front, v, hfront, heq⟩
        exact ⟨'\\' :: d :: front, meaning d :: v, .escaped d hfront, by rw [heq]; rfl⟩
    | case5 c d rest hc ih =>
        intro h
        rcases ih (Option.map_eq_none_iff.1 h) with ⟨front, v, hfront, heq⟩
        exact ⟨c :: front, c :: v, .plain hc hfront, by rw [heq]; rfl⟩

end TagValue

namespace TagKey

/-- The name inside a key. A `+` in front is the mark of a client-only tag, and
    what stands in front of the last `/` is the vendor. -/
def NameIs (key name : List Char) : Prop :=
  ∃ rest, (key = '+' :: rest ∨ key = rest ∧ rest.head? ≠ some '+') ∧
    (rest = name ∨ ∃ vendor, rest = vendor ++ '/' :: name) ∧ '/' ∉ name

theorem behindLast_eq_iff (mark : Char) (cs name : List Char) :
    behindLast mark cs = name ↔
      (cs = name ∨ ∃ vendor, cs = vendor ++ mark :: name) ∧ mark ∉ name := by
  have hword : ∀ w : List Char, mark ∉ w → ∀ c ∈ w.reverse, decide (c ≠ mark) = true := by
    intro w hw c hc
    rw [decide_eq_true_eq]
    rintro rfl
    exact hw (List.mem_reverse.1 hc)
  unfold behindLast
  constructor
  · rintro rfl
    have hcut := List.takeWhile_append_dropWhile (p := fun c => decide (c ≠ mark)) (l := cs.reverse)
    refine ⟨?_, fun hmem => ?_⟩
    · cases hdrop : cs.reverse.dropWhile (fun c => decide (c ≠ mark)) with
      | nil =>
          rw [hdrop, List.append_nil] at hcut
          rw [hcut, List.reverse_reverse]
          exact .inl rfl
      | cons d rest =>
          -- What stopped the word is the mark.
          have hstop := List.head?_dropWhile_not (fun c => decide (c ≠ mark)) cs.reverse
          rw [hdrop] at hstop
          have hd : d = mark := by simpa using hstop
          refine .inr ⟨rest.reverse, ?_⟩
          rw [hdrop, hd] at hcut
          have hback := congrArg List.reverse hcut
          rw [List.reverse_reverse, List.reverse_append, List.reverse_cons, List.append_assoc,
            List.singleton_append] at hback
          exact hback.symm
    · have hall := List.all_eq_true.1 List.all_takeWhile _ (List.mem_reverse.1 hmem)
      exact absurd rfl (of_decide_eq_true hall)
  · rintro ⟨rfl | ⟨vendor, rfl⟩, hname⟩
    · rw [List.takeWhile_eq_self_iff.2 (hword cs hname), List.reverse_reverse]
    · rw [List.reverse_append, List.reverse_cons, List.append_assoc,
        List.takeWhile_append_of_pos (hword name hname), List.singleton_append,
        List.takeWhile_cons_of_neg (by simp), List.append_nil, List.reverse_reverse]

theorem nameIs_iff (key key' : List Char) : NameIs key key' ↔ name key = key' := by
  unfold name NameIs
  rw [behindLast_eq_iff]
  constructor
  · rintro ⟨rest, rfl | ⟨rfl, hplus⟩, hname⟩
    · exact hname
    · have hmark : withoutMark key = key := by
        unfold withoutMark
        split
        · next more => exact absurd rfl hplus
        · rfl
      rw [hmark]
      exact hname
  · intro hname
    refine ⟨withoutMark key, ?_, hname⟩
    unfold withoutMark
    split
    · exact .inl rfl
    · next hplus =>
        refine .inr ⟨rfl, fun hhead => ?_⟩
        rcases List.head?_eq_some_iff.1 hhead with ⟨more, hmore⟩
        exact hplus more hmore

end TagKey

namespace Message

/-- A tag as it is written: a key alone, or a key and a value behind the first
    equals sign. The name inside the key is not empty. -/
inductive TagText : List Char → Tag → Prop where
  /-- A key alone. -/
  | bare {key name : List Char} (hkey : '=' ∉ key) (hname : TagKey.NameIs key name)
      (hne : name ≠ []) : TagText key ⟨String.ofList key, none⟩
  /-- A key and a value. -/
  | valued {key name value meant : List Char} (hkey : '=' ∉ key)
      (hname : TagKey.NameIs key name) (hne : name ≠ []) (hvalue : TagValue.Means value meant) :
      TagText (key ++ '=' :: value) ⟨String.ofList key, some (String.ofList meant)⟩

/-- A tag that cannot be read, and what is reported of it. What is wrong with the
    value comes first, and what is wrong with the key is reported with the whole
    section. -/
inductive TagFault (tags : List Char) : List Char → ParseError → Prop where
  /-- The value has no meaning. -/
  | dangles {key value : List Char} (hkey : '=' ∉ key) (hvalue : TagValue.Dangles value) :
      TagFault tags (key ++ '=' :: value) (.unterminatedEscape (String.ofList value))
  /-- A key alone has no name. -/
  | bare {key : List Char} (hkey : '=' ∉ key) (hname : TagKey.NameIs key []) :
      TagFault tags key (.emptyTagKey (String.ofList tags))
  /-- The key of a value has no name. -/
  | valued {key value meant : List Char} (hkey : '=' ∉ key) (hname : TagKey.NameIs key [])
      (hvalue : TagValue.Means value meant) :
      TagFault tags (key ++ '=' :: value) (.emptyTagKey (String.ofList tags))

/-- Every piece of a tags section is a tag, or there is something to report, and
    reading finds out which. -/
theorem parseTag_cases (tags text : List Char) :
    (∃ t, parseTag tags text = .ok t ∧ TagText text t) ∨
      ∃ e, parseTag tags text = .error e ∧ TagFault tags text e := by
  have hname : ∀ key : List Char, TagKey.NameIs key (TagKey.name key) := fun key =>
    (TagKey.nameIs_iff key _).2 rfl
  unfold parseTag
  cases hcut : Split.cutAt '=' text with
  | none =>
      have hkey := Split.not_mem_of_cutAt_none '=' text hcut
      dsimp only
      by_cases hne : TagKey.name text = []
      · rw [if_pos hne]
        exact .inr ⟨_, rfl, .bare hkey (hne ▸ hname text)⟩
      · rw [if_neg hne]
        exact .inl ⟨_, rfl, .bare hkey (hname text) hne⟩
  | some parts =>
      rcases parts with ⟨key, value⟩
      have hkey := Split.not_mem_of_cutAt_some '=' text key value hcut
      rw [Split.eq_of_cutAt_some '=' text key value hcut]
      dsimp only
      cases hmeant : TagValue.unescape value with
      | none => exact .inr ⟨_, rfl, .dangles hkey ((TagValue.dangles_iff value).2 hmeant)⟩
      | some meant =>
          have hvalue := (TagValue.means_iff value meant).2 hmeant
          dsimp only
          by_cases hne : TagKey.name key = []
          · rw [if_pos hne]
            exact .inr ⟨_, rfl, .valued hkey (hne ▸ hname key) hvalue⟩
          · rw [if_neg hne]
            exact .inl ⟨_, rfl, .valued hkey (hname key) hne hvalue⟩

theorem parseTag_of_tagText {text : List Char} {t : Tag} (h : TagText text t) (tags : List Char) :
    parseTag tags text = .ok t := by
  unfold parseTag
  cases h with
  | bare hkey hname hne =>
      rw [Split.cutAt_of_not_mem '=' _ hkey]
      dsimp only
      rw [if_neg fun he => hne (((TagKey.nameIs_iff _ _).1 hname).symm.trans he)]
  | valued hkey hname hne hvalue =>
      rw [Split.cutAt_append '=' _ _ hkey]
      simp only [(TagValue.means_iff _ _).1 hvalue]
      rw [if_neg fun he => hne (((TagKey.nameIs_iff _ _).1 hname).symm.trans he)]

theorem parseTag_of_tagFault {tags text : List Char} {e : ParseError} (h : TagFault tags text e) :
    parseTag tags text = .error e := by
  unfold parseTag
  cases h with
  | dangles hkey hvalue =>
      rw [Split.cutAt_append '=' _ _ hkey]
      simp only [(TagValue.dangles_iff _).1 hvalue]
  | bare hkey hname =>
      rw [Split.cutAt_of_not_mem '=' _ hkey]
      dsimp only
      rw [if_pos ((TagKey.nameIs_iff _ _).1 hname)]
  | valued hkey hname hvalue =>
      rw [Split.cutAt_append '=' _ _ hkey]
      simp only [(TagValue.means_iff _ _).1 hvalue]
      rw [if_pos ((TagKey.nameIs_iff _ _).1 hname)]

/-- The pieces of a tags section, of which there is at least one. -/
def Segments (tags : List Char) (texts : List (List Char)) : Prop :=
  texts ≠ [] ∧ (∀ text ∈ texts, ';' ∉ text) ∧ tags = Split.join ';' texts

theorem segments_iff (tags : List Char) (texts : List (List Char)) :
    Segments tags texts ↔ Split.pieces ';' tags = texts := by
  constructor
  · rintro ⟨hne, hclean, rfl⟩
    exact Split.pieces_join ';' texts hne hclean
  · rintro rfl
    exact ⟨Split.pieces_ne_nil ';' tags, Split.not_mem_of_mem_pieces ';' tags,
      (Split.join_pieces ';' tags).symm⟩

/-- Tags set one after the other. -/
def setAll (tags : List Tag) (more : List Tag) : List Tag :=
  more.foldl (fun read t => Tags.set read t.key t.value) tags

/-- The tags of a tags section that may be missing. A key that comes again
    changes the value where the key stands. -/
def TagsText (text : Option (List Char)) (tags : List Tag) : Prop :=
  match text with
  | none => tags = []
  | some text =>
    ∃ texts written, Segments text texts ∧ List.Forall₂ TagText texts written ∧
      tags = setAll [] written

/-- The leftmost piece of a tags section that is no tag, and what is reported of
    it. -/
def TagsFault (tags : List Char) (e : ParseError) : Prop :=
  ∃ front written text behind, Segments tags (front ++ text :: behind) ∧
    List.Forall₂ TagText front written ∧ TagFault tags text e

theorem parsePieces_of_forall₂ {texts : List (List Char)} {written : List Tag}
    (h : List.Forall₂ TagText texts written) (tags : List Char) (read : List Tag)
    (more : List (List Char)) :
    parsePieces tags read (texts ++ more) = parsePieces tags (setAll read written) more := by
  induction h generalizing read with
  | nil => rfl
  | cons hfirst h ih =>
      rw [List.cons_append, parsePieces, parseTag_of_tagText hfirst]
      exact ih _

theorem parsePieces_cases (tags : List Char) (read : List Tag) (texts : List (List Char)) :
    (∃ written, List.Forall₂ TagText texts written ∧
        parsePieces tags read texts = .ok (setAll read written)) ∨
      ∃ front written text behind e, texts = front ++ text :: behind ∧
        List.Forall₂ TagText front written ∧ TagFault tags text e ∧
        parsePieces tags read texts = .error e := by
  induction texts generalizing read with
  | nil => exact .inl ⟨[], .nil, rfl⟩
  | cons text rest ih =>
      rw [parsePieces]
      rcases parseTag_cases tags text with ⟨t, ht, htext⟩ | ⟨e, he, hfault⟩
      · rw [ht]
        rcases ih (Tags.set read t.key t.value) with
          ⟨written, hwritten, hread⟩ | ⟨front, written, bad, behind, e, rfl, hfront, hfault, hread⟩
        · exact .inl ⟨t :: written, .cons htext hwritten, hread⟩
        · exact .inr ⟨text :: front, t :: written, bad, behind, e, rfl, .cons htext hfront, hfault,
            hread⟩
      -- Nothing behind the first piece that is no tag is looked at.
      · rw [he]
        exact .inr ⟨[], [], text, rest, e, rfl, .nil, hfault, rfl⟩

theorem tagsText_iff (text : Option (List Char)) (tags : List Tag) :
    TagsText text tags ↔ TagsOf text tags := by
  cases text with
  | none => exact Iff.rfl
  | some text =>
      constructor
      · rintro ⟨texts, written, hseg, hwritten, rfl⟩
        have hread := parsePieces_of_forall₂ hwritten text [] []
        rw [List.append_nil] at hread
        show parseTags text = .ok _
        rw [parseTags, (segments_iff text texts).1 hseg, hread]
        rfl
      · intro hread
        have hread : parsePieces text [] (Split.pieces ';' text) = .ok tags := hread
        rcases parsePieces_cases text [] (Split.pieces ';' text) with
          ⟨written, hwritten, hok⟩ | ⟨_, _, _, _, e, _, _, _, herror⟩
        · rw [hread, Except.ok.injEq] at hok
          exact ⟨_, written, (segments_iff text _).2 rfl, hwritten, hok⟩
        · rw [hread] at herror
          cases herror

theorem tagsFault_iff (tags : List Char) (e : ParseError) :
    TagsFault tags e ↔ parseTags tags = .error e := by
  constructor
  · rintro ⟨front, written, text, behind, hseg, hfront, hfault⟩
    rw [parseTags, (segments_iff tags _).1 hseg, parsePieces_of_forall₂ hfront, parsePieces,
      parseTag_of_tagFault hfault]
  · intro hread
    have hread : parsePieces tags [] (Split.pieces ';' tags) = .error e := hread
    rcases parsePieces_cases tags [] (Split.pieces ';' tags) with
      ⟨written, hwritten, hok⟩ | ⟨front, written, text, behind, e', htexts, hfront, hfault, herror⟩
    · rw [hread] at hok
      cases hok
    · rw [hread, Except.error.injEq] at herror
      rw [herror]
      exact ⟨front, written, text, behind, (segments_iff tags _).2 htexts, hfront, hfault⟩

/-- Some blanks. -/
def blanks (n : Nat) : List Char :=
  List.replicate n ' '

/-- Parameters as they are written behind a command, each with blanks in front. -/
inductive ParamsText : List Char → List (List Char) → Prop where
  /-- No more parameters. -/
  | done (n : Nat) : ParamsText (blanks n) []
  /-- The rest of the line, whatever it is. -/
  | trailing (n : Nat) (rest : List Char) : ParamsText (blanks (n + 1) ++ ':' :: rest) [rest]
  /-- A word. -/
  | word (n : Nat) {w rest : List Char} {params : List (List Char)} (hne : w ≠ [])
      (hblank : ' ' ∉ w) (hcolon : w.head? ≠ some ':') (h : ParamsText rest params) :
      ParamsText (blanks (n + 1) ++ (w ++ rest)) (w :: params)

theorem dropBlanks_blanks (n : Nat) (cs : List Char) :
    dropBlanks (blanks n ++ cs) = dropBlanks cs := by
  induction n with
  | zero => rfl
  | succ n ih =>
      rw [blanks, List.replicate_succ, List.cons_append, dropBlanks_blank]
      exact ih

theorem exists_blanks (cs : List Char) : ∃ n, cs = blanks n ++ dropBlanks cs := by
  induction cs with
  | nil => exact ⟨0, rfl⟩
  | cons c rest ih =>
      by_cases hc : c = ' '
      · rcases ih with ⟨n, hn⟩
        refine ⟨n + 1, ?_⟩
        rw [hc, dropBlanks_blank, blanks, List.replicate_succ, List.cons_append]
        exact congrArg (' ' :: ·) hn
      · exact ⟨0, (dropBlanks_of_ne rest hc).symm⟩

theorem dropBlanks_head_ne (cs : List Char) : (dropBlanks cs).head? ≠ some ' ' := by
  intro h
  have hstop := List.head?_dropWhile_not (fun d : Char => decide (d = ' ')) cs
  rw [show cs.dropWhile (fun d => decide (d = ' ')) = dropBlanks cs from rfl, h] at hstop
  simp only [decide_true, reduceCtorEq] at hstop

/-- The text of parameters does not go on with a word. -/
theorem ParamsText.ends {text : List Char} {params : List (List Char)}
    (h : ParamsText text params) : text = [] ∨ text.head? = some ' ' := by
  cases h with
  | done n =>
      cases n with
      | zero => exact .inl rfl
      | succ n => exact .inr rfl
  | trailing n rest => exact .inr rfl
  | word n hne hblank hcolon h => exact .inr rfl

theorem splitParams_of_paramsText {text : List Char} {params : List (List Char)}
    (h : ParamsText text params) : splitParams text = params := by
  induction h with
  | done n =>
      have hdrop := dropBlanks_blanks n []
      rw [List.append_nil] at hdrop
      exact splitParams_of_end hdrop
  | trailing n rest =>
      refine splitParams_of_colon ?_
      rw [dropBlanks_blanks]
      exact dropBlanks_of_ne rest (by decide)
  | @word n w rest params hne hblank hcolon h ih =>
      cases w with
      | nil => exact absurd rfl hne
      | cons c w =>
          rw [List.mem_cons, not_or] at hblank
          have hspan := span_word rest hblank.2 h.ends
          have hdrop : dropBlanks (blanks (n + 1) ++ (c :: w ++ rest)) = c :: (w ++ rest) := by
            rw [dropBlanks_blanks, List.cons_append, dropBlanks_of_ne _ (Ne.symm hblank.1)]
          rw [splitParams_of_word hdrop fun he => hcolon (congrArg some he), hspan.1, hspan.2, ih]

theorem word_of_span (cs : List Char) :
    cs = cs.takeWhile isWordChar ++ cs.dropWhile isWordChar ∧ ' ' ∉ cs.takeWhile isWordChar ∧
      (cs.dropWhile isWordChar = [] ∨ (cs.dropWhile isWordChar).head? = some ' ') := by
  refine ⟨List.takeWhile_append_dropWhile.symm, fun hmem => ?_, ?_⟩
  · exact (isWordChar_eq_true_iff ' ').1 (List.all_eq_true.1 List.all_takeWhile _ hmem) rfl
  · cases hdrop : cs.dropWhile isWordChar with
    | nil => exact .inl rfl
    | cons d rest =>
        have hstop := List.head?_dropWhile_not isWordChar cs
        rw [hdrop] at hstop
        have hd : d = ' ' := by simpa [isWordChar] using hstop
        exact .inr (congrArg some hd)

/-- What stands behind a word is read as parameters are written. -/
theorem paramsText_splitParams (text : List Char) (h : text = [] ∨ text.head? = some ' ') :
    ParamsText text (splitParams text) := by
  -- What goes on behind blanks has at least one of them in front.
  have hblanks : ∀ {text c rest}, (text = [] ∨ text.head? = some ' ') →
      dropBlanks text = c :: rest → ∃ n, text = blanks (n + 1) ++ c :: rest := by
    intro text c rest h hdrop
    rcases exists_blanks text with ⟨n, hn⟩
    rw [hdrop] at hn
    cases n with
    | succ n => exact ⟨n, hn⟩
    | zero =>
        have hhead := dropBlanks_head_ne text
        rw [hdrop] at hhead
        rcases h with rfl | h
        · cases hdrop
        · rw [hn] at h
          exact absurd h hhead
  fun_induction splitParams text with
  | case1 text hdrop =>
      rcases exists_blanks text with ⟨n, hn⟩
      rw [hn, hdrop, List.append_nil]
      exact .done n
  | case2 text rest hdrop =>
      rcases hblanks h hdrop with ⟨n, hn⟩
      rw [hn]
      exact .trailing n rest
  | case3 text c rest hdrop hc ih =>
      rcases hblanks h hdrop with ⟨n, hn⟩
      rcases word_of_span rest with ⟨hrest, hword, hend⟩
      have htext : text =
          blanks (n + 1) ++ (c :: rest.takeWhile isWordChar ++ rest.dropWhile isWordChar) := by
        rw [hn, List.cons_append, ← hrest]
      have hblank : ' ' ∉ c :: rest.takeWhile isWordChar := by
        rw [List.mem_cons, not_or]
        refine ⟨fun he => dropBlanks_head_ne text ?_, hword⟩
        rw [hdrop, ← he]
        rfl
      have hparams := ih hend
      refine htext ▸ .word n (List.cons_ne_nil _ _) hblank (fun he => hc (Option.some.inj he)) ?_
      exact hparams

/-- A section that a mark opens, in front of the rest of a line. It is a word and
    as long as it can be. -/
inductive Opens (mark : Char) : List Char → Option (List Char) → List Char → Prop where
  /-- There is no such section. -/
  | absent (rest : List Char) : Opens mark rest none rest
  /-- The mark, and the section behind it. -/
  | present {w rest : List Char} (hw : ' ' ∉ w) (hend : rest = [] ∨ rest.head? = some ' ') :
      Opens mark (mark :: (w ++ rest)) (some w) rest

/-- A line that consists of tags, blanks, a source, blanks, and a rest. -/
def Front (line : List Char) (tags source : Option (List Char)) (rest : List Char) : Prop :=
  ∃ i j middle, Opens '@' line tags (blanks i ++ middle) ∧
    Opens ':' middle source (blanks j ++ rest)

/-- A line that consists of these sections. -/
def Spells (line : List Char) (s : Sections) : Prop :=
  ∃ behind, Front line s.tags s.source (s.command ++ behind) ∧ s.command ≠ [] ∧
    ' ' ∉ s.command ∧ ParamsText behind s.params

/-- A line that consists of sections of which the command cannot be taken for
    another one. -/
structure Proper (line : List Char) (s : Sections) : Prop where
  /-- The line consists of the sections. -/
  spells : Spells line s
  /-- The command opens no source. -/
  head_ne_colon : s.command.head? ≠ some ':'
  /-- The command opens no tags. -/
  head_ne_at : s.command.head? ≠ some '@'

/-- What is left of a line for the command and the parameters, when sections and
    blanks are taken wherever they stand. -/
def remainder (line : List Char) : List Char :=
  dropBlanks (markedSection ':' (dropBlanks (markedSection '@' line).2)).2

theorem opens_markedSection (mark : Char) (cs : List Char) :
    Opens mark cs (markedSection mark cs).1 (markedSection mark cs).2 := by
  cases cs with
  | nil => exact .absent []
  | cons c rest =>
      rw [markedSection]
      by_cases hc : c = mark
      · rw [if_pos hc, hc]
        rcases word_of_span rest with ⟨hrest, hword, hend⟩
        have hpresent : Opens mark
            (mark :: (rest.takeWhile isWordChar ++ rest.dropWhile isWordChar))
            (some (rest.takeWhile isWordChar)) (rest.dropWhile isWordChar) := .present hword hend
        rw [← hrest] at hpresent
        exact hpresent
      · rw [if_neg hc]
        exact .absent (c :: rest)

/-- A section is taken when it is there, and none is when no mark stands in its
    place. -/
theorem markedSection_of_opens {mark : Char} {cs rest : List Char} {text : Option (List Char)}
    (h : Opens mark cs text rest) (hmark : text = none → cs.head? ≠ some mark) :
    markedSection mark cs = (text, rest) := by
  cases h with
  | absent =>
      cases cs with
      | nil => rfl
      | cons c rest =>
          rw [markedSection, if_neg fun hc => hmark rfl (congrArg some hc)]
  | @present w rest hw hend =>
      have hspan := span_word rest hw hend
      rw [markedSection, if_pos rfl, hspan.1, hspan.2]

theorem front_remainder (line : List Char) :
    Front line (markedSection '@' line).1
      (markedSection ':' (dropBlanks (markedSection '@' line).2)).1 (remainder line) := by
  rcases exists_blanks (markedSection '@' line).2 with ⟨i, hi⟩
  rcases exists_blanks (markedSection ':' (dropBlanks (markedSection '@' line).2)).2 with ⟨j, hj⟩
  refine ⟨i, j, dropBlanks (markedSection '@' line).2, ?_, ?_⟩
  · rw [← hi]
    exact opens_markedSection '@' line
  · rw [remainder, ← hj]
    exact opens_markedSection ':' _

theorem blanks_append_head_ne {c : Char} (hc : c ≠ ' ') (n : Nat) {rest : List Char}
    (h : rest.head? ≠ some c) : (blanks n ++ rest).head? ≠ some c := by
  cases n with
  | zero => exact h
  | succ n => exact fun he => hc (Option.some.inj he).symm

/-- In front of a rest that opens no section there is one way to split a line. -/
theorem front_unique {line rest : List Char} {tags source : Option (List Char)}
    (h : Front line tags source rest) (hblank : rest.head? ≠ some ' ')
    (hcolon : rest.head? ≠ some ':') (hat : rest.head? ≠ some '@') :
    (markedSection '@' line).1 = tags ∧
      (markedSection ':' (dropBlanks (markedSection '@' line).2)).1 = source ∧
      remainder line = rest := by
  rcases h with ⟨i, j, middle, htags, hsource⟩
  -- Where no tags are taken the line starts with a blank, a colon or the rest.
  have hmiddle : middle.head? ≠ some '@' := by
    cases hsource with
    | absent => exact blanks_append_head_ne (by decide) j hat
    | present hw hend => exact fun he => absurd (Option.some.inj he) (by decide)
  have hfirst : markedSection '@' line = (tags, blanks i ++ middle) := by
    refine markedSection_of_opens htags fun hnone => ?_
    rw [hnone] at htags
    cases htags with
    | absent => exact blanks_append_head_ne (by decide) i hmiddle
  have hdrop : dropBlanks (markedSection '@' line).2 = dropBlanks middle := by
    rw [hfirst]
    exact dropBlanks_blanks i middle
  have hrest : dropBlanks (blanks j ++ rest) = rest := by
    rw [dropBlanks_blanks, dropBlanks_of_head_ne hblank]
  -- Without a source the blanks belong to those behind the tags.
  have hsecond : (markedSection ':' (dropBlanks middle)).1 = source ∧
      dropBlanks (markedSection ':' (dropBlanks middle)).2 = rest := by
    cases hsource with
    | absent =>
        rw [hrest, markedSection_of_opens (.absent rest) fun _ => hcolon]
        exact ⟨rfl, dropBlanks_of_head_ne hblank⟩
    | present hw hend =>
        rw [dropBlanks_of_ne _ (by decide), markedSection_of_opens (.present hw hend) (by simp)]
        exact ⟨rfl, hrest⟩
  rw [remainder, hdrop, hfirst]
  exact ⟨rfl, hsecond⟩

theorem ofLine_of_remainder {line : List Char} (h : remainder line ≠ []) :
    Sections.ofLine line = some
      ⟨(markedSection '@' line).1, (markedSection ':' (dropBlanks (markedSection '@' line).2)).1,
        (remainder line).takeWhile isWordChar,
        splitParams ((remainder line).dropWhile isWordChar)⟩ := by
  -- The rest starts with no blank, so it starts with a word.
  have hword : (remainder line).takeWhile isWordChar ≠ [] := by
    cases hr : remainder line with
    | nil => exact absurd hr h
    | cons c rest =>
        have hhead := dropBlanks_head_ne
          (markedSection ':' (dropBlanks (markedSection '@' line).2)).2
        have hc : isWordChar c = true := by
          rw [isWordChar_eq_true_iff]
          rintro rfl
          exact hhead (congrArg List.head? hr)
        rw [List.takeWhile_cons_of_pos hc]
        exact List.cons_ne_nil _ _
  unfold remainder at hword
  unfold Sections.ofLine
  dsimp only
  split
  · next hn => exact absurd hn hword
  · rfl

/-- No command is found exactly when nothing follows what is in front of it. -/
theorem ofLine_eq_none_iff (line : List Char) :
    Sections.ofLine line = none ↔ ∃ tags source, Front line tags source [] := by
  constructor
  · intro h
    have hr : remainder line = [] := by
      by_contra hne
      rw [ofLine_of_remainder hne] at h
      exact absurd h (Option.some_ne_none _)
    have hfront := front_remainder line
    rw [hr] at hfront
    exact ⟨_, _, hfront⟩
  · rintro ⟨tags, source, hfront⟩
    have hr := (front_unique hfront (by simp) (by simp) (by simp)).2.2
    unfold remainder at hr
    unfold Sections.ofLine
    dsimp only
    rw [hr]
    rfl

theorem remainder_ne_nil_of_ofLine {line : List Char} {s : Sections}
    (h : Sections.ofLine line = some s) : remainder line ≠ [] := by
  intro hr
  have hfront := front_remainder line
  rw [hr] at hfront
  rw [(ofLine_eq_none_iff line).2 ⟨_, _, hfront⟩] at h
  exact absurd h.symm (Option.some_ne_none s)

theorem source_of_ofLine {line : List Char} {s : Sections} (h : Sections.ofLine line = some s) :
    s.source = (markedSection ':' (dropBlanks (markedSection '@' line).2)).1 := by
  rw [ofLine_of_remainder (remainder_ne_nil_of_ofLine h), Option.some.injEq] at h
  rw [← h]

theorem spells_of_ofLine {line : List Char} {s : Sections} (h : Sections.ofLine line = some s) :
    Spells line s := by
  have hr := remainder_ne_nil_of_ofLine h
  have hwords := words_of_ofLine h
  rcases word_of_span (remainder line) with ⟨hspan, hword, hend⟩
  rw [ofLine_of_remainder hr, Option.some.injEq] at h
  refine ⟨(remainder line).dropWhile isWordChar, ?_, hwords.command_ne_nil, hwords.command, ?_⟩
  · rw [← h, ← hspan]
    exact front_remainder line
  · rw [← h]
    exact paramsText_splitParams _ hend

/-- There is one way to split a line so that the command opens no section, and
    reading finds it. -/
theorem Proper.ofLine {line : List Char} {s : Sections} (h : Proper line s) :
    Sections.ofLine line = some s := by
  rcases h.spells with ⟨behind, hfront, hne, hblank, hparams⟩
  have hhead : s.command.head? ≠ some ' ' := fun he => hblank (List.mem_of_head? he)
  rcases front_unique hfront (head_append_ne behind hne hhead)
    (head_append_ne behind hne h.head_ne_colon) (head_append_ne behind hne h.head_ne_at) with
    ⟨htags, hsource, hr⟩
  have hspan := span_word behind hblank hparams.ends
  have hrest : remainder line ≠ [] := by
    rw [hr]
    exact List.append_ne_nil_of_left_ne_nil hne behind
  rw [ofLine_of_remainder hrest, htags, hsource, hr, hspan.1, hspan.2,
    splitParams_of_paramsText hparams]

theorem proper_iff (line : List Char) (s : Sections) :
    Proper line s ↔
      Sections.ofLine line = some s ∧ s.command.head? ≠ some ':' ∧ s.command.head? ≠ some '@' :=
  ⟨fun h => ⟨h.ofLine, h.head_ne_colon, h.head_ne_at⟩,
    fun h => ⟨spells_of_ofLine h.1, h.2.1, h.2.2⟩⟩

end Message

end IrcHarness
