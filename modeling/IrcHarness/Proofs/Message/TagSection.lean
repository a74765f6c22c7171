import IrcHarness.Message.Parser
import IrcHarness.Proofs.Message.Writable

/-!
# The Tags Section

What stands between `@` and the first blank, read and written. Writing puts a
semicolon between each two tags and escapes the values, so that neither a
blank nor a semicolon of a value can be taken for an end. Reading cuts at the
semicolons and at the first equals sign of each piece.

`parseTags_renderTags` is the way out and back. It needs the keys to be
writable and distinct, since a key that comes again would replace a value, but
asks nothing of the values. The other way, `parseTags` gives writable and
distinct keys whatever it reads.

## Main definitions

* `Tags.Readable`: Tags as reading gives them.

## Theorems

* `escape_wireSafe`: An escaped value ends neither its tag nor the section.
* `nul_mem_escape_iff`: Escaping neither brings nor takes a NUL.
* `nodup_keys_set`: Setting a key keeps the keys distinct.
* `parseTags_renderTags`: Writable tags with distinct keys read back.
* `readable_of_parseTags`: All that is read has writable, distinct keys.
-/

namespace IrcHarness

namespace TagValue

theorem escapeChar_wireSafe (c d : Char) (h : d ∈ escapeChar c) :
    d ≠ ' ' ∧ d ≠ ';' ∧ d ≠ '\r' ∧ d ≠ '\n' := by
  unfold escapeChar at h
  split at h
  case h_6 h₁ h₂ h₃ h₄ h₅ =>
    rw [List.mem_singleton] at h
    rw [h]
    exact ⟨h₂, h₁, h₄, h₅⟩
  -- The five escapes are spelled with a backslash and a letter or sign.
  all_goals
    rw [List.mem_cons, List.mem_singleton] at h
    rcases h with rfl | rfl <;> decide

/-- An escaped value ends neither its tag nor the section. -/
theorem escape_wireSafe (cs : List Char) (d : Char) (h : d ∈ escape cs) :
    d ≠ ' ' ∧ d ≠ ';' ∧ d ≠ '\r' ∧ d ≠ '\n' := by
  rcases List.mem_flatMap.1 h with ⟨c, _, hd⟩
  exact escapeChar_wireSafe c d hd

theorem nul_mem_escapeChar_iff (c : Char) : '\x00' ∈ escapeChar c ↔ c = '\x00' := by
  unfold escapeChar
  split
  case h_6 => rw [List.mem_singleton, eq_comm]
  all_goals decide

theorem nul_mem_escape_iff (cs : List Char) : '\x00' ∈ escape cs ↔ '\x00' ∈ cs := by
  unfold escape
  rw [List.mem_flatMap]
  constructor
  · rintro ⟨c, hc, h⟩
    rw [nul_mem_escapeChar_iff] at h
    rw [← h]
    exact hc
  · intro h
    exact ⟨'\x00', h, (nul_mem_escapeChar_iff '\x00').2 rfl⟩

theorem meaning_eq_nul (d : Char) (h : meaning d = '\x00') : d = '\x00' := by
  unfold meaning at h
  split at h
  case h_5 => exact h
  all_goals exact absurd h (by decide)

/-- Only a NUL means a NUL. -/
theorem nul_mem_of_unescape (w cs : List Char) (h : unescape w = some cs) (hn : '\x00' ∈ cs) :
    '\x00' ∈ w := by
  fun_induction unescape w generalizing cs with
  | case1 =>
      rw [Option.some.injEq] at h
      rw [← h] at hn
      exact hn
  | case2 => exact absurd h.symm (Option.some_ne_none _)
  | case3 c _ =>
      rw [Option.some.injEq] at h
      rw [← h] at hn
      exact hn
  | case4 d rest ih =>
      rcases Option.map_eq_some_iff.1 h with ⟨more, hmore, rfl⟩
      rcases List.mem_cons.1 hn with hn | hn
      · rw [meaning_eq_nul d hn.symm]
        exact List.mem_cons_of_mem _ List.mem_cons_self
      · exact List.mem_cons_of_mem _ (List.mem_cons_of_mem _ (ih more hmore hn))
  | case5 c d rest _ ih =>
      rcases Option.map_eq_some_iff.1 h with ⟨more, hmore, rfl⟩
      rcases List.mem_cons.1 hn with hn | hn
      · rw [hn]
        exact List.mem_cons_self
      · exact List.mem_cons_of_mem _ (ih more hmore hn)

end TagValue

namespace Tags

theorem set_of_not_mem (tags : List Tag) (key : String) (value : Option String)
    (h : key ∉ tags.map Tag.key) : set tags key value = tags ++ [⟨key, value⟩] := by
  induction tags with
  | nil => rfl
  | cons t rest ih =>
      rw [List.map_cons, List.mem_cons, not_or] at h
      rw [set, if_neg (Ne.symm h.1), ih h.2]
      rfl

theorem keys_set_of_mem (tags : List Tag) (key : String) (value : Option String)
    (h : key ∈ tags.map Tag.key) : (set tags key value).map Tag.key = tags.map Tag.key := by
  induction tags with
  | nil => exact absurd h List.not_mem_nil
  | cons t rest ih =>
      rw [set]
      by_cases hk : t.key = key
      · rw [if_pos hk]
        rfl
      · rw [List.map_cons, List.mem_cons] at h
        rw [if_neg hk, List.map_cons, List.map_cons, ih (h.resolve_left (Ne.symm hk))]

/-- Setting a key keeps the keys distinct. -/
theorem nodup_keys_set (tags : List Tag) (key : String) (value : Option String)
    (h : (tags.map Tag.key).Nodup) : ((set tags key value).map Tag.key).Nodup := by
  by_cases hk : key ∈ tags.map Tag.key
  · rw [keys_set_of_mem tags key value hk]
    exact h
  · rw [set_of_not_mem tags key value hk, List.map_append, List.nodup_append]
    refine ⟨h, List.pairwise_singleton _ key, fun a ha b hb he => ?_⟩
    rw [List.map_singleton, List.mem_singleton] at hb
    rw [he, hb] at ha
    exact hk ha

theorem mem_set (tags : List Tag) (key : String) (value : Option String) (t : Tag)
    (h : t ∈ set tags key value) : t = ⟨key, value⟩ ∨ t ∈ tags := by
  induction tags with
  | nil => exact .inl (List.mem_singleton.1 h)
  | cons u rest ih =>
      rw [set] at h
      by_cases hk : u.key = key
      · rw [if_pos hk] at h
        rcases List.mem_cons.1 h with h | h
        · exact .inl (by rw [h, hk])
        · exact .inr (List.mem_cons_of_mem u h)
      · rw [if_neg hk] at h
        rcases List.mem_cons.1 h with h | h
        · exact .inr (by rw [h]; exact List.mem_cons_self)
        · exact (ih h).imp_right (List.mem_cons_of_mem u)

end Tags

namespace Message

theorem isWordBreaker_eq_false_iff (c : Char) :
    isWordBreaker c = false ↔ c ≠ ' ' ∧ isLineBreaker c = false := by
  rw [isWordBreaker, Bool.or_eq_false_iff, decide_eq_false_iff_not]

theorem isWritableKey_iff (key : List Char) :
    isWritableKey key = true ↔
      TagKey.name key ≠ [] ∧ ∀ c ∈ key, isWordBreaker c = false ∧ c ≠ ';' ∧ c ≠ '=' := by
  rw [isWritableKey, Bool.and_eq_true, decide_eq_true_eq, Bool.not_eq_true', List.any_eq_false]
  simp only [Bool.not_eq_true, Bool.or_eq_false_iff, decide_eq_false_iff_not, and_assoc, Ne]

/-- A written tag ends neither itself nor the section, and breaks no line unless
    its value holds a NUL. -/
theorem renderTag_wireSafe {t : Tag} (h : t.Writable) (c : Char) (hc : c ∈ renderTag t) :
    c ≠ ' ' ∧ c ≠ ';' ∧ c ≠ '\r' ∧ c ≠ '\n' ∧ (t.NulFree → c ≠ '\x00') := by
  have hkey : ∀ d ∈ t.key.toList, d ≠ ' ' ∧ d ≠ ';' ∧ d ≠ '\r' ∧ d ≠ '\n' ∧ d ≠ '\x00' := by
    intro d hd
    -- A key has no escapes, so this is what `validate` asks of it.
    have hsafe := ((isWritableKey_iff _).1 h).2 d hd
    simp only [isWordBreaker, isLineBreaker, Bool.or_eq_false_iff, decide_eq_false_iff_not]
      at hsafe
    exact ⟨hsafe.1.1, hsafe.2.1, hsafe.1.2.1.1, hsafe.1.2.1.2, hsafe.1.2.2⟩
  rw [renderTag, List.mem_append] at hc
  rcases hc with hc | hc
  · have := hkey c hc
    exact ⟨this.1, this.2.1, this.2.2.1, this.2.2.2.1, fun _ => this.2.2.2.2⟩
  · cases hv : t.value with
    | none =>
        rw [hv] at hc
        exact absurd hc List.not_mem_nil
    | some value =>
        rw [hv] at hc
        rcases List.mem_cons.1 hc with rfl | hc
        · refine ⟨by decide, by decide, by decide, by decide, fun _ => by decide⟩
        · have hsafe := TagValue.escape_wireSafe _ c hc
          refine ⟨hsafe.1, hsafe.2.1, hsafe.2.2.1, hsafe.2.2.2, fun hn he => ?_⟩
          rw [he, TagValue.nul_mem_escape_iff] at hc
          exact hn value hv hc

theorem renderTags_eq_join (tags : List Tag) :
    renderTags tags = Split.join ';' (tags.map renderTag) := by
  induction tags with
  | nil => rfl
  | cons t rest ih =>
      cases rest with
      | nil => rfl
      | cons u more =>
          rw [renderTags, ih]
          rfl
          exact fun h => List.cons_ne_nil u more h

theorem parseTag_renderTag {t : Tag} (h : t.Writable) (text : List Char) :
    parseTag text (renderTag t) = .ok t := by
  have hkey := (isWritableKey_iff _).1 h
  have heq : '=' ∉ t.key.toList := fun hmem => (hkey.2 '=' hmem).2.2 rfl
  rcases t with ⟨key, value⟩
  cases value with
  | none =>
      have hr : renderTag ⟨key, none⟩ = key.toList := List.append_nil _
      rw [hr, parseTag, Split.cutAt_of_not_mem '=' _ heq]
      dsimp only
      rw [if_neg hkey.1, String.ofList_toList]
  | some value =>
      have hr : renderTag ⟨key, some value⟩
          = key.toList ++ '=' :: TagValue.escape value.toList := rfl
      rw [hr, parseTag, Split.cutAt_append '=' _ _ heq]
      simp only [TagValue.unescape_escape]
      rw [if_neg hkey.1, String.ofList_toList, String.ofList_toList]

theorem parsePieces_renderTag (text : List Char) (read tags : List Tag)
    (hw : ∀ t ∈ tags, t.Writable) (hd : ((read ++ tags).map Tag.key).Nodup) :
    parsePieces text read (tags.map renderTag) = .ok (read ++ tags) := by
  induction tags generalizing read with
  | nil =>
      rw [List.append_nil]
      rfl
  | cons t rest ih =>
      -- The key is new, so setting it puts the tag behind those read so far.
      have hfresh : t.key ∉ read.map Tag.key := by
        rw [List.map_append, List.map_cons, List.nodup_append] at hd
        intro hmem
        exact hd.2.2 t.key hmem t.key List.mem_cons_self rfl
      have happ : read ++ t :: rest = read ++ [t] ++ rest := by
        rw [List.append_assoc, List.singleton_append]
      rw [List.map_cons, parsePieces, parseTag_renderTag (hw t List.mem_cons_self)]
      dsimp only
      rw [Tags.set_of_not_mem _ _ _ hfresh, happ]
      exact ih (read ++ [t]) (fun u hu => hw u (List.mem_cons_of_mem t hu)) (happ ▸ hd)

/-- Writable tags with distinct keys read back in their order. -/
theorem parseTags_renderTags (tags : List Tag) (hne : tags ≠ []) (hw : ∀ t ∈ tags, t.Writable)
    (hd : (tags.map Tag.key).Nodup) : parseTags (renderTags tags) = .ok tags := by
  have hpieces : Split.pieces ';' (renderTags tags) = tags.map renderTag := by
    rw [renderTags_eq_join]
    -- No written tag holds a semicolon, so the cuts are where the joints were.
    refine Split.pieces_join ';' _ (by rwa [Ne, List.map_eq_nil_iff]) fun p hp => ?_
    rcases List.mem_map.1 hp with ⟨t, ht, rfl⟩
    exact fun hmem => (renderTag_wireSafe (hw t ht) ';' hmem).2.1 rfl
  rw [parseTags, hpieces]
  exact parsePieces_renderTag _ [] tags hw hd

/-- A piece that holds no blank, no semicolon and nothing that breaks the line
    gives a writable tag without a NUL, if it gives one. -/
theorem readable_of_parseTag {text piece : List Char} {t : Tag}
    (hp : ∀ c ∈ piece, isWordBreaker c = false ∧ c ≠ ';') (h : parseTag text piece = .ok t) :
    t.Writable ∧ t.NulFree := by
  have hnul : '\x00' ∉ piece := fun hmem => absurd (hp _ hmem).1 (by decide)
  -- A part of the piece in front of the first equals sign is a key.
  have hkey : ∀ key : List Char, TagKey.name key ≠ [] → (∀ c ∈ key, c ∈ piece) → '=' ∉ key →
      isWritableKey (String.ofList key).toList = true := by
    intro key hname hsub heq
    rw [String.toList_ofList, isWritableKey_iff]
    refine ⟨hname, fun c hc => ⟨(hp c (hsub c hc)).1, (hp c (hsub c hc)).2, fun he => ?_⟩⟩
    rw [he] at hc
    exact heq hc
  unfold parseTag at h
  cases hcut : Split.cutAt '=' piece with
  | none =>
      rw [hcut] at h
      by_cases hname : TagKey.name piece = []
      · rw [if_pos hname] at h
        cases h
      · rw [if_neg hname, Except.ok.injEq] at h
        rw [← h]
        have heq := Split.not_mem_of_cutAt_none '=' piece hcut
        exact ⟨hkey piece hname (fun c hc => hc) heq, fun _ hv => absurd hv (by
          simp only [reduceCtorEq, not_false_eq_true])⟩
  | some parts =>
      rcases parts with ⟨key, value⟩
      have hpiece := Split.eq_of_cutAt_some '=' piece key value hcut
      rw [hcut] at h
      dsimp only at h
      cases hmeant : TagValue.unescape value with
      | none =>
          rw [hmeant] at h
          cases h
      | some meant =>
          rw [hmeant] at h
          dsimp only at h
          by_cases hname : TagKey.name key = []
          · rw [if_pos hname] at h
            cases h
          · rw [if_neg hname, Except.ok.injEq] at h
            rw [← h]
            have hsub : ∀ c ∈ key, c ∈ piece := by
              intro c hc
              rw [hpiece]
              exact List.mem_append_left _ hc
            refine ⟨hkey key hname hsub (Split.not_mem_of_cutAt_some '=' _ _ _ hcut), ?_⟩
            intro v hv hmem
            rw [Option.some.injEq] at hv
            rw [← hv, String.toList_ofList] at hmem
            refine hnul ?_
            rw [hpiece]
            exact List.mem_append_right _
              (List.mem_cons_of_mem _ (TagValue.nul_mem_of_unescape value meant hmeant hmem))

end Message

/-- Tags as reading gives them. -/
structure Tags.Readable (tags : List Tag) : Prop where
  /-- The keys stand as they are. -/
  writable : ∀ t ∈ tags, t.Writable
  /-- No value holds a NUL. -/
  nulFree : ∀ t ∈ tags, t.NulFree
  /-- No two tags share a key. -/
  distinct : (tags.map Tag.key).Nodup

theorem Tags.readable_nil : Tags.Readable [] :=
  ⟨fun _ h => absurd h List.not_mem_nil, fun _ h => absurd h List.not_mem_nil, List.Pairwise.nil⟩

theorem Tags.Readable.set {tags : List Tag} (h : Tags.Readable tags) {t : Tag}
    (hw : t.Writable) (hn : t.NulFree) : Tags.Readable (Tags.set tags t.key t.value) := by
  refine ⟨fun u hu => ?_, fun u hu => ?_, Tags.nodup_keys_set tags t.key t.value h.distinct⟩
  · rcases Tags.mem_set tags t.key t.value u hu with hu | hu
    · rw [hu]
      exact hw
    · exact h.writable u hu
  · rcases Tags.mem_set tags t.key t.value u hu with hu | hu
    · rw [hu]
      exact hn
    · exact h.nulFree u hu

namespace Message

theorem readable_of_parsePieces {text : List Char} {read tags : List Tag}
    {pieces : List (List Char)} (hread : Tags.Readable read)
    (hp : ∀ p ∈ pieces, ∀ c ∈ p, isWordBreaker c = false ∧ c ≠ ';')
    (h : parsePieces text read pieces = .ok tags) : Tags.Readable tags := by
  induction pieces generalizing read with
  | nil =>
      rw [parsePieces, Except.ok.injEq] at h
      rw [← h]
      exact hread
  | cons p rest ih =>
      rw [parsePieces] at h
      cases ht : parseTag text p with
      | error e =>
          rw [ht] at h
          cases h
      | ok t =>
          rw [ht] at h
          have hgood := readable_of_parseTag (hp p List.mem_cons_self) ht
          exact ih (hread.set hgood.1 hgood.2) (fun q hq => hp q (List.mem_cons_of_mem p hq)) h

/-- Whatever tags are read from a section that holds no blank and breaks no
    line, they are readable. -/
theorem readable_of_parseTags {text : List Char} {tags : List Tag}
    (ht : ∀ c ∈ text, isWordBreaker c = false) (h : parseTags text = .ok tags) :
    Tags.Readable tags := by
  refine readable_of_parsePieces Tags.readable_nil (fun p hp c hc => ⟨?_, ?_⟩) h
  · exact ht c (Split.mem_of_mem_pieces ';' text p c hp hc)
  · intro he
    rw [he] at hc
    exact Split.not_mem_of_mem_pieces ';' text p hp hc

end Message

end IrcHarness
