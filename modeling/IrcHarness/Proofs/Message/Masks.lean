import IrcHarness.Message.Source

/-!
# Masks

A mask is put together from a nickname, a user and a host, and reading it gives these
parts back (`ofText_mask`). What keeps the parts apart is only what they must not hold: no
sign in the nickname and no `@` in the user. The user may hold any further `!`, and the
host whatever there is, both signs too.

One mask is mistaken: a nickname alone with a dot in it is taken for a server
(`ofText_of_server`).

A text that is read as coming from somebody is a mask of what was read, up to a `!` that
has no user behind it (`exists_written_of_nick`). Nothing else of the text is lost.

## Main definitions

* `Source.mask`: The text of a mask.
* `Source.present`: What counts of a part that was written.
* `Source.IsNick`, `Source.IsUser`: The parts that a mask can hold.
* `Source.IsDotted`: A nickname alone with a dot in it.

## Theorems

* `nickAndUser_signed`: What is read in front of a host.
* `ofText_of_front`: What is read when the host has been cut off.
* `ofText_mask`: The parts of a mask.
* `exists_written_of_nick`: The texts that come from somebody.
* `masks_decompose`: Masks and their parts.
-/

namespace IrcHarness

namespace Source

/-- A part of a mask behind its sign, if the part is there. -/
def signed (sign : Char) : Option String → List Char
  | none => []
  | some s => sign :: s.toList

/-- The text of a mask. -/
def mask (nick : String) (user host : Option String) : String :=
  String.ofList (nick.toList ++ signed '!' user ++ signed '@' host)

/-- What counts of a part that was written: an empty one is missing. -/
def present (written : Option String) : Option String :=
  written.filter (· ≠ "")

/-- A nickname as a mask can hold it. -/
def IsNick (nick : String) : Prop :=
  nick ≠ "" ∧ '!' ∉ nick.toList ∧ '@' ∉ nick.toList

/-- A user as a mask can hold it. -/
def IsUser (user : String) : Prop :=
  user ≠ "" ∧ '@' ∉ user.toList

/-- A nickname alone with a dot in it. -/
def IsDotted (nick : String) (user host : Option String) : Prop :=
  user = none ∧ host = none ∧ '.' ∈ nick.toList

instance (nick : String) : Decidable (IsNick nick) :=
  inferInstanceAs (Decidable (nick ≠ "" ∧ '!' ∉ nick.toList ∧ '@' ∉ nick.toList))

instance (user : String) : Decidable (IsUser user) :=
  inferInstanceAs (Decidable (user ≠ "" ∧ '@' ∉ user.toList))

variable {text nick : String} {written user host : Option String} {front : List Char}

theorem toList_mask (nick : String) (user host : Option String) :
    (mask nick user host).toList = nick.toList ++ signed '!' user ++ signed '@' host :=
  String.toList_ofList

theorem present_some {s : String} (hs : s ≠ "") : present (some s) = some s :=
  Option.filter_some_pos (decide_eq_true hs)

theorem part_toList (s : String) : part s.toList = present (some s) := by
  unfold part
  by_cases hs : s = ""
  · rw [hs]
    rfl
  · rw [if_neg (mt String.toList_eq_nil_iff.1 hs), String.ofList_toList, present_some hs]

/-- A part that is read is the one written, and it is not empty. -/
theorem eq_of_part {cs : List Char} {s : String} (h : part cs = some s) :
    s ≠ "" ∧ cs = s.toList := by
  unfold part at h
  split at h
  · exact absurd h.symm (Option.some_ne_none _)
  · next hne =>
    rw [← Option.some.inj h, String.toList_ofList]
    exact ⟨fun he => hne (String.ofList_eq_empty_iff.1 he), rfl⟩

theorem present_of_isUser (h : ∀ u ∈ user, IsUser u) : present user = user := by
  cases user with
  | none => rfl
  | some u => exact present_some (h u rfl).1

/-- A part that counts is the one written, and what does not count is missing or empty. -/
theorem written_of_present (written : Option String) :
    written = present written ∨ present written = none ∧ written = some "" := by
  cases written with
  | none => exact .inl rfl
  | some w =>
      by_cases hw : w = ""
      · rw [hw]
        exact .inr ⟨rfl, rfl⟩
      · exact .inl (present_some hw).symm

/-- What is read in front of a host. The first `!` ends the nickname, and any other is
    part of the user. -/
theorem nickAndUser_signed (hne : nick ≠ "") (hsign : '!' ∉ nick.toList)
    (written : Option String) :
    nickAndUser (nick.toList ++ signed '!' written) = (some nick, present written) := by
  have hnick : part nick.toList = some nick := (part_toList nick).trans (present_some hne)
  unfold nickAndUser
  cases written with
  | none =>
      rw [signed, List.append_nil, Split.cutAt_of_not_mem _ _ hsign]
      exact Prod.ext hnick rfl
  | some w =>
      rw [signed, Split.cutAt_append _ _ _ hsign]
      exact Prod.ext hnick (part_toList w)

theorem exists_written_of_nickAndUser (h : (nickAndUser front).1 = some nick) :
    nick ≠ "" ∧ '!' ∉ nick.toList ∧ ∃ written, front = nick.toList ++ signed '!' written := by
  unfold nickAndUser at h
  split at h
  · next a b hcut =>
    rcases eq_of_part h with ⟨hne, rfl⟩
    refine ⟨hne, Split.not_mem_of_cutAt_some _ _ _ _ hcut, some (String.ofList b), ?_⟩
    rw [signed, String.toList_ofList]
    exact Split.eq_of_cutAt_some _ _ _ _ hcut
  · next hcut =>
    rcases eq_of_part h with ⟨hne, rfl⟩
    exact ⟨hne, Split.not_mem_of_cutAt_none _ _ hcut, none, (List.append_nil _).symm⟩

/-- The first `@` cuts a text into a front and a host. -/
theorem exists_front (text : String) :
    ∃ front host, '@' ∉ front ∧ text.toList = front ++ signed '@' host := by
  cases hcut : Split.cutAt '@' text.toList with
  | none =>
      exact ⟨text.toList, none, Split.not_mem_of_cutAt_none _ _ hcut,
        (List.append_nil _).symm⟩
  | some parts =>
      rcases parts with ⟨a, b⟩
      refine ⟨a, some (String.ofList b), Split.not_mem_of_cutAt_some _ _ _ _ hcut, ?_⟩
      rw [signed, String.toList_ofList]
      exact Split.eq_of_cutAt_some _ _ _ _ hcut

/-- A text without signs and with a dot is a server. -/
theorem ofText_of_server (hat : '@' ∉ text.toList) (hsign : '!' ∉ text.toList)
    (hdot : '.' ∈ text.toList) : ofText text = ⟨none, none, some text, text⟩ := by
  unfold ofText
  dsimp only
  rw [Split.cutAt_of_not_mem _ _ hat, if_pos ⟨hsign, hdot⟩]

/-- Of any other text, nickname and user are read from the front. -/
theorem ofText_of_front (hat : '@' ∉ front) (htext : text.toList = front ++ signed '@' host)
    (h : ¬(host = none ∧ '!' ∉ front ∧ '.' ∈ front)) :
    ofText text = ⟨(nickAndUser front).1, (nickAndUser front).2, host, text⟩ := by
  unfold ofText
  dsimp only
  rw [htext]
  cases host with
  | none =>
      have hno : ¬('!' ∉ front ∧ '.' ∈ front) := fun hserver => h ⟨rfl, hserver⟩
      rw [signed, List.append_nil, Split.cutAt_of_not_mem _ _ hat, if_neg hno]
  | some host =>
      rw [signed, Split.cutAt_append _ _ _ hat]
      dsimp only
      rw [String.ofList_toList]

theorem at_not_mem_front (hnick : IsNick nick) (hwritten : ∀ w ∈ written, '@' ∉ w.toList) :
    '@' ∉ nick.toList ++ signed '!' written := by
  cases written with
  | none =>
      rw [signed, List.append_nil]
      exact hnick.2.2
  | some w =>
      rw [signed, List.mem_append, List.mem_cons]
      rintro (h | h | h)
      · exact hnick.2.2 h
      · exact absurd h (by decide)
      · exact hwritten w rfl h

/-- The parts of a mask. A user that was written as nothing is not there. -/
theorem ofText_mask (hnick : IsNick nick) (hwritten : ∀ w ∈ written, '@' ∉ w.toList)
    (h : ¬IsDotted nick written host) :
    ofText (mask nick written host) =
      ⟨some nick, present written, host, mask nick written host⟩ := by
  -- A user brings its `!` along, so only a nickname alone can be taken for a server.
  have hserver : ¬(host = none ∧ '!' ∉ nick.toList ++ signed '!' written ∧
      '.' ∈ nick.toList ++ signed '!' written) := by
    rintro ⟨hhost, hsign, hdot⟩
    cases written with
    | none =>
        rw [signed, List.append_nil] at hdot
        exact h ⟨rfl, hhost, hdot⟩
    | some w => exact hsign (List.mem_append_right _ List.mem_cons_self)
  rw [ofText_of_front (at_not_mem_front hnick hwritten) (toList_mask _ _ _) hserver,
    nickAndUser_signed hnick.1 hnick.2.1]

/-- A text from which a nickname is read is a mask of it. -/
theorem exists_written_of_nick (h : (ofText text).nick = some nick) :
    IsNick nick ∧ ∃ written, (∀ w ∈ written, '@' ∉ w.toList) ∧
      ¬IsDotted nick written (ofText text).host ∧
      text = mask nick written (ofText text).host := by
  rcases exists_front text with ⟨front, host, hat, htext⟩
  by_cases hserver : host = none ∧ '!' ∉ front ∧ '.' ∈ front
  · -- A server has no nickname.
    rcases hserver with ⟨rfl, hsign, hdot⟩
    rw [signed, List.append_nil] at htext
    rw [ofText_of_server (htext ▸ hat) (htext ▸ hsign) (htext ▸ hdot)] at h
    exact absurd h.symm (Option.some_ne_none _)
  · have hof := ofText_of_front hat htext hserver
    rw [hof] at h ⊢
    rcases exists_written_of_nickAndUser h with ⟨hne, hsign, written, rfl⟩
    rw [List.mem_append, not_or] at hat
    refine ⟨⟨hne, hsign, hat.1⟩, written, ?_, ?_, ?_⟩
    · rintro w rfl hw
      exact hat.2 (List.mem_cons_of_mem _ hw)
    · rintro ⟨rfl, rfl, hdot⟩
      refine hserver ⟨rfl, ?_, ?_⟩
      · rwa [signed, List.append_nil]
      · rwa [signed, List.append_nil]
    · rw [mask, ← htext, String.ofList_toList]

/-- A nickname, a user and a host are read back from their mask, which is no server. Only a
    nickname alone with a dot in it reads as the server of that name. And a text from which
    a nickname is read is the mask of what was read, where a `!` alone may stand for the
    user that is not there. -/
theorem masks_decompose :
    (∀ nick user host, IsNick nick → (∀ u ∈ user, IsUser u) → ¬IsDotted nick user host →
      ofText (mask nick user host) = ⟨some nick, user, host, mask nick user host⟩ ∧
        (ofText (mask nick user host)).isServer = false) ∧
    (∀ nick, IsNick nick → '.' ∈ nick.toList →
      ofText (mask nick none none) = ⟨none, none, some nick, mask nick none none⟩ ∧
        (ofText (mask nick none none)).isServer = true) ∧
    ∀ text nick, (ofText text).nick = some nick →
      IsNick nick ∧ (∀ u ∈ (ofText text).user, IsUser u) ∧
        (text = mask nick (ofText text).user (ofText text).host ∨
          (ofText text).user = none ∧ text = mask nick (some "") (ofText text).host) := by
  refine ⟨?_, ?_, ?_⟩
  · intro nick user host hnick huser hdotted
    have hof := ofText_mask hnick (fun u hu => (huser u hu).2) hdotted
    rw [present_of_isUser huser] at hof
    exact ⟨hof, by rw [hof]; rfl⟩
  · intro nick hnick hdot
    have htext : mask nick none none = nick := by
      simp [mask, signed]
    have hof := ofText_of_server hnick.2.2 hnick.2.1 hdot
    rw [htext]
    exact ⟨hof, by rw [hof]; rfl⟩
  · intro text nick h
    rcases exists_written_of_nick h with ⟨hnick, written, hat, hdotted, htext⟩
    -- The user that was read is the one that was written, unless that was nothing.
    have huser : (ofText text).user = present written := by
      rw [htext, ofText_mask hnick hat hdotted]
    rw [huser]
    refine ⟨hnick, fun u hu => ?_, ?_⟩
    · rcases Option.filter_eq_some_iff.1 hu with ⟨rfl, hne⟩
      exact ⟨of_decide_eq_true hne, hat u rfl⟩
    · rcases written_of_present written with hw | ⟨hnone, rfl⟩
      · exact .inl (hw ▸ htext)
      · exact .inr ⟨hnone, htext⟩

/-- Signs inside of a user and a host, a nickname that reads as a server, and a mask with
    nothing for a user. -/
theorem masks_decompose_signs_inside :
    (ofText "a!b!c@d!e@f" = ⟨some "a", some "b!c", some "d!e@f", "a!b!c@d!e@f"⟩ ∧
      (ofText "a!b!c@d!e@f").isServer = false) ∧
    (ofText "a.b" = ⟨none, none, some "a.b", "a.b"⟩ ∧ (ofText "a.b").isServer = true) ∧
    "a.b!@" = mask "a.b" (some "") (ofText "a.b!@").host := by
  rcases masks_decompose with ⟨hread, hserver, hwritten⟩
  have hnick : IsNick "a" := by decide
  have huser : ∀ u ∈ some "b!c", IsUser u := by
    rintro u hu
    rw [← Option.some.inj hu]
    decide
  have hplain : ¬IsDotted "a" (some "b!c") (some "d!e@f") := fun h =>
    absurd h.1 (Option.some_ne_none _)
  have hdotted : IsNick "a.b" := by decide
  have hempty := hwritten "a.b!@" "a.b" (by decide +kernel)
  refine ⟨?_, ?_, ?_⟩
  · exact hread "a" (some "b!c") (some "d!e@f") hnick huser hplain
  · exact hserver "a.b" hdotted (by decide)
  · refine (hempty.2.2.resolve_left fun he => ?_).2
    exact absurd he (by decide +kernel)

end Source

end IrcHarness
