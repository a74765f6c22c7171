import IrcHarness.Proofs.Regex.Remainder

/-!
# Escapes in Front of a Closing

A text that is to match as a whole is read inside a larger text, with a parenthesis
and a dollar sign behind it. What is said here and in the modules for classes and for
sequences is that a reader does not see this closing as long as it stops in front of
it: the same reader takes the same from the text alone (`Local`).

The readers look ahead in a few places, and there the closing could matter. It does
in one place only. Behind a test for words, a brace may open the name of the test, and
the reader looks at what is behind the brace. If that is nothing, the text alone is
refused, and in front of the closing the test has no name and the brace is left
(`Dangling`). Nothing that comes next can take that brace.

Verbose mode skips comments, and a comment at the end takes the closing in. What a
reader leaves is then no longer in front of the closing, so nothing is claimed of it.

## Main definitions

* `Regex.closing`: What is put behind a text.
* `Regex.Local`: A reader does not see the closing.
* `Regex.Dangling`: A brace with nothing behind it.

## Theorems

* `exists_skip`: What is skipped in front of the closing.
* `local_readWordTest`: The one place where the closing matters.
* `local_readEscape`: Escapes.
-/

namespace IrcHarness

namespace Regex

variable {α β : Type} {cs front rest : List Char} {c : Char} {v : Bool}

/-- What is put behind a text that is to match as a whole. -/
def closing : List Char := [')', '$']

/-- What a reader leaves in front of the closing it leaves without the closing too.
    The second result is that of the text with the closing behind it. -/
def Local (alone whole : Option (α × List Char)) : Prop :=
  ∀ x front, whole = some (x, front ++ closing) → alone = some (x, front)

section Closure

theorem local_none {alone : Option (α × List Char)} : Local alone none :=
  fun _ _ h => by cases h

theorem local_some (x : α) (front : List Char) :
    Local (some (x, front)) (some (x, front ++ closing)) := by
  intro y front' h
  rw [Option.some.injEq, Prod.mk.injEq] at h
  rw [h.1, List.append_cancel_right h.2]

theorem Local.map {alone whole : Option (α × List Char)} (h : Local alone whole) (g : α → β) :
    Local (alone.map fun r => (g r.1, r.2)) (whole.map fun r => (g r.1, r.2)) := by
  intro y front heq
  rcases Option.map_eq_some_iff.1 heq with ⟨⟨x, rest⟩, hwhole, hy⟩
  obtain ⟨rfl, rfl⟩ := Prod.mk.inj hy
  rw [h x front hwhole]
  rfl

theorem append_closing_ne_nil (front : List Char) : front ++ closing ≠ [] :=
  List.append_ne_nil_of_right_ne_nil front (by decide)

/-- A text with an end in front of the closing starts in front of the closing. -/
theorem exists_front (h : front ++ closing <:+ rest) : ∃ f, rest = f ++ closing := by
  rcases h with ⟨used, rfl⟩
  exact ⟨used ++ front, (List.append_assoc ..).symm⟩

theorem Leaves.exists_front {result : Option (α × List Char)} (h : Leaves rest result) {x : α}
    (hresult : result = some (x, front ++ closing)) : ∃ f, rest = f ++ closing :=
  Regex.exists_front (h x _ hresult)

/-- A character that the closing does not start with stands in front of it. -/
theorem cons_of_append (h : cs ++ closing = c :: rest) (hc : c ≠ ')') :
    ∃ f, cs = c :: f ∧ rest = f ++ closing := by
  cases cs with
  | nil => exact absurd (List.cons.inj h).1.symm hc
  | cons c' f =>
      rcases List.cons.inj h with ⟨rfl, rfl⟩
      exact ⟨f, rfl, rfl⟩

theorem ne_cons_of_append (h : ∀ rest, cs ≠ c :: rest) (hc : c ≠ ')') (rest : List Char) :
    cs ++ closing ≠ c :: rest := by
  intro hcs
  obtain ⟨f, hf, -⟩ := cons_of_append hcs hc
  exact h f hf

theorem ne_of_append (h : ∀ rest, cs ++ closing = c :: rest → False) (rest : List Char) :
    cs ≠ c :: rest :=
  fun hcs => h (rest ++ closing) (congrArg (· ++ closing) hcs)

/-- No reader that takes the parenthesis leaves the closing. -/
theorem dollar_ne (front : List Char) : ['$'] ≠ front ++ closing := by
  intro h
  have hlength := congrArg List.length h
  rw [List.length_append, List.length_singleton] at hlength
  exact absurd hlength (Nat.ne_of_lt (Nat.lt_of_lt_of_le (by decide) (Nat.le_add_left _ _)))

end Closure

section Skipping

/-- The runs of the blanks. -/
def blankRuns : List (Nat × Nat) :=
  [(0x09, 0x0D), (0x20, 0x20), (0x85, 0x85), (0xA0, 0xA0), (0x1680, 0x1680), (0x2000, 0x200A),
    (0x2028, 0x2029), (0x202F, 0x202F), (0x205F, 0x205F), (0x3000, 0x3000)]

theorem blank_eq : Unicode.blank = ⟨blankRuns⟩ := by cbv

theorem isBlank_eq (c : Char) : isBlank c = CharSet.containsIn blankRuns c.toNat := by
  rw [isBlank, blank_eq, CharSet.contains]

theorem isBlank_parenthesis : isBlank ')' = false := by
  rw [isBlank_eq]
  decide

theorem behindLine_append (cs : List Char) :
    behindLine (cs ++ closing) = behindLine cs ++ closing ∨ behindLine (cs ++ closing) = [] := by
  induction cs with
  | nil => exact .inr rfl
  | cons c rest ih =>
      rw [List.cons_append, behindLine, behindLine]
      by_cases hc : c = '\n'
      · rw [if_pos hc, if_pos hc]
        exact .inl rfl
      · rw [if_neg hc, if_neg hc]
        exact ih

theorem skipBlanks_append {n m : Nat} (hn : cs.length < n) (hm : cs.length < m) :
    skipBlanks n (cs ++ closing) = skipBlanks m cs ++ closing ∨
      skipBlanks n (cs ++ closing) = [] := by
  induction n generalizing m cs with
  | zero => exact absurd hn (Nat.not_lt_zero _)
  | succ n ih =>
      obtain ⟨m, rfl⟩ := Nat.exists_eq_succ_of_ne_zero (Nat.ne_zero_of_lt hm)
      cases cs with
      | nil =>
          left
          show (if isBlank ')' then _ else _) = _
          rw [isBlank_parenthesis]
          rfl
      | cons c rest =>
          have hn' : rest.length < n := Nat.lt_of_succ_lt_succ hn
          have hm' : rest.length < m := Nat.lt_of_succ_lt_succ hm
          rw [List.cons_append, skipBlanks, skipBlanks]
          by_cases hblank : isBlank c = true
          · rw [if_pos hblank, if_pos hblank]
            exact ih hn' hm'
          · rw [if_neg hblank, if_neg hblank]
            by_cases hcomment : c = '#'
            · -- A comment goes up to the end of its line, or it takes the closing in.
              rw [if_pos hcomment, if_pos hcomment]
              have hshort := (behindLine_suffix rest).length_le
              rcases behindLine_append rest with h | h
              · rw [h]
                exact ih (Nat.lt_of_le_of_lt hshort hn') (Nat.lt_of_le_of_lt hshort hm')
              · rw [h]
                right
                cases n <;> rfl
            · rw [if_neg hcomment, if_neg hcomment]
              exact .inl rfl

theorem skip_append (v : Bool) (cs : List Char) :
    skip v (cs ++ closing) = skip v cs ++ closing ∨ skip v (cs ++ closing) = [] := by
  unfold skip
  by_cases hv : v = true
  · rw [if_pos hv, if_pos hv]
    refine skipBlanks_append ?_ (Nat.lt_succ_self _)
    rw [List.length_append]
    omega
  · rw [if_neg hv, if_neg hv]
    exact .inl rfl

/-- What is skipped in front of the closing is skipped without it. -/
theorem skip_of_append (h : skip v (cs ++ closing) = front ++ closing) : skip v cs = front := by
  rcases skip_append v cs with hskip | hskip
  · exact List.append_cancel_right (hskip.symm.trans h)
  · exact absurd (h.symm.trans hskip) (append_closing_ne_nil front)

/-- What is in front of the closing behind what is skipped. -/
theorem exists_skip {f : List Char} (h : skip v cs = f ++ closing) :
    ∃ g, cs = g ++ closing ∧ skip v g = f := by
  have hleft := skip_suffix v cs
  rw [h] at hleft
  rcases exists_front hleft with ⟨g, rfl⟩
  exact ⟨g, rfl, skip_of_append h⟩

/-- A reader that skips first. -/
theorem Local.skip {R R' : List Char → Option (α × List Char)}
    (h : ∀ front, Local (R front) (R' (front ++ closing))) (hleaves : ∀ cs, Leaves cs (R' cs)) :
    Local (R (skip v cs)) (R' (skip v (cs ++ closing))) := by
  intro x front hwhole
  rcases (hleaves _).exists_front hwhole with ⟨f, hf⟩
  rw [skip_of_append hf]
  rw [hf] at hwhole
  exact h f x front hwhole

end Skipping

section Escapes

theorem local_readDigits (v : Bool) (n : Nat) (cs : List Char) :
    Local (readDigits v n cs) (readDigits v n (cs ++ closing)) := by
  induction n generalizing cs with
  | zero => exact local_some [] cs
  | succ n ih =>
      cases cs with
      | nil => exact local_none
      | cons c rest =>
          rw [List.cons_append, readDigits, readDigits]
          by_cases hc : Digit.isDigitIn 16 c = true
          · rw [if_pos hc, if_pos hc]
            exact (Local.skip ih (leaves_readDigits v n)).map (c :: ·)
          · rw [if_neg hc, if_neg hc]
            exact local_none

theorem local_readBraced (v : Bool) {n m : Nat} (hm : cs.length < m) :
    Local (readBraced v m cs) (readBraced v n (cs ++ closing)) := by
  induction n generalizing m cs with
  | zero => exact local_none
  | succ n ih =>
      obtain ⟨m, rfl⟩ := Nat.exists_eq_succ_of_ne_zero (Nat.ne_zero_of_lt hm)
      intro name front h
      rw [readBraced] at h
      split at h
      · cases h
      · next rest hrest =>
          obtain ⟨rfl, rfl⟩ := Prod.mk.inj (Option.some.inj h)
          have hcs : skip v cs = '\x7d' :: front := skip_of_append hrest
          simp only [readBraced, hcs]
      · next c rest hne hrest =>
          rcases Option.map_eq_some_iff.1 h with ⟨⟨name', rest'⟩, hbraced, heq⟩
          obtain ⟨rfl, rfl⟩ := Prod.mk.inj heq
          rcases (leaves_readBraced v n rest).exists_front hbraced with ⟨f, rfl⟩
          have hcs : skip v cs = c :: f := skip_of_append hrest
          have hlt : f.length < m := by
            have := (skip_suffix v cs).length_le
            rw [hcs, List.length_cons] at this
            omega
          simp only [readBraced, hcs, ih hlt name' front hbraced, Option.map_some]

theorem local_readCodePoint (v : Bool) (width : Nat) (cs : List Char) :
    Local (readCodePoint v width cs) (readCodePoint v width (cs ++ closing)) := by
  intro a front h
  rw [readCodePoint] at h
  split at h
  · next rest hrest =>
      split at h
      · cases h
      · next digits rest' hbraced =>
          split at h
          · cases h
          · next hdigits =>
              rcases Option.map_eq_some_iff.1 h with ⟨c, hc, heq⟩
              obtain ⟨rfl, hfront⟩ := Prod.mk.inj heq
              obtain ⟨f, rfl, hf⟩ := exists_skip hfront
              rcases (leaves_readBraced v _ rest).exists_front hbraced with ⟨g, rfl⟩
              have hcs : skip v cs = '\x7b' :: g := skip_of_append hrest
              have halone := local_readBraced v (Nat.lt_succ_self g.length) digits f hbraced
              simp only [readCodePoint, hcs, halone, if_neg hdigits, hc, Option.map_some, hf]
  · next hne =>
      split at h
      · cases h
      · next digits rest hdigits =>
          rcases Option.map_eq_some_iff.1 h with ⟨c, hc, heq⟩
          obtain ⟨rfl, rfl⟩ := Prod.mk.inj heq
          rcases (leaves_readDigits v width _).exists_front hdigits with ⟨f, hf⟩
          rw [hf] at hdigits hne
          have halone := local_readDigits v width f digits front hdigits
          rw [readCodePoint, skip_of_append hf]
          split
          · next rest => exact absurd rfl (hne (rest ++ closing))
          · simp only [halone, hc, Option.map_some]

theorem local_readProperty (v negated : Bool) (cs : List Char) :
    Local (readProperty v negated cs) (readProperty v negated (cs ++ closing)) := by
  intro a front h
  rw [readProperty] at h
  split at h
  · cases h
  · next rest hrest =>
      split at h
      · cases h
      · next text rest' hbraced =>
          rw [Option.some.injEq, Prod.mk.injEq] at h
          rcases h with ⟨rfl, rfl⟩
          rcases (leaves_readBraced v _ rest).exists_front hbraced with ⟨f, rfl⟩
          have hcs : skip v cs = '\x7b' :: f := skip_of_append hrest
          have halone := local_readBraced v (Nat.lt_succ_self f.length) text front hbraced
          simp only [readProperty, hcs, halone]
  · next c rest hne hrest =>
      split at h
      · cases h
      · next hc =>
          obtain ⟨rfl, hfront⟩ := Prod.mk.inj (Option.some.inj h)
          obtain ⟨f, rfl, hf⟩ := exists_skip hfront
          have hcs : skip v cs = c :: f := skip_of_append hrest
          simp only [readProperty, hcs, if_neg hc, hf]

/-- An opening brace with nothing behind it. The test for words looks behind the
    brace, and there it finds the closing instead of the end of the text. -/
def Dangling (v : Bool) (cs : List Char) : Prop :=
  ∃ rest, cs = '\x7b' :: rest ∧ skip v rest = []

theorem local_readWordTest (v : Bool) (cs : List Char) {kind : WordLook}
    (h : readWordTest v (cs ++ closing) = some (kind, front ++ closing)) :
    readWordTest v cs = some (kind, front) ∨ (kind = .boundary ∧ Dangling v front) := by
  by_cases hbrace : ∃ rest, cs = '\x7b' :: rest
  · rcases hbrace with ⟨rest, rfl⟩
    rw [List.cons_append, readWordTest_brace] at h
    rw [readWordTest_brace]
    split at h
    · cases h
    · next c tail hskip =>
        split at h
        · next hname =>
            rw [Option.some.injEq, Prod.mk.injEq] at h
            obtain rfl : '\x7b' :: rest = front := List.append_cancel_right h.2
            cases hrest : skip v rest with
            | nil => exact .inr ⟨h.1.symm, rest, rfl, hrest⟩
            | cons c' tail' =>
                have hsame : c' = c := by
                  rcases skip_append v rest with heq | heq
                  · rw [hskip, hrest] at heq
                    exact (List.cons.inj heq).1.symm
                  · cases hskip.symm.trans heq
                left
                dsimp only
                rw [hsame, if_pos hname, h.1]
        · next hname =>
            split at h
            · cases h
            · next name rest' hbraced =>
                rcases Option.map_eq_some_iff.1 h with ⟨kind', hkind, heq⟩
                obtain ⟨rfl, rfl⟩ := Prod.mk.inj heq
                rcases (leaves_readBraced v _ _).exists_front hbraced with ⟨f, hf⟩
                have hrest : skip v rest = f := skip_of_append (hskip.trans hf)
                cases f with
                | nil =>
                    obtain rfl : c = ')' := (List.cons.inj hf).1
                    exact absurd (by decide) hname
                | cons c' f =>
                    rw [hf] at hbraced
                    rw [← (List.cons.inj hf).1] at hbraced hrest
                    have halone : readBraced v (f.length + 2) (c :: f) = some (name, front) :=
                      local_readBraced v (Nat.lt_succ_self _) name front hbraced
                    left
                    simp only [hrest, if_neg hname, halone, hkind, Option.map_some]
  · have hne := not_exists.1 hbrace
    rw [readWordTest_of_ne v (ne_cons_of_append hne (by decide))] at h
    rw [readWordTest_of_ne v hne]
    exact .inl (local_some _ cs _ _ h)

/-- An atom is read the same without the closing, unless it is a test for words with
    a brace behind it. -/
def LocalAtom (v : Bool) (alone whole : Option (Atom × List Char)) : Prop :=
  ∀ a front, whole = some (a, front ++ closing) →
    alone = some (a, front) ∨ (a = .anchor (.word .boundary) ∧ Dangling v front)

theorem Local.atom {alone whole : Option (Atom × List Char)} (h : Local alone whole) :
    LocalAtom v alone whole :=
  fun a front hwhole => .inl (h a front hwhole)

theorem local_readEscape (v : Bool) (cs : List Char) :
    LocalAtom v (readEscape v cs) (readEscape v (cs ++ closing)) := by
  cases cs with
  | nil =>
      intro a front h
      exact absurd (Prod.mk.inj (Option.some.inj h)).2 (dollar_ne front)
  | cons c cs =>
      rw [List.cons_append, readEscape_cons, readEscape_cons]
      cases escapeKind c with
      | codePoint width => exact (local_readCodePoint v width cs).atom
      | property negated => exact (local_readProperty v negated cs).atom
      | atom a => exact (local_some a cs).atom
      | refused => exact local_none.atom
      | wordTest =>
          intro a front h
          rcases Option.map_eq_some_iff.1 h with ⟨⟨kind, rest⟩, hwhole, heq⟩
          obtain ⟨rfl, rfl⟩ := Prod.mk.inj heq
          rcases local_readWordTest v cs hwhole with halone | ⟨rfl, hdangling⟩
          · left
            dsimp only
            rw [halone]
            rfl
          · exact .inr ⟨rfl, hdangling⟩

end Escapes

end Regex

end IrcHarness
