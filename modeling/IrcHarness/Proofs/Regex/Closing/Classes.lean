import IrcHarness.Proofs.Regex.Closing.Escapes
import IrcHarness.Proofs.Regex.Tokens

/-!
# Classes in Front of a Closing

A class that is closed in front of the closing is read the same without it. The closing
holds no bracket, so while a class is being read, its own bracket at the least is still
to come. That is why the parts of a class can be said to read the same only if something
is behind them: at the end of a text they are refused, and in front of the closing they
are not.

Looking ahead inside a class is for a bracket or a hyphen, and the closing is neither.

## Theorems

* `readNamedClass_append`: A named class does not see the closing at all.
* `peekSkipping_append`: Neither does looking ahead.
* `readClassPart_of_append`, `readClassFront_of_append`: The parts of a class.
* `ReadsClass.of_append`: A class up to its bracket.
* `local_readClass`: A class.
-/

namespace IrcHarness

namespace Regex

variable {cs front rest : List Char} {v : Bool}

section NamedClasses

theorem dropWhile_append {p : Char → Bool} (hparenthesis : p ')' = true) (hdollar : p '$' = true)
    (cs : List Char) :
    (cs ++ closing).dropWhile p =
      if cs.dropWhile p = [] then [] else cs.dropWhile p ++ closing := by
  rw [List.dropWhile_append]
  have hclosing : closing.dropWhile p = [] := by
    rw [closing, List.dropWhile_cons_of_pos hparenthesis, List.dropWhile_cons_of_pos hdollar]
    rfl
  rw [hclosing]
  simp only [List.isEmpty_iff]

theorem takeWhile_append {p : Char → Bool} (h : cs.dropWhile p ≠ []) (ds : List Char) :
    (cs ++ ds).takeWhile p = cs.takeWhile p := by
  rw [List.takeWhile_append, if_neg]
  intro hlength
  have hsum := congrArg List.length (List.takeWhile_append_dropWhile (p := p) (l := cs))
  rw [List.length_append, hlength] at hsum
  exact h (List.length_eq_zero_iff.1 (Nat.add_eq_left.1 hsum))

theorem nameSign_append (cs : List Char) :
    nameSign (cs ++ closing) = ((nameSign cs).1, (nameSign cs).2 ++ closing) := by
  cases cs with
  | nil => rfl
  | cons c cs =>
      by_cases hc : c = '^'
      · subst hc
        rfl
      · have hsame (ds : List Char) : nameSign (c :: ds) = (false, c :: ds) := by
          unfold nameSign
          split
          · next heq => exact absurd (List.cons.inj heq).1 hc
          · rfl
        rw [List.cons_append, hsame, hsame, List.cons_append]

theorem namedClass_append (negated : Bool) (cs : List Char) :
    namedClass negated (cs ++ closing) =
      (namedClass negated cs).map fun r => (r.1, r.2 ++ closing) := by
  unfold namedClass
  rw [dropWhile_append (by decide) (by decide)]
  by_cases hname : cs.dropWhile (· ≠ ':') = []
  · rw [if_pos hname, hname]
    rfl
  · rw [if_neg hname, takeWhile_append hname]
    split
    · next tail h =>
        obtain ⟨f, hf, h⟩ := cons_of_append h (by decide)
        obtain ⟨f, rfl, rfl⟩ := cons_of_append h.symm (by decide)
        rw [hf]
        simp only [Option.map_map]
        rfl
    · next hne =>
        split
        · next tail h => exact absurd (congrArg (· ++ closing) h) (hne (tail ++ closing))
        · rfl

theorem readNamedClass_append (cs : List Char) :
    readNamedClass (cs ++ closing) =
      (readNamedClass cs).map fun r => (r.1, r.2 ++ closing) := by
  by_cases h : ∃ rest, cs = ':' :: rest
  · rcases h with ⟨rest, rfl⟩
    rw [List.cons_append, readNamedClass_cons, readNamedClass_cons, nameSign_append,
      namedClass_append]
  · have hnone {ds : List Char} (hds : ∀ rest, ds ≠ ':' :: rest) : readNamedClass ds = none := by
      unfold readNamedClass
      split
      · next rest => exact absurd rfl (hds rest)
      · rfl
    have hne := not_exists.1 h
    rw [hnone hne, hnone (ne_cons_of_append hne (by decide))]
    rfl

end NamedClasses

section Ahead

theorem dropBlanks_append (cs : List Char) :
    (cs ++ closing).dropWhile isBlank = cs.dropWhile isBlank ++ closing := by
  rw [List.dropWhile_append]
  cases h : cs.dropWhile isBlank with
  | nil =>
      rw [if_pos List.isEmpty_nil, closing,
        List.dropWhile_cons_of_neg (by rw [isBlank_parenthesis]; decide)]
      rfl
  | cons c rest => exact if_neg Bool.false_ne_true

/-- A text behind the mark of a comment and the blanks there. -/
def cutMark : List Char → List Char
  | '#' :: rest => rest.dropWhile isBlank
  | rest => rest

/-- A text behind blanks, the mark of a comment and further blanks. -/
def behindMark (cs : List Char) : List Char :=
  cutMark (cs.dropWhile isBlank)

theorem cutMark_of_ne (h : ∀ rest, cs ≠ '#' :: rest) : cutMark cs = cs := by
  unfold cutMark
  split
  · next rest => exact absurd rfl (h rest)
  · rfl

theorem peekSkipping_cons (v : Bool) (c : Char) (cs : List Char) :
    peekSkipping v (c :: cs) =
      if !v then cs.head? else (behindMark cs).head?.or cs.head? := rfl

theorem cutMark_append (cs : List Char) : cutMark (cs ++ closing) = cutMark cs ++ closing := by
  by_cases hmark : ∃ rest, cs = '#' :: rest
  · rcases hmark with ⟨rest, rfl⟩
    exact dropBlanks_append rest
  · have hne := not_exists.1 hmark
    rw [cutMark_of_ne hne, cutMark_of_ne (ne_cons_of_append hne (by decide))]

theorem behindMark_append (cs : List Char) :
    behindMark (cs ++ closing) = behindMark cs ++ closing := by
  rw [behindMark, dropBlanks_append, cutMark_append, behindMark]

/-- Looking ahead for a bracket or a hyphen does not see the closing. -/
theorem peekSkipping_append (v : Bool) (c : Char) (cs : List Char) {x : Char}
    (hx : x ≠ ')') (hblank : isBlank x = false) (hcomment : x ≠ '#') :
    peekSkipping v (c :: (cs ++ closing)) = some x ↔ peekSkipping v (c :: cs) = some x := by
  have hclosing : closing.head? ≠ some x := fun h => hx (Option.some.inj h).symm
  rw [peekSkipping_cons, peekSkipping_cons]
  cases v with
  | false =>
      rw [if_pos (by decide), if_pos (by decide)]
      cases cs with
      | nil => exact iff_of_false hclosing (Option.some_ne_none x).symm
      | cons d cs => exact Iff.rfl
  | true =>
      rw [if_neg (by decide), if_neg (by decide), behindMark_append]
      cases hmark : behindMark cs with
      | cons d ds => rw [List.cons_append, List.head?_cons, Option.some_or, List.head?_cons,
          Option.some_or]
      | nil =>
          refine iff_of_false hclosing fun h => ?_
          cases cs with
          | nil => cases h
          | cons d ds =>
              -- A character that is not skipped would be what is ahead.
              obtain rfl : d = x := Option.some.inj h
              have hkept : behindMark (d :: ds) = d :: ds := by
                rw [behindMark, List.dropWhile_cons_of_neg (by rw [hblank]; decide)]
                exact cutMark_of_ne fun rest heq => hcomment (List.cons.inj heq).1
              exact absurd (hkept.symm.trans hmark) (List.cons_ne_nil d ds)

theorem isBlank_bracket : isBlank ']' = false := by
  rw [isBlank_eq]
  decide

theorem isBlank_hyphen : isBlank '-' = false := by
  rw [isBlank_eq]
  decide

/-- Whether a hyphen joins two ends of a range does not depend on the closing. -/
theorem joins_append (v : Bool) (c : Char) (cs : List Char) :
    (c ≠ '-' ∨ peekSkipping v (c :: (cs ++ closing)) = some ']' ∨
        peekSkipping v (c :: (cs ++ closing)) = some '-') ↔
      (c ≠ '-' ∨ peekSkipping v (c :: cs) = some ']' ∨ peekSkipping v (c :: cs) = some '-') := by
  rw [peekSkipping_append v c cs (by decide) isBlank_bracket (by decide),
    peekSkipping_append v c cs (by decide) isBlank_hyphen (by decide)]

end Ahead

section Parts

theorem local_readClassAtom (v : Bool) (cs : List Char) :
    LocalAtom v (readClassAtom v cs) (readClassAtom v (cs ++ closing)) := by
  cases cs with
  | nil =>
      intro a front h
      exact absurd (Prod.mk.inj (Option.some.inj h)).2 (dollar_ne front)
  | cons c cs =>
      by_cases hc : c = '\\'
      · rw [hc]
        exact local_readEscape v cs
      · have hliteral (ds : List Char) : readClassAtom v (c :: ds) = some (.literal c, ds) := by
          unfold readClassAtom
          split
          · next heq => cases heq
          · next heq => exact absurd (List.cons.inj heq).1 hc
          · next heq =>
              rcases List.cons.inj heq with ⟨rfl, rfl⟩
              rfl
        rw [List.cons_append, hliteral, hliteral]
        exact (local_some _ cs).atom

/-- A character or an escape that is a member of a class. -/
theorem readClassAtom_of_append {a : Atom} {part : ClassTree}
    (h : readClassAtom v (cs ++ closing) = some (a, front ++ closing))
    (hpart : classPart? a = some part) : readClassAtom v cs = some (a, front) := by
  rcases local_readClassAtom v cs a front h with halone | ⟨rfl, -⟩
  · exact halone
  · cases hpart

/-- A part of a class is read the same without the closing, if something is behind it. -/
theorem readClassPart_of_append {part : ClassTree} (hfront : front ≠ [])
    (h : readClassPart v (cs ++ closing) = some (part, front ++ closing)) :
    readClassPart v cs = some (part, front) := by
  unfold readClassPart at h
  split at h
  · cases h
  · next first rest hfirst =>
      split at h
      · cases h
      · next c tail hrest =>
          dsimp only at h
          split at h
          · next hjoins =>
              rcases Option.map_eq_some_iff.1 h with ⟨part', hpart, heq⟩
              obtain ⟨rfl, hbehind⟩ := Prod.mk.inj heq
              obtain ⟨d, f, rfl⟩ := List.exists_cons_of_ne_nil hfront
              obtain ⟨rfl, rfl⟩ := List.cons.inj (List.cons_append ▸ hbehind)
              obtain ⟨f', rfl, hcs⟩ := exists_skip (f := c :: f) hrest
              rw [joins_append] at hjoins
              simp only [readClassPart, readClassAtom_of_append hfirst hpart, hcs, if_pos hjoins,
                hpart, Option.map_some]
          · next hjoins =>
              split at h
              · cases h
              · next last rest' hlast =>
                  split at h
                  · next lo hi hlo hhi =>
                      split at h
                      · next hle =>
                          obtain ⟨rfl, rfl⟩ := Prod.mk.inj (Option.some.inj h)
                          have hbehind := (leaves_readClassAtom v _ last _ hlast).trans
                            (List.tail_suffix _)
                          rcases exists_front hbehind with ⟨g, hg⟩
                          obtain ⟨f, rfl, htail⟩ := exists_skip hg
                          obtain ⟨f', rfl, hcs⟩ := exists_skip (f := c :: f) hrest
                          rw [joins_append] at hjoins
                          rw [hg] at hlast
                          simp only [readClassPart, readClassAtom_of_append hfirst hlo, hcs,
                            if_neg hjoins, htail, readClassAtom_of_append hlast hhi, hlo, hhi,
                            if_pos hle]
                      · cases h
                  · cases h

end Parts

section Fronts

theorem hyphens_zero (v : Bool) (cs : List Char) :
    readClassFront.hyphens v cs 0 = (0, []) := by
  cases cs <;> rfl

theorem hyphens_cons (v : Bool) (n : Nat) (cs : List Char) :
    readClassFront.hyphens v ('-' :: cs) (n + 1) =
      ((readClassFront.hyphens v (skip v cs) n).1 + 1,
        (readClassFront.hyphens v (skip v cs) n).2) := rfl

theorem hyphens_of_ne (v : Bool) (n : Nat) (h : ∀ rest, cs ≠ '-' :: rest) :
    readClassFront.hyphens v cs (n + 1) = (0, cs) := by
  unfold readClassFront.hyphens
  split
  · next heq => cases heq
  · next rest _ _ => exact absurd rfl (h rest)
  · rfl

theorem hyphens_of_append {n m k : Nat} (hm : cs.length < m)
    (h : readClassFront.hyphens v (cs ++ closing) n = (k, front ++ closing)) :
    readClassFront.hyphens v cs m = (k, front) := by
  induction n generalizing m cs k with
  | zero =>
      rw [hyphens_zero] at h
      exact absurd (Prod.mk.inj h).2.symm (append_closing_ne_nil front)
  | succ n ih =>
      obtain ⟨m, rfl⟩ := Nat.exists_eq_succ_of_ne_zero (Nat.ne_zero_of_lt hm)
      by_cases hhyphen : ∃ rest, cs = '-' :: rest
      · rcases hhyphen with ⟨rest, rfl⟩
        rw [List.cons_append, hyphens_cons] at h
        obtain ⟨rfl, hfront⟩ := Prod.mk.inj h
        have hleft := hyphens_suffix v n (skip v (rest ++ closing))
        rw [hfront] at hleft
        rcases exists_front hleft with ⟨f, hf⟩
        have hrest := skip_of_append hf
        have hlt : f.length < m := by
          have := (skip_suffix v rest).length_le
          rw [hrest] at this
          rw [List.length_cons] at hm
          omega
        rw [hf] at hfront ⊢
        rw [hyphens_cons, hrest, ih hlt (Prod.ext rfl hfront)]
      · have hne := not_exists.1 hhyphen
        rw [hyphens_of_ne v n (ne_cons_of_append hne (by decide))] at h
        obtain ⟨rfl, hfront⟩ := Prod.mk.inj h
        rw [hyphens_of_ne v m hne, List.append_cancel_right hfront]

theorem classSign_of_append {negated : Bool}
    (h : classSign v (cs ++ closing) = (negated, front ++ closing)) :
    classSign v cs = (negated, front) := by
  unfold classSign at h
  split at h
  · next rest hrest =>
      obtain ⟨rfl, hfront⟩ := Prod.mk.inj h
      obtain ⟨f, rfl, hf⟩ := exists_skip hfront
      have hcs : skip v cs = '^' :: f := skip_of_append hrest
      simp only [classSign, hcs, hf]
  · next hne =>
      obtain ⟨rfl, hfront⟩ := Prod.mk.inj h
      rw [hfront] at hne
      have hcs : skip v cs = front := skip_of_append hfront
      unfold classSign
      rw [hcs]
      split
      · next rest => exact absurd rfl (hne (rest ++ closing))
      · rfl

theorem classFront_of_append {negated : Bool} {k : Nat} {r : Bool × List ClassTree}
    (hfront : front ≠ [])
    (h : classFront v negated (k, cs ++ closing) = some (r, front ++ closing)) :
    classFront v negated (k, cs) = some (r, front) := by
  unfold classFront at h
  dsimp only at h
  split at h
  · cases h
  · next rest _ hcs =>
      obtain ⟨rfl, hrest⟩ := Prod.mk.inj (Option.some.inj h)
      obtain ⟨f, rfl, rfl⟩ := cons_of_append hcs (by decide)
      simp only [classFront, skip_of_append hrest]
  · next hnil hne =>
      obtain ⟨rfl, hrest⟩ := Prod.mk.inj (Option.some.inj h)
      obtain rfl := List.append_cancel_right hrest
      unfold classFront
      dsimp only
      split
      · exact absurd rfl hfront
      · next rest _ => exact absurd rfl (hne _ rfl)
      · rfl

/-- The front of a class is read the same without the closing, if something is behind
    it. -/
theorem readClassFront_of_append {negated : Bool} {parts : List ClassTree} (hfront : front ≠ [])
    (h : readClassFront v (cs ++ closing) = some (negated, parts, front ++ closing)) :
    readClassFront v cs = some (negated, parts, front) := by
  rw [readClassFront_eq] at h
  rcases Option.map_eq_some_iff.1 h with ⟨⟨⟨negated', parts'⟩, rest⟩, hparts, heq⟩
  simp only [Prod.mk.injEq] at heq
  rcases heq with ⟨rfl, rfl, rfl⟩
  generalize hsign : classSign v (cs ++ closing) = sign at hparts
  rcases sign with ⟨negated, behind⟩
  generalize hhyphens : readClassFront.hyphens v behind (behind.length + 1) = hyphens at hparts
  rcases hyphens with ⟨count, rest⟩
  rcases (leaves_classFront v negated (count, rest)).exists_front hparts with ⟨f, rfl⟩
  have hleft := hyphens_suffix v (behind.length + 1) behind
  rw [hhyphens] at hleft
  rcases exists_front hleft with ⟨g, rfl⟩
  rw [readClassFront_eq, classSign_of_append hsign]
  dsimp only
  rw [hyphens_of_append (Nat.lt_succ_self g.length) hhyphens, classFront_of_append hfront hparts]
  rfl

end Fronts

section Bodies

/-- A token of a class is read the same without the closing, unless it is a part that
    nothing is behind. -/
theorem classToken_of_append {token : ClassToken} (hfront : token ≠ .close → front ≠ [])
    (h : classToken? v (cs ++ closing) = some (token, front ++ closing)) :
    classToken? v cs = some (token, front) := by
  have hleft := (leaves_classToken? v (cs ++ closing) token _ h).trans (List.tail_suffix _)
  rcases exists_front hleft with ⟨g, hg⟩
  rw [classToken?, hg] at h
  rw [classToken?, skip_of_append hg]
  unfold classTokenAt at h
  split at h
  · cases h
  · next rest hcs =>
      obtain ⟨rfl, rfl⟩ := Prod.mk.inj (Option.some.inj h)
      obtain rfl : g = ']' :: front := List.append_cancel_right hcs
      rfl
  · next rest hcs =>
      obtain ⟨rfl, rfl⟩ := Prod.mk.inj (Option.some.inj h)
      obtain rfl : g = '&' :: '&' :: front := List.append_cancel_right hcs
      rfl
  · next rest hcs =>
      obtain ⟨rfl, rfl⟩ := Prod.mk.inj (Option.some.inj h)
      obtain rfl : g = '-' :: '-' :: front := List.append_cancel_right hcs
      rfl
  · next rest hcs =>
      obtain ⟨rfl, rfl⟩ := Prod.mk.inj (Option.some.inj h)
      obtain rfl : g = '~' :: '~' :: front := List.append_cancel_right hcs
      rfl
  · next rest hcs =>
      obtain ⟨f, rfl, rfl⟩ := cons_of_append hcs (by decide)
      rw [readNamedClass_append] at h
      rw [classTokenAt_bracket]
      cases hnamed : readNamedClass f with
      | none =>
          rw [hnamed] at h
          exact local_some _ f _ _ h
      | some named =>
          rw [hnamed] at h
          exact local_some _ named.2 _ _ h
  · next hnil hclose hand hminus htilde hopen =>
      rcases Option.map_eq_some_iff.1 h with ⟨⟨part, rest⟩, hpart, heq⟩
      obtain ⟨rfl, rfl⟩ := Prod.mk.inj heq
      have halone := readClassPart_of_append (hfront (by simp)) hpart
      unfold classTokenAt
      split
      · cases halone
      · next rest => exact absurd rfl (hclose (rest ++ closing))
      · next rest => exact absurd rfl (hand (rest ++ closing))
      · next rest => exact absurd rfl (hminus (rest ++ closing))
      · next rest => exact absurd rfl (htilde (rest ++ closing))
      · next rest => exact absurd rfl (hopen (rest ++ closing))
      · rw [halone]
        rfl

theorem exists_front_of_classToken {token : ClassToken} (hfront : token ≠ .close → front ≠ [])
    (h : classToken? v rest = some (token, front ++ closing)) :
    ∃ f, f ≠ [] ∧ rest = f ++ closing ∧ classToken? v f = some (token, front) := by
  rcases exists_front (suffix_of_classToken? h) with ⟨f, rfl⟩
  have halone := classToken_of_append hfront h
  have hlength := length_lt_of_classToken? halone
  exact ⟨f, List.ne_nil_of_length_pos (Nat.zero_lt_of_lt hlength), rfl, halone⟩

-- The induction goes from the end of the class: that something of the text is left behind a
-- token is known from what is read there, never from the token.
/-- A class that is closed in front of the closing is read the same without it, and each
    of its tokens but the last one has something behind it, the bracket at the least. -/
theorem ReadsClass.of_append {pending : Option (ClassOp × ClassTree)} {parts : List ClassTree}
    {t : ClassTree} (h : ReadsClass v pending parts cs t rest) (hrest : rest = front ++ closing) :
    ∃ f, f ≠ [] ∧ cs = f ++ closing ∧ ReadsClass v pending parts f t front := by
  induction h generalizing front with
  | close h =>
      subst hrest
      obtain ⟨f, hf, rfl, halone⟩ := exists_front_of_classToken (absurd rfl) h
      exact ⟨f, hf, rfl, .close halone⟩
  | op h _ ih =>
      obtain ⟨g, hg, rfl, hbehind⟩ := ih hrest
      obtain ⟨f, hf, rfl, halone⟩ := exists_front_of_classToken (fun _ => hg) h
      exact ⟨f, hf, rfl, .op halone hbehind⟩
  | part h _ ih =>
      obtain ⟨g, hg, rfl, hbehind⟩ := ih hrest
      obtain ⟨f, hf, rfl, halone⟩ := exists_front_of_classToken (fun _ => hg) h
      exact ⟨f, hf, rfl, .part halone hbehind⟩
  | bracket h hfront _ _ ihinner ihrest =>
      obtain ⟨left, -, rfl, hbehind⟩ := ihrest hrest
      obtain ⟨body, hbody, rfl, hinner⟩ := ihinner rfl
      rcases exists_front (suffix_of_readClassFront hfront) with ⟨g, rfl⟩
      have hopen := readClassFront_of_append hbody hfront
      have hg := (suffix_of_readClassFront hopen).ne_nil hbody
      obtain ⟨f, hf, rfl, halone⟩ := exists_front_of_classToken (fun _ => hg) h
      exact ⟨f, hf, rfl, .bracket halone hopen hinner hbehind⟩

theorem local_readClass (v : Bool) (cs : List Char) :
    Local (readClass v cs) (readClass v (cs ++ closing)) := by
  intro c front h
  unfold readClass at h
  split at h
  · cases h
  · next negated members rest hfront =>
      rcases Option.map_eq_some_iff.1 h with ⟨⟨inner, rest'⟩, hinner, heq⟩
      obtain ⟨rfl, rfl⟩ := Prod.mk.inj heq
      obtain ⟨f, hf, rfl, hbody⟩ := (readsClass_of_readClassBody hinner).of_append rfl
      simp only [readClass, readClassFront_of_append hf hfront,
        hbody.readClassBody (Nat.lt_succ_self f.length), Option.map_some]

end Bodies

end Regex

end IrcHarness
