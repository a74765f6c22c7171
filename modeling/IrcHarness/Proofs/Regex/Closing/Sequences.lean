import IrcHarness.Proofs.Regex.Closing.Classes

/-!
# Sequences in Front of a Closing

A sequence that stops in front of the closing is read the same without it, and it has no
more in it than the text alone. The parenthesis of the closing may well be taken by a
group of the text, but then what is left is not in front of the closing any more.

The one part that is read otherwise is a test for words with a brace behind it and
nothing behind the brace. The next token would be the bounds of a repetition, and those
need a number, so the reader gives up.

## Theorems

* `token_of_append`: The next token.
* `token?_of_dangling`: A brace with nothing behind it is refused.
* `readOpening_of_append`: The front of a group.
* `Reads.of_append`: A sequence.
-/

namespace IrcHarness

namespace Regex

variable {cs front rest : List Char} {c : Char} {v : Bool}

section Parts

theorem local_readName (cs : List Char) : Local (readName cs) (readName (cs ++ closing)) := by
  intro name front h
  unfold readName at h
  split at h
  · next rest hrest =>
      rw [dropWhile_append (by decide) (by decide)] at hrest
      by_cases hdrop : cs.dropWhile (· ≠ '>') = []
      · rw [if_pos hdrop] at hrest
        cases hrest
      · rw [if_neg hdrop] at hrest
        obtain ⟨f, hf, rfl⟩ := cons_of_append hrest (by decide)
        rw [takeWhile_append hdrop] at h
        split at h
        · cases h
        · next c name' htake =>
            split at h
            · next hname =>
                obtain ⟨rfl, hfront⟩ := Prod.mk.inj (Option.some.inj h)
                simp only [readName, hf, htake, if_pos hname, List.append_cancel_right hfront]
            · cases h
  · cases h

/-- Flags that end in front of the closing are read the same without it. -/
theorem readFlags_of_append {changes result : FlagChanges} {cleared : Bool} (hfront : front ≠ [])
    (h : readFlags changes cleared (cs ++ closing) = some (result, front ++ closing)) :
    readFlags changes cleared cs = some (result, front) := by
  induction cs generalizing changes cleared with
  | nil =>
      have hclosing : [] ++ closing = front ++ closing := (Prod.mk.inj (Option.some.inj h)).2
      exact absurd (List.append_cancel_right hclosing).symm hfront
  | cons c cs ih =>
      rw [List.cons_append] at h
      unfold readFlags at h
      split at h
      · next heq => cases heq
      · next rest heq =>
          obtain ⟨rfl, rfl⟩ := List.cons.inj heq
          exact local_some _ (':' :: cs) _ _ h
      · next rest heq =>
          obtain ⟨rfl, rfl⟩ := List.cons.inj heq
          exact local_some _ (')' :: cs) _ _ h
      · next rest heq =>
          obtain ⟨rfl, rfl⟩ := List.cons.inj heq
          split at h
          · cases h
          · next d tail hbehind =>
              split at h
              · cases h
              · next hd =>
                  cases cs with
                  | nil => exact absurd (.inr (.inr (List.cons.inj hbehind).1.symm)) hd
                  | cons d' ds =>
                      rw [← (List.cons.inj hbehind).1] at hd
                      show (if _ then _ else _) = _
                      rw [if_neg hd]
                      exact ih h
      · next c' rest _ _ _ heq =>
          obtain ⟨rfl, rfl⟩ := List.cons.inj heq
          split at h
          · cases h
          · next f hf =>
              rw [readFlags_of_flag hf]
              split at h
              · cases h
              · next hfresh =>
                  rw [if_neg hfresh]
                  exact ih h

theorem readDecimalDigits_of_append {n m : Nat} {digits : List Char} (hn : cs.length < n)
    (hm : cs.length < m)
    (h : readDecimalDigits v n (cs ++ closing) = (digits, front ++ closing)) :
    readDecimalDigits v m cs = (digits, front) := by
  induction n generalizing m cs digits with
  | zero => exact absurd hn (Nat.not_lt_zero _)
  | succ n ih =>
      obtain ⟨m, rfl⟩ := Nat.exists_eq_succ_of_ne_zero (Nat.ne_zero_of_lt hm)
      cases cs with
      | nil =>
          obtain ⟨rfl, hfront⟩ := Prod.mk.inj h
          have hclosing : [] ++ closing = front ++ closing := hfront
          rw [← List.append_cancel_right hclosing]
          rfl
      | cons c cs =>
          rw [List.cons_append, readDecimalDigits] at h
          rw [readDecimalDigits]
          by_cases hc : Digit.isDigitIn 10 c = true
          · rw [if_pos hc] at h ⊢
            obtain ⟨rfl, hfront⟩ := Prod.mk.inj h
            have hleft := readDecimalDigits_suffix v n (skip v (cs ++ closing))
            rw [hfront] at hleft
            rcases exists_front hleft with ⟨f, hf⟩
            have hcs := skip_of_append hf
            have hshort := (skip_suffix v cs).length_le
            rw [hcs] at hshort
            rw [hf] at hfront ⊢
            rw [hcs]
            dsimp only
            rw [ih (Nat.lt_of_le_of_lt hshort (Nat.lt_of_succ_lt_succ hn))
              (Nat.lt_of_le_of_lt hshort (Nat.lt_of_succ_lt_succ hm)) (Prod.ext rfl hfront)]
          · rw [if_neg hc] at h ⊢
            obtain ⟨rfl, hfront⟩ := Prod.mk.inj h
            have hsame : (c :: cs) ++ closing = front ++ closing := hfront
            rw [List.append_cancel_right hsame]

theorem local_readDecimal (v : Bool) (cs : List Char) :
    Local (readDecimal v cs) (readDecimal v (cs ++ closing)) := by
  intro k front h
  unfold readDecimal at h
  rw [dropBlanks_append] at h
  have hshort := (List.dropWhile_suffix isBlank (l := cs)).length_le
  split at h
  · cases h
  · next digits rest hdigits hread =>
      dsimp only at h
      split at h
      · next hle =>
          obtain ⟨rfl, hrest⟩ := Prod.mk.inj (Option.some.inj h)
          obtain ⟨g, hg, hskip⟩ := exists_skip hrest
          have hleft := List.dropWhile_suffix isBlank (l := rest)
          rw [hg] at hleft
          rcases exists_front hleft with ⟨f, rfl⟩
          rw [dropBlanks_append] at hg
          have halone := readDecimalDigits_of_append (m := cs.length + 1) (by
            rw [List.length_append]
            omega) (by omega) hread
          unfold readDecimal
          rw [halone]
          split
          · next heq => exact absurd (Prod.mk.inj heq).1 (hdigits · )
          · next heq =>
              obtain ⟨rfl, rfl⟩ := Prod.mk.inj heq
              dsimp only
              rw [if_pos hle, List.append_cancel_right hg, hskip]
      · cases h

theorem local_readCount (v : Bool) (cs : List Char) :
    Local (readCount v cs) (readCount v (cs ++ closing)) := by
  have hdecimal {ds f : List Char} {k : Nat}
      (h : readDecimal v (skip v (ds ++ closing)) = some (k, f ++ closing)) :
      readDecimal v (skip v ds) = some (k, f) :=
    Local.skip (local_readDecimal v) (leaves_readDecimal v) k f h
  intro bounds front h
  unfold readCount at h
  split at h
  · cases h
  · next least rest hleast =>
      obtain ⟨rfl, rfl⟩ := Prod.mk.inj (Option.some.inj h)
      have halone := hdecimal (f := '\x7d' :: front) hleast
      simp only [readCount, halone]
  · next least rest hleast =>
      split at h
      · next rest' hrest =>
          obtain ⟨rfl, rfl⟩ := Prod.mk.inj (Option.some.inj h)
          obtain ⟨g, rfl, hg⟩ := exists_skip (f := '\x7d' :: front) hrest
          have halone := hdecimal (f := ',' :: g) hleast
          simp only [readCount, halone, hg]
      · next hne =>
          split at h
          · next most rest' hmost =>
              split at h
              · next hle =>
                  obtain ⟨rfl, rfl⟩ := Prod.mk.inj (Option.some.inj h)
                  have hleft := (List.suffix_cons _ _).trans
                    ((leaves_readDecimal v _ most _ hmost).trans (skip_suffix v rest))
                  rcases exists_front hleft with ⟨g, rfl⟩
                  have halone := hdecimal (f := ',' :: g) hleast
                  have halone' := hdecimal (f := '\x7d' :: front) hmost
                  have hbehind : ('\x7d' :: front) ++ closing <:+ skip v (g ++ closing) :=
                    leaves_readDecimal v _ most _ hmost
                  rcases exists_front hbehind with ⟨f, hf⟩
                  rw [hf] at hne
                  rw [skip_of_append hf] at halone'
                  simp only [readCount, halone, skip_of_append hf]
                  split
                  · next rest' => exact absurd rfl (hne (rest' ++ closing))
                  · simp only [halone', if_pos hle]
              · cases h
          · cases h
  · cases h

theorem readMark_append (cs : List Char) :
    readMark (cs ++ closing) = ((readMark cs).1, (readMark cs).2 ++ closing) := by
  by_cases hmark : ∃ rest, cs = '?' :: rest
  · rcases hmark with ⟨rest, rfl⟩
    rfl
  · have hnone {ds : List Char} (hds : ∀ rest, ds ≠ '?' :: rest) : readMark ds = (false, ds) := by
      unfold readMark
      split
      · next rest => exact absurd rfl (hds rest)
      · rfl
    have hne := not_exists.1 hmark
    rw [hnone hne, hnone (ne_cons_of_append hne (by decide))]

theorem local_readAtom (v : Bool) (cs : List Char) :
    LocalAtom v (readAtom v cs) (readAtom v (cs ++ closing)) := by
  cases cs with
  | nil =>
      intro a front h
      exact absurd (Prod.mk.inj (Option.some.inj h)).2 (dollar_ne front)
  | cons c cs =>
      by_cases hc : c = '\\'
      · rw [hc]
        exact local_readEscape v cs
      · obtain ⟨a, ha⟩ : ∃ a, ∀ ds, readAtom v (c :: ds) = some (a, ds) := by
          by_cases hdot : c = '.'
          · exact ⟨.dot, fun ds => hdot ▸ rfl⟩
          by_cases hcaret : c = '^'
          · exact ⟨.anchor .caret, fun ds => hcaret ▸ rfl⟩
          by_cases hdollar : c = '$'
          · exact ⟨.anchor .dollar, fun ds => hdollar ▸ rfl⟩
          refine ⟨.literal c, fun ds => ?_⟩
          unfold readAtom
          split
          all_goals simp_all
        rw [List.cons_append, ha, ha]
        exact (local_some a cs).atom

theorem local_repetition (least : Nat) (most : Option Nat) (cs : List Char) :
    Local (some (repetition least most cs)) (some (repetition least most (cs ++ closing))) := by
  rw [repetition, repetition, readMark_append]
  exact local_some _ _

end Parts

section Tokens

/-- A token is read the same without the closing, unless it is a part with a brace behind
    it that has nothing behind it. -/
theorem token_of_append {token : Token}
    (h : token? v (cs ++ closing) = some (token, front ++ closing)) :
    token? v cs = some (token, front) ∨ (∃ t, token = .part t) ∧ Dangling v front := by
  rcases (leaves_tokenAt v _).exists_front h with ⟨g, hg⟩
  rw [token?, hg] at h
  rw [token?, skip_of_append hg]
  unfold tokenAt at h
  split at h
  · next hnil => exact absurd hnil (append_closing_ne_nil g)
  · next rest hcs =>
      rw [← hcs] at h
      obtain ⟨rfl, hfront⟩ := Prod.mk.inj (Option.some.inj h)
      obtain rfl := List.append_cancel_right hfront
      left
      cases g with
      | nil => rfl
      | cons c f =>
          obtain ⟨rfl, -⟩ := List.cons.inj hcs
          rfl
  · next rest hcs =>
      obtain ⟨f, rfl, rfl⟩ := cons_of_append hcs (by decide)
      exact .inl (local_some _ f _ _ h)
  · next rest hcs =>
      obtain ⟨f, rfl, rfl⟩ := cons_of_append hcs (by decide)
      exact .inl (local_some _ f _ _ h)
  · next rest hcs =>
      obtain ⟨f, rfl, rfl⟩ := cons_of_append hcs (by decide)
      exact .inl ((local_readClass v f).map (fun c => Token.part (.chars c)) _ _ h)
  · next rest hcs =>
      obtain ⟨f, rfl, rfl⟩ := cons_of_append hcs (by decide)
      exact .inl (local_repetition 0 (some 1) f _ _ h)
  · next rest hcs =>
      obtain ⟨f, rfl, rfl⟩ := cons_of_append hcs (by decide)
      exact .inl (local_repetition 0 none f _ _ h)
  · next rest hcs =>
      obtain ⟨f, rfl, rfl⟩ := cons_of_append hcs (by decide)
      exact .inl (local_repetition 1 none f _ _ h)
  · next rest hcs =>
      obtain ⟨f, rfl, rfl⟩ := cons_of_append hcs (by decide)
      left
      rcases Option.map_eq_some_iff.1 h with ⟨⟨bounds, rest⟩, hcount, heq⟩
      have hrepetition := congrArg some heq
      rcases (leaves_repetition _ _ _).exists_front hrepetition with ⟨f₁, hf₁⟩
      obtain ⟨f₂, rfl, hskip⟩ := exists_skip hf₁
      dsimp only at hrepetition
      rw [hf₁] at hrepetition
      have halone := local_readCount v f bounds f₂ hcount
      have hbehind := local_repetition bounds.1 bounds.2 f₁ token front hrepetition
      rw [tokenAt_count, halone, Option.map_some, hskip]
      exact hbehind
  · next hnil hstop hbar hopen hclass hmark hstar hplus hbrace =>
      rcases Option.map_eq_some_iff.1 h with ⟨⟨a, rest⟩, hatom, heq⟩
      obtain ⟨rfl, rfl⟩ := Prod.mk.inj heq
      rcases local_readAtom v g a front hatom with halone | ⟨-, hdangling⟩
      · left
        unfold tokenAt
        split
        · cases halone
        · next rest => exact absurd rfl (hstop (rest ++ closing))
        · next rest => exact absurd rfl (hbar (rest ++ closing))
        · next rest => exact absurd rfl (hopen (rest ++ closing))
        · next rest => exact absurd rfl (hclass (rest ++ closing))
        · next rest => exact absurd rfl (hmark (rest ++ closing))
        · next rest => exact absurd rfl (hstar (rest ++ closing))
        · next rest => exact absurd rfl (hplus (rest ++ closing))
        · next rest => exact absurd rfl (hbrace (rest ++ closing))
        · rw [halone]
          rfl
      · exact .inr ⟨⟨_, rfl⟩, hdangling⟩

theorem isBlank_brace : isBlank '\x7b' = false := by
  rw [isBlank_eq]
  decide

theorem skip_of_not_blank (v : Bool) (hblank : isBlank c = false) (hcomment : c ≠ '#')
    (cs : List Char) : skip v (c :: cs) = c :: cs := by
  unfold skip
  split
  · rw [skipBlanks, if_neg (by rw [hblank]; decide), if_neg hcomment]
  · rfl

theorem readDecimal_closing (v : Bool) : readDecimal v closing = none := by
  unfold readDecimal
  rw [show closing.dropWhile isBlank = closing from dropBlanks_append []]
  rfl

/-- The brace behind a test for words opens no bounds. -/
theorem token?_of_dangling (h : Dangling v cs) : token? v (cs ++ closing) = none := by
  rcases h with ⟨rest, rfl, hrest⟩
  have hcount : readCount v (rest ++ closing) = none := by
    unfold readCount
    rcases skip_append v rest with hskip | hskip
    · rw [hskip, hrest]
      rw [show [] ++ closing = closing from rfl, readDecimal_closing]
    · rw [hskip]
      rfl
  rw [token?, List.cons_append, skip_of_not_blank v isBlank_brace (by decide), tokenAt_count,
    hcount]
  rfl

/-- Any other token than a part is read the same without the closing. -/
theorem exists_front_of_token {token : Token} (hpart : ∀ t, token ≠ .part t)
    (h : token? v rest = some (token, front ++ closing)) :
    ∃ f, rest = f ++ closing ∧ token? v f = some (token, front) := by
  rcases (leaves_token? v rest).exists_front h with ⟨f, rfl⟩
  rcases token_of_append h with halone | ⟨⟨t, ht⟩, -⟩
  · exact ⟨f, rfl, halone⟩
  · exact absurd ht (hpart t)

end Tokens

section Openings

variable {v' : Bool} {names names' : List (List Char)} {o : Opening}

theorem namedGroup_of_append (r r' : List Char)
    (h : namedGroup ⟨r, v, names⟩ (cs ++ closing) = some (o, ⟨front ++ closing, v', names'⟩)) :
    namedGroup ⟨r', v, names⟩ cs = some (o, ⟨front, v', names'⟩) := by
  unfold namedGroup at h
  split at h
  · cases h
  · next name rest hname =>
      split at h
      · cases h
      · next hfresh =>
          simp only [Option.some.injEq, Prod.mk.injEq, Input.mk.injEq] at h
          rcases h with ⟨rfl, rfl, rfl, rfl⟩
          simp only [namedGroup, local_readName cs name front hname, if_neg hfresh]

theorem flagGroup_of_append (r r' : List Char)
    (h : flagGroup ⟨r, v, names⟩ (cs ++ closing) = some (o, ⟨front ++ closing, v', names'⟩)) :
    flagGroup ⟨r', v, names⟩ cs = some (o, ⟨front, v', names'⟩) := by
  have hflags {c : Char} {changes : FlagChanges} (hread : readFlags [] false (cs ++ closing) =
      some (changes, (c :: front) ++ closing)) :
      readFlags [] false cs = some (changes, c :: front) :=
    readFlags_of_append (List.cons_ne_nil c front) hread
  unfold flagGroup at h
  split at h
  · next changes rest hread =>
      split at h
      · cases h
      · next hchanges =>
          simp only [Option.some.injEq, Prod.mk.injEq, Input.mk.injEq] at h
          rcases h with ⟨rfl, rfl, rfl, rfl⟩
          simp only [flagGroup, hflags hread, if_neg hchanges]
  · next changes rest hread =>
      simp only [Option.some.injEq, Prod.mk.injEq, Input.mk.injEq] at h
      rcases h with ⟨rfl, rfl, rfl, rfl⟩
      simp only [flagGroup, hflags hread]
  · cases h

/-- A group that is opened in front of the closing is opened the same without it. -/
theorem readOpening_of_append
    (h : readOpening ⟨rest, v, names⟩ = some (o, ⟨front ++ closing, v', names'⟩)) :
    ∃ f, rest = f ++ closing ∧ readOpening ⟨f, v, names⟩ = some (o, ⟨front, v', names'⟩) := by
  rw [readOpening_eq] at h
  dsimp only at h
  have hleft := suffix_of_openingAt h
  rcases exists_front hleft with ⟨g, hg⟩
  obtain ⟨f, rfl, hf⟩ := exists_skip hg
  have hopening : openingAt ⟨f, v, names⟩ g = some (o, ⟨front, v', names'⟩) := by
    rw [hg] at h
    unfold openingAt at h
    split at h
    · cases h
    · cases h
    · cases h
    · cases h
    · next rest hcs =>
        obtain ⟨f₁, rfl, hf₁⟩ := cons_of_append hcs (by decide)
        obtain ⟨f₂, rfl, hf₂⟩ := cons_of_append hf₁.symm (by decide)
        obtain ⟨f₃, rfl, rfl⟩ := cons_of_append hf₂.symm (by decide)
        exact namedGroup_of_append _ _ h
    · next rest hahead hbehind hcs =>
        obtain ⟨f₁, rfl, hf₁⟩ := cons_of_append hcs (by decide)
        obtain ⟨f₂, rfl, rfl⟩ := cons_of_append hf₁.symm (by decide)
        rw [openingAt_name _ (ne_of_append hahead) (ne_of_append hbehind)]
        exact namedGroup_of_append _ _ h
    · next rest hahead hnegated _ _ hnamed hname hcs =>
        obtain ⟨f₁, rfl, rfl⟩ := cons_of_append hcs (by decide)
        rw [openingAt_flags _ fun tail => ⟨ne_of_append hahead tail, ne_of_append hnegated tail,
          ne_of_append hname tail,
          fun hf₁ => hnamed (tail ++ closing) (congrArg (· ++ closing) hf₁)⟩]
        exact flagGroup_of_append _ _ h
    · next hmark =>
        simp only [Option.some.injEq, Prod.mk.injEq, Input.mk.injEq] at h
        rcases h with ⟨rfl, hfront, rfl, rfl⟩
        obtain rfl := List.append_cancel_right hfront
        exact openingAt_group _ (ne_of_append hmark)
  refine ⟨f, rfl, ?_⟩
  rw [readOpening_eq]
  dsimp only
  rw [hf]
  exact hopening

end Openings

section Sequences

variable {input out : Input} {parts branches : List Tree} {t : Tree}

theorem Reads.exists_token (h : Reads input parts branches t out) :
    ∃ next, token? input.verbose input.rest = some next := by
  cases h with
  | stop h => exact ⟨_, h⟩
  | bar h => exact ⟨_, h⟩
  | part h => exact ⟨_, h⟩
  | repeated h => exact ⟨_, h⟩
  | flags h => exact ⟨_, h⟩
  | group h => exact ⟨_, h⟩

-- As for classes the induction goes from the end. It rules the dangling brace out as well:
-- a sequence that has been read has a token at its front, and such a brace gives none.
/-- A sequence that stops in front of the closing is read the same without it. -/
theorem Reads.of_append (h : Reads input parts branches t out) (hout : out.rest = front ++ closing) :
    ∃ f, input.rest = f ++ closing ∧
      Reads { input with rest := f } parts branches t { out with rest := front } := by
  induction h generalizing front with
  | stop h =>
      dsimp only at hout
      subst hout
      obtain ⟨f, hf, halone⟩ := exists_front_of_token (by simp) h
      exact ⟨f, hf, .stop halone⟩
  | bar h _ ih =>
      obtain ⟨g, hg, hbehind⟩ := ih hout
      dsimp only at hg
      subst hg
      obtain ⟨f, hf, halone⟩ := exists_front_of_token (by simp) h
      exact ⟨f, hf, .bar halone hbehind⟩
  | part h hrest ih =>
      obtain ⟨g, hg, hbehind⟩ := ih hout
      dsimp only at hg
      subst hg
      rcases (leaves_token? _ _).exists_front h with ⟨f, hf⟩
      rw [hf] at h
      rcases token_of_append h with halone | ⟨-, hdangling⟩
      · exact ⟨f, hf, .part halone hbehind⟩
      · -- Behind the brace there is no token, but what is behind it has been read.
        obtain ⟨next, hnext⟩ := hrest.exists_token
        have hnone := token?_of_dangling hdangling
        dsimp only at hnext
        rw [hnone] at hnext
        cases hnext
  | repeated h hparts _ ih =>
      obtain ⟨g, hg, hbehind⟩ := ih hout
      dsimp only at hg
      subst hg
      obtain ⟨f, hf, halone⟩ := exists_front_of_token (by simp) h
      exact ⟨f, hf, .repeated halone hparts hbehind⟩
  | @flags _ _ _ _ _ behind _ _ h hopening _ ih =>
      obtain ⟨g, hg, hbehind⟩ := ih hout
      rcases behind with ⟨behind, v', names'⟩
      dsimp only at hg
      subst hg
      obtain ⟨f', rfl, hopen⟩ := readOpening_of_append hopening
      obtain ⟨f, hf, halone⟩ := exists_front_of_token (by simp) h
      exact ⟨f, hf, .flags halone hopen hbehind⟩
  | @group _ _ _ _ _ _ behind _ left _ _ _ h hopening _ hclosed _ ihinner ihrest =>
      obtain ⟨g₂, hg₂, hbehind⟩ := ihrest hout
      dsimp only at hg₂
      subst hg₂
      -- The group ends in front of what is left behind it.
      have hleft : left.rest = (')' :: g₂) ++ closing := hclosed
      obtain ⟨g₁, hg₁, hinner⟩ := ihinner hleft
      rcases behind with ⟨behind, v', names'⟩
      dsimp only at hg₁
      subst hg₁
      obtain ⟨f', rfl, hopen⟩ := readOpening_of_append hopening
      obtain ⟨f, hf, halone⟩ := exists_front_of_token (by simp) h
      exact ⟨f, hf, .group halone hopen hinner rfl hbehind⟩

end Sequences

end Regex

end IrcHarness
