import IrcHarness.Proofs.Pattern.Semantics
import IrcHarness.Proofs.Regex.Closing.Sequences
import IrcHarness.Proofs.Regex.Search
import IrcHarness.Regex.Full

/-!
# Expressions between Anchors

The text of an expression is put between `^(?:` and `)$` and the result is searched for.
If the text is an expression by itself, the group holds just that expression, and the
search finds it exactly in the texts that it matches from the first character to the
last.

A text may also close the group itself and open another one, as in `a)|(?:b`. Such a
text is accepted, since between the anchors its parentheses are balanced, but it is no
expression by itself, and each anchor then belongs to one branch only. Apart from the
limit on the size of an expression, that is all that can go wrong: a text that is
accepted and closes no more than it has opened is an expression by itself.

## Main definitions

* `Regex.meaning?`: The expression that a text means, of whatever size.
* `Regex.closesOutside`: A text closes a group that it has not opened.
* `Regex.Covers`: An expression matches all of a text.

## Theorems

* `read?_of_anchor`: What is read between anchors.
* `occurs_anchored_iff`: What the search between anchors finds.
* `matches_whole`: What an accepted text matches.
-/

namespace IrcHarness

namespace Regex

/-- The expression that a text means, of whatever size. -/
def meaning? (source : List Char) : Option Regex :=
  (Tree.read? source).bind fun t => (Tree.meaning Flags.initial t).map (·.1)

theorem compile?_eq (source : List Char) :
    compile? source = (meaning? source).filter fun r => (form r).fits := by
  unfold compile? meaning?
  cases Tree.read? source with
  | none => rfl
  | some t =>
      dsimp only [Option.bind_some]
      cases Tree.meaning Flags.initial t <;> rfl

/-- Whether reading a text stops at a closing parenthesis that nothing in it has
    opened. -/
def closesOutside (source : List Char) : Bool :=
  match readBranches (source.length + 2) ⟨source, false, []⟩ [] [] with
  | some (_, input) => input.rest.head? = some ')'
  | none => false

/-- A text that closes what it has not opened is no expression by itself. -/
theorem meaning?_of_closesOutside {source : List Char} (h : closesOutside source = true) :
    meaning? source = none := by
  have hread : Tree.read? source = none := by
    cases hbranches : readBranches (source.length + 2) ⟨source, false, []⟩ [] [] with
    | none => rw [Tree.read?, hbranches]
    | some p =>
        rcases p with ⟨t, input⟩
        rw [closesOutside, hbranches] at h
        have hleft : input.rest.head? = some ')' := of_decide_eq_true h
        rw [Tree.read?, hbranches]
        refine if_neg fun hend => ?_
        rw [hend.1] at hleft
        cases hleft
  rw [meaning?, hread]
  rfl

/-- An expression matches a text from its first character to its last. -/
def Covers (r : Regex) (text : List Char) : Prop :=
  Spans text r 0 text.length

end Regex

namespace FullRegex

open Regex

section Reading

variable {cs : List Char} {t whole : Tree} {n : Nat} {input : Input}

/-- The tree of a text between anchors. -/
def anchoredTree (t : Tree) : Tree :=
  .concat [.anchor .caret, .group false [] t, .anchor .dollar]

theorem depth_le_anchoredTree (t : Tree) : t.depth ≤ (anchoredTree t).depth := by
  simp only [anchoredTree, Tree.depth, Tree.depthOf]
  omega

theorem token?_caret (cs : List Char) :
    token? false ('^' :: cs) = some (.part (.anchor .caret), cs) := rfl

theorem token?_dollar (cs : List Char) :
    token? false ('$' :: cs) = some (.part (.anchor .dollar), cs) := rfl

theorem token?_parenthesis (cs : List Char) :
    token? false ('(' :: cs) = some (.opening, cs) := rfl

theorem readOpening_plain (cs : List Char) (names : List (List Char)) :
    readOpening ⟨'?' :: ':' :: cs, false, names⟩ = some (.group false [], ⟨cs, false, names⟩) := rfl

/-- What is put around a text is read as a test, a group of that text, and what is left
    behind the parenthesis that closes the group. -/
theorem readBranches_anchor
    (h : readBranches n ⟨anchor cs, false, []⟩ [] [] = some (whole, input)) :
    ∃ m t inner rest, readBranches m ⟨cs ++ closing, false, []⟩ [] [] = some (t, inner) ∧
      inner.rest = ')' :: rest ∧
      readBranches m ⟨rest, false, inner.names⟩ [.group false [] t, .anchor .caret] [] =
        some (whole, input) := by
  have hanchor : anchor cs = '^' :: '(' :: '?' :: ':' :: (cs ++ closing) := rfl
  rw [hanchor] at h
  match n, h with
  | 0, h => cases h
  | 1, h => cases h
  | m + 2, h =>
      rw [readBranches_succ, token?_caret] at h
      dsimp only at h
      rw [readBranches_succ, token?_parenthesis] at h
      dsimp only at h
      rw [readOpening_plain] at h
      dsimp only at h
      split at h
      · next t inner hinner =>
          split at h
          · next rest hrest => exact ⟨m, t, inner, rest, hinner, hrest, h⟩
          · cases h
      · cases h

theorem readBranches_dollar {names : List (List Char)} {parts : List Tree}
    (h : readBranches n ⟨['$'], false, names⟩ parts [] = some (whole, input)) :
    whole = concatOf (.anchor .dollar :: parts) := by
  match n, h with
  | 0, h => cases h
  | 1, h => cases h
  | m + 2, h =>
      rw [readBranches_succ, token?_dollar] at h
      dsimp only at h
      rw [readBranches_succ] at h
      exact (Prod.mk.inj (Option.some.inj h)).1.symm

/-- A parenthesis in front of the end of the closing is that of the closing or stands
    in front of it. -/
theorem exists_front_of_parenthesis {rest : List Char} (h : ')' :: rest <:+ cs ++ closing) :
    ∃ front, ')' :: rest = front ++ closing := by
  rcases h with ⟨used, h⟩
  rcases List.append_eq_append_iff.1 h with ⟨front, -, hfront⟩ | ⟨inside, -, hclosing⟩
  · exact ⟨front, hfront⟩
  · match inside, hclosing with
    | [], hclosing => exact ⟨[], hclosing.symm⟩
    | [_], hclosing =>
        exact absurd (List.cons.inj (List.cons.inj hclosing).2).1 (by decide)
    | _ :: _ :: _, hclosing =>
        exact absurd (List.cons.inj (List.cons.inj hclosing).2).2.symm
          (List.append_ne_nil_of_right_ne_nil _ (List.cons_ne_nil _ _))

/-- A text that is read between the anchors is read by itself, if its parentheses close
    nothing outside. -/
theorem read?_of_anchor (h : Tree.read? (anchor cs) = some whole)
    (hclosed : closesOutside cs = false) :
    ∃ t, Tree.read? cs = some t ∧ whole = anchoredTree t := by
  unfold Tree.read? at h
  split at h
  · next whole' input hread =>
      split at h
      · next hend =>
          obtain rfl := Option.some.inj h
          obtain ⟨m, t, inner, rest, hinner, hrest, houter⟩ := readBranches_anchor hread
          have hgroup := reads_of_readBranches hinner
          have hleft := hgroup.suffix
          rw [hrest] at hleft
          obtain ⟨front, hfront⟩ := exists_front_of_parenthesis hleft
          obtain ⟨f, hf, hread⟩ := hgroup.of_append (hrest.trans hfront)
          obtain rfl : cs = f := List.append_cancel_right hf
          have halone := hread.readBranches (m := cs.length + 2)
            (Nat.lt_add_of_pos_right (by decide))
          cases front with
          | cons c front =>
              obtain rfl : ')' = c := (List.cons.inj hfront).1
              rw [closesOutside, halone] at hclosed
              cases hclosed
          | nil =>
              obtain rfl : rest = ['$'] := (List.cons.inj hfront).2
              obtain rfl : whole' = anchoredTree t := readBranches_dollar houter
              refine ⟨t, ?_, rfl⟩
              unfold Tree.read?
              rw [halone]
              exact if_pos ⟨rfl, Nat.le_trans (depth_le_anchoredTree t) hend.2⟩
      · cases h
  · cases h

end Reading

section Meaning

variable {text : List Char} {r : Regex}

/-- What an expression means between anchors. -/
def anchoredMeaning (r : Regex) : Regex :=
  .cat (.look .textStart) (.cat r (.cat (.look .textEnd) .empty))

theorem meaning_anchoredTree (t : Tree) :
    (Tree.meaning Flags.initial (anchoredTree t)).map (·.1) =
      ((Tree.meaning Flags.initial t).map (·.1)).map anchoredMeaning := by
  have hgroup : Tree.meaning Flags.initial (.group false [] t) =
      (Tree.meaning Flags.initial t).map fun p => (p.1, Flags.initial) := by
    rw [Tree.meaning]
    rfl
  have hsequence : Tree.meaning Flags.initial (anchoredTree t) =
      (Tree.meaning Flags.initial t).map fun p => (anchoredMeaning p.1, Flags.initial) := by
    rw [anchoredTree, Tree.meaning, Tree.sequenceMeaning, Tree.meaning]
    dsimp only
    rw [Tree.sequenceMeaning, hgroup]
    cases Tree.meaning Flags.initial t with
    | none => rfl
    | some p =>
        dsimp only [Option.map_some]
        rw [Tree.sequenceMeaning, Tree.meaning]
        dsimp only
        rw [Tree.sequenceMeaning]
        rfl
  rw [hsequence, Option.map_map, Option.map_map]
  rfl

theorem spans_textStart_iff {i j : Nat} :
    Spans text (.look .textStart) i j ↔ i = j ∧ i = 0 := by
  constructor
  · intro h
    cases h with
    | look h hl =>
        refine ⟨rfl, Nat.eq_zero_of_not_pos fun hpos => ?_⟩
        have hbefore : before? text i = text[i - 1]? := if_neg (Nat.ne_of_gt hpos)
        have hnone : before? text i = none := of_decide_eq_true hl
        rw [hbefore, List.getElem?_eq_none_iff] at hnone
        omega
  · rintro ⟨rfl, rfl⟩
    exact .look (Nat.zero_le _) rfl

theorem spans_textEnd_iff {i j : Nat} :
    Spans text (.look .textEnd) i j ↔ i = j ∧ i = text.length := by
  constructor
  · intro h
    cases h with
    | look h hl =>
        have hnone : text[i]? = none := of_decide_eq_true hl
        exact ⟨rfl, Nat.le_antisymm h (List.getElem?_eq_none_iff.1 hnone)⟩
  · rintro ⟨rfl, rfl⟩
    refine .look (Nat.le_refl _) ?_
    rw [List.getElem?_eq_none (Nat.le_refl _)]
    rfl

theorem spans_cat_iff {a b : Regex} {i k : Nat} :
    Spans text (.cat a b) i k ↔ ∃ j, Spans text a i j ∧ Spans text b j k := by
  constructor
  · intro h
    cases h with
    | cat ha hb => exact ⟨_, ha, hb⟩
  · rintro ⟨j, ha, hb⟩
    exact .cat ha hb

/-- The search for an expression between anchors finds it exactly in the texts that it
    covers. -/
theorem occurs_anchored_iff : Occurs text (anchoredMeaning r) ↔ r.Covers text := by
  constructor
  · rintro ⟨i, j, h⟩
    obtain ⟨_, hstart, h⟩ := spans_cat_iff.1 h
    obtain ⟨_, hr, h⟩ := spans_cat_iff.1 h
    obtain ⟨_, hend, -⟩ := spans_cat_iff.1 h
    obtain ⟨rfl, rfl⟩ := spans_textStart_iff.1 hstart
    obtain ⟨-, rfl⟩ := spans_textEnd_iff.1 hend
    exact hr
  · intro h
    have hstart : Spans text (.look .textStart) 0 0 := spans_textStart_iff.2 ⟨rfl, rfl⟩
    have hend : Spans text (.look .textEnd) text.length text.length :=
      spans_textEnd_iff.2 ⟨rfl, rfl⟩
    exact ⟨0, text.length, .cat hstart (.cat h (.cat hend (.empty (Nat.le_refl _))))⟩

end Meaning

variable {source : String} {f : FullRegex}

/-- The expression between anchors is that of the text by itself, between tests for the
    ends of a text. -/
theorem exists_meaning_of_compile? (h : compile? source = some f)
    (hclosed : closesOutside source.toList = false) :
    ∃ r, meaning? source.toList = some r ∧ f.anchored = anchoredMeaning r := by
  rcases Option.map_eq_some_iff.1 h with ⟨anchored, hcompile, rfl⟩
  rw [compile?_eq, Option.filter_eq_some_iff] at hcompile
  obtain ⟨whole, hread, hmeaning⟩ := Option.bind_eq_some_iff.1 hcompile.1
  obtain ⟨t, halone, rfl⟩ := read?_of_anchor hread hclosed
  rw [meaning_anchoredTree] at hmeaning
  obtain ⟨r, hr, hanchored⟩ := Option.map_eq_some_iff.1 hmeaning
  refine ⟨r, ?_, hanchored.symm⟩
  rw [meaning?, halone]
  exact hr

/-- A text that is accepted either closes what it has not opened, and then it is no
    expression by itself, or it is an expression and matches exactly the texts that the
    expression covers from end to end. The texts that a pattern accepts are those, and
    the negated pattern accepts the others. -/
theorem matches_whole (h : compile? source = some f) :
    (closesOutside source.toList = true → meaning? source.toList = none) ∧
    (closesOutside source.toList = false → ∃ r, meaning? source.toList = some r ∧
      (∀ text, f.matches text = true ↔ r.Covers text.toList) ∧
      ∀ address text, Pattern.check address (some (.string text)) (.regex f) = none ↔
        r.Covers text.toList) ∧
    ∀ address text, Pattern.check address (some (.string text)) (.notRegex f) = none ↔
      Pattern.check address (some (.string text)) (.regex f) ≠ none := by
  have hregex (address : Address) (text : String) :
      Pattern.check address (some (.string text)) (.regex f) = none ↔ f.matches text = true := by
    rw [Pattern.semantics_satisfies.check_iff, Pattern.semantics_satisfies.regex]
    simp only [Json.string.injEq, exists_eq_left']
  refine ⟨meaning?_of_closesOutside, fun hclosed => ?_, fun address text => ?_⟩
  · obtain ⟨r, hr, hanchored⟩ := exists_meaning_of_compile? h hclosed
    have hmatches (text : String) : f.matches text = true ↔ r.Covers text.toList := by
      rw [FullRegex.matches, hanchored, occurs_iff]
      exact occurs_anchored_iff
    exact ⟨r, hr, hmatches, fun address text => (hregex address text).trans (hmatches text)⟩
  · rw [ne_eq, hregex, Pattern.semantics_satisfies.check_iff, Pattern.semantics_satisfies.notRegex]
    simp only [Json.string.injEq, exists_eq_left', Bool.not_eq_true]

/-- A choice is taken as a whole: its branches are not anchored one by one. -/
theorem matches_whole_choice : ∃ f r, compile? "a|bc" = some f ∧
    meaning? "a|bc".toList = some r ∧ r.Covers "bc".toList ∧ ¬ r.Covers "ac".toList := by
  have hcompile : compile? "a|bc" = some ⟨"a|bc", anchoredMeaning
      (.alt (.chars ⟨[(97, 97)]⟩) (.alt
        (.cat (.chars ⟨[(98, 98)]⟩) (.cat (.chars ⟨[(99, 99)]⟩) .empty))
        (.chars ⟨[]⟩)))⟩ := by cbv
  obtain ⟨r, hr, hmatches, -⟩ := (matches_whole hcompile).2.1 (by decide)
  exact ⟨_, r, hcompile, hr, (hmatches "bc").1 (by decide),
    fun hcovers => absurd ((hmatches "ac").2 hcovers) (by decide)⟩

/-- A text that closes the group and opens another one is accepted, though it is no
    expression, and it matches a text of which only the front is right. -/
theorem accepts_closed_group : ∃ f, compile? "a)|(?:b" = some f ∧
    meaning? "a)|(?:b".toList = none ∧ f.matches "ax" = true := by
  have hcompile : compile? "a)|(?:b" = some ⟨"a)|(?:b",
      .alt (.cat (.look .textStart) (.cat (.chars ⟨[(97, 97)]⟩) .empty))
        (.alt (.cat (.chars ⟨[(98, 98)]⟩) (.cat (.look .textEnd) .empty))
          (.chars ⟨[]⟩))⟩ := by cbv
  exact ⟨_, hcompile, by decide, by decide⟩

end FullRegex

end IrcHarness
