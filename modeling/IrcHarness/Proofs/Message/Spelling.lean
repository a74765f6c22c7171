import IrcHarness.Proofs.Message.Grammar

/-!
# Spellings of Parameters

There are many ways to write the same parameters. The gap in front of each may be as wide
as one likes, the last one may have a colon that it does not need, and where it has none
there may be blanks at the end. A `Spelling` is one such choice. It is only there for
parameters that can be written: all but the last are words, and the last one has its colon
when it is none.

Reading does not see the choice, and there is nothing else that it does not see: a text is
one of the spellings of the parameters that are read from it. The grammar of parameters
stands between the two. A spelling is all choices at once, and the grammar takes them one
parameter at a time, as a text is read.

## Main definitions

* `Message.spell`: Parameters behind their gaps.
* `Message.Spelling`: A choice of how to write parameters.
* `Message.Spelling.text`: The parameters as they are written then.

## Theorems

* `paramsText_spell`, `paramsText_spelling`: A spelling is a text of the grammar.
* `exists_spelling`: A text of the grammar is a spelling.
* `spelling_makes_no_difference`: Reading undoes each spelling, and nothing is lost but the
  choice.
-/

namespace IrcHarness

namespace Message

/-- Parameters, each behind its gap. Blanks behind a colon would belong to the last
    parameter, so there are none at the end then. -/
def spell (colon : Bool) (extra : Nat) : List (Nat × List Char) → List Char
  | [] => blanks extra
  | [(gap, last)] => blanks gap ++ if colon then ':' :: last else last ++ blanks extra
  | (gap, p) :: q :: rest => blanks gap ++ (p ++ spell colon extra (q :: rest))

/-- A choice of how to write parameters. -/
structure Spelling (params : List (List Char)) where
  /-- How many blanks stand in front of each parameter. -/
  gaps : List Nat
  /-- Whether the last parameter has a colon. -/
  colon : Bool
  /-- How many blanks stand at the end when there is no colon. -/
  extra : Nat
  /-- There is one gap for each parameter. -/
  length_gaps : gaps.length = params.length
  /-- Each gap is at least one blank wide. -/
  gaps_pos : ∀ gap ∈ gaps, 0 < gap
  /-- All parameters but the last are words that need no colon. -/
  words : ∀ p ∈ params.dropLast, needsColon p = false
  /-- The last parameter has its colon when it needs one. -/
  colon_of_needsColon : ∀ last ∈ params.getLast?, needsColon last = true → colon = true

/-- The parameters as they are written then. -/
def Spelling.text {params : List (List Char)} (s : Spelling params) : List Char :=
  spell s.colon s.extra (s.gaps.zip params)

variable {params : List (List Char)} {text : List Char}

/-- A word goes in front of other parameters, with a gap before it. -/
theorem ParamsText.cons_of_needsColon {p rest : List Char} (hp : needsColon p = false)
    {gap : Nat} (hgap : 0 < gap) (h : ParamsText rest params) :
    ParamsText (blanks gap ++ (p ++ rest)) (p :: params) := by
  rcases (needsColon_eq_false_iff p).1 hp with ⟨hne, hblank, hcolon⟩
  rcases Nat.exists_eq_add_one.2 hgap with ⟨n, rfl⟩
  exact .word n hne hblank hcolon h

/-- Parameters behind their gaps are a text of the grammar. -/
theorem paramsText_spell {colon : Bool} {extra : Nat} {written : List (Nat × List Char)}
    (hgaps : ∀ w ∈ written, 0 < w.1)
    (hwords : ∀ p ∈ (written.map Prod.snd).dropLast, needsColon p = false)
    (hcolon : ∀ last ∈ (written.map Prod.snd).getLast?, needsColon last = true → colon = true) :
    ParamsText (spell colon extra written) (written.map Prod.snd) := by
  fun_induction spell colon extra written with
  | case1 => exact .done extra
  | case2 gap last =>
      have hgap := hgaps (gap, last) List.mem_cons_self
      -- With a colon the last parameter may be anything, and without one it is a word.
      cases colon with
      | true =>
          rcases Nat.exists_eq_add_one.2 hgap with ⟨n, rfl⟩
          exact .trailing n last
      | false =>
          have hlast : needsColon last = false := by
            rw [← Bool.not_eq_true]
            exact fun hneeded => Bool.false_ne_true (hcolon last rfl hneeded)
          exact .cons_of_needsColon hlast hgap (.done extra)
  | case3 gap p q rest ih =>
      have hrest := ih (fun w hw => hgaps w (List.mem_cons_of_mem _ hw))
        (fun r hr => hwords r (List.mem_cons_of_mem p hr)) hcolon
      exact .cons_of_needsColon (hwords p List.mem_cons_self) (hgaps _ List.mem_cons_self) hrest

/-- A spelling is a text of the grammar. -/
theorem paramsText_spelling (s : Spelling params) : ParamsText s.text params := by
  have hparams : (s.gaps.zip params).map Prod.snd = params :=
    List.map_snd_zip (Nat.le_of_eq s.length_gaps.symm)
  have hgaps : ∀ w ∈ s.gaps.zip params, 0 < w.1 := fun w hw =>
    s.gaps_pos w.1 (List.of_mem_zip hw).1
  have htext : ParamsText s.text ((s.gaps.zip params).map Prod.snd) :=
    paramsText_spell hgaps (by rw [hparams]; exact s.words)
      (by rw [hparams]; exact s.colon_of_needsColon)
  rwa [hparams] at htext

/-- A text of the grammar is a spelling. -/
theorem exists_spelling (h : ParamsText text params) : ∃ s : Spelling params, s.text = text := by
  induction h with
  | done n => exact ⟨⟨[], false, n, rfl, by simp, by simp, by simp⟩, rfl⟩
  | trailing n rest =>
      exact ⟨⟨[n + 1], true, 0, rfl, by simp, by simp, fun _ _ _ => rfl⟩, rfl⟩
  | @word n w rest params hne hblank hcolon h ih =>
      have hw : needsColon w = false := (needsColon_eq_false_iff w).2 ⟨hne, hblank, hcolon⟩
      rcases ih with ⟨⟨gaps, colon, extra, hlength, hgaps, hwords, hneeds⟩, rfl⟩
      cases params with
      | nil =>
          -- Without parameters there are only blanks, and they now stand at the end.
          refine ⟨⟨[n + 1], false, extra, rfl, by simp, by simp, ?_⟩, ?_⟩
          · intro last hlast hneeded
            have hlast : w = last := Option.some.inj hlast
            rw [← hlast, hw] at hneeded
            exact absurd hneeded Bool.false_ne_true
          · rw [Spelling.text, Spelling.text, List.zip_nil_right]
            rfl
      | cons q more =>
          cases gaps with
          | nil => cases hlength
          | cons gap gaps =>
              refine ⟨⟨(n + 1) :: gap :: gaps, colon, extra, congrArg (· + 1) hlength,
                List.forall_mem_cons.2 ⟨Nat.succ_pos n, hgaps⟩,
                List.forall_mem_cons.2 ⟨hw, hwords⟩, hneeds⟩, rfl⟩

/-- However parameters are spelled, reading gives them back. And the texts that are empty
    or start with a blank are those that are a spelling of what is read from them. -/
theorem spelling_makes_no_difference :
    (∀ params, ∀ s : Spelling params, splitParams s.text = params) ∧
      ∀ text, (∃ s : Spelling (splitParams text), s.text = text) ↔
        text = [] ∨ text.head? = some ' ' := by
  refine ⟨fun params s => splitParams_of_paramsText (paramsText_spelling s), fun text => ?_⟩
  constructor
  · rintro ⟨s, htext⟩
    have hends := (paramsText_spelling s).ends
    rwa [htext] at hends
  · intro h
    exact exists_spelling (paramsText_splitParams text h)

/-- Wide gaps and blanks at the end, and a colon that is not needed. -/
theorem spelling_makes_no_difference_wide_gaps :
    splitParams "  #chan   a:b x  ".toList = ["#chan".toList, "a:b".toList, "x".toList] ∧
      splitParams " #chan a:b  :x".toList = ["#chan".toList, "a:b".toList, "x".toList] := by
  rcases spelling_makes_no_difference with ⟨hread, _⟩
  refine ⟨?_, ?_⟩
  · exact hread ["#chan".toList, "a:b".toList, "x".toList]
      ⟨[2, 3, 1], false, 2, rfl, by decide, by decide, by decide⟩
  · exact hread ["#chan".toList, "a:b".toList, "x".toList]
      ⟨[1, 1, 2], true, 0, rfl, by decide, by decide, by decide⟩

end Message

end IrcHarness
