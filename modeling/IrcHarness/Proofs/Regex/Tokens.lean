import IrcHarness.Proofs.Regex.Remainder

/-!
# One Token at a Time

The two readers that go on for long, that of a class and that of a sequence, look
at the next character and then do one of several things. Here this look is a
function of its own, which gives a token and what is left behind it. What the
readers do with a token is then one equation for each of them, and what holds of a
text in front of a token does not have to be said for each character.

The readers count their steps down, and how far they count plays no part in what is
read, as long as it is further than the text is long. So each of them has a relation
that says what is read without counting, with one rule for each token
(`ReadsClass`, `Reads`), and induction on these is how the readers are reasoned about.

## Main definitions

* `Regex.classToken?`, `Regex.token?`: The next token of a class, and of a sequence.
* `Regex.ReadsClass`, `Regex.Reads`: What is read of a class, and of a sequence.

## Theorems

* `readClassBody_succ`, `readBranches_succ`: The readers go token by token.
* `readsClass_of_readClassBody`, `reads_of_readBranches`: What the readers give is read.
* `ReadsClass.readClassBody`, `Reads.readBranches`: The readers give what is read.
* `ReadsClass.suffix`: A class ends with its bracket.
* `Reads.suffix`: A sequence leaves an end of its text.
-/

namespace IrcHarness

namespace Regex

variable {cs rest : List Char} {v : Bool}

section Classes

/-- What comes next in a class. -/
inductive ClassToken where
  /-- The bracket that closes it. -/
  | close
  /-- An operator. -/
  | op (kind : ClassOp)
  /-- A part. -/
  | part (c : ClassTree)
  /-- The bracket that opens a class within the class. -/
  | bracket

/-- The token at the front of a class, and what is left behind it. -/
def classTokenAt (v : Bool) : List Char → Option (ClassToken × List Char)
  | [] => none
  | ']' :: rest => some (.close, rest)
  | '&' :: '&' :: rest => some (.op .inter, rest)
  | '-' :: '-' :: rest => some (.op .diff, rest)
  | '~' :: '~' :: rest => some (.op .symmDiff, rest)
  | '[' :: rest =>
    match readNamedClass rest with
    | some (part, rest) => some (.part part, rest)
    | none => some (.bracket, rest)
  | rest => (readClassPart v rest).map fun r => (.part r.1, r.2)

theorem classTokenAt_bracket (v : Bool) (cs : List Char) :
    classTokenAt v ('[' :: cs) =
      match readNamedClass cs with
      | some (part, rest) => some (.part part, rest)
      | none => some (.bracket, cs) := rfl

/-- The next token of a class. -/
def classToken? (v : Bool) (cs : List Char) : Option (ClassToken × List Char) :=
  classTokenAt v (skip v cs)

/-- A class is read token by token. -/
theorem readClassBody_succ (v : Bool) (fuel : Nat) (pending : Option (ClassOp × ClassTree))
    (parts : List ClassTree) (cs : List Char) :
    readClassBody v (fuel + 1) pending parts cs =
      match classToken? v cs with
      | none => none
      | some (.close, rest) => some (joinOp pending (unionOf parts.reverse), rest)
      | some (.op kind, rest) =>
        readClassBody v fuel (some (kind, joinOp pending (unionOf parts.reverse))) [] rest
      | some (.part c, rest) => readClassBody v fuel pending (c :: parts) rest
      | some (.bracket, rest) =>
        match readClassFront v rest with
        | none => none
        | some (negated, front, rest) =>
          match readClassBody v fuel none front.reverse rest with
          | none => none
          | some (inner, rest) =>
            readClassBody v fuel pending (.bracketed inner negated :: parts) rest := by
  rw [readClassBody, classToken?]
  generalize skip v cs = next
  split
  · rfl
  · rfl
  · rfl
  · rfl
  · rfl
  · next rest =>
      rw [classTokenAt_bracket]
      cases readNamedClass rest <;> rfl
  · have hpart : classTokenAt v next = (readClassPart v next).map fun r => (.part r.1, r.2) := by
      unfold classTokenAt
      split
      all_goals first | rfl | (exfalso; simp_all)
    rw [hpart]
    cases readClassPart v next <;> rfl

/-- A token takes at least one character. -/
theorem leaves_classTokenAt (v : Bool) (cs : List Char) :
    Leaves cs.tail (classTokenAt v cs) := by
  unfold classTokenAt
  split
  · exact leaves_none
  · exact leaves_some (List.suffix_refl _)
  · exact leaves_some (List.suffix_cons _ _)
  · exact leaves_some (List.suffix_cons _ _)
  · exact leaves_some (List.suffix_cons _ _)
  · next rest =>
      have hnamed := leaves_readNamedClass rest
      split
      · next part rest' h => exact leaves_some (hnamed part rest' h)
      · exact leaves_some (List.suffix_refl _)
  · exact (leaves_readClassPart v _).map _ fun _ => rfl

theorem leaves_classToken? (v : Bool) (cs : List Char) :
    Leaves (skip v cs).tail (classToken? v cs) :=
  leaves_classTokenAt v _

theorem length_lt_of_classToken? {token : ClassToken} (h : classToken? v cs = some (token, rest)) :
    rest.length < cs.length := by
  have hleft := (leaves_classToken? v cs token rest h).length_le
  have hskip := (skip_suffix v cs).length_le
  rw [classToken?] at h
  cases hnext : skip v cs with
  | nil =>
      rw [hnext] at h
      cases h
  | cons c tail =>
      rw [hnext] at hleft hskip
      exact Nat.lt_of_le_of_lt hleft hskip

theorem eq_of_close (h : classTokenAt v cs = some (.close, rest)) : cs = ']' :: rest := by
  unfold classTokenAt at h
  split at h
  · cases h
  · next rest' =>
      rw [Option.some.injEq, Prod.mk.injEq] at h
      rw [h.2]
  · cases h
  · cases h
  · cases h
  · split at h
    · cases h
    · cases h
  · rcases Option.map_eq_some_iff.1 h with ⟨r, _, hr⟩
    cases hr

theorem suffix_of_classToken? {token : ClassToken} (h : classToken? v cs = some (token, rest)) :
    rest <:+ cs :=
  ((leaves_classToken? v cs token rest h).trans (List.tail_suffix _)).trans (skip_suffix v cs)

/-- What is read of a class up to its bracket, given the operator in front and the parts
    behind it. -/
inductive ReadsClass (v : Bool) : Option (ClassOp × ClassTree) → List ClassTree → List Char →
    ClassTree → List Char → Prop where
  /-- The bracket. -/
  | close {pending parts cs rest} (h : classToken? v cs = some (.close, rest)) :
      ReadsClass v pending parts cs (joinOp pending (unionOf parts.reverse)) rest
  /-- An operator. -/
  | op {pending parts cs kind rest t out} (h : classToken? v cs = some (.op kind, rest))
      (hrest : ReadsClass v (some (kind, joinOp pending (unionOf parts.reverse))) [] rest t out) :
      ReadsClass v pending parts cs t out
  /-- A part. -/
  | part {pending parts cs c rest t out} (h : classToken? v cs = some (.part c, rest))
      (hrest : ReadsClass v pending (c :: parts) rest t out) : ReadsClass v pending parts cs t out
  /-- A class within the class. -/
  | bracket {pending parts cs rest negated members behind inner left t out}
      (h : classToken? v cs = some (.bracket, rest))
      (hfront : readClassFront v rest = some (negated, members, behind))
      (hinner : ReadsClass v none members.reverse behind inner left)
      (hrest : ReadsClass v pending (.bracketed inner negated :: parts) left t out) :
      ReadsClass v pending parts cs t out

variable {pending : Option (ClassOp × ClassTree)} {parts : List ClassTree} {t : ClassTree}

theorem readsClass_of_readClassBody {n : Nat}
    (h : readClassBody v n pending parts cs = some (t, rest)) :
    ReadsClass v pending parts cs t rest := by
  induction n generalizing pending parts cs t rest with
  | zero => cases h
  | succ n ih =>
      rw [readClassBody_succ] at h
      cases htoken : classToken? v cs with
      | none =>
          rw [htoken] at h
          cases h
      | some next =>
          rcases next with ⟨token, behind⟩
          rw [htoken] at h
          cases token with
          | close =>
              obtain ⟨rfl, rfl⟩ := Prod.mk.inj (Option.some.inj h)
              exact .close htoken
          | op kind => exact .op htoken (ih h)
          | part c => exact .part htoken (ih h)
          | bracket =>
              dsimp only at h
              split at h
              · cases h
              · next negated members behind hfront =>
                  split at h
                  · cases h
                  · next inner left hinner => exact .bracket htoken hfront (ih hinner) (ih h)

/-- A class ends with the bracket that closes it. -/
theorem ReadsClass.suffix (h : ReadsClass v pending parts cs t rest) : ']' :: rest <:+ cs := by
  induction h with
  | @close _ _ cs _ h =>
      rw [← eq_of_close h]
      exact skip_suffix v cs
  | op h _ ih => exact ih.trans (suffix_of_classToken? h)
  | part h _ ih => exact ih.trans (suffix_of_classToken? h)
  | bracket h hfront _ _ ihinner ihrest =>
      have hbody := ihrest.trans ((List.suffix_cons ']' _).trans ihinner)
      exact (hbody.trans (suffix_of_readClassFront hfront)).trans (suffix_of_classToken? h)

-- Each token lowers the count by one and takes at least one character, so the count stays
-- ahead of the text; behind a class within the class it is ahead by even more.
/-- The reader gives what is read, if it counts further than the text is long. -/
theorem ReadsClass.readClassBody (h : ReadsClass v pending parts cs t rest) {m : Nat}
    (hm : cs.length < m) : readClassBody v m pending parts cs = some (t, rest) := by
  induction h generalizing m with
  | close h =>
      obtain ⟨m, rfl⟩ := Nat.exists_eq_succ_of_ne_zero (Nat.ne_zero_of_lt hm)
      rw [readClassBody_succ, h]
  | op h _ ih =>
      obtain ⟨m, rfl⟩ := Nat.exists_eq_succ_of_ne_zero (Nat.ne_zero_of_lt hm)
      rw [readClassBody_succ, h]
      exact ih (Nat.lt_of_lt_of_le (length_lt_of_classToken? h) (Nat.le_of_lt_succ hm))
  | part h _ ih =>
      obtain ⟨m, rfl⟩ := Nat.exists_eq_succ_of_ne_zero (Nat.ne_zero_of_lt hm)
      rw [readClassBody_succ, h]
      exact ih (Nat.lt_of_lt_of_le (length_lt_of_classToken? h) (Nat.le_of_lt_succ hm))
  | bracket h hfront hinner _ ihinner ihrest =>
      obtain ⟨m, rfl⟩ := Nat.exists_eq_succ_of_ne_zero (Nat.ne_zero_of_lt hm)
      have hopen := (suffix_of_readClassFront hfront).length_le
      have hclosed := hinner.suffix.length_le
      have hshorter := length_lt_of_classToken? h
      rw [List.length_cons] at hclosed
      rw [readClassBody_succ, h]
      dsimp only
      rw [hfront]
      dsimp only
      rw [ihinner (by omega)]
      exact ihrest (by omega)

theorem leaves_readClass (v : Bool) (cs : List Char) : Leaves cs (readClass v cs) := by
  unfold readClass
  split
  · exact leaves_none
  · next negated front rest hfront =>
      refine Leaves.map ?_ _ fun _ => rfl
      intro t rest' h
      have hbody := (List.suffix_cons ']' rest').trans (readsClass_of_readClassBody h).suffix
      exact hbody.trans (suffix_of_readClassFront hfront)

end Classes

section Sequences

/-- What comes next in a sequence. -/
inductive Token where
  /-- The end of the group or of the text. -/
  | stop
  /-- The bar in front of another branch. -/
  | bar
  /-- An opening parenthesis. -/
  | opening
  /-- A part. -/
  | part (t : Tree)
  /-- The bounds of a repetition, and whether a question mark is behind them. -/
  | repeated (least : Nat) (most : Option Nat) (marked : Bool)

/-- A repetition, behind its bounds. -/
def repetition (least : Nat) (most : Option Nat) (cs : List Char) : Token × List Char :=
  (.repeated least most (readMark cs).1, (readMark cs).2)

/-- The token at the front of a sequence, and what is left behind it. -/
def tokenAt (v : Bool) : List Char → Option (Token × List Char)
  | [] => some (.stop, [])
  | ')' :: rest => some (.stop, ')' :: rest)
  | '|' :: rest => some (.bar, rest)
  | '(' :: rest => some (.opening, rest)
  | '[' :: rest => (readClass v rest).map fun r => (.part (.chars r.1), r.2)
  | '?' :: rest => some (repetition 0 (some 1) rest)
  | '*' :: rest => some (repetition 0 none rest)
  | '+' :: rest => some (repetition 1 none rest)
  | '\x7b' :: rest => (readCount v rest).map fun r => repetition r.1.1 r.1.2 (skip v r.2)
  | rest => (readAtom v rest).map fun r => (.part (atomTree r.1), r.2)

/-- The next token of a sequence. -/
def token? (v : Bool) (cs : List Char) : Option (Token × List Char) :=
  tokenAt v (skip v cs)

theorem tokenAt_class (v : Bool) (rest : List Char) :
    tokenAt v ('[' :: rest) = (readClass v rest).map fun r => (.part (.chars r.1), r.2) := rfl

theorem tokenAt_count (v : Bool) (rest : List Char) :
    tokenAt v ('\x7b' :: rest) =
      (readCount v rest).map fun r => repetition r.1.1 r.1.2 (skip v r.2) := rfl

/-- A sequence is read token by token. -/
theorem readBranches_succ (fuel : Nat) (input : Input) (parts branches : List Tree) :
    readBranches (fuel + 1) input parts branches =
      match token? input.verbose input.rest with
      | none => none
      | some (.stop, rest) =>
        some (alternationOf (concatOf parts :: branches), { input with rest })
      | some (.bar, rest) =>
        readBranches fuel { input with rest } [] (concatOf parts :: branches)
      | some (.opening, rest) =>
        match readOpening { input with rest } with
        | none => none
        | some (.flags changes, input) =>
          readBranches fuel { input with verbose := applyTo changes .verbose input.verbose }
            (.flags changes :: parts) branches
        | some (.group captures changes, inner) =>
          match readBranches fuel
              { inner with verbose := applyTo changes .verbose inner.verbose } [] [] with
          | some (t, inner') =>
            match inner'.rest with
            | ')' :: rest =>
              readBranches fuel { inner' with rest, verbose := inner.verbose }
                (.group captures changes t :: parts) branches
            | _ => none
          | none => none
      | some (.part t, rest) => readBranches fuel { input with rest } (t :: parts) branches
      | some (.repeated least most marked, rest) =>
        match repeatLast least most marked parts with
        | none => none
        | some parts => readBranches fuel { input with rest } parts branches := by
  rw [readBranches, token?]
  generalize skip input.verbose input.rest = next
  split
  · rfl
  · rfl
  · rfl
  · rfl
  · rw [tokenAt_class]
    cases readClass input.verbose _ <;> rfl
  · rfl
  · rfl
  · rfl
  · rw [tokenAt_count]
    cases readCount input.verbose _ <;> rfl
  · have hatom : tokenAt input.verbose next =
        (readAtom input.verbose next).map fun r => (.part (atomTree r.1), r.2) := by
      unfold tokenAt
      split
      all_goals first | rfl | (exfalso; simp_all)
    rw [hatom]
    cases readAtom input.verbose next <;> rfl

theorem leaves_repetition (least : Nat) (most : Option Nat) (cs : List Char) :
    Leaves cs (some (repetition least most cs)) :=
  leaves_some (readMark_suffix cs)

/-- What stops a sequence is left, and any other token takes at least one character. -/
theorem tokenAt_cases {token : Token} (h : tokenAt v cs = some (token, rest)) :
    (token = .stop ∧ rest = cs) ∨ rest <:+ cs.tail := by
  have hrepetition {least most ds} (hds : some (repetition least most ds) = some (token, rest)) :
      rest <:+ ds := leaves_repetition least most ds token rest hds
  unfold tokenAt at h
  split at h
  · rw [Option.some.injEq, Prod.mk.injEq] at h
    exact .inl ⟨h.1.symm, h.2.symm⟩
  · rw [Option.some.injEq, Prod.mk.injEq] at h
    exact .inl ⟨h.1.symm, h.2.symm⟩
  · exact .inr (leaves_some (List.suffix_refl _) _ _ h)
  · exact .inr (leaves_some (List.suffix_refl _) _ _ h)
  · exact .inr ((leaves_readClass v _).map (fun r => (Token.part (.chars r.1), r.2))
      (fun _ => rfl) _ _ h)
  · exact .inr (hrepetition h)
  · exact .inr (hrepetition h)
  · exact .inr (hrepetition h)
  · next ds =>
      rcases Option.map_eq_some_iff.1 h with ⟨⟨bounds, rest'⟩, hcount, heq⟩
      have hmark := hrepetition (congrArg some heq)
      have hleft := leaves_readCount v ds bounds rest' hcount
      exact .inr ((hmark.trans (skip_suffix v rest')).trans hleft)
  · exact .inr ((leaves_readAtom v _).map (fun r => (Token.part (atomTree r.1), r.2))
      (fun _ => rfl) _ _ h)

theorem leaves_tokenAt (v : Bool) (cs : List Char) : Leaves cs (tokenAt v cs) := by
  intro token rest h
  rcases tokenAt_cases h with ⟨-, hrest⟩ | hrest
  · exact hrest ▸ List.suffix_refl rest
  · exact hrest.trans (List.tail_suffix _)

theorem leaves_token? (v : Bool) (cs : List Char) : Leaves cs (token? v cs) :=
  (leaves_tokenAt v _).mono (skip_suffix v cs)

theorem length_lt_of_token? {token : Token} (h : token? v cs = some (token, rest))
    (hstop : token ≠ .stop) : rest.length < cs.length := by
  rcases tokenAt_cases h with ⟨hsame, -⟩ | hleft
  · exact absurd hsame hstop
  · have hskip := (skip_suffix v cs).length_le
    have hrest := hleft.length_le
    cases hnext : skip v cs with
    | nil =>
        rw [token?, hnext] at h
        exact absurd (Prod.mk.inj (Option.some.inj h)).1.symm hstop
    | cons c tail =>
        rw [hnext] at hrest hskip
        exact Nat.lt_of_le_of_lt hrest hskip

/-- What is read of a sequence up to the end of its group or of the text, given the parts
    of the last branch and the branches in front of it. -/
inductive Reads : Input → List Tree → List Tree → Tree → Input → Prop where
  /-- The end. -/
  | stop {input parts branches rest} (h : token? input.verbose input.rest = some (.stop, rest)) :
      Reads input parts branches (alternationOf (concatOf parts :: branches)) { input with rest }
  /-- A bar. -/
  | bar {input parts branches rest t out} (h : token? input.verbose input.rest = some (.bar, rest))
      (hrest : Reads { input with rest } [] (concatOf parts :: branches) t out) :
      Reads input parts branches t out
  /-- A part. -/
  | part {input parts branches p rest t out}
      (h : token? input.verbose input.rest = some (.part p, rest))
      (hrest : Reads { input with rest } (p :: parts) branches t out) :
      Reads input parts branches t out
  /-- A repetition of the last part. -/
  | repeated {input parts parts' branches least most marked rest t out}
      (h : token? input.verbose input.rest = some (.repeated least most marked, rest))
      (hparts : repeatLast least most marked parts = some parts')
      (hrest : Reads { input with rest } parts' branches t out) : Reads input parts branches t out
  /-- Flags that hold from here on. -/
  | flags {input parts branches rest changes behind t out}
      (h : token? input.verbose input.rest = some (.opening, rest))
      (hopening : readOpening { input with rest } = some (.flags changes, behind))
      (hrest : Reads { behind with verbose := applyTo changes .verbose behind.verbose }
        (.flags changes :: parts) branches t out) : Reads input parts branches t out
  /-- A group. -/
  | group {input parts branches rest captures changes behind inner left closed t out}
      (h : token? input.verbose input.rest = some (.opening, rest))
      (hopening : readOpening { input with rest } = some (.group captures changes, behind))
      (hinner : Reads { behind with verbose := applyTo changes .verbose behind.verbose } [] []
        inner left)
      (hclosed : left.rest = ')' :: closed)
      (hrest : Reads { left with rest := closed, verbose := behind.verbose }
        (.group captures changes inner :: parts) branches t out) : Reads input parts branches t out

variable {input out : Input} {parts branches : List Tree} {t : Tree}

theorem reads_of_readBranches {n : Nat}
    (h : readBranches n input parts branches = some (t, out)) :
    Reads input parts branches t out := by
  induction n generalizing input parts branches t out with
  | zero => cases h
  | succ n ih =>
      rw [readBranches_succ] at h
      cases htoken : token? input.verbose input.rest with
      | none =>
          rw [htoken] at h
          cases h
      | some next =>
          rcases next with ⟨token, rest⟩
          rw [htoken] at h
          cases token with
          | stop =>
              obtain ⟨rfl, rfl⟩ := Prod.mk.inj (Option.some.inj h)
              exact .stop htoken
          | bar => exact .bar htoken (ih h)
          | part p => exact .part htoken (ih h)
          | repeated least most marked =>
              dsimp only at h
              split at h
              · cases h
              · next parts' hparts => exact .repeated htoken hparts (ih h)
          | opening =>
              dsimp only at h
              split at h
              · cases h
              · next changes behind hopening => exact .flags htoken hopening (ih h)
              · next captures changes behind hopening =>
                  split at h
                  · next inner left hinner =>
                      split at h
                      · next closed hclosed =>
                          exact .group htoken hopening (ih hinner) hclosed (ih h)
                      · cases h
                  · cases h

theorem suffix_of_readOpening {o : Opening} (h : readOpening input = some (o, out)) :
    out.rest <:+ input.rest :=
  (suffix_of_openingAt (readOpening_eq input ▸ h)).trans (skip_suffix _ _)

/-- A sequence leaves an end of its text. -/
theorem Reads.suffix (h : Reads input parts branches t out) : out.rest <:+ input.rest := by
  induction h with
  | stop h => exact leaves_token? _ _ _ _ h
  | bar h _ ih => exact ih.trans (leaves_token? _ _ _ _ h)
  | part h _ ih => exact ih.trans (leaves_token? _ _ _ _ h)
  | repeated h _ _ ih => exact ih.trans (leaves_token? _ _ _ _ h)
  | flags h hopening _ ih =>
      have hopen := suffix_of_readOpening hopening
      dsimp only at hopen
      exact (ih.trans hopen).trans (leaves_token? _ _ _ _ h)
  | group h hopening _ hclosed _ ihinner ihrest =>
      have hopen := suffix_of_readOpening hopening
      have hgroup := ihrest.trans ((List.suffix_cons ')' _).trans (hclosed ▸ ihinner))
      dsimp only at hopen
      exact (hgroup.trans hopen).trans (leaves_token? _ _ _ _ h)

-- As for classes. A group is read with the same count as what is behind it.
/-- The reader gives what is read, if it counts further than the text is long. -/
theorem Reads.readBranches (h : Reads input parts branches t out) {m : Nat}
    (hm : input.rest.length < m) : readBranches m input parts branches = some (t, out) := by
  induction h generalizing m with
  | stop h =>
      obtain ⟨m, rfl⟩ := Nat.exists_eq_succ_of_ne_zero (Nat.ne_zero_of_lt hm)
      rw [readBranches_succ, h]
  | bar h _ ih =>
      obtain ⟨m, rfl⟩ := Nat.exists_eq_succ_of_ne_zero (Nat.ne_zero_of_lt hm)
      rw [readBranches_succ, h]
      exact ih (Nat.lt_of_lt_of_le (length_lt_of_token? h (by simp)) (Nat.le_of_lt_succ hm))
  | part h _ ih =>
      obtain ⟨m, rfl⟩ := Nat.exists_eq_succ_of_ne_zero (Nat.ne_zero_of_lt hm)
      rw [readBranches_succ, h]
      exact ih (Nat.lt_of_lt_of_le (length_lt_of_token? h (by simp)) (Nat.le_of_lt_succ hm))
  | repeated h hparts _ ih =>
      obtain ⟨m, rfl⟩ := Nat.exists_eq_succ_of_ne_zero (Nat.ne_zero_of_lt hm)
      rw [readBranches_succ, h]
      dsimp only
      rw [hparts]
      exact ih (Nat.lt_of_lt_of_le (length_lt_of_token? h (by simp)) (Nat.le_of_lt_succ hm))
  | flags h hopening _ ih =>
      obtain ⟨m, rfl⟩ := Nat.exists_eq_succ_of_ne_zero (Nat.ne_zero_of_lt hm)
      have hopen := (suffix_of_readOpening hopening).length_le
      have hshorter := length_lt_of_token? h (by simp)
      rw [readBranches_succ, h]
      dsimp only
      rw [hopening]
      dsimp only at hopen
      exact ih (by dsimp only; omega)
  | group h hopening hinner hclosed _ ihinner ihrest =>
      obtain ⟨m, rfl⟩ := Nat.exists_eq_succ_of_ne_zero (Nat.ne_zero_of_lt hm)
      have hopen := (suffix_of_readOpening hopening).length_le
      have hgroup := hinner.suffix.length_le
      have hshorter := length_lt_of_token? h (by simp)
      rw [hclosed, List.length_cons] at hgroup
      dsimp only at hopen hgroup
      rw [readBranches_succ, h]
      dsimp only
      rw [hopening]
      dsimp only
      rw [ihinner (by dsimp only; omega)]
      dsimp only
      rw [hclosed]
      exact ihrest (by dsimp only; omega)

end Sequences

end Regex

end IrcHarness
