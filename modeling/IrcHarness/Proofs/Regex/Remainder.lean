import IrcHarness.Regex.Reader
import Mathlib

/-!
# What a Reader Leaves

The readers take what they read off the front of a text, so what they leave is an
end of it. This is said here of each reader that does not go on by itself, and it is
closed under what the readers are put together with.

Three of them are long lists of cases, and a list is easier to reason about when it is
data. An escape has a kind, which the character behind the backslash decides, and the
front of a class and that of a group are put together from their parts.

## Main definitions

* `Regex.Leaves`: What is left is an end of what was read.
* `Regex.escapeKind`: What a character behind a backslash asks for.
* `Regex.classFront`, `Regex.openingAt`: The fronts of classes and groups by their parts.

## Theorems

* `readEscape_cons`: An escape is read as its kind says.
* `leaves_readEscape`, `leaves_readClassPart`, `leaves_readCount`: What readers leave.
* `suffix_of_readClassFront`, `suffix_of_openingAt`: What stands behind a front.
-/

namespace IrcHarness

namespace Regex

variable {α β : Type} {cs ds rest : List Char} {c : Char} {v : Bool}

/-- What a reader leaves is an end of the text that it reads. -/
def Leaves (cs : List Char) (result : Option (α × List Char)) : Prop :=
  ∀ x rest, result = some (x, rest) → rest <:+ cs

section Closure

theorem leaves_none : Leaves cs (none : Option (α × List Char)) :=
  fun _ _ h => by cases h

theorem leaves_some {x : α} (h : rest <:+ cs) : Leaves cs (some (x, rest)) := by
  intro y rest' heq
  rw [Option.some.injEq, Prod.mk.injEq] at heq
  exact heq.2 ▸ h

variable {result : Option (α × List Char)}

theorem Leaves.mono (h : Leaves cs result) (hcs : cs <:+ ds) : Leaves ds result :=
  fun x rest heq => (h x rest heq).trans hcs

theorem Leaves.map (h : Leaves cs result) (f : α × List Char → β × List Char)
    (hf : ∀ p, (f p).2 = p.2) : Leaves cs (result.map f) := by
  intro y rest heq
  rcases Option.map_eq_some_iff.1 heq with ⟨⟨x, rest'⟩, hresult, hy⟩
  have hrest := hf (x, rest')
  rw [hy] at hrest
  have hsame : rest = rest' := hrest
  exact hsame ▸ h x rest' hresult

theorem leaves_map_some {o : Option β} {f : β → α} (h : rest <:+ cs) :
    Leaves cs (o.map fun y => (f y, rest)) := by
  cases o with
  | none => exact leaves_none
  | some y => exact leaves_some h

end Closure

section Skipping

theorem behindLine_suffix (cs : List Char) : behindLine cs <:+ cs := by
  induction cs with
  | nil => exact List.suffix_refl _
  | cons c rest ih =>
      rw [behindLine]
      split
      · exact List.suffix_cons c rest
      · exact ih.trans (List.suffix_cons c rest)

theorem skipBlanks_suffix (n : Nat) (cs : List Char) : skipBlanks n cs <:+ cs := by
  induction n generalizing cs with
  | zero => exact List.suffix_refl cs
  | succ n ih =>
      cases cs with
      | nil => exact List.suffix_refl _
      | cons c rest =>
          rw [skipBlanks]
          split
          · exact (ih rest).trans (List.suffix_cons c rest)
          · split
            · exact ((ih _).trans (behindLine_suffix rest)).trans (List.suffix_cons c rest)
            · exact List.suffix_refl _

theorem skip_suffix (v : Bool) (cs : List Char) : skip v cs <:+ cs := by
  rw [skip]
  split
  · exact skipBlanks_suffix _ cs
  · exact List.suffix_refl cs

/-- What stands behind the next character. -/
theorem suffix_of_skip (h : skip v cs = c :: rest) : rest <:+ cs := by
  have hskip := skip_suffix v cs
  rw [h] at hskip
  exact (List.suffix_cons c rest).trans hskip

end Skipping

section Escapes

theorem leaves_readDigits (v : Bool) (n : Nat) (cs : List Char) :
    Leaves cs (readDigits v n cs) := by
  induction n generalizing cs with
  | zero => exact leaves_some (List.suffix_refl cs)
  | succ n ih =>
      cases cs with
      | nil => exact leaves_none
      | cons c rest =>
          rw [readDigits]
          split
          · exact ((ih _).mono ((skip_suffix v rest).trans (List.suffix_cons c rest))).map _
              fun _ => rfl
          · exact leaves_none

theorem leaves_readBraced (v : Bool) (n : Nat) (cs : List Char) :
    Leaves cs (readBraced v n cs) := by
  induction n generalizing cs with
  | zero => exact leaves_none
  | succ n ih =>
      rw [readBraced]
      split
      · exact leaves_none
      · next rest h => exact leaves_some (suffix_of_skip h)
      · next c rest _ h => exact ((ih rest).mono (suffix_of_skip h)).map _ fun _ => rfl

theorem leaves_readCodePoint (v : Bool) (width : Nat) (cs : List Char) :
    Leaves cs (readCodePoint v width cs) := by
  rw [readCodePoint]
  split
  · next rest h =>
      have hbraced := leaves_readBraced v (rest.length + 1) rest
      split
      · exact leaves_none
      · next digits rest' hdigits =>
          have hrest := (hbraced digits rest' hdigits).trans (suffix_of_skip h)
          split
          · exact leaves_none
          · exact leaves_map_some ((skip_suffix v rest').trans hrest)
  · have hdigits := leaves_readDigits v width (skip v cs)
    split
    · exact leaves_none
    · next digits rest h =>
        exact leaves_map_some ((hdigits digits rest h).trans (skip_suffix v cs))

theorem leaves_readProperty (v negated : Bool) (cs : List Char) :
    Leaves cs (readProperty v negated cs) := by
  rw [readProperty]
  split
  · exact leaves_none
  · next rest h =>
      have hbraced := leaves_readBraced v (rest.length + 1) rest
      split
      · exact leaves_none
      · next text rest' htext =>
          exact leaves_some ((hbraced text rest' htext).trans (suffix_of_skip h))
  · next c rest _ h =>
      split
      · exact leaves_none
      · exact leaves_some ((skip_suffix v rest).trans (suffix_of_skip h))

/-- Whether the name of a test for words may start with a character. -/
def startsTestName (c : Char) : Bool := c.isAlpha || c = '-'

/-- The test for words with a name. -/
def namedTest? (name : List Char) : Option WordLook :=
  if name = "start".toList then some .start
  else if name = "end".toList then some .stop
  else if name = "start-half".toList then some .startHalf
  else if name = "end-half".toList then some .stopHalf
  else none

theorem readWordTest_brace (v : Bool) (cs : List Char) :
    readWordTest v ('\x7b' :: cs) =
      match skip v cs with
      | [] => none
      | c :: tail =>
        if !startsTestName c then some (.boundary, '\x7b' :: cs)
        else
          match readBraced v (tail.length + 2) (c :: tail) with
          | none => none
          | some (name, rest) => (namedTest? name).map fun kind => (kind, rest) := by
  have hname (name rest : List Char) :
      (namedTest? name).map (fun kind => (kind, rest)) =
        if name = "start".toList then some (.start, rest)
        else if name = "end".toList then some (.stop, rest)
        else if name = "start-half".toList then some (.startHalf, rest)
        else if name = "end-half".toList then some (.stopHalf, rest)
        else none := by
    unfold namedTest?
    repeat' split
    all_goals rfl
  simp only [hname]
  rfl

theorem readWordTest_of_ne (v : Bool) (h : ∀ rest, cs ≠ '\x7b' :: rest) :
    readWordTest v cs = some (.boundary, cs) := by
  unfold readWordTest
  split
  · next rest => exact absurd rfl (h rest)
  · rfl

theorem leaves_readWordTest (v : Bool) (cs : List Char) : Leaves cs (readWordTest v cs) := by
  by_cases h : ∃ rest, cs = '\x7b' :: rest
  · rcases h with ⟨rest, rfl⟩
    rw [readWordTest_brace]
    split
    · exact leaves_none
    · next c tail hskip =>
        split
        · exact leaves_some (List.suffix_refl _)
        · have hbraced := leaves_readBraced v (tail.length + 2) (c :: tail)
          split
          · exact leaves_none
          · next name rest' hname =>
              have hleft := (hskip ▸ hbraced name rest' hname).trans (skip_suffix v rest)
              exact leaves_map_some (hleft.trans (List.suffix_cons _ rest))
  · rw [readWordTest_of_ne v fun rest heq => h ⟨rest, heq⟩]
    exact leaves_some (List.suffix_refl _)

/-- What the character behind a backslash asks for. -/
inductive EscapeKind where
  /-- A character by its code point, with so many digits. -/
  | codePoint (width : Nat)
  /-- A property. -/
  | property (negated : Bool)
  /-- A test for words that may have a name. -/
  | wordTest
  /-- Nothing more. -/
  | atom (a : Atom)
  /-- What this dialect does not have. -/
  | refused

/-- The kind of an escape. -/
def escapeKind : Char → EscapeKind
  | 'x' => .codePoint 2
  | 'u' => .codePoint 4
  | 'U' => .codePoint 8
  | 'p' => .property false
  | 'P' => .property true
  | 'd' => .atom (.short .digit false)
  | 'D' => .atom (.short .digit true)
  | 's' => .atom (.short .space false)
  | 'S' => .atom (.short .space true)
  | 'w' => .atom (.short .word false)
  | 'W' => .atom (.short .word true)
  | 'a' => .atom (.literal '\x07')
  | 'f' => .atom (.literal '\x0c')
  | 't' => .atom (.literal '\t')
  | 'n' => .atom (.literal '\n')
  | 'r' => .atom (.literal '\r')
  | 'v' => .atom (.literal '\x0b')
  | 'A' => .atom (.anchor .textStart)
  | 'z' => .atom (.anchor .textEnd)
  | 'b' => .wordTest
  | 'B' => .atom (.anchor (.word .noBoundary))
  | '<' => .atom (.anchor (.word .start))
  | '>' => .atom (.anchor (.word .stop))
  | c => if isEscapable c then .atom (.literal c) else .refused

/-- An escape is read as its kind says. -/
theorem readEscape_cons (v : Bool) (c : Char) (rest : List Char) :
    readEscape v (c :: rest) =
      match escapeKind c with
      | .codePoint width => readCodePoint v width rest
      | .property negated => readProperty v negated rest
      | .wordTest => (readWordTest v rest).map fun r => (.anchor (.word r.1), r.2)
      | .atom a => some (a, rest)
      | .refused => none := by
  unfold readEscape
  dsimp only
  split
  iterate 23 rfl
  have hkind : escapeKind c = if isEscapable c then .atom (.literal c) else .refused := by
    unfold escapeKind
    split
    all_goals first | rfl | (exfalso; simp_all)
  rw [hkind]
  cases isEscapable c <;> rfl

theorem leaves_readEscape (v : Bool) (cs : List Char) : Leaves cs (readEscape v cs) := by
  cases cs with
  | nil => exact leaves_none
  | cons c rest =>
      rw [readEscape_cons]
      refine Leaves.mono ?_ (List.suffix_cons c rest)
      split
      · exact leaves_readCodePoint v _ rest
      · exact leaves_readProperty v _ rest
      · exact (leaves_readWordTest v rest).map _ fun _ => rfl
      · exact leaves_some (List.suffix_refl _)
      · exact leaves_none

end Escapes

section ClassParts

/-- Whether a caret stands in front of the name of a class, and the text without
    it. -/
def nameSign : List Char → Bool × List Char
  | '^' :: rest => (true, rest)
  | rest => (false, rest)

/-- The name of a class and what closes it. -/
def namedClass (negated : Bool) (cs : List Char) : Option (ClassTree × List Char) :=
  match cs.dropWhile (· ≠ ':') with
  | ':' :: ']' :: tail =>
    let name := cs.takeWhile (· ≠ ':')
    (namedClasses.find? fun n => n.1.toList = name).map fun n =>
      (.named (CharSet.ofRanges n.2) negated, tail)
  | _ => none

theorem readNamedClass_cons (rest : List Char) :
    readNamedClass (':' :: rest) = namedClass (nameSign rest).1 (nameSign rest).2 := rfl

theorem nameSign_suffix (cs : List Char) : (nameSign cs).2 <:+ cs := by
  unfold nameSign
  split
  · exact List.suffix_cons _ _
  · exact List.suffix_refl _

theorem leaves_readNamedClass (cs : List Char) : Leaves cs (readNamedClass cs) := by
  unfold readNamedClass
  split
  · next rest =>
      refine Leaves.mono ?_ ((nameSign_suffix rest).trans (List.suffix_cons ':' rest))
      show Leaves _ (namedClass (nameSign rest).1 (nameSign rest).2)
      unfold namedClass
      split
      · next tail h =>
          have hdropped := List.dropWhile_suffix (· ≠ ':') (l := (nameSign rest).2)
          rw [h] at hdropped
          have hend := (List.suffix_cons ']' tail).trans (List.suffix_cons ':' (']' :: tail))
          exact leaves_map_some (hend.trans hdropped)
      · exact leaves_none
  · exact leaves_none

theorem leaves_readClassAtom (v : Bool) (cs : List Char) :
    Leaves cs.tail (readClassAtom v cs) := by
  unfold readClassAtom
  split
  · exact leaves_none
  · exact leaves_readEscape v _
  · exact leaves_some (List.suffix_refl _)

theorem leaves_readClassPart (v : Bool) (cs : List Char) :
    Leaves cs.tail (readClassPart v cs) := by
  have hfirst := leaves_readClassAtom v cs
  unfold readClassPart
  split
  · exact leaves_none
  · next first rest hatom =>
      have hrest := hfirst first rest hatom
      split
      · exact leaves_none
      · next c tail htail =>
          have hskip := skip_suffix v rest
          rw [htail] at hskip
          dsimp only
          split
          · exact leaves_map_some (hskip.trans hrest)
          · have hlast := leaves_readClassAtom v (skip v tail)
            have htail' : (skip v tail).tail <:+ cs.tail :=
              (((List.tail_suffix _).trans (skip_suffix v tail)).trans
                (suffix_of_skip htail)).trans hrest
            split
            · exact leaves_none
            · next last rest' hatom' =>
                have hrest' := (hlast last rest' hatom').trans htail'
                split
                · split
                  · exact leaves_some hrest'
                  · exact leaves_none
                · exact leaves_none

/-- Whether a caret stands in front of a class, and the text without it. -/
def classSign (v : Bool) (cs : List Char) : Bool × List Char :=
  match skip v cs with
  | '^' :: rest => (true, skip v rest)
  | cs => (false, cs)

/-- The front of a class, behind the hyphens there. -/
def classFront (v negated : Bool) (hyphens : Nat × List Char) :
    Option ((Bool × List ClassTree) × List Char) :=
  match hyphens.1, hyphens.2 with
  | _, [] => none
  | 0, ']' :: rest => some ((negated, [.literal ']']), skip v rest)
  | n, cs => some ((negated, List.replicate n (.literal '-')), cs)

theorem classFront_nil (v negated : Bool) (count : Nat) :
    classFront v negated (count, []) = none := by
  cases count <;> rfl

theorem classFront_of_ne (v negated : Bool) {count : Nat} (hnil : cs ≠ [])
    (hbracket : ∀ rest, count = 0 → cs ≠ ']' :: rest) :
    classFront v negated (count, cs) =
      some ((negated, List.replicate count (.literal '-')), cs) := by
  unfold classFront
  split
  · next h => exact absurd h hnil
  · next rest hcount h => exact absurd h (hbracket rest hcount)
  · rfl

theorem readClassFront_eq (v : Bool) (cs : List Char) :
    readClassFront v cs =
      (classFront v (classSign v cs).1 (readClassFront.hyphens v (classSign v cs).2
        ((classSign v cs).2.length + 1))).map fun r => (r.1.1, r.1.2, r.2) := by
  unfold readClassFront
  split
  next negated rest hsign =>
    rw [show classSign v cs = (negated, rest) from hsign]
    dsimp only
    rcases readClassFront.hyphens v rest (rest.length + 1) with ⟨count, behind⟩
    dsimp only
    split
    · rw [classFront_nil]
      rfl
    · rfl
    · next hnil hbracket =>
        rw [classFront_of_ne v negated (fun h => hnil h) fun rest hcount h => hbracket rest hcount h]
        rfl

theorem classSign_suffix (v : Bool) (cs : List Char) : (classSign v cs).2 <:+ cs := by
  unfold classSign
  split
  · next rest h => exact (skip_suffix v rest).trans (suffix_of_skip h)
  · exact skip_suffix v cs

theorem hyphens_suffix (v : Bool) (n : Nat) (cs : List Char) :
    (readClassFront.hyphens v cs n).2 <:+ cs := by
  induction n generalizing cs with
  | zero =>
      cases cs with
      | nil => exact List.nil_suffix
      | cons c rest => exact List.nil_suffix
  | succ n ih =>
      unfold readClassFront.hyphens
      split
      · exact List.nil_suffix
      · next rest m hm =>
          obtain rfl : n = m := Nat.succ.inj hm
          exact ((ih _).trans (skip_suffix v rest)).trans (List.suffix_cons '-' rest)
      · exact List.suffix_refl _

theorem leaves_classFront (v negated : Bool) (hyphens : Nat × List Char) :
    Leaves hyphens.2 (classFront v negated hyphens) := by
  unfold classFront
  split
  · exact leaves_none
  · next rest hnone h =>
      rw [h]
      exact leaves_some ((skip_suffix v rest).trans (List.suffix_cons ']' rest))
  · exact leaves_some (List.suffix_refl _)

theorem suffix_of_readClassFront {negated : Bool} {front : List ClassTree}
    (h : readClassFront v cs = some (negated, front, rest)) : rest <:+ cs := by
  rw [readClassFront_eq] at h
  rcases Option.map_eq_some_iff.1 h with ⟨⟨r, rest'⟩, hfront, heq⟩
  have hrest : rest' = rest := (Prod.mk.inj (Prod.mk.inj heq).2).2
  have hleft := leaves_classFront v _ _ r rest' hfront
  exact hrest ▸ (hleft.trans (hyphens_suffix v _ _)).trans (classSign_suffix v cs)

end ClassParts

section SequenceParts

theorem leaves_readName (cs : List Char) : Leaves cs (readName cs) := by
  unfold readName
  split
  · next rest h =>
      have hdropped := List.dropWhile_suffix (· ≠ '>') (l := cs)
      rw [h] at hdropped
      split
      · exact leaves_none
      · split
        · exact leaves_some ((List.suffix_cons '>' rest).trans hdropped)
        · exact leaves_none
  · exact leaves_none

theorem readFlags_of_flag {f : Flag} (h : flagOf? c = some f) (changes : FlagChanges)
    (cleared : Bool) (cs : List Char) :
    readFlags changes cleared (c :: cs) =
      if changes.any fun change => change.1 = f then none
      else readFlags ((f, !cleared) :: changes) cleared cs := by
  unfold flagOf? at h
  split at h
  iterate 7
    obtain rfl := Option.some.inj h
    rfl
  cases h

theorem leaves_readFlags (changes : FlagChanges) (cleared : Bool) (cs : List Char) :
    Leaves cs (readFlags changes cleared cs) := by
  fun_induction readFlags changes cleared cs with
  | case1 => exact leaves_none
  | case2 => exact leaves_some (List.suffix_refl _)
  | case3 => exact leaves_some (List.suffix_refl _)
  | case4 => exact leaves_none
  | case5 => exact leaves_none
  | case6 changes cleared c tail h ih => exact ih.mono (List.suffix_cons _ _)
  | case7 => exact leaves_none
  | case8 => exact leaves_none
  | case9 changes cleared c rest _ _ _ f hf h ih => exact ih.mono (List.suffix_cons _ _)

theorem readDecimalDigits_suffix (v : Bool) (n : Nat) (cs : List Char) :
    (readDecimalDigits v n cs).2 <:+ cs := by
  induction n generalizing cs with
  | zero => exact List.suffix_refl cs
  | succ n ih =>
      cases cs with
      | nil => exact List.suffix_refl _
      | cons c rest =>
          rw [readDecimalDigits]
          split
          · exact ((ih _).trans (skip_suffix v rest)).trans (List.suffix_cons c rest)
          · exact List.suffix_refl _

theorem leaves_readDecimal (v : Bool) (cs : List Char) : Leaves cs (readDecimal v cs) := by
  have hdigits := (readDecimalDigits_suffix v (cs.length + 1) (cs.dropWhile isBlank)).trans
    (List.dropWhile_suffix isBlank)
  unfold readDecimal
  split
  · exact leaves_none
  · next digits rest _ h =>
      rw [h] at hdigits
      dsimp only
      split
      · exact leaves_some
          (((skip_suffix v _).trans (List.dropWhile_suffix isBlank)).trans hdigits)
      · exact leaves_none

theorem leaves_readCount (v : Bool) (cs : List Char) : Leaves cs (readCount v cs) := by
  have hleast := leaves_readDecimal v (skip v cs)
  unfold readCount
  split
  · exact leaves_none
  · next least rest h =>
      have hrest := (hleast _ _ h).trans (skip_suffix v cs)
      exact leaves_some ((List.suffix_cons _ rest).trans hrest)
  · next least rest h =>
      have hrest := ((List.suffix_cons _ rest).trans (hleast _ _ h)).trans (skip_suffix v cs)
      split
      · next rest' h' => exact leaves_some ((suffix_of_skip h').trans hrest)
      · have hmost := leaves_readDecimal v (skip v rest)
        split
        · next most rest' h' =>
            split
            · refine leaves_some ?_
              exact (((List.suffix_cons _ rest').trans (hmost _ _ h')).trans
                (skip_suffix v rest)).trans hrest
            · exact leaves_none
        · exact leaves_none
  · exact leaves_none

theorem readMark_suffix (cs : List Char) : (readMark cs).2 <:+ cs := by
  unfold readMark
  split
  · exact List.suffix_cons _ _
  · exact List.suffix_refl _

theorem leaves_readAtom (v : Bool) (cs : List Char) : Leaves cs.tail (readAtom v cs) := by
  unfold readAtom
  split
  · exact leaves_none
  · exact leaves_readEscape v _
  · exact leaves_some (List.suffix_refl _)
  · exact leaves_some (List.suffix_refl _)
  · exact leaves_some (List.suffix_refl _)
  · exact leaves_some (List.suffix_refl _)

/-- A group with a name, behind the bracket that opens the name. -/
def namedGroup (input : Input) (cs : List Char) : Option (Opening × Input) :=
  match readName cs with
  | none => none
  | some (name, rest) =>
    if input.names.contains name then none
    else some (.group true [], { input with rest, names := name :: input.names })

/-- Flags, or a group with flags of its own, behind the question mark. -/
def flagGroup (input : Input) (cs : List Char) : Option (Opening × Input) :=
  match readFlags [] false cs with
  | some (changes, ')' :: rest) =>
    if changes = [] then none else some (.flags changes, { input with rest })
  | some (changes, ':' :: rest) => some (.group false changes, { input with rest })
  | _ => none

/-- What an opening parenthesis introduces, where nothing is skipped. -/
def openingAt (input : Input) : List Char → Option (Opening × Input)
  | '?' :: '=' :: _ => none
  | '?' :: '!' :: _ => none
  | '?' :: '<' :: '=' :: _ => none
  | '?' :: '<' :: '!' :: _ => none
  | '?' :: 'P' :: '<' :: rest | '?' :: '<' :: rest => namedGroup input rest
  | '?' :: rest => flagGroup input rest
  | rest => some (.group true [], { input with rest })

theorem readOpening_eq (input : Input) :
    readOpening input = openingAt input (skip input.verbose input.rest) := rfl

theorem openingAt_name (input : Input) (hahead : ∀ tail, cs ≠ '=' :: tail)
    (hbehind : ∀ tail, cs ≠ '!' :: tail) :
    openingAt input ('?' :: '<' :: cs) = namedGroup input cs := by
  unfold openingAt
  split
  all_goals grind

theorem openingAt_flags (input : Input) (h : ∀ tail, cs ≠ '=' :: tail ∧ cs ≠ '!' :: tail ∧
      cs ≠ '<' :: tail ∧ cs ≠ 'P' :: '<' :: tail) :
    openingAt input ('?' :: cs) = flagGroup input cs := by
  unfold openingAt
  split
  all_goals simp_all

theorem openingAt_group (input : Input) (h : ∀ rest, cs ≠ '?' :: rest) :
    openingAt input cs = some (.group true [], { input with rest := cs }) := by
  unfold openingAt
  split
  all_goals simp_all

theorem suffix_of_namedGroup {input input' : Input} {o : Opening}
    (h : namedGroup input cs = some (o, input')) : input'.rest <:+ cs := by
  unfold namedGroup at h
  split at h
  · cases h
  · next name rest hname =>
      split at h
      · cases h
      · rw [← (Prod.mk.inj (Option.some.inj h)).2]
        exact leaves_readName cs name rest hname

theorem suffix_of_flagGroup {input input' : Input} {o : Opening}
    (h : flagGroup input cs = some (o, input')) : input'.rest <:+ cs := by
  have hflags := leaves_readFlags [] false cs
  unfold flagGroup at h
  split at h
  · next changes rest hread =>
      split at h
      · cases h
      · rw [← (Prod.mk.inj (Option.some.inj h)).2]
        exact (List.suffix_cons ')' rest).trans (hflags _ _ hread)
  · next changes rest hread =>
      rw [← (Prod.mk.inj (Option.some.inj h)).2]
      exact (List.suffix_cons ':' rest).trans (hflags _ _ hread)
  · cases h

theorem suffix_of_openingAt {input input' : Input} {o : Opening}
    (h : openingAt input cs = some (o, input')) : input'.rest <:+ cs := by
  unfold openingAt at h
  split at h
  · cases h
  · cases h
  · cases h
  · cases h
  · next rest =>
      have hfront : rest <:+ '?' :: 'P' :: '<' :: rest := ⟨['?', 'P', '<'], rfl⟩
      exact (suffix_of_namedGroup h).trans hfront
  · next rest _ _ =>
      have hfront : rest <:+ '?' :: '<' :: rest := ⟨['?', '<'], rfl⟩
      exact (suffix_of_namedGroup h).trans hfront
  · exact (suffix_of_flagGroup h).trans (List.suffix_cons _ _)
  · rw [← (Prod.mk.inj (Option.some.inj h)).2]

end SequenceParts

end Regex

end IrcHarness
