import IrcHarness.Proofs.Pattern.Semantics

/-!
# Where the Walk Stops

A mismatch names a place in the value. What the walk compares there is reached
from the root by going from part to part, in the value and in the pattern at
once (`Position`), and one of the tests that the walk makes at that place fails
(`Fault`). The address of the mismatch leads to what is reported as found, also
when nothing is there.

It is the first such place. Every part that the walk goes through before it is
satisfied: those in front of it in the order of visiting, at whatever level the
two addresses part, and for a test that is made behind the parts, also all that
is below (`Visited`).

## Main definitions

* `Address.value?`: What an address leads to.
* `Address.Before`: An address is visited before another one.
* `Pattern.Position`: What the walk compares at an address.
* `Pattern.Visited`: What the walk is done with when it makes a test.

## Theorems

* `Position.value?_eq`: The address of a position leads to its value.
* `Position.satisfies`: A value that satisfies a pattern does so at every
  position.
* `fault_of_check`: A mismatch is a test that fails, with all before it
  satisfied.
* `check_localizes_first_fault`: A mismatch names the first place that fails, and
  the report shows it.
-/

namespace IrcHarness

/-- What a step leads to from a value, or from the absence of one. -/
def Step.part? : Step → Option Json → Option Json
  | .key k, some (.object fields) => Fields.find? k fields
  | .index i, some (.array elems) => elems[i]?
  | _, _ => none

namespace Address

/-- What an address leads to, step by step. -/
def value? (value : Option Json) (a : Address) : Option Json :=
  a.foldl (fun w s => s.part? w) value

theorem value?_append (value : Option Json) (a b : Address) :
    value? value (a ++ b) = value? (value? value a) b :=
  List.foldl_append

/-- An address is visited before another one: they part at some step, and there
    the walk goes the way of the first one earlier. -/
inductive Before : Address → Address → Prop where
  /-- They part at once. -/
  | step {s t : Step} (b a : Address) (h : s.Before t) : Before (s :: b) (t :: a)
  /-- They part later. -/
  | under {b a : Address} (s : Step) (h : Before b a) : Before (s :: b) (s :: a)

end Address

namespace Pattern

/-- What the walk compares at an address: what the value has there, or its
    absence, and the part of the pattern that is for it. -/
inductive Position : Option Json → Pattern → Address → Option Json → Pattern → Prop where
  /-- The value and the pattern themselves. -/
  | root (value : Option Json) (p : Pattern) : Position value p [] value p
  /-- A position of a part. -/
  | under {value w u : Option Json} {p q r : Pattern} {s : Step} {a : Address}
      (hpart : Part value p s w q) (h : Position w q a u r) : Position value p (s :: a) u r

/-- The walk is done with an address when it makes a test at another one: it is
    visited before it or, if the test is made behind the parts, below it. -/
def Visited (b a : Address) (stage : Stage) : Prop :=
  b.Before a ∨ (stage = .closing ∧ a <+: b ∧ b ≠ a)

variable {value w u : Option Json} {p q r : Pattern} {s : Step} {a b : Address} {stage : Stage}
  {m : Mismatch}

theorem Part.part?_eq (h : Part value p s w q) : s.part? value = w := by
  cases h with
  | key h => rfl
  | item h => rfl
  | front h => rfl
  | behind hi he => exact he

/-- A step leads to one part only, if the keys ascend. -/
theorem Part.unique (hp : p.KeysAscend) (h : Part value p s w q) (h' : Part value p s u r) :
    w = u ∧ q = r := by
  refine ⟨h.part?_eq.symm.trans h'.part?_eq, ?_⟩
  cases h with
  | key h =>
      cases h' with
      | key h' => exact Fields.eq_of_mem hp h h'
  | item h =>
      cases h' with
      | item h' => exact Option.some.inj (h.symm.trans h')
  | front h =>
      cases h' with
      | front h' => exact Option.some.inj (h.symm.trans h')
      | behind hi he => exact absurd (List.getElem?_eq_some_iff.1 h).1 (Nat.not_lt.2 hi)
  | behind hi he =>
      cases h' with
      | front h' => exact absurd (List.getElem?_eq_some_iff.1 h').1 (Nat.not_lt.2 hi)
      | behind hi' he' => rfl

/-- The address of a position leads to its value. -/
theorem Position.value?_eq (h : Position value p a w q) : a.value? value = w := by
  induction h with
  | root value p => rfl
  | under hpart h ih =>
      rw [← ih, ← hpart.part?_eq]
      rfl

/-- A value that satisfies a pattern does so at every position. -/
theorem Position.satisfies (h : Position value p a w q) (hsat : Satisfies value p) :
    Satisfies w q := by
  induction h with
  | root value p => exact hsat
  | under hpart h ih =>
      exact ih (((semantics_satisfies.iff_parts _ _).1 hsat).2.1 _ _ _ hpart)

/-- What a failing test reports as found is at the address that it reports. -/
theorem Fault.actual_eq (h : Fault a w q stage m) (hw : a.value? value = w) :
    m.actual = m.address.value? value := by
  cases h with
  | kind h => exact hw.symm
  | extra hfields hfront hf =>
      rw [Address.value?_append, hw]
      rfl
  | length h => exact hw.symm
  | minimum h => exact hw.symm

/-- A mismatch is a test that fails somewhere, with all that the walk is done
    with before it satisfied. -/
theorem fault_of_check (base : Address) (hp : p.Ordered) (h : check base value p = some m) :
    ∃ a w q stage, Position value p a w q ∧ Fault (base ++ a) w q stage m ∧
      ∀ b u r, Position value p b u r → Visited b a stage → Satisfies u r := by
  induction p using induction_on_parts generalizing base value with
  | h p ih =>
      have hwalks := walks_check base value p
      rw [h] at hwalks
      cases hwalks with
      | opening hfault =>
          -- Nothing comes before the root.
          refine ⟨[], value, p, .opening, .root value p, (List.append_nil base).symm ▸ hfault, ?_⟩
          intro b u r hpos hvisited
          rcases hvisited with hb | ⟨hstage, -⟩
          · nomatch hb
          · exact Stage.noConfusion hstage
      | @part s w q m hpart hcheck hbefore =>
          rcases ih value s w q hpart (base ++ [s]) (hp.part hpart) hcheck with
            ⟨a, w', q', stage, hpos, hfault, hdone⟩
          rw [List.append_assoc] at hfault
          refine ⟨s :: a, w', q', stage, .under hpart hpos, hfault, ?_⟩
          intro b u r hb hvisited
          cases hb with
          | root =>
              rcases hvisited with hb | ⟨-, hb, -⟩
              · nomatch hb
              · exact absurd (List.prefix_nil.1 hb) (List.cons_ne_nil s a)
          | @under _ v _ _ o _ t b hpart' hb =>
              -- The place is in the same part, or in one that is visited earlier.
              rcases hvisited with hlt | ⟨hstage, hle, hne⟩
              · cases hlt with
                | step _ _ hlt =>
                    have hsat := hbefore hp.keysAscend _ _ _ hpart' hlt
                    exact hb.satisfies ((semantics_satisfies.check_iff _ _ _).1 hsat)
                | under _ hlt =>
                    rcases hpart.unique hp.keysAscend hpart' with ⟨rfl, rfl⟩
                    exact hdone b u r hb (.inl hlt)
              · rcases List.cons_prefix_cons.1 hle with ⟨rfl, hbelow⟩
                rcases hpart.unique hp.keysAscend hpart' with ⟨rfl, rfl⟩
                exact hdone b u r hb (.inr ⟨hstage, hbelow, fun he => hne (he ▸ rfl)⟩)
      | closing hparts hfault =>
          refine ⟨[], value, p, .closing, .root value p, (List.append_nil base).symm ▸ hfault, ?_⟩
          intro b u r hb hvisited
          cases hb with
          | root =>
              rcases hvisited with hb | ⟨-, -, hne⟩
              · nomatch hb
              · exact absurd rfl hne
          | under hpart hb =>
              exact hb.satisfies ((semantics_satisfies.check_iff _ _ _).1 (hparts _ _ _ hpart))

/-- A mismatch names the first place where a test of the value fails, and what is
    at that place. A report on the value shows the address as a path, the root
    as `<root>`, and what is there as text. -/
theorem check_localizes_first_fault (hp : p.Ordered) (h : check [] value p = some m) :
    (∃ a w q stage, Position value p a w q ∧ Fault a w q stage m ∧
        ∀ b u r, Position value p b u r → Visited b a stage → Satisfies u r) ∧
      m.actual = m.address.value? value ∧ Address.display [] = "<root>" ∧
      ∀ context v, value = some v → p.assert context v = .error
        { context
          path := m.address.display
          expected := m.expected
          actual := describe (m.address.value? value)
          fullExpected := p.write
          fullActual := v.write } := by
  rcases fault_of_check [] hp h with ⟨a, w, q, stage, hpos, hfault, hdone⟩
  have hactual := hfault.actual_eq hpos.value?_eq
  refine ⟨⟨a, w, q, stage, hpos, hfault, hdone⟩, hactual, rfl, ?_⟩
  rintro context v rfl
  rw [assert, h, ← hactual]
  rfl

/-- A second parameter that is not the one asked for is reported by its place in
    the list of parameters. -/
theorem check_localizes_first_fault_param :
    ∃ p : Pattern, p = openMap [("params", closedList [text "#chan", text "bye"])] ∧ p.Ordered ∧
      ∃ v, v = Json.object [("params", .array [.string "#chan", .string "hi"])] ∧
        check [] (some v) p = some ⟨[.key "params", .index 1], "\"bye\"", some (.string "hi")⟩ ∧
        p.assert "reply" v = .error
          ⟨"reply", "params[1]", "\"bye\"", "\"hi\"", p.write, v.write⟩ := by
  have hp : (openMap [("params", closedList [text "#chan", text "bye"])]).Ordered := by
    refine ordered_map (fun e he => ?_) true
    rw [List.mem_singleton.1 he]
    refine .list false fun q hq => ?_
    rcases List.mem_pair.1 hq with rfl | rfl
    · exact .literal _
    · exact .literal _
  have hcheck : check [] (some (.object [("params", .array [.string "#chan", .string "hi"])]))
      (openMap [("params", closedList [text "#chan", text "bye"])]) =
      some ⟨[.key "params", .index 1], "\"bye\"", some (.string "hi")⟩ := by rfl
  refine ⟨_, rfl, hp, _, rfl, hcheck, ?_⟩
  rw [(check_localizes_first_fault hp hcheck).2.2.2 "reply" _ rfl]
  decide +kernel

end Pattern

end IrcHarness
