import IrcHarness.Config.Basic
import IrcHarness.Proofs.Text.Digits
import IrcHarness.Text.Split

/-!
# Addresses

An address says which target it is of, whatever the name of the host holds. The port is
what stands behind the last colon, since no digit is one, so the name as it is shown is
left in front of it. A name is shown in brackets exactly when it holds a colon, and it
holds one exactly when what is shown does (`colon_mem_shown_iff`). So brackets that were
added are told from brackets of the name itself.

## Main definitions

* `Target.shown`: A host name as an address shows it.

## Theorems

* `append_cons_inj`: A separator that does not come again cuts in one way.
* `shown_injective`: What is shown of a host name says which name it is.
* `display_eq_iff`: An address says which target it is of.
-/

namespace IrcHarness

/-- What stands behind the last separator, and what stands in front of it, can be told
    from the whole. -/
theorem Split.append_cons_inj {α : Type} [DecidableEq α] {sep : α}
    {front back front' back' : List α} (h : sep ∉ back) (h' : sep ∉ back') :
    front ++ sep :: back = front' ++ sep :: back' ↔ front = front' ∧ back = back' := by
  constructor
  · intro he
    -- Read from the end, the separator is the first one.
    have hcut : ∀ {a b : List α}, sep ∉ b →
        cutAt sep (a ++ sep :: b).reverse = some (b.reverse, a.reverse) := by
      intro a b hb
      rw [List.reverse_append, List.reverse_cons, List.append_assoc]
      exact cutAt_append sep b.reverse a.reverse (mt List.mem_reverse.1 hb)
    have hparts := (hcut h).symm.trans ((congrArg (cutAt sep ·.reverse) he).trans (hcut h'))
    rw [Option.some.injEq, Prod.mk.injEq, List.reverse_inj, List.reverse_inj] at hparts
    exact ⟨hparts.2, hparts.1⟩
  · rintro ⟨rfl, rfl⟩
    rfl

namespace Target

/-- A host name as an address shows it. -/
def shown (host : List Char) : List Char :=
  if ':' ∈ host then '[' :: (host ++ [']']) else host

theorem toList_display (t : Target) :
    t.display.toList = shown t.hostname.toList ++ ':' :: Digit.decimal t.port.toNat :=
  String.toList_ofList

theorem colon_not_mem_decimal (n : Nat) : ':' ∉ Digit.decimal n := fun h =>
  absurd (Digit.isDigitIn_of_mem_toDigits (by decide) (by decide) h) (by decide)

/-- A colon is shown exactly when the host name holds one. -/
theorem colon_mem_shown_iff (host : List Char) : ':' ∈ shown host ↔ ':' ∈ host := by
  unfold shown
  split
  · next h => simp [h]
  · rfl

/-- What is shown of a host name says which name it is. -/
theorem shown_injective : Function.Injective shown := by
  intro host host' h
  have hcolon : ':' ∈ host ↔ ':' ∈ host' := by
    rw [← colon_mem_shown_iff, h, colon_mem_shown_iff]
  unfold shown at h
  by_cases hmem : ':' ∈ host
  · rw [if_pos hmem, if_pos (hcolon.1 hmem), List.cons.injEq] at h
    exact List.append_cancel_right h.2
  · rwa [if_neg hmem, if_neg (mt hcolon.2 hmem)] at h

/-- An address says which target it is of. -/
theorem display_eq_iff (s t : Target) : s.display = t.display ↔ s = t := by
  constructor
  · intro h
    have hchars := congrArg String.toList h
    rw [toList_display, toList_display, Split.append_cons_inj (colon_not_mem_decimal _)
      (colon_not_mem_decimal _)] at hchars
    have hhost : s.hostname = t.hostname := String.toList_injective (shown_injective hchars.1)
    have hport : s.port = t.port := UInt16.toNat_inj.1 (Digit.decimal_injective hchars.2)
    cases s
    cases t
    cases hhost
    cases hport
    rfl
  · rintro rfl
    rfl

end Target

end IrcHarness
