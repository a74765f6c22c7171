/-!
# Splitting

Lists cut at a separator. A tags section is cut at its semicolons, a tag at
its first equals sign, and a prefix at its first `@` and `!`. Both ways of
cutting lose nothing: joining the pieces with the separator gives the list
back (`join_pieces`, `eq_of_cutAt_some`), and no piece but the last part of a
single cut holds the separator.

## Main definitions

* `Split.pieces`: All pieces between the occurrences of a separator.
* `Split.join`: Pieces put together with a separator between them.
* `Split.cutAt`: The parts before and behind the first separator.

## Theorems

* `join_pieces`: Cutting and joining gives the list back.
* `pieces_join`: Joining and cutting gives the pieces back.
* `eq_of_cutAt_some`: A cut list is its two parts around the separator.
* `pieces_append_of_pieces`: Where two lists meet, two pieces become one.
* `cutAt_append`: A list is cut at its first separator.
* `not_mem_of_mem_pieces`: No piece holds the separator.
-/

namespace IrcHarness

namespace Split

variable {α : Type} [DecidableEq α]

/-- The pieces of a list between the occurrences of a separator, one more
    than there are separators. -/
def pieces (sep : α) : List α → List (List α)
  | [] => [[]]
  | c :: rest =>
    if c = sep then [] :: pieces sep rest
    else match pieces sep rest with
      | [] => [[c]]
      | p :: ps => (c :: p) :: ps

/-- Pieces put together with a separator between each two. -/
def join (sep : α) : List (List α) → List α
  | [] => []
  | [p] => p
  | p :: q :: ps => p ++ sep :: join sep (q :: ps)

/-- The parts before and behind the first separator, if there is one. -/
def cutAt (sep : α) : List α → Option (List α × List α)
  | [] => none
  | c :: rest =>
    if c = sep then some ([], rest)
    else (cutAt sep rest).map fun parts => (c :: parts.1, parts.2)

theorem pieces_ne_nil (sep : α) (l : List α) : pieces sep l ≠ [] := by
  cases l with
  | nil => simp [pieces]
  | cons c rest =>
      simp only [pieces]
      split
      · simp
      · split <;> simp

theorem join_pieces (sep : α) (l : List α) : join sep (pieces sep l) = l := by
  induction l with
  | nil => rfl
  | cons c rest ih =>
      simp only [pieces]
      split
      · next h =>
          cases hp : pieces sep rest with
          | nil => exact absurd hp (pieces_ne_nil sep rest)
          | cons p ps =>
              rw [hp] at ih
              simp [join, ih, h]
      · split
        · next hp => exact absurd hp (pieces_ne_nil sep rest)
        · next p ps hp =>
            rw [hp] at ih
            cases ps with
            | nil => simp_all [join]
            | cons q qs =>
                simp only [join, List.cons_append] at ih ⊢
                rw [ih]

theorem not_mem_of_mem_pieces (sep : α) (l p : List α) (h : p ∈ pieces sep l) : sep ∉ p := by
  induction l generalizing p with
  | nil =>
      simp only [pieces, List.mem_singleton] at h
      simp [h]
  | cons c rest ih =>
      simp only [pieces] at h
      split at h
      · rcases List.mem_cons.1 h with h | h
        · simp [h]
        · exact ih p h
      · next hc =>
          split at h
          · next hp => exact absurd hp (pieces_ne_nil sep rest)
          · next q qs hp =>
              rcases List.mem_cons.1 h with h | h
              · have hq : sep ∉ q := ih q (by simp [hp])
                rw [h, List.mem_cons]
                rintro (he | he)
                · exact hc he.symm
                · exact hq he
              · exact ih p (by simp [hp, h])

theorem eq_of_cutAt_some (sep : α) (l a b : List α) (h : cutAt sep l = some (a, b)) :
    l = a ++ sep :: b := by
  induction l generalizing a with
  | nil => simp [cutAt] at h
  | cons c rest ih =>
      simp only [cutAt] at h
      split at h
      · next hc =>
          simp only [Option.some.injEq, Prod.mk.injEq] at h
          simp [← h.1, ← h.2, hc]
      · rcases Option.map_eq_some_iff.1 h with ⟨⟨p, q⟩, hp, he⟩
        simp only [Prod.mk.injEq] at he
        rcases he with ⟨rfl, rfl⟩
        simp [ih p hp]

theorem pieces_of_not_mem (sep : α) (p : List α) (h : sep ∉ p) : pieces sep p = [p] := by
  induction p with
  | nil => rfl
  | cons c rest ih =>
      rw [List.mem_cons, not_or] at h
      rw [pieces, if_neg (Ne.symm h.1), ih h.2]

theorem pieces_append (sep : α) (p l : List α) (h : sep ∉ p) :
    pieces sep (p ++ sep :: l) = p :: pieces sep l := by
  induction p with
  | nil => rw [List.nil_append, pieces, if_pos rfl]
  | cons c rest ih =>
      rw [List.mem_cons, not_or] at h
      rw [List.cons_append, pieces, if_neg (Ne.symm h.1), ih h.2]

/-- Where two lists meet, the last piece of the one and the first piece of the
    other become one piece, and all other pieces stay. -/
theorem pieces_append_of_pieces {sep : α} {a b last first : List α}
    {front behind : List (List α)} (ha : pieces sep a = front ++ [last])
    (hb : pieces sep b = first :: behind) :
    pieces sep (a ++ b) = front ++ (last ++ first) :: behind := by
  induction a generalizing front last with
  | nil =>
      cases front with
      | nil =>
          rw [pieces, List.nil_append, List.cons.injEq] at ha
          rw [List.nil_append, hb, ← ha.1]
          rfl
      | cons p front =>
          rw [pieces, List.cons_append, List.cons.injEq] at ha
          exact absurd ha.2.symm (List.append_ne_nil_of_right_ne_nil _ (List.cons_ne_nil _ _))
  | cons c rest ih =>
      rw [pieces] at ha
      rw [List.cons_append, pieces]
      by_cases hc : c = sep
      · rw [if_pos hc] at ha ⊢
        cases front with
        | nil =>
            rw [List.nil_append, List.cons.injEq] at ha
            exact absurd ha.2 (pieces_ne_nil sep rest)
        | cons p front =>
            rw [List.cons_append, List.cons.injEq] at ha
            rw [ih ha.2, ← ha.1]
            rfl
      · rw [if_neg hc] at ha ⊢
        cases hrest : pieces sep rest with
        | nil => exact absurd hrest (pieces_ne_nil sep rest)
        | cons p ps =>
            rw [hrest] at ha
            -- The character goes to the first piece, which may be the last one too.
            cases front with
            | nil =>
                rw [List.nil_append, List.cons.injEq] at ha
                have hmore : pieces sep (rest ++ b) = [] ++ (p ++ first) :: behind :=
                  ih (by rw [hrest, ha.2]; rfl)
                rw [hmore, ← ha.1]
                rfl
            | cons q front =>
                rw [List.cons_append, List.cons.injEq] at ha
                have hmore : pieces sep (rest ++ b) = (p :: front) ++ (last ++ first) :: behind :=
                  ih (by rw [hrest, ha.2]; rfl)
                rw [hmore, ← ha.1]
                rfl

theorem pieces_join (sep : α) (ps : List (List α)) (hne : ps ≠ []) (h : ∀ p ∈ ps, sep ∉ p) :
    pieces sep (join sep ps) = ps := by
  induction ps with
  | nil => exact absurd rfl hne
  | cons p rest ih =>
      have hp : sep ∉ p := h p List.mem_cons_self
      cases rest with
      | nil => exact pieces_of_not_mem sep p hp
      | cons q qs =>
          rw [join, pieces_append sep p _ hp]
          rw [ih (List.cons_ne_nil q qs) fun r hr => h r (List.mem_cons_of_mem p hr)]

theorem mem_of_mem_pieces (sep : α) (l p : List α) (x : α) (hp : p ∈ pieces sep l) (hx : x ∈ p) :
    x ∈ l := by
  induction l generalizing p with
  | nil =>
      rw [pieces, List.mem_singleton] at hp
      rw [hp] at hx
      exact hx
  | cons c rest ih =>
      simp only [pieces] at hp
      split at hp
      · rcases List.mem_cons.1 hp with rfl | hp
        · exact absurd hx List.not_mem_nil
        · exact List.mem_cons_of_mem c (ih p hp hx)
      · split at hp
        · next hn => exact absurd hn (pieces_ne_nil sep rest)
        · next q qs hq =>
            rcases List.mem_cons.1 hp with rfl | hp
            · rcases List.mem_cons.1 hx with rfl | hx
              · exact List.mem_cons_self
              · exact List.mem_cons_of_mem c (ih q (by rw [hq]; exact List.mem_cons_self) hx)
            · have hmem : p ∈ pieces sep rest := by
                rw [hq]
                exact List.mem_cons_of_mem q hp
              exact List.mem_cons_of_mem c (ih p hmem hx)

theorem cutAt_of_not_mem (sep : α) (l : List α) (h : sep ∉ l) : cutAt sep l = none := by
  induction l with
  | nil => rfl
  | cons c rest ih =>
      rw [List.mem_cons, not_or] at h
      rw [cutAt, if_neg (Ne.symm h.1), ih h.2]
      rfl

theorem cutAt_append (sep : α) (a b : List α) (h : sep ∉ a) :
    cutAt sep (a ++ sep :: b) = some (a, b) := by
  induction a with
  | nil => rw [List.nil_append, cutAt, if_pos rfl]
  | cons c rest ih =>
      rw [List.mem_cons, not_or] at h
      rw [List.cons_append, cutAt, if_neg (Ne.symm h.1), ih h.2]
      rfl

theorem not_mem_of_cutAt_none (sep : α) (l : List α) (h : cutAt sep l = none) : sep ∉ l := by
  intro hmem
  rcases List.append_of_mem hmem with ⟨a, b, rfl⟩
  induction a with
  | nil =>
      rw [List.nil_append, cutAt, if_pos rfl] at h
      exact absurd h (Option.some_ne_none _)
  | cons c rest ih =>
      rw [List.cons_append, cutAt] at h
      split at h
      · exact absurd h (Option.some_ne_none _)
      · exact ih (Option.map_eq_none_iff.1 h) (by simp)

theorem not_mem_of_cutAt_some (sep : α) (l a b : List α) (h : cutAt sep l = some (a, b)) :
    sep ∉ a := by
  induction l generalizing a with
  | nil => exact absurd h.symm (Option.some_ne_none _)
  | cons c rest ih =>
      rw [cutAt] at h
      split at h
      · rw [Option.some.injEq, Prod.mk.injEq] at h
        rw [← h.1]
        exact List.not_mem_nil
      · next hc =>
          rcases Option.map_eq_some_iff.1 h with ⟨⟨p, q⟩, hp, he⟩
          rw [Prod.mk.injEq] at he
          rcases he with ⟨rfl, rfl⟩
          rw [List.mem_cons, not_or]
          exact ⟨Ne.symm hc, ih p hp⟩

end Split

end IrcHarness
