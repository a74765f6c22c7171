import IrcHarness.Proofs.Message.Grammar

/-!
# Escapes

A tag value among the other tags of a line, and the texts that no value was written as.

A written value holds nothing that ends anything. So it may stand wherever a value can:
the section goes on behind it, and so does the piece that it is part of.

Reading takes a backslash together with the character behind it, from left to right, and
does not come back to them. So behind a text that can be read another one is read as if it
stood alone (`unescape_append`). Whether a text can be read at all is decided at its end,
although reading gets there last: a text that does not end in a backslash can be read,
whatever stands in it, and behind it every two backslashes are a pair. What is left to ask
is whether the backslashes at the end come out even.

## Main definitions

* `TagValue.EndsInRun`: A text with a number of backslashes at its end.

## Theorems

* `markedSection_append`: A section goes on behind a word.
* `escapes_stay_inside`: A written value reads back, and neither its section nor its piece
  ends in it.
* `unescape_append`: Behind a text that can be read another one is read as if alone.
* `unescape_run_eq_none_iff`: Backslashes alone can be read when they are pairs.
* `exists_endsInRun`, `endsInRun_unique`: A text ends in one number of backslashes.
* `unescape_fails_on_odd_run`: A text cannot be read when this number is odd.
-/

namespace IrcHarness

namespace Message

/-- A section goes on behind a word, up to the first blank that follows. -/
theorem markedSection_append {w : List Char} (hw : ' ' ∉ w) (mark : Char) (behind : List Char) :
    markedSection mark (mark :: (w ++ behind)) =
      (some (w ++ behind.takeWhile isWordChar), behind.dropWhile isWordChar) := by
  rcases word_of_span behind with ⟨hspan, hword, hend⟩
  -- The word and the one that follows without a blank are the section together.
  have hblank : ' ' ∉ w ++ behind.takeWhile isWordChar := by
    rw [List.mem_append, not_or]
    exact ⟨hw, hword⟩
  have hopens : Opens mark (mark :: (w ++ behind.takeWhile isWordChar ++
      behind.dropWhile isWordChar)) _ _ := .present hblank hend
  rw [List.append_assoc, ← hspan] at hopens
  exact markedSection_of_opens hopens (by simp)

end Message

namespace TagValue

/-- A written value reads back. It holds no blank, no semicolon and nothing that ends a
    line. So its section goes on to the first blank behind it, and of the pieces around it
    only the two that it touches change: they are one piece with it. -/
theorem escapes_stay_inside (value : List Char) :
    unescape (escape value) = some value ∧
      (∀ c ∈ escape value, c ≠ ' ' ∧ c ≠ ';' ∧ c ≠ '\r' ∧ c ≠ '\n') ∧
      (∀ front behind, ' ' ∉ front →
        Message.markedSection '@' ('@' :: (front ++ escape value ++ behind)) =
          (some (front ++ escape value ++ behind.takeWhile Message.isWordChar),
            behind.dropWhile Message.isWordChar)) ∧
      ∀ front behind pieces piece rest more,
        Split.pieces ';' front = pieces ++ [piece] → Split.pieces ';' behind = rest :: more →
          Split.pieces ';' (front ++ escape value ++ behind) =
            pieces ++ (piece ++ escape value ++ rest) :: more := by
  refine ⟨unescape_escape value, escape_wireSafe value, ?_, ?_⟩
  · intro front behind hfront
    have hblank : ' ' ∉ front ++ escape value := by
      rw [List.mem_append, not_or]
      exact ⟨hfront, fun hmem => (escape_wireSafe value ' ' hmem).1 rfl⟩
    exact Message.markedSection_append hblank '@' behind
  · intro front behind pieces piece rest more hfront hbehind
    -- The written value is a piece of its own, so it joins the ones on both sides.
    have hvalue : Split.pieces ';' (escape value) = [escape value] :=
      Split.pieces_of_not_mem ';' _ fun hmem => (escape_wireSafe value ';' hmem).2.1 rfl
    exact Split.pieces_append_of_pieces (Split.pieces_append_of_pieces hfront hvalue) hbehind

/-- A value of special characters only, with a tag in front and text and a tag behind. -/
theorem escapes_stay_inside_between_tags :
    unescape (escape "; \\\r\n".toList) = some "; \\\r\n".toList ∧
      Message.markedSection '@' "@a=1;b=\\:\\s\\\\\\r\\nz;c PING".toList =
        (some "a=1;b=\\:\\s\\\\\\r\\nz;c".toList, " PING".toList) ∧
      Split.pieces ';' "a=1;b=\\:\\s\\\\\\r\\nz;c".toList =
        ["a=1".toList, "b=\\:\\s\\\\\\r\\nz".toList, "c".toList] := by
  rcases escapes_stay_inside "; \\\r\n".toList with ⟨hread, _, hsection, hpiece⟩
  refine ⟨hread, ?_, ?_⟩
  · exact hsection "a=1;b=".toList "z;c PING".toList (by decide)
  · exact hpiece "a=1;b=".toList "z;c".toList ["a=1".toList] "b=".toList "z".toList ["c".toList]
      (by decide) (by decide)

variable {u v w front : List Char} {n m : Nat}

/-- Behind a text that can be read another one is read as if it stood alone. -/
theorem unescape_append (h : unescape u = some v) (w : List Char) :
    unescape (u ++ w) = (unescape w).map (v ++ ·) := by
  -- The induction is on what reading takes at once. Between a backslash and the character
  -- behind it a text cannot be cut: what follows there is not read as if alone.
  have hmeans := (means_iff u v).2 h
  clear h
  induction hmeans with
  | nil =>
      rw [List.nil_append]
      exact Option.map_id'.symm
  | plain hc _ ih =>
      rw [List.cons_append, unescape_cons_of_ne hc, ih, Option.map_map]
      rfl
  | escaped d _ ih =>
      rw [List.cons_append, List.cons_append, unescape_backslash, ih, Option.map_map]
      rfl

/-- A text that does not end in a backslash can be read, whatever stands in it. -/
theorem exists_unescape_of_getLast? (h : front.getLast? ≠ some '\\') :
    ∃ v, unescape front = some v := by
  cases hread : unescape front with
  | some v => exact ⟨v, rfl⟩
  | none =>
      rcases (dangles_iff front).2 hread with ⟨more, v, _, rfl⟩
      exact absurd List.getLast?_concat h

/-- Every two backslashes are a pair and mean one backslash. -/
theorem unescape_pairs (k : Nat) :
    unescape (List.replicate (2 * k) '\\') = some (List.replicate k '\\') := by
  induction k with
  | zero => rfl
  | succ k ih =>
      rw [Nat.mul_succ, List.replicate_succ, List.replicate_succ, unescape_backslash, ih]
      rfl

/-- Backslashes alone can be read when they are pairs, and not when one is left over. -/
theorem unescape_run_eq_none_iff (n : Nat) :
    unescape (List.replicate n '\\') = none ↔ Odd n := by
  rcases Nat.even_or_odd' n with ⟨k, rfl | rfl⟩
  · have heven : ¬Odd (2 * k) := Nat.not_odd_iff_even.2 (even_two_mul k)
    rw [unescape_pairs]
    exact iff_of_false (Option.some_ne_none _) heven
  · -- The one that is left over stands behind pairs, and they leave it alone.
    rw [List.replicate_succ', unescape_append (unescape_pairs k)]
    exact iff_of_true rfl (odd_two_mul_add_one k)

/-- A text with a number of backslashes at its end and no more of them. -/
def EndsInRun (w : List Char) (n : Nat) : Prop :=
  ∃ front, front.getLast? ≠ some '\\' ∧ w = front ++ List.replicate n '\\'

theorem exists_endsInRun (w : List Char) : ∃ n, EndsInRun w n := by
  induction w using List.reverseRecOn with
  | nil => exact ⟨0, [], (Option.some_ne_none '\\').symm, rfl⟩
  | append_singleton w c ih =>
      by_cases hc : c = '\\'
      · rcases ih with ⟨n, front, hfront, rfl⟩
        refine ⟨n + 1, front, hfront, ?_⟩
        rw [hc, List.append_assoc, List.replicate_succ']
      · refine ⟨0, w ++ [c], ?_, (List.append_nil _).symm⟩
        rw [List.getLast?_concat]
        exact fun he => hc (Option.some.inj he)

/-- Read from its end, a text shows its backslashes first. -/
theorem EndsInRun.length_takeWhile (h : EndsInRun w n) :
    (w.reverse.takeWhile (· = '\\')).length = n := by
  rcases h with ⟨front, hfront, rfl⟩
  have hall : ∀ c ∈ List.replicate n '\\', decide (c = '\\') = true := fun c hc =>
    decide_eq_true (List.eq_of_mem_replicate hc)
  have hstop : front.reverse.takeWhile (· = '\\') = [] := by
    cases hrev : front.reverse with
    | nil => rfl
    | cons c rest =>
        refine List.takeWhile_cons_of_neg fun hc => hfront ?_
        rw [List.getLast?_eq_head?_reverse, hrev, ← of_decide_eq_true hc]
        rfl
  rw [List.reverse_append, List.reverse_replicate, List.takeWhile_append_of_pos hall, hstop,
    List.append_nil, List.length_replicate]

/-- No text ends in two numbers of backslashes. -/
theorem endsInRun_unique (hn : EndsInRun w n) (hm : EndsInRun w m) : n = m := by
  rw [← hn.length_takeWhile, ← hm.length_takeWhile]

/-- A text ends in one number of backslashes, and it cannot be read exactly when this
    number is odd. And behind a text that can be read, another one can be read when it can
    alone, and the two mean what each means alone, one behind the other. -/
theorem unescape_fails_on_odd_run :
    (∀ w, ∃ n, (∀ m, EndsInRun w m ↔ m = n) ∧ (unescape w = none ↔ Odd n)) ∧
      ∀ u v w, unescape u = some v → unescape (u ++ w) = (unescape w).map (v ++ ·) := by
  refine ⟨fun w => ?_, fun u v w h => unescape_append h w⟩
  rcases exists_endsInRun w with ⟨n, hn⟩
  refine ⟨n, fun m => ⟨fun hm => endsInRun_unique hm hn, fun he => he ▸ hn⟩, ?_⟩
  rcases hn with ⟨front, hfront, rfl⟩
  -- What stands in front of the backslashes can be read, so they decide alone.
  rcases exists_unescape_of_getLast? hfront with ⟨v, hv⟩
  rw [unescape_append hv, Option.map_eq_none_iff]
  exact unescape_run_eq_none_iff n

/-- A pair of backslashes in front of an escape, and in front of one that has no end. -/
theorem unescape_fails_on_odd_run_behind_pair :
    unescape "a\\\\".toList = some "a\\".toList ∧
      unescape ("a\\\\".toList ++ "\\sb".toList) = some "a\\ b".toList ∧
      unescape ("a\\\\".toList ++ "\\sb\\".toList) = none := by
  have hfront : unescape "a\\\\".toList = some "a\\".toList := by decide
  rcases unescape_fails_on_odd_run with ⟨_, happend⟩
  refine ⟨hfront, ?_, ?_⟩
  · rw [happend _ _ _ hfront]
    decide
  · rw [happend _ _ _ hfront]
    decide

end TagValue

end IrcHarness
