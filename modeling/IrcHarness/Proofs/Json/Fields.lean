import IrcHarness.Json.Fields
import Mathlib

/-!
# Fields in Order

What assignments in any order come to. Each field is one of the assignments,
and the keys ascend, so no key stands twice. When no key was assigned twice, the
fields are the assignments in another order (`ofList_perm`), and a key is looked
up in one as in the other.

## Theorems

* `hasKey_iff`: A key has a value when some field is under it.
* `find?_append_of_ne`: Fields without a key may be passed over.
* `eq_of_mem`: A key stands only once among keys that ascend.
* `ofList_spec`: The fields that assignments describe.
* `find?_eq_some_iff`: With distinct keys, a field is found under its key.
* `ofList_perm`: With distinct keys, no assignment is replaced.
* `find?_ofList`: With distinct keys, what was assigned is found.
* `find?_eq_of_ofList_eq`: With distinct keys, equal fields have the same under each key.
* `ofList_eq_iff`: With distinct keys, only the order of assignments is lost.
* `filter_ofList`: With distinct keys, assignments are left out before or after.
* `forall₂_iff_find?`: Fields that ascend are compared key by key.
-/

namespace IrcHarness

namespace Fields

variable {α : Type}

theorem mem_keys_iff {key : String} {fields : List (String × α)} :
    key ∈ fields.map Prod.fst ↔ ∃ value, (key, value) ∈ fields := by
  rw [List.mem_map]
  constructor
  · rintro ⟨e, he, rfl⟩
    exact ⟨e.2, he⟩
  · rintro ⟨value, he⟩
    exact ⟨(key, value), he, rfl⟩

/-- A key has a value exactly when some field is under it. -/
theorem hasKey_iff (key : String) (fields : List (String × α)) :
    hasKey key fields = true ↔ ∃ value, (key, value) ∈ fields := by
  induction fields with
  | nil => simp [hasKey, find?]
  | cons e rest ih =>
      rcases e with ⟨k, v⟩
      unfold hasKey at ih ⊢
      rw [find?]
      by_cases hk : k = key
      · rw [if_pos hk, hk]
        exact iff_of_true rfl ⟨v, List.mem_cons_self⟩
      · rw [if_neg hk, ih]
        refine exists_congr fun value => ⟨List.mem_cons_of_mem _, fun h => ?_⟩
        refine (List.mem_cons.1 h).resolve_left fun he => hk ?_
        exact (congrArg Prod.fst he).symm

/-- Fields that lack a key may be passed over when it is looked for. -/
theorem find?_append_of_ne {key : String} {front : List (String × α)}
    (h : ∀ e ∈ front, e.1 ≠ key) (back : List (String × α)) :
    find? key (front ++ back) = find? key back := by
  induction front with
  | nil => rfl
  | cons e front ih =>
      rw [List.cons_append, find?, if_neg (h e List.mem_cons_self)]
      exact ih fun f hf => h f (List.mem_cons_of_mem e hf)

/-- A key stands only once among keys that ascend. -/
theorem eq_of_mem {fields : List (String × α)} (h : fields.Pairwise fun e f => e.1 < f.1)
    {key : String} {v w : α} (hv : (key, v) ∈ fields) (hw : (key, w) ∈ fields) : v = w := by
  have hkeys : (fields.map Prod.fst).Nodup := List.pairwise_map.2 (h.imp fun hlt => hlt.ne)
  exact congrArg Prod.snd (List.inj_on_of_nodup_map hkeys hv hw rfl)

/-- What an insertion leaves was there before or is what was inserted. -/
theorem mem_insert {key : String} {value : α} {fields : List (String × α)} {e : String × α}
    (h : e ∈ insert key value fields) : e = (key, value) ∨ e ∈ fields := by
  induction fields with
  | nil => exact .inl (List.mem_singleton.1 h)
  | cons f rest ih =>
      rw [insert] at h
      split at h
      · exact List.mem_cons.1 h
      · split at h
        · exact (List.mem_cons.1 h).imp_right (List.mem_cons_of_mem f)
        · rcases List.mem_cons.1 h with rfl | h
          · exact .inr List.mem_cons_self
          · exact (ih h).imp_right (List.mem_cons_of_mem f)

/-- An insertion keeps the keys in ascending order. -/
theorem pairwise_insert {fields : List (String × α)} (h : fields.Pairwise fun e f => e.1 < f.1)
    (key : String) (value : α) : (insert key value fields).Pairwise fun e f => e.1 < f.1 := by
  induction fields with
  | nil => exact List.pairwise_singleton _ _
  | cons f rest ih =>
      rcases List.pairwise_cons.1 h with ⟨hf, hrest⟩
      rw [insert]
      split
      · next hlt =>
        refine List.pairwise_cons.2 ⟨fun e he => ?_, h⟩
        rcases List.mem_cons.1 he with rfl | he
        · exact hlt
        · exact hlt.trans (hf e he)
      · next hnlt =>
        split
        · next heq => exact List.pairwise_cons.2 ⟨fun e he => heq ▸ hf e he, hrest⟩
        · next hne =>
          refine List.pairwise_cons.2 ⟨fun e he => ?_, ih hrest⟩
          rcases mem_insert he with rfl | he
          · exact lt_of_le_of_ne (not_lt.1 hnlt) (Ne.symm hne)
          · exact hf e he

/-- The fields that assignments describe ascend, and each is one of the
    assignments. -/
theorem ofList_spec (entries : List (String × α)) :
    (ofList entries).Pairwise (fun e f => e.1 < f.1) ∧ ∀ e ∈ ofList entries, e ∈ entries := by
  have hfold : ∀ (entries fields : List (String × α)),
      fields.Pairwise (fun e f => e.1 < f.1) →
      (entries.foldl (fun fields e => insert e.1 e.2 fields) fields).Pairwise
          (fun e f => e.1 < f.1) ∧
        ∀ e ∈ entries.foldl (fun fields e => insert e.1 e.2 fields) fields,
          e ∈ fields ∨ e ∈ entries := by
    intro entries
    induction entries with
    | nil => exact fun fields h => ⟨h, fun e he => .inl he⟩
    | cons a entries ih =>
        intro fields h
        rcases ih _ (pairwise_insert h a.1 a.2) with ⟨hkeys, hmem⟩
        refine ⟨hkeys, fun e he => ?_⟩
        rcases hmem e he with he | he
        · rcases mem_insert he with rfl | he
          · exact .inr List.mem_cons_self
          · exact .inl he
        · exact .inr (List.mem_cons_of_mem a he)
  rcases hfold entries [] List.Pairwise.nil with ⟨hkeys, hmem⟩
  exact ⟨hkeys, fun e he => (hmem e he).resolve_left List.not_mem_nil⟩

theorem mem_of_find? {key : String} {fields : List (String × α)} {value : α}
    (h : find? key fields = some value) : (key, value) ∈ fields := by
  induction fields with
  | nil => cases h
  | cons f rest ih =>
      rw [find?] at h
      split at h
      · next hk =>
          cases h
          exact hk ▸ List.mem_cons_self
      · exact List.mem_cons_of_mem f (ih h)

/-- With distinct keys, a field is found under its key. -/
theorem find?_eq_some_iff {fields : List (String × α)} (hd : (fields.map Prod.fst).Nodup)
    {key : String} {value : α} : find? key fields = some value ↔ (key, value) ∈ fields := by
  refine ⟨mem_of_find?, fun h => ?_⟩
  rcases Option.isSome_iff_exists.1 ((hasKey_iff key fields).2 ⟨value, h⟩) with ⟨other, hother⟩
  have hsame : other = value :=
    congrArg Prod.snd (List.inj_on_of_nodup_map hd (mem_of_find? hother) h rfl)
  rw [hother, hsame]

/-- An insertion under a new key adds a field. -/
theorem insert_perm {key : String} {fields : List (String × α)} (h : key ∉ fields.map Prod.fst)
    (value : α) : (insert key value fields).Perm ((key, value) :: fields) := by
  induction fields with
  | nil => exact List.Perm.refl _
  | cons f rest ih =>
      rw [List.map_cons, List.mem_cons, not_or] at h
      rw [insert]
      split
      · exact List.Perm.refl _
      · rw [if_neg h.1]
        exact ((ih h.2).cons f).trans (List.Perm.swap _ _ _)

/-- With distinct keys, the fields that assignments describe are the assignments in
    another order. -/
theorem ofList_perm {entries : List (String × α)} (hd : (entries.map Prod.fst).Nodup) :
    (ofList entries).Perm entries := by
  induction entries using List.reverseRecOn with
  | nil => exact List.Perm.refl _
  | append_singleton entries e ih =>
      rw [List.map_append, List.nodup_append] at hd
      have hperm := ih hd.1
      have hnew : e.1 ∉ (ofList entries).map Prod.fst := by
        rw [(hperm.map Prod.fst).mem_iff]
        exact fun h => hd.2.2 e.1 h e.1 (List.mem_singleton_self _) rfl
      rw [ofList, List.foldl_concat]
      refine (insert_perm hnew e.2).trans ((hperm.cons e).trans ?_)
      exact (List.perm_append_singleton e entries).symm

/-- With distinct keys, what was assigned is found. -/
theorem find?_ofList {entries : List (String × α)} (hd : (entries.map Prod.fst).Nodup)
    (key : String) : find? key (ofList entries) = find? key entries := by
  have hperm := ofList_perm hd
  have hd' : ((ofList entries).map Prod.fst).Nodup := (hperm.map Prod.fst).nodup_iff.2 hd
  refine Option.ext fun value => ?_
  rw [find?_eq_some_iff hd', find?_eq_some_iff hd, hperm.mem_iff]

/-- With distinct keys, assignments that come to the same fields have the same under each
    key. -/
theorem find?_eq_of_ofList_eq {entries others : List (String × α)}
    (hd : (entries.map Prod.fst).Nodup) (hd' : (others.map Prod.fst).Nodup)
    (h : ofList entries = ofList others) (key : String) :
    find? key entries = find? key others := by
  rw [← find?_ofList hd, h, find?_ofList hd']

/-- With distinct keys, the same fields come of the same assignments in any order, and of
    no others. -/
theorem ofList_eq_iff {entries others : List (String × α)} (hd : (entries.map Prod.fst).Nodup)
    (hd' : (others.map Prod.fst).Nodup) : ofList entries = ofList others ↔ entries.Perm others := by
  constructor
  · intro h
    exact (ofList_perm hd).symm.trans (h ▸ ofList_perm hd')
  · intro h
    have hperm := (ofList_perm hd).trans (h.trans (ofList_perm hd').symm)
    refine hperm.eq_of_pairwise (fun e f _ _ hlt hgt => ?_) (ofList_spec entries).1
      (ofList_spec others).1
    exact absurd (hlt.trans hgt) (lt_irrefl _)

/-- With distinct keys, it makes no difference whether assignments are left out before
    or after. -/
theorem filter_ofList {entries : List (String × α)} (hd : (entries.map Prod.fst).Nodup)
    (p : String × α → Bool) : (ofList entries).filter p = ofList (entries.filter p) := by
  have hd' : ((entries.filter p).map Prod.fst).Nodup := hd.sublist (List.filter_sublist.map _)
  have hperm := ((ofList_perm hd).filter p).trans (ofList_perm hd').symm
  refine hperm.eq_of_pairwise (fun e f _ _ hlt hgt => ?_) ((ofList_spec entries).1.filter p)
    (ofList_spec (entries.filter p)).1
  exact absurd (hlt.trans hgt) (lt_irrefl _)

theorem le_of_mem_cons {f : String × α} {fields : List (String × α)} (hf : ∀ e ∈ fields, f.1 < e.1)
    {key : String} {value : α} (h : (key, value) ∈ f :: fields) : f.1 ≤ key := by
  rcases List.mem_cons.1 h with he | hmem
  · exact le_of_eq (congrArg Prod.fst he).symm
  · exact (hf _ hmem).le

/-- Fields that ascend are related one by one exactly when every field on the right is
    related to what is found under its key on the left, and no other keys are there. -/
theorem forall₂_iff_find? {β : Type} {R : α → β → Prop} {fs : List (String × α)}
    {gs : List (String × β)} (hfs : fs.Pairwise fun e f => e.1 < f.1)
    (hgs : gs.Pairwise fun e f => e.1 < f.1) :
    List.Forall₂ (fun f g => f.1 = g.1 ∧ R f.2 g.2) fs gs ↔
      (∀ g ∈ gs, ∃ v, find? g.1 fs = some v ∧ R v g.2) ∧ ∀ f ∈ fs, ∃ w, (f.1, w) ∈ gs := by
  induction fs generalizing gs with
  | nil =>
      rw [List.forall₂_nil_left_iff]
      constructor
      · rintro rfl
        exact ⟨fun g hg => absurd hg List.not_mem_nil, fun f hf => absurd hf List.not_mem_nil⟩
      · rintro ⟨hfound, -⟩
        refine List.eq_nil_iff_forall_not_mem.2 fun g hg => ?_
        rcases hfound g hg with ⟨v, hv, -⟩
        cases hv
  | cons f fs ih =>
      cases gs with
      | nil =>
          refine iff_of_false (fun h => nomatch h) fun h => ?_
          rcases h.2 f List.mem_cons_self with ⟨w, hw⟩
          exact absurd hw List.not_mem_nil
      | cons g gs =>
          rcases List.pairwise_cons.1 hfs with ⟨hf, hfs⟩
          rcases List.pairwise_cons.1 hgs with ⟨hg, hgs⟩
          rw [List.forall₂_cons, ih hfs hgs]
          constructor
          · rintro ⟨⟨hkey, hrel⟩, hfound, hknown⟩
            refine ⟨List.forall_mem_cons.2 ⟨⟨f.2, if_pos hkey, hrel⟩, fun g' hg' => ?_⟩,
              List.forall_mem_cons.2 ⟨⟨g.2, by rw [hkey]; exact List.mem_cons_self⟩,
                fun f' hf' => ?_⟩⟩
            · rw [find?, if_neg (hkey ▸ (hg g' hg').ne)]
              exact hfound g' hg'
            · exact (hknown f' hf').imp fun w => List.mem_cons_of_mem g
          · rintro ⟨hfound, hknown⟩
            rcases List.forall_mem_cons.1 hfound with ⟨⟨v, hv, hrel⟩, hfound⟩
            rcases List.forall_mem_cons.1 hknown with ⟨⟨w, hw⟩, hknown⟩
            -- Each of the first keys is on the other side too, so neither is the smaller one.
            have hkey : f.1 = g.1 :=
              le_antisymm (le_of_mem_cons hf (mem_of_find? hv)) (le_of_mem_cons hg hw)
            rw [find?, if_pos hkey, Option.some.injEq] at hv
            refine ⟨⟨hkey, hv ▸ hrel⟩, fun g' hg' => ?_, fun f' hf' => ?_⟩
            · rcases hfound g' hg' with ⟨v', hv', hrel'⟩
              rw [find?, if_neg (hkey ▸ (hg g' hg').ne)] at hv'
              exact ⟨v', hv', hrel'⟩
            · rcases hknown f' hf' with ⟨w', hw'⟩
              refine ⟨w', (List.mem_cons.1 hw').resolve_left fun he => ?_⟩
              exact (hf f' hf').ne (hkey.trans (congrArg Prod.fst he).symm)

end Fields

end IrcHarness
