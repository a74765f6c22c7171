import IrcHarness.Proofs.Pattern.MessageFields

/-!
# Building Patterns for Messages

A pattern for messages is built by setting its fields, in any order and some of them
more than once. The parameters can be set in three ways and the tags in two, and all
ways of setting a field set the same field.

Only the last setting of a field counts (`get_build`), so settings of different fields
may change places. A field that was last set to the wildcard is as good as one that was
never set. The two patterns differ, since one of them has an entry that the other one
lacks, but they accept the same messages, those without a source as well
(`accepts_build_iff`).

## Main definitions

* `MessagePattern.Setting`: One setting of a field.
* `MessagePattern.build`: The pattern that settings make.
* `MessagePattern.lastFor`: What a field was last set to.

## Theorems

* `get_build`: A field of a pattern is what it was last set to.
* `Fulfils.mono`: A message has what a pattern asks for that asks for less.
* `accepts_build_iff`: What a pattern that was built accepts.
-/

namespace IrcHarness

namespace MessagePattern

/-- One setting of a field. -/
inductive Setting where
  /-- The command. -/
  | command (p : Pattern)
  /-- Exactly these parameters. -/
  | params (items : List Pattern)
  /-- Parameters that start with these. -/
  | firstParams (items : List Pattern)
  /-- Any pattern for the list of parameters. -/
  | paramsPattern (p : Pattern)
  /-- The source as a whole. -/
  | source (p : Pattern)
  /-- The nickname of the source. -/
  | nick (p : Pattern)
  /-- The user name of the source. -/
  | user (p : Pattern)
  /-- The host of the source. -/
  | host (p : Pattern)
  /-- At least these tags. -/
  | tags (entries : List (String × Pattern))
  /-- Exactly these tags. -/
  | exactTags (entries : List (String × Pattern))
deriving Repr

/-- The field that is set. -/
def Setting.field : Setting → Field
  | .command _ => .command
  | .params _ | .firstParams _ | .paramsPattern _ => .params
  | .source _ => .source
  | .nick _ => .nick
  | .user _ => .user
  | .host _ => .host
  | .tags _ | .exactTags _ => .tags

/-- The pattern that the field is set to. -/
def Setting.pattern : Setting → Pattern
  | .command p | .paramsPattern p | .source p | .nick p | .user p | .host p => p
  | .params items => .closedList items
  | .firstParams items => .openList items
  | .tags entries => .openMap entries
  | .exactTags entries => .closedMap entries

/-- A pattern with one field set. -/
def set (p : MessagePattern) : Setting → MessagePattern
  | .command q => { p with command := some q }
  | .params items => p.withParams items
  | .firstParams items => p.withFirstParams items
  | .paramsPattern q => { p with params := some q }
  | .source q => { p with source := some q }
  | .nick q => { p with nick := some q }
  | .user q => { p with user := some q }
  | .host q => { p with host := some q }
  | .tags entries => p.withTags entries
  | .exactTags entries => p.withExactTags entries

/-- The pattern that settings make, one after the other. -/
def build (settings : List Setting) : MessagePattern :=
  settings.foldl set any

/-- What a field was last set to. -/
def lastFor (settings : List Setting) (f : Field) : Option Pattern :=
  (settings.reverse.find? fun s => s.field = f).map Setting.pattern

theorem get_set (p : MessagePattern) (s : Setting) (f : Field) :
    (p.set s).get f = if f = s.field then some s.pattern else p.get f := by
  cases s <;> cases f <;> rfl

theorem eq_of_get {p q : MessagePattern} (h : ∀ f, p.get f = q.get f) : p = q := by
  cases p
  cases q
  rw [mk.injEq]
  exact ⟨h .command, h .params, h .source, h .nick, h .user, h .host, h .tags⟩

/-- Settings of different fields may change places. -/
theorem set_comm {a b : Setting} (h : a.field ≠ b.field) (p : MessagePattern) :
    (p.set a).set b = (p.set b).set a := by
  refine eq_of_get fun f => ?_
  simp only [get_set]
  by_cases hb : f = b.field
  · rw [if_pos hb, if_pos hb, if_neg fun ha => h (ha.symm.trans hb)]
  · rw [if_neg hb, if_neg hb]

variable (front back settings : List Setting) (f : Field)

theorem lastFor_append : lastFor (front ++ back) f = (lastFor back f).or (lastFor front f) := by
  rw [lastFor, List.reverse_append, List.find?_append, Option.map_or]
  rfl

theorem lastFor_singleton (s : Setting) :
    lastFor [s] f = if f = s.field then some s.pattern else none := by
  by_cases h : f = s.field
  · simp [lastFor, h]
  · simp [lastFor, h, Ne.symm h]

/-- A field of a pattern that was built is what it was last set to. -/
theorem get_build : (build settings).get f = lastFor settings f := by
  induction settings using List.reverseRecOn with
  | nil => cases f <;> rfl
  | append_singleton settings s ih =>
      rw [build, List.foldl_concat, get_set, lastFor_append, lastFor_singleton]
      split
      · rfl
      · exact ih

variable {front back settings f}

theorem lastFor_eq_none (h : ∀ s ∈ settings, s.field ≠ f) : lastFor settings f = none := by
  rw [lastFor, Option.map_eq_none_iff, List.find?_eq_none]
  intro s hs
  rw [decide_eq_true_eq]
  exact h s (List.mem_reverse.1 hs)

/-- Without the settings of one field, that field was never set, and the others are
    as they were. -/
theorem lastFor_filter (g : Field) :
    lastFor (settings.filter fun s => s.field ≠ g) f =
      if f = g then none else lastFor settings f := by
  split
  · next h =>
      refine lastFor_eq_none fun s hs => ?_
      rw [h]
      exact of_decide_eq_true (List.mem_filter.1 hs).2
  · next h =>
      rw [lastFor, lastFor, ← List.filter_reverse, List.find?_filter]
      refine congrArg (Option.map Setting.pattern) (List.find?_congr fun s _ => ?_)
      rw [decide_eq_decide, decide_eq_true_eq, decide_eq_true_eq]
      exact ⟨And.right, fun hs => ⟨hs ▸ h, hs⟩⟩

/-- A field that is not set again stays as it is, and the others are as they would be
    without this setting. -/
theorem lastFor_middle {s : Setting} (hlast : ∀ u ∈ back, u.field ≠ s.field) :
    lastFor (front ++ s :: back) f =
      if f = s.field then some s.pattern else lastFor (front ++ back) f := by
  rw [List.append_cons, lastFor_append, lastFor_append, lastFor_singleton, lastFor_append]
  split
  · next h => rw [lastFor_eq_none (h ▸ hlast), Option.none_or, Option.some_or]
  · rw [Option.none_or]

/-- A pattern that was built accepts a message exactly when the message has what each
    field was last set to. Settings of different fields may change places, and a field
    that was last set to the wildcard may be left unset. -/
theorem accepts_build_iff (settings : List Setting) (m : Message) :
    ((build settings).toPattern.accepts m.value = true ↔ Fulfils (lastFor settings) m) ∧
      (∀ a b back, a.field ≠ b.field →
        build (settings ++ a :: b :: back) = build (settings ++ b :: a :: back)) ∧
      ∀ s back, s.pattern = .wildcard → (∀ u ∈ back, u.field ≠ s.field) →
        (build (settings ++ s :: back)).toPattern.accepts m.value =
          (build ((settings ++ back).filter fun u => u.field ≠ s.field)).toPattern.accepts
            m.value := by
  have haccepts : ∀ settings : List Setting,
      (build settings).toPattern.accepts m.value = true ↔ Fulfils (lastFor settings) m := by
    intro settings
    rw [accepts_toPattern_iff, funext (get_build settings)]
  refine ⟨haccepts settings, fun a b back h => ?_, fun s back hwild hlast => ?_⟩
  · rw [build, build, List.foldl_append, List.foldl_append, List.foldl_cons, List.foldl_cons,
      List.foldl_cons, List.foldl_cons, set_comm h]
  · rw [Bool.eq_iff_iff, haccepts, haccepts]
    constructor
    · refine fun h => h.mono fun f q hq => .inr ?_
      rw [lastFor_filter] at hq
      split at hq
      · cases hq
      · next hf =>
          rw [lastFor_middle hlast, if_neg hf]
          exact hq
    · refine fun h => h.mono fun f q hq => ?_
      rw [lastFor_middle hlast] at hq
      split at hq
      · exact .inl ((Option.some.inj hq).symm.trans hwild)
      · next hf =>
          rw [lastFor_filter, if_neg hf]
          exact .inr hq

/-- The nickname may be anything, so a source need not be there. -/
example : (build [.command (.text "PING"), .nick .wildcard]).toPattern.accepts
    (Message.value ⟨[], none, "PING", ["x"]⟩) = true := by rfl

end MessagePattern

end IrcHarness
