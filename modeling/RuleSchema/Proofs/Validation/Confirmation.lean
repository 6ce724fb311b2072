import RuleSchema.Proofs.Types.Soundness

/-!
# Outcomes that confirm a value

An outcome confirms a value when it is just that value, or else, where failing is an
option, when checking failed.  So one argument serves two statements: that a second check
succeeds with the same value, and that it can have no other value if it succeeds.
-/

namespace RuleSchema

namespace Outcome

variable {α β : Type} {mayFail : Prop}

/-- Something was violated, or checking was broken off. -/
def Fails (outcome : Outcome α) : Prop := outcome.violations ≠ [] ∨ outcome.overflow = true

/-- The outcome is a value without violations, or fails where that may be. -/
def Confirms (mayFail : Prop) (outcome : Outcome α) (value : α) : Prop :=
  outcome = found value ∨ mayFail ∧ outcome.Fails

theorem confirms_found {value : α} : (found value).Confirms mayFail value := .inl rfl

theorem Confirms.eq_found {outcome : Outcome α} {value : α}
    (confirmed : outcome.Confirms False value) : outcome = found value :=
  confirmed.resolve_right fun failed => failed.1

theorem Confirms.eq_found_of_clean {outcome : Outcome α} {value : α}
    (confirmed : outcome.Confirms mayFail value) (clean : outcome.violations = [])
    (quiet : outcome.overflow = false) : outcome = found value := by
  rcases confirmed with found | ⟨-, violated | broken⟩
  · exact found
  · exact absurd clean violated
  · rw [quiet] at broken
    cases broken

/-- An outcome without alternatives confirms its only value, or fails. -/
theorem Explained.confirms_unit {outcome : Outcome Unit} (explained : outcome.Explained)
    (allowed : mayFail) : outcome.Confirms mayFail () := by
  by_cases clean : outcome.violations = []
  · cases quiet : outcome.overflow with
    | true => exact .inr ⟨allowed, .inr quiet⟩
    | false =>
        rcases explained clean quiet with ⟨⟨⟩, given⟩
        rcases outcome with ⟨value, violations, overflow⟩
        subst given clean quiet
        exact .inl rfl
  · exact .inr ⟨allowed, .inl clean⟩

@[simp]
theorem ofExcept_ok (path : DocPath) (document : Document) (value : α) :
    ofExcept path document (.ok value) = found value := rfl

@[simp]
theorem ofVerdict_accepted (path : DocPath) (document : Document) (value : α) :
    ofVerdict path document value .accepted = found value := rfl

theorem found_andThen (value : α) (next : α → Outcome β) :
    (found value).andThen next = next value := by
  rw [andThen_of_value rfl]
  cases next value
  simp [found]

theorem Fails.andThen {outcome : Outcome α} (fails : outcome.Fails) (next : α → Outcome β) :
    (outcome.andThen next).Fails := by
  cases given : outcome.value with
  | none =>
      rw [andThen_of_none given]
      exact fails
  | some value =>
      rw [andThen_of_value given]
      rcases fails with violated | broken
      · exact .inl (List.append_ne_nil_of_left_ne_nil violated _)
      · exact .inr (by simp [broken])

theorem Fails.both_left {first : Outcome α} (fails : first.Fails) (second : Outcome β) :
    (both first second).Fails := by
  rcases fails with violated | broken
  · exact .inl (List.append_ne_nil_of_left_ne_nil violated _)
  · exact .inr (by simp [both, broken])

theorem Fails.both_right {second : Outcome β} (fails : second.Fails) (first : Outcome α) :
    (both first second).Fails := by
  rcases fails with violated | broken
  · exact .inl (List.append_ne_nil_of_right_ne_nil _ violated)
  · exact .inr (by simp [both, broken])

theorem Confirms.map {outcome : Outcome α} {value : α}
    (confirmed : outcome.Confirms mayFail value) (function : α → β) :
    (outcome.map function).Confirms mayFail (function value) := by
  rcases confirmed with rfl | failed
  · exact .inl rfl
  · exact .inr failed

theorem Confirms.andThen {outcome : Outcome α} {value : α} {next : α → Outcome β} {result : β}
    (confirmed : outcome.Confirms mayFail value)
    (following : (next value).Confirms mayFail result) :
    (outcome.andThen next).Confirms mayFail result := by
  rcases confirmed with rfl | ⟨allowed, fails⟩
  · rw [found_andThen]
    exact following
  · exact .inr ⟨allowed, fails.andThen next⟩

theorem Confirms.both {first : Outcome α} {second : Outcome β} {left : α} {right : β}
    (firstConfirmed : first.Confirms mayFail left)
    (secondConfirmed : second.Confirms mayFail right) :
    (Outcome.both first second).Confirms mayFail (left, right) := by
  rcases firstConfirmed with rfl | ⟨allowed, fails⟩
  · rcases secondConfirmed with rfl | ⟨allowed, fails⟩
    · exact .inl rfl
    · exact .inr ⟨allowed, fails.both_right _⟩
  · exact .inr ⟨allowed, fails.both_left second⟩

/-- A value of a collection is given by one of its outcomes. -/
theorem exists_gives_of_collected {outcomes : List (Outcome α)} {values : List α} {value : α}
    (given : (collect outcomes).Gives values) (member : value ∈ values) :
    ∃ outcome ∈ outcomes, outcome.Gives value := by
  rcases gives_of_collect given with ⟨sameLength, each⟩
  rcases List.getElem?_of_mem member with ⟨position, isValue⟩
  have inside : position < outcomes.length := by
    rw [← sameLength]
    exact (List.getElem?_eq_some_iff.mp isValue).1
  have isOutcome := List.getElem?_eq_getElem inside
  exact ⟨outcomes[position], List.mem_of_getElem? isOutcome,
    each position _ value isOutcome isValue⟩

/-- A collection confirms values that its outcomes confirm one by one. -/
theorem confirms_collect {outcomes : List (Outcome α)} {values : List α}
    (sameLength : values.length = outcomes.length)
    (each : ∀ (position : Nat) outcome value, outcomes[position]? = some outcome →
      values[position]? = some value → outcome.Confirms mayFail value) :
    (collect outcomes).Confirms mayFail values := by
  induction outcomes generalizing values with
  | nil =>
      rw [List.eq_nil_of_length_eq_zero sameLength]
      exact confirms_found
  | cons head rest ih =>
      cases values with
      | nil => cases sameLength
      | cons first others =>
          have here := each 0 head first rfl rfl
          have later := ih (Nat.succ.inj sameLength) fun position => each (position + 1)
          exact (here.both later).map fun both => both.1 :: both.2

/-- Outcomes of one kind for each of some parts. -/
theorem confirms_collect_map {γ : Type} {parts : List γ} {outcome : γ → Outcome α}
    {value : γ → α} (each : ∀ part ∈ parts, (outcome part).Confirms mayFail (value part)) :
    (collect (parts.map outcome)).Confirms mayFail (parts.map value) := by
  apply confirms_collect (by simp)
  intro position result found isOutcome isValue
  rw [List.getElem?_map, Option.map_eq_some_iff] at isOutcome isValue
  rcases isOutcome with ⟨part, here, rfl⟩
  rcases isValue with ⟨other, same, rfl⟩
  rw [here, Option.some.injEq] at same
  subst same
  exact each part (List.mem_of_getElem? here)

/-- Checks of some parts, taken together as one check. -/
theorem confirms_collect_checks {γ : Type} {parts : List γ} {outcome : γ → Outcome Unit}
    (each : ∀ part ∈ parts, (outcome part).Confirms mayFail ()) :
    ((collect (parts.map outcome)).map fun _ => ()).Confirms mayFail () := by
  have together : (collect (parts.map outcome)).Confirms mayFail (parts.map fun _ => ()) :=
    confirms_collect_map each
  exact together.map fun _ => ()

end Outcome

open Outcome

/-! ## Validators -/

namespace BoundValidator

variable {mayFail : Prop}

theorem runOn_of_accepted {validator : BoundValidator} {seen : NameMap Value} (path : DocPath)
    {value : Value} (accepted : validator.call (some value) seen = .accepted) :
    validator.runOn seen path value = .found () := by
  rw [runOn.eq_def, accepted]
  rfl

theorem runField_of_accepted {validator : BoundValidator} {seen : NameMap Value}
    (path : DocPath) {value : Value}
    (accepted : ∀ subject ∈ validator.subjects value,
      validator.call (some subject) seen = .accepted) :
    (validator.runField seen path value).Confirms mayFail () := by
  unfold subjects at accepted
  unfold runField
  split
  · next items each =>
    simp only [each] at accepted
    apply confirms_collect_checks
    rintro ⟨item, position⟩ member
    exact .inl (runOn_of_accepted _ (accepted item (List.fst_mem_of_mem_zipIdx member)))
  · next entries each =>
    simp only [each] at accepted
    apply confirms_collect_checks
    rintro ⟨name, item⟩ member
    exact .inl (runOn_of_accepted _ (accepted item (List.mem_map_of_mem member)))
  · next noList noMap =>
    apply Or.inl
    apply runOn_of_accepted
    apply accepted
    split
    · next items each => exact absurd rfl (noList items each)
    · next entries each => exact absurd rfl (noMap entries each)
    · exact List.mem_singleton_self _

/-- Validators that accept are confirmed to; others fail, where that may be. -/
theorem confirms_runFieldAll {validators : List BoundValidator} {seen : NameMap Value}
    (path : DocPath) {value : Value}
    (accepted : mayFail ∨ ∀ validator ∈ validators, ∀ subject ∈ validator.subjects value,
      validator.call (some subject) seen = .accepted) :
    (runFieldAll validators seen path value).Confirms mayFail () := by
  rcases accepted with allowed | accepted
  · exact explained_runFieldAll.confirms_unit allowed
  · apply confirms_collect_checks
    intro validator member
    exact runField_of_accepted path (accepted validator member)

theorem confirms_runRecordAll {validators : List BoundValidator} {values : NameMap Value}
    (path : DocPath)
    (accepted : mayFail ∨ ∀ validator ∈ validators, validator.call none values = .accepted) :
    (runRecordAll validators values path).Confirms mayFail () := by
  rcases accepted with allowed | accepted
  · exact explained_runRecordAll.confirms_unit allowed
  · apply confirms_collect_checks
    intro validator member
    apply Or.inl
    rw [accepted validator member]
    rfl

end BoundValidator

/-! ## Fields and records -/

/-- A field is confirmed by its coercion and by the validators that pass. -/
theorem Field.confirms_checked {mayFail : Prop} {validators : List BoundValidator}
    {coerce : Document → Outcome Value} {seen : NameMap Value} (path : DocPath)
    {document : Document} {value : Value} (coerced : (coerce document).Confirms mayFail value)
    (passes : mayFail ∨ ∀ validator ∈ validators, validator.Passes seen document value) :
    (checked validators coerce seen path document).Confirms mayFail value := by
  refine Confirms.andThen (BoundValidator.confirms_runFieldAll path ?_)
    (coerced.andThen ((BoundValidator.confirms_runFieldAll path ?_).map fun _ => value))
  · refine passes.imp_right fun passes validator member subject => ?_
    rcases List.mem_filter.mp member with ⟨known, pre⟩
    simpa [BoundValidator.Passes, pre] using passes validator known subject
  · refine passes.imp_right fun passes validator member subject => ?_
    rcases List.mem_filter.mp member with ⟨known, notPre⟩
    have late : validator.options.pre = false := by simpa using notPre
    simpa [BoundValidator.Passes, late] using passes validator known subject

theorem Field.confirms_coerceFields_cons {store : FileStore} {mayFail : Prop}
    {validators : List BoundValidator} {input : NameMap Document} {path : DocPath} {head : Field}
    {rest : List Field} {seen final : NameMap Value} {value : Value}
    (here : (outcome store validators input path seen head).Confirms mayFail value)
    (others : (coerceFields store validators input path rest
      (seen.extend head.name (some value))).Confirms mayFail final) :
    (coerceFields store validators input path (head :: rest) seen).Confirms mayFail final := by
  rw [coerceFields_cons]
  rcases here with same | ⟨allowed, fails⟩
  · simp only [same, found, List.nil_append, Bool.false_or]
    exact others
  · right
    refine ⟨allowed, ?_⟩
    rcases fails with violated | broken
    · exact .inl (List.append_ne_nil_of_left_ne_nil violated _)
    · exact .inr (by simp [broken])

theorem RecordType.confirms_closed {mayFail : Prop} {validators : List BoundValidator}
    (path : DocPath) {fields : Outcome (NameMap Value)} {values : NameMap Value}
    (confirmed : fields.Confirms mayFail values)
    (accepted : mayFail ∨ ∀ validator ∈ validators, validator.options.pre = false →
      validator.call none values = .accepted) :
    (closed validators path fields).Confirms mayFail values := by
  rw [closed]
  split
  · refine confirmed.andThen
      ((BoundValidator.confirms_runRecordAll path ?_).map fun _ => values)
    refine accepted.imp_right fun accepted validator member => ?_
    rcases List.mem_filter.mp member with ⟨known, notPre⟩
    exact accepted validator known (by simpa using notPre)
  · next violated =>
    rcases confirmed with rfl | ⟨allowed, -⟩
    · exact absurd rfl violated
    · exact .inr ⟨allowed, .inl fun clean => violated (List.isEmpty_iff.mpr clean)⟩

end RuleSchema
