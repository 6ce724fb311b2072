import RuleSchema.Proofs.Validation.Outcomes

/-!
# Reporting to one list

Checks can share one list of violations, which each of them is handed and hands on with what
it has to add.  An outcome says what a check adds, whatever the list held before; then checks
that are run one after another add what their outcomes together have.

A check keeps in step with the list if what it adds lies at or below its path, and is nothing
where it gives a value.
-/

namespace RuleSchema

/-- A check that is handed what was reported so far; its outcome has all of the list. -/
abbrev Reporting (α : Type) := List Violation → Outcome α

namespace Reporting

variable {α β : Type}

/-- A check that finds a value and reports nothing. -/
def found (value : α) : Reporting α := fun reported => ⟨some value, reported, false⟩

/-- A check that reports a violation and has no value. -/
def push (violation : Violation) : Reporting α :=
  fun reported => ⟨none, reported ++ [violation], false⟩

/-- A check that is broken off. -/
def brokenOff : Reporting α := fun reported => ⟨none, reported, true⟩

/-- A check that reports a mismatch. -/
def mismatch (path : DocPath) (document : Document) (message : String) : Reporting α :=
  push ⟨path, .typeMismatch, some document, message⟩

/-- What a computation finds, with its complaint reported as a mismatch. -/
def ofExcept (path : DocPath) (document : Document) : Except String α → Reporting α
  | .ok value => found value
  | .error message => mismatch path document message

/-- A value as far as a verdict accepts it. -/
def ofVerdict (path : DocPath) (document : Document) (value : α) : Verdict → Reporting α
  | .accepted => found value
  | .rejected message => mismatch path document message
  | .overflow => brokenOff

/-- The check with its value changed. -/
def map (function : α → β) (check : Reporting α) : Reporting β :=
  fun reported => (check reported).map function

/-- Go on with the value, if there is one, and with the list. -/
def andThen (check : Reporting α) (next : α → Reporting β) : Reporting β := fun reported =>
  let first := check reported
  match first.value with
  | none => ⟨none, first.violations, first.overflow⟩
  | some value =>
      let second := next value first.violations
      ⟨second.value, second.violations, first.overflow || second.overflow⟩

/-- Two checks one after another, also if the first finds nothing. -/
def both (check : Reporting α) (next : Reporting β) : Reporting (α × β) := fun reported =>
  let first := check reported
  let second := next first.violations
  { value :=
      match first.value, second.value with
      | some left, some right => some (left, right)
      | _, _ => none
    violations := second.violations
    overflow := first.overflow || second.overflow }

/-- Checks one after another; all of them run, also after one that finds nothing. -/
def each : List (Reporting α) → Reporting (List α)
  | [] => found []
  | check :: rest => (both check (each rest)).map fun (value, values) => value :: values

/-- A check adds what an outcome has, whatever the list held before. -/
def Adds (check : Reporting α) (outcome : Outcome α) : Prop :=
  ∀ reported, check reported =
    ⟨outcome.value, reported ++ outcome.violations, outcome.overflow⟩

/--
A check adds what an outcome has.  This lies at or below a path, and beside a value it is
nothing.
-/
structure InStep (path : DocPath) (check : Reporting α) (outcome : Outcome α) : Prop where
  adds : check.Adds outcome
  located : ∀ violation ∈ outcome.violations, path <+: violation.path
  clean : ∀ value, outcome.value = some value → outcome.violations = []

/--
A check reports what an outcome has: whatever the list held, it gives the value of the outcome
and appends the violations.  Unless it was broken off, a value is missing exactly if there is a
violation, and all of these lie at or below the path.
-/
structure Reports (path : DocPath) (check : Reporting α) (outcome : Outcome α) : Prop where
  appends : ∀ reported, check reported =
    ⟨outcome.value, reported ++ outcome.violations, outcome.overflow⟩
  missing_iff : outcome.overflow = false → (outcome.value = none ↔ outcome.violations ≠ [])
  located : ∀ violation ∈ outcome.violations, path <+: violation.path

variable {path : DocPath} {check : Reporting α} {outcome : Outcome α}

theorem InStep.reports (inStep : InStep path check outcome) (explained : outcome.Explained) :
    Reports path check outcome where
  appends := inStep.adds
  missing_iff := by
    intro quiet
    constructor
    · intro missing clean
      rcases explained clean quiet with ⟨value, found⟩
      cases missing.symm.trans found
    · intro violated
      rw [Option.eq_none_iff_forall_ne_some]
      intro value found
      exact violated (inStep.clean value found)
  located := inStep.located

/-! ## Single checks -/

theorem inStep_found (value : α) : InStep path (found value) (.found value) where
  adds := by
    intro reported
    rw [found, Outcome.found, List.append_nil]
  located := by simp [Outcome.found]
  clean := fun _ _ => rfl

theorem inStep_brokenOff : InStep path (brokenOff : Reporting α) .brokenOff where
  adds := by
    intro reported
    rw [brokenOff, Outcome.brokenOff, List.append_nil]
  located := by simp [Outcome.brokenOff]
  clean := fun _ _ => rfl

theorem inStep_push {violation : Violation} (located : path <+: violation.path) :
    InStep path (push violation : Reporting α) (.violated violation) where
  adds := fun _ => rfl
  located := by
    intro other member
    rw [List.mem_singleton.mp member]
    exact located
  clean := by
    intro value found
    cases found

theorem inStep_mismatch (document : Document) (message : String) :
    InStep path (mismatch path document message : Reporting α)
      (.mismatch path document message) :=
  inStep_push (List.prefix_refl path)

theorem inStep_ofExcept (document : Document) (result : Except String α) :
    InStep path (ofExcept path document result) (.ofExcept path document result) := by
  cases result with
  | ok value => exact inStep_found value
  | error message => exact inStep_mismatch document message

theorem inStep_ofVerdict (document : Document) (value : α) (verdict : Verdict) :
    InStep path (ofVerdict path document value verdict)
      (.ofVerdict path document value verdict) := by
  cases verdict with
  | accepted => exact inStep_found value
  | rejected message => exact inStep_mismatch document message
  | overflow => exact inStep_brokenOff

/-! ## Checks together -/

theorem Adds.andThen {next : α → Reporting β} {following : α → Outcome β}
    (adds : check.Adds outcome) (later : ∀ value, (next value).Adds (following value)) :
    (check.andThen next).Adds (outcome.andThen following) := by
  intro reported
  rw [Reporting.andThen, adds]
  cases found : outcome.value with
  | none => rw [Outcome.andThen_of_none found]
  | some value =>
      rw [Outcome.andThen_of_value found]
      dsimp only
      rw [later, List.append_assoc]

theorem located_andThen {following : α → Outcome β}
    (located : ∀ violation ∈ outcome.violations, path <+: violation.path)
    (later : ∀ value, ∀ violation ∈ (following value).violations, path <+: violation.path) :
    ∀ violation ∈ (outcome.andThen following).violations, path <+: violation.path := by
  intro violation member
  cases found : outcome.value with
  | none =>
      rw [Outcome.andThen_of_none found] at member
      exact located violation member
  | some value =>
      rw [Outcome.andThen_of_value found] at member
      rcases List.mem_append.mp member with first | second
      · exact located violation first
      · exact later value violation second

namespace InStep

/-- What lies below a step of a path lies below the path. -/
theorem of_child {step : PathKey} (inStep : InStep (path.child step) check outcome) :
    InStep path check outcome where
  adds := inStep.adds
  located := fun violation member =>
    (List.prefix_append path [step]).trans (inStep.located violation member)
  clean := inStep.clean

theorem map (inStep : InStep path check outcome) (function : α → β) :
    InStep path (check.map function) (outcome.map function) where
  adds := by
    intro reported
    rw [Reporting.map, inStep.adds]
    rfl
  located := inStep.located
  clean := by
    intro value found
    rcases Option.map_eq_some_iff.mp found with ⟨original, isOriginal, -⟩
    exact inStep.clean original isOriginal

theorem andThen {next : α → Reporting β} {following : α → Outcome β}
    (inStep : InStep path check outcome)
    (later : ∀ value, InStep path (next value) (following value)) :
    InStep path (check.andThen next) (outcome.andThen following) := by
  refine ⟨inStep.adds.andThen fun value => (later value).adds,
    located_andThen inStep.located fun value => (later value).located, ?_⟩
  intro result isResult
  cases found : outcome.value with
  | none =>
      rw [Outcome.andThen_of_none found] at isResult
      cases isResult
  | some value =>
      rw [Outcome.andThen_of_value found] at isResult ⊢
      exact
        List.append_eq_nil_iff.mpr
          ⟨inStep.clean value found, (later value).clean result isResult⟩

theorem both {next : Reporting β} {following : Outcome β} (inStep : InStep path check outcome)
    (later : InStep path next following) :
    InStep path (check.both next) (outcome.both following) where
  adds := by
    intro reported
    rw [Reporting.both, inStep.adds]
    dsimp only
    rw [later.adds]
    change (⟨(outcome.both following).value,
      (reported ++ outcome.violations) ++ following.violations,
      (outcome.both following).overflow⟩ : Outcome (α × β)) = _
    rw [List.append_assoc]
    rfl
  located := by
    intro violation member
    rcases List.mem_append.mp member with first | second
    · exact inStep.located violation first
    · exact later.located violation second
  clean := by
    intro values found
    cases left : outcome.value <;> cases right : following.value <;>
      simp only [Outcome.both, left, right, reduceCtorEq] at found
    exact List.append_eq_nil_iff.mpr ⟨inStep.clean _ left, later.clean _ right⟩

end InStep

/-- Checks of parts are in step with the collected outcomes of the parts. -/
theorem inStep_each {γ : Type} {parts : List γ} {read : γ → Reporting α}
    {outcome : γ → Outcome α} (inStep : ∀ part ∈ parts, InStep path (read part) (outcome part)) :
    InStep path (each (parts.map read)) (.collect (parts.map outcome)) := by
  induction parts with
  | nil => exact inStep_found []
  | cons part rest ih =>
      have here := inStep part List.mem_cons_self
      have others := ih fun other member => inStep other (List.mem_cons_of_mem _ member)
      exact (here.both others).map _

end Reporting

end RuleSchema
