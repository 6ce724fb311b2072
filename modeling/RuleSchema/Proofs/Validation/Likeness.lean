import RuleSchema.Proofs.Document.Reordering
import RuleSchema.Proofs.Validation.Outcomes

/-!
# Outcomes that are alike

Two outcomes are alike when the value of one corresponds to that of the other, or there is none
in both, and when their violations correspond in any order.  Chains and collections of outcomes
that are alike are alike, and a collection of outcomes in another order gives its values and
violations in another order.
-/

namespace RuleSchema

theorem option_rel_map {α β γ δ : Type} {related : α → β → Prop} {other : γ → δ → Prop}
    {left : α → γ} {right : β → δ} {first : Option α} {second : Option β}
    (values : Option.Rel related first second)
    (keeps : ∀ one two, related one two → other (left one) (right two)) :
    Option.Rel other (first.map left) (second.map right) := by
  cases values with
  | none => exact .none
  | some here => exact .some (keeps _ _ here)

theorem option_rel_trans {α β γ : Type} {before : α → β → Prop} {after : β → γ → Prop}
    {related : α → γ → Prop} {first : Option α} {second : Option β} {third : Option γ}
    (one : Option.Rel before first second) (two : Option.Rel after second third)
    (joins : ∀ left middle right, before left middle → after middle right → related left right) :
    Option.Rel related first third := by
  cases one with
  | none =>
      cases two
      exact .none
  | some here =>
      cases two with
      | some there => exact .some (joins _ _ _ here there)

/-- The same violation, up to the order of entries in the value that is shown. -/
structure Violation.Alike (first second : Violation) : Prop where
  path : first.path = second.path
  kind : first.kind = second.kind
  message : first.message = second.message
  value : Option.Rel Document.Reordered first.value second.value

theorem Violation.Alike.refl (violation : Violation) : violation.Alike violation := by
  refine ⟨rfl, rfl, rfl, ?_⟩
  cases violation.value with
  | none => exact .none
  | some document => exact .some (Document.Reordered.refl document)

namespace Outcome

variable {α β γ δ : Type} {related : α → β → Prop} {other : γ → δ → Prop}

/-- Corresponding values, and the same violations in any order. -/
structure Alike (related : α → β → Prop) (first : Outcome α) (second : Outcome β) : Prop where
  value : Option.Rel related first.value second.value
  violations : Rearranged Violation.Alike first.violations second.violations
  overflow : first.overflow = second.overflow

namespace Alike

theorem refl {related : α → α → Prop} (each : ∀ value, related value value)
    (outcome : Outcome α) : outcome.Alike related outcome where
  value := by
    cases outcome.value with
    | none => exact .none
    | some value => exact .some (each value)
  violations :=
    .of_forall₂ (List.forall₂_same.mpr fun violation _ => Violation.Alike.refl violation)
  overflow := rfl

theorem found {one : α} {two : β} (values : related one two) :
    (Outcome.found one).Alike related (.found two) :=
  ⟨.some values, .of_forall₂ .nil, rfl⟩

theorem violated {one two : Violation} (alike : one.Alike two) :
    (Outcome.violated one).Alike related (.violated two) :=
  ⟨.none, .of_forall₂ (.cons alike .nil), rfl⟩

section Documents

variable {first second : Document} (reordered : first.Reordered second) {path : DocPath}

include reordered

theorem mismatch {message : String} :
    (Outcome.mismatch path first message).Alike related (.mismatch path second message) :=
  violated ⟨rfl, rfl, rfl, .some reordered⟩

theorem ofExcept {related : α → α → Prop} (each : ∀ value, related value value)
    {result : Except String α} :
    (Outcome.ofExcept path first result).Alike related (.ofExcept path second result) := by
  cases result with
  | ok value => exact found (each value)
  | error message => exact mismatch reordered

theorem ofVerdict {related : α → α → Prop} (each : ∀ value, related value value) {value : α}
    {verdict : Verdict} :
    (Outcome.ofVerdict path first value verdict).Alike related
      (.ofVerdict path second value verdict) := by
  cases verdict with
  | accepted => exact found (each value)
  | rejected message => exact mismatch reordered
  | overflow => exact refl each brokenOff

end Documents

variable {first : Outcome α} {second : Outcome β}

/-- What is known of the value of the first outcome is part of how the values correspond. -/
theorem and_left {holds : α → Prop} (alike : first.Alike related second)
    (known : ∀ value, first.value = some value → holds value) :
    first.Alike (fun one two => holds one ∧ related one two) second := by
  rcases first with ⟨value, violations, overflow⟩
  rcases second with ⟨otherValue, otherViolations, otherOverflow⟩
  rcases alike with ⟨values, reported, rfl⟩
  cases values with
  | none => exact ⟨.none, reported, rfl⟩
  | some here => exact ⟨.some ⟨known _ rfl, here⟩, reported, rfl⟩

theorem map {left : α → γ} {right : β → δ} (alike : first.Alike related second)
    (keeps : ∀ one two, related one two → other (left one) (right two)) :
    (first.map left).Alike other (second.map right) :=
  ⟨option_rel_map alike.value keeps, alike.violations, alike.overflow⟩

theorem andThen {left : α → Outcome γ} {right : β → Outcome δ} (alike : first.Alike related second)
    (following : ∀ one two, related one two → (left one).Alike other (right two)) :
    (first.andThen left).Alike other (second.andThen right) := by
  rcases first with ⟨value, violations, overflow⟩
  rcases second with ⟨otherValue, otherViolations, otherOverflow⟩
  rcases alike with ⟨values, reported, rfl⟩
  cases values with
  | none => exact ⟨.none, reported, rfl⟩
  | some here =>
      have next := following _ _ here
      exact ⟨next.value, reported.append next.violations, congrArg (overflow || ·) next.overflow⟩

theorem both {third : Outcome γ} {fourth : Outcome δ} (alike : first.Alike related second)
    (beside : third.Alike other fourth) :
    (Outcome.both first third).Alike
      (fun one two => related one.1 two.1 ∧ other one.2 two.2) (.both second fourth) where
  value := by
    rcases first with ⟨value, violations, overflow⟩
    rcases second with ⟨otherValue, otherViolations, otherOverflow⟩
    rcases third with ⟨third, thirdViolations, thirdOverflow⟩
    rcases fourth with ⟨fourth, fourthViolations, fourthOverflow⟩
    cases alike.value with
    | none => exact .none
    | some here =>
        cases beside.value with
        | none => exact .none
        | some there => exact .some ⟨here, there⟩
  violations := alike.violations.append beside.violations
  overflow := congrArg₂ or alike.overflow beside.overflow

end Alike

/-- Outcomes that are alike position by position are alike together. -/
theorem Alike.collect {outcomes : List (Outcome α)} {others : List (Outcome β)}
    (each : List.Forall₂ (Alike related) outcomes others) :
    (Outcome.collect outcomes).Alike (List.Forall₂ related) (.collect others) := by
  induction each with
  | nil => exact found .nil
  | cons here _ ih => exact (here.both ih).map fun one two both => .cons both.1 both.2

theorem value_both {first : Outcome α} {second : Outcome β} {values : α × β}
    (made : (both first second).value = some values) :
    first.value = some values.1 ∧ second.value = some values.2 := by
  rw [both] at made
  cases one : first.value <;> cases two : second.value <;> simp [one, two] at made
  simp [← made]

theorem value_collect_cons {outcome : Outcome α} {rest : List (Outcome α)} :
    (collect (outcome :: rest)).value =
      outcome.value.bind fun value => (collect rest).value.map (value :: ·) := by
  rw [collect, map, both]
  cases outcome.value with
  | none => rfl
  | some value => cases (collect rest).value <;> rfl

/-- What each outcome of a list says of its value holds of the values of the collection. -/
theorem map_value_collect {κ : Type} {sources : List β} {outcome : β → Outcome α} {left : α → κ}
    {right : β → κ}
    (each : ∀ source ∈ sources, ∀ value, (outcome source).value = some value →
      left value = right source) {values : List α}
    (collected : (collect (sources.map outcome)).value = some values) :
    values.map left = sources.map right := by
  induction sources generalizing values with
  | nil =>
      have none : [] = values := Option.some.inj collected
      rw [← none, List.map_nil, List.map_nil]
  | cons source rest ih =>
      rcases List.forall_mem_cons.mp each with ⟨own, later⟩
      rw [List.map_cons, value_collect_cons] at collected
      rcases Option.bind_eq_some_iff.mp collected with ⟨value, made, others⟩
      rcases Option.map_eq_some_iff.mp others with ⟨found, rest, rfl⟩
      rw [List.map_cons, List.map_cons, own value made, ih later rest]

/-- Outcomes in another order give values and violations in another order. -/
theorem perm_collect {outcomes others : List (Outcome α)} (moved : outcomes.Perm others) :
    Option.Rel List.Perm (collect outcomes).value (collect others).value ∧
      (collect outcomes).violations.Perm (collect others).violations ∧
      (collect outcomes).overflow = (collect others).overflow := by
  induction moved with
  | nil => exact ⟨.some .nil, .nil, rfl⟩
  | @cons outcome rest others _ ih =>
      rcases ih with ⟨values, violations, overflow⟩
      refine ⟨?_, violations.append_left outcome.violations,
        congrArg (outcome.overflow || ·) overflow⟩
      rw [value_collect_cons, value_collect_cons]
      cases outcome.value with
      | none => exact .none
      | some value => exact option_rel_map values fun _ _ perm => perm.cons value
  | swap first second rest =>
      refine ⟨?_, List.perm_append_comm_assoc _ _ _, Bool.or_left_comm _ _ _⟩
      simp only [value_collect_cons]
      cases first.value with
      | none => cases second.value <;> exact .none
      | some one =>
          cases second.value with
          | none => exact .none
          | some two =>
              cases (collect rest).value with
              | none => exact .none
              | some values => exact .some (.swap one two values)
  | trans _ _ one two =>
      rcases one with ⟨values, violations, overflow⟩
      rcases two with ⟨otherValues, otherViolations, otherOverflow⟩
      exact
        ⟨option_rel_trans values otherValues fun _ _ _ => List.Perm.trans,
          violations.trans otherViolations, overflow.trans otherOverflow⟩

/-- Outcomes that are alike in any order are alike together. -/
theorem Alike.collect_rearranged {outcomes : List (Outcome α)} {others : List (Outcome β)}
    (rearranged : Rearranged (Alike related) outcomes others) :
    (Outcome.collect outcomes).Alike (Rearranged related) (.collect others) := by
  rcases rearranged with ⟨changed, each, moved⟩
  have alike := Alike.collect each
  rcases perm_collect moved with ⟨values, violations, overflow⟩
  exact
    { value := option_rel_trans alike.value values fun _ found _ each moved =>
        ⟨found, each, moved⟩
      violations := alike.violations.trans_perm violations
      overflow := alike.overflow.trans overflow }

end Outcome

end RuleSchema
