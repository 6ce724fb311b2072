import Mathlib.Data.List.Forall2
import RuleSchema.Types.Coercion

/-!
# What outcomes give

An outcome gives a value when it has it and checking was not broken off.  What a chain or
a collection of outcomes gives is composed of what its parts give.  An outcome is explained
if it has a value unless something was violated or checking was broken off.
-/

namespace RuleSchema.Outcome

variable {α β : Type}

/-- A value was found, and checking was not broken off. -/
def Gives (outcome : Outcome α) (value : α) : Prop :=
  outcome.value = some value ∧ outcome.overflow = false

/-- A value is only missing where something was violated or checking was broken off. -/
def Explained (outcome : Outcome α) : Prop :=
  outcome.violations = [] → outcome.overflow = false → ∃ value, outcome.value = some value

/-! ## Single outcomes -/

@[simp]
theorem gives_found {value other : α} : (found value).Gives other ↔ value = other := by
  simp [Gives, found]

@[simp]
theorem not_gives_violated {violation : Violation} {value : α} :
    ¬(violated violation : Outcome α).Gives value := by
  simp [Gives, violated]

@[simp]
theorem not_gives_mismatch {path : DocPath} {document : Document} {message : String}
    {value : α} : ¬(mismatch path document message : Outcome α).Gives value :=
  not_gives_violated

@[simp]
theorem not_gives_brokenOff {value : α} : ¬(brokenOff : Outcome α).Gives value := by
  simp [Gives, brokenOff]

@[simp]
theorem gives_ofExcept {path : DocPath} {document : Document} {result : Except String α}
    {value : α} : (ofExcept path document result).Gives value ↔ result = .ok value := by
  cases result <;> simp [ofExcept]

@[simp]
theorem gives_ofVerdict {path : DocPath} {document : Document} {value other : α}
    {verdict : Verdict} :
    (ofVerdict path document value verdict).Gives other ↔
      verdict = .accepted ∧ value = other := by
  cases verdict <;> simp [ofVerdict]

theorem explained_found {value : α} : (found value).Explained :=
  fun _ _ => ⟨value, rfl⟩

theorem explained_violated {violation : Violation} :
    (violated violation : Outcome α).Explained := by
  intro none
  cases none

theorem explained_mismatch {path : DocPath} {document : Document} {message : String} :
    (mismatch path document message : Outcome α).Explained :=
  explained_violated

theorem explained_brokenOff : (brokenOff : Outcome α).Explained := by
  intro _ quiet
  cases quiet

theorem explained_ofExcept {path : DocPath} {document : Document} {result : Except String α} :
    (ofExcept path document result).Explained := by
  cases result with
  | ok value => exact explained_found
  | error message => exact explained_mismatch

theorem explained_ofVerdict {path : DocPath} {document : Document} {value : α}
    {verdict : Verdict} : (ofVerdict path document value verdict).Explained := by
  cases verdict with
  | accepted => exact explained_found
  | rejected message => exact explained_mismatch
  | overflow => exact explained_brokenOff

/-! ## Chains -/

theorem gives_map {outcome : Outcome α} {function : α → β} {result : β} :
    (outcome.map function).Gives result ↔
      ∃ value, outcome.Gives value ∧ function value = result := by
  simp only [Gives, map, Option.map_eq_some_iff]
  constructor
  · rintro ⟨⟨value, found, rfl⟩, quiet⟩
    exact ⟨value, ⟨found, quiet⟩, rfl⟩
  · rintro ⟨value, ⟨found, quiet⟩, rfl⟩
    exact ⟨⟨value, found, rfl⟩, quiet⟩

theorem andThen_of_value {outcome : Outcome α} {next : α → Outcome β} {value : α}
    (found : outcome.value = some value) :
    outcome.andThen next =
      ⟨(next value).value, outcome.violations ++ (next value).violations,
        outcome.overflow || (next value).overflow⟩ := by
  rw [andThen, found]

theorem andThen_of_none {outcome : Outcome α} {next : α → Outcome β}
    (missing : outcome.value = none) :
    outcome.andThen next = ⟨none, outcome.violations, outcome.overflow⟩ := by
  rw [andThen, missing]

theorem gives_andThen {outcome : Outcome α} {next : α → Outcome β} {result : β} :
    (outcome.andThen next).Gives result ↔
      ∃ value, outcome.Gives value ∧ (next value).Gives result := by
  cases found : outcome.value with
  | none => simp [andThen_of_none found, Gives, found]
  | some value =>
      simp only [andThen_of_value found, Gives, found, Option.some.injEq, Bool.or_eq_false_iff]
      constructor
      · rintro ⟨given, quiet, stillQuiet⟩
        exact ⟨value, ⟨rfl, quiet⟩, given, stillQuiet⟩
      · rintro ⟨_, ⟨rfl, quiet⟩, given, stillQuiet⟩
        exact ⟨given, quiet, stillQuiet⟩

theorem Explained.map {outcome : Outcome α} (explained : outcome.Explained)
    {function : α → β} : (outcome.map function).Explained := by
  intro clean quiet
  rcases explained clean quiet with ⟨value, found⟩
  exact ⟨function value, by rw [Outcome.map, found, Option.map_some]⟩

theorem Explained.andThen {outcome : Outcome α} {next : α → Outcome β}
    (explained : outcome.Explained) (following : ∀ value, (next value).Explained) :
    (outcome.andThen next).Explained := by
  intro clean quiet
  cases found : outcome.value with
  | none =>
      rw [andThen_of_none found] at clean quiet
      rcases explained clean quiet with ⟨value, other⟩
      rw [found] at other
      cases other
  | some value =>
      rw [andThen_of_value found] at clean quiet ⊢
      exact following value (List.append_eq_nil_iff.mp clean).2 (Bool.or_eq_false_iff.mp quiet).2

/-! ## Collections -/

theorem gives_both {first : Outcome α} {second : Outcome β} {values : α × β} :
    (both first second).Gives values ↔ first.Gives values.1 ∧ second.Gives values.2 := by
  rcases values with ⟨left, right⟩
  simp only [Gives, both, Bool.or_eq_false_iff]
  cases first.value <;> cases second.value <;> simp
  rw [and_and_and_comm]

theorem Explained.both {first : Outcome α} {second : Outcome β} (explained : first.Explained)
    (other : second.Explained) : (Outcome.both first second).Explained := by
  intro clean quiet
  rcases List.append_eq_nil_iff.mp clean with ⟨firstClean, secondClean⟩
  rcases Bool.or_eq_false_iff.mp quiet with ⟨firstQuiet, secondQuiet⟩
  rcases explained firstClean firstQuiet with ⟨left, leftFound⟩
  rcases other secondClean secondQuiet with ⟨right, rightFound⟩
  exact ⟨(left, right), by simp only [Outcome.both, leftFound, rightFound]⟩

theorem gives_collect_cons {outcome : Outcome α} {rest : List (Outcome α)} {values : List α} :
    (collect (outcome :: rest)).Gives values ↔
      ∃ value others, outcome.Gives value ∧ (collect rest).Gives others ∧
        values = value :: others := by
  rw [collect, gives_map]
  constructor
  · rintro ⟨⟨value, others⟩, given, rfl⟩
    rcases gives_both.mp given with ⟨first, second⟩
    exact ⟨value, others, first, second, rfl⟩
  · rintro ⟨value, others, first, second, rfl⟩
    exact ⟨(value, others), gives_both.mpr ⟨first, second⟩, rfl⟩

/-- A collection gives the values that its outcomes give, in their order. -/
theorem gives_of_collect {outcomes : List (Outcome α)} {values : List α}
    (given : (collect outcomes).Gives values) :
    values.length = outcomes.length ∧
      ∀ (position : Nat) outcome value, outcomes[position]? = some outcome →
        values[position]? = some value → outcome.Gives value := by
  induction outcomes generalizing values with
  | nil =>
      have none : [] = values := gives_found.mp given
      subst none
      simp
  | cons head rest ih =>
      rcases gives_collect_cons.mp given with ⟨first, others, here, later, rfl⟩
      rcases ih later with ⟨sameLength, each⟩
      constructor
      · rw [List.length_cons, List.length_cons, sameLength]
      · intro position outcome value isOutcome isValue
        cases position with
        | zero =>
            rw [List.getElem?_cons_zero, Option.some.injEq] at isOutcome isValue
            rw [← isOutcome, ← isValue]
            exact here
        | succ position =>
            rw [List.getElem?_cons_succ] at isOutcome isValue
            exact each position outcome value isOutcome isValue

/-- Collecting what each part is read as gives the values that are read, in their order. -/
theorem gives_collect_map {parts : List α} {read : α → Outcome β}
    {values : List β} :
    (collect (parts.map read)).Gives values ↔
      List.Forall₂ (fun part value => (read part).Gives value) parts values := by
  induction parts generalizing values with
  | nil =>
      rw [List.forall₂_nil_left_iff]
      exact gives_found.trans eq_comm
  | cons part rest ih =>
      rw [List.map_cons, gives_collect_cons, List.forall₂_cons_left_iff]
      constructor
      · rintro ⟨value, others, here, later, rfl⟩
        exact ⟨value, others, here, ih.mp later, rfl⟩
      · rintro ⟨value, others, here, later, rfl⟩
        exact ⟨value, others, here, ih.mpr later, rfl⟩

theorem exists_gives_of_mem {outcomes : List (Outcome α)} {values : List α}
    (given : (collect outcomes).Gives values) {outcome : Outcome α}
    (member : outcome ∈ outcomes) : ∃ value, outcome.Gives value := by
  induction outcomes generalizing values with
  | nil => cases member
  | cons head rest ih =>
      rcases gives_collect_cons.mp given with ⟨first, others, here, later, -⟩
      rcases List.mem_cons.mp member with rfl | inRest
      · exact ⟨first, here⟩
      · exact ih later inRest

/-- A collection of pairs under a function is two collections, taken together. -/
theorem gives_of_collect_both {γ δ : Type} {entries : List γ} {first : γ → Outcome α}
    {second : γ → Outcome β} {function : α × β → δ} {found : List δ}
    (given : (collect (entries.map fun entry =>
      (both (first entry) (second entry)).map function)).Gives found) :
    ∃ lefts rights, found = (lefts.zip rights).map function ∧
      (collect (entries.map first)).Gives lefts ∧ (collect (entries.map second)).Gives rights := by
  induction entries generalizing found with
  | nil =>
      have none : [] = found := gives_found.mp given
      exact ⟨[], [], none.symm, gives_found.mpr rfl, gives_found.mpr rfl⟩
  | cons entry rest ih =>
      rw [List.map_cons] at given
      rcases gives_collect_cons.mp given with ⟨_, others, here, later, rfl⟩
      rcases gives_map.mp here with ⟨⟨left, right⟩, pair, rfl⟩
      rcases gives_both.mp pair with ⟨leftGiven, rightGiven⟩
      rcases ih later with ⟨lefts, rights, rfl, leftsGiven, rightsGiven⟩
      refine ⟨left :: lefts, right :: rights, rfl, ?_, ?_⟩
      · exact gives_collect_cons.mpr ⟨left, lefts, leftGiven, leftsGiven, rfl⟩
      · exact gives_collect_cons.mpr ⟨right, rights, rightGiven, rightsGiven, rfl⟩

theorem explained_collect {outcomes : List (Outcome α)}
    (explained : ∀ outcome ∈ outcomes, outcome.Explained) : (collect outcomes).Explained := by
  induction outcomes with
  | nil => exact explained_found
  | cons head rest ih =>
      have first := explained head List.mem_cons_self
      have others := ih fun outcome member => explained outcome (List.mem_cons_of_mem _ member)
      exact (first.both others).map

end RuleSchema.Outcome
