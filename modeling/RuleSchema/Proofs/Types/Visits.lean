import RuleSchema.Proofs.NameMap
import RuleSchema.Proofs.Types.Soundness

/-!
# What is in view at a field

Coercion comes to the fields of a record one after another.  At each of them the values of
some fields are in view, which are the values that its validators may look at.
-/

namespace RuleSchema.Field

variable {store : FileStore} {validators : List BoundValidator} {input : NameMap Document}
  {path : DocPath}

/-- Coercion of fields comes to a field with some values in view. -/
inductive Visits (store : FileStore) (validators : List BoundValidator)
    (input : NameMap Document) (path : DocPath) :
    NameMap Value → List Field → Field → NameMap Value → Prop where
  | here {seen : NameMap Value} {field : Field} {rest : List Field} :
      Visits store validators input path seen (field :: rest) field seen
  | later {seen view : NameMap Value} {head field : Field} {rest : List Field}
      (visits : Visits store validators input path
        (seen.extend head.name (outcome store validators input path seen head).value) rest
        field view) :
      Visits store validators input path seen (head :: rest) field view

variable {seen view final : NameMap Value} {fields rest : List Field} {head field : Field}
  {name : String}

theorem get?_extend_of_ne {value : Option Value} (different : name ≠ field.name) :
    (seen.extend field.name value).get? name = seen.get? name := by
  cases value with
  | none => rfl
  | some found => exact NameMap.get?_insert_of_ne seen found different

theorem get?_extend_self {value : Option Value} (fresh : seen.get? name = none) :
    (seen.extend name value).get? name = value := by
  cases value with
  | none => exact fresh
  | some found => exact NameMap.get?_insert_self seen name found

theorem name_ne_of_mem {other : Field} (fresh : head.name ∉ rest.map Field.name)
    (member : other ∈ rest) : other.name ≠ head.name := by
  intro same
  exact fresh (same ▸ List.mem_map_of_mem member)

namespace Visits

theorem mem (visits : Visits store validators input path seen fields field view) :
    field ∈ fields := by
  induction visits with
  | here => exact List.mem_cons_self
  | later _ ih => exact List.mem_cons_of_mem _ ih

theorem exists_of_mem (member : field ∈ fields) :
    ∃ view, Visits store validators input path seen fields field view := by
  induction fields generalizing seen with
  | nil => cases member
  | cons head rest ih =>
      rcases List.mem_cons.mp member with rfl | inRest
      · exact ⟨seen, .here⟩
      · rcases ih inRest with ⟨view, visits⟩
        exact ⟨view, .later visits⟩

/-- Only the fields on the way to a field add to what is in view at it. -/
theorem get?_of_not_mem (visits : Visits store validators input path seen fields field view)
    (absent : name ∉ fields.map Field.name) : view.get? name = seen.get? name := by
  induction visits with
  | here => rfl
  | later _ ih =>
      simp only [List.map_cons, List.mem_cons, not_or] at absent
      rw [ih absent.2, get?_extend_of_ne absent.1]

theorem of_head (visits : Visits store validators input path seen (field :: rest) field view)
    (fresh : field.name ∉ rest.map Field.name) : view = seen := by
  cases visits with
  | here => rfl
  | later visits => exact absurd (List.mem_map_of_mem visits.mem) fresh

theorem of_rest (visits : Visits store validators input path seen (head :: rest) field view)
    (different : field ≠ head) :
    Visits store validators input path
      (seen.extend head.name (outcome store validators input path seen head).value) rest field
      view := by
  cases visits with
  | here => exact absurd rfl different
  | later visits => exact visits

end Visits

/-- A field that comes first is in view at a later one, with the value that it has, if any. -/
theorem get?_of_sublist {first second : Field} {firstView secondView : NameMap Value}
    (distinct : (fields.map Field.name).Nodup) (order : [first, second].Sublist fields)
    (visitsFirst : Visits store validators input path seen fields first firstView)
    (visitsSecond : Visits store validators input path seen fields second secondView)
    (fresh : seen.get? first.name = none) :
    secondView.get? first.name =
      (outcome store validators input path firstView first).value := by
  induction fields generalizing seen with
  | nil => cases order
  | cons head rest ih =>
      rcases List.nodup_cons.mp distinct with ⟨freshHead, restDistinct⟩
      cases order with
      | cons _ inRest =>
          have firstDiffers := name_ne_of_mem freshHead (inRest.subset List.mem_cons_self)
          have secondMember : second ∈ rest := inRest.subset (by simp)
          have secondDiffers := name_ne_of_mem freshHead secondMember
          refine ih restDistinct inRest
            (visitsFirst.of_rest fun same => firstDiffers (congrArg Field.name same))
            (visitsSecond.of_rest fun same => secondDiffers (congrArg Field.name same)) ?_
          rw [get?_extend_of_ne firstDiffers]
          exact fresh
      | cons_cons _ secondInRest =>
          have secondMember : second ∈ rest := secondInRest.subset List.mem_cons_self
          have different : second ≠ first := by
            intro same
            exact freshHead (same ▸ List.mem_map_of_mem secondMember)
          rw [visitsFirst.of_head freshHead,
            (visitsSecond.of_rest different).get?_of_not_mem freshHead, get?_extend_self fresh]

/-- A field that comes last is not in view at an earlier one. -/
theorem get?_of_sublist_swapped {first second : Field} {firstView : NameMap Value}
    (distinct : (fields.map Field.name).Nodup) (order : [first, second].Sublist fields)
    (visits : Visits store validators input path seen fields first firstView)
    (fresh : seen.get? second.name = none) : firstView.get? second.name = none := by
  induction fields generalizing seen with
  | nil => cases order
  | cons head rest ih =>
      rcases List.nodup_cons.mp distinct with ⟨freshHead, restDistinct⟩
      cases order with
      | cons _ inRest =>
          have firstDiffers := name_ne_of_mem freshHead (inRest.subset List.mem_cons_self)
          have secondMember : second ∈ rest := inRest.subset (by simp)
          have secondDiffers := name_ne_of_mem freshHead secondMember
          refine ih restDistinct inRest
            (visits.of_rest fun same => firstDiffers (congrArg Field.name same)) ?_
          rw [get?_extend_of_ne secondDiffers]
          exact fresh
      | cons_cons _ _ =>
          rw [visits.of_head freshHead]
          exact fresh

/-! ## Fields of an accepted record -/

/-- Where nothing is reported of the fields, nothing is reported of any of them. -/
theorem Visits.clean (visits : Visits store validators input path seen fields field view)
    (given : (coerceFields store validators input path fields seen).Gives final)
    (clean : (coerceFields store validators input path fields seen).violations = []) :
    (outcome store validators input path view field).violations = [] ∧
      (outcome store validators input path view field).overflow = false := by
  induction visits with
  | here => exact ⟨(clean_coerceFields_cons.mp clean).1, (gives_coerceFields_cons.mp given).1⟩
  | later _ ih => exact ih (gives_coerceFields_cons.mp given).2 (clean_coerceFields_cons.mp clean).2

theorem get?_of_coerceFields (absent : name ∉ fields.map Field.name)
    (given : (coerceFields store validators input path fields seen).Gives final) :
    final.get? name = seen.get? name := by
  induction fields generalizing seen with
  | nil => rw [← Outcome.gives_found.mp given]
  | cons head rest ih =>
      simp only [List.map_cons, List.mem_cons, not_or] at absent
      rw [ih absent.2 (gives_coerceFields_cons.mp given).2, get?_extend_of_ne absent.1]

/-- The record has for each field the value that there was for it. -/
theorem Visits.get?_eq (visits : Visits store validators input path seen fields field view)
    (distinct : (fields.map Field.name).Nodup) (fresh : seen.get? field.name = none)
    (given : (coerceFields store validators input path fields seen).Gives final) :
    final.get? field.name = (outcome store validators input path view field).value := by
  induction visits with
  | here =>
      have freshField := (List.nodup_cons.mp distinct).1
      rw [get?_of_coerceFields freshField (gives_coerceFields_cons.mp given).2,
        get?_extend_self fresh]
  | later visits ih =>
      rcases List.nodup_cons.mp distinct with ⟨freshHead, restDistinct⟩
      refine ih restDistinct ?_ (gives_coerceFields_cons.mp given).2
      rw [get?_extend_of_ne (name_ne_of_mem freshHead visits.mem)]
      exact fresh

/-- The validators of a field with a value pass, those of a default if they always run. -/
theorem passes_of_outcome {value : Value}
    (given : (outcome store validators input path view field).Gives value)
    {validator : BoundValidator} (member : validator ∈ validators)
    (own : validator.checks field.name = true)
    (runs : validator.options.always = true ∨ field.name ∈ input.names) :
    ∃ document, validator.Passes view document value := by
  rcases gives_outcome given with ⟨document, _, -, ⟨-, passed⟩ | ⟨absent, -, passed⟩⟩
  · exact ⟨document, passed validator member own⟩
  · rcases runs with always | present
    · exact ⟨document, passed validator member own always⟩
    · rcases NameMap.mem_names_iff.mp present with ⟨other, found⟩
      rw [absent] at found
      cases found

end RuleSchema.Field
