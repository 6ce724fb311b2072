import RuleSchema.Document.Basic

/-!
# Induction on documents

A property of all documents is shown for a container from its members: the items of a
sequence, the keys and the values of a mapping, the node under a tag.  A property of the
documents that are one mapping below their tags is shown for the mapping and kept by tags.
-/

namespace RuleSchema.Document

theorem sizeOf_key_lt {entries : Mapping} {key value : Document}
    (member : (key, value) ∈ entries) : sizeOf key < sizeOf entries := by
  have pair := List.sizeOf_lt_of_mem member
  simp only [Prod.mk.sizeOf_spec] at pair
  omega

theorem sizeOf_value_lt {entries : Mapping} {key value : Document}
    (member : (key, value) ∈ entries) : sizeOf value < sizeOf entries := by
  have pair := List.sizeOf_lt_of_mem member
  simp only [Prod.mk.sizeOf_spec] at pair
  omega

/-- Induction in which a container has its property from its members. -/
@[elab_as_elim]
theorem memberInduction {motive : Document → Prop}
    (null : motive .null)
    (bool : ∀ value, motive (.bool value))
    (number : ∀ value, motive (.number value))
    (string : ∀ value, motive (.string value))
    (sequence : ∀ items, (∀ item ∈ items, motive item) → motive (.sequence items))
    (mapping : ∀ entries : Mapping,
      (∀ key value, (key, value) ∈ entries → motive key ∧ motive value) →
        motive (.mapping entries))
    (tagged : ∀ name inner, motive inner → motive (.tagged name inner))
    (document : Document) : motive document := by
  match document with
  | .null => exact null
  | .bool value => exact bool value
  | .number value => exact number value
  | .string value => exact string value
  | .sequence items =>
      apply sequence
      intro item member
      have smaller := List.sizeOf_lt_of_mem member
      exact memberInduction null bool number string sequence mapping tagged item
  | .mapping entries =>
      apply mapping
      intro key value member
      have smallerKey := sizeOf_key_lt member
      have smallerValue := sizeOf_value_lt member
      exact
        ⟨memberInduction null bool number string sequence mapping tagged key,
          memberInduction null bool number string sequence mapping tagged value⟩
  | .tagged name inner =>
      exact tagged name inner
        (memberInduction null bool number string sequence mapping tagged inner)
termination_by sizeOf document
decreasing_by
  all_goals simp_wf
  all_goals omega

/-- Induction on the tags around a mapping. -/
@[elab_as_elim]
theorem asMappingInduction {entries : Mapping}
    {motive : (document : Document) → document.asMapping? = some entries → Prop}
    (bare : motive (.mapping entries) rfl)
    (tagged : ∀ name inner (mapping : inner.asMapping? = some entries),
      motive inner mapping → motive (.tagged name inner) mapping)
    (document : Document) (mapping : document.asMapping? = some entries) :
    motive document mapping := by
  induction document using Document.untagged.induct with
  | case1 name inner ih => exact tagged name inner mapping (ih mapping)
  | case2 document noTag =>
      cases document with
      | mapping own =>
          have same : own = entries := by simpa [asMapping?, untagged] using mapping
          subst same
          exact bare
      | tagged name inner => exact absurd rfl (noTag name inner)
      | _ => simp [asMapping?, untagged] at mapping

end RuleSchema.Document
