import RuleSchema.Proofs.Types.Induction
import RuleSchema.Proofs.Types.Records
import RuleSchema.Proofs.Validation.Outcomes

/-!
# Rejections are explained

Coercion leaves a value out only together with a violation, or because it was broken off.
This is what lets the absence of violations stand for acceptance.
-/

namespace RuleSchema

open Outcome

variable {store : FileStore}

/-! ## Validators -/

namespace BoundValidator

theorem explained_report {path : DocPath} {value : Option Value} {verdict : Verdict} :
    (report path value verdict).Explained := by
  cases verdict with
  | accepted => exact explained_found
  | rejected message => exact explained_violated
  | overflow => exact explained_brokenOff

theorem explained_runField {validator : BoundValidator} {values : NameMap Value}
    {path : DocPath} {value : Value} : (validator.runField values path value).Explained := by
  unfold runField
  split
  · apply Explained.map
    apply explained_collect
    intro outcome member
    rcases List.mem_map.mp member with ⟨item, -, rfl⟩
    exact explained_report
  · apply Explained.map
    apply explained_collect
    intro outcome member
    rcases List.mem_map.mp member with ⟨entry, -, rfl⟩
    exact explained_report
  · exact explained_report

theorem explained_runFieldAll {validators : List BoundValidator} {values : NameMap Value}
    {path : DocPath} {value : Value} : (runFieldAll validators values path value).Explained := by
  apply Explained.map
  apply explained_collect
  intro outcome member
  rcases List.mem_map.mp member with ⟨validator, -, rfl⟩
  exact explained_runField

theorem explained_runRecordAll {validators : List BoundValidator} {values : NameMap Value}
    {path : DocPath} : (runRecordAll validators values path).Explained := by
  apply Explained.map
  apply explained_collect
  intro outcome member
  rcases List.mem_map.mp member with ⟨validator, -, rfl⟩
  exact explained_report

end BoundValidator

/-! ## Fields and records -/

theorem Field.explained_checked {validators : List BoundValidator}
    {coerce : Document → Outcome Value} (explained : ∀ document, (coerce document).Explained)
    {values : NameMap Value} {path : DocPath} {document : Document} :
    (Field.checked validators coerce values path document).Explained := by
  apply BoundValidator.explained_runFieldAll.andThen
  intro _
  apply (explained document).andThen
  intro value
  exact BoundValidator.explained_runFieldAll.map

theorem RecordType.explained_closed {validators : List BoundValidator} {path : DocPath}
    {fields : Outcome (NameMap Value)} (explained : fields.Explained) :
    (RecordType.closed validators path fields).Explained := by
  rw [RecordType.closed]
  split
  · apply explained.andThen
    intro values
    exact BoundValidator.explained_runRecordAll.map
  · next violated =>
    intro clean
    rw [List.isEmpty_iff] at violated
    exact absurd clean violated

theorem RecordType.explained_instantiate (type : RecordType) (document : Document)
    (path : DocPath) : (type.instantiate store document path).Explained := by
  cases mapping : document.untagOnce.asMapping? with
  | none =>
      rw [RecordType.instantiate_of_not_mapping _ _ mapping]
      exact explained_mismatch
  | some entries =>
      rw [RecordType.instantiate_of_asMapping? _ _ mapping]
      apply RecordType.explained_closed
      apply Explained.andThen
      · intro clean quiet
        have before := (List.append_eq_nil_iff.mp clean).2
        exact BoundValidator.explained_runRecordAll before quiet
      · intro _ _ _
        exact Field.value_coerceFields _ _

/-! ## Types -/

namespace ValueType

theorem explained_coerceEach {types : List ValueType} {path : DocPath} {position : Nat}
    {documents : List Document}
    (explained : ∀ type ∈ types, ∀ document path, (type.coerce store document path).Explained) :
    (coerceEach store path position types documents).Explained := by
  induction types generalizing position documents with
  | nil => exact explained_found
  | cons type rest ih =>
      cases documents with
      | nil => exact explained_found
      | cons document others =>
          have first := explained type List.mem_cons_self document (path.child (.index position))
          have later : (coerceEach store path (position + 1) rest others).Explained :=
            ih fun other member => explained other (List.mem_cons_of_mem _ member)
          exact (first.both later).map

/-- A document without a value of a type is reported, unless coercion was broken off. -/
theorem explained_coerce (type : ValueType) (document : Document) (path : DocPath) :
    (type.coerce store document path).Explained := by
  induction type using partInduction generalizing document path with
  | step type ih =>
  rw [coerce.eq_def]
  dsimp only
  split
  · exact explained_mismatch
  cases type with
  | any => exact explained_found
  | bool strict => exact explained_ofExcept.map
  | int constraints => exact explained_ofExcept.andThen fun _ => explained_ofVerdict
  | float constraints => exact explained_ofExcept.andThen fun _ => explained_ofVerdict
  | text constraints => exact explained_ofExcept.andThen fun _ => explained_ofVerdict
  | path kind => exact explained_ofExcept.map
  | literal options =>
      dsimp only
      split
      · exact explained_found
      · exact explained_mismatch
  | list item =>
      dsimp only
      split
      · exact explained_mismatch
      · apply Explained.map
        apply explained_collect
        intro outcome member
        rcases List.mem_map.mp member with ⟨⟨inner, position⟩, -, rfl⟩
        exact ih item List.mem_cons_self inner (path.child (.index position))
  | tuple items =>
      dsimp only
      split
      · exact explained_mismatch
      · split
        · exact (explained_coerceEach ih).map
        · exact explained_mismatch
  | dict key value =>
      dsimp only
      split
      · exact explained_mismatch
      · apply Explained.map
        apply explained_collect
        intro outcome member
        rcases List.mem_map.mp member with ⟨entry, -, rfl⟩
        have name := ih key List.mem_cons_self entry.1
        have inner := ih value (List.mem_cons_of_mem _ List.mem_cons_self) entry.2
        exact ((name _).both (inner _)).map
  | optional inner =>
      dsimp only
      split
      · exact explained_found
      · exact ih inner List.mem_cons_self _ path
  | union choices =>
      dsimp only
      split
      · next value _ =>
        intro _ _
        exact ⟨value, rfl⟩
      · intro none
        cases none
  | unit label base => exact ih base List.mem_cons_self _ path
  | record type =>
      dsimp only
      split
      · exact explained_mismatch
      · exact (RecordType.explained_instantiate type _ path).map
  | custom type => exact explained_ofExcept

end ValueType

end RuleSchema
