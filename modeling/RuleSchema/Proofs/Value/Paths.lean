import RuleSchema.Proofs.Document.Editing
import RuleSchema.Proofs.Document.TextKeys
import RuleSchema.Proofs.Value.Documents
import RuleSchema.Value.Instance

/-!
# Paths into values

A step of a path finds in a value what it finds in the document of the value: records and
maps are mappings whose keys are texts, so that no rendered key comes into it, and a step
that a value does not take is not taken by its document either.  A whole path therefore leads
to the same place in both.
-/

namespace RuleSchema

variable {name : String}

theorem Mapping.get?_toMapping (entries : NameMap Value) :
    Mapping.get? (Value.toMapping entries) (.string name) =
      (NameMap.get? entries name).map Value.toDocument := by
  have sameTest : (fun entry : String × Value => (Document.string name).beq (.string entry.1)) =
      fun entry => entry.1 == name := by
    funext entry
    rw [Document.string_beq_eq_isField, isField]
  rw [get?, Value.toMapping_eq_map, List.find?_map, NameMap.get?, Option.map_map, Option.map_map]
  exact congrArg (fun test => (entries.find? test).map fun entry => entry.2.toDocument) sameTest

/-- A name addresses in the written entries what it is the name of. -/
theorem Mapping.at?_toMapping (entries : NameMap Value) :
    Mapping.at? (Value.toMapping entries) name =
      (NameMap.get? entries name).map Value.toDocument := by
  rw [at?_eq_get?, get?_toMapping]
  intro entry member
  rw [Value.toMapping_eq_map] at member
  rcases List.mem_map.mp member with ⟨own, -, rfl⟩
  rfl

namespace Value

open DocPath

/-- One step finds the same in a value and in its document. -/
theorem get?_step_toDocument (value : Value) (step : PathKey) :
    DocPath.get? [step] value.toDocument = (value.step? step).map toDocument := by
  cases step with
  | key name =>
      cases value with
      | map entries => rw [toDocument, get?_key, Mapping.at?_toMapping, step?]
      | record typeName fields => rw [toDocument, get?_key, Mapping.at?_toMapping, step?]
      | _ => rfl
  | index position =>
      cases value with
      | list items => rw [toDocument, get?_index, toItems_eq_map, List.getElem?_map, step?]
      | _ => rfl

/-- A path finds the same in a value and in its document. -/
theorem get?_toDocument (value : Value) (path : DocPath) :
    path.get? value.toDocument = (value.get? path).map toDocument := by
  induction path generalizing value with
  | nil => rfl
  | cons step rest ih =>
      rw [get?_cons, get?_step_toDocument, get?]
      cases value.step? step with
      | none => rfl
      | some inner => exact ih inner

end Value

/--
Every path below the root finds in a record what it finds in the document of the record, and
nothing in the one where it finds nothing in the other.
-/
theorem Instance.getPath?_toDocument (record : Instance) (step : PathKey) (rest : DocPath) :
    (record.getPath? (step :: rest)).map Value.toDocument =
      DocPath.get? (step :: rest) record.toDocument :=
  (Value.get?_toDocument record.toValue (step :: rest)).symm

end RuleSchema
