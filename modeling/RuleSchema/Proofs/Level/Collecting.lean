import RuleSchema.Level.Assembly
import RuleSchema.Proofs.Chains

/-!
# What a level collects

A level is collected from the entries of a mapping whose keys are not reserved, in their
order, each of which must have a resolved field.  Where the names of the fields are
distinct, an entry is known by the text of its key.
-/

namespace RuleSchema.Level

/-- A leaf that gives a field has a `type`. -/
theorem hasType_of_ofLeaf {registry : Registry} {path : DocPath} {leaf : Mapping}
    {field : FieldSpec} (built : (ofLeaf registry path leaf).result = .ok field) :
    leaf.hasField "type" = true := by
  rw [ofLeaf, Warned.andThen_result_eq_ok] at built
  rcases built with ⟨name, -, built⟩
  rw [Warned.andThen_result_eq_ok] at built
  rcases built with ⟨type, typed, -⟩
  rw [Registry.resolveType] at typed
  split at typed
  · cases typed
  · next document stated =>
    rcases Option.map_eq_some_iff.mp stated with ⟨entry, hit, -⟩
    have named := List.find?_some hit
    rw [Mapping.hasField, List.any_eq_true]
    exact ⟨entry, List.mem_of_find?_eq_some hit, named⟩

theorem fieldsOf_cons_of_reserved {path : DocPath} {resolved : ResolvedFields}
    {key value : Document} {rest : Mapping}
    (reserved : Rule.isReservedText key.keyText = true) :
    fieldsOf path resolved ((key, value) :: rest) = fieldsOf path resolved rest := by
  rw [fieldsOf, if_pos reserved]

theorem fieldsOf_cons_eq_ok_iff {path : DocPath} {resolved : ResolvedFields}
    {key value : Document} {rest : Mapping} {fields : List (String × FieldSpec)}
    (free : Rule.isReservedText key.keyText = false) :
    fieldsOf path resolved ((key, value) :: rest) = .ok fields ↔
      ∃ field others, resolved.get? (path.child (PathKey.ofDocument key)) = some field ∧
        fieldsOf path resolved rest = .ok others ∧ fields = (key.keyText, field) :: others := by
  rw [fieldsOf, if_neg (by simp [free])]
  cases known : resolved.get? (path.child (PathKey.ofDocument key)) with
  | none => simp [known]
  | some field =>
      simp only [known, except_map_eq_ok, Option.some.injEq]
      constructor
      · rintro ⟨others, gathered, rfl⟩
        exact ⟨field, others, rfl, gathered, rfl⟩
      · rintro ⟨_, others, rfl, gathered, rfl⟩
        exact ⟨others, gathered, rfl⟩

/-- A level is collected when each entry that stands for a field has a resolved one. -/
theorem exists_fieldsOf_iff {path : DocPath} {resolved : ResolvedFields} {entries : Mapping} :
    (∃ fields, fieldsOf path resolved entries = .ok fields) ↔
      ∀ key value, (key, value) ∈ entries → Rule.isReservedText key.keyText = false →
        resolved.has (path.child (PathKey.ofDocument key)) = true := by
  induction entries with
  | nil => simp [fieldsOf]
  | cons entry rest ih =>
      rcases entry with ⟨key, value⟩
      cases reserved : Rule.isReservedText key.keyText with
      | true =>
          rw [fieldsOf_cons_of_reserved reserved, ih]
          constructor
          · intro known other inner member free
            rcases List.mem_cons.mp member with head | later
            · rw [(Prod.mk.inj head).1, reserved] at free
              cases free
            · exact known other inner later free
          · intro known other inner member free
            exact known other inner (List.mem_cons_of_mem _ member) free
      | false =>
          simp only [fieldsOf_cons_eq_ok_iff reserved]
          constructor
          · rintro ⟨_, field, others, known, gathered, rfl⟩ other inner member free
            rcases List.mem_cons.mp member with head | later
            · rw [(Prod.mk.inj head).1, ResolvedFields.has, known]
              rfl
            · exact ih.mp ⟨others, gathered⟩ other inner later free
          · intro known
            have here := known key value List.mem_cons_self reserved
            rcases Option.isSome_iff_exists.mp here with ⟨field, found⟩
            rcases ih.mpr fun other inner member free =>
              known other inner (List.mem_cons_of_mem _ member) free with ⟨others, gathered⟩
            exact ⟨_, field, others, found, gathered, rfl⟩

/-- The names that the entries of a mapping give to fields. -/
def fieldNames (entries : Mapping) : List String :=
  (entries.map fun entry => entry.1.keyText).filter fun name => !Rule.isReservedText name

theorem names_of_fieldsOf {path : DocPath} {resolved : ResolvedFields} {entries : Mapping}
    {fields : List (String × FieldSpec)}
    (collected : fieldsOf path resolved entries = .ok fields) :
    fields.map Prod.fst = fieldNames entries := by
  induction entries generalizing fields with
  | nil =>
      obtain rfl : [] = fields := by simpa [fieldsOf] using collected
      rfl
  | cons entry rest ih =>
      rcases entry with ⟨key, value⟩
      cases reserved : Rule.isReservedText key.keyText with
      | true =>
          rw [fieldsOf_cons_of_reserved reserved] at collected
          simpa [fieldNames, reserved] using ih collected
      | false =>
          rcases (fieldsOf_cons_eq_ok_iff reserved).mp collected with ⟨field, others, -, later, rfl⟩
          simpa [fieldNames, reserved] using ih later

/-- Entries with one text that gives a field its name are one entry. -/
theorem eq_of_keyText_eq {entries : Mapping} (distinct : (fieldNames entries).Nodup)
    {left right : Document × Document} (leftMember : left ∈ entries)
    (rightMember : right ∈ entries) (free : Rule.isReservedText left.1.keyText = false)
    (same : left.1.keyText = right.1.keyText) : left = right := by
  induction entries with
  | nil => simp at leftMember
  | cons entry rest ih =>
      have absent : ∀ other ∈ rest, Rule.isReservedText entry.1.keyText = false →
          entry.1.keyText ≠ other.1.keyText := by
        intro other member entryFree equal
        have : entry.1.keyText ∈ fieldNames rest := by
          rw [fieldNames, List.mem_filter, equal, List.mem_map]
          exact ⟨⟨other, member, rfl⟩, by simpa [equal] using entryFree⟩
        simp only [fieldNames, List.map_cons, entryFree, Bool.not_false,
          List.filter_cons_of_pos, List.nodup_cons] at distinct
        exact distinct.1 this
      have tail : (fieldNames rest).Nodup := by
        refine List.Nodup.sublist ?_ distinct
        exact (List.sublist_cons_self _ _).map _ |>.filter _
      rcases List.mem_cons.mp leftMember with rfl | leftLater
      · rcases List.mem_cons.mp rightMember with rfl | rightLater
        · rfl
        · exact absurd same (absent right rightLater free)
      · rcases List.mem_cons.mp rightMember with rfl | rightLater
        · exact absurd same.symm (absent left leftLater (same ▸ free))
        · exact ih tail leftLater rightLater

end RuleSchema.Level
