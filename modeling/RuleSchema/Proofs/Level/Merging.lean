import Mathlib.Data.List.Induction
import Mathlib.Data.List.Nodup
import RuleSchema.Proofs.FirstAppearances
import RuleSchema.Proofs.Level.Closing

/-!
# What a record type takes from its bases

A level that extends record types closes unless one of its own names or validators stands
against it.  The fields and validators of the bases are put into one list, base after base, and
those of the level last.  An entry whose key is known replaces the entry of that key where it
stands, and any other is appended: so keys keep the order in which they first appear, and the
entry of a key is the last one put.
-/

namespace RuleSchema

/-- What two validators of one record type never share. -/
def BoundValidator.key (validator : BoundValidator) : ValidatorTarget × String :=
  (validator.target, validator.name)

/-- The validator of a target and a name. -/
def RecordType.validator? (type : RecordType) (key : ValidatorTarget × String) :
    Option BoundValidator :=
  type.validators.find? fun validator => validator.key == key

theorem BoundValidator.sameKey_iff {left right : BoundValidator} :
    left.sameKey right = true ↔ left.key = right.key := by
  simp [sameKey, key]

/-- A type descends from itself and from whatever its bases descend from. -/
theorem RecordType.descendsFrom_iff {name : String} {type : RecordType} :
    type.descendsFrom name = true ↔
      name = type.name ∨ ∃ base ∈ type.bases, base.descendsFrom name = true := by
  have any (bases : List RecordType) :
      anyDescendsFrom name bases = true ↔ ∃ base ∈ bases, base.descendsFrom name = true := by
    induction bases with
    | nil => simp [anyDescendsFrom]
    | cons base rest ih => simp [anyDescendsFrom, ih]
  rcases type with ⟨own, fields, validators, bases⟩
  rw [descendsFrom, Bool.or_eq_true, any, beq_iff_eq, eq_comm]

namespace Level

/-! ## Lists of entries with keys -/

section Keyed

variable {α κ : Type} [BEq κ] [LawfulBEq κ] {key : α → κ} {entries added others : List α}
  {entry : α} {wanted : κ}

/-- Replace the entry of the same key in place, or append it. -/
def put (key : α → κ) (entries : List α) (entry : α) : List α :=
  match entries with
  | [] => [entry]
  | other :: rest =>
      if key other == key entry then entry :: rest else other :: put key rest entry

theorem putField_eq_put : putField = put Field.name := by
  funext fields field
  induction fields with
  | nil => rfl
  | cons other rest ih => rw [putField, put, ih]

theorem putValidator_eq_put : putValidator = put BoundValidator.key := by
  funext validators validator
  induction validators with
  | nil => rfl
  | cons other rest ih => simp only [putValidator, put, ih, BoundValidator.sameKey_iff, beq_iff_eq]

theorem map_put_of_mem (known : key entry ∈ entries.map key) :
    (put key entries entry).map key = entries.map key := by
  induction entries with
  | nil => cases known
  | cons other rest ih =>
      rw [put]
      split
      · next same => rw [List.map_cons, List.map_cons, eq_of_beq same]
      · next different =>
        have later :=
          (List.mem_cons.mp known).resolve_left fun same => different (beq_of_eq same.symm)
        rw [List.map_cons, List.map_cons, ih later]

theorem put_of_not_mem (fresh : key entry ∉ entries.map key) :
    put key entries entry = entries ++ [entry] := by
  induction entries with
  | nil => rfl
  | cons other rest ih =>
      rw [List.map_cons, List.mem_cons, not_or] at fresh
      rw [put, if_neg (by simpa using Ne.symm fresh.1), ih fresh.2, List.cons_append]

theorem nodup_put (distinct : (entries.map key).Nodup) :
    ((put key entries entry).map key).Nodup := by
  by_cases known : key entry ∈ entries.map key
  · rw [map_put_of_mem known]
    exact distinct
  · rw [put_of_not_mem known, List.map_append, List.map_singleton]
    exact List.nodup_append.mpr
      ⟨distinct, List.pairwise_singleton _ _,
        fun _ member _ last same => known (List.mem_singleton.mp last ▸ same ▸ member)⟩

theorem nodup_foldl_put (distinct : (entries.map key).Nodup) :
    ((added.foldl (put key) entries).map key).Nodup := by
  induction added generalizing entries with
  | nil => exact distinct
  | cons entry rest ih => exact ih (nodup_put distinct)

/-- The keys of entries put one after another are in the order in which they first appear. -/
theorem map_foldl_put :
    (added.foldl (put key) []).map key = (added.map key).eraseDups := by
  -- The last entry comes in last, so the induction takes entries off the end.
  induction added using List.reverseRecOn with
  | nil => rfl
  | append_singleton earlier entry ih =>
      rw [List.foldl_append, List.foldl_cons, List.foldl_nil, List.map_append, List.map_singleton]
      have inOrder : key entry ∈ (earlier.foldl (put key) []).map key ↔
          key entry ∈ earlier.map key := by
        rw [ih, List.mem_eraseDups]
      by_cases known : key entry ∈ earlier.map key
      · rw [map_put_of_mem (inOrder.mpr known), eraseDups_concat_of_mem known, ih]
      · rw [put_of_not_mem (known ∘ inOrder.mp), List.map_append, List.map_singleton,
          eraseDups_concat_of_not_mem known, ih]

theorem find?_put :
    (put key entries entry).find? (fun other => key other == wanted) =
      if key entry == wanted then some entry
      else entries.find? fun other => key other == wanted := by
  induction entries with
  | nil =>
      rw [put, List.find?_singleton]
      simp
  | cons other rest ih =>
      rw [put]
      split
      · next same =>
        by_cases hit : key entry = wanted
        · simp [hit]
        · simp [hit, eq_of_beq same]
      · next different =>
        by_cases hit : key entry = wanted
        · rw [hit, Bool.not_eq_true] at different
          rw [List.find?_cons, different, ih, if_pos (beq_of_eq hit), if_pos (beq_of_eq hit)]
        · rw [List.find?_cons, ih, List.find?_cons, if_neg (by simpa using hit),
            if_neg (by simpa using hit)]

/-- The last entry put under a key is the one found. -/
theorem find?_foldl_put :
    (added.foldl (put key) entries).find? (fun other => key other == wanted) =
      (added.reverse.find? fun other => key other == wanted).or
        (entries.find? fun other => key other == wanted) := by
  induction added generalizing entries with
  | nil => rfl
  | cons entry rest ih =>
      rw [List.foldl_cons, ih, find?_put, List.reverse_cons, List.find?_append, Option.or_assoc]
      by_cases hit : key entry = wanted <;> simp [hit]

theorem find?_eq_some_iff (distinct : (entries.map key).Nodup) :
    entries.find? (fun other => key other == wanted) = some entry ↔
      entry ∈ entries ∧ key entry = wanted := by
  constructor
  · intro found
    exact ⟨List.mem_of_find?_eq_some found, by simpa using List.find?_some found⟩
  · rintro ⟨member, same⟩
    cases found : entries.find? fun other => key other == wanted with
    | none => exact absurd same (by simpa using List.find?_eq_none.mp found entry member)
    | some other =>
        have hit : key other = wanted := by simpa using List.find?_some found
        rw [List.inj_on_of_nodup_map distinct (List.mem_of_find?_eq_some found) member
          (hit.trans same.symm)]

/-- Among entries of distinct keys, their order does not matter for the one found. -/
theorem find?_eq_of_perm (perm : entries.Perm others) (distinct : (others.map key).Nodup) :
    entries.find? (fun other => key other == wanted) =
      others.find? fun other => key other == wanted := by
  apply Option.ext
  intro entry
  rw [find?_eq_some_iff distinct, find?_eq_some_iff ((perm.map key).nodup_iff.mpr distinct),
    perm.mem_iff]

/-- An entry is found in the last list where its key is, the own entries being last. -/
theorem find?_foldl_put_flatMap {β : Type} {parts : β → List α} {sources : List β}
    {own : List α} (each : ∀ source ∈ sources, ((parts source).map key).Nodup)
    (distinct : (own.map key).Nodup) :
    ((sources.flatMap parts ++ own).foldl (put key) []).find? (fun other => key other == wanted) =
      (own.find? fun other => key other == wanted).or
        (sources.reverse.findSome? fun source =>
          (parts source).find? fun other => key other == wanted) := by
  have inSources :
      (sources.flatMap parts).reverse.find? (fun other => key other == wanted) =
        sources.reverse.findSome? fun source =>
          (parts source).find? fun other => key other == wanted := by
    induction sources with
    | nil => rfl
    | cons source rest ih =>
        rcases List.forall_mem_cons.mp each with ⟨first, others⟩
        rw [List.flatMap_cons, List.reverse_append, List.find?_append, ih others,
          List.reverse_cons, List.findSome?_append, List.findSome?_singleton,
          find?_eq_of_perm (List.reverse_perm _) first]
  rw [find?_foldl_put, List.reverse_append, List.find?_append, inSources,
    find?_eq_of_perm (List.reverse_perm _) distinct, List.find?_nil, Option.or_none]

end Keyed

/-! ## When a level closes -/

theorem checkName_eq_ok_iff {typeName name : String} :
    checkName typeName name = .ok () ↔ isIdentifier name = true ∧ name ∉ reservedNames := by
  rw [checkName]
  cases isIdentifier name with
  | false => simp
  | true =>
      by_cases reserved : name ∈ reservedNames <;> simp [reserved]

theorem checkNames_eq_ok_iff {typeName : String} {names : List String} :
    checkNames typeName [] names = .ok () ↔
      names.Nodup ∧ ∀ name ∈ names, isIdentifier name = true ∧ name ∉ reservedNames := by
  constructor
  · intro accepted
    rcases checkNames_eq_ok accepted with ⟨distinct, each⟩
    exact ⟨distinct, fun name member => checkName_eq_ok_iff.mp (each name member).2⟩
  · rintro ⟨distinct, each⟩
    exact checkNames_of_forall distinct fun name member =>
      ⟨List.not_mem_nil, checkName_eq_ok_iff.mpr (each name member)⟩

theorem checkValidators_eq_ok_iff {path : DocPath} {seen validators : List BoundValidator} :
    checkValidators path seen validators = .ok () ↔
      (validators.map BoundValidator.key).Nodup ∧
        ∀ validator ∈ validators, ∀ other ∈ seen, validator.key ≠ other.key := by
  induction validators generalizing seen with
  | nil => simp [checkValidators]
  | cons validator rest ih =>
      have known :
          seen.any validator.sameKey = true ↔ ∃ other ∈ seen, validator.key = other.key := by
        simp only [List.any_eq_true, BoundValidator.sameKey_iff]
      rw [checkValidators]
      split
      · next twice =>
        rcases known.mp twice with ⟨other, member, same⟩
        constructor
        · intro accepted
          cases accepted
        · rintro ⟨-, each⟩
          exact absurd same (each validator List.mem_cons_self other member)
      · next once =>
        have unseen : ∀ other ∈ seen, validator.key ≠ other.key := by
          intro other member same
          exact once (known.mpr ⟨other, member, same⟩)
        have others : ∀ validators : List BoundValidator,
            (∀ other ∈ validators, other.key ≠ validator.key) ↔
              validator.key ∉ validators.map BoundValidator.key := by
          simp
        simp only [ih, List.map_cons, List.nodup_cons, List.forall_mem_cons, forall_and, others]
        tauto

/-- A level closes where its own names and its own validators allow it. -/
theorem exists_close_iff {hint : String} {level : Level} {bases : List RecordType}
    {path : DocPath} :
    (∃ type, close hint level bases path = .ok type) ↔
      ((level.fields.map Prod.fst).Nodup ∧
        ∀ name ∈ level.fields.map Prod.fst, isIdentifier name = true ∧ name ∉ reservedNames) ∧
      (level.declared.map BoundValidator.key).Nodup := by
  have names : checkNames (hint ++ "_t") [] (level.fields.map Prod.fst) = .ok () ↔ _ :=
    checkNames_eq_ok_iff
  have validators :
      checkValidators path [] level.declared = .ok () ↔
        (level.declared.map BoundValidator.key).Nodup := by
    simp [checkValidators_eq_ok_iff]
  rw [← names, ← validators, close]
  cases checkNames (hint ++ "_t") [] (level.fields.map Prod.fst) with
  | error error => simp
  | ok => cases checkValidators path [] level.declared <;> simp

/-! ## What it closes to -/

/-- A record type that some level closes to. -/
def IsClosed (type : RecordType) : Prop :=
  ∃ hint level bases path, close hint level bases path = .ok type

/-- The names of the fields of the bases and of the level, in the order of first appearance. -/
def appearing (level : Level) (bases : List RecordType) : List String :=
  ((bases.flatMap RecordType.fields).map Field.name ++ level.fields.map Prod.fst).eraseDups

/-- What a record type takes from a level and from the types that it extends. -/
structure Merges (level : Level) (bases : List RecordType) (type : RecordType) : Prop where
  distinct : (type.fields.map Field.name).Nodup
  /-- Where a field has no default, none before it has one. -/
  requiredFirst :
    type.fields.Pairwise fun first second => second.default = none → first.default = none
  names : ∀ name, name ∈ type.fields.map Field.name ↔ name ∈ appearing level bases
  required :
    ((type.fields.filter fun field => field.default.isNone).map Field.name).Sublist
      (appearing level bases)
  defaulted :
    ((type.fields.filter fun field => field.default.isSome).map Field.name).Sublist
      (appearing level bases)
  /-- A field is that of the level, or else that of the last base that has it. -/
  field : ∀ name,
    type.field? name =
      ((level.fields.lookup name).map fun spec => spec.named name).or
        (bases.reverse.findSome? fun base => base.field? name)
  distinctValidators : (type.validators.map BoundValidator.key).Nodup
  /-- A validator is that of the level, or else that of the last base that has it. -/
  validator : ∀ key,
    type.validator? key =
      (level.declared.find? fun validator => validator.key == key).or
        (bases.reverse.findSome? fun base => base.validator? key)
  descends : ∀ name,
    type.descendsFrom name = true ↔
      name = type.name ∨ ∃ base ∈ bases, base.descendsFrom name = true

theorem pairwise_requiredFirst (fields : List Field) :
    (requiredFirst fields).Pairwise fun first second =>
      second.default = none → first.default = none := by
  refine List.pairwise_append.mpr ⟨?_, ?_, ?_⟩
  · refine List.pairwise_of_forall_mem_list fun first firstMember _ _ _ => ?_
    simpa using (List.mem_filter.mp firstMember).2
  · refine List.pairwise_of_forall_mem_list fun _ _ second secondMember absent => ?_
    simpa [absent] using (List.mem_filter.mp secondMember).2
  · intro first firstMember _ _ _
    simpa using (List.mem_filter.mp firstMember).2

/-- The fields of a level are known by their names. -/
theorem find?_own {fields : List (String × FieldSpec)} {name : String} :
    (fields.map fun field => field.2.named field.1).find? (fun field => field.name == name) =
      (fields.lookup name).map fun spec => spec.named name := by
  induction fields with
  | nil => rfl
  | cons field rest ih =>
      have named : (field.2.named field.1).name = field.1 := rfl
      rw [List.map_cons, List.find?_cons, ih, List.lookup_cons, named]
      by_cases same : field.1 = name
      · simp [same]
      · rw [beq_eq_false_iff_ne.mpr same, beq_eq_false_iff_ne.mpr (Ne.symm same)]

/-- A type that a level closes to has fields with distinct names and distinct validators. -/
theorem IsClosed.distinct {type : RecordType} (made : IsClosed type) :
    (type.fields.map Field.name).Nodup ∧ (type.validators.map BoundValidator.key).Nodup := by
  rcases made with ⟨hint, level, bases, path, closed⟩
  refine ⟨nodup_fields_of_close closed, ?_⟩
  rw [(close_eq_ok closed).2.2.2, putValidator_eq_put]
  exact nodup_foldl_put List.nodup_nil

theorem bases_of_close {hint : String} {level : Level} {bases : List RecordType}
    {path : DocPath} {type : RecordType} (closed : close hint level bases path = .ok type) :
    type.bases = bases := by
  rw [close] at closed
  split at closed
  · cases closed
  · split at closed
    · cases closed
    · cases closed
      rfl

/-- A level merges with the types it extends, if levels closed to these. -/
theorem merges_of_close {hint : String} {level : Level} {bases : List RecordType}
    {path : DocPath} {type : RecordType} (made : ∀ base ∈ bases, IsClosed base)
    (closed : close hint level bases path = .ok type) : Merges level bases type := by
  have distinct := IsClosed.distinct ⟨hint, level, bases, path, closed⟩
  rcases close_eq_ok closed with ⟨-, -, fields, validators⟩
  rcases exists_close_iff.mp ⟨type, closed⟩ with ⟨⟨ownNames, -⟩, ownValidators⟩
  rw [putField_eq_put] at fields
  rw [putValidator_eq_put] at validators
  let own := level.fields.map fun field => field.2.named field.1
  let merged := (bases.flatMap RecordType.fields ++ own).foldl (put Field.name) []
  have merges : type.fields = requiredFirst merged := fields
  have ownNamed : own.map Field.name = level.fields.map Prod.fst := by
    simp [own, FieldSpec.named]
  have names : merged.map Field.name = appearing level bases := by
    rw [map_foldl_put, List.map_append, ownNamed, appearing]
  have mergedDistinct : (merged.map Field.name).Nodup := nodup_foldl_put List.nodup_nil
  exact
    { distinct := distinct.1
      requiredFirst := merges ▸ pairwise_requiredFirst merged
      names := fun name => by
        rw [merges, ((requiredFirst_perm merged).map Field.name).mem_iff, names]
      required := by
        rw [merges, filter_isNone_requiredFirst, ← names]
        exact List.filter_sublist.map Field.name
      defaulted := by
        rw [merges, filter_isSome_requiredFirst, ← names]
        exact List.filter_sublist.map Field.name
      field := fun name => by
        have each : ∀ base ∈ bases, (base.fields.map Field.name).Nodup :=
          fun base member => (made base member).distinct.1
        rw [RecordType.field?, merges, find?_eq_of_perm (requiredFirst_perm merged) mergedDistinct,
          find?_foldl_put_flatMap each (ownNamed ▸ ownNames), find?_own]
        rfl
      distinctValidators := distinct.2
      validator := fun key => by
        have each : ∀ base ∈ bases, (base.validators.map BoundValidator.key).Nodup :=
          fun base member => (made base member).distinct.2
        rw [RecordType.validator?, validators, find?_foldl_put_flatMap each ownValidators]
        rfl
      descends := fun name => by
        rw [RecordType.descendsFrom_iff, bases_of_close closed] }

/--
A level fails to close if and only if one of its names may not be a field, two of its fields
share a name, or two of its own validators share target and name; and otherwise it merges with
the types that it extends.
-/
theorem close_merges (hint : String) (level : Level) (bases : List RecordType) (path : DocPath)
    (made : ∀ base ∈ bases, IsClosed base) :
    ((∃ error, close hint level bases path = .error error) ↔
      (∃ name ∈ level.fields.map Prod.fst,
        isIdentifier name = false ∨ name ∈ reservedNames) ∨
      ¬ (level.fields.map Prod.fst).Nodup ∨
      ¬ (level.declared.map BoundValidator.key).Nodup) ∧
    ∀ type, close hint level bases path = .ok type → Merges level bases type := by
  refine ⟨?_, fun type closed => merges_of_close made closed⟩
  have fails :
      (∃ error, close hint level bases path = .error error) ↔
        ¬ ∃ type, close hint level bases path = .ok type := by
    cases close hint level bases path <;> simp
  have allowed (name : String) :
      (isIdentifier name = false ∨ name ∈ reservedNames) ↔
        ¬ (isIdentifier name = true ∧ name ∉ reservedNames) := by
    rw [not_and_or, not_not, Bool.not_eq_true]
  rw [fails, exists_close_iff, not_and_or, not_and_or]
  simp only [allowed, not_forall, exists_prop]
  rw [or_assoc, or_left_comm]

/-- A point has two coordinates, which are judged together. -/
def pointLevel : Level :=
  ⟨[("x", .plain .any), ("y", .plain .any)], [⟨"apart", fun _ => .accepted, .record, [], {}⟩]⟩

/-- Two coordinates and a validator of the point as a whole. -/
def pointType : RecordType :=
  ⟨"point_t", [⟨"x", .any, none, false, none⟩, ⟨"y", .any, none, false, none⟩],
    [⟨"apart", fun _ => .accepted, .record, [], {}⟩], []⟩

/-- Declares the first coordinate again, with a default, and a third one. -/
def shiftedLevel : Level :=
  ⟨[("x", { FieldSpec.plain .any with default := some .null }), ("z", .plain .any)],
    [⟨"apart", fun _ => .accepted, .record, [], { always := true }⟩]⟩

theorem close_merges_shifted :
    ∃ type, close "point" pointLevel [] [] = .ok pointType ∧
      close "shifted" shiftedLevel [pointType] [] = .ok type ∧
      type.fields.map Field.name = ["y", "z", "x"] ∧
      Merges shiftedLevel [pointType] type := by
  have point : close "point" pointLevel [] [] = .ok pointType := by rfl
  have made : ∀ base ∈ [pointType], IsClosed base := by
    intro base member
    rw [List.mem_singleton.mp member]
    exact ⟨"point", pointLevel, [], [], point⟩
  refine ⟨_, point, rfl, rfl, (close_merges "shifted" shiftedLevel [pointType] [] made).2 _ rfl⟩

end Level

end RuleSchema
