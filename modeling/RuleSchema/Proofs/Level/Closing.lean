import RuleSchema.Level.Basic

/-!
# What closing a level guarantees

A level that closes has distinct names, and so has the record type that it closes to,
whatever the types are that it extends.  A level that extends nothing gives its fields
back as they are, those with a default behind the others.
-/

namespace RuleSchema.Level

/-- Accepted names are distinct, were not seen before, and each of them is accepted. -/
theorem checkNames_eq_ok {typeName : String} {seen names : List String}
    (accepted : checkNames typeName seen names = .ok ()) :
    names.Nodup ∧ ∀ name ∈ names, name ∉ seen ∧ checkName typeName name = .ok () := by
  induction names generalizing seen with
  | nil => simp
  | cons name rest ih =>
      rw [checkNames] at accepted
      split at accepted
      · cases accepted
      · next valid =>
        split at accepted
        · cases accepted
        · next unseen =>
          rcases ih accepted with ⟨distinct, others⟩
          have new : name ∉ seen := by simpa using unseen
          refine ⟨List.nodup_cons.mpr ⟨?_, distinct⟩, ?_⟩
          · intro member
            exact (others name member).1 List.mem_cons_self
          · intro other member
            rcases List.mem_cons.mp member with rfl | later
            · exact ⟨new, valid⟩
            · exact
                ⟨fun old => (others other later).1 (List.mem_cons_of_mem _ old),
                  (others other later).2⟩

/-- Names are accepted that are distinct, were not seen, and are accepted one by one. -/
theorem checkNames_of_forall {typeName : String} {seen names : List String}
    (distinct : names.Nodup)
    (each : ∀ name ∈ names, name ∉ seen ∧ checkName typeName name = .ok ()) :
    checkNames typeName seen names = .ok () := by
  induction names generalizing seen with
  | nil => rfl
  | cons name rest ih =>
      rcases List.nodup_cons.mp distinct with ⟨fresh, restDistinct⟩
      rcases List.forall_mem_cons.mp each with ⟨⟨unseen, valid⟩, others⟩
      rw [checkNames, valid]
      simp only [List.contains_eq_mem, decide_eq_true_eq, if_neg unseen]
      refine ih restDistinct fun other member => ⟨?_, (others other member).2⟩
      rw [List.mem_cons, not_or]
      exact ⟨fun same => fresh (same ▸ member), (others other member).1⟩

/-- A level declares no validator where neither it nor one of its fields does. -/
theorem declared_eq_nil {level : Level} (noOwn : level.validators = [])
    (unchecked : ∀ field ∈ level.fields, field.2.validators = []) : level.declared = [] := by
  rw [declared, noOwn, List.nil_append, List.flatMap_eq_nil_iff]
  exact unchecked

/-- A level that closes has accepted names, and gives the type that its parts make up. -/
theorem close_eq_ok {hint : String} {level : Level} {bases : List RecordType}
    {path : DocPath} {type : RecordType} (closed : close hint level bases path = .ok type) :
    checkNames (hint ++ "_t") [] (level.fields.map Prod.fst) = .ok () ∧
      type.name = hint ++ "_t" ∧
      type.fields =
        requiredFirst
          ((bases.flatMap RecordType.fields ++
            level.fields.map fun field => field.2.named field.1).foldl putField []) ∧
      type.validators =
        (bases.flatMap RecordType.validators ++ level.declared).foldl putValidator [] := by
  rw [close] at closed
  split at closed
  · cases closed
  · next names =>
    split at closed
    · cases closed
    · cases closed
      exact ⟨names, rfl, rfl, rfl⟩

/-- The names of a level that closes are distinct. -/
theorem nodup_of_close {hint : String} {level : Level} {bases : List RecordType}
    {path : DocPath} {type : RecordType} (closed : close hint level bases path = .ok type) :
    (level.fields.map Prod.fst).Nodup :=
  (checkNames_eq_ok (close_eq_ok closed).1).1

/-! ## Fields of the record type -/

theorem mem_names_putField {fields : List Field} {field : Field} {name : String} :
    name ∈ (putField fields field).map Field.name ↔
      name = field.name ∨ name ∈ fields.map Field.name := by
  induction fields with
  | nil => simp [putField]
  | cons other rest ih =>
      rw [putField]
      split
      · next same => simp [eq_of_beq same]
      · rw [List.map_cons, List.map_cons, List.mem_cons, List.mem_cons, ih, or_left_comm]

theorem nodup_putField {fields : List Field} (distinct : (fields.map Field.name).Nodup)
    (field : Field) : ((putField fields field).map Field.name).Nodup := by
  induction fields with
  | nil => simp [putField]
  | cons other rest ih =>
      rcases List.nodup_cons.mp distinct with ⟨fresh, restDistinct⟩
      rw [putField]
      split
      · next same =>
        rw [List.map_cons, ← eq_of_beq same]
        exact distinct
      · next different =>
        rw [List.map_cons, List.nodup_cons, mem_names_putField]
        refine ⟨?_, ih restDistinct⟩
        rintro (same | later)
        · exact different (beq_of_eq same)
        · exact fresh later

theorem nodup_foldl_putField {fields added : List Field}
    (distinct : (fields.map Field.name).Nodup) :
    ((added.foldl putField fields).map Field.name).Nodup := by
  induction added generalizing fields with
  | nil => exact distinct
  | cons field rest ih => exact ih (nodup_putField distinct field)

theorem mem_of_mem_putField {fields : List Field} {field other : Field}
    (member : other ∈ putField fields field) : other = field ∨ other ∈ fields := by
  induction fields with
  | nil => exact .inl (List.mem_singleton.mp member)
  | cons head rest ih =>
      rw [putField] at member
      split at member
      · exact (List.mem_cons.mp member).imp_right (List.mem_cons_of_mem head)
      · rcases List.mem_cons.mp member with rfl | inRest
        · exact .inr List.mem_cons_self
        · exact (ih inRest).imp_right (List.mem_cons_of_mem head)

theorem mem_of_mem_foldl_putField {fields added : List Field} {other : Field}
    (member : other ∈ added.foldl putField fields) : other ∈ fields ∨ other ∈ added := by
  induction added generalizing fields with
  | nil => exact .inl member
  | cons field rest ih =>
      rcases ih member with put | later
      · rcases mem_of_mem_putField put with rfl | old
        · exact .inr List.mem_cons_self
        · exact .inl old
      · exact .inr (List.mem_cons_of_mem field later)

theorem mem_names_foldl_putField {fields added : List Field} {name : String} :
    name ∈ (added.foldl putField fields).map Field.name ↔
      name ∈ fields.map Field.name ∨ name ∈ added.map Field.name := by
  induction added generalizing fields with
  | nil => simp
  | cons field rest ih =>
      rw [List.foldl_cons, ih, mem_names_putField, List.map_cons, List.mem_cons, or_assoc,
        or_left_comm]

theorem putField_of_fresh {fields : List Field} {field : Field}
    (fresh : field.name ∉ fields.map Field.name) : putField fields field = fields ++ [field] := by
  induction fields with
  | nil => rfl
  | cons other rest ih =>
      simp only [List.map_cons, List.mem_cons, not_or] at fresh
      rw [putField, if_neg (by simpa using Ne.symm fresh.1), ih fresh.2]
      rfl

theorem foldl_putField_of_nodup {fields added : List Field}
    (distinct : ((fields ++ added).map Field.name).Nodup) :
    added.foldl putField fields = fields ++ added := by
  induction added generalizing fields with
  | nil => rw [List.foldl_nil, List.append_nil]
  | cons field rest ih =>
      have shifted : fields ++ field :: rest = (fields ++ [field]) ++ rest := by simp
      have fresh : field.name ∉ fields.map Field.name := by
        intro known
        rw [List.map_append, List.nodup_append] at distinct
        exact distinct.2.2 _ known _ List.mem_cons_self rfl
      rw [List.foldl_cons, putField_of_fresh fresh, ih (shifted ▸ distinct), ← shifted]

theorem requiredFirst_perm (fields : List Field) : (requiredFirst fields).Perm fields := by
  have split := List.filter_append_perm (fun field : Field => field.default.isNone) fields
  simpa [requiredFirst] using split

theorem filter_isNone_requiredFirst (fields : List Field) :
    (requiredFirst fields).filter (fun field => field.default.isNone) =
      fields.filter fun field => field.default.isNone := by
  have noneTwice : fields.filter (fun field => field.default.isNone && field.default.isSome) = [] :=
    List.filter_eq_nil_iff.mpr fun field _ => by cases field.default <;> simp
  simp [requiredFirst, List.filter_filter, noneTwice]

theorem filter_isSome_requiredFirst (fields : List Field) :
    (requiredFirst fields).filter (fun field => field.default.isSome) =
      fields.filter fun field => field.default.isSome := by
  have twiceNone : fields.filter (fun field => field.default.isSome && field.default.isNone) = [] :=
    List.filter_eq_nil_iff.mpr fun field _ => by cases field.default <;> simp
  simp [requiredFirst, List.filter_filter, twiceNone]

theorem requiredFirst_idem (fields : List Field) :
    requiredFirst (requiredFirst fields) = requiredFirst fields := by
  rw [requiredFirst, filter_isNone_requiredFirst, filter_isSome_requiredFirst, requiredFirst]

/-- The fields of a record type that a level closes to have distinct names. -/
theorem nodup_fields_of_close {hint : String} {level : Level} {bases : List RecordType}
    {path : DocPath} {type : RecordType} (closed : close hint level bases path = .ok type) :
    (type.fields.map Field.name).Nodup := by
  rw [(close_eq_ok closed).2.2.1]
  apply ((requiredFirst_perm _).map Field.name).nodup_iff.mpr
  exact nodup_foldl_putField List.nodup_nil

/-- A level that extends nothing closes to its own fields, those with a default last. -/
theorem fields_of_close_nil {hint : String} {level : Level} {path : DocPath}
    {type : RecordType} (closed : close hint level [] path = .ok type) :
    type.fields = requiredFirst (level.fields.map fun field => field.2.named field.1) := by
  have distinct : ((level.fields.map fun field => field.2.named field.1).map Field.name).Nodup := by
    rw [List.map_map]
    exact nodup_of_close closed
  rw [(close_eq_ok closed).2.2.1, List.flatMap_nil, List.nil_append,
    foldl_putField_of_nodup (by simpa using distinct), List.nil_append]

/-- A level without fields and validators closes to the fields of the one type it extends. -/
theorem fields_of_close_inheriting {hint : String} {base type : RecordType} {path : DocPath}
    (distinct : (base.fields.map Field.name).Nodup)
    (ordered : requiredFirst base.fields = base.fields)
    (closed : close hint ⟨[], []⟩ [base] path = .ok type) : type.fields = base.fields := by
  rw [(close_eq_ok closed).2.2.1, List.flatMap_singleton, List.map_nil, List.append_nil,
    foldl_putField_of_nodup (by simpa using distinct), List.nil_append, ordered]

end RuleSchema.Level
