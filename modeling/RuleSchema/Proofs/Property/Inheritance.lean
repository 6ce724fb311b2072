import RuleSchema.Proofs.Property.Attributes
import RuleSchema.Proofs.Property.Composition
import RuleSchema.Proofs.Property.Values
import RuleSchema.Proofs.Types.Rereading
import RuleSchema.Proofs.Types.Values

/-!
# Inheritance of values

A composed property has for each attribute the value that the nearest property declares, from
itself up, or else the default if the attribute must be present.  On the way down a value is
written and coerced again at every property, with no other result than the first time.
-/

namespace RuleSchema

variable {store : FileStore} {registry : Registry} {rules : Document} {set : AttributeSet}
  {defaults : NameMap Document} {declarations : PropertyDeclarations}

/-! ## The nearest declaration -/

/-- The default of an attribute, if the attribute must be present. -/
def Attribute.fallback? (attr : Attribute) (defaults : NameMap Document) (field : String) :
    Option Document :=
  if attr.spec.optional then none else (defaults.get? field).or attr.spec.default

namespace AttributeSet

/-- What the nearest property that declares an attribute declares for it, from a property up. -/
inductive Nearest (set : AttributeSet) (declarations : PropertyDeclarations) (field : String) :
    String → Option Document → Prop where
  | own {name : String} {declaration : PropertyDeclaration}
      {selected : List (String × Document)} {document : Document}
      (known : declarations.get? name = some declaration)
      (selects : set.selectValues declaration.values = .ok selected)
      (declared : NameMap.get? selected field = some document) :
      Nearest set declarations field name (some document)
  | above {name parent : String} {declaration : PropertyDeclaration}
      {selected : List (String × Document)} {found : Option Document}
      (known : declarations.get? name = some declaration)
      (selects : set.selectValues declaration.values = .ok selected)
      (undeclared : NameMap.get? selected field = none)
      (hasParent : declaration.parent = some parent)
      (inherited : Nearest set declarations field parent found) :
      Nearest set declarations field name found
  | nowhere {name : String} {declaration : PropertyDeclaration}
      {selected : List (String × Document)}
      (known : declarations.get? name = some declaration)
      (selects : set.selectValues declaration.values = .ok selected)
      (undeclared : NameMap.get? selected field = none) (noParent : declaration.parent = none) :
      Nearest set declarations field name none

/-- There is one nearest declaration at most. -/
theorem Nearest.unique {field name : String} {first second : Option Document}
    (nearest : set.Nearest declarations field name first)
    (other : set.Nearest declarations field name second) : first = second := by
  induction nearest generalizing second with
  | own known selects declared =>
      cases other with
      | own | above | nowhere => grind
  | above known selects undeclared hasParent _ ih =>
      cases other with
      | above otherKnown _ _ otherParent otherInherited =>
          rw [known, Option.some.injEq] at otherKnown
          rw [← otherKnown, hasParent, Option.some.injEq] at otherParent
          exact ih (otherParent ▸ otherInherited)
      | own | nowhere => grind
  | nowhere known selects undeclared noParent =>
      cases other with
      | own | above | nowhere => grind

/-- A record of attributes in which every field has a value. -/
structure IsFilled (set : AttributeSet) (record : Instance) : Prop where
  described : set.Describes record.type.fields
  distinct : record.values.names.Nodup
  mem_names_iff : ∀ name,
    name ∈ record.values.names ↔ name ∈ record.type.fields.map Field.name

end AttributeSet

/-! ## One property -/

/-- A value that is written and read again at its place stays what it is. -/
theorem ValueType.Reads.trans {type : ValueType} {path : DocPath} {source : Option Document}
    {first second : Option Value} (rereads : type.Rereads store True)
    (reads : type.Reads store path source first)
    (again : type.Reads store path (first.map Value.toDocument) second) :
    type.Reads store path source second := by
  cases reads with
  | nothing => exact again
  | @coerced document value found =>
      cases again with
      | @coerced _ other foundAgain =>
          have confirmed := rereads document path value (found ▸ Outcome.gives_found.mpr rfl) path
          have same := confirmed.eq_found_of_clean (by rw [foundAgain]; rfl)
            (by rw [foundAgain]; rfl)
          rw [foundAgain] at same
          have equal : other = value := by simpa [Outcome.found] using same
          exact equal ▸ .coerced found

namespace PropertySet

/-- What a property that declares nothing for an attribute takes for it. -/
def inheritedValue (defaults : NameMap Document) (parent : Option Instance) (field : String)
    (attr : Attribute) : Option Document :=
  match parent with
  | some above => (above.values.get? field).map Value.toDocument
  | none => attr.fallback? defaults field

/-- A parent without missing values, or none. -/
def IsFilledParent (set : AttributeSet) (parent : Option Instance) : Prop :=
  ∀ above, parent = some above → set.IsFilled above

variable {parent : Option Instance}

theorem IsFilledParent.describes (filled : IsFilledParent set parent)
    (compiled : AttributeSet.compile registry rules = .ok set) :
    set.Describes (baseOf set parent).fields := by
  cases parent with
  | none => exact AttributeSet.describes_base compiled
  | some above => exact (filled above rfl).described

theorem IsFilledParent.nodup_names (filled : IsFilledParent set parent) :
    (inherited parent).names.Nodup := by
  cases parent with
  | none => exact List.nodup_nil
  | some above =>
      rw [inherited, NameMap.names_mapValues]
      exact (filled above rfl).distinct

/-- A field that a property has from the type it extends takes a value, or may be absent. -/
theorem IsFilledParent.start_of_mem (filled : IsFilledParent set parent)
    (defaults : NameMap Document) (compiled : AttributeSet.compile registry rules = .ok set)
    {field : String} {attr : Attribute}
    (known : set.attributes.get? field = some attr)
    (member : field ∈ (baseOf set parent).fields.map Field.name) :
    (((inherited parent).get? field).or (defaults.get? field)).or attr.spec.default =
        inheritedValue defaults parent field attr ∧
      ((inheritedValue defaults parent field attr).isSome ∨ attr.spec.optional = false) := by
  cases parent with
  | none =>
      have required := (AttributeSet.mem_names_base_iff compiled known).mp member
      have nothing : (inherited none).get? field = none := rfl
      rw [inheritedValue, Attribute.fallback?, nothing, required]
      exact ⟨rfl, .inr rfl⟩
  | some above =>
      have present := ((filled above rfl).mem_names_iff field).mpr member
      rcases NameMap.mem_names_iff.mp present with ⟨value, found⟩
      rw [inheritedValue, inherited, NameMap.get?_mapValues, found]
      exact ⟨rfl, .inl rfl⟩

theorem IsFilledParent.inheritedValue_of_not_mem (filled : IsFilledParent set parent)
    (compiled : AttributeSet.compile registry rules = .ok set) {field : String} {attr : Attribute}
    (known : set.attributes.get? field = some attr)
    (absent : field ∉ (baseOf set parent).fields.map Field.name) :
    inheritedValue defaults parent field attr = none := by
  cases parent with
  | none =>
      have notRequired := mt (AttributeSet.mem_names_base_iff compiled known).mpr absent
      have optional : attr.spec.optional = true := by simpa using notRequired
      rw [inheritedValue, Attribute.fallback?, optional]
      rfl
  | some above =>
      have missing := mt ((filled above rfl).mem_names_iff field).mp absent
      rw [inheritedValue, NameMap.get?_eq_none missing]
      rfl

/-- What one property is composed to, attribute by attribute. -/
theorem reads_of_composeFrom (filled : IsFilledParent set parent)
    (compiled : AttributeSet.compile registry rules = .ok set) {name : String}
    {declaration : PropertyDeclaration} {record : Instance}
    (composes : composeFrom store set defaults parent name declaration = .ok record) :
    ∃ selected, set.selectValues declaration.values = .ok selected ∧ set.IsFilled record ∧
      ∀ field attr, set.attributes.get? field = some attr →
        attr.spec.type.Reads store [.key field]
          ((NameMap.get? selected field).or (inheritedValue defaults parent field attr))
          (record.values.get? field) := by
  rcases composeFrom_eq_ok.mp composes with ⟨selected, type, selects, closed, validated⟩
  have keysKnown := AttributeSet.mem_names_of_selectValues selects
  have selectedDistinct : (NameMap.names selected).Nodup :=
    AttributeSet.names_levelFor keysKnown ▸ Level.nodup_of_close closed
  have distinct := Level.nodup_fields_of_close closed
  have described := (filled.describes compiled).close closed
  have memNames {field : String} : field ∈ type.fields.map Field.name ↔
      field ∈ (baseOf set parent).fields.map Field.name ∨ field ∈ NameMap.names selected :=
    AttributeSet.mem_names_close keysKnown closed
  rw [valuesOf_eq_ofNames filled.nodup_names] at validated
  rcases RecordType.gives_of_validate validated with ⟨rfl, instantiated⟩
  rcases RecordType.reads_of_validate distinct validated with ⟨entries, mapping, each⟩
  cases mapping
  rw [Mapping.byText_ofNames (nodup_names_startOf filled.nodup_names)] at each
  -- A field takes what is declared for it, and only then what it was before.
  have atField {field : String} {attr : Attribute}
      (known : set.attributes.get? field = some attr)
      (member : field ∈ record.type.fields.map Field.name) :
      attr.spec.type.Reads store [.key field]
          ((NameMap.get? selected field).or (inheritedValue defaults parent field attr))
          (record.values.get? field) ∧
        (record.values.get? field).isSome := by
    rcases List.mem_map.mp member with ⟨own, isField, rfl⟩
    rcases each own isField with ⟨reads, optional⟩
    have same := described.field_eq isField known
    have sameType : own.type = attr.spec.type := (congrArg Field.type same).symm
    have sameDefault : own.default = attr.spec.default := (congrArg Field.default same).symm
    have sameOptional : own.optional = attr.spec.optional := (congrArg Field.optional same).symm
    rw [get?_startOf selectedDistinct, if_pos member, sameType, sameDefault] at reads
    rw [sameOptional] at optional
    cases declared : NameMap.get? selected own.name with
    | some document =>
        rw [declared] at reads
        exact ⟨reads, reads.isSome_eq⟩
    | none =>
        have notDeclared : own.name ∉ NameMap.names selected := by
          intro isDeclared
          rcases NameMap.mem_names_iff.mp isDeclared with ⟨document, found⟩
          rw [declared] at found
          cases found
        have fromBase := (memNames.mp member).resolve_right notDeclared
        rcases filled.start_of_mem defaults compiled known fromBase with ⟨start, present⟩
        rw [declared, Option.none_or, start] at reads
        refine ⟨reads, ?_⟩
        rcases present with inherits | required
        · rw [reads.isSome_eq]
          exact inherits
        · rw [Option.isSome_iff_ne_none]
          intro missing
          rw [optional missing] at required
          cases required
  refine ⟨selected, selects, ⟨described, ?_, fun field => ⟨?_, ?_⟩⟩, ?_⟩
  · exact RecordType.nodup_names_of_validate validated
  · intro present
    apply Classical.byContradiction
    intro absent
    rcases NameMap.mem_names_iff.mp present with ⟨value, found⟩
    rw [RecordType.get?_of_validate absent validated] at found
    cases found
  · intro member
    rcases List.mem_map.mp member with ⟨own, isField, rfl⟩
    rcases described own isField with ⟨attr, known, -⟩
    exact NameMap.mem_names_iff.mpr (Option.isSome_iff_exists.mp (atField known member).2)
  · intro field attr known
    by_cases member : field ∈ record.type.fields.map Field.name
    · exact (atField known member).1
    · have absent := mt memNames.mpr member
      rw [not_or] at absent
      rw [RecordType.get?_of_validate member validated, NameMap.get?_eq_none absent.2,
        filled.inheritedValue_of_not_mem compiled known absent.1]
      exact .nothing

/-! ## Chains of properties -/

theorem isFilledParent_none : IsFilledParent set none :=
  fun _ same => nomatch same

theorem isFilledParent_some {above : Instance} (filled : set.IsFilled above) :
    IsFilledParent set (some above) :=
  fun _ same => Option.some.inj same ▸ filled

namespace Composed

variable {name : String} {record : Instance}

theorem isFilled (composed : Composed store set defaults declarations name record)
    (compiled : AttributeSet.compile registry rules = .ok set) : set.IsFilled record := by
  induction composed with
  | root known noParent composes =>
      rcases reads_of_composeFrom isFilledParent_none compiled composes with ⟨-, -, filled, -⟩
      exact filled
  | heir known hasParent inherited composes ih =>
      rcases reads_of_composeFrom (isFilledParent_some ih) compiled composes with ⟨-, -, filled, -⟩
      exact filled

end Composed

/-- Attributes of pipes: a bore with a default, a label in lower case, and joints by names. -/
def pipeRules : Document :=
  Rule.branchOf
    [ ("size", Rule.branchOf
        [ ("bore", .mapping
            [(.string "type", .string "PositiveInt"), (.string "default", .ofInt64 40)]) ]),
      ("label", .mapping
        [ (.string "type", .string "constr"),
          (.string "opts", .mapping
            [ (.string "strip_whitespace", .bool true), (.string "to_lower", .bool true) ]),
          (.string "optional", .bool true) ]),
      ("joints", .mapping
        [ (.string "type", .string "Dict"),
          (.string "opts", .sequence [.string "str", .string "int"]),
          (.string "optional", .bool true) ]) ]

/-- A chain of three, declared from the end, in which every value is coerced to another one. -/
def pipeEntries : Mapping :=
  [ (.string "branch", .mapping
      [ (.string "parent", .string "main"),
        (.string "size", .mapping [(.string "bore", .string "25")]) ]),
    (.string "main", .mapping
      [ (.string "parent", .string "standard"), (.string "label", .string "  Main ") ]),
    (.string "standard", .mapping
      [ (.string "joints", .mapping [(.ofInt64 1, .string " 5 ")]) ]) ]

end PropertySet

end RuleSchema
