import RuleSchema.Property.Compose
import RuleSchema.Proofs.Chains
import RuleSchema.Proofs.Property.Order

/-!
# Composing down the chains of parents

A property is composed from the composed property that is its parent, or from none.  This
says what each property is composed to without an order.  The composition of all properties
succeeds when there is such a record for each of them, and gives these records.
-/

namespace RuleSchema

/-! ## Declarations -/

namespace PropertyDeclarations

/-- Declarations that can be composed if every property can. -/
structure IsSound (declarations : PropertyDeclarations) : Prop where
  distinct : declarations.names.Nodup
  namesValid : PropertySet.checkNames declarations.names = .ok ()
  parentsDeclared : declarations.missingParent? = none
  acyclic : declarations.IsAcyclic

theorem missingParent?_eq_none_iff {declarations : PropertyDeclarations} :
    declarations.missingParent? = none ↔
      ∀ entry ∈ declarations, ∀ parent, entry.2.parent = some parent →
        parent ∈ declarations.names := by
  rw [missingParent?, List.findSome?_eq_none_iff]
  refine forall₂_congr fun entry member => ?_
  rw [Option.filter_eq_none_iff]
  refine forall₂_congr fun parent isParent => ?_
  rw [Bool.not_eq_true', Bool.not_eq_false, NameMap.has, List.any_eq_true, NameMap.names,
    List.mem_map]
  exact exists_congr fun entry => and_congr_right fun _ => beq_iff_eq

theorem IsSound.mem_names_of_parent? {declarations : PropertyDeclarations}
    (sound : declarations.IsSound) {name parent : String}
    (above : declarations.parent? name = some parent) : parent ∈ declarations.names := by
  rcases Option.bind_eq_some_iff.mp above with ⟨declaration, found, isParent⟩
  exact missingParent?_eq_none_iff.mp sound.parentsDeclared _ (NameMap.mem_of_get? found) parent
    isParent

theorem nodup_names_ofEntries {built declarations : PropertyDeclarations}
    {entries : List (Document × Document)} (distinct : built.names.Nodup)
    (read : ofEntries built entries = .ok declarations) : declarations.names.Nodup := by
  induction entries generalizing built with
  | nil =>
      cases read
      exact distinct
  | cons entry rest ih =>
      rw [ofEntries] at read
      split at read
      · cases read
      · exact ih (NameMap.nodup_names_insert distinct _ _) read

theorem nodup_names_ofDocument {document : Document} {declarations : PropertyDeclarations}
    (read : ofDocument document = .ok declarations) : declarations.names.Nodup := by
  rw [ofDocument] at read
  split at read
  · cases read
  · have noneBuilt : (NameMap.names ([] : PropertyDeclarations)).Nodup := List.nodup_nil
    exact nodup_names_ofEntries noneBuilt read

end PropertyDeclarations

namespace PropertySet

variable {store : FileStore} {set : AttributeSet} {defaults : NameMap Document}
  {declarations : PropertyDeclarations}

/-- The type that a property extends. -/
def baseOf (set : AttributeSet) (parent : Option Instance) : RecordType :=
  match parent with
  | some record => record.type
  | none => set.base

/-- Compose a property from its composed parent, if it has one. -/
def composeFrom (store : FileStore) (set : AttributeSet) (defaults : NameMap Document)
    (parent : Option Instance) (name : String) (declaration : PropertyDeclaration) :
    Except CompileError Instance := do
  let declared ← set.selectValues declaration.values
  let type ←
    Level.close name (set.levelFor (declared.map Prod.fst)) [baseOf set parent] [.key name]
  match type.validate store (.mapping (valuesOf defaults parent type.fields declared)) with
  | .error rejection => .error (.propertyValidation name rejection)
  | .ok record => .ok record

theorem composeOne_eq_composeFrom {composed : NameMap Instance} {name : String}
    {declaration : PropertyDeclaration} :
    composeOne store set defaults composed name declaration =
      composeFrom store set defaults (declaration.parent.bind composed.get?) name declaration :=
  rfl

theorem composeFrom_eq_ok {parent : Option Instance} {name : String}
    {declaration : PropertyDeclaration} {record : Instance} :
    composeFrom store set defaults parent name declaration = .ok record ↔
      ∃ declared type, set.selectValues declaration.values = .ok declared ∧
        Level.close name (set.levelFor (declared.map Prod.fst)) [baseOf set parent] [.key name] =
          .ok type ∧
        type.validate store (.mapping (valuesOf defaults parent type.fields declared)) =
          .ok record := by
  rw [composeFrom, except_bind_eq_ok]
  constructor
  · rintro ⟨declared, selected, composes⟩
    rcases except_bind_eq_ok.mp composes with ⟨type, closed, composes⟩
    refine ⟨declared, type, selected, closed, ?_⟩
    cases validated : type.validate store
        (.mapping (valuesOf defaults parent type.fields declared)) with
    | error rejection =>
        rw [validated] at composes
        cases composes
    | ok found =>
        rw [validated] at composes
        exact congrArg Except.ok (Except.ok.inj composes)
  · rintro ⟨declared, type, selected, closed, validated⟩
    refine ⟨declared, selected, except_bind_eq_ok.mpr ⟨type, closed, ?_⟩⟩
    rw [validated]

/-- What a property is composed to, along its chain of parents. -/
inductive Composed (store : FileStore) (set : AttributeSet) (defaults : NameMap Document)
    (declarations : PropertyDeclarations) : String → Instance → Prop where
  | root {name : String} {declaration : PropertyDeclaration} {record : Instance}
      (known : declarations.get? name = some declaration) (noParent : declaration.parent = none)
      (composes : composeFrom store set defaults none name declaration = .ok record) :
      Composed store set defaults declarations name record
  | heir {name parent : String} {declaration : PropertyDeclaration} {above record : Instance}
      (known : declarations.get? name = some declaration)
      (hasParent : declaration.parent = some parent)
      (inherited : Composed store set defaults declarations parent above)
      (composes : composeFrom store set defaults (some above) name declaration = .ok record) :
      Composed store set defaults declarations name record

namespace Composed

theorem mem_names {name : String} {record : Instance}
    (composed : Composed store set defaults declarations name record) :
    name ∈ declarations.names := by
  cases composed with
  | root known => exact NameMap.mem_names_iff.mpr ⟨_, known⟩
  | heir known => exact NameMap.mem_names_iff.mpr ⟨_, known⟩

/-- A property is composed to one record at most. -/
theorem unique {name : String} {first second : Instance}
    (composed : Composed store set defaults declarations name first)
    (other : Composed store set defaults declarations name second) : first = second := by
  induction composed generalizing second with
  | root known noParent composes =>
      cases other with
      | root otherKnown _ otherComposes =>
          rw [known] at otherKnown
          cases otherKnown
          exact Except.ok.inj (composes.symm.trans otherComposes)
      | heir otherKnown hasParent _ _ =>
          rw [known] at otherKnown
          cases otherKnown
          rw [noParent] at hasParent
          cases hasParent
  | heir known hasParent inherited composes ih =>
      cases other with
      | root otherKnown noParent _ =>
          rw [known] at otherKnown
          cases otherKnown
          rw [hasParent] at noParent
          cases noParent
      | heir otherKnown otherParent otherInherited otherComposes =>
          rw [known] at otherKnown
          cases otherKnown
          rw [hasParent] at otherParent
          cases otherParent
          rw [ih otherInherited] at composes
          exact Except.ok.inj (composes.symm.trans otherComposes)

/-- Declarations of other properties do not matter. -/
theorem mono {more : PropertyDeclarations} {name : String} {record : Instance}
    (kept : ∀ name declaration, declarations.get? name = some declaration →
      more.get? name = some declaration)
    (composed : Composed store set defaults declarations name record) :
    Composed store set defaults more name record := by
  induction composed with
  | root known noParent composes => exact .root (kept _ _ known) noParent composes
  | heir known hasParent _ composes ih =>
      exact .heir (kept _ _ known) hasParent ih composes

end Composed

/-! ## Composing one after another -/

/-- Properties composed so far: each as its chain says, and all of the given names. -/
structure Progress (store : FileStore) (set : AttributeSet) (defaults : NameMap Document)
    (declarations : PropertyDeclarations) (names : List String) (composed : NameMap Instance) :
    Prop where
  sound : ∀ name record, composed.get? name = some record →
    Composed store set defaults declarations name record
  complete : ∀ name ∈ names, name ∈ declarations.names → ∃ record, composed.get? name = some record

theorem Progress.nil : Progress store set defaults declarations [] [] :=
  ⟨fun _ _ found => (nomatch found), fun _ member => absurd member List.not_mem_nil⟩

theorem Progress.skip {names : List String} {composed : NameMap Instance} {name : String}
    (progress : Progress store set defaults declarations names composed)
    (undeclared : declarations.get? name = none) :
    Progress store set defaults declarations (names ++ [name]) composed := by
  refine ⟨progress.sound, ?_⟩
  intro other member declared
  rcases List.mem_append.mp member with old | new
  · exact progress.complete other old declared
  · rw [List.mem_singleton.mp new] at declared
    rcases NameMap.mem_names_iff.mp declared with ⟨declaration, found⟩
    rw [undeclared] at found
    cases found

theorem Progress.insert {names : List String} {composed : NameMap Instance} {name : String}
    {record : Instance} (progress : Progress store set defaults declarations names composed)
    (own : Composed store set defaults declarations name record) :
    Progress store set defaults declarations (names ++ [name]) (composed.insert name record) := by
  constructor
  · intro other found lookup
    by_cases same : other = name
    · subst same
      rw [NameMap.get?_insert_self, Option.some.injEq] at lookup
      exact lookup ▸ own
    · rw [NameMap.get?_insert_of_ne _ _ same] at lookup
      exact progress.sound other found lookup
  · intro other member declared
    by_cases same : other = name
    · exact ⟨record, by rw [same, NameMap.get?_insert_self]⟩
    · rw [NameMap.get?_insert_of_ne _ _ same]
      have old : other ∈ names := by simpa [same] using member
      exact progress.complete other old declared

/-- A property composes when it is its turn exactly to what its chain says. -/
theorem Progress.composeOne_iff {names after : List String} {composed : NameMap Instance}
    {name : String} {declaration : PropertyDeclaration}
    (progress : Progress store set defaults declarations names composed)
    (sound : declarations.IsSound)
    (ordered : declarations.ParentsFirst (names ++ name :: after))
    (all : ∀ other ∈ declarations.names, other ∈ names ++ name :: after)
    (known : declarations.get? name = some declaration) {record : Instance} :
    composeOne store set defaults composed name declaration = .ok record ↔
      Composed store set defaults declarations name record := by
  rw [composeOne_eq_composeFrom]
  cases isParent : declaration.parent with
  | none =>
      constructor
      · exact .root known isParent
      · intro own
        cases own with
        | root otherKnown noParent composes =>
            rw [known] at otherKnown
            cases otherKnown
            exact composes
        | heir otherKnown hasParent inherited composes =>
            rw [known] at otherKnown
            cases otherKnown
            rw [isParent] at hasParent
            cases hasParent
  | some parent =>
      have above : declarations.parent? name = some parent := by
        rw [PropertyDeclarations.parent?, known, Option.bind_some, isParent]
      have declared := sound.mem_names_of_parent? above
      have early := ordered.mem_before sound.distinct above (all parent declared)
      rcases progress.complete parent early declared with ⟨inherited, found⟩
      have isComposed := progress.sound parent inherited found
      rw [Option.bind_some, found]
      constructor
      · exact .heir known isParent isComposed
      · intro own
        cases own with
        | root otherKnown noParent composes =>
            rw [known] at otherKnown
            cases otherKnown
            rw [isParent] at noParent
            cases noParent
        | heir otherKnown hasParent otherInherited composes =>
            rw [known] at otherKnown
            cases otherKnown
            rw [isParent] at hasParent
            cases hasParent
            rw [isComposed.unique otherInherited]
            exact composes

theorem Progress.composeAll {names rest : List String} {composed result : NameMap Instance}
    (progress : Progress store set defaults declarations names composed)
    (sound : declarations.IsSound) (ordered : declarations.ParentsFirst (names ++ rest))
    (all : ∀ name ∈ declarations.names, name ∈ names ++ rest)
    (run : composeAll store set defaults declarations composed rest = .ok result) :
    Progress store set defaults declarations (names ++ rest) result := by
  induction rest generalizing names composed with
  | nil =>
      rw [PropertySet.composeAll, Except.ok.injEq] at run
      rw [List.append_nil, ← run]
      exact progress
  | cons name rest ih =>
      have shifted : names ++ name :: rest = (names ++ [name]) ++ rest := by simp
      rw [PropertySet.composeAll] at run
      split at run
      · next undeclared =>
        rw [shifted] at ordered all ⊢
        exact ih (progress.skip undeclared) ordered all run
      · next declaration known =>
        split at run
        · cases run
        · next record composes =>
          have own := (progress.composeOne_iff sound ordered all known).mp composes
          rw [shifted] at ordered all ⊢
          exact ih (progress.insert own) ordered all run

theorem Progress.exists_composeAll {names rest : List String} {composed : NameMap Instance}
    (progress : Progress store set defaults declarations names composed)
    (sound : declarations.IsSound) (ordered : declarations.ParentsFirst (names ++ rest))
    (all : ∀ name ∈ declarations.names, name ∈ names ++ rest)
    (each : ∀ name ∈ declarations.names,
      ∃ record, Composed store set defaults declarations name record) :
    ∃ result, PropertySet.composeAll store set defaults declarations composed rest =
      .ok result := by
  induction rest generalizing names composed with
  | nil => exact ⟨composed, rfl⟩
  | cons name rest ih =>
      have shifted : names ++ name :: rest = (names ++ [name]) ++ rest := by simp
      rw [PropertySet.composeAll]
      cases known : declarations.get? name with
      | none =>
          rw [shifted] at ordered all
          exact ih (progress.skip known) ordered all
      | some declaration =>
          rcases each name (NameMap.mem_names_iff.mpr ⟨declaration, known⟩) with ⟨record, own⟩
          have composes := (progress.composeOne_iff sound ordered all known).mpr own
          simp only [composes]
          rw [shifted] at ordered all
          exact ih (progress.insert own) ordered all

/-! ## Composing all -/

/-- What composing declarations went through, and what it gave, when it succeeded. -/
theorem compose_eq_ok {document : Document} {result : PropertySet}
    (composes : compose store set defaults document = .ok result) :
    ∃ declarations, PropertyDeclarations.ofDocument document = .ok declarations ∧
      declarations.IsSound ∧
      (∀ name ∈ declarations.names,
        ∃ record, Composed store set defaults declarations name record) ∧
      ∀ name record, result.properties.get? name = some record ↔
        Composed store set defaults declarations name record := by
  rcases except_bind_eq_ok.mp composes with ⟨declarations, read, composes⟩
  rcases except_bind_eq_ok.mp composes with ⟨⟨⟩, namesValid, composes⟩
  split at composes
  · cases composes
  next parentsDeclared =>
  split at composes
  · cases composes
  next noCycle =>
  rcases except_bind_eq_ok.mp composes with ⟨properties, run, made⟩
  cases made
  have sound : declarations.IsSound :=
    { distinct := PropertyDeclarations.nodup_names_ofDocument read
      namesValid := namesValid
      parentsDeclared := parentsDeclared
      acyclic := PropertyDeclarations.isAcyclic_iff.mp (by simpa using noCycle) }
  rcases PropertyDeclarations.parentsFirst_order sound.acyclic sound.distinct with ⟨ordered, all⟩
  have progress := Progress.nil.composeAll sound ordered all run
  have each : ∀ name ∈ declarations.names, ∃ record, properties.get? name = some record :=
    fun name declared => progress.complete name (all name declared) declared
  refine ⟨declarations, read, sound, ?_, ?_⟩
  · intro name declared
    rcases each name declared with ⟨record, found⟩
    exact ⟨record, progress.sound name record found⟩
  · intro name record
    refine ⟨progress.sound name record, fun own => ?_⟩
    rcases each name own.mem_names with ⟨other, found⟩
    rw [found, (progress.sound name other found).unique own]

/-- Sound declarations compose if each property does. -/
theorem exists_compose {document : Document} {declarations : PropertyDeclarations}
    (read : PropertyDeclarations.ofDocument document = .ok declarations)
    (sound : declarations.IsSound)
    (each : ∀ name ∈ declarations.names,
      ∃ record, Composed store set defaults declarations name record) :
    ∃ result, compose store set defaults document = .ok result := by
  rcases PropertyDeclarations.parentsFirst_order sound.acyclic sound.distinct with ⟨ordered, all⟩
  rcases Progress.nil.exists_composeAll sound ordered all each with ⟨properties, run⟩
  refine ⟨⟨set.base, properties⟩, ?_⟩
  refine except_bind_eq_ok.mpr ⟨declarations, read, ?_⟩
  refine except_bind_eq_ok.mpr ⟨(), sound.namesValid, ?_⟩
  rw [sound.parentsDeclared]
  dsimp only
  rw [if_neg (by simpa using PropertyDeclarations.isAcyclic_iff.mpr sound.acyclic)]
  exact except_bind_eq_ok.mpr ⟨properties, run, rfl⟩

end PropertySet

end RuleSchema
