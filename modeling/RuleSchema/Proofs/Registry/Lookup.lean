import RuleSchema.Proofs.Chains
import RuleSchema.Proofs.NameMap

/-!
# Looking up names after any history

What a registry answers does not depend on what it remembers.  After any steps a name is
looked up as if everything were imported afresh: a listed module that is not known is
reported first, then one that does not conform; otherwise the latest registration of the
name counts, or else the last listed module that exports and defines it.

The invariant is that the parts of a registry are those that its history tells, and that
what it remembers, if anything, is what importing gives.
-/

namespace RuleSchema

/-! ## Modules -/

namespace SourceModule

/-- Why a module cannot be imported, if it cannot. -/
def fault? (source : SourceModule) : Option String :=
  match source.exports with
  | none => some "no export manifest"
  | some names =>
      (names.find? fun name => !source.defines name).map fun name =>
        "exports '" ++ name ++ "' which it does not define"

/-- Whether a module exports a name, defined or not. -/
def exportsName (source : SourceModule) (name : String) : Bool :=
  source.exports.any fun names => names.contains name

/-- The definition that a module exports under a name. -/
def exported? {α : Type} (definitions : SourceModule → NameMap α) (name : String)
    (source : SourceModule) : Option α :=
  if source.exportsName name then (definitions source).get? name else none

theorem manifest_of_fault {source : SourceModule} {reason : String}
    (fault : source.fault? = some reason) :
    source.manifest = .error (.nonConformantSource source.name reason) := by
  rw [fault?] at fault
  rw [manifest]
  cases exports : source.exports with
  | none =>
      rw [exports] at fault
      cases fault
      rfl
  | some names =>
      rw [exports] at fault
      rcases Option.map_eq_some_iff.mp fault with ⟨name, missing, rfl⟩
      simp only [missing]

theorem manifest_of_conforming {source : SourceModule} (conforming : source.fault? = none) :
    ∃ names, source.exports = some names ∧ source.manifest = .ok names := by
  rw [fault?] at conforming
  cases exports : source.exports with
  | none =>
      rw [exports] at conforming
      cases conforming
  | some names =>
      rw [exports, Option.map_eq_none_iff] at conforming
      refine ⟨names, rfl, ?_⟩
      rw [manifest, exports]
      simp only [conforming]

end SourceModule

namespace NameMap

variable {α : Type} {entries added : NameMap α} {name : String}

theorem insertAll_append {more : NameMap α} :
    insertAll entries (added ++ more) = insertAll (insertAll entries added) more :=
  List.foldl_append

/-- Entries picked out of a map by names. -/
theorem get?_filterMap (picked : List String) :
    get? (picked.filterMap fun other => (get? entries other).map fun value => (other, value)) name =
      if picked.contains name then get? entries name else none := by
  induction picked with
  | nil => rfl
  | cons other rest ih =>
      rw [List.filterMap_cons, List.contains_cons]
      cases found : get? entries other with
      | none =>
          by_cases same : name = other
          · subst same
            simpa [found] using ih
          · simpa [same] using ih
      | some value =>
          by_cases same : name = other
          · subst same
            simp [found]
          · simpa [get?_cons_of_ne (Ne.symm same), same] using ih

end NameMap

namespace Registry

variable {α : Type} {definitions : SourceModule → NameMap α} {registry : Registry}

/-! ## Importing afresh -/

/--
The answer of importing afresh: the modules that are known by the listed names, and what is
registered under the name itself.
-/
def answer (definitions : SourceModule → NameMap α) (known : String → Option SourceModule)
    (listed : List String) (registered : Option α) (name : String) :
    Except RegistryError (Option α) :=
  match listed.find? fun module => (known module).isNone with
  | some module => .error (.unregisteredModule module)
  | none =>
      match listed.findSome? fun module =>
          ((known module).bind SourceModule.fault?).map (.nonConformantSource module ·) with
      | some error => .error error
      | none =>
          .ok (registered.or
            (listed.reverse.findSome? fun module =>
              (known module).bind (SourceModule.exported? definitions name)))

theorem modules_of_missing {listed : List String} {module : String}
    (missing : listed.find? (fun name => (registry.catalog.get? name).isNone) = some module) :
    registry.modules listed = .error (.unregisteredModule module) := by
  induction listed with
  | nil => cases missing
  | cons name rest ih =>
      rw [modules]
      cases known : registry.catalog.get? name with
      | none =>
          rw [List.find?_cons_of_pos (by simp [known])] at missing
          cases missing
          rfl
      | some source =>
          rw [List.find?_cons_of_neg (by simp [known])] at missing
          simp only [ih missing]
          rfl

theorem modules_of_known {listed : List String}
    (allKnown : listed.find? (fun name => (registry.catalog.get? name).isNone) = none) :
    ∃ sources, registry.modules listed = .ok sources ∧
      sources.map some = listed.map registry.catalog.get? := by
  induction listed with
  | nil => exact ⟨[], rfl, rfl⟩
  | cons name rest ih =>
      rw [modules]
      cases known : registry.catalog.get? name with
      | none =>
          rw [List.find?_cons_of_pos (by simp [known])] at allKnown
          cases allKnown
      | some source =>
          rw [List.find?_cons_of_neg (by simp [known])] at allKnown
          rcases ih allKnown with ⟨sources, listed, same⟩
          exact ⟨source :: sources, by simp only [listed]; rfl, by simp [known, same]⟩

/-- Importing modules finds a fault, or the last definition of each name. -/
theorem imported_eq (built : NameMap α) (sources : List SourceModule) :
    (sources.findSome? fun source =>
        source.fault?.map (RegistryError.nonConformantSource source.name ·)) = none ∧
      (∃ result, imported definitions built sources = .ok result ∧ ∀ name, result.get? name =
        (sources.reverse.findSome? (SourceModule.exported? definitions name)).or
          (built.get? name)) ∨
    ∃ error, (sources.findSome? fun source =>
        source.fault?.map (RegistryError.nonConformantSource source.name ·)) = some error ∧
      imported definitions built sources = .error error := by
  induction sources generalizing built with
  | nil => exact .inl ⟨rfl, built, rfl, fun _ => rfl⟩
  | cons source rest ih =>
      rw [imported]
      cases fault : source.fault? with
      | some reason =>
          refine .inr ⟨.nonConformantSource source.name reason, ?_, ?_⟩
          · rw [List.findSome?_cons, fault, Option.map_some]
          · rw [SourceModule.manifest_of_fault fault]
      | none =>
          rcases SourceModule.manifest_of_conforming fault with ⟨names, exports, listed⟩
          rw [List.findSome?_cons, fault, Option.map_none, listed]
          refine (ih (built.insertAll _)).imp ?_ id
          rintro ⟨noFault, result, run, finds⟩
          refine ⟨noFault, result, run, fun name => ?_⟩
          rw [finds, NameMap.get?_insertAll_reverse, ← List.filterMap_reverse,
            NameMap.get?_filterMap, List.reverse_cons, List.findSome?_append, Option.or_assoc]
          simp [SourceModule.exported?, SourceModule.exportsName, exports]

/-- Every module is known by its own name. -/
def IsNamed (registry : Registry) : Prop :=
  ∀ name source, registry.catalog.get? name = some source → source.name = name

/-- What the first of the modules has that are known by some names. -/
theorem findSome?_sources {β : Type} (part? : SourceModule → Option β) {listed : List String}
    {sources : List SourceModule} (same : sources.map some = listed.map registry.catalog.get?) :
    (listed.findSome? fun module => (registry.catalog.get? module).bind part?) =
      sources.findSome? part? := by
  have composed : (listed.map registry.catalog.get?).findSome? (·.bind part?) =
      listed.findSome? fun module => (registry.catalog.get? module).bind part? :=
    List.findSome?_map
  rw [← composed, ← same, List.findSome?_map]
  rfl

theorem findSome?_faults (named : registry.IsNamed) {listed : List String}
    {sources : List SourceModule} (same : sources.map some = listed.map registry.catalog.get?) :
    (listed.findSome? fun module =>
        ((registry.catalog.get? module).bind SourceModule.fault?).map
          (RegistryError.nonConformantSource module ·)) =
      sources.findSome? fun source =>
        source.fault?.map (RegistryError.nonConformantSource source.name ·) := by
  rw [← findSome?_sources _ same]
  congr 1
  funext module
  cases known : registry.catalog.get? module with
  | none => rfl
  | some source => rw [Option.bind_some, Option.bind_some, named module source known]

/-- Importing gives the answer for every name. -/
theorem gather_get?_eq_answer (named : registry.IsNamed)
    (distinct : (definitions registry.own).names.Nodup) (listed : List String) (name : String) :
    (registry.gather definitions listed).map (NameMap.get? · name) =
      answer definitions registry.catalog.get? listed ((definitions registry.own).get? name)
        name := by
  rw [gather, answer]
  cases missing : listed.find? fun module => (registry.catalog.get? module).isNone with
  | some module =>
      rw [modules_of_missing missing]
      rfl
  | none =>
      rcases modules_of_known missing with ⟨sources, found, same⟩
      have backwards : sources.reverse.map some = listed.reverse.map registry.catalog.get? := by
        rw [List.map_reverse, same, List.map_reverse]
      rw [found, findSome?_faults named same, findSome?_sources _ backwards]
      dsimp only
      rcases @imported_eq _ definitions [] sources with
        ⟨noFault, result, run, finds⟩ | ⟨error, fault, run⟩
      · rw [noFault, run]
        have added : (result.insertAll (definitions registry.own)).get? name =
            ((definitions registry.own).get? name).or
              (sources.reverse.findSome? (SourceModule.exported? definitions name)) := by
          rw [NameMap.get?_insertAll distinct, finds]
          congr 1
          exact Option.or_none
        exact congrArg Except.ok added
      · rw [fault, run]
        rfl

/-! ## Histories -/

/-- A change of a registry, or a reading of it. -/
inductive Step where
  | addModule (source : SourceModule)
  | addModules (kind : String) (names : List String)
  | registerType (name : String) (entry : TypeEntry)
  | registerValidator (name : String) (validator : Validator)
  | reset
  | lookupType (name : String)
  | lookupValidator (name : String)

namespace Step

/-- Whether a step looks something up. -/
def isLookup : Step → Bool
  | lookupType _ | lookupValidator _ => true
  | _ => false

/-- The module that a step makes known, under its name. -/
def added? : Step → Option (String × SourceModule)
  | addModule source => some (source.name, source)
  | _ => none

/-- The names that a step adds to the list of a kind; a kind that is none adds nothing. -/
def listed (kind : ModuleKind) : Step → List String
  | addModules text names =>
      match ModuleKind.ofText text with
      | .ok found => if found = kind then names else []
      | .error _ => []
  | _ => []

/-- The type that a step registers with the registry itself. -/
def registeredType? : Step → Option (String × TypeEntry)
  | registerType name entry => some (name, entry)
  | _ => none

/-- The validator that a step registers with the registry itself. -/
def registeredValidator? : Step → Option (String × Validator)
  | registerValidator name validator => some (name, validator)
  | _ => none

end Step

/-- The registry after a step; a step that fails leaves it as it is. -/
def perform (registry : Registry) : Step → Registry
  | .addModule source => registry.addModule source
  | .addModules kind names =>
      match registry.addModules kind names with
      | .ok changed => changed
      | .error _ => registry
  | .registerType name entry => registry.registerType name entry
  | .registerValidator name validator => registry.registerValidator name validator
  | .reset => registry.reset
  | .lookupType _ => registry.rememberTypes
  | .lookupValidator _ => registry.rememberValidators

/-- The registry after some steps. -/
def run (registry : Registry) (steps : List Step) : Registry := steps.foldl perform registry

/-- The module known by a name: the last one that was added, or one known from the start. -/
def knownAfter (origin : Registry) (steps : List Step) (name : String) : Option SourceModule :=
  (NameMap.get? (steps.filterMap Step.added?).reverse name).or (origin.catalog.get? name)

/-- The names that steps have added to the list of a kind. -/
def listedAfter (kind : ModuleKind) (steps : List Step) : List String :=
  steps.flatMap (Step.listed kind)

/-- The latest registration of a name. -/
def latest (registered? : Step → Option (String × α)) (steps : List Step) (name : String) :
    Option α :=
  NameMap.get? (steps.filterMap registered?).reverse name

/-- The parts of a registry are what its history tells. -/
structure Follows (origin : Registry) (steps : List Step) (registry : Registry) : Prop where
  catalog : registry.catalog = origin.catalog.insertAll (steps.filterMap Step.added?)
  typeModules : registry.typeModules = origin.typeModules ++ listedAfter .type steps
  validatorModules :
    registry.validatorModules = origin.validatorModules ++ listedAfter .validator steps
  ownTypes : registry.own.types = NameMap.ofEntries (steps.filterMap Step.registeredType?)
  ownValidators :
    registry.own.validators = NameMap.ofEntries (steps.filterMap Step.registeredValidator?)

/-- What a registry remembers is what importing gives. -/
structure IsCurrent (registry : Registry) : Prop where
  types : ∀ known, registry.knownTypes = some known →
    registry.gather SourceModule.types registry.typeModules = .ok known
  validators : ∀ known, registry.knownValidators = some known →
    registry.gather SourceModule.validators registry.validatorModules = .ok known

variable {origin : Registry} {steps : List Step}

/-! ## What is remembered -/

theorem IsCurrent.types_eq (current : registry.IsCurrent) :
    registry.types = registry.gather SourceModule.types registry.typeModules := by
  rw [Registry.types]
  cases remembered : registry.knownTypes with
  | none => rfl
  | some known => exact (current.types known remembered).symm

theorem IsCurrent.validators_eq (current : registry.IsCurrent) :
    registry.validators = registry.gather SourceModule.validators registry.validatorModules := by
  rw [Registry.validators]
  cases remembered : registry.knownValidators with
  | none => rfl
  | some known => exact (current.validators known remembered).symm

/-- Importing reads the known modules and the own definitions of a registry only. -/
theorem gather_congr {other : Registry} (catalog : registry.catalog = other.catalog)
    (own : registry.own = other.own) (names : List String) :
    registry.gather definitions names = other.gather definitions names := by
  have sameModules : registry.modules names = other.modules names := by
    induction names with
    | nil => rfl
    | cons name rest ih => rw [modules, modules, catalog, ih]
  rw [gather, gather, sameModules, own]

theorem isCurrent_reset : registry.reset.IsCurrent :=
  ⟨fun _ none => (nomatch none), fun _ none => (nomatch none)⟩

theorem IsCurrent.rememberTypes (current : registry.IsCurrent) :
    registry.rememberTypes.IsCurrent := by
  rw [Registry.rememberTypes]
  split
  · next known imports =>
    constructor
    · rintro _ ⟨⟩
      rw [← imports, current.types_eq]
      exact gather_congr (by rfl) (by rfl) _
    · intro remembered same
      rw [← current.validators remembered same]
      exact gather_congr (by rfl) (by rfl) _
  · exact current

theorem IsCurrent.rememberValidators (current : registry.IsCurrent) :
    registry.rememberValidators.IsCurrent := by
  rw [Registry.rememberValidators]
  split
  · next known imports =>
    constructor
    · intro remembered same
      rw [← current.types remembered same]
      exact gather_congr (by rfl) (by rfl) _
    · rintro _ ⟨⟩
      rw [← imports, current.validators_eq]
      exact gather_congr (by rfl) (by rfl) _
  · exact current

theorem IsCurrent.perform (current : registry.IsCurrent) (step : Step) :
    (registry.perform step).IsCurrent := by
  cases step with
  | addModules kind names =>
      rw [Registry.perform, addModules]
      cases ModuleKind.ofText kind with
      | error error => exact current
      | ok found => cases found <;> exact isCurrent_reset
  | lookupType name => exact current.rememberTypes
  | lookupValidator name => exact current.rememberValidators
  | _ => exact isCurrent_reset

/-! ## What the parts are -/

theorem Follows.start (typesEmpty : origin.own.types = [])
    (validatorsEmpty : origin.own.validators = []) : Follows origin [] origin :=
  ⟨rfl, (List.append_nil _).symm, (List.append_nil _).symm, typesEmpty, validatorsEmpty⟩

/-- A registry follows a history if its parts change by what each step tells. -/
theorem Follows.change {changed : Registry} {step : Step} (follows : Follows origin steps registry)
    (catalog : changed.catalog = registry.catalog.insertAll step.added?.toList)
    (typeModules : changed.typeModules = registry.typeModules ++ step.listed .type)
    (validatorModules :
      changed.validatorModules = registry.validatorModules ++ step.listed .validator)
    (ownTypes : changed.own.types = registry.own.types.insertAll step.registeredType?.toList)
    (ownValidators :
      changed.own.validators = registry.own.validators.insertAll step.registeredValidator?.toList) :
    Follows origin (steps ++ [step]) changed := by
  have lastOf {β : Type} (part? : Step → Option β) :
      (steps ++ [step]).filterMap part? = steps.filterMap part? ++ (part? step).toList := by
    rw [List.filterMap_append]
    cases told : part? step <;> simp [told]
  have listedLast (kind : ModuleKind) :
      listedAfter kind (steps ++ [step]) = listedAfter kind steps ++ step.listed kind := by
    simp [listedAfter]
  constructor
  · rw [catalog, follows.catalog, lastOf, NameMap.insertAll_append]
  · rw [typeModules, follows.typeModules, listedLast, List.append_assoc]
  · rw [validatorModules, follows.validatorModules, listedLast, List.append_assoc]
  · rw [ownTypes, follows.ownTypes, lastOf, NameMap.ofEntries, NameMap.ofEntries,
      NameMap.insertAll_append]
  · rw [ownValidators, follows.ownValidators, lastOf, NameMap.ofEntries, NameMap.ofEntries,
      NameMap.insertAll_append]

theorem Follows.perform (follows : Follows origin steps registry) (step : Step) :
    Follows origin (steps ++ [step]) (registry.perform step) := by
  have unlisted (names : List String) : names = names ++ [] := (List.append_nil names).symm
  cases step with
  | addModules text names =>
      rw [Registry.perform, addModules]
      cases kind : ModuleKind.ofText text with
      | error error =>
          exact follows.change rfl (by simp [Step.listed, kind])
            (by simp [Step.listed, kind]) rfl rfl
      | ok found =>
          cases found <;> exact follows.change rfl (by simp [Step.listed, kind, reset])
            (by simp [Step.listed, kind, reset]) rfl rfl
  | lookupType name =>
      rw [Registry.perform, Registry.rememberTypes]
      split <;> exact follows.change rfl (unlisted _) (unlisted _) rfl rfl
  | lookupValidator name =>
      rw [Registry.perform, Registry.rememberValidators]
      split <;> exact follows.change rfl (unlisted _) (unlisted _) rfl rfl
  | _ => exact follows.change rfl (unlisted _) (unlisted _) rfl rfl

/-! ## Runs -/

/-- A registry to start from. -/
inductive Origin where
  | empty
  | standard
  | ofConfig (config : RegistryConfig)

/-- The registry at the start of a run. -/
def Origin.toRegistry : Origin → Registry
  | empty => .empty
  | standard => .standard
  | ofConfig config => .ofConfig config

theorem Origin.follows (start : Origin) : Follows start.toRegistry [] start.toRegistry := by
  cases start <;> exact .start rfl rfl

theorem Origin.isCurrent (start : Origin) : start.toRegistry.IsCurrent := by
  cases start <;> exact ⟨fun _ none => (nomatch none), fun _ none => (nomatch none)⟩

theorem Origin.isNamed (start : Origin) : start.toRegistry.IsNamed := by
  have configured (config : RegistryConfig) : (Registry.ofConfig config).IsNamed := by
    intro name source found
    have member := NameMap.mem_of_mem_ofEntries (NameMap.mem_of_get? found)
    rcases List.mem_map.mp member with ⟨other, -, same⟩
    cases same
    rfl
  cases start with
  | empty => exact fun _ _ none => (nomatch none)
  | standard => exact configured {}
  | ofConfig config => exact configured config

/-- After any steps the parts are those of the whole history, and what is remembered is right. -/
theorem Follows.run (follows : Follows origin steps registry) (current : registry.IsCurrent)
    (further : List Step) :
    Follows origin (steps ++ further) (registry.run further) ∧
      (registry.run further).IsCurrent := by
  induction further generalizing registry steps with
  | nil => exact ⟨(List.append_nil steps).symm ▸ follows, current⟩
  | cons step rest ih =>
      have later := ih (follows.perform step) (current.perform step)
      rwa [List.append_assoc] at later

theorem Follows.get?_catalog (follows : Follows origin steps registry) (name : String) :
    registry.catalog.get? name = knownAfter origin steps name := by
  rw [follows.catalog, NameMap.get?_insertAll_reverse, knownAfter]

theorem Follows.isNamed (follows : Follows origin steps registry) (named : origin.IsNamed) :
    registry.IsNamed := by
  intro name source found
  rw [follows.get?_catalog, knownAfter, Option.or_eq_some_iff] at found
  rcases found with added | ⟨-, old⟩
  · have member := List.mem_reverse.mp (NameMap.mem_of_get? added)
    rcases List.mem_filterMap.mp member with ⟨step, -, told⟩
    cases step <;> cases told
    rfl
  · exact named name source old

/-- The own definitions of one kind are the latest registrations. -/
theorem get?_ofEntries_eq_latest (registered? : Step → Option (String × α)) (steps : List Step)
    (name : String) :
    (NameMap.ofEntries (steps.filterMap registered?)).get? name =
      latest registered? steps name := by
  rw [NameMap.ofEntries, NameMap.get?_insertAll_reverse, latest]
  exact Option.or_none

/-! ## Lookups tell nothing -/

/-- A history without its lookups. -/
def quiet (steps : List Step) : List Step := steps.filter fun step => !step.isLookup

/-- What lookups do not tell is told by the other steps. -/
theorem filterMap_quiet {β : Type} {part? : Step → Option β} (steps : List Step)
    (untold : ∀ step, step.isLookup = true → part? step = none) :
    (quiet steps).filterMap part? = steps.filterMap part? := by
  rw [quiet, List.filterMap_filter]
  congr 1
  funext step
  cases lookup : step.isLookup with
  | true => simp [untold step lookup]
  | false => simp

theorem knownAfter_quiet (origin : Registry) (steps : List Step) :
    knownAfter origin (quiet steps) = knownAfter origin steps := by
  have untold (step : Step) (lookup : step.isLookup = true) : step.added? = none := by
    cases step <;> first | rfl | cases lookup
  funext name
  rw [knownAfter, knownAfter, filterMap_quiet steps untold]

theorem listedAfter_quiet (kind : ModuleKind) (steps : List Step) :
    listedAfter kind (quiet steps) = listedAfter kind steps := by
  induction steps with
  | nil => rfl
  | cons step rest ih =>
      have split : listedAfter kind (step :: rest) = step.listed kind ++ listedAfter kind rest := by
        rw [listedAfter, List.flatMap_cons, listedAfter]
      rw [split, ← ih]
      cases step <;> rfl

theorem latest_quiet {registered? : Step → Option (String × α)} (steps : List Step)
    (untold : ∀ step, step.isLookup = true → registered? step = none) (name : String) :
    latest registered? (quiet steps) name = latest registered? steps name := by
  rw [latest, latest, filterMap_quiet steps untold]

/-- In a registry that follows a history, a lookup of either kind answers as importing afresh. -/
theorem Follows.lookup (follows : Follows origin steps registry) (current : registry.IsCurrent)
    (named : origin.IsNamed) (name : String) :
    registry.lookupType name =
        answer SourceModule.types (knownAfter origin steps)
          (origin.typeModules ++ listedAfter .type steps)
          (latest Step.registeredType? steps name) name ∧
      registry.lookupValidator name =
        answer SourceModule.validators (knownAfter origin steps)
          (origin.validatorModules ++ listedAfter .validator steps)
          (latest Step.registeredValidator? steps name) name := by
  have isNamed := follows.isNamed named
  have known : registry.catalog.get? = knownAfter origin steps := funext follows.get?_catalog
  constructor
  · have distinct : registry.own.types.names.Nodup := by
      rw [follows.ownTypes]
      exact NameMap.nodup_names_ofEntries _
    rw [lookupType, current.types_eq, gather_get?_eq_answer isNamed distinct, known,
      follows.typeModules, follows.ownTypes, get?_ofEntries_eq_latest]
  · have distinct : registry.own.validators.names.Nodup := by
      rw [follows.ownValidators]
      exact NameMap.nodup_names_ofEntries _
    rw [lookupValidator, current.validators_eq, gather_get?_eq_answer isNamed distinct, known,
      follows.validatorModules, follows.ownValidators, get?_ofEntries_eq_latest]

/--
After any steps a lookup gives the answer of importing afresh what the history tells, for
types and for validators apart, and the same as if nothing had been looked up before.
-/
theorem lookup_run (start : Origin) (steps : List Step) (name : String) :
    ((start.toRegistry.run steps).lookupType name =
      answer SourceModule.types (knownAfter start.toRegistry steps)
        (start.toRegistry.typeModules ++ listedAfter .type steps)
        (latest Step.registeredType? steps name) name) ∧
    ((start.toRegistry.run steps).lookupValidator name =
      answer SourceModule.validators (knownAfter start.toRegistry steps)
        (start.toRegistry.validatorModules ++ listedAfter .validator steps)
        (latest Step.registeredValidator? steps name) name) ∧
    (start.toRegistry.run steps).lookupType name =
      (start.toRegistry.run (quiet steps)).lookupType name ∧
    (start.toRegistry.run steps).lookupValidator name =
      (start.toRegistry.run (quiet steps)).lookupValidator name := by
  have answers (history : List Step) := by
    have followed := start.follows.run start.isCurrent history
    rw [List.nil_append] at followed
    exact followed.1.lookup followed.2 start.isNamed name
  have untoldType (step : Step) (lookup : step.isLookup = true) :
      step.registeredType? = none := by
    cases step <;> first | rfl | cases lookup
  have untoldValidator (step : Step) (lookup : step.isLookup = true) :
      step.registeredValidator? = none := by
    cases step <;> first | rfl | cases lookup
  refine ⟨(answers steps).1, (answers steps).2, ?_, ?_⟩
  · rw [(answers steps).1, (answers (quiet steps)).1, knownAfter_quiet, listedAfter_quiet,
      latest_quiet steps untoldType]
  · rw [(answers steps).2, (answers (quiet steps)).2, knownAfter_quiet, listedAfter_quiet,
      latest_quiet steps untoldValidator]

end Registry

end RuleSchema
