import RuleSchema.Proofs.Document.Tags
import RuleSchema.Proofs.Types.Rereading

/-!
# Regular types

A type is regular if no record in it has two fields of one name and all options of its
literals are scalars.  A registry is regular if it makes regular types from references
without tags; the registry of the built-in modules is.
-/

namespace RuleSchema

/-- No record in the type has two fields of one name, and all options of literals are scalars. -/
def ValueType.IsRegular (type : ValueType) : Prop :=
  type.Throughout fun part => part.NamesDistinctly ∧ part.HasScalarOptions

/-- An argument without tags, which if it names a type names a regular one. -/
def TypeArgument.IsRegular (argument : TypeArgument) : Prop :=
  argument.document.isTagFree = true ∧ ∀ type, argument.type = some type → type.IsRegular

/-- A regular type, or a factory that makes regular types of regular arguments. -/
def TypeEntry.IsRegular : TypeEntry → Prop
  | ready type => type.IsRegular
  | generic factory =>
      ∀ arguments type, (∀ argument ∈ arguments, argument.IsRegular) →
        factory arguments = .ok type → type.IsRegular
  | constrained factory => ∀ options type, factory options = .ok type → type.IsRegular

/-- A registry all of whose entries are regular. -/
def Registry.IsRegular (registry : Registry) : Prop :=
  ∀ name entry, registry.lookupType name = .ok (some entry) → entry.IsRegular

/-! ## References -/

theorem TypeEntry.IsRegular.plain {entry : TypeEntry} (regular : entry.IsRegular)
    {type : ValueType} (made : entry.plain = .ok type) : type.IsRegular := by
  cases entry with
  | ready own =>
      cases made
      exact regular
  | generic factory => exact regular [] type (fun _ member => absurd member List.not_mem_nil) made
  | constrained factory => exact regular [] type made

namespace Registry

variable {registry : Registry}

theorem specified_eq_ok {α : Type} {path : DocPath} {result : Except String α} {value : α} :
    specified path result = .ok value ↔ result = .ok value := by
  cases result <;> simp [specified]

theorem IsRegular.typeArgument (regular : registry.IsRegular) {document : Document}
    (tagFree : document.isTagFree = true) {argument : TypeArgument}
    (read : registry.typeArgument document = .ok argument) : argument.IsRegular := by
  rw [Registry.typeArgument] at read
  split at read
  · cases read
    exact ⟨tagFree, fun _ none => nomatch none⟩
  · next name _ =>
    split at read
    · cases read
    · next entry known =>
      cases read
      refine ⟨tagFree, ?_⟩
      intro type named
      rcases Option.bind_eq_some_iff.mp named with ⟨found, rfl, made⟩
      cases plain : found.plain with
      | error message =>
          rw [plain] at made
          cases made
      | ok own =>
          rw [plain] at made
          cases made
          exact (regular name found known).plain plain

theorem IsRegular.typeArguments (regular : registry.IsRegular) {documents : List Document}
    (tagFree : ∀ document ∈ documents, document.isTagFree = true) {arguments : List TypeArgument}
    (read : registry.typeArguments documents = .ok arguments) :
    ∀ argument ∈ arguments, argument.IsRegular := by
  induction documents generalizing arguments with
  | nil =>
      cases read
      intro argument member
      cases member
  | cons document rest ih =>
      rw [Registry.typeArguments] at read
      split at read
      · cases read
      · next first readFirst =>
        rcases except_map_eq_ok.mp read with ⟨others, readOthers, rfl⟩
        intro argument member
        rcases List.mem_cons.mp member with rfl | later
        · exact regular.typeArgument (tagFree document List.mem_cons_self) readFirst
        · refine ih (fun other known => ?_) readOthers argument later
          exact tagFree other (List.mem_cons_of_mem document known)

/-- A leaf without tags refers to a regular type. -/
theorem IsRegular.resolveType (regular : registry.IsRegular) {path : DocPath} {leaf : Mapping}
    (tagFree : Document.isTagFree (.mapping leaf) = true) {type : ValueType}
    (resolved : (registry.resolveType path leaf).result = .ok type) : type.IsRegular := by
  rw [Registry.resolveType] at resolved
  split at resolved
  · cases resolved
  split at resolved
  · cases resolved
  next name _ =>
  split at resolved
  · cases resolved
  · cases resolved
  next entry known =>
  have entryRegular := regular name entry known
  cases options : (leaf.field? "opts").filter Document.isTrue with
  | none =>
      rw [options, typeOf] at resolved
      exact entryRegular.plain (specified_eq_ok.mp resolved)
  | some stated =>
      have statedTagFree : stated.isTagFree = true :=
        Document.isTagFree_of_field? tagFree (Option.filter_eq_some_iff.mp options).1
      rw [options, typeOf.eq_def] at resolved
      split at resolved
      · next arguments factory same =>
        cases same
        split at resolved
        · cases resolved
        · next read =>
          have regularArguments :=
            regular.typeArguments (Document.isTagFree_sequence.mp statedTagFree) read
          exact entryRegular _ type regularArguments (specified_eq_ok.mp resolved)
      · cases resolved
      · next options factory same => exact entryRegular _ type (specified_eq_ok.mp resolved)
      · cases resolved
      · exact entryRegular.plain (specified_eq_ok.mp resolved)
      · next none => cases none

end Registry

/-! ## The built-in modules -/

namespace Builtin

theorem isRegular_of_noParts {type : ValueType}
    (own : type.NamesDistinctly ∧ type.HasScalarOptions) (noParts : type.parts = []) :
    type.IsRegular := by
  refine .intro own ?_
  intro part member
  rw [noParts] at member
  cases member

theorem isRegular_of_asType {argument : TypeArgument} (regular : argument.IsRegular)
    {type : ValueType} (named : argument.asType = .ok type) : type.IsRegular := by
  rw [TypeArgument.asType] at named
  split at named
  · next found same =>
    cases named
    exact regular.2 _ same
  · cases named

theorem isRegular_of_allTypes {arguments : List TypeArgument} {types : List ValueType}
    (regular : ∀ argument ∈ arguments, argument.IsRegular)
    (named : allTypes arguments = .ok types) : ∀ type ∈ types, type.IsRegular := by
  induction arguments generalizing types with
  | nil =>
      cases named
      intro type member
      cases member
  | cons argument rest ih =>
      rw [allTypes] at named
      split at named
      · cases named
      · next first read =>
        rcases except_map_eq_ok.mp named with ⟨others, readOthers, rfl⟩
        intro type member
        rcases List.mem_cons.mp member with rfl | later
        · exact isRegular_of_asType (regular argument List.mem_cons_self) read
        · refine ih (fun other known => ?_) readOthers type later
          exact regular other (List.mem_cons_of_mem argument known)

theorem isRegular_list : (TypeEntry.generic list).IsRegular := by
  intro arguments type regular made
  match arguments with
  | [] =>
      cases made
      refine .intro ⟨trivial, trivial⟩ fun part member => ?_
      rw [List.mem_singleton.mp member]
      exact isRegular_of_noParts ⟨trivial, trivial⟩ rfl
  | [item] =>
      rcases except_map_eq_ok.mp made with ⟨own, named, rfl⟩
      refine .intro ⟨trivial, trivial⟩ fun part member => ?_
      rw [List.mem_singleton.mp member]
      exact isRegular_of_asType (regular item List.mem_cons_self) named
  | _ :: _ :: _ => cases made

theorem isRegular_dict : (TypeEntry.generic dict).IsRegular := by
  intro arguments type regular made
  match arguments with
  | [] =>
      cases made
      refine .intro ⟨trivial, trivial⟩ fun part member => ?_
      simp only [ValueType.parts, List.mem_cons, List.not_mem_nil, or_false] at member
      rcases member with rfl | rfl <;> exact isRegular_of_noParts ⟨trivial, trivial⟩ rfl
  | [key, value] =>
      rw [dict] at made
      split at made
      · cases made
      · next keyType namedKey =>
        rcases except_map_eq_ok.mp made with ⟨valueType, named, rfl⟩
        refine .intro ⟨trivial, trivial⟩ fun part member => ?_
        simp only [ValueType.parts, List.mem_cons, List.not_mem_nil, or_false] at member
        rcases member with rfl | rfl
        · exact isRegular_of_asType (regular key (by simp)) namedKey
        · exact isRegular_of_asType (regular value (by simp)) named
  | [_] => cases made
  | _ :: _ :: _ :: _ => cases made

theorem isRegular_tuple : (TypeEntry.generic tuple).IsRegular := by
  intro arguments type regular made
  cases arguments with
  | nil => cases made
  | cons first rest =>
      rcases except_map_eq_ok.mp made with ⟨items, named, rfl⟩
      exact .intro ⟨trivial, trivial⟩ (isRegular_of_allTypes regular named)

theorem isRegular_optional : (TypeEntry.generic optional).IsRegular := by
  intro arguments type regular made
  match arguments with
  | [] => cases made
  | [item] =>
      rcases except_map_eq_ok.mp made with ⟨own, named, rfl⟩
      refine .intro ⟨trivial, trivial⟩ fun part member => ?_
      rw [List.mem_singleton.mp member]
      exact isRegular_of_asType (regular item List.mem_cons_self) named
  | _ :: _ :: _ => cases made

theorem isRegular_union : (TypeEntry.generic union).IsRegular := by
  intro arguments type regular made
  match arguments with
  | [] => cases made
  | [item] => exact isRegular_of_asType (regular item List.mem_cons_self) made
  | _ :: _ :: _ =>
      rcases except_map_eq_ok.mp made with ⟨items, named, rfl⟩
      exact .intro ⟨trivial, trivial⟩ (isRegular_of_allTypes regular named)

theorem isScalar_of_scalarOptions {arguments : List TypeArgument} {options : List Document}
    (regular : ∀ argument ∈ arguments, argument.IsRegular)
    (read : scalarOptions arguments = .ok options) :
    ∀ option ∈ options, option.isScalar = true := by
  induction arguments generalizing options with
  | nil =>
      cases read
      intro option member
      cases member
  | cons argument rest ih =>
      have tagFree := (regular argument List.mem_cons_self).1
      rw [scalarOptions.eq_def] at read
      dsimp only at read
      split at read
      · cases read
      · cases read
      · next noSequence noMapping =>
        rcases except_map_eq_ok.mp read with ⟨others, readOthers, rfl⟩
        intro option member
        rcases List.mem_cons.mp member with rfl | later
        · cases kind : argument.document with
          | sequence items => exact absurd kind (noSequence items)
          | mapping entries => exact absurd kind (noMapping entries)
          | tagged name inner =>
              rw [kind] at tagFree
              cases tagFree
          | _ => rfl
        · refine ih (fun other known => ?_) readOthers option later
          exact regular other (List.mem_cons_of_mem argument known)

theorem isRegular_literal : (TypeEntry.generic literal).IsRegular := by
  intro arguments type regular made
  cases arguments with
  | nil => cases made
  | cons first rest =>
      rcases except_map_eq_ok.mp made with ⟨options, read, rfl⟩
      exact isRegular_of_noParts ⟨trivial, isScalar_of_scalarOptions regular read⟩ rfl

theorem isRegular_constrainedInt : (TypeEntry.constrained constrainedInt).IsRegular := by
  intro options type made
  rcases except_map_eq_ok.mp made with ⟨constraints, -, rfl⟩
  exact isRegular_of_noParts ⟨trivial, trivial⟩ rfl

theorem isRegular_constrainedFloat : (TypeEntry.constrained constrainedFloat).IsRegular := by
  intro options type made
  rcases except_map_eq_ok.mp made with ⟨constraints, -, rfl⟩
  exact isRegular_of_noParts ⟨trivial, trivial⟩ rfl

theorem isRegular_constrainedText : (TypeEntry.constrained constrainedText).IsRegular := by
  intro options type made
  rcases except_map_eq_ok.mp made with ⟨constraints, -, rfl⟩
  exact isRegular_of_noParts ⟨trivial, trivial⟩ rfl

theorem isRegular_withUnit {base : Mapping → Except String ValueType}
    (regular : (TypeEntry.constrained base).IsRegular) :
    (TypeEntry.constrained (withUnit base)).IsRegular := by
  intro options type made
  rw [withUnit] at made
  split at made
  · cases made
  · split at made
    · cases made
    · rcases except_map_eq_ok.mp made with ⟨number, read, rfl⟩
      refine .intro ⟨trivial, trivial⟩ fun part member => ?_
      rw [List.mem_singleton.mp member]
      exact regular _ number read

end Builtin

namespace SourceModule

/-- Every type that the module defines is regular. -/
def HasRegularTypes (source : SourceModule) : Prop := ∀ entry ∈ source.types, entry.2.IsRegular

theorem hasRegularTypes_ofTypes (name : String) {types : List (String × TypeEntry)}
    (regular : ∀ entry ∈ types, entry.2.IsRegular) : (ofTypes name types).HasRegularTypes := by
  have built (source : SourceModule) (before : source.HasRegularTypes) :
      (types.foldl (fun built entry => built.exportType entry.1 entry.2)
        source).HasRegularTypes := by
    induction types generalizing source with
    | nil => exact before
    | cons first rest ih =>
        refine ih (fun entry member => regular entry (List.mem_cons_of_mem first member)) _ ?_
        intro entry member
        rcases NameMap.mem_of_mem_insert member with rfl | old
        · exact regular first List.mem_cons_self
        · exact before entry old
  refine built (empty name) ?_
  intro entry member
  cases member

end SourceModule

namespace Registry

variable {registry : Registry}

theorem mem_of_imported {α : Type} {definitions : SourceModule → NameMap α}
    {built result : NameMap α} {sources : List SourceModule} {entry : String × α}
    (gathered : imported definitions built sources = .ok result) (member : entry ∈ result) :
    entry ∈ built ∨ ∃ source ∈ sources, entry ∈ definitions source := by
  induction sources generalizing built with
  | nil =>
      cases gathered
      exact .inl member
  | cons source rest ih =>
      rw [imported] at gathered
      split at gathered
      · cases gathered
      · rcases ih gathered with inserted | ⟨other, known, defined⟩
        · rcases NameMap.mem_of_mem_insertAll inserted with old | exported
          · exact .inl old
          · rcases List.mem_filterMap.mp exported with ⟨name, -, found⟩
            rcases Option.map_eq_some_iff.mp found with ⟨type, known, rfl⟩
            exact .inr ⟨source, List.mem_cons_self, NameMap.mem_of_get? known⟩
        · exact .inr ⟨other, List.mem_cons_of_mem source known, defined⟩

theorem mem_of_modules {names : List String} {sources : List SourceModule} {source : SourceModule}
    (listed : registry.modules names = .ok sources) (member : source ∈ sources) :
    ∃ name, (name, source) ∈ registry.catalog := by
  induction names generalizing sources with
  | nil =>
      cases listed
      cases member
  | cons name rest ih =>
      rw [modules] at listed
      split at listed
      · cases listed
      · next found known =>
        rcases except_map_eq_ok.mp listed with ⟨others, listedOthers, rfl⟩
        rcases List.mem_cons.mp member with rfl | later
        · exact ⟨name, NameMap.mem_of_get? known⟩
        · exact ih listedOthers later

/-- A registry is regular if all the modules that it knows have regular types. -/
theorem isRegular_of_modules (fresh : registry.knownTypes = none)
    (regular : ∀ entry ∈ registry.catalog, entry.2.HasRegularTypes)
    (own : registry.own.HasRegularTypes) : registry.IsRegular := by
  intro name entry found
  rcases except_map_eq_ok.mp found with ⟨known, gathered, lookup⟩
  have member := NameMap.mem_of_get? lookup
  rw [types, fresh] at gathered
  simp only [gather] at gathered
  split at gathered
  · cases gathered
  · next sources listed =>
    rcases except_map_eq_ok.mp gathered with ⟨built, importing, rfl⟩
    rcases NameMap.mem_of_mem_insertAll member with inModules | registered
    · rcases mem_of_imported importing inModules with none | ⟨source, isSource, defined⟩
      · cases none
      · rcases mem_of_modules listed isSource with ⟨place, inCatalog⟩
        exact regular _ inCatalog _ defined
    · exact own _ registered

/-- The registry of the built-in modules is regular. -/
theorem isRegular_standard : standard.IsRegular := by
  have scalar {type : ValueType} (own : type.NamesDistinctly ∧ type.HasScalarOptions)
      (noParts : type.parts = []) : (TypeEntry.ready type).IsRegular :=
    Builtin.isRegular_of_noParts own noParts
  apply isRegular_of_modules rfl
  · intro entry member
    rcases List.mem_map.mp (NameMap.mem_of_mem_ofEntries member) with ⟨source, known, rfl⟩
    simp only [List.mem_cons, List.not_mem_nil, or_false] at known
    rcases known with rfl | rfl | rfl | rfl | rfl
    · apply SourceModule.hasRegularTypes_ofTypes
      simp only [List.forall_mem_cons, List.not_mem_nil, false_implies, implies_true, and_true]
      exact ⟨scalar ⟨trivial, trivial⟩ rfl, scalar ⟨trivial, trivial⟩ rfl,
        scalar ⟨trivial, trivial⟩ rfl, scalar ⟨trivial, trivial⟩ rfl,
        scalar ⟨trivial, trivial⟩ rfl, scalar ⟨trivial, trivial⟩ rfl⟩
    · apply SourceModule.hasRegularTypes_ofTypes
      simp only [List.forall_mem_cons, List.not_mem_nil, false_implies, implies_true, and_true]
      exact ⟨scalar ⟨trivial, trivial⟩ rfl, Builtin.isRegular_list, Builtin.isRegular_dict,
        Builtin.isRegular_tuple, Builtin.isRegular_optional, Builtin.isRegular_union,
        Builtin.isRegular_literal⟩
    · apply SourceModule.hasRegularTypes_ofTypes
      simp only [List.forall_mem_cons, List.not_mem_nil, false_implies, implies_true, and_true]
      refine ⟨?_, ?_, ?_, ?_, ?_, ?_, ?_, ?_, ?_, ?_, ?_, ?_, ?_,
        Builtin.isRegular_constrainedInt, Builtin.isRegular_constrainedFloat,
        Builtin.isRegular_constrainedText⟩
      all_goals exact scalar ⟨trivial, trivial⟩ rfl
    · apply SourceModule.hasRegularTypes_ofTypes
      simp only [List.forall_mem_cons, List.not_mem_nil, false_implies, implies_true, and_true]
      exact ⟨Builtin.isRegular_withUnit Builtin.isRegular_constrainedInt,
        Builtin.isRegular_withUnit Builtin.isRegular_constrainedFloat⟩
    · intro type none
      cases none
  · intro entry member
    cases member

end Registry

end RuleSchema
