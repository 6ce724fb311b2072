import RuleSchema.Proofs.Document.Addressing
import RuleSchema.Proofs.Property.Attributes
import RuleSchema.Proofs.Rule.Structure

/-!
# What a declaration keeps

The values of a declaration are selected by the paths of attributes.  Of the rest, only nodes
that lie beside every attribute are refused: whatever stands above an attribute is taken for
a group, and what has a reserved key on its path is no node.  A location of the declaration is
kept with the value of an attribute at it or above it, and with no other.
-/

namespace RuleSchema.AttributeSet

open Rule

variable {registry : Registry} {rules declaration : Document} {set : AttributeSet}

/-! ## Places of attributes -/

/-- The name of an attribute is the last key of its path. -/
def keyOf (path : DocPath) : String := (path.getLast?.map PathKey.text).getD ""

theorem mem_of_compileLeaves {paths : List DocPath} {built attributes : NameMap Attribute}
    (compiled : (compileLeaves registry rules built paths).result = .ok attributes)
    {entry : String × Attribute} (member : entry ∈ attributes) :
    entry ∈ built ∨ entry.2.path ∈ paths ∧ entry.1 = keyOf entry.2.path := by
  induction paths generalizing built with
  | nil =>
      cases compiled
      exact .inl member
  | cons path rest ih =>
      have later {known : NameMap Attribute}
          (compiledLater : (compileLeaves registry rules known rest).result = .ok attributes) :
          entry ∈ known ∨ entry.2.path ∈ path :: rest ∧ entry.1 = keyOf entry.2.path :=
        (ih compiledLater).imp_right fun found => ⟨List.mem_cons_of_mem path found.1, found.2⟩
      rw [compileLeaves] at compiled
      split at compiled
      · exact later compiled
      · rcases Warned.andThen_result_eq_ok.mp compiled with ⟨spec, -, compiled⟩
        dsimp only at compiled
        split at compiled
        · cases compiled
        · rcases later compiled with known | found
          · rcases List.mem_append.mp known with old | own
            · exact .inl old
            · rw [List.mem_singleton.mp own]
              exact .inr ⟨List.mem_cons_self, rfl⟩
          · exact .inr found

/-- An attribute is a node of its rules, and is known by the last key of its path. -/
theorem place_of_compile (compiled : compile registry rules = .ok set)
    {entry : String × Attribute} (member : entry ∈ set.attributes) :
    IsFree entry.2.path ∧ entry.2.path ≠ [] ∧ entry.1 = keyOf entry.2.path := by
  rcases leaves_of_compile compiled with ⟨leaves, -⟩
  rcases (mem_of_compileLeaves leaves member).resolve_left List.not_mem_nil with ⟨leaf, known⟩
  rcases mem_leafPaths_iff.mp leaf with ⟨free, value, holds, -⟩
  exact ⟨free, holds.ne_nil, known⟩

theorem exists_of_keyAt? {path : DocPath} {key : String} (known : set.keyAt? path = some key) :
    ∃ attr, (key, attr) ∈ set.attributes ∧ attr.path = path := by
  rcases Option.map_eq_some_iff.mp known with ⟨⟨_, attr⟩, hit, rfl⟩
  have here := List.find?_some hit
  exact ⟨attr, List.mem_of_find?_eq_some hit, eq_of_beq here⟩

theorem isSome_keyAt?_iff {path : DocPath} :
    (set.keyAt? path).isSome = true ↔ path ∈ set.leafPaths := by
  rw [keyAt?, Option.isSome_map, List.find?_isSome, leafPaths, NameMap.values, List.map_map]
  simp only [List.mem_map, beq_iff_eq, Function.comp_apply]

/-- The attribute at the path of an attribute is that attribute. -/
theorem keyAt?_of_mem (compiled : compile registry rules = .ok set) {key : String}
    {attr : Attribute} (member : (key, attr) ∈ set.attributes) :
    set.keyAt? attr.path = some key := by
  have known : attr.path ∈ set.leafPaths := List.mem_map_of_mem (List.mem_map_of_mem member)
  rcases Option.isSome_iff_exists.mp (isSome_keyAt?_iff.mpr known) with ⟨other, found⟩
  rcases exists_of_keyAt? found with ⟨_, otherMember, samePath⟩
  have otherKey : other = keyOf attr.path := samePath ▸ (place_of_compile compiled otherMember).2.2
  have ownKey : key = keyOf attr.path := (place_of_compile compiled member).2.2
  rw [found, otherKey, ownKey]

/-! ## What is selected -/

/-- Whether a node is selected or passed over, and not refused. -/
def admits (set : AttributeSet) (path : DocPath) : Bool :=
  (set.keyAt? path).isSome || set.groups path

/-- The value of a declaration at the path of an attribute, under the name of the attribute. -/
def valueAt? (set : AttributeSet) (declaration : Document) (path : DocPath) :
    Option (String × Document) :=
  (set.keyAt? path).bind fun key => (path.get? declaration).map fun value => (key, value)

theorem admits_iff {path : DocPath} :
    set.admits path = true ↔ ∃ leaf ∈ set.leafPaths, leaf <+: path ∨ path.isAncestorOf leaf := by
  rw [admits, Bool.or_eq_true, isSome_keyAt?_iff, groups, Bool.or_eq_true, List.any_eq_true,
    hasLeafAncestor_iff]
  constructor
  · rintro (here | ⟨leaf, known, above⟩ | ⟨leaf, known, below⟩)
    · exact ⟨path, here, .inl (List.prefix_refl path)⟩
    · exact ⟨leaf, known, .inr above⟩
    · rcases DocPath.isAncestorOf_iff.mp below with ⟨rest, -, rfl⟩
      exact ⟨leaf, known, .inl (List.prefix_append leaf rest)⟩
  · rintro ⟨leaf, known, ⟨rest, rfl⟩ | above⟩
    · by_cases here : rest = []
      · subst here
        rw [List.append_nil]
        exact .inl known
      · exact .inr (.inr ⟨leaf, known, DocPath.isAncestorOf_iff.mpr ⟨rest, here, rfl⟩⟩)
    · exact .inr (.inl ⟨leaf, known, above⟩)

/-- The first node that is not admitted is refused; where there is none, values are selected. -/
theorem valuesAt_eq (paths : List DocPath) :
    set.valuesAt declaration paths =
      match paths.find? fun path => !set.admits path with
      | some path => .error (.undefinedReference "attribute" path.display)
      | none => .ok (paths.filterMap (set.valueAt? declaration)) := by
  induction paths with
  | nil => rfl
  | cons path rest ih =>
      rw [valuesAt, List.find?_cons, List.filterMap_cons, admits, valueAt?]
      cases known : set.keyAt? path with
      | some key =>
          rw [ih]
          cases path.get? declaration <;>
            cases rest.find? (fun path => !set.admits path) <;> rfl
      | none =>
          cases grouping : set.groups path with
          | true => exact ih
          | false => rfl

theorem admits_of_selectValues {selected : List (String × Document)}
    (selects : set.selectValues declaration = .ok selected) :
    ∀ path ∈ pathsWhere isNode declaration, set.admits path = true := by
  rw [selectValues, valuesAt_eq] at selects
  split at selects
  · cases selects
  · next none =>
    intro path node
    simpa using List.find?_eq_none.mp none path node

/-- Selected are the values that a declaration has at the paths of attributes. -/
theorem mem_selectValues_iff (compiled : compile registry rules = .ok set)
    {selected : List (String × Document)} (selects : set.selectValues declaration = .ok selected)
    {key : String} {value : Document} :
    (key, value) ∈ selected ↔
      ∃ attr, (key, attr) ∈ set.attributes ∧ attr.path.get? declaration = some value := by
  rw [selectValues, valuesAt_eq] at selects
  split at selects
  · cases selects
  · cases selects
    rw [List.mem_filterMap]
    constructor
    · rintro ⟨path, -, made⟩
      rcases Option.bind_eq_some_iff.mp made with ⟨other, known, made⟩
      rcases Option.map_eq_some_iff.mp made with ⟨inner, found, same⟩
      cases same
      rcases exists_of_keyAt? known with ⟨attr, member, rfl⟩
      exact ⟨attr, member, found⟩
    · rintro ⟨attr, member, found⟩
      rcases place_of_compile compiled member with ⟨free, notRoot, -⟩
      refine ⟨attr.path, ?_, ?_⟩
      · exact mem_nodePaths_iff.mpr ⟨free, value, Document.holds_of_get? found notRoot⟩
      · rw [valueAt?, keyAt?_of_mem compiled member, found]
        rfl

/-! ## What is kept -/

/-- A location lies at the path of an attribute or below it, and the value there is selected. -/
def Keeps (set : AttributeSet) (selected : List (String × Document)) (path : DocPath) : Prop :=
  ∃ key attr, (key, attr) ∈ set.attributes ∧ key ∈ NameMap.names selected ∧ attr.path <+: path

theorem keeps_iff (compiled : compile registry rules = .ok set)
    {selected : List (String × Document)} (selects : set.selectValues declaration = .ok selected)
    {path : DocPath} :
    set.Keeps selected path ↔
      ∃ leaf ∈ set.leafPaths, leaf <+: path ∧ (leaf.get? declaration).isSome = true := by
  have distinct := (compile_eq_ok compiled).1
  constructor
  · rintro ⟨key, attr, member, isSelected, above⟩
    rcases List.mem_map.mp isSelected with ⟨⟨_, value⟩, chosen, rfl⟩
    rcases (mem_selectValues_iff compiled selects).mp chosen with ⟨other, otherMember, found⟩
    have same : attr = other := by
      have first := NameMap.get?_of_mem distinct member
      rw [NameMap.get?_of_mem distinct otherMember] at first
      exact (Option.some.inj first).symm
    subst same
    refine ⟨attr.path, List.mem_map_of_mem (List.mem_map_of_mem member), above, ?_⟩
    rw [found]
    rfl
  · rintro ⟨_, known, above, isFound⟩
    rcases List.mem_map.mp known with ⟨_, isAttribute, rfl⟩
    rcases List.mem_map.mp isAttribute with ⟨⟨key, attr⟩, member, rfl⟩
    rcases Option.isSome_iff_exists.mp isFound with ⟨value, found⟩
    have chosen := (mem_selectValues_iff compiled selects).mpr ⟨attr, member, found⟩
    exact ⟨key, attr, member, NameMap.mem_names_of_mem chosen, above⟩

/-- Where lookups find everything, a location below an attribute is kept. -/
theorem isSome_get?_above (compiled : compile registry rules = .ok set)
    (isOpen : declaration.isOpen = true) (distinct : declaration.hasDistinctTexts = true)
    {location : Location} (visited : location ∈ declaration.walk) {leaf : DocPath}
    (known : leaf ∈ set.leafPaths) (above : leaf <+: location.path) :
    (leaf.get? declaration).isSome = true := by
  rcases List.mem_map.mp known with ⟨_, isAttribute, rfl⟩
  rcases List.mem_map.mp isAttribute with ⟨entry, member, rfl⟩
  have notRoot := (place_of_compile compiled member).2.1
  have further : location.path ≠ [] := by
    intro root
    rw [root] at above
    exact notRoot (List.prefix_nil.mp above)
  rcases Document.holds_of_mem_walk visited further |>.exists_at_above above notRoot with
    ⟨value, holds⟩
  rw [holds.get?_eq distinct isOpen]
  rfl

/--
The first node beside all attributes is refused as no attribute.  If there is none, the values at
the paths of attributes are selected, and a location is kept exactly if it lies at an attribute or
below one and the lookup of the attribute finds something, as it always does where no two keys of
a mapping have one text.  What is neither refused nor kept has a reserved key on its path, or
stands above an attribute.
-/
theorem selectValues_keeps_iff (registry : Registry) (rules : Document) (set : AttributeSet)
    (declaration : Document) (compiled : compile registry rules = .ok set)
    (tagFree : declaration.isTagFree = true) :
    (∀ error, set.selectValues declaration = .error error ↔
      ∃ path, ((pathsWhere isNode declaration).find? fun path => !set.admits path) = some path ∧
        error = .undefinedReference "attribute" path.display) ∧
    ∀ selected, set.selectValues declaration = .ok selected →
      (∀ key value, (key, value) ∈ selected ↔
        ∃ attr, (key, attr) ∈ set.attributes ∧ attr.path.get? declaration = some value) ∧
      ∀ location ∈ declaration.walk,
        (set.Keeps selected location.path ↔
          ∃ leaf ∈ set.leafPaths, leaf <+: location.path ∧
            (leaf.get? declaration).isSome = true) ∧
        (declaration.hasDistinctTexts = true →
          (set.Keeps selected location.path ↔ ∃ leaf ∈ set.leafPaths, leaf <+: location.path)) ∧
        ((∃ leaf ∈ set.leafPaths, leaf <+: location.path) ∨ location.path = [] ∨
          ¬IsFree location.path ∨
          ∃ leaf ∈ set.leafPaths, location.path.isAncestorOf leaf = true) := by
  constructor
  · intro error
    rw [selectValues, valuesAt_eq]
    cases (pathsWhere isNode declaration).find? fun path => !set.admits path with
    | none => simp
    | some path => simp [eq_comm]
  · intro selected selects
    refine ⟨fun key value => mem_selectValues_iff compiled selects, ?_⟩
    intro location visited
    have kept : set.Keeps selected location.path ↔
        ∃ leaf ∈ set.leafPaths, leaf <+: location.path ∧ (leaf.get? declaration).isSome = true :=
      keeps_iff compiled selects
    refine ⟨kept, ?_, ?_⟩
    · intro distinct
      rw [kept]
      refine exists_congr fun leaf => and_congr_right fun known => and_iff_left_of_imp fun above => ?_
      exact isSome_get?_above compiled (Document.isOpen_of_isTagFree tagFree) distinct visited
        known above
    · by_cases further : location.path = []
      · exact .inr (.inl further)
      by_cases free : IsFree location.path
      · have holds := Document.holds_of_mem_walk visited further
        have node : location.path ∈ pathsWhere isNode declaration :=
          mem_nodePaths_iff.mpr ⟨free, location.value, holds⟩
        rcases admits_iff.mp (admits_of_selectValues selects location.path node) with
          ⟨leaf, known, above | below⟩
        · exact .inl ⟨leaf, known, above⟩
        · exact .inr (.inr (.inr ⟨leaf, known, below⟩))
      · exact .inr (.inr (.inl free))

/-- A capacity, and a cost in a group. -/
def assetRules : Document :=
  branchOf [("capacity", leafOf "float"), ("economics", branchOf [("cost", leafOf "float")])]

/-- An asset with a value for each of its attributes. -/
def pricedAsset : Document :=
  .mapping
    [ (.string "capacity", .ofInt64 1),
      (.string "economics", .mapping [(.string "cost", .ofInt64 5)]) ]

theorem selectValues_keeps_iff_priced :
    ∃ set selected, compile .standard assetRules = .ok set ∧ pricedAsset.isTagFree = true ∧
      set.selectValues pricedAsset = .ok selected ∧
      ∀ location ∈ pricedAsset.walk, location.value.isMapping = false →
        set.Keeps selected location.path := by
  have checked : ((compile .standard assetRules).toOption.any fun set =>
      (set.selectValues pricedAsset).isOk &&
        pricedAsset.walk.all fun location => location.value.isMapping ||
          decide (∃ leaf ∈ set.leafPaths, leaf <+: location.path)) = true := by
    decide +kernel
  rcases exists_of_any checked with ⟨set, compiled, checked⟩
  simp only [Bool.and_eq_true, List.all_eq_true, Bool.or_eq_true, decide_eq_true_eq] at checked
  rcases checked with ⟨valid, placed⟩
  rcases exists_of_isOk valid with ⟨selected, selects⟩
  have tagFree : pricedAsset.isTagFree = true := rfl
  rcases selectValues_keeps_iff .standard assetRules set pricedAsset compiled tagFree with
    ⟨-, keeps⟩
  refine ⟨set, selected, compiled, tagFree, selects, ?_⟩
  intro location visited scalar
  have below := (placed location visited).resolve_left (by simp [scalar])
  exact (((keeps selected selects).2 location visited).2.1 (by decide +kernel)).mpr below

/-- An asset with a number where the group stands, and an entry under a reserved key. -/
def unpricedAsset : Document :=
  .mapping
    [ (.string "capacity", .ofInt64 1), (.string "economics", .ofInt64 5),
      (.string "default", .ofInt64 7) ]

/-- The number in place of the group is dropped, and so is the entry under the reserved key. -/
theorem selectValues_drops_unpriced :
    ∃ set selected, compile .standard assetRules = .ok set ∧ unpricedAsset.isTagFree = true ∧
      set.selectValues unpricedAsset = .ok selected ∧
      ∀ location ∈ unpricedAsset.walk.tail, location.value.isMapping = false ∧
        (set.Keeps selected location.path ↔ location.path = [.key "capacity"]) := by
  have checked : ((compile .standard assetRules).toOption.any fun set =>
      (set.selectValues unpricedAsset).isOk &&
        unpricedAsset.walk.tail.all fun location => !location.value.isMapping &&
          decide ((∃ leaf ∈ set.leafPaths, leaf <+: location.path ∧
            (DocPath.get? leaf unpricedAsset).isSome = true) ↔ location.path = [.key "capacity"])) =
      true := by
    decide +kernel
  rcases exists_of_any checked with ⟨set, compiled, checked⟩
  simp only [Bool.and_eq_true, List.all_eq_true, Bool.not_eq_true', decide_eq_true_eq] at checked
  rcases checked with ⟨valid, placed⟩
  rcases exists_of_isOk valid with ⟨selected, selects⟩
  refine ⟨set, selected, compiled, rfl, selects, ?_⟩
  intro location visited
  rcases placed location visited with ⟨scalar, capacity⟩
  exact ⟨scalar, (keeps_iff compiled selects).trans capacity⟩

end RuleSchema.AttributeSet
