import RuleSchema.Proofs.Rule.LeafEntries

/-!
# Picked and dropped entries complement each other

What is dropped from the leaves of a document is what is picked from them: merged, the two give
the document back up to the order of entries.  Apart from the entries of the given names in
leaves, dropping changes nothing; picking has exactly these entries at the leaves that have some,
and nothing else but the mappings on the way to them.

Documents are without tags and have distinct texts as keys, no leaf lies inside a sequence, and
the names are reserved.
-/

namespace RuleSchema

namespace Document

open DocPath

variable {entries others : Mapping} {text : String}

/-- Under a text, two merged mappings have the value of one, or what both values merge to. -/
theorem exists_merged_pair (layer : (Document.mapping entries).IsLayer)
    (otherLayer : (Document.mapping others).IsLayer) :
    ∃ merged : Mapping, merge [.mapping entries, .mapping others] = .mapping merged ∧
      merged.HasFields ∧
      ∀ text, merged.at? text =
        match entries.at? text, others.at? text with
        | none, found => found
        | some value, none => some value
        | some value, some other => some (merge [value, other]) := by
  have mappings : ∀ document ∈ [Document.mapping entries, .mapping others],
      document.isMapping = true := by simp [isMapping, untagged]
  have layers : ∀ document ∈ [Document.mapping entries, .mapping others], document.IsLayer := by
    simp [layer, otherLayer]
  have keys := keysOf_eq_keyTexts layers
  have fields : Mapping.HasFields
      ((keysOf [.mapping entries, .mapping others]).map fun key =>
        (key, layered (valuesUnder key [.mapping entries, .mapping others]))) := by
    rw [keys, List.map_map]
    constructor
    · intro entry member
      rcases List.mem_map.mp member with ⟨text, -, rfl⟩
      rfl
    · rw [List.map_map]
      exact (List.map_id _).symm ▸ nodup_eraseDups _
  refine ⟨_, merge_eq_mapping mappings, fields, ?_⟩
  intro text
  have found := value?_merge mappings (fun document member => (layers document member).isProper)
    (rfl : (Document.string text).isProper = true)
  rw [merge_eq_mapping mappings] at found
  have own : entries.at? text = value? (.string text) (.mapping entries) :=
    Mapping.at?_eq_get? (isLayer_mapping.mp layer).1.texts text
  have other : others.at? text = value? (.string text) (.mapping others) :=
    Mapping.at?_eq_get? (isLayer_mapping.mp otherLayer).1.texts text
  rw [Mapping.at?_eq_get? fields.texts, own, other]
  refine found.trans ?_
  rw [valuesUnder_eq, List.filterMap_cons, List.filterMap_cons, List.filterMap_nil]
  cases value? (.string text) (.mapping entries) <;>
    cases value? (.string text) (.mapping others) <;> rfl

end Document

namespace Rule

open Document DocPath

variable {names : List String} {entries : Mapping} {value document : Document} {own : Bool}
  {path leaf : DocPath} {text : String}

/-- No leaf of a document lies inside a sequence. -/
def HasKeyedLeaves (document : Document) : Prop :=
  ∀ leaf ∈ leavesInside [] document, ∀ step ∈ leaf, ∃ text, step = PathKey.key text

/-! ## Leaves of levels -/

theorem mem_leavesInside_mapping {leaf : DocPath} :
    leaf ∈ leavesInside [] (.mapping entries) ↔
      ∃ key value below, (key, value) ∈ entries ∧ isReservedText key.keyText = false ∧
        below ∈ nodeLeaves value ∧ leaf = PathKey.ofDocument key :: below := by
  induction entries with
  | nil => simp [leavesInside, inside, insideEntries]
  | cons entry rest ih =>
      rcases entry with ⟨key, value⟩
      rw [leavesInside_cons, List.mem_append, ih]
      constructor
      · rintro (here | ⟨other, inner, below, member, found⟩)
        · split at here
          · cases here
          · next free =>
            rcases List.mem_map.mp here with ⟨below, isLeaf, rfl⟩
            exact ⟨key, value, below, List.mem_cons_self, by simpa using free, isLeaf, rfl⟩
        · exact ⟨other, inner, below, List.mem_cons_of_mem _ member, found⟩
      · rintro ⟨other, inner, below, member, free, isLeaf, rfl⟩
        rcases List.mem_cons.mp member with same | later
        · cases same
          rw [if_neg (by simp [free])]
          exact .inl (List.mem_map_of_mem isLeaf)
        · exact .inr ⟨other, inner, below, later, free, isLeaf, rfl⟩

theorem HasKeyedLeaves.of_mem (keyed : HasKeyedLeaves (.mapping entries)) {key : Document}
    (member : (key, value) ∈ entries) (free : isReservedText key.keyText = false) :
    HasKeyedLeaves value := by
  intro leaf isLeaf step isStep
  have inside : leaf ∈ nodeLeaves value := List.mem_append_right _ isLeaf
  exact keyed (PathKey.ofDocument key :: leaf)
    (mem_leavesInside_mapping.mpr ⟨key, value, leaf, member, free, inside, rfl⟩) step
    (List.mem_cons_of_mem _ isStep)

/-- Only at or inside a mapping there are leaves. -/
theorem HasKeyedLeaves.nodeLeaves_eq_nil (keyed : HasKeyedLeaves value)
    (layer : value.IsLayer) (notMapping : value.isMapping = false) : nodeLeaves value = [] := by
  cases value with
  | mapping entries => cases notMapping
  | tagged name inner => cases layer.isTagFree
  | sequence items =>
      have own : describesValue (.sequence items) = false := rfl
      rw [nodeLeaves, own, List.eq_nil_iff_forall_not_mem]
      intro leaf member
      have isPath : leaf ∈ pathsWhere isLeaf (.sequence items) := by
        rw [pathsWhere_isLeaf]
        exact member
      rcases mem_leafPaths_iff.mp isPath with ⟨-, inner, holds, -⟩
      have indexed : ∃ position, PathKey.index position ∈ leaf := by
        cases holds with
        | item found => exact ⟨_, List.mem_cons_self⟩
        | belowItem found below => exact ⟨_, List.mem_cons_self⟩
      rcases indexed with ⟨position, isStep⟩
      rcases keyed leaf member _ isStep with ⟨text, same⟩
      cases same
  | _ => rfl

theorem HasKeyedLeaves.isMapping_of_hasPicks (keyed : HasKeyedLeaves value)
    (layer : value.IsLayer) (picks : hasPicks names value = true) : value.isMapping = true := by
  by_contra notMapping
  rw [hasPicks, keyed.nodeLeaves_eq_nil layer (Bool.eq_false_iff.mpr notMapping)] at picks
  cases picks

theorem HasKeyedLeaves.eq_mapping (keyed : HasKeyedLeaves value) (layer : value.IsLayer)
    (isLeaf : leaf ∈ nodeLeaves value) : ∃ entries, value = .mapping entries := by
  apply layer.eq_mapping
  by_contra notMapping
  rw [keyed.nodeLeaves_eq_nil layer (Bool.eq_false_iff.mpr notMapping)] at isLeaf
  cases isLeaf

/-! ## Where there is nothing to pick -/

theorem eraseField_of_absent (absent : entries.field? text = none) :
    entries.eraseField text = entries := by
  rw [Mapping.field?, Option.map_eq_none_iff, List.find?_eq_none] at absent
  exact List.eraseP_of_forall_not absent

theorem foldl_eraseField_of_absent (absent : ∀ name ∈ names, entries.field? name = none) :
    names.foldl Mapping.eraseField entries = entries := by
  induction names with
  | nil => rfl
  | cons name rest ih =>
      rw [List.foldl_cons, eraseField_of_absent (absent name List.mem_cons_self)]
      exact ih fun other member => absent other (List.mem_cons_of_mem _ member)

theorem picked_isEmpty_iff :
    (picked names entries).isEmpty = true ↔ ∀ name ∈ names, entries.field? name = none := by
  rw [List.isEmpty_iff]
  constructor
  · intro empty name member
    have found := at?_picked names entries name
    rw [empty, if_pos (List.contains_iff_mem.mpr member)] at found
    exact found.symm
  · intro absent
    have none : names.filterMap (fun name => (entries.field? name).map fun value =>
        (Document.string name, value)) = [] := by
      rw [List.filterMap_eq_nil_iff]
      intro name member
      rw [absent name member]
      rfl
    rw [picked, none]
    rfl

theorem dropLeaf_of_no_picks (none : (picksAt names document path).isEmpty = true) :
    dropLeaf names document path = document := by
  rw [dropLeaf]
  split
  · next entries found =>
    rw [picksAt, found] at none
    rw [foldl_eraseField_of_absent (picked_isEmpty_iff.mp none), replace?_self found]
    rfl
  · rfl

theorem foldl_eq_self {α β : Type} {step : α → β → α} {start : α} {inputs : List β}
    (each : ∀ input ∈ inputs, step start input = start) : inputs.foldl step start = start := by
  induction inputs with
  | nil => rfl
  | cons input rest ih =>
      rw [List.foldl_cons, each input List.mem_cons_self]
      exact ih fun other member => each other (List.mem_cons_of_mem _ member)

theorem picksAt_isEmpty (none : hasPicks names value = false) (isLeaf : leaf ∈ nodeLeaves value) :
    (picksAt names value leaf).isEmpty = true := by
  have here := List.any_eq_false.mp none leaf isLeaf
  simpa using here

/-- Without anything to pick, nothing is dropped. -/
theorem dropNode_of_no_picks (none : hasPicks names value = false) :
    dropNode names value = value :=
  foldl_eq_self fun _ isLeaf => dropLeaf_of_no_picks (picksAt_isEmpty none isLeaf)

theorem pickNode_of_no_picks (none : hasPicks names value = false) :
    pickNode names value = .mapping [] :=
  foldl_eq_self fun leaf isLeaf => by rw [pickLeaf_eq, if_pos (picksAt_isEmpty none isLeaf)]

/-! ## Merging what was dropped with what was picked -/

/-- What is left of a document and what was picked from it are layers that merge to it. -/
structure Complement (whole left taken : Document) : Prop where
  leftLayer : left.IsLayer
  takenLayer : taken.IsLayer
  merges : whole.Reordered (merge [left, taken])

theorem complement_level (reserved : ∀ name ∈ names, isReservedText name = true)
    (layer : (Document.mapping entries).IsLayer) (keyed : HasKeyedLeaves (.mapping entries))
    (values : ∀ key value, (key, value) ∈ entries → isReservedText key.keyText = false →
      value.isMapping = true → Complement value (dropNode names value) (pickNode names value)) :
    Complement (.mapping entries) (.mapping (droppedLevel names own entries))
      (.mapping (pickedLevel names own entries)) := by
  rcases isLayer_mapping.mp layer with ⟨fields, layers⟩
  have layerOf {text : String} {value : Document} (found : entries.at? text = some value) :
      value.IsLayer := layers _ (fields.at?_eq_some_iff.mp found)
  have keyedOf {text : String} {value : Document} (found : entries.at? text = some value)
      (free : isReservedText text = false) : HasKeyedLeaves value :=
    keyed.of_mem (fields.at?_eq_some_iff.mp found) free
  have complementOf {text : String} {value : Document} (found : entries.at? text = some value)
      (free : isReservedText text = false) (picks : hasPicks names value = true) :
      Complement value (dropNode names value) (pickNode names value) :=
    values _ value (fields.at?_eq_some_iff.mp found) free
      ((keyedOf found free).isMapping_of_hasPicks (layerOf found) picks)
  have left : (Document.mapping (droppedLevel names own entries)).IsLayer := by
    apply isLayer_of_at? (hasFields_droppedLevel fields)
    intro text value found
    rw [at?_droppedLevel fields] at found
    split at found
    · cases found
    · rcases Option.map_eq_some_iff.mp found with ⟨original, isOriginal, rfl⟩
      split
      · exact layerOf isOriginal
      · next free =>
        cases picks : hasPicks names original with
        | true => exact (complementOf isOriginal (by simpa using free) picks).leftLayer
        | false =>
            rw [dropNode_of_no_picks picks]
            exact layerOf isOriginal
  have taken : (Document.mapping (pickedLevel names own entries)).IsLayer := by
    apply isLayer_of_at? (hasFields_pickedLevel reserved fields)
    intro text value found
    rw [at?_pickedLevel reserved fields] at found
    split at found
    · split at found
      · exact layerOf found
      · cases found
    · next free =>
      rcases Option.bind_eq_some_iff.mp found with ⟨original, isOriginal, given⟩
      split at given
      · next picks =>
        cases given
        exact (complementOf isOriginal (by simpa using free) picks).takenLayer
      · cases given
  refine ⟨left, taken, ?_⟩
  rcases exists_merged_pair left taken with ⟨merged, isMerged, mergedFields, lookups⟩
  rw [isMerged]
  apply reordered_of_at? fields mergedFields
  intro text
  rw [lookups, at?_droppedLevel fields, at?_pickedLevel reserved fields]
  cases found : entries.at? text with
  | none =>
      cases isReservedText text <;> cases own && names.contains text <;> exact .none
  | some value =>
      cases free : isReservedText text with
      | true =>
          cases own && names.contains text <;> exact .some (Reordered.refl value)
      | false =>
          rw [contains_eq_false reserved free, Bool.and_false]
          cases picks : hasPicks names value with
          | true => simpa [picks] using complementOf found free picks |>.merges
          | false => simpa [picks, dropNode_of_no_picks picks] using Reordered.refl value

theorem complement_node (reserved : ∀ name ∈ names, isReservedText name = true)
    (layer : value.IsLayer) (keyed : HasKeyedLeaves value) (isMapping : value.isMapping = true) :
    Complement value (dropNode names value) (pickNode names value) := by
  induction value using memberInduction with
  | mapping entries each =>
      rcases isLayer_mapping.mp layer with ⟨fields, layers⟩
      rw [dropNode_mapping reserved fields, pickNode_mapping reserved fields]
      apply complement_level reserved layer keyed
      intro key value member free isMapping
      exact (each key value member).2 (layers _ member) (keyed.of_mem member free) isMapping
  | tagged name inner => cases layer.isTagFree
  | _ => cases isMapping

/-! ## What is found after dropping and picking -/

/-- The leaves inside a mapping, and the one at the mapping itself. -/
def levelLeaves (own : Bool) (entries : Mapping) : List DocPath :=
  (if own then [[]] else []) ++ leavesInside [] (.mapping entries)

theorem nodeLeaves_mapping :
    nodeLeaves (.mapping entries) = levelLeaves (entries.hasField "type") entries := rfl

theorem nil_mem_levelLeaves : [] ∈ levelLeaves own entries ↔ own = true := by
  have notInside : [] ∉ leavesInside [] (.mapping entries) := by
    intro member
    rcases mem_leavesInside_mapping.mp member with ⟨_, _, _, _, _, _, same⟩
    cases same
  cases own <;> simp [levelLeaves, notInside]

theorem cons_mem_levelLeaves (fields : entries.HasFields) {step : PathKey} {below : DocPath} :
    step :: below ∈ levelLeaves own entries ↔
      ∃ text value, step = .key text ∧ entries.at? text = some value ∧
        isReservedText text = false ∧ below ∈ nodeLeaves value := by
  have inside : step :: below ∈ levelLeaves own entries ↔
      step :: below ∈ leavesInside [] (.mapping entries) := by
    cases own <;> simp [levelLeaves]
  rw [inside, mem_leavesInside_mapping]
  constructor
  · rintro ⟨key, value, rest, member, free, isLeaf, same⟩
    cases same
    have found := (at?_keyText_iff fields.distinct member).mpr (by rw [fields.key_eq member]; rfl)
    exact ⟨key.keyText, value, rfl, found, free, isLeaf⟩
  · rintro ⟨text, value, rfl, found, free, isLeaf⟩
    exact ⟨.string text, value, below, fields.at?_eq_some_iff.mp found, free, isLeaf, rfl⟩

/-- Whether a path leads to or into an entry of the names at one of the places. -/
def LeadsToEntry (names : List String) (places : List DocPath) (path : DocPath) : Prop :=
  ∃ leaf ∈ places, ∃ name ∈ names, leaf ++ [.key name] <+: path

/-- Whether a path is the root, or leads to or towards a place that has entries of the names. -/
def LeadsToPlace (names : List String) (document : Document) (places : List DocPath)
    (path : DocPath) : Prop :=
  path = [] ∨ ∃ leaf ∈ places, path <+: leaf ∧
    ∃ name ∈ names, (get? (leaf ++ [.key name]) document).isSome = true

/-- The same is found, but for entries of the names in a mapping. -/
def FoundWithout (names : List String) : Option Document → Option Document → Prop
  | some (.mapping entries), after =>
      ∃ left : Mapping, after = some (.mapping left) ∧
        left.map Prod.fst =
          (entries.map Prod.fst).filter fun key => !names.contains key.keyText
  | before, after => after = before

theorem get?_key_mapping (text : String) (rest : DocPath) :
    get? (.key text :: rest) (.mapping entries) = (entries.at? text).bind (get? rest) := by
  rw [get?_cons, get?_key]

theorem get?_dropped_below (reserved : ∀ name ∈ names, isReservedText name = true)
    (fields : entries.HasFields) (found : entries.at? text = some value)
    (free : isReservedText text = false) :
    get? (.key text :: path) (.mapping (droppedLevel names own entries)) =
      get? path (dropNode names value) := by
  rw [get?_key_mapping, at?_droppedLevel fields, found, contains_eq_false reserved free,
    Bool.and_false, free]
  rfl

/-- Below a key it does not matter whether the key is left out or has an empty mapping. -/
theorem get?_picked_below (reserved : ∀ name ∈ names, isReservedText name = true)
    (fields : entries.HasFields) (found : entries.at? text = some value)
    (free : isReservedText text = false) (notRoot : path ≠ []) :
    get? (.key text :: path) (.mapping (pickedLevel names own entries)) =
      get? path (pickNode names value) := by
  rw [get?_key_mapping, at?_pickedLevel reserved fields, found, free]
  cases picks : hasPicks names value with
  | true => simp [picks]
  | false =>
      rw [pickNode_of_no_picks picks, get?_empty notRoot]
      simp [picks]

/-- The entries of the names are gone from each leaf, and are all picked there. -/
theorem entry_at_leaf (reserved : ∀ name ∈ names, isReservedText name = true)
    (layer : (Document.mapping entries).IsLayer) (keyed : HasKeyedLeaves (.mapping entries))
    (isLeaf : leaf ∈ levelLeaves own entries) {name : String} (named : name ∈ names) :
    get? (leaf ++ [.key name]) (.mapping (droppedLevel names own entries)) = none ∧
      get? (leaf ++ [.key name]) (.mapping (pickedLevel names own entries)) =
        get? (leaf ++ [.key name]) (.mapping entries) := by
  induction leaf generalizing own entries with
  | nil =>
      have fields := (isLayer_mapping.mp layer).1
      have contains : names.contains name = true := List.contains_iff_mem.mpr named
      rw [nil_mem_levelLeaves] at isLeaf
      rw [List.nil_append, get?_key, get?_key, get?_key, at?_droppedLevel fields,
        at?_pickedLevel reserved fields, isLeaf, contains, reserved name named]
      exact ⟨rfl, rfl⟩
  | cons step below ih =>
      rcases isLayer_mapping.mp layer with ⟨fields, layers⟩
      rcases (cons_mem_levelLeaves fields).mp isLeaf with ⟨text, value, rfl, found, free, inside⟩
      have member := fields.at?_eq_some_iff.mp found
      have valueLayer : value.IsLayer := layers _ member
      have valueKeyed : HasKeyedLeaves value := keyed.of_mem member free
      rcases valueKeyed.eq_mapping valueLayer inside with ⟨inner, rfl⟩
      have innerFields := (isLayer_mapping.mp valueLayer).1
      rw [nodeLeaves_mapping] at inside
      rcases ih valueLayer valueKeyed inside with ⟨gone, taken⟩
      rw [List.cons_append, get?_dropped_below reserved fields found free,
        get?_picked_below reserved fields found free (by simp), get?_key_mapping, found,
        dropNode_mapping reserved innerFields, pickNode_mapping reserved innerFields]
      exact ⟨gone, taken⟩

theorem picksAt_isEmpty_iff (layer : value.IsLayer) :
    (picksAt names value leaf).isEmpty = true ↔
      ∀ name ∈ names, get? (leaf ++ [.key name]) value = none := by
  cases found : leaf.get? value with
  | none => simp [picksAt, get?_append, found]
  | some inner =>
      have innerLayer := layer.of_get? found
      cases mapping : inner.asMapping? with
      | none =>
          have nothing (name : String) : get? [.key name] inner = none := by
            cases inner with
            | mapping entries => cases mapping
            | tagged name inner => cases innerLayer.isTagFree
            | _ => rfl
          simp [picksAt, get?_append, found, mapping, nothing]
      | some entries =>
          have isMapping := eq_mapping_of_isTagFree innerLayer.isTagFree mapping
          subst isMapping
          have fields := (isLayer_mapping.mp innerLayer).1
          have here : picksAt names value leaf = picked names entries := by
            rw [picksAt, found]
            rfl
          rw [here, picked_isEmpty_iff]
          refine forall₂_congr fun name _ => ?_
          rw [fields.field?_eq_at?, get?_append, found, Option.bind_some, get?_key]

theorem hasPicks_iff (layer : value.IsLayer) :
    hasPicks names value = true ↔
      ∃ leaf ∈ nodeLeaves value, ∃ name ∈ names,
        (get? (leaf ++ [.key name]) value).isSome = true := by
  rw [hasPicks, List.any_eq_true]
  refine exists_congr fun leaf => and_congr_right fun _ => ?_
  rw [Bool.not_eq_true', ← Bool.not_eq_true, picksAt_isEmpty_iff layer]
  simp [Option.isSome_iff_ne_none]

theorem foundWithout_refl (found : Option Document) : FoundWithout [] found found := by
  cases found with
  | none => rfl
  | some value =>
      cases value with
      | mapping entries => exact ⟨entries, rfl, by simp⟩
      | _ => rfl

theorem not_own_of_elsewhere
    (elsewhere : ¬LeadsToEntry names (levelLeaves own entries) (.key text :: path)) :
    (own && names.contains text) = false := by
  rw [Bool.eq_false_iff]
  intro both
  rcases (Bool.and_eq_true _ _).mp both with ⟨isOwn, contains⟩
  apply elsewhere
  exact ⟨[], nil_mem_levelLeaves.mpr isOwn, text, List.contains_iff_mem.mp contains, path, rfl⟩

theorem elsewhere_below (fields : entries.HasFields) (found : entries.at? text = some value)
    (free : isReservedText text = false)
    (elsewhere : ¬LeadsToEntry names (levelLeaves own entries) (.key text :: path)) :
    ¬LeadsToEntry names (nodeLeaves value) path := by
  rintro ⟨leaf, isLeaf, name, named, upper⟩
  refine elsewhere ⟨.key text :: leaf, ?_, name, named, ?_⟩
  · exact (cons_mem_levelLeaves fields).mpr ⟨text, value, rfl, found, free, isLeaf⟩
  · exact (List.prefix_cons_inj _).mpr upper

/-- Under a key that is not reserved, the leaves are those of the value. -/
theorem cons_mem_iff (fields : entries.HasFields) (found : entries.at? text = some value)
    (free : isReservedText text = false) :
    .key text :: path ∈ levelLeaves own entries ↔ path ∈ nodeLeaves value := by
  rw [cons_mem_levelLeaves fields]
  constructor
  · rintro ⟨other, inner, same, otherFound, -, isLeaf⟩
    cases same
    cases found.symm.trans otherFound
    exact isLeaf
  · exact fun isLeaf => ⟨text, value, rfl, found, free, isLeaf⟩

/-- Away from the entries of the names in leaves, dropping leaves what is there. -/
theorem left_elsewhere (reserved : ∀ name ∈ names, isReservedText name = true)
    (layer : (Document.mapping entries).IsLayer) (keyed : HasKeyedLeaves (.mapping entries))
    (elsewhere : ¬LeadsToEntry names (levelLeaves own entries) path) :
    FoundWithout (if path ∈ levelLeaves own entries then names else [])
      (get? path (.mapping entries)) (get? path (.mapping (droppedLevel names own entries))) := by
  induction path generalizing own entries with
  | nil =>
      refine ⟨droppedLevel names own entries, rfl, ?_⟩
      rw [keys_droppedLevel]
      cases own with
      | true => rw [if_pos (nil_mem_levelLeaves.mpr rfl)]; rfl
      | false => rw [if_neg (by simp [nil_mem_levelLeaves])]; rfl
  | cons step rest ih =>
      rcases isLayer_mapping.mp layer with ⟨fields, layers⟩
      cases step with
      | index position => rfl
      | key text =>
          cases found : entries.at? text with
          | none =>
              rw [get?_key_mapping, get?_key_mapping, at?_droppedLevel fields, found]
              simp [FoundWithout]
          | some value =>
              cases free : isReservedText text with
              | true =>
                  have notLeaf : .key text :: rest ∉ levelLeaves own entries := by
                    rw [cons_mem_levelLeaves fields]
                    rintro ⟨other, inner, same, -, otherFree, -⟩
                    cases same
                    rw [free] at otherFree
                    cases otherFree
                  rw [if_neg notLeaf, get?_key_mapping, get?_key_mapping, at?_droppedLevel fields,
                    found, not_own_of_elsewhere elsewhere, free]
                  exact foundWithout_refl _
              | false =>
                  have member := fields.at?_eq_some_iff.mp found
                  have valueKeyed : HasKeyedLeaves value := keyed.of_mem member free
                  have below := elsewhere_below fields found free elsewhere
                  simp only [cons_mem_iff fields found free]
                  rw [get?_dropped_below reserved fields found free, get?_key_mapping, found]
                  cases isMapping : value.isMapping with
                  | true =>
                      rcases (layers _ member).eq_mapping isMapping with ⟨inner, rfl⟩
                      rw [dropNode_mapping reserved (isLayer_mapping.mp (layers _ member)).1]
                      exact ih (layers _ member) valueKeyed below
                  | false =>
                      have leafless := valueKeyed.nodeLeaves_eq_nil (layers _ member) isMapping
                      rw [dropNode_of_leafless leafless, leafless]
                      exact foundWithout_refl _

/-- Under a key, a path leads to a place if it leads to or towards one in the value. -/
theorem leadsToPlace_key (fields : entries.HasFields) :
    LeadsToPlace names (.mapping entries) (levelLeaves own entries) (.key text :: path) ↔
      ∃ value, entries.at? text = some value ∧ isReservedText text = false ∧
        ∃ leaf ∈ nodeLeaves value, path <+: leaf ∧
          ∃ name ∈ names, (get? (leaf ++ [.key name]) value).isSome = true := by
  constructor
  · rintro (isRoot | ⟨leaf, isLeaf, upper, name, named, picks⟩)
    · cases isRoot
    · cases leaf with
      | nil => cases List.prefix_nil.mp upper
      | cons step below =>
          rcases (cons_mem_levelLeaves fields).mp isLeaf with ⟨own, value, rfl, found, free, inside⟩
          rcases List.cons_prefix_cons.mp upper with ⟨same, onward⟩
          cases same
          rw [List.cons_append, get?_key_mapping, found] at picks
          exact ⟨value, found, free, below, inside, onward, name, named, picks⟩
  · rintro ⟨value, found, free, below, inside, onward, name, named, picks⟩
    refine .inr ⟨.key text :: below, (cons_mem_iff fields found free).mpr inside,
      List.cons_prefix_cons.mpr ⟨rfl, onward⟩, name, named, ?_⟩
    rw [List.cons_append, get?_key_mapping, found]
    exact picks

/-- Away from the entries of the names in leaves, picking has the mappings on the way to them. -/
theorem picked_elsewhere (reserved : ∀ name ∈ names, isReservedText name = true)
    (layer : (Document.mapping entries).IsLayer) (keyed : HasKeyedLeaves (.mapping entries))
    (elsewhere : ¬LeadsToEntry names (levelLeaves own entries) path) :
    (LeadsToPlace names (.mapping entries) (levelLeaves own entries) path →
      ∃ found, get? path (.mapping (pickedLevel names own entries)) = some (.mapping found)) ∧
    (¬LeadsToPlace names (.mapping entries) (levelLeaves own entries) path →
      get? path (.mapping (pickedLevel names own entries)) = none) := by
  induction path generalizing own entries with
  | nil => exact ⟨fun _ => ⟨_, rfl⟩, fun apart => absurd (.inl rfl) apart⟩
  | cons step rest ih =>
      rcases isLayer_mapping.mp layer with ⟨fields, layers⟩
      cases step with
      | index position =>
          refine ⟨?_, fun _ => rfl⟩
          rintro (isRoot | ⟨leaf, isLeaf, ⟨below, rfl⟩, -⟩)
          · cases isRoot
          · rcases (cons_mem_levelLeaves fields).mp isLeaf with ⟨text, value, same, -⟩
            cases same
      | key text =>
          rw [leadsToPlace_key fields, get?_key_mapping, at?_pickedLevel reserved fields]
          cases found : entries.at? text with
          | none => simp
          | some value =>
              cases free : isReservedText text with
              | true =>
                  rw [not_own_of_elsewhere elsewhere]
                  simp
              | false =>
                  have valueLayer : value.IsLayer := layers _ (fields.at?_eq_some_iff.mp found)
                  have valueKeyed : HasKeyedLeaves value :=
                    keyed.of_mem (fields.at?_eq_some_iff.mp found) free
                  have below := elsewhere_below fields found free elsewhere
                  have places := @hasPicks_iff names value valueLayer
                  cases picks : hasPicks names value with
                  | false =>
                      constructor
                      · rintro ⟨_, ⟨⟩, -, leaf, isLeaf, -, entry⟩
                        cases picks.symm.trans (places.mpr ⟨leaf, isLeaf, entry⟩)
                      · simp [picks]
                  | true =>
                      rcases places.mp picks with ⟨leaf, isLeaf, entry⟩
                      have isMapping := valueKeyed.isMapping_of_hasPicks valueLayer picks
                      rcases valueLayer.eq_mapping isMapping with ⟨inner, rfl⟩
                      have innerFields := (isLayer_mapping.mp valueLayer).1
                      rw [nodeLeaves_mapping] at below
                      rcases ih valueLayer valueKeyed below with ⟨toward, apart⟩
                      rw [← pickNode_mapping reserved innerFields] at toward apart
                      constructor
                      · rintro ⟨_, ⟨⟩, -, further⟩
                        simpa [picks] using toward (.inr further)
                      · intro elsewhere
                        have notPlace : ¬LeadsToPlace names (.mapping inner)
                            (levelLeaves (Mapping.hasField inner "type") inner) rest := by
                          rintro (rfl | further)
                          · exact elsewhere ⟨_, rfl, rfl, leaf, isLeaf, List.nil_prefix, entry⟩
                          · exact elsewhere ⟨_, rfl, rfl, further⟩
                        simpa [picks] using apart notPlace

/-! ## Documents -/

/-- The leaves of a document are those below its root. -/
theorem mem_leaves_mapping :
    leaf ∈ leaves (.mapping entries) ↔ leaf ∈ levelLeaves false entries := by
  rw [mem_leaves, pathsWhere_isLeaf]
  rfl

/--
For reserved names, and a document of mappings without leaves in sequences, what is dropped and
what is picked merge to the document up to the order of entries.  The entries of the names are
gone from each leaf and are all picked there.  Away from them dropping leaves the document as it
is, but for the keys that a leaf has lost, and picking has mappings on the way to the leaves with
such entries and nothing else.
-/
theorem drop_pick_complement (document : Document) (names : List String)
    (isMapping : document.isMapping = true) (layer : document.IsLayer)
    (keyed : ∀ leaf ∈ leaves document, ∀ step ∈ leaf, ∃ text, step = PathKey.key text)
    (reserved : ∀ name ∈ names, isReservedText name = true) :
    (document.Reordered (merge [drop names document, pick names document]) ∧
      document.beq (merge [drop names document, pick names document]) = true) ∧
    (∀ leaf ∈ leaves document, ∀ name ∈ names,
      get? (leaf ++ [.key name]) (drop names document) = none ∧
        get? (leaf ++ [.key name]) (pick names document) =
          get? (leaf ++ [.key name]) document) ∧
    ∀ path, ¬LeadsToEntry names (leaves document) path →
      FoundWithout (if path ∈ leaves document then names else []) (get? path document)
          (get? path (drop names document)) ∧
        (LeadsToPlace names document (leaves document) path →
          ∃ found, get? path (pick names document) = some (.mapping found)) ∧
        (¬LeadsToPlace names document (leaves document) path →
          get? path (pick names document) = none) := by
  rcases layer.eq_mapping isMapping with ⟨entries, rfl⟩
  have fields := (isLayer_mapping.mp layer).1
  have keyedLeaves : HasKeyedLeaves (.mapping entries) :=
    fun leaf isLeaf => keyed leaf (mem_leaves_mapping.mpr isLeaf)
  rw [drop_mapping fields, pick_mapping fields]
  refine ⟨?_, ?_, ?_⟩
  · have complement : Complement (.mapping entries) (.mapping (droppedLevel names false entries))
        (.mapping (pickedLevel names false entries)) := by
      apply complement_level reserved layer keyedLeaves
      intro key value member free isMapping
      exact complement_node reserved ((isLayer_mapping.mp layer).2 _ member)
        (keyedLeaves.of_mem member free) isMapping
    exact ⟨complement.merges, complement.merges.beq layer.isProper⟩
  · intro leaf isLeaf name named
    exact entry_at_leaf reserved layer keyedLeaves (mem_leaves_mapping.mp isLeaf) named
  · intro path elsewhere
    have sameEntry : LeadsToEntry names (levelLeaves false entries) path ↔
        LeadsToEntry names (leaves (.mapping entries)) path := by
      simp only [LeadsToEntry, mem_leaves_mapping]
    have samePlace : LeadsToPlace names (.mapping entries) (levelLeaves false entries) path ↔
        LeadsToPlace names (.mapping entries) (leaves (.mapping entries)) path := by
      simp only [LeadsToPlace, mem_leaves_mapping]
    rw [← sameEntry] at elsewhere
    simp only [mem_leaves_mapping, ← samePlace]
    exact ⟨left_elsewhere reserved layer keyedLeaves elsewhere,
      picked_elsewhere reserved layer keyedLeaves elsewhere⟩

/-- A leaf with two leaves inside, one of them a level further down, and a leaf beside it. -/
def serviceRules : Document :=
  .mapping
    [ (.string "service", .mapping
        [ (.string "type", .string "dict"),
          (.string "port", .mapping
            [(.string "type", .string "int"), (.string "doc", .string "where it listens")]),
          (.string "doc", .string "what runs"),
          (.string "limits", branchOf
            [("memory", .mapping
              [(.string "default", .ofInt64 64), (.string "type", .string "int")])]) ]),
      (.string "owner", leafOf "str") ]

theorem drop_pick_complement_service :
    let names := ["doc", "default"]
    serviceRules.isMapping = true ∧ serviceRules.IsLayer ∧
      (∀ leaf ∈ leaves serviceRules, ∀ step ∈ leaf, ∃ text, step = PathKey.key text) ∧
      (∀ name ∈ names, isReservedText name = true) ∧
      serviceRules.beq (merge [drop names serviceRules, pick names serviceRules]) = true ∧
      get? ([.key "service"] ++ [.key "doc"]) (drop names serviceRules) = none ∧
      get? ([.key "service"] ++ [.key "doc"]) (pick names serviceRules) =
        some (.string "what runs") ∧
      pick names serviceRules =
        .mapping
          [(.string "service", .mapping
            [ (.string "doc", .string "what runs"),
              (.string "port", branchOf [("doc", .string "where it listens")]),
              (.string "limits", branchOf
                [("memory", branchOf [("default", .ofInt64 64)])]) ])] := by
  have layer : serviceRules.IsLayer :=
    ⟨by decide +kernel, by decide +kernel, by decide +kernel⟩
  have paths : pathsWhere isLeaf serviceRules =
      [[.key "service"], [.key "service", .key "port"],
        [.key "service", .key "limits", .key "memory"], [.key "owner"]] := by decide +kernel
  have keyed : ∀ leaf ∈ leaves serviceRules, ∀ step ∈ leaf, ∃ text, step = PathKey.key text := by
    intro leaf isLeaf
    rw [mem_leaves, paths] at isLeaf
    simp only [List.mem_cons, List.not_mem_nil, or_false] at isLeaf
    rcases isLeaf with rfl | rfl | rfl | rfl <;> simp
  have reserved : ∀ name ∈ ["doc", "default"], isReservedText name = true := by decide
  have isLeaf : [.key "service"] ∈ leaves serviceRules := by
    rw [mem_leaves, paths]
    exact List.mem_cons_self
  rcases drop_pick_complement serviceRules ["doc", "default"] rfl layer keyed reserved with
    ⟨⟨-, same⟩, atLeaf, -⟩
  rcases atLeaf _ isLeaf "doc" List.mem_cons_self with ⟨gone, taken⟩
  exact ⟨rfl, layer, keyed, reserved, same, gone, taken, rfl⟩

end Rule

end RuleSchema
