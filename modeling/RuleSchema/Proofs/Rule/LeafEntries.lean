import RuleSchema.Proofs.Document.Fields
import RuleSchema.Proofs.Rule.Changes
import RuleSchema.Rule.LeafEntry

/-!
# Entries of leaves, level by level

Dropping and picking the entries of leaves goes through the paths of all leaves.  Here both are
described one level at a time: in a mapping the entries under reserved keys are left alone, and
under each other key the leaves at the value and inside it are treated from there.  A leaf that
stands at the mapping itself loses the entries of the given names, or has exactly these picked.
-/

namespace RuleSchema

/-- The location as it is reached through a path. -/
def Location.below (base : DocPath) (location : Location) : Location :=
  ⟨base ++ location.container, location.key, location.value⟩

theorem Location.path_below (base : DocPath) (location : Location) :
    (location.below base).path = base ++ location.path := by
  rcases location with ⟨container, key, value⟩
  cases key with
  | none => rfl
  | some step => exact List.append_assoc base container [step]

namespace Document

mutual

theorem inside_append (base above : DocPath) :
    ∀ document, inside (base ++ above) document = (inside above document).map (·.below base)
  | .mapping entries => by
      rw [inside, inside]
      exact insideEntries_append base above entries
  | .sequence items => by
      rw [inside, inside]
      exact insideItems_append base above 0 items
  | .tagged _ inner => by
      rw [inside, inside]
      exact inside_append base above inner
  | .null => rfl
  | .bool _ => rfl
  | .number _ => rfl
  | .string _ => rfl

theorem insideEntries_append (base above : DocPath) :
    ∀ entries, insideEntries (base ++ above) entries =
      (insideEntries above entries).map (·.below base)
  | [] => rfl
  | (key, value) :: rest => by
      have here := inside_append base (above.child (PathKey.ofDocument key)) value
      rw [DocPath.child, ← List.append_assoc] at here
      rw [insideEntries, insideEntries, insideEntries_append base above rest, List.map_cons,
        List.map_append, DocPath.child, DocPath.child, here]
      rfl

theorem insideItems_append (base above : DocPath) (position : Nat) :
    ∀ items, insideItems (base ++ above) position items =
      (insideItems above position items).map (·.below base)
  | [] => rfl
  | item :: rest => by
      have here := inside_append base (above.child (.index position)) item
      rw [DocPath.child, ← List.append_assoc] at here
      rw [insideItems, insideItems, insideItems_append base above (position + 1) rest,
        List.map_cons, List.map_append, DocPath.child, DocPath.child, here]
      rfl

end

end Document

namespace Rule

variable {names : List String} {entries before after built whole : Mapping} {text : String}
  {value document : Document} {base path : DocPath} {paths : List DocPath}

/-- No key that is not reserved is among reserved names. -/
theorem contains_eq_false (reserved : ∀ name ∈ names, isReservedText name = true)
    (free : isReservedText text = false) : names.contains text = false := by
  rw [Bool.eq_false_iff]
  intro named
  rw [reserved text (List.contains_iff_mem.mp named)] at free
  cases free

/-! ## Leaves from a node -/

theorem isLeaf_below (free : IsFree base) (location : Location) :
    isLeaf (location.below base) = isLeaf location := by
  have none : base.any isReserved = false :=
    List.any_eq_false.mpr fun step member => by simp [free step member]
  rcases location with ⟨container, key, value⟩
  cases key with
  | none => rfl
  | some step => simp [isLeaf, isNode, Location.below, none]

theorem leavesInside_eq (free : IsFree base) (document : Document) :
    leavesInside base document = (leavesInside [] document).map (base ++ ·) := by
  have shifted := Document.inside_append base [] document
  rw [List.append_nil] at shifted
  have test : isLeaf ∘ Location.below base = isLeaf := funext (isLeaf_below free)
  have path : Location.path ∘ Location.below base = (base ++ ·) ∘ Location.path :=
    funext (Location.path_below base)
  rw [leavesInside, leavesInside, shifted, List.filter_map, test, List.map_map, path,
    List.map_map]

theorem leavesInside_eq_nil (notFree : ¬IsFree base) (document : Document) :
    leavesInside base document = [] := by
  rw [List.eq_nil_iff_forall_not_mem]
  intro path member
  rcases List.mem_map.mp member with ⟨location, passes, rfl⟩
  rcases List.mem_filter.mp passes with ⟨visited, leaf⟩
  have node : isNode location = true := ((Bool.and_eq_true _ _).mp leaf).1
  rcases isNode_iff.mp node with ⟨step, last, free⟩
  have lower := isAncestorOf_of_mem_leavesInside member
  rcases DocPath.isAncestorOf_iff.mp lower with ⟨rest, -, parts⟩
  rw [path_of_key last] at parts
  rw [parts] at free
  exact notFree free.of_append

/-- The leaves at a node and inside it, from there. -/
def nodeLeaves (value : Document) : List DocPath :=
  (if describesValue value then [[]] else []) ++ leavesInside [] value

theorem leavesInside_cons (key value : Document) (rest : Mapping) :
    leavesInside [] (.mapping ((key, value) :: rest)) =
      (if isReservedText key.keyText then []
        else (nodeLeaves value).map (PathKey.ofDocument key :: ·)) ++
        leavesInside [] (.mapping rest) := by
  have first : leavesInside [] (.mapping ((key, value) :: rest)) =
      leavesAt [] (PathKey.ofDocument key) value ++ leavesInside [] (.mapping rest) := by
    simp only [leavesInside, leavesAt, Document.inside, Document.insideEntries, List.filter_cons,
      List.filter_append]
    split <;> simp [Location.path]
  rw [first]
  congr 1
  have step : isReserved (PathKey.ofDocument key) = isReservedText key.keyText := rfl
  have own : isLeaf ⟨[], some (PathKey.ofDocument key), value⟩ =
      (!isReservedText key.keyText && describesValue value) := by
    simp [isLeaf, isNode, step, describesValue]
  rw [leavesAt, own, nodeLeaves]
  cases reserved : isReservedText key.keyText with
  | true =>
      have notFree : ¬IsFree (DocPath.child [] (PathKey.ofDocument key)) := by
        intro free
        have here := free (PathKey.ofDocument key) List.mem_cons_self
        rw [step, reserved] at here
        cases here
      rw [leavesInside_eq_nil notFree]
      rfl
  | false =>
      have free : IsFree (DocPath.child [] (PathKey.ofDocument key)) := by
        intro other member
        rw [List.mem_singleton.mp member, step, reserved]
      rw [leavesInside_eq free]
      cases describesValue value <;> rfl

/-! ## Dropping entries -/

/-- A node without the entries of the given names in its leaves. -/
def dropNode (names : List String) (value : Document) : Document :=
  (nodeLeaves value).foldl (dropLeaf names) value

/-- An entry with the names dropped from its value; reserved entries stay as they are. -/
def dropEntry (names : List String) (entry : Document × Document) : Document × Document :=
  (entry.1, if isReservedText entry.1.keyText then entry.2 else dropNode names entry.2)

/-- Below a key, one leaf is treated in the value under the key. -/
theorem dropLeaf_at (fields : Mapping.HasFields (before ++ (.string text, value) :: after))
    (path : DocPath) :
    dropLeaf names (.mapping (before ++ (.string text, value) :: after)) (.key text :: path) =
      .mapping (before ++ (.string text, dropLeaf names value path) :: after) := by
  have found : Mapping.at? (before ++ (.string text, value) :: after) text = some value :=
    fields.at?_eq_some_iff.mpr (by simp)
  have reached : DocPath.get? (.key text :: path)
      (.mapping (before ++ (.string text, value) :: after)) = path.get? value := by
    rw [DocPath.get?, found]
  have replaced (new : Document) : DocPath.replace? new (.key text :: path)
      (.mapping (before ++ (.string text, value) :: after)) =
        (path.replace? new value).map fun inner =>
          .mapping (before ++ (.string text, inner) :: after) := by
    rw [DocPath.replace?, found]
    simp only [fields.put_eq]
  rw [dropLeaf, dropLeaf, reached]
  split
  · next inner hit =>
    rw [replaced, DocPath.replace?_eq, hit]
    rfl
  · rfl

theorem foldl_dropLeaf_at (paths : List DocPath)
    (fields : Mapping.HasFields (before ++ (.string text, value) :: after)) :
    (paths.map (.key text :: ·)).foldl (dropLeaf names)
        (.mapping (before ++ (.string text, value) :: after)) =
      .mapping (before ++ (.string text, paths.foldl (dropLeaf names) value) :: after) := by
  induction paths generalizing value with
  | nil => rfl
  | cons path rest ih =>
      rw [List.map_cons, List.foldl_cons, List.foldl_cons, dropLeaf_at fields]
      apply ih
      apply fields.of_keys_eq
      simp

theorem foldl_dropLeaf_mapping (fields : Mapping.HasFields (before ++ entries)) :
    (leavesInside [] (.mapping entries)).foldl (dropLeaf names) (.mapping (before ++ entries)) =
      .mapping (before ++ entries.map (dropEntry names)) := by
  induction entries generalizing before with
  | nil => rfl
  | cons entry rest ih =>
      rcases entry with ⟨key, value⟩
      have isKey := fields.key_eq (List.mem_append_right before List.mem_cons_self)
      have later (new : Document) :
          (leavesInside [] (.mapping rest)).foldl (dropLeaf names)
              (.mapping (before ++ (key, new) :: rest)) =
            .mapping (before ++ (key, new) :: rest.map (dropEntry names)) := by
        have moved : Mapping.HasFields ((before ++ [(key, new)]) ++ rest) := by
          apply fields.of_keys_eq
          simp
        have whole := ih moved
        rw [List.append_assoc, List.append_assoc] at whole
        exact whole
      rw [leavesInside_cons, List.foldl_append, List.map_cons, dropEntry]
      dsimp only
      split
      · exact later value
      · rw [isKey] at fields
        have here := @foldl_dropLeaf_at names _ _ _ _ (nodeLeaves value) fields
        rw [← isKey] at here
        rw [PathKey.ofDocument, here]
        exact later _

/-- A mapping after dropping, and whether there is a leaf at the mapping itself. -/
def droppedLevel (names : List String) (own : Bool) (entries : Mapping) : Mapping :=
  (entries.filter fun entry => !(own && names.contains entry.1.keyText)).map (dropEntry names)

theorem droppedLevel_root : droppedLevel names false entries = entries.map (dropEntry names) := by
  simp [droppedLevel]

/-- At the root there is no leaf. -/
theorem drop_mapping (fields : entries.HasFields) :
    drop names (.mapping entries) = .mapping (droppedLevel names false entries) := by
  rw [drop, pathsWhere_isLeaf, droppedLevel_root]
  exact @foldl_dropLeaf_mapping names _ [] fields

/-- Entries under reserved keys do not matter to the leaves. -/
theorem leavesInside_filter (reserved : ∀ name ∈ names, isReservedText name = true)
    (entries : Mapping) :
    leavesInside [] (.mapping (entries.filter fun entry => !names.contains entry.1.keyText)) =
      leavesInside [] (.mapping entries) := by
  induction entries with
  | nil => rfl
  | cons entry rest ih =>
      rcases entry with ⟨key, value⟩
      cases named : names.contains key.keyText with
      | true =>
          have isReserved := reserved _ (List.contains_iff_mem.mp named)
          rw [List.filter_cons_of_neg (by simpa using named), ih, leavesInside_cons, isReserved]
          rfl
      | false =>
          rw [List.filter_cons_of_pos (by simpa using named), leavesInside_cons, leavesInside_cons,
            ih]

/-- At a node there is a leaf if it has a `type`. -/
theorem dropNode_mapping (reserved : ∀ name ∈ names, isReservedText name = true)
    (fields : entries.HasFields) :
    dropNode names (.mapping entries) =
      .mapping (droppedLevel names (entries.hasField "type") entries) := by
  rw [dropNode, nodeLeaves, describesValue_mapping]
  cases entries.hasField "type" with
  | false =>
      rw [droppedLevel_root]
      exact @foldl_dropLeaf_mapping names _ [] fields
  | true =>
      have kept : Mapping.HasFields
          (entries.filter fun entry => !names.contains entry.1.keyText) :=
        fields.of_sublist List.filter_sublist
      have own : dropLeaf names (.mapping entries) [] =
          .mapping (entries.filter fun entry => !names.contains entry.1.keyText) :=
        congrArg Document.mapping fields.foldl_eraseField
      rw [if_pos rfl, List.singleton_append, List.foldl_cons, own,
        ← leavesInside_filter reserved]
      exact @foldl_dropLeaf_mapping names _ [] kept

theorem dropNode_of_leafless (leafless : nodeLeaves value = []) : dropNode names value = value := by
  rw [dropNode, leafless]
  rfl

/-! ## Picking entries -/

theorem picked_concat (names : List String) (name : String) (entries : Mapping) :
    picked (names ++ [name]) entries =
      match entries.field? name with
      | none => picked names entries
      | some value => (picked names entries).insert (.string name) value := by
  rw [picked, picked, List.filterMap_append, Mapping.ofEntries, Mapping.ofEntries,
    List.foldl_append]
  cases found : entries.field? name <;> simp [found]

theorem hasFields_picked (names : List String) (entries : Mapping) :
    (picked names entries).HasFields := by
  induction names using List.reverseRecOn with
  | nil => exact ⟨by simp [picked, Mapping.ofEntries], by simp [picked, Mapping.ofEntries]⟩
  | append_singleton earlier name ih =>
      rw [picked_concat]
      cases entries.field? name with
      | none => exact ih
      | some value =>
          dsimp only
          rw [ih.insert_eq_put]
          exact ih.put name value

/-- The picked entries are those of the given names. -/
theorem at?_picked (names : List String) (entries : Mapping) (text : String) :
    (picked names entries).at? text =
      if names.contains text then entries.field? text else none := by
  induction names using List.reverseRecOn with
  | nil => rfl
  | append_singleton earlier name ih =>
      have step : (picked (earlier ++ [name]) entries).at? text =
          if text = name then (entries.field? text).or ((picked earlier entries).at? text)
          else (picked earlier entries).at? text := by
        rw [picked_concat]
        by_cases same : text = name
        · subst same
          rw [if_pos rfl]
          cases found : entries.field? text with
          | none => rfl
          | some value =>
              dsimp only
              rw [(hasFields_picked earlier entries).insert_eq_put, Mapping.at?_put_self]
              rfl
        · rw [if_neg same]
          cases found : entries.field? name with
          | none => rfl
          | some value =>
              dsimp only
              rw [(hasFields_picked earlier entries).insert_eq_put, Mapping.at?_put_of_ne same]
      rw [step, ih, List.contains_append]
      by_cases same : text = name
      · subst same
        cases entries.field? text <;> simp
      · simp [same]

/-- What is picked from the place of a path. -/
def picksAt (names : List String) (document : Document) (path : DocPath) : Mapping :=
  match (path.get? document).bind Document.asMapping? with
  | none => []
  | some entries => picked names entries

theorem pickLeaf_eq (document built : Document) (path : DocPath) :
    pickLeaf document names built path =
      if (picksAt names document path).isEmpty then built
      else (path.assign (.mapping (picksAt names document path)) built).2 := by
  rw [pickLeaf, picksAt]
  cases (path.get? document).bind Document.asMapping? <;> rfl

/-- Whether a leaf at a node or inside it has an entry of the given names. -/
def hasPicks (names : List String) (value : Document) : Bool :=
  (nodeLeaves value).any fun leaf => !(picksAt names value leaf).isEmpty

/-- The entries of the given names in the leaves at a node and inside it. -/
def pickNode (names : List String) (value : Document) : Document :=
  (nodeLeaves value).foldl (pickLeaf value names) (.mapping [])

/-- What is picked from an entry, if anything is; nothing is from reserved ones. -/
def pickEntry (names : List String) (entry : Document × Document) : Option (Document × Document) :=
  if isReservedText entry.1.keyText || !hasPicks names entry.2 then none
  else some (entry.1, pickNode names entry.2)

theorem picksAt_cons (found : whole.at? text = some value) (path : DocPath) :
    picksAt names (.mapping whole) (.key text :: path) = picksAt names value path := by
  rw [picksAt, picksAt, DocPath.get?, found]

/-- Below a key that is there, a leaf is picked into the value under the key. -/
theorem pickLeaf_at (fields : Mapping.HasFields (built ++ [(.string text, document)]))
    (found : whole.at? text = some value) (path : DocPath) :
    pickLeaf (.mapping whole) names (.mapping (built ++ [(.string text, document)]))
        (.key text :: path) =
      .mapping (built ++ [(.string text, pickLeaf value names document path)]) := by
  have present : Mapping.at? (built ++ [(.string text, document)]) text = some document :=
    fields.at?_eq_some_iff.mpr (by simp)
  rw [pickLeaf_eq, pickLeaf_eq, picksAt_cons found]
  split
  · rfl
  · rw [DocPath.assign_key rfl, present]
    dsimp only [Option.getD_some]
    rw [fields.put_eq]

/-- Below a key that is not there yet, the key comes with the first leaf that has entries. -/
theorem pickLeaf_new (absent : built.at? text = none) (found : whole.at? text = some value)
    (path : DocPath) :
    pickLeaf (.mapping whole) names (.mapping built) (.key text :: path) =
      if (picksAt names value path).isEmpty then .mapping built
      else .mapping (built ++ [(.string text, pickLeaf value names (.mapping []) path)]) := by
  rw [pickLeaf_eq, pickLeaf_eq, picksAt_cons found]
  split
  · rfl
  · rw [DocPath.assign_key rfl, absent, Mapping.put, absent]
    rfl

theorem foldl_pickLeaf_at (paths : List DocPath)
    (fields : Mapping.HasFields (built ++ [(.string text, document)]))
    (found : whole.at? text = some value) :
    (paths.map (.key text :: ·)).foldl (pickLeaf (.mapping whole) names)
        (.mapping (built ++ [(.string text, document)])) =
      .mapping (built ++ [(.string text, paths.foldl (pickLeaf value names) document)]) := by
  induction paths generalizing document with
  | nil => rfl
  | cons path rest ih =>
      rw [List.map_cons, List.foldl_cons, List.foldl_cons, pickLeaf_at fields found]
      apply ih
      apply fields.of_keys_eq
      simp

theorem foldl_pickLeaf_new (paths : List DocPath) (fields : built.HasFields)
    (absent : built.at? text = none) (found : whole.at? text = some value) :
    (paths.map (.key text :: ·)).foldl (pickLeaf (.mapping whole) names) (.mapping built) =
      if paths.any fun path => !(picksAt names value path).isEmpty then
        .mapping (built ++ [(.string text, paths.foldl (pickLeaf value names) (.mapping []))])
      else .mapping built := by
  induction paths with
  | nil => rfl
  | cons path rest ih =>
      rw [List.map_cons, List.foldl_cons, List.foldl_cons, pickLeaf_new absent found, List.any_cons]
      cases empty : (picksAt names value path).isEmpty with
      | true =>
          have unchanged : pickLeaf value names (.mapping []) path = .mapping [] := by
            rw [pickLeaf_eq, if_pos empty]
          rw [if_pos rfl, ih, unchanged]
          rfl
      | false =>
          have appended := fields.append_absent absent (pickLeaf value names (.mapping []) path)
          rw [if_neg Bool.false_ne_true, foldl_pickLeaf_at rest appended found]
          rfl

theorem foldl_pickLeaf_mapping (fields : entries.HasFields) (builtFields : built.HasFields)
    (inside : ∀ entry ∈ entries, whole.at? entry.1.keyText = some entry.2)
    (fresh : ∀ entry ∈ entries, isReservedText entry.1.keyText = false →
      built.at? entry.1.keyText = none) :
    (leavesInside [] (.mapping entries)).foldl (pickLeaf (.mapping whole) names)
        (.mapping built) =
      .mapping (built ++ entries.filterMap (pickEntry names)) := by
  induction entries generalizing built with
  | nil => exact congrArg Document.mapping (List.append_nil built).symm
  | cons entry rest ih =>
      rcases entry with ⟨key, value⟩
      have isKey := fields.key_eq List.mem_cons_self
      have found : whole.at? key.keyText = some value := inside _ List.mem_cons_self
      have restFields := fields.of_sublist (List.sublist_cons_self _ rest)
      have restInside : ∀ entry ∈ rest, whole.at? entry.1.keyText = some entry.2 :=
        fun other member => inside other (List.mem_cons_of_mem _ member)
      have restFresh : ∀ entry ∈ rest, isReservedText entry.1.keyText = false →
          built.at? entry.1.keyText = none :=
        fun other member => fresh other (List.mem_cons_of_mem _ member)
      rw [leavesInside_cons, List.foldl_append]
      cases reserved : isReservedText key.keyText with
      | true =>
          rw [List.filterMap_cons_none (by rw [pickEntry, reserved]; rfl)]
          exact ih restFields builtFields restInside restFresh
      | false =>
          have absent : built.at? key.keyText = none := fresh _ List.mem_cons_self reserved
          have here := @foldl_pickLeaf_new names _ _ _ _ (nodeLeaves value) builtFields absent found
          rw [if_neg Bool.false_ne_true, PathKey.ofDocument, here]
          cases some : hasPicks names value with
          | false =>
              rw [List.filterMap_cons_none (by simp [pickEntry, some])]
              rw [hasPicks] at some
              rw [some]
              exact ih restFields builtFields restInside restFresh
          | true =>
              have own : pickEntry names (key, value) =
                  .some (.string key.keyText, pickNode names value) := by
                rw [pickEntry, reserved, some, ← isKey]
                rfl
              rw [List.filterMap_cons_some own]
              rw [hasPicks] at some
              rw [some, if_pos rfl]
              have appended := builtFields.append_absent absent (pickNode names value)
              have stillFresh : ∀ entry ∈ rest, isReservedText entry.1.keyText = false →
                  Mapping.at? (built ++ [(.string key.keyText, pickNode names value)])
                    entry.1.keyText = none := by
                intro other member free
                have different : other.1.keyText ≠ key.keyText := by
                  intro same
                  apply (List.nodup_cons.mp fields.distinct).1
                  exact List.mem_map.mpr ⟨other, member, same⟩
                have stored : built ++ [(.string key.keyText, pickNode names value)] =
                    built.put key.keyText (pickNode names value) := by
                  rw [Mapping.put, absent]
                  rfl
                rw [stored, Mapping.at?_put_of_ne different]
                exact restFresh other member free
              have others := ih restFields appended restInside stillFresh
              rw [List.append_assoc] at others
              exact others

/-- What is picked from a mapping, and whether there is a leaf at the mapping itself. -/
def pickedLevel (names : List String) (own : Bool) (entries : Mapping) : Mapping :=
  (if own then picked names entries else []) ++ entries.filterMap (pickEntry names)

/-- At the root there is no leaf. -/
theorem pick_mapping (fields : entries.HasFields) :
    pick names (.mapping entries) = .mapping (pickedLevel names false entries) := by
  rw [pick, pathsWhere_isLeaf]
  refine foldl_pickLeaf_mapping fields ⟨by simp, by simp⟩ ?_ fun _ _ _ => rfl
  rintro ⟨key, value⟩ member
  apply fields.at?_eq_some_iff.mpr
  rw [← fields.key_eq member]
  exact member

/-- At a node there is a leaf if it has a `type`. -/
theorem pickNode_mapping (reserved : ∀ name ∈ names, isReservedText name = true)
    (fields : entries.HasFields) :
    pickNode names (.mapping entries) =
      .mapping (pickedLevel names (entries.hasField "type") entries) := by
  have own := hasFields_picked names entries
  have fresh : ∀ entry ∈ entries, isReservedText entry.1.keyText = false →
      (picked names entries).at? entry.1.keyText = none := by
    intro entry _ free
    rw [at?_picked, contains_eq_false reserved free]
    rfl
  have inside : ∀ entry ∈ entries, entries.at? entry.1.keyText = some entry.2 := by
    rintro ⟨key, value⟩ member
    apply fields.at?_eq_some_iff.mpr
    rw [← fields.key_eq member]
    exact member
  have first : pickLeaf (.mapping entries) names (.mapping []) [] =
      .mapping (picked names entries) := by
    have here : picksAt names (.mapping entries) [] = picked names entries := rfl
    rw [pickLeaf_eq, here]
    split
    · next empty => rw [List.isEmpty_iff.mp empty]
    · rfl
  rw [pickNode, nodeLeaves, describesValue_mapping, pickedLevel]
  cases entries.hasField "type" with
  | false => exact foldl_pickLeaf_mapping fields ⟨by simp, by simp⟩ inside fun _ _ _ => rfl
  | true =>
      rw [if_pos rfl, if_pos rfl, List.singleton_append, List.foldl_cons, first]
      exact foldl_pickLeaf_mapping fields own inside fresh

/-! ## Looking into a level -/

variable {own : Bool}

theorem keys_droppedLevel :
    (droppedLevel names own entries).map Prod.fst =
      (entries.map Prod.fst).filter fun key => !(own && names.contains key.keyText) := by
  rw [droppedLevel, List.map_map, List.filter_map]
  rfl

theorem droppedLevel_eq :
    droppedLevel names own entries = entries.filterMap fun entry =>
      if own && names.contains entry.1.keyText then none else some (dropEntry names entry) := by
  rw [droppedLevel, ← List.filterMap_eq_map, List.filterMap_filter]
  apply List.filterMap_congr
  intro entry _
  cases own && names.contains entry.1.keyText <;> rfl

theorem fst_of_dropped {entry changed : Document × Document}
    (given : (if own && names.contains entry.1.keyText then none
      else some (dropEntry names entry)) = some changed) : changed.1 = entry.1 := by
  split at given
  · cases given
  · cases given
    rfl

theorem hasFields_droppedLevel (fields : entries.HasFields) :
    (droppedLevel names own entries).HasFields := by
  rw [droppedLevel_eq]
  exact fields.filterMap fun _ _ => fst_of_dropped

theorem at?_droppedLevel (fields : entries.HasFields) (text : String) :
    (droppedLevel names own entries).at? text =
      if own && names.contains text then none
      else (entries.at? text).map fun value =>
        if isReservedText text then value else dropNode names value := by
  rw [droppedLevel_eq, fields.at?_filterMap fun _ _ => fst_of_dropped]
  cases entries.at? text with
  | none => simp
  | some value =>
      rw [Option.bind_some, Option.map_some, Document.keyText]
      split <;> rfl

theorem fst_of_pickEntry {entry changed : Document × Document}
    (given : pickEntry names entry = some changed) : changed.1 = entry.1 := by
  rw [pickEntry] at given
  split at given
  · cases given
  · cases given
    rfl

theorem not_reserved_of_pickEntry {entry changed : Document × Document}
    (given : pickEntry names entry = some changed) : isReservedText changed.1.keyText = false := by
  have key := fst_of_pickEntry given
  rw [pickEntry] at given
  split at given
  · cases given
  · next picks =>
    rw [key]
    simp only [Bool.or_eq_true, not_or, Bool.not_eq_true] at picks
    exact picks.1

theorem mem_names_of_mem_picked {entry : Document × Document}
    (member : entry ∈ picked names entries) : entry.1.keyText ∈ names := by
  have fields := hasFields_picked names entries
  have own : (.string entry.1.keyText, entry.2) ∈ picked names entries := by
    rw [← fields.key_eq member]
    exact member
  have found := fields.at?_eq_some_iff.mpr own
  rw [at?_picked] at found
  split at found
  · next named => exact List.contains_iff_mem.mp named
  · cases found

theorem hasFields_pickedLevel (reserved : ∀ name ∈ names, isReservedText name = true)
    (fields : entries.HasFields) : (pickedLevel names own entries).HasFields := by
  have below : Mapping.HasFields (entries.filterMap (pickEntry names)) :=
    fields.filterMap fun _ _ => fst_of_pickEntry
  cases own with
  | false => exact below
  | true =>
      refine Mapping.HasFields.append_iff.mpr ⟨hasFields_picked names entries, below, ?_⟩
      intro entry member other isOther same
      rcases List.mem_filterMap.mp isOther with ⟨_, -, given⟩
      have free := not_reserved_of_pickEntry given
      rw [← same, reserved _ (mem_names_of_mem_picked member)] at free
      cases free

theorem at?_pickedLevel (reserved : ∀ name ∈ names, isReservedText name = true)
    (fields : entries.HasFields) (text : String) :
    (pickedLevel names own entries).at? text =
      if isReservedText text then if own && names.contains text then entries.at? text else none
      else (entries.at? text).bind fun value =>
        if hasPicks names value then some (pickNode names value) else none := by
  have below : Mapping.at? (entries.filterMap (pickEntry names)) text =
      if isReservedText text then none
      else (entries.at? text).bind fun value =>
        if hasPicks names value then some (pickNode names value) else none := by
    rw [fields.at?_filterMap fun _ _ => fst_of_pickEntry]
    cases entries.at? text with
    | none => simp
    | some value =>
        rw [Option.bind_some, Option.bind_some, pickEntry, Document.keyText]
        cases isReservedText text <;> cases hasPicks names value <;> rfl
  have fieldsHere := @hasFields_pickedLevel names entries own reserved fields
  rw [pickedLevel] at fieldsHere ⊢
  rw [fieldsHere.at?_append, below]
  cases own with
  | false => cases isReservedText text <;> rfl
  | true =>
      rw [if_pos rfl, at?_picked, fields.field?_eq_at?, Bool.true_and]
      cases free : isReservedText text with
      | true => exact Option.or_none
      | false =>
          rw [contains_eq_false reserved free]
          rfl

end Rule

end RuleSchema
