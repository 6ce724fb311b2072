import Mathlib.Data.List.Basic
import RuleSchema.Proofs.Rule.Records
import RuleSchema.Rule.Optional

/-!
# Pruned rules

Dropping rules at one path after another leaves what a single pass leaves that skips the
fields at those paths.  The pass follows the records of the rules, so that what it keeps, and
where, is shown by induction on them.
-/

namespace RuleSchema.Rule

mutual

/-- The value at a path without the fields at some paths in its records. -/
def prune (gone : List DocPath) (path : DocPath) : Document → Document
  | .mapping entries =>
      if Mapping.hasField entries "type" then .mapping entries
      else .mapping (pruneEntries gone path entries)
  | value => value

/-- The entries of the record at a path without the fields at some paths. -/
def pruneEntries (gone : List DocPath) (path : DocPath) :
    List (Document × Document) → List (Document × Document)
  | [] => []
  | (key, value) :: rest =>
      if isReservedText key.keyText then (key, value) :: pruneEntries gone path rest
      else if path.child (PathKey.ofDocument key) ∈ gone then pruneEntries gone path rest
      else
        (key, prune gone (path.child (PathKey.ofDocument key)) value) ::
          pruneEntries gone path rest

end

variable {rules value other : Document} {entries : Mapping} {gone : List DocPath}
  {path above below : DocPath} {key : Document}

/-! ## What is kept -/

theorem prune_of_typed (typed : describesValue value = true) : prune gone path value = value := by
  cases value with
  | mapping entries =>
      rw [describesValue_mapping] at typed
      rw [prune, if_pos typed]
  | _ => rfl

theorem prune_record (untyped : entries.hasField "type" = false) :
    prune gone path (.mapping entries) = .mapping (pruneEntries gone path entries) := by
  rw [prune, if_neg (by simp [untyped])]

/-- What pruning makes of an entry of the record at a path. -/
def pruneEntry (gone : List DocPath) (path : DocPath) (entry : Document × Document) :
    Option (Document × Document) :=
  if isReservedText entry.1.keyText then some entry
  else if path.child (PathKey.ofDocument entry.1) ∈ gone then none
  else some (entry.1, prune gone (path.child (PathKey.ofDocument entry.1)) entry.2)

theorem pruneEntries_eq :
    pruneEntries gone path entries = entries.filterMap (pruneEntry gone path) := by
  induction entries with
  | nil => rfl
  | cons entry rest ih =>
      rw [List.filterMap_cons, pruneEntry, pruneEntries, ih]
      by_cases reserved : isReservedText entry.1.keyText = true
      · simp [reserved]
      · by_cases isGone : path.child (PathKey.ofDocument entry.1) ∈ gone <;> simp [reserved, isGone]

/-- A pruned record has its reserved entries, and the fields that are kept, pruned. -/
theorem mem_pruneEntries_iff :
    (key, value) ∈ pruneEntries gone path entries ↔
      (isReservedText key.keyText = true ∧ (key, value) ∈ entries) ∨
        isReservedText key.keyText = false ∧ path.child (PathKey.ofDocument key) ∉ gone ∧
          ∃ inner, (key, inner) ∈ entries ∧
            prune gone (path.child (PathKey.ofDocument key)) inner = value := by
  rw [pruneEntries_eq, List.mem_filterMap]
  constructor
  · rintro ⟨⟨ownKey, inner⟩, member, kept⟩
    rw [pruneEntry] at kept
    split at kept
    · next reserved =>
      cases kept
      exact .inl ⟨reserved, member⟩
    · next free =>
      split at kept
      · cases kept
      · next stays =>
        cases kept
        exact .inr ⟨by simpa using free, stays, inner, member, rfl⟩
  · rintro (⟨reserved, member⟩ | ⟨free, kept, inner, member, rfl⟩)
    · exact ⟨_, member, by rw [pruneEntry, if_pos reserved]⟩
    · refine ⟨_, member, ?_⟩
      rw [pruneEntry, if_neg (by simp [free]), if_neg kept]

/-- A field of a pruned record is a field of the record that is not gone, pruned. -/
theorem field_of_mem_pruneEntries (member : (key, value) ∈ pruneEntries gone path entries)
    (free : isReservedText key.keyText = false) :
    path.child (PathKey.ofDocument key) ∉ gone ∧
      ∃ inner, (key, inner) ∈ entries ∧
        prune gone (path.child (PathKey.ofDocument key)) inner = value := by
  rcases mem_pruneEntries_iff.mp member with ⟨reserved, -⟩ | ⟨-, kept, inner, known, same⟩
  · rw [reserved] at free
    cases free
  · exact ⟨kept, inner, known, same⟩

theorem keyText_of_isField {name : String} (isField : Mapping.isField name key = true) :
    key.keyText = name := by
  cases key with
  | string text => exact eq_of_beq isField
  | _ => cases isField

theorem pruneEntry_of_reserved {entry : Document × Document}
    (reserved : isReservedText entry.1.keyText = true) :
    pruneEntry gone path entry = some entry := by
  rw [pruneEntry, if_pos reserved]

theorem key_of_pruneEntry {entry kept : Document × Document}
    (pruned : pruneEntry gone path entry = some kept) : kept.1 = entry.1 := by
  rw [pruneEntry] at pruned
  split at pruned
  · rw [Option.some.inj pruned]
  · split at pruned
    · cases pruned
    · rw [← Option.some.inj pruned]

/-- Pruning keeps what is stated under a reserved key. -/
theorem field?_pruneEntries {name : String} (reserved : isReservedText name = true) :
    Mapping.field? (pruneEntries gone path entries) name = entries.field? name := by
  have kept {entry : Document × Document} (isField : Mapping.isField name entry.1 = true) :
      pruneEntry gone path entry = some entry := by
    apply pruneEntry_of_reserved
    rw [keyText_of_isField isField]
    exact reserved
  have sameTest : (fun entry => (pruneEntry gone path entry).any fun kept =>
      Mapping.isField name kept.1) = fun entry => Mapping.isField name entry.1 := by
    funext entry
    rw [Bool.eq_iff_iff, Option.any_eq_true]
    constructor
    · rintro ⟨result, pruned, isField⟩
      rw [key_of_pruneEntry pruned] at isField
      exact isField
    · intro isField
      exact ⟨entry, kept isField, isField⟩
  rw [pruneEntries_eq, Mapping.field?, Mapping.field?, List.find?_filterMap, sameTest]
  cases found : entries.find? fun entry => Mapping.isField name entry.1 with
  | none => rfl
  | some entry =>
      have isField : Mapping.isField name entry.1 = true :=
        List.find?_some (p := fun own : Document × Document => Mapping.isField name own.1) found
      rw [Option.bind_some, kept isField]

theorem fieldNames_pruneEntries_sublist :
    (Level.fieldNames (pruneEntries gone path entries)).Sublist (Level.fieldNames entries) := by
  have keys : ((entries.filterMap (pruneEntry gone path)).map fun entry => entry.1.keyText).Sublist
      (entries.map fun entry => entry.1.keyText) := by
    induction entries with
    | nil => exact .slnil
    | cons entry rest ih =>
        rw [List.filterMap_cons, List.map_cons]
        split
        · exact ih.cons _
        · next kept pruned =>
          rw [List.map_cons, key_of_pruneEntry pruned]
          exact ih.cons_cons _
  rw [pruneEntries_eq]
  exact keys.filter _

theorem addressable_pruneEntries
    (addressable : ∀ entry ∈ entries, isReservedText entry.1.keyText = false →
      IsAddressable entry.1) :
    ∀ entry ∈ pruneEntries gone path entries, isReservedText entry.1.keyText = false →
      IsAddressable entry.1 := by
  rintro ⟨key, value⟩ member free
  rcases field_of_mem_pruneEntries member free with ⟨-, inner, known, -⟩
  exact addressable (key, inner) known free

/-- The keys that are left are in the order in which they were. -/
theorem keys_pruneEntries :
    (pruneEntries gone path entries).map Prod.fst =
      (entries.map Prod.fst).filter fun key =>
        isReservedText key.keyText || !decide (path.child (PathKey.ofDocument key) ∈ gone) := by
  induction entries with
  | nil => rfl
  | cons entry rest ih =>
      rw [pruneEntries]
      by_cases reserved : isReservedText entry.1.keyText = true
      · simp [reserved, ih]
      · by_cases isGone : path.child (PathKey.ofDocument entry.1) ∈ gone <;>
          simp [reserved, isGone, ih]

/-- Reserved entries are left as they were. -/
theorem reserved_pruneEntries :
    (pruneEntries gone path entries).filter (fun entry => isReservedText entry.1.keyText) =
      entries.filter fun entry => isReservedText entry.1.keyText := by
  induction entries with
  | nil => rfl
  | cons entry rest ih =>
      rw [pruneEntries]
      by_cases reserved : isReservedText entry.1.keyText = true
      · simp [reserved, ih]
      · by_cases isGone : path.child (PathKey.ofDocument entry.1) ∈ gone <;>
          simp [reserved, isGone, ih]

/-! ## Paths in pruned rules -/

theorem hasField_eq_isSome {name : String} :
    entries.hasField name = (entries.field? name).isSome := by
  rw [Mapping.hasField, Mapping.field?, Option.isSome_map, Bool.eq_iff_iff, List.find?_isSome,
    List.any_eq_true]

theorem hasField_pruneEntries :
    Mapping.hasField (pruneEntries gone path entries) "type" = entries.hasField "type" := by
  rw [hasField_eq_isSome, hasField_eq_isSome, field?_pruneEntries (by decide)]

theorem describesValue_prune : describesValue (prune gone path value) = describesValue value := by
  cases value with
  | mapping entries =>
      by_cases typed : Mapping.hasField entries "type" = true
      · rw [prune, if_pos typed]
      · rw [Bool.not_eq_true] at typed
        rw [prune_record typed, describesValue_mapping, describesValue_mapping,
          hasField_pruneEntries]
  | _ => rfl

theorem IsTidy.prune (tidy : IsTidy rules) : IsTidy (prune gone path rules) := by
  induction tidy generalizing path with
  | leaf typed =>
      rw [prune_of_typed typed]
      exact .leaf typed
  | record untyped distinct addressable each ih =>
      rw [prune_record untyped]
      refine .record (hasField_pruneEntries.trans untyped)
        (distinct.sublist fieldNames_pruneEntries_sublist)
        (addressable_pruneEntries addressable) ?_
      rintro ⟨key, value⟩ member free
      rcases field_of_mem_pruneEntries member free with ⟨-, inner, known, rfl⟩
      exact ih _ known free

/-- Neither the end of a path that goes on from a place nor a location on it is gone. -/
def Spared (gone : List DocPath) : DocPath → DocPath → Prop
  | _, [] => True
  | path, step :: below => path.child step ∉ gone ∧ Spared gone (path.child step) below

theorem spared_iff :
    Spared gone path below ↔ ∀ first, first <+: below → first ≠ [] → path ++ first ∉ gone := by
  induction below generalizing path with
  | nil =>
      refine ⟨fun _ first upper notRoot => ?_, fun _ => trivial⟩
      exact absurd (List.prefix_nil.mp upper) notRoot
  | cons step rest ih =>
      have onward (first : DocPath) : path ++ step :: first = path.child step ++ first := by
        simp [DocPath.child]
      rw [Spared, ih]
      constructor
      · rintro ⟨kept, later⟩ first upper notRoot
        rcases List.exists_cons_of_ne_nil notRoot with ⟨head, tail, rfl⟩
        rcases List.cons_prefix_cons.mp upper with ⟨rfl, lower⟩
        by_cases last : tail = []
        · subst last
          exact kept
        · rw [onward]
          exact later tail lower last
      · intro kept
        refine ⟨kept [step] ⟨rest, rfl⟩ (List.cons_ne_nil _ _), fun first upper _ => ?_⟩
        rw [← onward]
        exact kept (step :: first) (List.cons_prefix_cons.mpr ⟨rfl, upper⟩) (List.cons_ne_nil _ _)

theorem Spared.not_mem (spared : Spared gone path below) (further : below ≠ []) :
    path ++ below ∉ gone :=
  spared_iff.mp spared below List.prefix_rfl further

/-- With one more path gone, what is at it and below it is no longer spared. -/
theorem spared_cons_iff {low : DocPath} (notRoot : low ≠ []) :
    Spared (low :: gone) [] path ↔ Spared gone [] path ∧ ¬ low <+: path := by
  simp only [spared_iff, List.nil_append, List.mem_cons, not_or]
  constructor
  · intro kept
    exact ⟨fun first upper further => (kept first upper further).2,
      fun upper => (kept low upper notRoot).1 rfl⟩
  · rintro ⟨kept, notBelow⟩ first upper further
    refine ⟨?_, kept first upper further⟩
    rintro rfl
    exact notBelow upper

/-- A path that goes on from one that is spared is spared if the further step is not gone. -/
theorem spared_child_iff {step : PathKey} (spared : Spared gone [] path) :
    Spared gone [] (path.child step) ↔ path.child step ∉ gone := by
  constructor
  · exact fun onward => onward.not_mem (List.append_ne_nil_of_right_ne_nil _ (by simp))
  · intro kept
    rw [spared_iff] at spared ⊢
    intro first upper notRoot
    rw [DocPath.child, List.prefix_concat_iff] at upper
    rcases upper with rfl | lower
    · exact kept
    · exact spared first lower notRoot

/-- Pruned rules lead where the rules lead on a path that is spared. -/
theorem leads_prune_iff :
    Leads (Rule.prune gone path rules) below value ↔
      Spared gone path below ∧
        ∃ whole, Leads rules below whole ∧ Rule.prune gone (path ++ below) whole = value := by
  induction below generalizing path rules with
  | nil =>
      rw [List.append_nil, leads_nil_iff]
      constructor
      · rintro rfl
        exact ⟨trivial, rules, .here, rfl⟩
      · rintro ⟨-, whole, leads, rfl⟩
        rw [leads_nil_iff.mp leads]
  | cons step rest ih =>
      have shifted : path ++ step :: rest = path.child step ++ rest := by simp [DocPath.child]
      rw [leads_cons_iff]
      constructor
      · rintro ⟨result, key, inner, pruned, untyped, member, free, rfl, lower⟩
        cases rules with
        | mapping own =>
            by_cases typed : Mapping.hasField own "type" = true
            · rw [Rule.prune, if_pos typed] at pruned
              cases pruned
              rw [untyped] at typed
              cases typed
            · rw [Bool.not_eq_true] at typed
              rw [prune_record typed] at pruned
              cases pruned
              rcases field_of_mem_pruneEntries member free with ⟨kept, whole, known, rfl⟩
              rcases ih.mp lower with ⟨spared, last, toLast, same⟩
              refine ⟨⟨kept, spared⟩, last, .field typed known free toLast, ?_⟩
              rw [shifted]
              exact same
        | _ => cases pruned
      · rintro ⟨⟨kept, spared⟩, whole, leads, rfl⟩
        rcases leads_cons_iff.mp leads with
          ⟨entries, key, inner, rfl, untyped, member, free, rfl, lower⟩
        have kept : (key, Rule.prune gone (path.child (PathKey.ofDocument key)) inner) ∈
            pruneEntries gone path entries :=
          mem_pruneEntries_iff.mpr (.inr ⟨free, kept, inner, member, rfl⟩)
        refine ⟨_, key, _, prune_record untyped, hasField_pruneEntries.trans untyped, kept, free,
          rfl, ?_⟩
        exact ih.mpr ⟨spared, whole, lower, by rw [shifted]⟩

/-! ## Removing fields -/

/-- No other field has the name of the first one. -/
theorem keyText_ne_of_nodup {entry : Document × Document} {rest : Mapping}
    (distinct : (Level.fieldNames (entry :: rest)).Nodup)
    (free : isReservedText entry.1.keyText = false) :
    ∀ other ∈ rest, other.1.keyText ≠ entry.1.keyText := by
  intro other member same
  have split : Level.fieldNames (entry :: rest) = entry.1.keyText :: Level.fieldNames rest := by
    simp [Level.fieldNames, free]
  rw [split, List.nodup_cons] at distinct
  apply distinct.1
  rw [Level.fieldNames, List.mem_filter, List.mem_map]
  exact ⟨⟨other, member, same⟩, by simp [free]⟩

theorem nodup_fieldNames_tail {entry : Document × Document} {rest : Mapping}
    (distinct : (Level.fieldNames (entry :: rest)).Nodup) : (Level.fieldNames rest).Nodup :=
  distinct.sublist (((List.sublist_cons_self _ _).map _).filter _)

theorem eraseP_eq_filter {test : Document × Document → Bool} {text : String}
    (agrees : ∀ entry ∈ entries, test entry = (entry.1.keyText == text))
    (distinct : (Level.fieldNames entries).Nodup) (free : isReservedText text = false) :
    entries.eraseP test = entries.filter fun entry => entry.1.keyText != text := by
  induction entries with
  | nil => rfl
  | cons entry rest ih =>
      rcases List.forall_mem_cons.mp agrees with ⟨here, later⟩
      by_cases same : entry.1.keyText = text
      · have others := keyText_ne_of_nodup distinct (same ▸ free)
        rw [same] at others
        rw [List.eraseP_cons_of_pos (by simp [here, same]),
          List.filter_cons_of_neg (by simp [same])]
        exact (List.filter_eq_self.mpr fun other member => by simpa using others other member).symm
      · rw [List.eraseP_cons_of_neg (by simp [here, same]),
          List.filter_cons_of_pos (by simp [same]), ih later (nodup_fieldNames_tail distinct)]

theorem map_eq_self {change : Document × Document → Document × Document}
    (untouched : ∀ entry ∈ entries, change entry = entry) : entries.map change = entries :=
  (List.map_congr_left untouched).trans (List.map_id entries)

theorem replaceFirst_eq_map {test : Document → Bool} {text : String}
    (agrees : ∀ entry ∈ entries, test entry.1 = (entry.1.keyText == text))
    (distinct : (Level.fieldNames entries).Nodup) (free : isReservedText text = false) :
    Mapping.replaceFirst test value entries =
      entries.map fun entry => if entry.1.keyText = text then (entry.1, value) else entry := by
  induction entries with
  | nil => rfl
  | cons entry rest ih =>
      rcases List.forall_mem_cons.mp agrees with ⟨here, later⟩
      rw [Mapping.replaceFirst, List.map_cons, here]
      by_cases same : entry.1.keyText = text
      · have others := keyText_ne_of_nodup distinct (same ▸ free)
        rw [same] at others
        rw [if_pos (beq_of_eq same), if_pos same,
          map_eq_self fun other member => if_neg (others other member)]
      · rw [if_neg (by simpa using same), if_neg same, ih later (nodup_fieldNames_tail distinct)]

variable {text : String}

theorem without_field (distinct : (Level.fieldNames entries).Nodup)
    (addressable : ∀ entry ∈ entries, isReservedText entry.1.keyText = false →
      IsAddressable entry.1) (free : isReservedText text = false) :
    without [.key text] (.mapping entries) =
      .mapping (entries.filter fun entry => entry.1.keyText != text) := by
  have agrees : ∀ entry ∈ entries,
      entries.addresses text entry.1 = (entry.1.keyText == text) :=
    fun entry member => addresses_eq distinct addressable free member
  rw [← eraseP_eq_filter agrees distinct free, without, DocPath.remove?]
  cases found : entries.at? text with
  | some value => rfl
  | none =>
      rw [Mapping.at?, Option.map_eq_none_iff, List.find?_eq_none] at found
      simp only
      rw [List.eraseP_of_forall_not found]

theorem remove?_below (further : below ≠ []) :
    DocPath.remove? (.key text :: below) (.mapping entries) =
      match entries.at? text with
      | some old =>
          (DocPath.remove? below old).map fun (value, new) =>
            (value, .mapping (Mapping.put entries text new))
      | none => none := by
  rcases List.exists_cons_of_ne_nil further with ⟨step, rest, rfl⟩
  rfl

theorem without_below (distinct : (Level.fieldNames entries).Nodup)
    (addressable : ∀ entry ∈ entries, isReservedText entry.1.keyText = false →
      IsAddressable entry.1) (free : isReservedText text = false) (further : below ≠ []) :
    without (.key text :: below) (.mapping entries) =
      .mapping (entries.map fun entry =>
        if entry.1.keyText = text then (entry.1, without below entry.2) else entry) := by
  have agrees {entry : Document × Document} (member : entry ∈ entries) :=
    addresses_eq distinct addressable free member
  rw [without, remove?_below further]
  cases found : entries.at? text with
  | none =>
      rw [Mapping.at?, Option.map_eq_none_iff, List.find?_eq_none] at found
      rw [map_eq_self]
      intro entry member
      have other := found entry member
      rw [agrees member, beq_iff_eq] at other
      exact if_neg other
  | some old =>
      rcases Document.mem_of_at? found with ⟨key, known, named⟩
      have only {entry : Document × Document} (member : entry ∈ entries)
          (same : entry.1.keyText = text) : entry = (key, old) :=
        Level.eq_of_keyText_eq distinct member known (same ▸ free) (same.trans named.symm)
      simp only
      cases removed : DocPath.remove? below old with
      | none =>
          have unchanged : without below old = old := by rw [without, removed]
          rw [Option.map_none, map_eq_self]
          intro entry member
          split
          · next same => rw [only member same, unchanged]
          · rfl
      | some result =>
          rcases result with ⟨value, new⟩
          have changed : without below old = new := by rw [without, removed]
          rw [Option.map_some, Mapping.put, if_pos (by rw [found]; rfl),
            replaceFirst_eq_map (fun entry member => agrees member) distinct free]
          refine congrArg Document.mapping (List.map_congr_left fun entry member => ?_)
          split
          · next same => rw [only member same, changed]
          · rfl

/-! ## Removing fields from pruned rules -/

/-- Pruning depends on those paths only that go on from the place. -/
theorem prune_congr {others : List DocPath}
    (same : ∀ rest, rest ≠ [] → (path ++ rest ∈ gone ↔ path ++ rest ∈ others)) :
    prune gone path value = prune others path value := by
  induction value using Document.memberInduction generalizing path with
  | mapping entries each =>
      rw [prune, prune, pruneEntries_eq, pruneEntries_eq]
      congr 2
      refine List.filterMap_congr fun ⟨key, inner⟩ member => ?_
      have here : path.child (PathKey.ofDocument key) ∈ gone ↔
          path.child (PathKey.ofDocument key) ∈ others := same _ (List.cons_ne_nil _ _)
      have inside : prune gone (path.child (PathKey.ofDocument key)) inner =
          prune others (path.child (PathKey.ofDocument key)) inner := by
        refine (each key inner member).2 fun rest _ => ?_
        have below := same (PathKey.ofDocument key :: rest) (List.cons_ne_nil _ _)
        simpa [DocPath.child] using below
      simp only [pruneEntry, here, inside]
  | _ => rfl

/-- A further path that is gone does not matter to the fields which it does not go through. -/
theorem pruneEntry_of_ne {entry : Document × Document} (other : entry.1.keyText ≠ text) :
    pruneEntry ((path ++ .key text :: below) :: gone) path entry = pruneEntry gone path entry := by
  have elsewhere (rest : DocPath) :
      path.child (PathKey.ofDocument entry.1) ++ rest ≠ path ++ .key text :: below := by
    rw [DocPath.child, List.append_assoc]
    intro same
    exact other (PathKey.key.inj (List.cons.inj (List.append_cancel_left same)).1)
  have here : path.child (PathKey.ofDocument entry.1) ∈ (path ++ .key text :: below) :: gone ↔
      path.child (PathKey.ofDocument entry.1) ∈ gone := by
    have different := elsewhere []
    rw [List.append_nil] at different
    simp [different]
  have inside : prune ((path ++ .key text :: below) :: gone)
      (path.child (PathKey.ofDocument entry.1)) entry.2 =
        prune gone (path.child (PathKey.ofDocument entry.1)) entry.2 :=
    prune_congr fun rest _ => by simp [elsewhere rest]
  simp only [pruneEntry, here, inside]

/-- A further field that is gone is left out of what is left of its record. -/
theorem pruneEntry_field (free : isReservedText text = false) (entry : Document × Document) :
    pruneEntry ((path ++ [.key text]) :: gone) path entry =
      (pruneEntry gone path entry).filter fun kept => kept.1.keyText != text := by
  by_cases same : entry.1.keyText = text
  · have entryFree : isReservedText entry.1.keyText = false := same ▸ free
    have isGone : path.child (PathKey.ofDocument entry.1) ∈ (path ++ [.key text]) :: gone := by
      rw [DocPath.child, PathKey.ofDocument, same]
      exact List.mem_cons_self
    have dropped : pruneEntry ((path ++ [.key text]) :: gone) path entry = none := by
      rw [pruneEntry, if_neg (by simp [entryFree]), if_pos isGone]
    rw [dropped]
    cases kept : pruneEntry gone path entry with
    | none => rfl
    | some result => simp [Option.filter, key_of_pruneEntry kept, same]
  · rw [pruneEntry_of_ne same]
    cases kept : pruneEntry gone path entry with
    | none => rfl
    | some result => simp [Option.filter, key_of_pruneEntry kept, same]

/-- A further path that is gone below a field changes what is left of it as it goes on there. -/
theorem pruneEntry_below (free : isReservedText key.keyText = false) (further : below ≠ [])
    (inside : without below (prune gone (path.child (PathKey.ofDocument key)) value) =
      prune ((path.child (PathKey.ofDocument key) ++ below) :: gone)
        (path.child (PathKey.ofDocument key)) value) :
    pruneEntry ((path ++ .key key.keyText :: below) :: gone) path (key, value) =
      (pruneEntry gone path (key, value)).map fun kept => (kept.1, without below kept.2) := by
  have onward : path ++ .key key.keyText :: below =
      path.child (PathKey.ofDocument key) ++ below := by
    simp [DocPath.child, PathKey.ofDocument]
  have here : path.child (PathKey.ofDocument key) ∈
      (path.child (PathKey.ofDocument key) ++ below) :: gone ↔
        path.child (PathKey.ofDocument key) ∈ gone := by
    simp [further]
  simp only [onward, pruneEntry, free, Bool.false_eq_true, if_false, here, ← inside]
  split
  · rfl
  · rfl

/-- What is left of pruned entries without what one of their fields may still have. -/
theorem without_pruneEntries (distinct : (Level.fieldNames entries).Nodup)
    (addressable : ∀ entry ∈ entries, isReservedText entry.1.keyText = false →
      IsAddressable entry.1) (member : (key, value) ∈ entries)
    (free : isReservedText key.keyText = false)
    (inside : below ≠ [] →
      without below (prune gone (path.child (PathKey.ofDocument key)) value) =
        prune ((path.child (PathKey.ofDocument key) ++ below) :: gone)
          (path.child (PathKey.ofDocument key)) value) :
    without (PathKey.ofDocument key :: below) (.mapping (pruneEntries gone path entries)) =
      .mapping (pruneEntries ((path ++ PathKey.ofDocument key :: below) :: gone) path entries) := by
  have keptDistinct : (Level.fieldNames (pruneEntries gone path entries)).Nodup :=
    distinct.sublist fieldNames_pruneEntries_sublist
  have keptAddressable : ∀ entry ∈ pruneEntries gone path entries,
      isReservedText entry.1.keyText = false → IsAddressable entry.1 :=
    addressable_pruneEntries addressable
  rw [PathKey.ofDocument]
  by_cases last : below = []
  · subst last
    rw [without_field keptDistinct keptAddressable free, pruneEntries_eq, pruneEntries_eq,
      List.filter_filterMap]
    refine congrArg Document.mapping (List.filterMap_congr fun entry _ => ?_)
    rw [pruneEntry_field free]
  · rw [without_below keptDistinct keptAddressable free last, pruneEntries_eq, pruneEntries_eq,
      List.map_filterMap]
    refine congrArg Document.mapping (List.filterMap_congr fun entry known => ?_)
    by_cases same : entry.1.keyText = key.keyText
    · have own := Level.eq_of_keyText_eq distinct known member (same ▸ free) same
      subst own
      rw [pruneEntry_below free last (inside last)]
      refine Option.map_congr fun kept isKept => ?_
      rw [if_pos (congrArg Document.keyText (key_of_pruneEntry isKept))]
    · rw [pruneEntry_of_ne same]
      cases kept : pruneEntry gone path entry with
      | none => rfl
      | some result => simp [key_of_pruneEntry kept, same]

/-- What is left without a value that pruned rules may still have is pruned as well. -/
theorem without_prune (leads : Leads rules below value) (further : below ≠ [])
    (tidy : IsTidy rules) :
    without below (prune gone path rules) = prune ((path ++ below) :: gone) path rules := by
  induction leads generalizing path with
  | here => exact absurd rfl further
  | field untyped member free lower ih =>
      rcases tidy.fields untyped with ⟨distinct, each⟩
      have addressable := fun entry known free => (each entry known free).1
      rw [prune_record untyped, prune_record untyped]
      exact without_pruneEntries distinct addressable member free fun goesOn =>
        ih goesOn (each _ member free).2

end RuleSchema.Rule
