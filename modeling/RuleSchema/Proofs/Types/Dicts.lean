import Mathlib
import RuleSchema.Proofs.Types.Reordering
import RuleSchema.Proofs.Types.Soundness

/-!
# Entries of maps

A mapping is read entry by entry, and what is read goes into a map under the texts of the
keys.  Nothing tells keys apart there but their texts: entries of one text are no reason to
refuse a mapping, and the last of them is the one that is found.  So a map holds all that was
read exactly if the texts are distinct.
-/

namespace RuleSchema

open Outcome

/-! ## Texts of keys -/

namespace Value

/-- Distinct whole numbers have distinct texts. -/
theorem keyText_int_inj {one two : Int64} : (int one).keyText = (int two).keyText ↔ one = two := by
  have wordText (word : Int64) : (int word).keyText = toString word.toInt := rfl
  rw [wordText, wordText]
  exact Int.repr_inj.trans Int64.toInt_inj

theorem keyText_bool_inj {one two : Bool} :
    (bool one).keyText = (bool two).keyText ↔ one = two := by
  revert one two
  decide

end Value

namespace ValueType

variable {store : FileStore} {key value : ValueType} {path : DocPath}

/-- Types of which no two values have the same text by their form. -/
def writesApart : ValueType → Bool
  | bool _ | int _ | text _ | .path _ => true
  | _ => false

/-- A value of such a type is known by its text. -/
theorem eq_of_keyText_eq (apart : key.writesApart = true) {document other : Document}
    {place otherPlace : DocPath} {one two : Value}
    (first : (key.coerce store document place).Gives one)
    (second : (key.coerce store other otherPlace).Gives two)
    (same : one.keyText = two.keyText) : one = two := by
  rw [coerce.eq_def] at first second
  dsimp only at first second
  split at first
  · exact absurd first not_gives_mismatch
  split at second
  · exact absurd second not_gives_mismatch
  cases key with
  | bool strict =>
      rcases gives_map.mp first with ⟨flag, -, rfl⟩
      rcases gives_map.mp second with ⟨otherFlag, -, rfl⟩
      rw [Value.keyText_bool_inj.mp same]
  | int constraints =>
      rcases gives_andThen.mp first with ⟨word, -, checked⟩
      rcases gives_ofVerdict.mp checked with ⟨-, rfl⟩
      rcases gives_andThen.mp second with ⟨otherWord, -, otherChecked⟩
      rcases gives_ofVerdict.mp otherChecked with ⟨-, rfl⟩
      rw [Value.keyText_int_inj.mp same]
  | text constraints =>
      rcases gives_andThen.mp first with ⟨read, -, checked⟩
      rcases gives_ofVerdict.mp checked with ⟨-, rfl⟩
      rcases gives_andThen.mp second with ⟨otherRead, -, otherChecked⟩
      rcases gives_ofVerdict.mp otherChecked with ⟨-, rfl⟩
      exact congrArg Value.string same
  | path kind =>
      rcases gives_map.mp first with ⟨file, -, rfl⟩
      rcases gives_map.mp second with ⟨otherFile, -, rfl⟩
      exact congrArg Value.path same
  | _ => cases apart

/-! ## Entries -/

/-- A key and a value that the types read of an entry of a mapping. -/
def ReadsEntry (store : FileStore) (key value : ValueType) (path : DocPath)
    (entry : Document × Document) (read : Value × Value) : Prop :=
  (key.coerce store entry.1 (path.child (PathKey.ofDocument entry.1))).Gives read.1 ∧
    (value.coerce store entry.2 (path.child (PathKey.ofDocument entry.1))).Gives read.2

theorem gives_entryOutcome {entry : Document × Document} {named : String × Value} :
    (entryOutcome store key value path entry).Gives named ↔
      ∃ read, ReadsEntry store key value path entry read ∧ (read.1.keyText, read.2) = named := by
  rw [entryOutcome, gives_map]
  exact exists_congr fun read => and_congr_left fun _ => gives_both

/-- The entries of a mapping are collected exactly if each can be read. -/
theorem gives_entries {entries : Mapping} {found : NameMap Value} :
    (collect (entries.map (entryOutcome store key value path))).Gives found ↔
      ∃ read, List.Forall₂ (ReadsEntry store key value path) entries read ∧
        found = read.map fun pair => (pair.1.keyText, pair.2) := by
  rw [gives_collect_map]
  constructor
  · intro each
    induction each with
    | nil => exact ⟨[], .nil, rfl⟩
    | cons here _ ih =>
        rcases gives_entryOutcome.mp here with ⟨pair, reads, rfl⟩
        rcases ih with ⟨read, each, rfl⟩
        exact ⟨pair :: read, .cons reads each, rfl⟩
  · rintro ⟨read, each, rfl⟩
    rw [List.forall₂_map_right_iff]
    exact each.imp fun entry pair reads => gives_entryOutcome.mpr ⟨pair, reads, rfl⟩

/-- A mapping is not null, so that a map is made of it entry by entry. -/
theorem coerce_dict {document : Document} {entries : Mapping}
    (mapping : document.untagOnce.asMapping? = some entries) :
    (dict key value).coerce store document path =
      (collect (entries.map (entryOutcome store key value path))).map
        fun found => .map (NameMap.ofEntries found) := by
  have notNull : document.untagOnce.isNull = false := by
    rw [Document.asMapping?] at mapping
    rw [Document.isNull]
    split at mapping
    · next same => rw [same]
    · cases mapping
  rw [coerce.eq_def]
  simp only [notNull, Bool.false_and, Bool.false_eq_true, if_false, mapping]
  rfl

/-! ## Maps -/

/-- The map of keys and values that were read. -/
def mapRead (read : List (Value × Value)) : NameMap Value :=
  NameMap.ofEntries (read.map fun pair => (pair.1.keyText, pair.2))

/-- A map has an entry for each pair that was read, with its value under the text of its key. -/
structure HoldsAll (read : List (Value × Value)) (found : NameMap Value) : Prop where
  oneForEach : found.length = read.length
  finds : ∀ pair ∈ read, found.get? pair.1.keyText = some pair.2

theorem holdsAll_mapRead_iff {read : List (Value × Value)} :
    HoldsAll read (mapRead read) ↔ (read.map fun pair => pair.1.keyText).Nodup := by
  have names : NameMap.names (read.map fun pair => (pair.1.keyText, pair.2)) =
      read.map fun pair => pair.1.keyText := by
    rw [NameMap.names, List.map_map]
    rfl
  constructor
  · intro holds
    rw [← names, ← NameMap.length_ofEntries_iff, List.length_map]
    exact holds.oneForEach
  · intro distinct
    rw [← names] at distinct
    have whole : mapRead read = read.map fun pair => (pair.1.keyText, pair.2) :=
      NameMap.ofEntries_of_nodup distinct
    rw [whole]
    exact
      { oneForEach := List.length_map _
        finds := fun pair member => NameMap.get?_of_mem distinct (List.mem_map_of_mem member) }

theorem get?_mapRead {read : List (Value × Value)} {name : String} :
    (mapRead read).get? name =
      (read.reverse.find? fun pair => pair.1.keyText == name).map Prod.snd := by
  rw [mapRead, NameMap.ofEntries, NameMap.get?_insertAll_reverse, ← List.map_reverse,
    NameMap.get?, List.find?_map, Option.map_map]
  exact Option.or_none

/-- Keys that are known by their texts have distinct texts exactly if they are distinct. -/
theorem nodup_keyText_iff (apart : key.writesApart = true) {entries : Mapping}
    {read : List (Value × Value)}
    (each : List.Forall₂ (ReadsEntry store key value path) entries read) :
    (read.map fun pair => pair.1.keyText).Nodup ↔ (read.map Prod.fst).Nodup := by
  have texts : (read.map fun pair => pair.1.keyText) = (read.map Prod.fst).map Value.keyText := by
    rw [List.map_map]
    rfl
  rw [texts]
  refine ⟨List.Nodup.of_map _, List.Nodup.map_on ?_⟩
  have fromKey : ∀ name ∈ read.map Prod.fst, ∃ document place,
      (key.coerce store document place).Gives name := by
    intro name member
    rcases List.mem_map.mp member with ⟨pair, isPair, rfl⟩
    rcases Rearranged.exists_of_forall₂ each.flip isPair with ⟨entry, -, reads⟩
    exact ⟨entry.1, _, reads.1⟩
  intro one isOne two isTwo same
  rcases fromKey one isOne with ⟨document, place, first⟩
  rcases fromKey two isTwo with ⟨other, otherPlace, second⟩
  exact eq_of_keyText_eq apart first second same

/-- Free texts that are read of keys are the texts of the keys. -/
theorem keyTexts_of_free {constraints : TextConstraints} (free : constraints.isFree = true)
    {entries : Mapping} (tagFree : ∀ entry ∈ entries, entry.1.isTagFree = true)
    {read : List (Value × Value)}
    (each : List.Forall₂ (ReadsEntry store (text constraints) value path) entries read) :
    (read.map fun pair => pair.1.keyText) = entries.map fun entry => entry.1.keyText := by
  induction each with
  | nil => rfl
  | @cons entry pair rest others here _ ih =>
      rw [List.map_cons, List.map_cons, ih fun later member =>
        tagFree later (List.mem_cons_of_mem _ member),
        keyText_of_coerce free (tagFree entry List.mem_cons_self) here.1.1]

/--
A mapping gives a map exactly if each of its entries can be read, whether or not keys turn out
alike.  The map holds all that was read exactly if the texts of the keys that were read are
distinct, and of one text it holds what was read last.  Where keys are known by their texts,
nothing is lost exactly if no key is read twice; for free texts, exactly if the keys of the
mapping have distinct texts.
-/
theorem coerce_dict_complete_iff (store : FileStore) (key value : ValueType) (document : Document)
    (path : DocPath) (entries : Mapping)
    (mapping : document.untagOnce.asMapping? = some entries) :
    (∀ result, ((dict key value).coerce store document path).Gives result ↔
      ∃ read, List.Forall₂ (ReadsEntry store key value path) entries read ∧
        result = .map (mapRead read)) ∧
    ∀ read, List.Forall₂ (ReadsEntry store key value path) entries read →
      (HoldsAll read (mapRead read) ↔ (read.map fun pair => pair.1.keyText).Nodup) ∧
      (∀ name, (mapRead read).get? name =
        (read.reverse.find? fun pair => pair.1.keyText == name).map Prod.snd) ∧
      (key.writesApart = true →
        (HoldsAll read (mapRead read) ↔ (read.map Prod.fst).Nodup)) ∧
      (∀ constraints, key = text constraints → constraints.isFree = true →
        (∀ entry ∈ entries, entry.1.isTagFree = true) →
          (HoldsAll read (mapRead read) ↔ (entries.map fun entry => entry.1.keyText).Nodup)) := by
  constructor
  · intro result
    rw [coerce_dict mapping, gives_map]
    constructor
    · rintro ⟨found, collected, rfl⟩
      rcases gives_entries.mp collected with ⟨read, each, rfl⟩
      exact ⟨read, each, rfl⟩
    · rintro ⟨read, each, rfl⟩
      exact ⟨_, gives_entries.mpr ⟨read, each, rfl⟩, rfl⟩
  · intro read each
    refine ⟨holdsAll_mapRead_iff, fun name => get?_mapRead, ?_, ?_⟩
    · intro apart
      exact holdsAll_mapRead_iff.trans (nodup_keyText_iff apart each)
    · rintro constraints rfl free tagFree
      rw [holdsAll_mapRead_iff, keyTexts_of_free free tagFree each]

/-- Names under numbers, of which one is written as a text. -/
def numberedNames : Mapping :=
  [(.ofInt64 1, .string "first"), (.string "2", .string "second")]

theorem coerce_dict_complete_numbered :
    ∃ read, HoldsAll read (mapRead read) ∧
      ((dict (.int {}) (.text {})).coerce .empty (.mapping numberedNames) []).Gives
        (.map (mapRead read)) := by
  rcases coerce_dict_complete_iff .empty (.int {}) (.text {}) (.mapping numberedNames) []
    numberedNames rfl with ⟨gives, complete⟩
  have each : List.Forall₂ (ReadsEntry .empty (.int {}) (.text {}) []) numberedNames
      [(.int 1, .string "first"), (.int 2, .string "second")] :=
    .cons ⟨⟨rfl, rfl⟩, rfl, rfl⟩ (.cons ⟨⟨rfl, rfl⟩, rfl, rfl⟩ .nil)
  rcases complete _ each with ⟨holdsAll, -, -, -⟩
  exact ⟨_, holdsAll.mpr (by decide +kernel), (gives _).mpr ⟨_, each, rfl⟩⟩

/-- The same number twice, once as a number and once as a text. -/
def twiceNumbered : Mapping :=
  [(.ofInt64 1, .string "first"), (.string "1", .string "second")]

theorem coerce_dict_loses_first :
    (Document.mapping twiceNumbered).isProper = true ∧
      (dict (.int {}) (.text {})).coerce .empty (.mapping twiceNumbered) [] =
        .found (.map [("1", .string "second")]) := by
  exact ⟨by decide +kernel, rfl⟩

end ValueType

end RuleSchema
