import RuleSchema.Proofs.Document.MergedLookup
import RuleSchema.Proofs.Document.Reordering

/-!
# Mappings whose keys are distinct texts

In a mapping whose keys are distinct texts, a text finds the value of the one entry that it is
the key of.  Storing a value there leaves the other entries in their places, and erasing some
texts keeps the entries of the others.  Two such mappings that find values under the same texts,
the same up to order, are the same up to order.
-/

namespace RuleSchema

namespace Mapping

variable {entries others before after : Mapping} {text : String} {value new : Document}
  {names : List String}

/-- The keys of a mapping are distinct texts. -/
structure HasFields (entries : Mapping) : Prop where
  texts : ∀ entry ∈ entries, entry.1.isText = true
  distinct : (entries.map fun entry => entry.1.keyText).Nodup

namespace HasFields

theorem of_sublist (fields : others.HasFields) (part : entries.Sublist others) :
    entries.HasFields where
  texts := fun entry member => fields.texts entry (part.subset member)
  distinct := fields.distinct.sublist (part.map _)

theorem key_eq (fields : entries.HasFields) {key : Document} (member : (key, value) ∈ entries) :
    key = .string key.keyText := by
  rcases Document.isText_iff.mp (fields.texts _ member) with ⟨own, same⟩
  have isString : key = .string own := same
  rw [isString]
  rfl

/-- A text finds the value of its entry. -/
theorem at?_eq_some_iff (fields : entries.HasFields) :
    entries.at? text = some value ↔ (.string text, value) ∈ entries := by
  constructor
  · intro found
    rcases Document.mem_of_at? found with ⟨key, member, rfl⟩
    rw [← fields.key_eq member]
    exact member
  · intro member
    exact (Document.at?_keyText_iff fields.distinct member).mpr rfl

theorem at?_eq_none_iff (fields : entries.HasFields) :
    entries.at? text = none ↔ ∀ value, (.string text, value) ∉ entries := by
  rw [Option.eq_none_iff_forall_ne_some]
  exact forall_congr' fun value => not_congr fields.at?_eq_some_iff

theorem field?_eq_at? (fields : entries.HasFields) (text : String) :
    entries.field? text = entries.at? text := by
  rw [at?_eq_get? fields.texts, field?, get?]
  simp only [Document.string_beq_eq_isField]

theorem append_iff :
    (before ++ after).HasFields ↔ before.HasFields ∧ after.HasFields ∧
      ∀ entry ∈ before, ∀ other ∈ after, entry.1.keyText ≠ other.1.keyText := by
  constructor
  · intro fields
    refine ⟨fields.of_sublist (List.sublist_append_left before after),
      fields.of_sublist (List.sublist_append_right before after), ?_⟩
    have distinct := fields.distinct
    rw [List.map_append, List.nodup_append] at distinct
    intro entry isBefore other isAfter
    exact distinct.2.2 _ (List.mem_map_of_mem isBefore) _ (List.mem_map_of_mem isAfter)
  · rintro ⟨front, back, apart⟩
    constructor
    · exact List.forall_mem_append.mpr ⟨front.texts, back.texts⟩
    · rw [List.map_append, List.nodup_append]
      refine ⟨front.distinct, back.distinct, ?_⟩
      intro left isLeft right isRight
      rcases List.mem_map.mp isLeft with ⟨entry, isBefore, rfl⟩
      rcases List.mem_map.mp isRight with ⟨other, isAfter, rfl⟩
      exact apart entry isBefore other isAfter

theorem at?_append (fields : HasFields (before ++ after)) (text : String) :
    Mapping.at? (before ++ after) text = (before.at? text).or (after.at? text) := by
  rcases append_iff.mp fields with ⟨front, back, apart⟩
  cases found : before.at? text with
  | some value =>
      apply fields.at?_eq_some_iff.mpr
      exact List.mem_append_left after (front.at?_eq_some_iff.mp found)
  | none =>
      rw [Option.none_or]
      apply Option.ext
      intro value
      rw [fields.at?_eq_some_iff, back.at?_eq_some_iff, List.mem_append]
      exact or_iff_right (front.at?_eq_none_iff.mp found value)

/-- An entry for a text that finds nothing is added. -/
theorem append_absent (fields : entries.HasFields) (absent : entries.at? text = none)
    (value : Document) : HasFields (entries ++ [(.string text, value)]) := by
  refine append_iff.mpr ⟨fields, ⟨by simp [Document.isText], by simp⟩, ?_⟩
  rintro ⟨key, own⟩ member other isOther same
  rw [List.mem_singleton.mp isOther] at same
  have isText : key.keyText = text := same
  rw [fields.key_eq member, isText] at member
  exact fields.at?_eq_none_iff.mp absent own member

/-- Other values under the same keys. -/
theorem of_keys_eq (fields : entries.HasFields)
    (same : others.map Prod.fst = entries.map Prod.fst) : others.HasFields := by
  constructor
  · intro entry member
    have known := List.mem_map_of_mem (f := Prod.fst) member
    rw [same] at known
    rcases List.mem_map.mp known with ⟨own, isOwn, sameKey⟩
    rw [← sameKey]
    exact fields.texts own isOwn
  · have texts (entries : Mapping) : (entries.map Prod.fst).map Document.keyText =
        entries.map fun entry => entry.1.keyText := List.map_map
    rw [← texts, same, texts]
    exact fields.distinct

section KeepsKeys

variable {change : Document × Document → Option (Document × Document)}
  (keeps : ∀ entry changed, change entry = some changed → changed.1 = entry.1)

include keeps

/-- Entries that are left out, or have other values. -/
theorem filterMap (fields : entries.HasFields) : HasFields (entries.filterMap change) where
  texts := by
    intro changed member
    rcases List.mem_filterMap.mp member with ⟨entry, isEntry, given⟩
    rw [keeps entry changed given]
    exact fields.texts entry isEntry
  distinct := by
    have apart := fields.distinct
    rw [List.Nodup, List.pairwise_map] at apart ⊢
    apply apart.filterMap
    intro entry other differ changed given otherChanged otherGiven
    rw [keeps entry changed given, keeps other otherChanged otherGiven]
    exact differ

theorem at?_filterMap (fields : entries.HasFields) (text : String) :
    Mapping.at? (entries.filterMap change) text =
      (entries.at? text).bind fun value => (change (.string text, value)).map Prod.snd := by
  apply Option.ext
  intro found
  rw [(fields.filterMap keeps).at?_eq_some_iff, List.mem_filterMap, Option.bind_eq_some_iff]
  constructor
  · rintro ⟨⟨key, value⟩, member, changed⟩
    have isKey : .string text = key := keeps _ _ changed
    subst isKey
    exact ⟨value, fields.at?_eq_some_iff.mpr member, congrArg (Option.map Prod.snd) changed⟩
  · rintro ⟨value, isValue, changed⟩
    rcases Option.map_eq_some_iff.mp changed with ⟨⟨key, other⟩, given, rfl⟩
    have isKey : key = .string text := keeps _ _ given
    subst isKey
    exact ⟨_, fields.at?_eq_some_iff.mp isValue, given⟩

end KeepsKeys

/-- A value is stored in the place of the entry. -/
theorem put_eq (fields : (before ++ (.string text, value) :: after).HasFields) :
    Mapping.put (before ++ (.string text, value) :: after) text new =
      before ++ (.string text, new) :: after := by
  have member : (Document.string text, value) ∈ before ++ (.string text, value) :: after := by
    simp
  have hit := (Document.addresses_keyText_iff fields.distinct member).mpr rfl
  have missed : ∀ other ∈ before,
      (before ++ (.string text, value) :: after).addresses text other.1 = false := by
    intro other isBefore
    rw [Bool.eq_false_iff]
    intro addressed
    have apart := (append_iff.mp fields).2.2 other isBefore (.string text, value)
      List.mem_cons_self
    exact apart (Document.keyText_of_addresses addressed)
  rw [put, fields.at?_eq_some_iff.mpr member, Option.isSome_some, if_pos rfl]
  exact replaceFirst_of_split rfl hit missed

/-- Storing keeps texts distinct. -/
theorem put (fields : entries.HasFields) (text : String) (value : Document) :
    (entries.put text value).HasFields := by
  cases found : entries.at? text with
  | none =>
      rw [Mapping.put, found]
      exact fields.append_absent found value
  | some old =>
      rcases List.append_of_mem (fields.at?_eq_some_iff.mp found) with ⟨before, after, rfl⟩
      rw [fields.put_eq]
      exact fields.of_keys_eq (by simp)

theorem insert_eq_put (fields : entries.HasFields) (text : String) (value : Document) :
    entries.insert (.string text) value = entries.put text value := by
  cases found : entries.at? text with
  | none =>
      have unknown : entries.any (fun other => (Document.string text).beq other.1) = false := by
        simp only [Document.string_beq_eq_isField]
        exact hasField_of_at?_eq_none found
      rw [insert_eq_append unknown, Mapping.put, found]
      rfl
  | some old =>
      rcases List.append_of_mem (fields.at?_eq_some_iff.mp found) with ⟨before, after, rfl⟩
      have known : (before ++ (.string text, old) :: after).any
          (fun other => (Document.string text).beq other.1) = true := by
        simp [Document.beq]
      have missed : ∀ other ∈ before, (Document.string text).beq other.1 = false := by
        intro other isBefore
        rcases Document.isText_iff.mp (fields.texts other (List.mem_append_left _ isBefore)) with
          ⟨own, isKey⟩
        have apart := (append_iff.mp fields).2.2 other isBefore (.string text, old)
          List.mem_cons_self
        rw [isKey] at apart ⊢
        simpa [Document.beq, Document.keyText] using Ne.symm apart
      rw [insert_eq_replaceFirst known, fields.put_eq]
      exact replaceFirst_of_split rfl (by simp [Document.beq]) missed

theorem eraseField_eq (fields : entries.HasFields) (name : String) :
    entries.eraseField name = entries.filter fun entry => !(entry.1.keyText == name) := by
  have test : ∀ entry ∈ entries, isField name entry.1 = (entry.1.keyText == name) := by
    intro entry member
    rcases Document.isText_iff.mp (fields.texts entry member) with ⟨own, isKey⟩
    rw [isKey]
    rfl
  rw [eraseField]
  induction entries with
  | nil => rfl
  | cons entry rest ih =>
      have others := ih (fields.of_sublist (List.sublist_cons_self entry rest))
        fun other member => test other (List.mem_cons_of_mem _ member)
      have here := test entry List.mem_cons_self
      cases same : entry.1.keyText == name with
      | true =>
          have apart : ∀ other ∈ rest, (!(other.1.keyText == name)) = true := by
            intro other member
            rw [Bool.not_eq_true', beq_eq_false_iff_ne, ← eq_of_beq same]
            intro again
            apply (List.nodup_cons.mp fields.distinct).1
            exact List.mem_map.mpr ⟨other, member, again⟩
          rw [List.filter_cons_of_neg (by simp [same]), List.filter_eq_self.mpr apart]
          exact List.eraseP_cons_of_pos (here.trans same)
      | false =>
          rw [List.filter_cons_of_pos (by rw [same]; rfl), ← others]
          exact List.eraseP_cons_of_neg (by rw [here, same]; exact Bool.false_ne_true)

/-- Without some texts, the entries of the other texts are left. -/
theorem foldl_eraseField (fields : entries.HasFields) :
    names.foldl eraseField entries =
      entries.filter fun entry => !names.contains entry.1.keyText := by
  induction names generalizing entries with
  | nil => simp
  | cons name rest ih =>
      have left : HasFields (entries.filter fun entry => !(entry.1.keyText == name)) :=
        fields.of_sublist List.filter_sublist
      rw [List.foldl_cons, fields.eraseField_eq, ih left, List.filter_filter]
      apply List.filter_congr
      intro entry _
      rw [List.contains_cons, Bool.not_or, Bool.and_comm]

end HasFields

end Mapping

namespace Document

theorem isLayer_mapping {entries : Mapping} :
    (Document.mapping entries).IsLayer ↔
      entries.HasFields ∧ ∀ entry ∈ entries, entry.2.IsLayer := by
  have distinct (texts : ∀ entry ∈ entries, entry.1.isText = true) :
      entries.Pairwise (fun first second => first.1.beq second.1 = false) ↔
        (entries.map fun entry => entry.1.keyText).Nodup := by
    rw [List.Nodup, List.pairwise_map]
    apply List.Pairwise.iff_of_mem
    intro first second firstMember secondMember
    rcases isText_iff.mp (texts first firstMember) with ⟨left, isLeft⟩
    rcases isText_iff.mp (texts second secondMember) with ⟨right, isRight⟩
    rw [isLeft, isRight]
    simp [beq, keyText]
  constructor
  · intro layer
    have tagFree := isTagFree_mapping.mp layer.isTagFree
    have proper := isProper_mapping.mp layer.isProper
    have texts := hasTextKeys_mapping.mp layer.hasTextKeys
    have keys : ∀ entry ∈ entries, entry.1.isText = true :=
      fun entry member => (texts entry member).1
    refine ⟨⟨keys, (distinct keys).mp proper.1⟩, ?_⟩
    intro entry member
    exact ⟨(tagFree entry member).2, (proper.2 entry member).2, (texts entry member).2⟩
  · rintro ⟨fields, layers⟩
    have keys : ∀ entry ∈ entries, ∃ text, entry.1 = .string text :=
      fun entry member => isText_iff.mp (fields.texts entry member)
    refine ⟨isTagFree_mapping.mpr ?_, isProper_mapping.mpr
      ⟨(distinct fields.texts).mpr fields.distinct, ?_⟩, hasTextKeys_mapping.mpr ?_⟩
    · intro entry member
      rcases keys entry member with ⟨text, isKey⟩
      rw [isKey]
      exact ⟨rfl, (layers entry member).isTagFree⟩
    · intro entry member
      rcases keys entry member with ⟨text, isKey⟩
      rw [isKey]
      exact ⟨rfl, (layers entry member).isProper⟩
    · intro entry member
      exact ⟨fields.texts entry member, (layers entry member).hasTextKeys⟩

theorem isLayer_of_at? {entries : Mapping} (fields : entries.HasFields)
    (each : ∀ text value, entries.at? text = some value → value.IsLayer) :
    (Document.mapping entries).IsLayer := by
  refine isLayer_mapping.mpr ⟨fields, ?_⟩
  rintro ⟨key, value⟩ member
  apply each key.keyText
  apply fields.at?_eq_some_iff.mpr
  rw [← fields.key_eq member]
  exact member

/-- Mappings that find values which are the same up to order are the same up to order. -/
theorem reordered_of_at? {entries others : Mapping} (fields : entries.HasFields)
    (otherFields : others.HasFields)
    (same : ∀ text, Option.Rel Reordered (entries.at? text) (others.at? text)) :
    (Document.mapping entries).Reordered (.mapping others) := by
  -- Each entry is matched with the entry that its text finds; distinct texts make this a
  -- permutation of the other entries.
  have matched : ∀ entry ∈ entries, ∃ other ∈ others, OneKey Reordered entry other := by
    rintro ⟨key, value⟩ member
    have isKey := fields.key_eq member
    have related := same key.keyText
    rw [isKey] at member
    rw [fields.at?_eq_some_iff.mpr member] at related
    cases found : others.at? key.keyText with
    | none =>
        rw [found] at related
        cases related
    | some other =>
        rw [found] at related
        cases related with
        | some reordered =>
            exact ⟨(.string key.keyText, other), otherFields.at?_eq_some_iff.mp found, isKey,
              reordered⟩
  choose! partner isOther oneKey using matched
  have keys : (entries.map partner).map Prod.fst = entries.map Prod.fst := by
    rw [List.map_map]
    exact List.map_congr_left fun entry member => (oneKey entry member).1.symm
  have chosen : Mapping.HasFields (entries.map partner) := fields.of_keys_eq keys
  rw [reordered_mapping]
  refine ⟨entries.map partner, ?_, ?_⟩
  · rw [List.forall₂_map_right_iff, List.forall₂_same]
    exact oneKey
  · rw [List.perm_ext_iff_of_nodup (chosen.distinct.of_map _) (otherFields.distinct.of_map _)]
    intro other
    constructor
    · intro member
      rcases List.mem_map.mp member with ⟨entry, isEntry, rfl⟩
      exact isOther entry isEntry
    · intro member
      have related := same other.1.keyText
      have own : (.string other.1.keyText, other.2) ∈ others := by
        rw [← otherFields.key_eq member]
        exact member
      rw [otherFields.at?_eq_some_iff.mpr own] at related
      cases found : entries.at? other.1.keyText with
      | none =>
          rw [found] at related
          cases related
      | some value =>
          have isEntry := fields.at?_eq_some_iff.mp found
          have sameText : (partner (.string other.1.keyText, value)).1.keyText =
              other.1.keyText := by
            rw [← (oneKey _ isEntry).1]
            rfl
          rw [← eq_of_keyText_eq otherFields.distinct (isOther _ isEntry) member sameText]
          exact List.mem_map_of_mem isEntry

end Document

end RuleSchema
