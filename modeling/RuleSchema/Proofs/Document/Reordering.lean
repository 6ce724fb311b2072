import RuleSchema.Proofs.Document.Addressing
import RuleSchema.Proofs.Document.Equality
import RuleSchema.Proofs.Document.Tags
import RuleSchema.Proofs.Value.Documents

/-!
# Documents and values in another order

Two documents are the same up to the order of entries when corresponding mappings have the same
keys in any order, and so are the values under one key.  What is a key stays as it is, since its
text is how the entry is known.  Documents that are the same up to order are equal, and
are read as values that are the same up to the order of the entries of maps.
-/

namespace RuleSchema

/-- Two lists whose elements correspond to each other, in any order. -/
def Rearranged {α β : Type} (related : α → β → Prop) (first : List α) (second : List β) : Prop :=
  ∃ changed, List.Forall₂ related first changed ∧ changed.Perm second

/-- Entries of one key, with corresponding values. -/
def OneKey {κ α : Type} (related : α → α → Prop) (first second : κ × α) : Prop :=
  first.1 = second.1 ∧ related first.2 second.2

namespace Rearranged

variable {α β γ δ : Type} {related : α → β → Prop} {other : γ → δ → Prop}
  {first third : List α} {second fourth : List β}

theorem of_forall₂ (each : List.Forall₂ related first second) : Rearranged related first second :=
  ⟨second, each, .refl second⟩

theorem trans_perm {others : List β} (rearranged : Rearranged related first second)
    (moved : second.Perm others) : Rearranged related first others := by
  rcases rearranged with ⟨changed, each, before⟩
  exact ⟨changed, each, before.trans moved⟩

theorem and_left {holds : α → Prop} (rearranged : Rearranged related first second)
    (each : ∀ one ∈ first, holds one) :
    Rearranged (fun one two => holds one ∧ related one two) first second := by
  rcases rearranged with ⟨changed, corresponds, moved⟩
  exact ⟨changed, (List.forall₂_and_left _ _).mpr ⟨each, corresponds⟩, moved⟩

theorem append (before : Rearranged related first second)
    (after : Rearranged related third fourth) :
    Rearranged related (first ++ third) (second ++ fourth) := by
  rcases before with ⟨changed, each, moved⟩
  rcases after with ⟨others, otherEach, otherMoved⟩
  exact ⟨changed ++ others, List.rel_append each otherEach, moved.append otherMoved⟩

theorem map {left : α → γ} {right : β → δ} (rearranged : Rearranged related first second)
    (keeps : ∀ one two, related one two → other (left one) (right two)) :
    Rearranged other (first.map left) (second.map right) := by
  rcases rearranged with ⟨changed, each, moved⟩
  refine ⟨changed.map right, ?_, moved.map right⟩
  rw [List.forall₂_map_left_iff, List.forall₂_map_right_iff]
  exact each.imp keeps

theorem filterMap {left : α → Option γ} {right : β → Option δ}
    (rearranged : Rearranged related first second)
    (keeps : ∀ one two, related one two → Option.Rel other (left one) (right two)) :
    Rearranged other (first.filterMap left) (second.filterMap right) := by
  rcases rearranged with ⟨changed, each, moved⟩
  exact ⟨changed.filterMap right, List.rel_filterMap (fun one two => keeps one two) each,
    moved.filterMap right⟩

theorem isEmpty_eq (rearranged : Rearranged related first second) :
    first.isEmpty = second.isEmpty := by
  rcases rearranged with ⟨changed, each, moved⟩
  rw [← moved.isEmpty_eq]
  cases each <;> rfl

theorem exists_of_forall₂ (each : List.Forall₂ related first second) {one : α}
    (member : one ∈ first) : ∃ two ∈ second, related one two := by
  induction each with
  | nil => cases member
  | cons here _ ih =>
      rcases List.mem_cons.mp member with rfl | later
      · exact ⟨_, List.mem_cons_self, here⟩
      · rcases ih later with ⟨two, known, corresponds⟩
        exact ⟨two, List.mem_cons_of_mem _ known, corresponds⟩

theorem exists_of_mem_left (rearranged : Rearranged related first second) {one : α}
    (member : one ∈ first) : ∃ two ∈ second, related one two := by
  rcases rearranged with ⟨changed, each, moved⟩
  rcases exists_of_forall₂ each member with ⟨two, known, corresponds⟩
  exact ⟨two, moved.mem_iff.mp known, corresponds⟩

theorem exists_of_mem_right (rearranged : Rearranged related first second) {two : β}
    (member : two ∈ second) : ∃ one ∈ first, related one two := by
  rcases rearranged with ⟨changed, each, moved⟩
  have reversed : List.Forall₂ (flip related) changed first := List.Forall₂.flip each
  exact exists_of_forall₂ reversed (moved.mem_iff.mpr member)

theorem length_eq (rearranged : Rearranged related first second) :
    first.length = second.length := by
  rcases rearranged with ⟨changed, each, moved⟩
  rw [each.length_eq, moved.length_eq]

/-- Rearranged entries have the same keys, in any order. -/
theorem perm_keys {κ : Type} {related : α → α → Prop} {entries others : List (κ × α)}
    (rearranged : Rearranged (OneKey related) entries others) :
    (entries.map Prod.fst).Perm (others.map Prod.fst) := by
  rcases rearranged with ⟨changed, each, moved⟩
  have same : entries.map Prod.fst = changed.map Prod.fst := by
    clear moved
    induction each with
    | nil => rfl
    | cons here _ ih => rw [List.map_cons, List.map_cons, here.1, ih]
  rw [same]
  exact moved.map Prod.fst

/-- Where the texts of keys are distinct, they are so in any order. -/
theorem nodup_texts {related : Document → Document → Prop} {entries others : Mapping}
    (rearranged : Rearranged (OneKey related) entries others)
    (distinct : (entries.map fun entry => entry.1.keyText).Nodup) :
    (others.map fun entry => entry.1.keyText).Nodup := by
  have texts (entries : Mapping) : (entries.map Prod.fst).map Document.keyText =
      entries.map fun entry => entry.1.keyText := List.map_map
  rw [← texts, ← (rearranged.perm_keys.map Document.keyText).nodup_iff, texts]
  exact distinct

end Rearranged

namespace Document

mutual

/-- Whether two documents are the same up to the order of entries, outside of keys and tags. -/
def Reordered : Document → Document → Prop
  | .sequence items, .sequence others => ItemsReordered items others
  | .mapping entries, .mapping others =>
      ∃ changed : Mapping, ValuesReordered entries changed ∧ changed.Perm others
  | first, second => first = second

/-- Sequences whose items are reordered one by one. -/
def ItemsReordered : List Document → List Document → Prop
  | [], [] => True
  | item :: rest, other :: others => Reordered item other ∧ ItemsReordered rest others
  | _, _ => False

/-- Mappings with the same keys in the same order, whose values are reordered one by one. -/
def ValuesReordered : List (Document × Document) → List (Document × Document) → Prop
  | [], [] => True
  | (key, value) :: rest, (otherKey, other) :: others =>
      (key = otherKey ∧ Reordered value other) ∧ ValuesReordered rest others
  | _, _ => False

end

variable {items others : List Document} {entries otherEntries : Mapping}
  {first second : Document}

theorem reordered_sequence :
    Reordered (.sequence items) (.sequence others) ↔ List.Forall₂ Reordered items others := by
  rw [Reordered]
  induction items generalizing others with
  | nil => cases others <;> simp [ItemsReordered]
  | cons item rest ih => cases others <;> simp [ItemsReordered, ih]

theorem reordered_mapping :
    Reordered (.mapping entries) (.mapping otherEntries) ↔
      Rearranged (OneKey Reordered) entries otherEntries := by
  have values (changed : Mapping) :
      ValuesReordered entries changed ↔ List.Forall₂ (OneKey Reordered) entries changed := by
    induction entries generalizing changed with
    | nil => cases changed <;> simp [ValuesReordered]
    | cons entry rest ih => cases changed <;> simp [ValuesReordered, ih, OneKey]
  simp only [Reordered, values, Rearranged]

/-- A document is the same as itself up to order. -/
theorem Reordered.refl (document : Document) : document.Reordered document := by
  induction document using memberInduction with
  | sequence items each =>
      rw [reordered_sequence, List.forall₂_same]
      exact each
  | mapping entries each =>
      rw [reordered_mapping]
      apply Rearranged.of_forall₂
      rw [List.forall₂_same]
      exact fun entry member => ⟨rfl, (each entry.1 entry.2 member).2⟩
  | _ => simp [Reordered]

/-- What stands in the place of a document is that document, or a container of its kind. -/
theorem Reordered.container (reordered : first.Reordered second) :
    first = second ∨
      (∃ items others, first = .sequence items ∧ second = .sequence others ∧
        List.Forall₂ Reordered items others) ∨
      ∃ entries others, first = .mapping entries ∧ second = .mapping others ∧
        Rearranged (OneKey Reordered) entries others := by
  cases first with
  | sequence items =>
      cases second with
      | sequence others =>
          exact .inr (.inl ⟨items, others, rfl, rfl, reordered_sequence.mp reordered⟩)
      | _ => simp [Reordered] at reordered
  | mapping entries =>
      cases second with
      | mapping others =>
          exact .inr (.inr ⟨entries, others, rfl, rfl, reordered_mapping.mp reordered⟩)
      | _ => simp [Reordered] at reordered
  | _ =>
      left
      simpa [Reordered] using reordered

/-- What is read alike from all sequences, and from all mappings, does not depend on order. -/
theorem Reordered.read_eq {α : Type} {read : Document → α} (reordered : first.Reordered second)
    (sequences : ∀ items others, read (.sequence items) = read (.sequence others))
    (mappings : ∀ entries others, read (.mapping entries) = read (.mapping others)) :
    read first = read second := by
  rcases reordered.container with rfl | ⟨items, others, rfl, rfl, -⟩ |
    ⟨entries, others, rfl, rfl, -⟩
  · rfl
  · exact sequences items others
  · exact mappings entries others

/-! ## Equality -/

theorem Reordered.isProper (reordered : first.Reordered second) (proper : first.isProper = true) :
    second.isProper = true := by
  induction first using memberInduction generalizing second with
  | sequence items each =>
      rcases reordered.container with rfl | ⟨_, others, ⟨⟩, rfl, related⟩ | ⟨_, _, ⟨⟩, -⟩
      · exact proper
      · rw [isProper_sequence] at proper ⊢
        intro other member
        rcases (Rearranged.of_forall₂ related).exists_of_mem_right member with
          ⟨item, isItem, reordered⟩
        exact each item isItem reordered (proper item isItem)
  | mapping entries each =>
      rcases reordered.container with rfl | ⟨_, _, ⟨⟩, -⟩ | ⟨_, others, ⟨⟩, rfl, related⟩
      · exact proper
      · rw [isProper_mapping] at proper ⊢
        have members : ∀ other ∈ others, other.1.isProper = true ∧ other.2.isProper = true := by
          intro other member
          rcases related.exists_of_mem_right member with ⟨entry, isEntry, key, value⟩
          rw [← key]
          exact (proper.2 entry isEntry).imp_right
            ((each entry.1 entry.2 isEntry).2 value)
        refine ⟨?_, members⟩
        -- Proper keys differ in either direction, so their order is of no account.
        have differ : (entries.map Prod.fst).Pairwise fun one two =>
            one.isProper = true → two.isProper = true → one.beq two = false := by
          rw [List.pairwise_map]
          exact proper.1.imp fun differ _ _ => differ
        have moved := (related.perm_keys.pairwise_iff fun differ twoProper oneProper =>
          (beq_comm twoProper oneProper).trans (differ oneProper twoProper)).mp differ
        rw [List.pairwise_map] at moved
        exact moved.imp_of_mem fun oneMember twoMember differ =>
          differ (members _ oneMember).1 (members _ twoMember).1
  | _ =>
      rcases reordered.container with rfl | ⟨_, _, ⟨⟩, -⟩ | ⟨_, _, ⟨⟩, -⟩
      exact proper

/-- Proper documents that are the same up to order are equal. -/
theorem Reordered.beq (reordered : first.Reordered second) (proper : first.isProper = true) :
    first.beq second = true := by
  induction first using memberInduction generalizing second with
  | sequence items each =>
      rcases reordered.container with rfl | ⟨_, others, ⟨⟩, rfl, related⟩ | ⟨_, _, ⟨⟩, -⟩
      · exact (isCoherent_of_isProper proper).refl
      · rw [isProper_sequence] at proper
        rw [Document.beq]
        clear reordered
        induction related with
        | nil => rfl
        | cons here _ ih =>
            rcases List.forall_mem_cons.mp each with ⟨first, later⟩
            rcases List.forall_mem_cons.mp proper with ⟨firstProper, laterProper⟩
            rw [beqItems, first here firstProper, ih later laterProper]
            rfl
  | mapping entries each =>
      have moved := reordered.isProper proper
      rcases reordered.container with rfl | ⟨_, _, ⟨⟩, -⟩ | ⟨_, others, ⟨⟩, rfl, related⟩
      · exact (isCoherent_of_isProper proper).refl
      · rw [Document.beq, related.length_eq, beq_self_eq_true, beqEntries_eq_all, Bool.true_and,
          List.all_eq_true]
        intro entry member
        rcases related.exists_of_mem_left member with ⟨other, isOther, key, value⟩
        rw [isEntryOf, key, (areCoherent_of_isProper moved).find?_eq isOther]
        exact (each entry.1 entry.2 member).2 value ((isProper_mapping.mp proper).2 entry member).2
  | _ =>
      rcases reordered.container with rfl | ⟨_, _, ⟨⟩, -⟩ | ⟨_, _, ⟨⟩, -⟩
      exact (isCoherent_of_isProper proper).refl

/-- Proper documents that are the same up to order equal the same documents. -/
theorem Reordered.beq_eq (reordered : first.Reordered second) (proper : first.isProper = true)
    {option : Document} (optionProper : option.isProper = true) :
    option.beq first = option.beq second := by
  have secondProper := reordered.isProper proper
  rw [beq_comm optionProper proper, beq_comm optionProper secondProper]
  exact ((isCoherent_of_isProper proper).congr second option secondProper optionProper
    (reordered.beq proper)).symm

end Document

namespace Value

mutual

/-- Whether two values are the same up to the order of the entries of maps. -/
def Reordered : Value → Value → Prop
  | .list items, .list others => ItemsReordered items others
  | .map entries, .map others =>
      ∃ changed : NameMap Value, EntriesReordered entries changed ∧ changed.Perm others
  | .record name fields, .record other others => name = other ∧ EntriesReordered fields others
  | first, second => first = second

/-- Lists whose items are reordered one by one. -/
def ItemsReordered : List Value → List Value → Prop
  | [], [] => True
  | item :: rest, other :: others => Reordered item other ∧ ItemsReordered rest others
  | _, _ => False

/-- Maps with the same names in the same order, whose values are reordered one by one. -/
def EntriesReordered : List (String × Value) → List (String × Value) → Prop
  | [], [] => True
  | (name, value) :: rest, (otherName, other) :: others =>
      (name = otherName ∧ Reordered value other) ∧ EntriesReordered rest others
  | _, _ => False

end

variable {items others : List Value} {entries otherEntries : NameMap Value}
  {name otherName : String}

theorem reordered_list :
    Reordered (.list items) (.list others) ↔ List.Forall₂ Reordered items others := by
  rw [Reordered]
  induction items generalizing others with
  | nil => cases others <;> simp [ItemsReordered]
  | cons item rest ih => cases others <;> simp [ItemsReordered, ih]

theorem entriesReordered_iff :
    EntriesReordered entries otherEntries ↔
      List.Forall₂ (OneKey Reordered) entries otherEntries := by
  induction entries generalizing otherEntries with
  | nil => cases otherEntries <;> simp [EntriesReordered]
  | cons entry rest ih => cases otherEntries <;> simp [EntriesReordered, ih, OneKey]

theorem reordered_map :
    Reordered (.map entries) (.map otherEntries) ↔
      Rearranged (OneKey Reordered) entries otherEntries := by
  simp only [Reordered, entriesReordered_iff, Rearranged]

theorem reordered_record :
    Reordered (.record name entries) (.record otherName otherEntries) ↔
      name = otherName ∧ List.Forall₂ (OneKey Reordered) entries otherEntries := by
  rw [Reordered, entriesReordered_iff]

mutual

/-- A value is the same as itself up to order. -/
theorem Reordered.refl : ∀ value : Value, value.Reordered value
  | .list items => by
      rw [Reordered]
      exact ItemsReordered.refl items
  | .map entries => by
      rw [Reordered]
      exact ⟨entries, EntriesReordered.refl entries, .refl entries⟩
  | .record name fields => by
      rw [Reordered]
      exact ⟨rfl, EntriesReordered.refl fields⟩
  | .null | .bool _ | .int _ | .float _ | .string _ | .path _ => by
      simp [Reordered]

theorem ItemsReordered.refl : ∀ items : List Value, ItemsReordered items items
  | [] => trivial
  | item :: rest => ⟨Reordered.refl item, ItemsReordered.refl rest⟩

theorem EntriesReordered.refl : ∀ entries : List (String × Value), EntriesReordered entries entries
  | [] => trivial
  | (_, value) :: rest => ⟨⟨rfl, Reordered.refl value⟩, EntriesReordered.refl rest⟩

end

/-- A document is read as the same value in whatever order its entries come. -/
theorem reordered_ofDocument {first second : Document} (reordered : first.Reordered second)
    (distinct : first.hasDistinctTexts = true) :
    (ofDocument first).Reordered (ofDocument second) := by
  induction first using Document.memberInduction generalizing second with
  | sequence items each =>
      rcases reordered.container with rfl | ⟨_, others, ⟨⟩, rfl, related⟩ | ⟨_, _, ⟨⟩, -⟩
      · exact Reordered.refl _
      · have members : List.Forall₂
            (fun item other => (item ∈ items ∧ item.hasDistinctTexts = true) ∧
              item.Reordered other) items others :=
          (List.forall₂_and_left _ _).mpr
            ⟨fun item member =>
              ⟨member, Document.hasDistinctTexts_sequence.mp distinct item member⟩, related⟩
        rw [ofDocument, ofDocument, ofItems_eq_map, ofItems_eq_map, reordered_list,
          List.forall₂_map_left_iff, List.forall₂_map_right_iff]
        exact members.imp fun item other here => each item here.1.1 here.2 here.1.2
  | mapping entries each =>
      rcases reordered.container with rfl | ⟨_, _, ⟨⟩, -⟩ | ⟨_, others, ⟨⟩, rfl, related⟩
      · exact Reordered.refl _
      · rw [Document.hasDistinctTexts_mapping] at distinct
        have names (entries : Mapping) : NameMap.names (ofMappingEntries entries) =
            entries.map fun entry => entry.1.keyText := by
          rw [ofMappingEntries_eq_map, NameMap.names, List.map_map]
          rfl
        have ownNames := (names entries).symm ▸ distinct.1
        have otherNames := (names others).symm ▸ related.nodup_texts distinct.1
        rw [ofDocument, ofDocument, NameMap.ofEntries_of_nodup ownNames,
          NameMap.ofEntries_of_nodup otherNames, reordered_map, ofMappingEntries_eq_map,
          ofMappingEntries_eq_map]
        exact (related.and_left fun entry member => And.intro member (distinct.2 entry member)).map
          fun entry other here =>
            ⟨congrArg Document.keyText here.2.1,
              (each entry.1 entry.2 here.1.1).2 here.2.2 here.1.2⟩
  | _ =>
      rcases reordered.container with rfl | ⟨_, _, ⟨⟩, -⟩ | ⟨_, _, ⟨⟩, -⟩
      exact Reordered.refl _

end Value

end RuleSchema
