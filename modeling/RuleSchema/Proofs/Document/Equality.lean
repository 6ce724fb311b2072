import Mathlib.Data.List.Forall2
import Mathlib.Data.List.Nodup
import Mathlib.Data.List.Perm.Subperm
import RuleSchema.Proofs.Document.Induction

/-!
# Equality of documents

Equality looks for each entry of one mapping in the other, which says nothing of entries that
are only in the other one, or of keys that come twice.  Where the keys of every mapping are
distinct, equal documents compare alike with every other document, and equality is reflexive,
symmetric and transitive.
-/

namespace RuleSchema

/-- Equal numbers compare alike with every other number. -/
theorem Number.beq_congr {number other : Number} (same : number.beq other = true)
    (third : Number) : other.beq third = number.beq third := by
  cases number <;> cases other <;> cases third <;> simp_all [beq]

namespace Document

mutual

/-- Whether no two keys of one mapping are equal, at any depth of keys and values. -/
def isProper : Document → Bool
  | .sequence items => itemsAreProper items
  | .mapping entries => entriesAreProper entries
  | .tagged _ value => isProper value
  | _ => true

/-- Whether every item is proper. -/
def itemsAreProper : List Document → Bool
  | [] => true
  | item :: rest => isProper item && itemsAreProper rest

/-- Whether no two keys are equal, and every key and value is proper. -/
def entriesAreProper : List (Document × Document) → Bool
  | [] => true
  | (key, value) :: rest =>
      isProper key && isProper value && rest.all (fun entry => !key.beq entry.1) &&
        entriesAreProper rest

end

variable {items : List Document} {entries others : Mapping} {document other : Document}

theorem isProper_sequence :
    isProper (.sequence items) = true ↔ ∀ item ∈ items, item.isProper = true := by
  rw [isProper]
  induction items with
  | nil => simp [itemsAreProper]
  | cons item rest ih => simp [itemsAreProper, ih]

theorem isProper_mapping :
    isProper (.mapping entries) = true ↔
      entries.Pairwise (fun first second => first.1.beq second.1 = false) ∧
        ∀ entry ∈ entries, entry.1.isProper = true ∧ entry.2.isProper = true := by
  rw [isProper]
  induction entries with
  | nil => simp [entriesAreProper]
  | cons entry rest ih =>
      rw [entriesAreProper]
      simp only [Bool.and_eq_true, List.all_eq_true, Bool.not_eq_true', ih,
        List.pairwise_cons, List.forall_mem_cons]
      tauto

/-! ## Equality of containers -/

/-- Whether an equal entry is found under an equal key. -/
def isEntryOf (entries : Mapping) (entry : Document × Document) : Bool :=
  (entries.find? fun other => entry.1.beq other.1).any fun other => entry.2.beq other.2

theorem beqEntries_eq_all : beqEntries entries others = entries.all (isEntryOf others) := by
  induction entries with
  | nil => rfl
  | cons entry rest ih =>
      rw [beqEntries, List.all_cons, ih, isEntryOf]
      cases others.find? fun other => entry.1.beq other.1 <;> rfl

/-- Documents equal to a document compare as it does. -/
structure IsCoherent (document : Document) : Prop where
  refl : document.beq document = true
  congr : ∀ first second, first.isProper = true → second.isProper = true →
    document.beq first = true → first.beq second = document.beq second

theorem IsCoherent.symm (coherent : document.IsCoherent) (proper : document.isProper = true)
    (otherProper : other.isProper = true) (same : document.beq other = true) :
    other.beq document = true :=
  (coherent.congr other document otherProper proper same).trans coherent.refl

/-- The members of a mapping whose keys and values are proper and coherent. -/
structure AreCoherent (entries : Mapping) : Prop where
  differ : entries.Pairwise fun first second => first.1.beq second.1 = false
  proper : ∀ entry ∈ entries, entry.1.isProper = true ∧ entry.2.isProper = true
  each : ∀ entry ∈ entries, entry.1.IsCoherent ∧ entry.2.IsCoherent

namespace AreCoherent

/-- Entries with equal keys are one entry. -/
theorem unique (coherent : AreCoherent entries) {first second : Document × Document}
    (firstMember : first ∈ entries) (secondMember : second ∈ entries)
    (same : first.1.beq second.1 = true) : first = second := by
  refine List.Pairwise.forall_of_forall_of_flip
    (R := fun first second => first.1.beq second.1 = true → first = second)
    (fun _ _ _ => rfl) ?_ ?_ firstMember secondMember same
  · exact coherent.differ.imp fun differs equal => by simp [differs] at equal
  · refine coherent.differ.imp_of_mem fun {left right} leftMember rightMember differs equal => ?_
    have reversed := (coherent.each right rightMember).1.symm (coherent.proper right rightMember).1
      (coherent.proper left leftMember).1 equal
    simp [differs] at reversed

/-- The entry of an equal key is found. -/
theorem find?_eq (coherent : AreCoherent entries) {entry : Document × Document}
    (member : entry ∈ entries) :
    entries.find? (fun other => entry.1.beq other.1) = some entry := by
  cases found : entries.find? fun other => entry.1.beq other.1 with
  | none =>
      have missed := List.find?_eq_none.mp found entry member
      exact absurd (coherent.each entry member).1.refl missed
  | some other =>
      have same : entry.1.beq other.1 = true := by simpa using List.find?_some found
      rw [coherent.unique member (List.mem_of_find?_eq_some found) same]

/-- Where each entry of a mapping has an equal one in a mapping of as many, all are matched. -/
theorem exists_perm (coherent : AreCoherent entries) (count : entries.length = others.length)
    (proper : ∀ entry ∈ others, entry.1.isProper = true)
    (covered : beqEntries entries others = true) :
    ∃ chosen : Mapping, chosen.Perm others ∧
      List.Forall₂ (fun entry other => entry.1.beq other.1 = true ∧ entry.2.beq other.2 = true)
        entries chosen := by
  rw [beqEntries_eq_all, List.all_eq_true] at covered
  have each : ∀ entry ∈ entries, ∃ other ∈ others,
      entry.1.beq other.1 = true ∧ entry.2.beq other.2 = true := by
    intro entry member
    have isEntry := covered entry member
    rw [isEntryOf, Option.any_eq_true] at isEntry
    rcases isEntry with ⟨other, found, same⟩
    exact
      ⟨other, List.mem_of_find?_eq_some found, by simpa using List.find?_some found, same⟩
  choose! partner partnerMember keys values using each
  have matched : ∀ entry ∈ entries, entry.1.beq (partner entry).1 = true ∧
      entry.2.beq (partner entry).2 = true :=
    fun entry member => ⟨keys entry member, values entry member⟩
  refine ⟨entries.map partner, ?_, ?_⟩
  · have distinct : (entries.map partner).Nodup := by
      refine List.Nodup.map_on ?_ ?_
      · intro first firstMember second secondMember same
        have again := (coherent.each second secondMember).1.symm
          (coherent.proper second secondMember).1
          (proper _ (partnerMember second secondMember)) (keys second secondMember)
        apply coherent.unique firstMember secondMember
        rw [← (coherent.each first firstMember).1.congr (partner first).1 second.1
          (proper _ (partnerMember first firstMember)) (coherent.proper second secondMember).1
          (keys first firstMember), same]
        exact again
      · refine coherent.differ.imp_of_mem fun {left right} leftMember _ differs equal => ?_
        rw [← equal, (coherent.each left leftMember).1.refl] at differs
        cases differs
    have inside : entries.map partner ⊆ others := by
      intro other member
      rcases List.mem_map.mp member with ⟨entry, isEntry, rfl⟩
      exact partnerMember entry isEntry
    have enough : others.length ≤ (entries.map partner).length :=
      Nat.le_of_eq (count.symm.trans (List.length_map partner).symm)
    exact (List.subperm_of_subset distinct inside).perm_of_length_le enough
  · rw [List.forall₂_map_right_iff, List.forall₂_same]
    exact matched

end AreCoherent

/-- An entry is found where one that is equal to it is. -/
theorem isEntryOf_congr {entry other : Document × Document} (key : entry.1.IsCoherent)
    (value : entry.2.IsCoherent) (otherProper : other.1.isProper = true ∧ other.2.isProper = true)
    (proper : ∀ entry ∈ entries, entry.1.isProper = true ∧ entry.2.isProper = true)
    (sameKey : entry.1.beq other.1 = true) (sameValue : entry.2.beq other.2 = true) :
    isEntryOf entries other = isEntryOf entries entry := by
  have keys : entries.find? (fun known => other.1.beq known.1) =
      entries.find? fun known => entry.1.beq known.1 := by
    rw [← List.head?_filter, ← List.head?_filter]
    exact congrArg List.head? (List.filter_congr fun known member =>
      key.congr other.1 known.1 otherProper.1 (proper known member).1 sameKey)
  rw [isEntryOf, isEntryOf, keys]
  cases found : entries.find? fun known => entry.1.beq known.1 with
  | none => rfl
  | some known =>
      have member := List.mem_of_find?_eq_some found
      exact value.congr other.2 known.2 otherProper.2 (proper known member).2 sameValue

theorem beqItems_refl (each : ∀ item ∈ items, item.IsCoherent) : beqItems items items = true := by
  induction items with
  | nil => rfl
  | cons item rest ih =>
      rcases List.forall_mem_cons.mp each with ⟨first, others⟩
      rw [beqItems, first.refl, ih others]
      rfl

theorem beqItems_congr (each : ∀ item ∈ items, item.IsCoherent) {first second : List Document}
    (firstProper : ∀ item ∈ first, item.isProper = true)
    (secondProper : ∀ item ∈ second, item.isProper = true)
    (same : beqItems items first = true) : beqItems first second = beqItems items second := by
  induction items generalizing first second with
  | nil =>
      cases first with
      | nil => rfl
      | cons other others => cases same
  | cons item rest ih =>
      cases first with
      | nil => cases same
      | cons other others =>
          rw [beqItems, Bool.and_eq_true] at same
          rcases List.forall_mem_cons.mp each with ⟨own, later⟩
          rcases List.forall_mem_cons.mp firstProper with ⟨otherProper, othersProper⟩
          cases second with
          | nil => rfl
          | cons third thirds =>
              rcases List.forall_mem_cons.mp secondProper with ⟨thirdProper, thirdsProper⟩
              rw [beqItems, beqItems, own.congr other third otherProper thirdProper same.1,
                ih later othersProper thirdsProper same.2]

theorem all_isEntryOf_congr {chosen : Mapping}
    (each : ∀ entry ∈ entries, entry.1.IsCoherent ∧ entry.2.IsCoherent)
    (chosenProper : ∀ entry ∈ chosen, entry.1.isProper = true ∧ entry.2.isProper = true)
    (proper : ∀ entry ∈ others, entry.1.isProper = true ∧ entry.2.isProper = true)
    (matched : List.Forall₂
      (fun entry other => entry.1.beq other.1 = true ∧ entry.2.beq other.2 = true)
      entries chosen) :
    chosen.all (isEntryOf others) = entries.all (isEntryOf others) := by
  induction matched with
  | nil => rfl
  | cons here _ ih =>
      rcases List.forall_mem_cons.mp each with ⟨own, later⟩
      rcases List.forall_mem_cons.mp chosenProper with ⟨otherProper, laterProper⟩
      rw [List.all_cons, List.all_cons, ih later laterProper,
        isEntryOf_congr own.1 own.2 otherProper proper here.1 here.2]

/-- A mapping of proper and coherent members is coherent. -/
theorem AreCoherent.isCoherent (coherent : AreCoherent entries) :
    (mapping entries).IsCoherent where
  refl := by
    rw [beq, beqEntries_eq_all, Bool.and_eq_true, List.all_eq_true, beq_self_eq_true]
    refine ⟨rfl, fun entry member => ?_⟩
    rw [isEntryOf, coherent.find?_eq member]
    exact (coherent.each entry member).2.refl
  congr first second firstProper secondProper same := by
    cases first with
    | mapping others =>
        cases second with
        | mapping thirds =>
            rw [beq, Bool.and_eq_true, beq_iff_eq] at same
            rcases same with ⟨count, covered⟩
            have othersProper := (isProper_mapping.mp firstProper).2
            have thirdsProper := (isProper_mapping.mp secondProper).2
            rcases coherent.exists_perm count (fun entry member => (othersProper entry member).1)
              covered with ⟨chosen, perm, matched⟩
            have found : others.all (isEntryOf thirds) = entries.all (isEntryOf thirds) := by
              rw [← perm.all_eq]
              exact all_isEntryOf_congr coherent.each
                (fun entry member => othersProper entry (perm.mem_iff.mp member)) thirdsProper
                matched
            rw [beq, beq, beqEntries_eq_all, beqEntries_eq_all, found, count]
        | _ => rfl
    | _ => cases same

/-- A proper document is coherent. -/
theorem isCoherent_of_isProper (proper : document.isProper = true) : document.IsCoherent := by
  induction document using memberInduction with
  | null =>
      refine ⟨rfl, fun first second _ _ same => ?_⟩
      cases first <;> first | rfl | cases same
  | bool value =>
      refine ⟨beq_self_eq_true value, fun first second _ _ same => ?_⟩
      cases first with
      | bool other => rw [eq_of_beq same]
      | _ => cases same
  | string value =>
      refine ⟨beq_self_eq_true value, fun first second _ _ same => ?_⟩
      cases first with
      | string other => rw [eq_of_beq same]
      | _ => cases same
  | number value =>
      refine ⟨Number.beq_refl value, fun first second _ _ same => ?_⟩
      cases first with
      | number other =>
          cases second with
          | number third => exact Number.beq_congr same third
          | _ => rfl
      | _ => cases same
  | sequence items each =>
      rw [isProper_sequence] at proper
      have coherent : ∀ item ∈ items, item.IsCoherent :=
        fun item member => each item member (proper item member)
      refine ⟨beqItems_refl coherent, fun first second firstProper secondProper same => ?_⟩
      cases first with
      | sequence others =>
          cases second with
          | sequence thirds =>
              exact beqItems_congr coherent (isProper_sequence.mp firstProper)
                (isProper_sequence.mp secondProper) same
          | _ => rfl
      | _ => cases same
  | mapping entries each =>
      rw [isProper_mapping] at proper
      have coherent : AreCoherent entries :=
        { differ := proper.1
          proper := proper.2
          each := fun entry member =>
            (each entry.1 entry.2 member).imp (· (proper.2 entry member).1)
              (· (proper.2 entry member).2) }
      exact coherent.isCoherent
  | tagged name inner ih =>
      have coherent := ih proper
      refine ⟨?_, fun first second firstProper secondProper same => ?_⟩
      · rw [beq, coherent.refl, beq_self_eq_true]
        rfl
      · cases first with
        | tagged otherName other =>
            rw [beq, Bool.and_eq_true] at same
            cases second with
            | tagged thirdName third =>
                rw [beq, beq, coherent.congr other third firstProper secondProper same.2,
                  eq_of_beq same.1]
            | _ => rfl
        | _ => cases same

theorem areCoherent_of_isProper (proper : (mapping entries).isProper = true) :
    AreCoherent entries where
  differ := (isProper_mapping.mp proper).1
  proper := (isProper_mapping.mp proper).2
  each entry member :=
    ((isProper_mapping.mp proper).2 entry member).imp isCoherent_of_isProper
      isCoherent_of_isProper

/-- Proper documents are equal in either direction. -/
theorem beq_comm (proper : document.isProper = true) (otherProper : other.isProper = true) :
    document.beq other = other.beq document := by
  rw [Bool.eq_iff_iff]
  exact
    ⟨(isCoherent_of_isProper proper).symm proper otherProper,
      (isCoherent_of_isProper otherProper).symm otherProper proper⟩

theorem beq_trans {third : Document} (proper : document.isProper = true)
    (otherProper : other.isProper = true) (thirdProper : third.isProper = true)
    (first : document.beq other = true) (second : other.beq third = true) :
    document.beq third = true :=
  ((isCoherent_of_isProper proper).congr other third otherProper thirdProper first).symm.trans
    second

end Document

end RuleSchema
