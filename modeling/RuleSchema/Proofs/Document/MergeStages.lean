import RuleSchema.Proofs.Document.Merging

/-!
# Merging in stages

Documents that agree on where they have mappings can be merged in stages: merging two parts of
a list first, and then what came of them, gives what merging the whole list gives, in the same
order at every depth.  Copies of one document merge to that document.

Agreement is needed: a value that is no mapping lets the last value stand alone, and whether one
stands between two mappings can be seen in the whole list, but no more once a part is merged.
-/

namespace RuleSchema.Document

variable {document value key : Document} {documents lower upper values keys : List Document}
  {entries : Mapping}

/-- The value under a path of keys, each of which is looked up in the mapping found so far. -/
def under? : List Document → Document → Option Document
  | [], document => some document
  | key :: rest, document => (value? key document).bind (under? rest)

/-- The documents that have values under a path of keys all have mappings there, or none has. -/
def AgreeOnMappings (documents : List Document) : Prop :=
  ∀ first ∈ documents, ∀ second ∈ documents, ∀ keys one other,
    (∀ key ∈ keys, key.isProper = true) →
      under? keys first = some one → under? keys second = some other →
        one.isMapping = other.isMapping

/-- A document without tags whose keys are distinct, at any depth. -/
def IsPlain (document : Document) : Prop := document.isTagFree = true ∧ document.isProper = true

theorem IsPlain.of_value? (plain : document.IsPlain) (found : value? key document = some value) :
    value.IsPlain :=
  ⟨isTagFree_of_value? plain.1 found, isProper_of_value? plain.2 found⟩

theorem agreeOnMappings_iff :
    AgreeOnMappings documents ↔
      (∀ first ∈ documents, ∀ second ∈ documents, first.isMapping = second.isMapping) ∧
        ∀ key, key.isProper = true → AgreeOnMappings (valuesUnder key documents) := by
  constructor
  · intro agree
    refine ⟨fun first isFirst second isSecond =>
      agree first isFirst second isSecond [] _ _ (by simp) rfl rfl, ?_⟩
    intro key keyProper one isOne other isOther keys below otherBelow proper reached otherReached
    rcases mem_valuesUnder_iff.mp isOne with ⟨first, isFirst, found⟩
    rcases mem_valuesUnder_iff.mp isOther with ⟨second, isSecond, otherFound⟩
    apply agree first isFirst second isSecond (key :: keys) _ _
      (List.forall_mem_cons.mpr ⟨keyProper, proper⟩)
    · rw [under?, found]
      exact reached
    · rw [under?, otherFound]
      exact otherReached
  · rintro ⟨here, below⟩ first isFirst second isSecond keys one other proper found otherFound
    cases keys with
    | nil =>
        cases found
        cases otherFound
        exact here first isFirst second isSecond
    | cons key keys =>
        rcases Option.bind_eq_some_iff.mp found with ⟨inner, isInner, reached⟩
        rcases Option.bind_eq_some_iff.mp otherFound with ⟨otherInner, isOtherInner, otherReached⟩
        rcases List.forall_mem_cons.mp proper with ⟨keyProper, restProper⟩
        exact below key keyProper inner (mem_valuesUnder_iff.mpr ⟨first, isFirst, isInner⟩)
          otherInner (mem_valuesUnder_iff.mpr ⟨second, isSecond, isOtherInner⟩) keys one other
          restProper reached otherReached

theorem AgreeOnMappings.isMapping_eq (agree : AgreeOnMappings documents) {first second : Document}
    (isFirst : first ∈ documents) (isSecond : second ∈ documents) :
    first.isMapping = second.isMapping :=
  (agreeOnMappings_iff.mp agree).1 first isFirst second isSecond

theorem AgreeOnMappings.below (agree : AgreeOnMappings documents)
    (keyProper : key.isProper = true) : AgreeOnMappings (valuesUnder key documents) :=
  (agreeOnMappings_iff.mp agree).2 key keyProper

/-- Documents whose keys are texts agree if they do so under each of the texts. -/
theorem agreeOnMappings_of_texts (texts : List String)
    (keys : documents.flatMap keysIn = texts.map Document.string)
    (same : ∀ first ∈ documents, ∀ second ∈ documents, first.isMapping = second.isMapping)
    (each : ∀ text ∈ texts, AgreeOnMappings (valuesUnder (.string text) documents)) :
    AgreeOnMappings documents := by
  refine agreeOnMappings_iff.mpr ⟨same, fun key _ => ?_⟩
  cases empty : (valuesUnder key documents).isEmpty with
  | true =>
      rw [List.isEmpty_iff.mp empty]
      intro first isFirst
      cases isFirst
  | false =>
      rw [isEmpty_valuesUnder, Bool.not_eq_false', keys, List.any_map, List.any_eq_true] at empty
      rcases empty with ⟨text, isText, equal⟩
      have known : key = .string text := by
        cases key with
        | string own => simpa [beq] using equal
        | _ => cases equal
      exact known ▸ each text isText

theorem isPlain_of_mem_valuesUnder (plain : ∀ document ∈ documents, document.IsPlain)
    (key : Document) : ∀ value ∈ valuesUnder key documents, value.IsPlain := by
  intro value member
  rcases mem_valuesUnder_iff.mp member with ⟨document, isDocument, found⟩
  exact (plain document isDocument).of_value? found

/-! ## Two stages -/

theorem valuesUnder_append :
    valuesUnder key (lower ++ upper) = valuesUnder key lower ++ valuesUnder key upper :=
  List.filterMap_append

/-- The keys of two merged parts are the keys of the whole. -/
theorem keysOf_stages (mappings : ∀ document ∈ lower ++ upper, document.isMapping = true)
    (plain : ∀ document ∈ lower ++ upper, document.IsPlain) :
    keysOf [merge lower, merge upper] = keysOf (lower ++ upper) := by
  have keysProper := isProper_of_mem_flatMap_keysIn fun document member => (plain document member).2
  rw [List.flatMap_append] at keysProper
  rw [List.forall_mem_append] at mappings
  rw [keysOf_eq_foldl, keysOf_eq_foldl, List.flatMap_append, List.flatMap_cons,
    List.flatMap_singleton, keysIn_merge mappings.1, keysIn_merge mappings.2, keysOf_eq_foldl,
    keysOf_eq_foldl, List.foldl_append, List.foldl_append]
  have lowerProper : ∀ other ∈ ([] : List Document) ++ lower.flatMap keysIn,
      other.isProper = true :=
    fun other member => keysProper other (List.mem_append_left _ member)
  rw [foldl_addKey_foldl lowerProper]
  apply foldl_addKey_foldl
  intro other member
  rcases List.mem_append.mp member with fromLower | fromUpper
  · exact lowerProper other (mem_foldl_addKey fromLower)
  · exact keysProper other (List.mem_append_right _ fromUpper)

/-- Under a key of two merged parts stands what each part that has the key makes of its values. -/
theorem valuesUnder_stages (mappings : ∀ document ∈ lower ++ upper, document.isMapping = true)
    (plain : ∀ document ∈ lower ++ upper, document.IsPlain) (keyProper : key.isProper = true) :
    valuesUnder key [merge lower, merge upper] =
      [lower, upper].filterMap fun part =>
        if (valuesUnder key part).isEmpty then none else some (layered (valuesUnder key part)) := by
  rw [List.forall_mem_append] at mappings plain
  rw [valuesUnder_eq, List.filterMap_cons, List.filterMap_cons,
    value?_merge mappings.1 (fun document member => (plain.1 document member).2) keyProper,
    value?_merge mappings.2 (fun document member => (plain.2 document member).2) keyProper]
  rfl

/-- A last document that is no mapping stands alone, in stages too. -/
theorem merge_stages_of_last (nonempty : upper ≠ [])
    (last : (upper.getLast nonempty).isMapping = false) :
    merge [merge lower, merge upper] = merge (lower ++ upper) := by
  have merged : merge upper = upper.getLast nonempty :=
    merge_eq_last (List.getLast_mem nonempty) last nonempty
  rw [merged,
    merge_eq_last (List.mem_append_right lower (List.getLast_mem nonempty)) last
      (by simp [nonempty]),
    merge_eq_last (List.mem_cons_of_mem _ List.mem_cons_self) last (by simp),
    List.getLast_append_of_ne_nil _ nonempty]
  rfl

/-- Merging in stages makes the same of the values under a key if it does so for the values. -/
theorem layered_stages (mappings : ∀ document ∈ lower ++ upper, document.isMapping = true)
    (plain : ∀ document ∈ lower ++ upper, document.IsPlain) (keyProper : key.isProper = true)
    (stages : valuesUnder key lower ≠ [] → valuesUnder key upper ≠ [] →
      merge [merge (valuesUnder key lower), merge (valuesUnder key upper)] =
        merge (valuesUnder key lower ++ valuesUnder key upper)) :
    layered (valuesUnder key [merge lower, merge upper]) =
      layered (valuesUnder key (lower ++ upper)) := by
  have plainBelow := isPlain_of_mem_valuesUnder plain key
  rw [valuesUnder_append] at plainBelow ⊢
  rw [valuesUnder_stages mappings plain keyProper]
  cases fromLower : valuesUnder key lower with
  | nil =>
      cases fromUpper : valuesUnder key upper with
      | nil => simp [fromLower, fromUpper]
      | cons value rest => simp [fromLower, fromUpper, layered]
  | cons first others =>
      cases fromUpper : valuesUnder key upper with
      | nil => simp [fromLower, fromUpper, layered]
      | cons value rest =>
          rw [fromLower, fromUpper] at plainBelow stages
          have plainLower := List.forall_mem_append.mp plainBelow
          rw [layered_eq_merge (by simp) plainBelow, ← stages (by simp) (by simp),
            ← layered_eq_merge (List.cons_ne_nil first others) plainLower.1,
            ← layered_eq_merge (List.cons_ne_nil value rest) plainLower.2]
          simp [fromLower, fromUpper, layered]

/-- Mappings that agree can be merged in two stages. -/
theorem merge_parts (mappings : ∀ document ∈ lower ++ upper, document.isMapping = true)
    (plain : ∀ document ∈ lower ++ upper, document.IsPlain)
    (agree : AgreeOnMappings (lower ++ upper)) :
    merge [merge lower, merge upper] = merge (lower ++ upper) := by
  induction measured : totalSize (lower ++ upper) using Nat.strong_induction_on
    generalizing lower upper with
  | _ size ih =>
      have merged : ∀ document ∈ [merge lower, merge upper], document.isMapping = true := by
        rw [List.forall_mem_append] at mappings
        simpa using ⟨isMapping_merge mappings.1, isMapping_merge mappings.2⟩
      rw [merge_eq_mapping mappings, merge_eq_mapping merged, keysOf_stages mappings plain]
      refine congrArg Document.mapping (List.map_congr_left fun key isKey => ?_)
      have keyProper : key.isProper = true := by
        rcases mem_keysOf isKey with ⟨document, isDocument, inDocument⟩
        exact isProper_of_mem_keysIn (plain document isDocument).2 inDocument
      have below := agree.below keyProper
      have plainBelow := isPlain_of_mem_valuesUnder plain key
      have smaller := totalSize_valuesUnder_le key (lower ++ upper)
      rw [valuesUnder_append] at below plainBelow smaller
      refine congrArg (Prod.mk key)
        (layered_stages mappings plain keyProper fun lowerSome upperSome => ?_)
      have lastMember := List.mem_append_right (valuesUnder key lower) (List.getLast_mem upperSome)
      -- The values under the key are all mappings or none is one, and the last of them tells.
      cases isMapping : ((valuesUnder key upper).getLast upperSome).isMapping with
      | true =>
          have longer := List.length_pos_of_mem lastMember
          refine ih _ ?_ (fun value member => ?_) plainBelow below rfl
          · omega
          · exact (below.isMapping_eq member lastMember).trans isMapping
      | false => exact merge_stages_of_last upperSome isMapping

/-! ## Copies of one document -/

theorem keysOf_replicate (proper : (mapping entries).isProper = true) (count : Nat) :
    keysOf (List.replicate (count + 1) (mapping entries)) = entries.map Prod.fst := by
  have coherent := areCoherent_of_isProper proper
  have once : (mapping entries).keysIn.foldl addKey [] = entries.map Prod.fst := by
    apply foldl_addKey_of_distinct
    · simp
    · exact List.pairwise_map.mpr coherent.differ
  rw [keysOf_eq_foldl, List.replicate_succ, List.flatMap_cons, List.foldl_append, once]
  apply foldl_addKey_of_known
  intro key member
  rcases List.mem_flatMap.mp member with ⟨document, isCopy, inCopy⟩
  rw [List.eq_of_mem_replicate isCopy] at inCopy
  rcases List.mem_map.mp inCopy with ⟨entry, isEntry, rfl⟩
  exact List.any_eq_true.mpr
    ⟨entry.1, List.mem_map_of_mem isEntry, (coherent.each entry isEntry).1.refl⟩

/-- Copies of a document merge to that document. -/
theorem merge_replicate (plain : document.IsPlain) (count : Nat) :
    merge (List.replicate (count + 1) document) = document := by
  induction document using memberInduction with
  | mapping entries ih =>
      have coherent := areCoherent_of_isProper plain.2
      rw [merge_eq_mapping (fun copy isCopy => List.eq_of_mem_replicate isCopy ▸ rfl),
        keysOf_replicate plain.2, List.map_map]
      refine congrArg Document.mapping
        ((List.map_congr_left fun entry isEntry => ?_).trans (List.map_id entries))
      have found : value? entry.1 (mapping entries) = some entry.2 :=
        congrArg (Option.map Prod.snd) (coherent.find?_eq isEntry)
      have plainValue := plain.of_value? found
      have values : valuesUnder entry.1 (List.replicate (count + 1) (mapping entries)) =
          List.replicate (count + 1) entry.2 :=
        List.filterMap_replicate_of_some found
      have merged := (ih entry.1 entry.2 isEntry).2 plainValue
      rw [Function.comp_apply, values, layered_eq_merge (by simp), merged]
      · rfl
      · intro value isCopy
        exact List.eq_of_mem_replicate isCopy ▸ plainValue
  | tagged name inner ih => cases plain.1
  | _ =>
      rw [merge_eq_last (List.mem_replicate.mpr ⟨Nat.succ_ne_zero count, rfl⟩) rfl (by simp),
        List.getLast_replicate]

/--
Merging two parts of a list of agreeing mappings, and then what came of them, gives what merging
the whole list gives; merging copies of one document gives that document.
-/
theorem merge_stages :
    (∀ lower upper : List Document,
      (∀ document ∈ lower ++ upper, document.isMapping = true ∧ document.IsPlain) →
      AgreeOnMappings (lower ++ upper) →
        merge (lower ++ upper) = merge [merge lower, merge upper]) ∧
    ∀ (document : Document) (count : Nat), document.IsPlain → 0 < count →
      merge (List.replicate count document) = document := by
  constructor
  · intro lower upper each agree
    exact (merge_parts (fun document member => (each document member).1)
      (fun document member => (each document member).2) agree).symm
  · intro document count plain positive
    rw [← Nat.sub_one_add_one positive.ne']
    exact merge_replicate plain (count - 1)

/-- Three layers, of which the last two have more to say about one part of the first. -/
def serverLayers : List Document × List Document :=
  ([ .mapping
      [ (.string "server", .mapping [(.string "port", .ofInt64 80)]),
        (.string "debug", .bool false) ],
     .mapping
      [ (.string "debug", .null),
        (.string "server", .mapping [(.string "host", .string "a")]) ] ],
   [ .mapping
      [ (.string "server", .mapping [(.string "host", .string "b"), (.string "port", .null)]) ] ])

theorem merge_stages_serverLayers :
    merge (serverLayers.1 ++ serverLayers.2) =
        merge [merge serverLayers.1, merge serverLayers.2] ∧
      merge (List.replicate 3 (.mapping [(.string "debug", .bool false)])) =
        .mapping [(.string "debug", .bool false)] := by
  have agree : AgreeOnMappings (serverLayers.1 ++ serverLayers.2) := by
    refine agreeOnMappings_of_texts ["server", "debug", "debug", "server", "server"] rfl
      (by decide) fun text isText => ?_
    have part : text = "server" ∨ text = "debug" := by
      simp only [List.mem_cons, List.not_mem_nil] at isText
      tauto
    rcases part with rfl | rfl
    · refine agreeOnMappings_of_texts ["port", "host", "host", "port"] rfl (by decide)
        fun text isText => ?_
      have setting : text = "port" ∨ text = "host" := by grind
      rcases setting with rfl | rfl
      · exact agreeOnMappings_of_texts [] rfl (by decide) (by simp)
      · exact agreeOnMappings_of_texts [] rfl (by decide) (by simp)
    · exact agreeOnMappings_of_texts [] rfl (by decide) (by simp)
  exact ⟨merge_stages.1 serverLayers.1 serverLayers.2 (by unfold IsPlain; decide) agree,
    merge_stages.2 _ 3 (by unfold IsPlain; decide) (by decide)⟩

end RuleSchema.Document
