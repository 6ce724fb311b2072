import RuleSchema.Proofs.Document.KeySearch
import RuleSchema.Proofs.Document.Reach

/-!
# What an edit changes

An edit at a path is felt at that path, above it and below it.  A lookup along any other path,
one that neither continues the edited path nor is continued by it, finds what it found before,
also where an assignment is refused.  A value that was stored is found, and what is removed is
what was found before.

The three edits choose the entry of a step as a lookup does: the string key of its text, and
only where there is none the first other key that has this text.  Storing a value neither
takes a key from a mapping nor adds one that hides another, so that the choice stays the same.
An edit may also look for the key first, and then insert or erase by it; in documents whose
keys are distinct this is no other edit.
-/

namespace RuleSchema

namespace Mapping

variable {entries others : Mapping} {text other : String} {value : Document}
  {test otherTest : Document → Bool}

/-! ## Entries of a mapping -/

/-- Mappings with the same keys have the same entries addressed. -/
theorem addresses_congr (same : entries.map Prod.fst = others.map Prod.fst) (text : String) :
    entries.addresses text = others.addresses text := by
  have fields : entries.hasField text = others.hasField text := by
    have fromKeys (entries : Mapping) :
        entries.hasField text = (entries.map Prod.fst).any (isField text) := by
      rw [List.any_map]
      rfl
    rw [fromKeys, fromKeys, same]
  funext key
  rw [addresses, addresses, fields]

theorem keys_replaceFirst :
    (replaceFirst test value entries).map Prod.fst = entries.map Prod.fst := by
  induction entries with
  | nil => rfl
  | cons entry rest ih =>
      rw [replaceFirst]
      split
      · rfl
      · rw [List.map_cons, List.map_cons, ih]

/-- The entry with the new value is the one that was found with the old value. -/
theorem find?_replaceFirst :
    (replaceFirst test value entries).find? (fun entry => test entry.1) =
      (entries.find? fun entry => test entry.1).map fun entry => (entry.1, value) := by
  induction entries with
  | nil => rfl
  | cons entry rest ih =>
      rw [replaceFirst]
      cases hit : test entry.1 <;> simp [hit, ih]

/-- No other entry is affected by a new value. -/
theorem find?_replaceFirst_of_apart (apart : ∀ key, test key = true → otherTest key = false) :
    (replaceFirst test value entries).find? (fun entry => otherTest entry.1) =
      entries.find? fun entry => otherTest entry.1 := by
  induction entries with
  | nil => rfl
  | cons entry rest ih =>
      rw [replaceFirst]
      split
      · next hit => simp [apart entry.1 hit]
      · rw [List.find?_cons, List.find?_cons, ih]

theorem replaceFirst_self {entry : Document × Document}
    (found : entries.find? (fun entry => test entry.1) = some entry) :
    replaceFirst test entry.2 entries = entries := by
  induction entries with
  | nil => rfl
  | cons first rest ih =>
      rw [replaceFirst]
      rw [List.find?_cons] at found
      split
      · next hit =>
        rw [hit] at found
        rw [← Option.some.inj found]
      · next missed =>
        rw [Bool.eq_false_iff.mpr missed] at found
        rw [ih found]

/-- One key is not addressed by two texts. -/
theorem not_addresses_of_ne (different : other ≠ text) {key : Document}
    (addressed : entries.addresses text key = true) : others.addresses other key = false := by
  apply Bool.eq_false_iff.mpr
  intro alsoAddressed
  exact different ((Document.keyText_of_addresses alsoAddressed).symm.trans
    (Document.keyText_of_addresses addressed))

/-- What is stored under a text is found under it. -/
theorem at?_put_self (entries : Mapping) (text : String) (value : Document) :
    (entries.put text value).at? text = some value := by
  rw [put]
  split
  · next present =>
    rw [at?, Option.isSome_map] at present
    rcases Option.isSome_iff_exists.mp present with ⟨entry, found⟩
    rw [at?, addresses_congr keys_replaceFirst text, find?_replaceFirst, found]
    rfl
  · next missing =>
    have fields := hasField_of_at?_eq_none (Option.not_isSome_iff_eq_none.mp missing)
    have added : hasField (entries ++ [(.string text, value)]) text = true := by
      simp [hasField, isField]
    have noneBefore : entries.find? (fun entry => isField text entry.1) = none := by
      rw [List.find?_eq_none]
      exact List.any_eq_false.mp fields
    have tests : addresses (entries ++ [(.string text, value)]) text = isField text := by
      funext key
      rw [addresses, if_pos added]
    rw [at?, tests, List.find?_append, noneBefore]
    simp [isField]

/-- What is stored under a text changes nothing under another one. -/
theorem at?_put_of_ne (different : other ≠ text) :
    (entries.put text value).at? other = entries.at? other := by
  rw [put]
  split
  · have apart (key : Document) (addressed : entries.addresses text key = true) :
        entries.addresses other key = false := not_addresses_of_ne different addressed
    rw [at?, addresses_congr keys_replaceFirst other, find?_replaceFirst_of_apart apart, at?]
  · have fields : hasField (entries ++ [(.string text, value)]) other = entries.hasField other := by
      simp [hasField, isField, different.symm]
    have tests : addresses (entries ++ [(.string text, value)]) other =
        entries.addresses other := by
      funext key
      rw [addresses, addresses, fields]
    have notNew : entries.addresses other (.string text) = false := by
      apply Bool.eq_false_iff.mpr
      intro addressed
      exact different (Document.keyText_of_addresses addressed).symm
    rw [at?, tests, List.find?_append, List.find?_singleton, notNew, at?]
    simp

/-- Storing the value that is there changes nothing. -/
theorem put_eq_self (found : entries.at? text = some value) : entries.put text value = entries := by
  rw [put, found, Option.isSome_some, if_pos rfl]
  rcases Option.map_eq_some_iff.mp found with ⟨entry, hit, rfl⟩
  exact replaceFirst_self hit

end Mapping

namespace DocPath

variable {step other : PathKey} {rest path place : DocPath}
  {document value before after old new : Document} {entries : Mapping} {text : String}

/-! ## Single steps -/

theorem get?_cons (step : PathKey) (rest : DocPath) (document : Document) :
    get? (step :: rest) document = (get? [step] document).bind (get? rest) :=
  get?_append [step] rest document

theorem get?_key : get? [.key text] (.mapping entries) = entries.at? text := by
  rw [get?]
  cases entries.at? text <;> rfl

theorem get?_index {items : List Document} {position : Nat} :
    get? [.index position] (.sequence items) = items[position]? := by
  rw [get?]
  cases items[position]? <;> rfl

/-- Nothing is found in an empty mapping. -/
theorem get?_empty (notRoot : path ≠ []) : get? path (.mapping []) = none := by
  cases path with
  | nil => exact absurd rfl notRoot
  | cons step rest => cases step <;> rfl

/-- Null and the empty mapping in its place are alike to lookups. -/
theorem get?_opened (notRoot : path ≠ []) : get? path (opened document) = get? path document := by
  rw [opened]
  split
  · next null =>
    rw [get?_empty notRoot]
    cases path with
    | nil => exact absurd rfl notRoot
    | cons step rest =>
        cases document with
        | null => cases step <;> rfl
        | tagged name inner => cases step <;> rfl
        | _ => cases null
  · rfl

/-- Whether a step is a key, and the document a mapping or null, which counts as an empty one. -/
def takesEntry : PathKey → Document → Bool
  | .key _, document =>
      match opened document with
      | .mapping _ => true
      | _ => false
  | .index _, _ => false

theorem takesEntry_key (opens : opened document = .mapping entries) :
    takesEntry (.key text) document = true := by
  rw [takesEntry, opens]

/-- The place to which a step leads in a document, also one that is yet to be filled. -/
structure Slot (step : PathKey) (document : Document) where
  /-- What stands there, or the empty mapping. -/
  content : Document
  /-- The document with other content there. -/
  store : Document → Document
  found_or_new : get? [step] document = some content ∨
    get? [step] document = none ∧ content = .mapping [] ∧ takesEntry step document = true
  get?_store : ∀ new, get? [step] (store new) = some new
  get?_store_of_ne : ∀ new other, other ≠ step → get? [other] (store new) = get? [other] document
  store_content : get? [step] document = some content → store content = document

/-- The place of a key in a mapping, or in null as in the empty one. -/
def Slot.ofKey (text : String) (opens : opened document = .mapping entries) :
    Slot (.key text) document where
  content := (entries.at? text).getD (.mapping [])
  store new := .mapping (entries.put text new)
  found_or_new := by
    rw [← get?_opened (by simp), opens, get?_key]
    cases entries.at? text with
    | none => exact .inr ⟨rfl, rfl, takesEntry_key opens⟩
    | some old => exact .inl rfl
  get?_store new := by rw [get?_key, Mapping.at?_put_self]
  get?_store_of_ne new other different := by
    have unopened : get? [other] (opened document) = get? [other] document :=
      get?_opened (by simp)
    rw [← unopened, opens]
    cases other with
    | index position => rfl
    | key otherText =>
        rw [get?_key, get?_key, Mapping.at?_put_of_ne]
        exact fun same => different (congrArg PathKey.key same)
  store_content found := by
    cases document with
    | mapping own =>
        cases opens
        rw [get?_key] at found
        rw [Mapping.put_eq_self found]
    | _ => cases found

/-- The place of an item in a sequence. -/
def Slot.ofIndex {items : List Document} {position : Nat} (found : items[position]? = some old) :
    Slot (.index position) (.sequence items) where
  content := old
  store new := .sequence (items.set position new)
  found_or_new := .inl (get?_index.trans found)
  get?_store new := by
    have inside : position < items.length := (List.getElem?_eq_some_iff.mp found).1
    rw [get?_index, List.getElem?_set_self inside]
  get?_store_of_ne new other different := by
    cases other with
    | key text => rfl
    | index otherPosition =>
        rw [get?_index, get?_index, List.getElem?_set_ne]
        exact fun same => different (congrArg PathKey.index same.symm)
  store_content _ := by
    rcases List.getElem?_eq_some_iff.mp found with ⟨inside, same⟩
    rw [← same, List.set_getElem_self]

/-! ## Lookups apart from an edit -/

/-- Neither path continues the other. -/
def IsApart (path other : DocPath) : Prop := ¬path <+: other ∧ ¬other <+: path

/-- Lookups apart from a path find the same in both documents. -/
def SameApartFrom (path : DocPath) (before after : Document) : Prop :=
  ∀ place, IsApart path place → get? place after = get? place before

theorem isApart_cons :
    IsApart (step :: rest) (other :: place) ↔ other ≠ step ∨ IsApart rest place := by
  rw [IsApart, IsApart, List.cons_prefix_cons, List.cons_prefix_cons]
  by_cases same : other = step
  · simp [same]
  · simp [same, Ne.symm same]

theorem IsApart.ne_nil (apart : IsApart path place) : place ≠ [] := by
  rintro rfl
  exact apart.2 List.nil_prefix

/-- What is the same in the content of a place is the same in the document. -/
theorem Slot.sameApartFrom (slot : Slot step document)
    (below : SameApartFrom rest slot.content new) :
    SameApartFrom (step :: rest) document (slot.store new) := by
  intro place apart
  cases place with
  | nil => exact absurd rfl apart.ne_nil
  | cons other place =>
      rw [get?_cons other place (slot.store new), get?_cons other place document]
      by_cases same : other = step
      · subst same
        have onward := (isApart_cons.mp apart).resolve_left (absurd rfl)
        rw [slot.get?_store, Option.bind_some, below place onward]
        rcases slot.found_or_new with found | ⟨missing, empty, -⟩
        · rw [found, Option.bind_some]
        · rw [missing, empty, get?_empty onward.ne_nil, Option.bind_none]
      · rw [slot.get?_store_of_ne new other same]

/-! ## Assignment -/

theorem assign_key (opens : opened document = .mapping entries) :
    assign value (.key text :: rest) document =
      ((assign value rest ((entries.at? text).getD (.mapping []))).1,
        .mapping
          (entries.put text (assign value rest ((entries.at? text).getD (.mapping []))).2)) := by
  rw [assign.eq_def value (.key text :: rest) document]
  simp only [opens]
  -- The last step stores the value at once, which the empty path would do as well.
  cases rest <;> rfl

theorem assign_index {items : List Document} {position : Nat}
    (found : items[position]? = some old) :
    assign value (.index position :: rest) (.sequence items) =
      ((assign value rest old).1, .sequence (items.set position (assign value rest old).2)) := by
  have opens : opened (.sequence items) = .sequence items := rfl
  simp only [assign, opens, found]

/-- A step of an assignment goes on into its place, or refuses where there is none. -/
theorem assign_cons (value : Document) (step : PathKey) (rest : DocPath) (document : Document) :
    (∃ slot : Slot step document, assign value (step :: rest) document =
        ((assign value rest slot.content).1, slot.store (assign value rest slot.content).2)) ∨
      get? [step] document = none ∧ takesEntry step document = false ∧
        assign value (step :: rest) document = (false, opened document) := by
  rw [← get?_opened (by simp)]
  cases step with
  | key text =>
      cases opens : opened document with
      | mapping entries => exact .inl ⟨Slot.ofKey text opens, assign_key opens⟩
      | _ => exact .inr ⟨rfl, by rw [takesEntry, opens], by simp only [assign, opens]⟩
  | index position =>
      cases opens : opened document with
      | sequence items =>
          have same : document = .sequence items := by
            rw [opened] at opens
            split at opens
            · cases opens
            · exact opens
          subst same
          rw [get?_index]
          cases found : items[position]? with
          | none => exact .inr ⟨rfl, rfl, by simp only [assign, opens, found]⟩
          | some old => exact .inl ⟨Slot.ofIndex found, assign_index found⟩
      | _ => exact .inr ⟨rfl, rfl, by simp only [assign, opens]⟩

/-- Apart from its path, an assignment changes nothing, whether or not it is refused. -/
theorem sameApartFrom_assign :
    SameApartFrom path document (assign value path document).2 := by
  induction path generalizing document with
  | nil => exact fun place apart => absurd List.nil_prefix apart.1
  | cons step rest ih =>
      rcases assign_cons value step rest document with ⟨slot, assigned⟩ | ⟨-, -, refused⟩
      · rw [assigned]
        exact slot.sameApartFrom ih
      · rw [refused]
        exact fun place apart => get?_opened apart.ne_nil

/-- A value that was assigned is found. -/
theorem get?_assign (done : (assign value path document).1 = true) :
    get? path (assign value path document).2 = some value := by
  induction path generalizing document with
  | nil => rfl
  | cons step rest ih =>
      rcases assign_cons value step rest document with ⟨slot, assigned⟩ | ⟨-, -, refused⟩
      · rw [assigned] at done
        rw [assigned, get?_cons, slot.get?_store, Option.bind_some, ih done]
      · rw [refused] at done
        cases done

/-! ## Replacement and removal -/

/--
A place that holds something: lookups and edits go on in what is held, and an edit stores what
it makes of that.
-/
structure Slot.IsHeld (slot : Slot step document) : Prop where
  get?_cons : ∀ rest, get? (step :: rest) document = get? rest slot.content
  assign_cons : ∀ value rest, assign value (step :: rest) document =
    ((assign value rest slot.content).1, slot.store (assign value rest slot.content).2)
  replace?_cons : ∀ value rest,
    replace? value (step :: rest) document = (replace? value rest slot.content).map slot.store
  remove?_cons : ∀ rest, rest ≠ [] → remove? (step :: rest) document =
    (remove? rest slot.content).map fun taken => (taken.1, slot.store taken.2)

theorem Slot.isHeld_ofKey (found : entries.at? text = some old) :
    (Slot.ofKey text (rfl : opened (.mapping entries) = .mapping entries)).IsHeld := by
  constructor
  · intro rest
    rw [get?]
    simp only [found, ofKey, Option.getD_some]
  · exact fun value rest => assign_key rfl
  · intro value rest
    rw [replace?]
    simp only [found, ofKey, Option.getD_some]
  · intro rest onward
    rw [remove?]
    · simp only [found, ofKey, Option.getD_some]
    · exact onward

theorem Slot.isHeld_ofIndex {items : List Document} {position : Nat}
    (found : items[position]? = some old) : (Slot.ofIndex found).IsHeld := by
  constructor
  · intro rest
    rw [get?, found]
    rfl
  · exact fun value rest => assign_index found
  · intro value rest
    rw [replace?, found]
    rfl
  · intro rest onward
    rw [remove?, found]
    · rfl
    · exact onward

/-- Neither a lookup nor an edit of what is there goes on through a step. -/
structure IsMissing (step : PathKey) (document : Document) : Prop where
  get?_cons : ∀ rest, get? (step :: rest) document = none
  replace?_cons : ∀ value rest, replace? value (step :: rest) document = none
  remove?_cons : ∀ rest, remove? (step :: rest) document = none

/-- A step leads to a place that holds something, or nowhere. -/
theorem isHeld_or_isMissing (step : PathKey) (document : Document) :
    (∃ slot : Slot step document, slot.IsHeld) ∨ IsMissing step document := by
  cases step with
  | key text =>
      cases document with
      | mapping entries =>
          cases found : Mapping.at? entries text with
          | some old => exact .inl ⟨_, Slot.isHeld_ofKey found⟩
          | none =>
              refine .inr ⟨fun rest => ?_, fun value rest => ?_, fun rest => ?_⟩
              · rw [get?, found]
              · rw [replace?, found]
              · cases rest <;> simp only [remove?, found]
      | _ => exact .inr ⟨fun _ => rfl, fun _ _ => rfl, fun rest => by cases rest <;> rfl⟩
  | index position =>
      cases document with
      | sequence items =>
          cases found : items[position]? with
          | some old => exact .inl ⟨_, Slot.isHeld_ofIndex found⟩
          | none =>
              refine .inr ⟨fun rest => ?_, fun value rest => ?_, fun rest => ?_⟩
              · rw [get?, found]
              · rw [replace?, found]
              · cases rest <;> simp only [remove?, found]
      | _ => exact .inr ⟨fun _ => rfl, fun _ _ => rfl, fun rest => by cases rest <;> rfl⟩

/-- Where a lookup finds something, an assignment is not refused. -/
theorem assign_of_found (found : get? path document = some old) :
    (assign value path document).1 = true := by
  induction path generalizing document with
  | nil => rfl
  | cons step rest ih =>
      rcases isHeld_or_isMissing step document with ⟨slot, held⟩ | missing
      · rw [held.get?_cons] at found
        rw [held.assign_cons]
        exact ih found
      · cases (missing.get?_cons rest).symm.trans found

/-- A replacement is an assignment where a lookup finds something, and none elsewhere. -/
theorem replace?_eq :
    replace? value path document =
      (get? path document).map fun _ => (assign value path document).2 := by
  induction path generalizing document with
  | nil => rfl
  | cons step rest ih =>
      rcases isHeld_or_isMissing step document with ⟨slot, held⟩ | missing
      · rw [held.replace?_cons, held.get?_cons, held.assign_cons, ih, Option.map_map]
        rfl
      · rw [missing.replace?_cons, missing.get?_cons]
        rfl

/-- A value that is replaced by itself stays. -/
theorem replace?_self (found : get? path document = some value) :
    replace? value path document = some document := by
  induction path generalizing document with
  | nil => exact found.symm
  | cons step rest ih =>
      rcases isHeld_or_isMissing step document with ⟨slot, held⟩ | missing
      · rw [held.get?_cons] at found
        rw [held.replace?_cons, ih found, Option.map_some,
          slot.store_content (held.get?_cons [])]
      · cases (missing.get?_cons rest).symm.trans found

/-- What the last step takes out is what was found there. -/
theorem fst_remove?_step (step : PathKey) (document : Document) :
    (remove? [step] document).map Prod.fst = get? [step] document := by
  cases step with
  | key text =>
      cases document with
      | mapping entries =>
          rw [remove?, get?_key]
          cases Mapping.at? entries text <;> rfl
      | _ => rfl
  | index position =>
      cases document with
      | sequence items =>
          rw [remove?, get?_index]
          cases items[position]? <;> rfl
      | _ => rfl

/-- What is removed is what was found. -/
theorem fst_remove? (notRoot : path ≠ []) :
    (remove? path document).map Prod.fst = get? path document := by
  induction path generalizing document with
  | nil => exact absurd rfl notRoot
  | cons step rest ih =>
      by_cases last : rest = []
      · subst last
        exact fst_remove?_step step document
      rcases isHeld_or_isMissing step document with ⟨slot, held⟩ | missing
      · rw [held.remove?_cons rest last, held.get?_cons, ← ih last, Option.map_map]
        rfl
      · rw [missing.remove?_cons, missing.get?_cons]
        rfl

/-! ## Edits by keys -/

/-- An assignment that looks for the key of each step, and inserts under the key. -/
def assignByKeys (value : Document) : DocPath → Document → Bool × Document
  | [], _ => (true, value)
  | step :: rest, document =>
      match step, opened document with
      | .key text, .mapping entries =>
          let old := (Mapping.get? entries (Mapping.slotAt entries text)).getD (.mapping [])
          let (done, new) := assignByKeys value rest old
          (done, .mapping (Mapping.insert entries (Mapping.slotAt entries text) new))
      | .index position, .sequence items =>
          match items[position]? with
          | some old =>
              let (done, new) := assignByKeys value rest old
              (done, .sequence (items.set position new))
          | none => (false, .sequence items)
      | _, node => (false, node)

/-- What the last step of a removal takes out of a document, and what it leaves. -/
def removeLast? : PathKey → Document → Option (Document × Document)
  | .key text, .mapping entries => Mapping.removeByKey? entries text
  | .index position, .sequence items =>
      items[position]?.map fun item => (item, .sequence (items.eraseIdx position))
  | _, _ => none

/-- A removal that goes to the document one step up, and looks there for the key. -/
def removeByKeys? (path : DocPath) (document : Document) : Option (Document × Document) := do
  let last ← path.getLast?
  let above ← get? path.dropLast document
  let (value, remaining) ← removeLast? last above
  (replace? remaining path.dropLast document).map fun changed => (value, changed)

theorem isProper_opened (proper : document.isProper = true) :
    (opened document).isProper = true := by
  rw [opened]
  split
  · rfl
  · exact proper

theorem isProper_of_at? (proper : (Document.mapping entries).isProper = true)
    (found : entries.at? text = some value) : value.isProper = true := by
  rw [Mapping.at?, Option.map_eq_some_iff] at found
  rcases found with ⟨entry, hit, rfl⟩
  exact ((Document.isProper_mapping.mp proper).2 entry (List.mem_of_find?_eq_some hit)).2

/-- What stands at a text, or the new mapping where nothing does. -/
theorem isProper_content (proper : (Document.mapping entries).isProper = true) (text : String) :
    ((entries.at? text).getD (.mapping [])).isProper = true := by
  cases found : entries.at? text with
  | none => rfl
  | some old => exact isProper_of_at? proper found

theorem isProper_of_getElem? {items : List Document} {position : Nat}
    (proper : (Document.sequence items).isProper = true) (found : items[position]? = some value) :
    value.isProper = true :=
  Document.isProper_sequence.mp proper value (List.mem_of_getElem? found)

theorem isProper_of_step (proper : document.isProper = true)
    (found : get? [step] document = some value) : value.isProper = true := by
  cases step with
  | key text =>
      cases document with
      | mapping entries =>
          rw [get?_key] at found
          exact isProper_of_at? proper found
      | _ => cases found
  | index position =>
      cases document with
      | sequence items =>
          rw [get?_index] at found
          exact isProper_of_getElem? proper found
      | _ => cases found

/-- Where keys are distinct, an assignment by keys is an assignment. -/
theorem assignByKeys_eq (proper : document.isProper = true) :
    assignByKeys value path document = assign value path document := by
  induction path generalizing document with
  | nil => rfl
  | cons step rest ih =>
      have properOpened := isProper_opened proper
      cases step with
      | key text =>
          cases opens : opened document with
          | mapping entries =>
              rw [opens] at properOpened
              rw [assign_key opens, ← ih (isProper_content properOpened text)]
              simp only [assignByKeys, opens, Mapping.get?_slotAt properOpened,
                Mapping.insert_slotAt properOpened]
          | _ => simp only [assignByKeys, assign, opens]
      | index position =>
          cases opens : opened document with
          | sequence items =>
              rw [opens] at properOpened
              cases found : items[position]? with
              | none => simp only [assignByKeys, assign, opens, found]
              | some old =>
                  simp only [assignByKeys, assign, opens, found,
                    ih (isProper_of_getElem? properOpened found)]
          | _ => simp only [assignByKeys, assign, opens]

/-- A removal that goes on through a place that holds something stores there what is left. -/
theorem removeByKeys?_cons {slot : Slot step document} (held : slot.IsHeld) (onward : rest ≠ []) :
    removeByKeys? (step :: rest) document =
      (removeByKeys? rest slot.content).map fun taken => (taken.1, slot.store taken.2) := by
  cases rest with
  | nil => exact absurd rfl onward
  | cons next rest =>
      rw [removeByKeys?, removeByKeys?, List.getLast?_cons_cons, List.dropLast_cons_cons]
      simp only [held.get?_cons, held.replace?_cons, Option.bind_eq_bind, Option.map_bind,
        Option.map_map, Function.comp_def]

theorem removeByKeys?_of_isMissing (missing : IsMissing step document) (onward : rest ≠ []) :
    removeByKeys? (step :: rest) document = none := by
  cases rest with
  | nil => exact absurd rfl onward
  | cons next rest =>
      rw [removeByKeys?, List.getLast?_cons_cons, List.dropLast_cons_cons, missing.get?_cons]
      cases (next :: rest).getLast? <;> rfl

/-- The last step takes out the same by a key as by a text. -/
theorem removeByKeys?_step (proper : document.isProper = true) (step : PathKey) :
    removeByKeys? [step] document = remove? [step] document := by
  cases step with
  | key text =>
      cases document with
      | mapping entries =>
          have last : removeByKeys? [.key text] (.mapping entries) =
              (Mapping.removeByKey? entries text).bind fun taken => some (taken.1, taken.2) := rfl
          rw [last, Mapping.removeByKey?_eq proper, remove?]
          cases Mapping.at? entries text <;> rfl
      | _ => rfl
  | index position =>
      cases document with
      | sequence items =>
          rw [remove?, removeByKeys?]
          cases found : items[position]? <;> simp [removeLast?, found, get?, replace?]
      | _ => rfl

/-- Where keys are distinct, a removal by keys is a removal. -/
theorem removeByKeys?_eq (proper : document.isProper = true) :
    removeByKeys? path document = remove? path document := by
  induction path generalizing document with
  | nil => rfl
  | cons step rest ih =>
      by_cases last : rest = []
      · subst last
        exact removeByKeys?_step proper step
      rcases isHeld_or_isMissing step document with ⟨slot, held⟩ | missing
      · have contentProper := isProper_of_step proper (held.get?_cons [])
        rw [removeByKeys?_cons held last, held.remove?_cons rest last, ih contentProper]
      · rw [removeByKeys?_of_isMissing missing last, missing.remove?_cons]

/--
A value that was assigned is found, a replacement succeeds where a lookup does and is found, and
neither changes what lookups apart from the path find; what is removed is what was found.  Where
keys are distinct, the edits that first look for a key and then go by it are the same.
-/
theorem get?_edited (document value : Document) (path : DocPath) (notRoot : path ≠ []) :
    ((assign value path document).1 = true →
      get? path (assign value path document).2 = some value ∧
        ∀ place, IsApart path place →
          get? place (assign value path document).2 = get? place document) ∧
    ((replace? value path document).isSome = (get? path document).isSome ∧
      ∀ changed, replace? value path document = some changed →
        get? path changed = some value ∧
          ∀ place, IsApart path place → get? place changed = get? place document) ∧
    (remove? path document).map Prod.fst = get? path document ∧
    (document.isProper = true →
      assignByKeys value path document = assign value path document ∧
        removeByKeys? path document = remove? path document) := by
  refine ⟨fun done => ⟨get?_assign done, sameApartFrom_assign⟩, ⟨?_, fun changed replaced => ?_⟩,
    fst_remove? notRoot, fun proper => ⟨assignByKeys_eq proper, removeByKeys?_eq proper⟩⟩
  · rw [replace?_eq, Option.isSome_map]
  · rw [replace?_eq] at replaced
    rcases Option.map_eq_some_iff.mp replaced with ⟨old, found, rfl⟩
    exact ⟨get?_assign (assign_of_found found), sameApartFrom_assign⟩

/-- The key `1` beside the string of its text, and a key that is no text. -/
def collidingDocument : Document :=
  .mapping
    [ (.ofInt64 1, .string "whole"),
      (.string "1", .sequence [.null, .string "text"]),
      (.bool true, .string "flag") ]

theorem get?_edited_colliding :
    ([.key "1", .index 0, .key "new"] : DocPath) ≠ [] ∧
    (assign (.bool true) [.key "1", .index 0, .key "new"] collidingDocument).1 = true ∧
    get? [.key "1", .index 0, .key "new"]
        (assign (.bool true) [.key "1", .index 0, .key "new"] collidingDocument).2 =
      some (.bool true) ∧
    get? [.key "true"]
        (assign (.bool true) [.key "1", .index 0, .key "new"] collidingDocument).2 =
      some (.string "flag") ∧
    (replace? (.bool true) [.key "1", .index 0, .key "new"] collidingDocument).isSome = false ∧
    (remove? [.key "1", .index 0, .key "new"] collidingDocument).map Prod.fst = none ∧
    collidingDocument.isProper = true ∧
    assignByKeys (.bool true) [.key "1", .index 0, .key "new"] collidingDocument =
      assign (.bool true) [.key "1", .index 0, .key "new"] collidingDocument ∧
    removeByKeys? [.key "1", .index 0, .key "new"] collidingDocument =
      remove? [.key "1", .index 0, .key "new"] collidingDocument := by
  rcases get?_edited collidingDocument (.bool true) [.key "1", .index 0, .key "new"] (by simp)
    with ⟨assigned, ⟨replaced, -⟩, removed, byKeys⟩
  rcases assigned rfl with ⟨found, same⟩
  refine ⟨by simp, rfl, found, ?_, replaced, removed, rfl, byKeys rfl⟩
  exact same [.key "true"] (by simp [IsApart])

end DocPath

end RuleSchema
