import RuleSchema.Document.Edit
import RuleSchema.Proofs.Document.Equality

/-!
# The key of an addressed entry

An edit can go by keys: it first looks for the key that a text stands for in a mapping, and then
finds, inserts or erases the entry of an equal key.  Where the keys of a mapping are distinct
this comes to the entry that the text addresses, also where several keys have the same text.
-/

namespace RuleSchema

theorem Document.string_beq_eq_isField (text : String) (key : Document) :
    (Document.string text).beq key = Mapping.isField text key := by
  cases key with
  | string own => exact Bool.beq_comm
  | _ => rfl

namespace Mapping

variable {entries : Mapping} {text : String} {key value : Document}
  {entry : Document × Document} {test : Document → Bool}

/-- Whether a key is no string and has the text. -/
def isRendered (text : String) (key : Document) : Bool := !key.isString && key.keyText == text

/-- The key for which a text stands: the string, or else the first other key of that text. -/
def keyAt? (entries : Mapping) (text : String) : Option Document :=
  if entries.hasField text then some (.string text)
  else (entries.find? fun entry => isRendered text entry.1).map Prod.fst

/-! ## Finding the entry -/

/-- Where no entry is addressed, there is no string key of the text. -/
theorem hasField_of_at?_eq_none (missing : entries.at? text = none) :
    entries.hasField text = false := by
  apply Bool.eq_false_iff.mpr
  intro stringKey
  rw [at?, Option.map_eq_none_iff, List.find?_eq_none] at missing
  rcases List.any_eq_true.mp stringKey with ⟨entry, member, isText⟩
  apply missing entry member
  rw [addresses, if_pos stringKey]
  exact isText

theorem hasField_eq_isSome (entries : Mapping) (text : String) :
    entries.hasField text = (entries.get? (.string text)).isSome := by
  rw [get?, Option.isSome_map, List.isSome_find?, hasField]
  simp only [Document.string_beq_eq_isField]

/-- A lookup prefers the string key, and takes the first other key of the text else. -/
theorem at?_eq_or (entries : Mapping) (text : String) :
    entries.at? text = (entries.get? (.string text)).or
      ((entries.find? fun entry => isRendered text entry.1).map Prod.snd) := by
  have isString := hasField_eq_isSome entries text
  cases found : entries.get? (.string text) with
  | some value =>
      rw [found, Option.isSome_some] at isString
      rw [get?] at found
      simp only [Document.string_beq_eq_isField] at found
      rw [Option.some_or, ← found, at?]
      congr 2
      funext entry
      rw [addresses, if_pos isString]
  | none =>
      rw [found, Option.isSome_none] at isString
      rw [Option.none_or, at?]
      congr 2
      funext entry
      rw [addresses, isString]
      rfl

/-- The key found for a text is the key of the entry that the text addresses. -/
theorem keyAt?_eq (entries : Mapping) (text : String) :
    entries.keyAt? text =
      (entries.find? fun entry => entries.addresses text entry.1).map Prod.fst := by
  cases isString : entries.hasField text with
  | true =>
      have tests : entries.addresses text = isField text := funext fun key => if_pos isString
      rcases Option.isSome_iff_exists.mp (List.find?_isSome.mpr (List.any_eq_true.mp isString))
        with ⟨entry, found⟩
      have own : entry.1 = .string text := by
        have isText := List.find?_some found
        rw [isField.eq_def] at isText
        split at isText
        · next same => rw [same, eq_of_beq isText]
        · cases isText
      rw [keyAt?, if_pos isString, tests, found, Option.map_some, own]
  | false =>
      have tests : entries.addresses text = isRendered text := by
        funext key
        rw [addresses, isString]
        rfl
      rw [keyAt?, isString, tests]
      rfl

/-! ## The entry in its place -/

/-- The addressed entry is the only one of its key, and the first that is addressed. -/
theorem exists_split (proper : (Document.mapping entries).isProper = true)
    (found : entries.find? (fun other => test other.1) = some entry) :
    ∃ before after, entries = before ++ entry :: after ∧
      (test entry.1 = true ∧ ∀ other ∈ before, test other.1 = false) ∧
      entry.1.beq entry.1 = true ∧ ∀ other ∈ before, entry.1.beq other.1 = false := by
  have coherent := Document.areCoherent_of_isProper proper
  have member := List.mem_of_find?_eq_some found
  rcases List.find?_eq_some_iff_append.mp found with ⟨hit, before, after, rfl, missed⟩
  refine ⟨before, after, rfl, ⟨hit, by simpa using missed⟩, (coherent.each entry member).1.refl, ?_⟩
  intro other isBefore
  have differs := (List.pairwise_append.mp coherent.differ).2.2 other isBefore entry
    List.mem_cons_self
  rw [Document.beq_comm (coherent.proper entry member).1
    (coherent.proper other (List.mem_append_left _ isBefore)).1]
  exact differs

theorem replaceFirst_of_split {before after : Mapping} (same : entries = before ++ entry :: after)
    (hit : test entry.1 = true) (missed : ∀ other ∈ before, test other.1 = false) :
    replaceFirst test value entries = before ++ (entry.1, value) :: after := by
  subst same
  induction before with
  | nil => exact if_pos hit
  | cons first rest ih =>
      rcases List.forall_mem_cons.mp missed with ⟨here, later⟩
      rw [List.cons_append, replaceFirst, here, ih later]
      rfl

theorem eraseP_of_split {before after : Mapping} (same : entries = before ++ entry :: after)
    (hit : test entry.1 = true) (missed : ∀ other ∈ before, test other.1 = false) :
    entries.eraseP (fun other => test other.1) = before ++ after := by
  rw [same, List.eraseP_append_right _ (by simpa using missed)]
  exact congrArg (before ++ ·) (List.eraseP_cons_of_pos hit)

/-- To insert is to replace the first entry of an equal key, if there is one. -/
theorem insert_eq_replaceFirst (known : entries.any (fun other => key.beq other.1) = true) :
    entries.insert key value = replaceFirst key.beq value entries := by
  induction entries with
  | nil => cases known
  | cons first rest ih =>
      rw [insert, replaceFirst]
      split
      · rfl
      · next different =>
        rw [List.any_cons, Bool.eq_false_iff.mpr different, Bool.false_or] at known
        rw [ih known]

theorem insert_eq_append (unknown : entries.any (fun other => key.beq other.1) = false) :
    entries.insert key value = entries ++ [(key, value)] := by
  induction entries with
  | nil => rfl
  | cons first rest ih =>
      rw [List.any_cons, Bool.or_eq_false_iff] at unknown
      rw [insert, unknown.1, ih unknown.2]
      rfl

/-! ## Entries by their keys -/

/-- A lookup of the key that is found for a text is a lookup of the text. -/
theorem bind_keyAt? (proper : (Document.mapping entries).isProper = true) (text : String) :
    (entries.keyAt? text).bind entries.get? = entries.at? text := by
  rw [keyAt?_eq, at?]
  cases found : entries.find? fun entry => entries.addresses text entry.1 with
  | none => rfl
  | some entry =>
      have member := List.mem_of_find?_eq_some found
      have coherent := Document.areCoherent_of_isProper proper
      exact congrArg (Option.map Prod.snd) (coherent.find?_eq member)

/-- The key under which a text is stored: the one that is found, or else the text. -/
def slotAt (entries : Mapping) (text : String) : Document :=
  (entries.keyAt? text).getD (.string text)

theorem get?_slotAt (proper : (Document.mapping entries).isProper = true) (text : String) :
    entries.get? (entries.slotAt text) = entries.at? text := by
  rw [← bind_keyAt? proper, slotAt]
  cases found : entries.keyAt? text with
  | some key => rfl
  | none =>
      have missing : entries.at? text = none := by rw [← bind_keyAt? proper, found]; rfl
      have noString := hasField_of_at?_eq_none missing
      rw [hasField_eq_isSome] at noString
      exact Option.not_isSome_iff_eq_none.mp (Bool.eq_false_iff.mp noString)

/-- To store a value is to insert it under the key of its text. -/
theorem insert_slotAt (proper : (Document.mapping entries).isProper = true) (text : String)
    (value : Document) : entries.insert (entries.slotAt text) value = entries.put text value := by
  rw [put, at?, Option.isSome_map, slotAt, keyAt?_eq]
  cases found : entries.find? fun entry => entries.addresses text entry.1 with
  | none =>
      have missing : entries.at? text = none := by rw [at?, found]; rfl
      have unknown : entries.any (fun other => (Document.string text).beq other.1) = false := by
        simp only [Document.string_beq_eq_isField]
        exact hasField_of_at?_eq_none missing
      rw [Option.map_none, Option.getD_none, insert_eq_append unknown]
      rfl
  | some entry =>
      rcases exists_split proper found with ⟨before, after, same, byText, byKey⟩
      have known : entries.any (fun other => entry.1.beq other.1) = true :=
        List.any_eq_true.mpr ⟨entry, List.mem_of_find?_eq_some found, byKey.1⟩
      rw [Option.map_some, Option.getD_some, insert_eq_replaceFirst known, Option.isSome_some,
        if_pos rfl, replaceFirst_of_split same byKey.1 byKey.2,
        replaceFirst_of_split same byText.1 byText.2]

/-- To remove the entry of a text is to erase that of the key that is found. -/
theorem eraseP_keyAt? (proper : (Document.mapping entries).isProper = true)
    (found : entries.keyAt? text = some key) :
    entries.eraseP (fun entry => key.beq entry.1) = entries.removeAt text := by
  rw [keyAt?_eq] at found
  rcases Option.map_eq_some_iff.mp found with ⟨entry, addressed, rfl⟩
  rcases exists_split proper addressed with ⟨before, after, same, byText, byKey⟩
  exact (eraseP_of_split same byKey.1 byKey.2).trans (eraseP_of_split same byText.1 byText.2).symm

/-- Look for the key of a text, and take the entry of that key out. -/
def removeByKey? (entries : Mapping) (text : String) : Option (Document × Document) := do
  let key ← entries.keyAt? text
  let value ← entries.get? key
  return (value, .mapping (entries.eraseP fun entry => key.beq entry.1))

theorem removeByKey?_eq (proper : (Document.mapping entries).isProper = true) (text : String) :
    entries.removeByKey? text =
      (entries.at? text).map fun value => (value, .mapping (entries.removeAt text)) := by
  rw [← bind_keyAt? proper, removeByKey?]
  cases found : entries.keyAt? text with
  | none => rfl
  | some key =>
      simp only [Option.bind_eq_bind, Option.bind_some, eraseP_keyAt? proper found]
      cases entries.get? key <;> rfl

end Mapping

end RuleSchema
