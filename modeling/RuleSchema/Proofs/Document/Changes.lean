import RuleSchema.Proofs.Document.Paths
import RuleSchema.Proofs.Document.Reach

/-!
# A document with one value changed

Two documents that differ in one place only have the same keys outside it.  A path that does
not go on below that place leads to equal values in both, or to values that differ there.
-/

namespace RuleSchema

namespace Document

/-- A document before and after the value at a path is changed. -/
inductive Changed (old new : Document) : DocPath → Document → Document → Prop where
  | here : Changed old new [] old new
  | entry {front back : Mapping} {key before after : Document} {path : DocPath}
      (below : Changed old new path before after) :
      Changed old new (PathKey.ofDocument key :: path)
        (.mapping (front ++ (key, before) :: back)) (.mapping (front ++ (key, after) :: back))
  | item {front back : List Document} {before after : Document} {path : DocPath}
      (below : Changed old new path before after) :
      Changed old new (.index front.length :: path)
        (.sequence (front ++ before :: back)) (.sequence (front ++ after :: back))
  | tag {name : String} {before after : Document} {path : DocPath}
      (below : Changed old new path before after) :
      Changed old new path (.tagged name before) (.tagged name after)

variable {old new before after value : Document} {path place : DocPath}

theorem Changed.symm (change : Changed old new path before after) :
    Changed new old path after before := by
  induction change with
  | here => exact .here
  | entry _ ih => exact .entry ih
  | item _ ih => exact .item ih
  | tag _ ih => exact .tag ih

theorem Changed.exists_holds (change : Changed old new path before after) (notRoot : path ≠ []) :
    ∃ value, before.Holds path value := by
  induction change with
  | here => exact absurd rfl notRoot
  | @entry front back key before after path below ih =>
      have member : (key, before) ∈ front ++ (key, before) :: back := List.mem_append_cons_self
      by_cases last : path = []
      · exact ⟨before, last ▸ .entry member⟩
      · exact (ih last).imp fun value holds => .belowEntry member holds
  | @item front back before after path below ih =>
      have member : (front ++ before :: back)[front.length]? = some before := by simp
      by_cases last : path = []
      · exact ⟨before, last ▸ .item member⟩
      · exact (ih last).imp fun value holds => .belowItem member holds
  | tag below ih => exact (ih notRoot).imp fun value holds => .tag holds

/-! ## Entries and items -/

theorem mem_changed {α : Type} {front back : List α} {old new other : α}
    (member : other ∈ front ++ old :: back) : other ∈ front ++ new :: back ∨ other = old := by
  rcases List.mem_append.mp member with early | late
  · exact .inl (List.mem_append_left _ early)
  · rcases List.mem_cons.mp late with same | late
    · exact .inr same
    · exact .inl (List.mem_append_right _ (List.mem_cons_of_mem _ late))

/-- A step addresses the changed entry in both mappings, or an equal one. -/
theorem at?_changed (front back : Mapping) (key before after : Document) (text : String) :
    Mapping.at? (front ++ (key, before) :: back) text =
        Mapping.at? (front ++ (key, after) :: back) text ∨
      key.keyText = text ∧ Mapping.at? (front ++ (key, before) :: back) text = some before ∧
        Mapping.at? (front ++ (key, after) :: back) text = some after := by
  have addresses : Mapping.addresses (front ++ (key, before) :: back) text =
      Mapping.addresses (front ++ (key, after) :: back) text := by
    have sameKeys : Mapping.hasField (front ++ (key, before) :: back) text =
        Mapping.hasField (front ++ (key, after) :: back) text := by
      simp only [Mapping.hasField, List.any_append, List.any_cons]
    funext other
    rw [Mapping.addresses, Mapping.addresses, sameKeys]
  rw [Mapping.at?, Mapping.at?, addresses, List.find?_append, List.find?_append, List.find?_cons,
    List.find?_cons]
  cases front.find? fun entry =>
      Mapping.addresses (front ++ (key, after) :: back) text entry.1 with
  | some entry => exact .inl rfl
  | none =>
      dsimp only
      split
      · next addressed => exact .inr ⟨keyText_of_addresses addressed, rfl, rfl⟩
      · exact .inl rfl

theorem getElem?_changed (front back : List Document) (before after : Document)
    (position : Nat) :
    (front ++ before :: back)[position]? = (front ++ after :: back)[position]? ∨
      position = front.length ∧ (front ++ before :: back)[position]? = some before ∧
        (front ++ after :: back)[position]? = some after := by
  rw [List.getElem?_append, List.getElem?_append]
  split
  · exact .inl rfl
  · next beyond =>
    cases further : position - front.length with
    | zero => exact .inr ⟨by omega, rfl, rfl⟩
    | succ count => exact .inl rfl

/-! ## Paths that do not go below the change -/

theorem not_isAncestorOf_of_cons {step : PathKey}
    (outside : DocPath.isAncestorOf (step :: path) (step :: place) = false) :
    path.isAncestorOf place = false := by
  rw [Bool.eq_false_iff] at outside ⊢
  intro isAbove
  rcases DocPath.isAncestorOf_iff.mp isAbove with ⟨rest, further, rfl⟩
  exact outside (DocPath.isAncestorOf_iff.mpr ⟨rest, further, rfl⟩)

theorem eq_nil_of_not_isAncestorOf (outside : DocPath.isAncestorOf [] place = false) :
    place = [] := by
  apply Classical.byContradiction
  intro further
  rw [Bool.eq_false_iff] at outside
  exact outside (DocPath.isAncestorOf_iff.mpr ⟨place, further, rfl⟩)

/-- Two values are equal, or differ where the change is. -/
def SameOrChanged (old new : Document) (path place : DocPath) (value other : Document) : Prop :=
  value = other ∨ ∃ rest, path = place ++ rest ∧ Changed old new rest value other

theorem SameOrChanged.below {other : Document} {step : PathKey}
    (alike : SameOrChanged old new path place value other) :
    SameOrChanged old new (step :: path) (step :: place) value other := by
  rcases alike with same | ⟨rest, parts, change⟩
  · exact .inl same
  · exact .inr ⟨rest, by rw [parts, List.cons_append], change⟩

/-- A lookup that does not go below the change finds in both documents what is alike. -/
theorem Changed.get? (change : Changed old new path before after)
    (outside : path.isAncestorOf place = false) :
    DocPath.get? place before = DocPath.get? place after ∨
      ∃ value other, DocPath.get? place before = some value ∧
        DocPath.get? place after = some other ∧ SameOrChanged old new path place value other := by
  induction change generalizing place with
  | here =>
      cases eq_nil_of_not_isAncestorOf outside
      exact .inr ⟨old, new, rfl, rfl, .inr ⟨[], rfl, .here⟩⟩
  | @entry front back key before after path below ih =>
      cases place with
      | nil => exact .inr ⟨_, _, rfl, rfl, .inr ⟨_, rfl, .entry below⟩⟩
      | cons step place =>
          cases step with
          | index position => exact .inl rfl
          | key text =>
              rw [DocPath.get?, DocPath.get?]
              rcases at?_changed front back key before after text with
                same | ⟨rfl, first, second⟩
              · exact .inl (by rw [same])
              · rw [first, second]
                refine (ih (not_isAncestorOf_of_cons outside)).imp_right ?_
                rintro ⟨value, other, found, alsoFound, alike⟩
                exact ⟨value, other, found, alsoFound, alike.below⟩
  | @item front back before after path below ih =>
      cases place with
      | nil => exact .inr ⟨_, _, rfl, rfl, .inr ⟨_, rfl, .item below⟩⟩
      | cons step place =>
          cases step with
          | key text => exact .inl rfl
          | index position =>
              rw [DocPath.get?, DocPath.get?]
              rcases getElem?_changed front back before after position with
                same | ⟨rfl, first, second⟩
              · exact .inl (by rw [same])
              · rw [first, second]
                refine (ih (not_isAncestorOf_of_cons outside)).imp_right ?_
                rintro ⟨value, other, found, alsoFound, alike⟩
                exact ⟨value, other, found, alsoFound, alike.below⟩
  | tag below ih =>
      cases place with
      | nil => exact .inr ⟨_, _, rfl, rfl, .inr ⟨_, rfl, .tag below⟩⟩
      | cons step place => cases step <;> exact .inl rfl

/-- A path that does not go below the change leads in both documents to what is alike. -/
theorem Changed.holds (change : Changed old new path before after)
    (holds : before.Holds place value) (outside : path.isAncestorOf place = false) :
    ∃ other, after.Holds place other ∧ SameOrChanged old new path place value other := by
  induction change generalizing place with
  | here => exact absurd (eq_nil_of_not_isAncestorOf outside) holds.ne_nil
  | @entry front back key before after path below ih =>
      have here : (key, after) ∈ front ++ (key, after) :: back := List.mem_append_cons_self
      cases holds with
      | entry member =>
          rcases mem_changed member with kept | same
          · exact ⟨value, .entry kept, .inl rfl⟩
          · cases same
            exact ⟨after, .entry here, .inr ⟨path, rfl, below⟩⟩
      | belowEntry member lower =>
          rcases mem_changed member with kept | same
          · exact ⟨value, .belowEntry kept lower, .inl rfl⟩
          · cases same
            rcases ih lower (not_isAncestorOf_of_cons outside) with ⟨other, reached, alike⟩
            exact ⟨other, .belowEntry here reached, alike.below⟩
  | @item front back before after path below ih =>
      have items {position : Nat} {inner : Document}
          (member : (front ++ before :: back)[position]? = some inner) :
          (front ++ after :: back)[position]? = some inner ∨
            position = front.length ∧ inner = before ∧
              (front ++ after :: back)[position]? = some after := by
        rcases getElem?_changed front back before after position with
          same | ⟨atPlace, first, second⟩
        · exact .inl (same ▸ member)
        · exact .inr ⟨atPlace, Option.some.inj (member.symm.trans first), second⟩
      cases holds with
      | item member =>
          rcases items member with kept | ⟨rfl, rfl, here⟩
          · exact ⟨value, .item kept, .inl rfl⟩
          · exact ⟨after, .item here, .inr ⟨path, rfl, below⟩⟩
      | belowItem member lower =>
          rcases items member with kept | ⟨rfl, rfl, here⟩
          · exact ⟨value, .belowItem kept lower, .inl rfl⟩
          · rcases ih lower (not_isAncestorOf_of_cons outside) with ⟨other, reached, alike⟩
            exact ⟨other, .belowItem here reached, alike.below⟩
  | tag below ih =>
      cases holds with
      | tag lower =>
          rcases ih lower outside with ⟨other, reached, alike⟩
          exact ⟨other, .tag reached, alike⟩

end Document

end RuleSchema
