import RuleSchema.Proofs.Document.Editing

/-!
# Refused assignments

An assignment creates what is missing on its way as it goes, and may then come to a step that
it refuses: what it has created stays.  So a refused assignment leaves the document as it was
exactly where it is refused before anything is created, that is where its path stops neither at
null nor at a key that a mapping lacks.  In either case only lookups at prefixes of its path can
tell the difference.
-/

namespace RuleSchema.DocPath

variable {step : PathKey} {rest path place : DocPath} {document value : Document}

/-- The first step of a path that leads nowhere, and the document in which it was to be taken. -/
def gap? : DocPath → Document → Option (PathKey × Document)
  | [], _ => none
  | step :: rest, document =>
      match get? [step] document with
      | some inner => gap? rest inner
      | none => some (step, document)

/-- Whether an assignment changes something at a gap before it goes on from there. -/
def isFilled (gap : PathKey × Document) : Bool := takesEntry gap.1 gap.2 || gap.2.isNull

theorem opened_eq_self_iff : opened document = document ↔ document.isNull = false := by
  rw [opened]
  split
  · next null =>
    rw [null]
    refine ⟨fun same => ?_, fun clash => by cases clash⟩
    rw [← same] at null
    cases null
  · next notNull => exact ⟨fun _ => Bool.eq_false_iff.mpr notNull, fun _ => rfl⟩

/-- Content stored in its place gives the document back if it is what was found there. -/
theorem Slot.store_eq_iff (slot : Slot step document) (new : Document)
    (found : get? [step] document = some slot.content) :
    slot.store new = document ↔ new = slot.content := by
  constructor
  · intro same
    have stored := slot.get?_store new
    rw [same, found] at stored
    exact (Option.some.inj stored).symm
  · rintro rfl
    exact slot.store_content found

/-- Content stored where nothing was found makes a difference. -/
theorem Slot.store_ne (slot : Slot step document) (new : Document)
    (missing : get? [step] document = none) : slot.store new ≠ document := by
  intro same
  have stored := slot.get?_store new
  rw [same, missing] at stored
  cases stored

/-- A refused assignment stores nothing at its path. -/
theorem get?_assign_of_refused (refused : (assign value path document).1 = false) :
    get? path (assign value path document).2 = none := by
  induction path generalizing document with
  | nil => cases refused
  | cons step rest ih =>
      rcases assign_cons value step rest document with ⟨slot, assigned⟩ | ⟨missing, -, stopped⟩
      · rw [assigned] at refused ⊢
        rw [get?_cons, slot.get?_store]
        exact ih refused
      · rw [stopped, get?_opened (by simp), get?_cons, missing]
        rfl

/-- A refused assignment has a gap on its way, and changes nothing unless it fills that gap. -/
theorem exists_gap_of_refused (refused : (assign value path document).1 = false) :
    ∃ gap, gap? path document = some gap ∧
      ((assign value path document).2 = document ↔ isFilled gap = false) := by
  induction path generalizing document with
  | nil => cases refused
  | cons step rest ih =>
      rw [gap?]
      rcases assign_cons value step rest document with
        ⟨slot, assigned⟩ | ⟨missing, noEntry, stopped⟩
      · rw [assigned] at refused ⊢
        rcases slot.found_or_new with found | ⟨missing, -, entry⟩
        · rw [found, slot.store_eq_iff _ found]
          exact ih refused
        · rw [missing]
          refine ⟨_, rfl, fun same => absurd same (slot.store_ne _ missing), fun unfilled => ?_⟩
          rw [isFilled, entry] at unfilled
          cases unfilled
      · rw [missing, stopped, opened_eq_self_iff]
        refine ⟨_, rfl, ?_⟩
        rw [isFilled, noEntry, Bool.false_or]

/--
A refused assignment leaves the document as it was exactly if it fills no gap, and in any case
only lookups at prefixes of its path can tell.
-/
theorem assign_refused_iff (document value : Document) (path : DocPath)
    (refused : (assign value path document).1 = false) :
    (∃ gap, gap? path document = some gap ∧
      ((assign value path document).2 = document ↔ isFilled gap = false)) ∧
    ∀ place, ¬place <+: path →
      get? place (assign value path document).2 = get? place document := by
  refine ⟨exists_gap_of_refused refused, fun place notAbove => ?_⟩
  by_cases continues : path <+: place
  · rcases continues with ⟨below, rfl⟩
    have missing : get? path document = none := by
      cases found : get? path document with
      | none => rfl
      | some old => cases refused.symm.trans (assign_of_found found)
    rw [get?_append, get?_append, get?_assign_of_refused refused, missing]
  · exact sameApartFrom_assign place ⟨continues, notAbove⟩

/-- Limits, one of them not stated. -/
def limitsDocument : Document :=
  .mapping
    [ (.string "limits", .mapping [(.string "memory", .null), (.string "cpu", .ofInt64 2)]),
      (.string "ports", .sequence [.ofInt64 80]) ]

theorem assign_refused_iff_limits :
    (assign .null [.key "limits", .key "disk", .index 0] limitsDocument).1 = false ∧
    (∃ gap, gap? [.key "limits", .key "disk", .index 0] limitsDocument = some gap ∧
      ((assign .null [.key "limits", .key "disk", .index 0] limitsDocument).2 = limitsDocument ↔
        isFilled gap = false)) ∧
    get? [.key "limits", .key "cpu"]
        (assign .null [.key "limits", .key "disk", .index 0] limitsDocument).2 =
      get? [.key "limits", .key "cpu"] limitsDocument := by
  rcases assign_refused_iff limitsDocument .null [.key "limits", .key "disk", .index 0] rfl with
    ⟨unchanged, same⟩
  exact ⟨rfl, unchanged, same [.key "limits", .key "cpu"] (by simp)⟩

/-- What was null is a mapping after an assignment that was refused. -/
theorem assign_refused_changes_null :
    (assign (.ofInt64 5) [.key "limits", .key "memory", .index 0] limitsDocument).1 = false ∧
      (assign (.ofInt64 5) [.key "limits", .key "memory", .index 0] limitsDocument).2 ≠
        limitsDocument := by
  refine ⟨rfl, fun same => ?_⟩
  have before : get? [.key "limits", .key "memory"] limitsDocument = some .null := rfl
  rw [← same] at before
  cases before

end RuleSchema.DocPath
