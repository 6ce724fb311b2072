import Mathlib.Data.Finset.Card
import Mathlib.Dynamics.PeriodicPts.Defs
import RuleSchema.Property.Declaration
import RuleSchema.Proofs.NameMap

/-!
# Parents before children

The test for cycles walks up at most as many parents as there are declarations, which is
enough: a longer way would come to some property twice.  Without a cycle the search from the
properties down finishes every property after its children.  What it has met but not yet
finished lies above the property that it is at; this is the invariant of the search.
-/

namespace RuleSchema.PropertyDeclarations

variable {declarations : PropertyDeclarations}

/-- One step up from a property, if there is one. -/
def up (declarations : PropertyDeclarations) (place : Option String) : Option String :=
  place.bind declarations.parent?

/-- A property is a parent of another, or of one of its parents. -/
def IsAbove (declarations : PropertyDeclarations) (upper lower : String) : Prop :=
  ∃ steps, declarations.up^[steps + 1] (some lower) = some upper

/-- No property is above itself. -/
def IsAcyclic (declarations : PropertyDeclarations) : Prop :=
  ∀ name, ¬declarations.IsAbove name name

theorem up_iterate_none (steps : Nat) : declarations.up^[steps] none = none :=
  Function.iterate_fixed rfl steps

theorem IsAbove.of_parent {name parent : String} (known : declarations.parent? name = some parent) :
    declarations.IsAbove parent name := ⟨0, known⟩

/-- What is above a property is above its children. -/
theorem IsAbove.child {upper parent name : String} (above : declarations.IsAbove upper parent)
    (known : declarations.parent? name = some parent) : declarations.IsAbove upper name := by
  rcases above with ⟨steps, reached⟩
  refine ⟨steps + 1, ?_⟩
  have first : declarations.up (some name) = some parent := known
  rw [Function.iterate_succ_apply, first, reached]

theorem mem_names_of_parent? {name parent : String}
    (known : declarations.parent? name = some parent) : name ∈ declarations.names := by
  rcases Option.bind_eq_some_iff.mp known with ⟨declaration, found, -⟩
  exact NameMap.mem_names_iff.mpr ⟨declaration, found⟩

/-! ## The test for cycles -/

theorem reaches_iff {goal name : String} {steps : Nat} :
    declarations.reaches goal steps name = true ↔
      ∃ count < steps, declarations.up^[count + 1] (some name) = some goal := by
  induction steps generalizing name with
  | zero => simp [reaches]
  | succ steps ih =>
      rw [reaches]
      cases known : declarations.parent? name with
      | none =>
          have nowhere : declarations.up (some name) = none := known
          simp only [Bool.false_eq_true, false_iff, not_exists, not_and]
          intro count _
          rw [Function.iterate_succ_apply, nowhere, up_iterate_none]
          simp
      | some parent =>
          have first : declarations.up (some name) = some parent := known
          simp only [Bool.or_eq_true, beq_iff_eq, ih, Function.iterate_succ_apply, first]
          constructor
          · rintro (rfl | ⟨count, small, reached⟩)
            · exact ⟨0, Nat.succ_pos steps, rfl⟩
            · exact ⟨count + 1, Nat.succ_lt_succ small, reached⟩
          · rintro ⟨count, small, reached⟩
            cases count with
            | zero => exact .inl (Option.some.inj reached)
            | succ count => exact .inr ⟨count, Nat.lt_of_succ_lt_succ small, reached⟩

/-- The way from a property back to itself is no longer than there are declarations. -/
theorem minimalPeriod_le_length (name : String) :
    Function.minimalPeriod declarations.up (some name) ≤ declarations.length := by
  let period := Function.minimalPeriod declarations.up (some name)
  have onTheWay : Set.MapsTo (fun count => declarations.up^[count] (some name))
      (Finset.range period) (declarations.names.toFinset.image some) := by
    intro count member
    have small : count < period := Finset.mem_range.mp member
    have around : declarations.up^[period - (count + 1)]
        (declarations.up (declarations.up^[count] (some name))) = some name := by
      rw [← Function.iterate_succ_apply' declarations.up, ← Function.iterate_add_apply,
        Nat.sub_add_cancel small]
      exact Function.iterate_minimalPeriod
    cases place : declarations.up^[count] (some name) with
    | none =>
        have nowhere : declarations.up^[period - (count + 1)] (declarations.up none) = none :=
          up_iterate_none _
        rw [place, nowhere] at around
        cases around
    | some other =>
        rw [place] at around
        cases parent : declarations.parent? other with
        | none =>
            have nowhere : declarations.up (some other) = none := parent
            rw [nowhere, up_iterate_none] at around
            cases around
        | some _ =>
            refine Finset.mem_coe.mpr (Finset.mem_image.mpr ⟨other, ?_, place.symm⟩)
            exact List.mem_toFinset.mpr (mem_names_of_parent? parent)
  have distinct : Set.InjOn (fun count => declarations.up^[count] (some name))
      (Finset.range period) := by
    rw [Finset.coe_range]
    exact Function.iterate_injOn_Iio_minimalPeriod
  calc period = (Finset.range period).card := (Finset.card_range period).symm
    _ ≤ (declarations.names.toFinset.image some).card :=
        Finset.card_le_card_of_injOn _ onTheWay distinct
    _ ≤ declarations.names.toFinset.card := Finset.card_image_le
    _ ≤ declarations.names.length := List.toFinset_card_le _
    _ = declarations.length := List.length_map _

theorem isCyclic_iff {name : String} :
    declarations.isCyclic name = true ↔ declarations.IsAbove name name := by
  rw [isCyclic, reaches_iff]
  constructor
  · rintro ⟨count, -, reached⟩
    exact ⟨count, reached⟩
  · intro above
    rcases above with ⟨steps, reached⟩
    have positive : 0 < Function.minimalPeriod declarations.up (some name) :=
      Function.IsPeriodicPt.minimalPeriod_pos (Nat.succ_pos steps) reached
    have short : Function.minimalPeriod declarations.up (some name) ≤ declarations.length :=
      minimalPeriod_le_length name
    refine ⟨Function.minimalPeriod declarations.up (some name) - 1, by omega, ?_⟩
    rw [Nat.sub_add_cancel positive]
    exact Function.iterate_minimalPeriod

/-- No property is found on a cycle exactly if there is no cycle. -/
theorem isAcyclic_iff : declarations.names.any declarations.isCyclic = false ↔
    declarations.IsAcyclic := by
  rw [List.any_eq_false]
  constructor
  · intro none name above
    rcases above with ⟨steps, reached⟩
    cases known : declarations.parent? name with
    | none =>
        have nowhere : declarations.up (some name) = Option.none := known
        rw [Function.iterate_succ_apply, nowhere, up_iterate_none] at reached
        cases reached
    | some parent =>
        exact none name (mem_names_of_parent? known) (isCyclic_iff.mpr ⟨steps, reached⟩)
  · intro acyclic name _ cyclic
    exact acyclic name (isCyclic_iff.mp cyclic)

/-! ## The search -/

theorem mem_children_iff (distinct : declarations.names.Nodup) {name child : String} :
    child ∈ declarations.children name ↔ declarations.parent? child = some name := by
  rw [children, List.mem_map]
  constructor
  · rintro ⟨⟨other, declaration⟩, member, rfl⟩
    rcases List.mem_filter.mp member with ⟨known, isParent⟩
    rw [parent?, NameMap.get?_of_mem distinct known]
    exact eq_of_beq isParent
  · intro parent
    rcases Option.bind_eq_some_iff.mp parent with ⟨declaration, found, isParent⟩
    refine ⟨(child, declaration), List.mem_filter.mpr ⟨NameMap.mem_of_get? found, ?_⟩, rfl⟩
    exact beq_of_eq isParent

/-- No name comes twice, and each comes before its children, which are all there. -/
def ParentsFirst (declarations : PropertyDeclarations) : List String → Prop
  | [] => True
  | name :: rest =>
      name ∉ rest ∧ (∀ child ∈ declarations.children name, child ∈ rest) ∧
        ParentsFirst declarations rest

/-- How many properties the search has not met. -/
def unmet (declarations : PropertyDeclarations) (state : Search) : Nat :=
  (declarations.names.filter fun name => !state.met.contains name).length

/-- The search with one more property met. -/
def Search.meet (state : Search) (name : String) : Search :=
  { state with met := name :: state.met }

/-- What the search keeps from one state to a later one. -/
structure Advances (declarations : PropertyDeclarations) (before after : Search) : Prop where
  ordered : declarations.ParentsFirst after.finished
  finishedMet : after.finished ⊆ after.met
  keepsFinished : before.finished ⊆ after.finished
  keepsMet : before.met ⊆ after.met
  newFinished : ∀ name ∈ after.met, name ∈ before.met ∨ name ∈ after.finished
  staysOpen : ∀ name ∈ after.finished, name ∈ before.finished ∨ name ∉ before.met

theorem Advances.refl {state : Search} (ordered : declarations.ParentsFirst state.finished)
    (finishedMet : state.finished ⊆ state.met) : Advances declarations state state where
  ordered := ordered
  finishedMet := finishedMet
  keepsFinished := List.Subset.refl _
  keepsMet := List.Subset.refl _
  newFinished := fun _ met => .inl met
  staysOpen := fun _ finished => .inl finished

theorem Advances.trans {before middle after : Search}
    (first : Advances declarations before middle) (second : Advances declarations middle after) :
    Advances declarations before after where
  ordered := second.ordered
  finishedMet := second.finishedMet
  keepsFinished := List.Subset.trans first.keepsFinished second.keepsFinished
  keepsMet := List.Subset.trans first.keepsMet second.keepsMet
  newFinished := by
    intro name met
    rcases second.newFinished name met with known | finished
    · exact (first.newFinished name known).imp_right fun done => second.keepsFinished done
    · exact .inr finished
  staysOpen := by
    intro name finished
    rcases second.staysOpen name finished with done | fresh
    · exact first.staysOpen name done
    · exact .inr fun met => fresh (first.keepsMet met)

/-- A property is finished once all below it is. -/
theorem Advances.finish {state below : Search} {name : String}
    (finishedMet : state.finished ⊆ state.met) (fresh : name ∉ state.met)
    (advances : Advances declarations (state.meet name) below)
    (children : ∀ child ∈ declarations.children name, child ∈ below.finished) :
    Advances declarations state { below with finished := name :: below.finished } where
  ordered := by
    refine ⟨?_, children, advances.ordered⟩
    intro done
    rcases advances.staysOpen name done with early | unmet
    · exact fresh (finishedMet early)
    · exact unmet List.mem_cons_self
  finishedMet := List.cons_subset.mpr
    ⟨advances.keepsMet List.mem_cons_self, advances.finishedMet⟩
  keepsFinished := List.subset_cons_of_subset name advances.keepsFinished
  keepsMet := fun _ met => advances.keepsMet (List.mem_cons_of_mem name met)
  newFinished := by
    intro other met
    rcases advances.newFinished other met with known | done
    · rcases List.mem_cons.mp known with rfl | old
      · exact .inr List.mem_cons_self
      · exact .inl old
    · exact .inr (List.mem_cons_of_mem name done)
  staysOpen := by
    intro other done
    rcases List.mem_cons.mp done with rfl | earlier
    · exact .inr fresh
    · exact (advances.staysOpen other earlier).imp_right fun unmet met =>
        unmet (List.mem_cons_of_mem name met)

/--
The search may visit a property: what is met but not finished lies above it, and there is
depth left for all properties that are not met.
-/
structure Ready (declarations : PropertyDeclarations) (depth : Nat) (state : Search)
    (name : String) : Prop where
  declared : name ∈ declarations.names
  ordered : declarations.ParentsFirst state.finished
  finishedMet : state.finished ⊆ state.met
  openAbove : ∀ other ∈ state.met, other ∈ state.finished ∨ declarations.IsAbove other name
  depthLeft : declarations.unmet state < depth

theorem unmet_le {before after : Search} (keepsMet : before.met ⊆ after.met) :
    declarations.unmet after ≤ declarations.unmet before := by
  apply List.Sublist.length_le
  apply List.monotone_filter_right
  intro name fresh
  simp only [Bool.not_eq_true', List.contains_eq_mem, decide_eq_false_iff_not] at fresh ⊢
  exact fun met => fresh (keepsMet met)

theorem unmet_meet_lt {state : Search} {name : String} (declared : name ∈ declarations.names)
    (fresh : name ∉ state.met) :
    declarations.unmet (state.meet name) < declarations.unmet state := by
  have part : declarations.unmet (state.meet name) =
      ((declarations.names.filter fun other => !state.met.contains other).filter
        fun other => other != name).length := by
    rw [unmet, List.filter_filter]
    congr 1
    apply List.filter_congr
    intro other _
    simp only [Search.meet, List.contains_cons, Bool.not_or]
    rfl
  rw [part]
  apply List.length_filter_lt_length_iff_exists.mpr
  exact ⟨name, List.mem_filter.mpr ⟨declared, by simpa using fresh⟩, by simp⟩

theorem Ready.advance {depth : Nat} {before after : Search} {name : String}
    (ready : Ready declarations depth before name)
    (advances : Advances declarations before after) : Ready declarations depth after name where
  declared := ready.declared
  ordered := advances.ordered
  finishedMet := advances.finishedMet
  openAbove := by
    intro other met
    rcases advances.newFinished other met with known | finished
    · exact (ready.openAbove other known).imp_left fun done => advances.keepsFinished done
    · exact .inl finished
  depthLeft := Nat.lt_of_le_of_lt (unmet_le advances.keepsMet) ready.depthLeft

/-- Visits one after another advance the search, and finish what they visit. -/
theorem advances_foldl {visit : Search → String → Search} {depth : Nat} {names : List String}
    {state : Search}
    (visits : ∀ state name, Ready declarations depth state name →
      Advances declarations state (visit state name) ∧ name ∈ (visit state name).finished)
    (ordered : declarations.ParentsFirst state.finished)
    (finishedMet : state.finished ⊆ state.met)
    (ready : ∀ name ∈ names, Ready declarations depth state name) :
    Advances declarations state (names.foldl visit state) ∧
      ∀ name ∈ names, name ∈ (names.foldl visit state).finished := by
  induction names generalizing state with
  | nil => exact ⟨.refl ordered finishedMet, fun _ member => absurd member List.not_mem_nil⟩
  | cons name rest ih =>
      rcases visits state name (ready name List.mem_cons_self) with ⟨first, done⟩
      rcases ih first.ordered first.finishedMet fun other member =>
        (ready other (List.mem_cons_of_mem name member)).advance first with ⟨later, others⟩
      refine ⟨first.trans later, ?_⟩
      intro other member
      rcases List.mem_cons.mp member with rfl | inRest
      · exact later.keepsFinished done
      · exact others other inRest

/-- A visit of the search finishes the property after all below it. -/
theorem advances_search (acyclic : declarations.IsAcyclic)
    (distinct : declarations.names.Nodup) {depth : Nat} {state : Search} {name : String}
    (ready : Ready declarations depth state name) :
    Advances declarations state (search declarations depth state name) ∧
      name ∈ (search declarations depth state name).finished := by
  induction depth generalizing state name with
  | zero => exact absurd ready.depthLeft (Nat.not_lt_zero _)
  | succ depth ih =>
      rw [search]
      split
      · next met =>
        refine ⟨.refl ready.ordered ready.finishedMet, ?_⟩
        have known : name ∈ state.met := by simpa using met
        exact (ready.openAbove name known).resolve_right (acyclic name)
      · next unknown =>
        have fresh : name ∉ state.met := by simpa using unknown
        have finishedMet : (state.meet name).finished ⊆ (state.meet name).met :=
          fun _ done => List.mem_cons_of_mem name (ready.finishedMet done)
        have readyBelow : ∀ child ∈ declarations.children name,
            Ready declarations depth (state.meet name) child := by
          intro child isChild
          have parent := (mem_children_iff distinct).mp isChild
          refine ⟨mem_names_of_parent? parent, ready.ordered, finishedMet, ?_, ?_⟩
          · intro other met
            rcases List.mem_cons.mp met with rfl | old
            · exact .inr (.of_parent parent)
            · exact (ready.openAbove other old).imp_right fun above => above.child parent
          · have fewer := unmet_meet_lt ready.declared fresh
            have left := ready.depthLeft
            omega
        have below : Advances declarations (state.meet name)
              ((declarations.children name).foldl (search declarations depth) (state.meet name)) ∧
            ∀ child ∈ declarations.children name, child ∈ ((declarations.children name).foldl
              (search declarations depth) (state.meet name)).finished :=
          advances_foldl (fun _ _ ready => ih ready) ready.ordered finishedMet readyBelow
        exact ⟨.finish ready.finishedMet fresh below.1 below.2, List.mem_cons_self⟩

/-- The order of all properties puts parents before their children, each property once. -/
theorem parentsFirst_order (acyclic : declarations.IsAcyclic)
    (distinct : declarations.names.Nodup) :
    declarations.ParentsFirst declarations.order ∧
      ∀ name ∈ declarations.names, name ∈ declarations.order := by
  have ready : ∀ name ∈ declarations.names,
      Ready declarations (declarations.length + 1) ⟨[], []⟩ name := by
    intro name declared
    refine ⟨declared, trivial, List.Subset.refl _, fun _ met => absurd met List.not_mem_nil, ?_⟩
    have all : declarations.unmet ⟨[], []⟩ ≤ declarations.names.length :=
      List.length_filter_le _ _
    rw [NameMap.names, List.length_map] at all
    exact Nat.lt_succ_of_le all
  have initially : declarations.ParentsFirst (Search.finished ⟨[], []⟩) := trivial
  rcases advances_foldl (fun _ _ ready => advances_search acyclic distinct ready) initially
    (List.Subset.refl _) ready with ⟨advances, all⟩
  exact ⟨advances.ordered, all⟩

/-- In such an order a parent comes before its child. -/
theorem ParentsFirst.mem_before {before after : List String} {name parent : String}
    (distinct : declarations.names.Nodup)
    (ordered : declarations.ParentsFirst (before ++ name :: after))
    (known : declarations.parent? name = some parent) (member : parent ∈ before ++ name :: after) :
    parent ∈ before := by
  have isChild := (mem_children_iff distinct).mpr known
  induction before with
  | nil =>
      -- After the name its parent cannot come, since it would have the name behind it again.
      have noneAfter {names : List String} (ordered : declarations.ParentsFirst names)
          (absent : name ∉ names) : parent ∉ names := by
        induction names with
        | nil => exact List.not_mem_nil
        | cons first rest ih =>
            rcases ordered with ⟨-, children, ordered⟩
            simp only [List.mem_cons, not_or] at absent ⊢
            refine ⟨?_, ih ordered absent.2⟩
            rintro rfl
            exact absent.2 (children name isChild)
      rcases ordered with ⟨fresh, children, ordered⟩
      rcases List.mem_cons.mp member with rfl | later
      · exact absurd (children parent isChild) fresh
      · exact absurd later (noneAfter ordered fresh)
  | cons first before ih =>
      rcases List.mem_cons.mp member with rfl | later
      · exact List.mem_cons_self
      · exact List.mem_cons_of_mem first (ih ordered.2.2 later)

end RuleSchema.PropertyDeclarations
