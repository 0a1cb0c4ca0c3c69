import TemplateCodegen.Incremental.Signal

/-!
# Slots and stage functions

A stage keeps its current values in a slot with a version, which advances only when new values
differ from the old ones; an unchanged version is all that a later stage has to look at. A stage
function turns one element into any number of elements; it may poll and give up, but what it returns
depends on the element alone.
-/

namespace TemplateCodegen.Incremental

/-- The current values of a stage. -/
structure Slot (α : Type) where
  /-- The values, in order. -/
  values : List α := []
  /-- How often they have changed. -/
  version : Nat := 0

/-- Put in new values; equal ones leave the slot as it is. Also says whether the slot has changed.
-/
def Slot.update {α : Type} [BEq α] (slot : Slot α) (values : List α) : Slot α × Bool :=
  if slot.values == values then (slot, false) else (⟨values, slot.version + 1⟩, true)

/-- What a stage has done so far. -/
structure Stats where
  /-- How often it was evaluated because an input had changed. -/
  evaluations : Nat := 0
  /-- How often its function was applied, or its value was taken. -/
  computations : Nat := 0
  /-- How often its values have changed. -/
  changes : Nat := 0
deriving DecidableEq, Repr

/-- Count one change, or none. -/
def Stats.countChange (stats : Stats) (changed : Bool) : Stats :=
  if changed then { stats with changes := stats.changes + 1 } else stats

/-- Count an evaluation with a number of computations. -/
def Stats.countEvaluation (stats : Stats) (computations : Nat) (changed : Bool) : Stats :=
  Stats.countChange
    { stats with
      evaluations := stats.evaluations + 1
      computations := stats.computations + computations }
    changed

/-- A function from elements to lists of elements that may be cancelled. -/
structure StageFn (α γ : Type) where
  /-- What an element gives. -/
  value : α → List γ
  /-- The computation, with its polls. -/
  compute : α → Run (List γ)
  /-- A computation that is not cancelled gives the value of its element. -/
  compute_ok : ∀ {element : α} {signal signal' : Signal} {result : List γ},
    compute element signal = .ok result signal' → result = value element

namespace StageFn

variable {α γ : Type}

/-- A function that does not poll. -/
def ofPure (f : α → List γ) : StageFn α γ where
  value := f
  compute element := pure (f element)
  compute_ok {_ _ _ _} h := by cases h; rfl

/-- A function behind a check that may poll, ask for a stop, or give up. -/
def guarded (guard : α → Run Unit) (f : α → List γ) : StageFn α γ where
  value := f
  compute element := fun signal =>
    match guard element signal with
    | .ok _ next => .ok (f element) next
    | .error error next => .error error next
  compute_ok {element signal _ _} h := by
    cases hguard : guard element signal with
    | ok _ next =>
      simp only [hguard] at h
      cases h
      rfl
    | error error next =>
      simp only [hguard] at h
      cases h

end StageFn

/-- A slot that reports no change is the slot it was. -/
theorem Slot.update_of_not_changed {α : Type} [BEq α] {slot : Slot α} {values : List α}
    (h : (slot.update values).2 = false) : (slot.update values).1 = slot := by
  unfold Slot.update at h ⊢
  split
  · rfl
  · rename_i hne
    simp [hne] at h

/-- The version advances by one exactly when the slot reports a change. -/
theorem Slot.update_version {α : Type} [BEq α] (slot : Slot α) (values : List α) :
    (slot.update values).1.version =
      slot.version + if (slot.update values).2 = true then 1 else 0 := by
  unfold Slot.update
  split <;> simp

end TemplateCodegen.Incremental
