import Mathlib.Data.List.Induction
import Mathlib.Data.List.Nodup
import TemplateCodegen.Proofs.Parameter.Order
import TemplateCodegen.Proofs.Places

/-!
# Repeated positions

Required parameters are added one after the other and numbered from 1. When they are put in order
none is lost and none is changed, and the warnings are about the parameters as they were declared:
the first one that asks for a position has it, and each later one is reported, at its own location,
with the name of the first. Main statement: the parameters come in the strict order of their keys,
and there is one warning for every repeated position and no other (`finish_ordersAndWarns`).
-/

namespace TemplateCodegen.RequiredParameters

/-- What is said about a required parameter when it is added. -/
structure Addition where
  /-- The declared name. -/
  name : String
  /-- The position asked for, if any. -/
  requestedOrder : Option Int32
  /-- The type. -/
  type : ParameterType
  /-- The type as spelled in the declaration. -/
  typeText : String
  /-- The default. -/
  initializer : Option Initializer
  /-- Where the parameter is declared. -/
  location : Option String

/-- The parameter that is added at a place of the declaration. -/
def Addition.parameter (addition : Addition) (place : Nat) : RequiredParameter where
  requestedOrder := addition.requestedOrder
  declaredOrder := place
  name := addition.name
  type := addition.type
  typeText := addition.typeText
  initializer := addition.initializer
  location := addition.location

/-- The parameters after some additions. -/
def ofAdditions (additions : List Addition) : RequiredParameters :=
  additions.foldl (fun parameters addition =>
    parameters.add addition.name addition.requestedOrder addition.type addition.typeText
      addition.initializer addition.location) .empty

/-- Additions give their parameters, numbered from 1. -/
def parametersOf (additions : List Addition) : List RequiredParameter :=
  additions.mapIdx fun place addition => addition.parameter (place + 1)

/-! ### Additions -/

/-- One more addition comes behind the others. -/
theorem ofAdditions_concat (additions : List Addition) (addition : Addition) :
    ofAdditions (additions ++ [addition]) =
      (ofAdditions additions).add addition.name addition.requestedOrder addition.type
        addition.typeText addition.initializer addition.location := by
  rw [ofAdditions, List.foldl_append]
  rfl

/-- The declared parameters are those of the additions. -/
theorem declared_ofAdditions (additions : List Addition) :
    (ofAdditions additions).declared = parametersOf additions := by
  induction additions using List.reverseRecOn with
  | nil => rfl
  | append_singleton additions addition ih =>
    have hlength : (ofAdditions additions).declared.length = additions.length := by
      rw [ih, parametersOf, List.length_mapIdx]
    rw [ofAdditions_concat, add, ih, parametersOf, parametersOf, List.mapIdx_concat, ← parametersOf,
      ← ih, hlength]
    rfl

/-- Parameters that are added are built. -/
theorem isBuilt_ofAdditions (additions : List Addition) : (ofAdditions additions).IsBuilt := by
  induction additions using List.reverseRecOn with
  | nil => exact .empty
  | append_singleton additions addition ih =>
    rw [ofAdditions_concat]
    exact ih.add _ _ _ _ _ _

/-! ### Repeats -/

/-- The parameter at a place asks for a position that one in front of it asks for. -/
def RepeatsAt (declared : List RequiredParameter) (place : Nat) : Prop :=
  ∃ parameter order, declared[place]? = some parameter ∧ parameter.requestedOrder = some order ∧
    ∃ earlier ∈ declared.take place, earlier.requestedOrder = some order

/-- The parameter is the first one that asks for the position. -/
def IsFirstToAsk (declared : List RequiredParameter) (order : Int32) (first : RequiredParameter) :
    Prop :=
  ∃ front behind, declared = front ++ first :: behind ∧ first.requestedOrder = some order ∧
    ∀ earlier ∈ front, earlier.requestedOrder ≠ some order

/-- The warning about a parameter that repeats the position that another one was the first to ask
for. -/
def repeatWarning (parameter first : RequiredParameter) (order : Int32) : Diagnostic where
  code := .duplicateRequiredOrder
  severity := .warning
  message := "required parameter '" ++ parameter.name ++ "' repeats order " ++
    toString order.toInt ++ " already used by '" ++ first.name ++ "'"
  location := parameter.location
  snippet := none

/-- The diagnostic is the warning about the parameter at a place. -/
inductive WarnsAt (declared : List RequiredParameter) (place : Nat) : Diagnostic → Prop where
  /-- It names the first parameter that asks for the position. -/
  | repeats {parameter first : RequiredParameter} {order : Int32}
      (hparameter : declared[place]? = some parameter)
      (horder : parameter.requestedOrder = some order)
      (hfirst : IsFirstToAsk declared order first) :
      WarnsAt declared place (repeatWarning parameter first order)

section Scan

variable {earlier behind : List RequiredParameter} {parameter : RequiredParameter}

/-- Behind some parameters and in front of others, a parameter repeats a position when one of the
former asks for it. -/
theorem repeatsAt_length_iff :
    RepeatsAt (earlier ++ parameter :: behind) earlier.length ↔
      ∃ order, parameter.requestedOrder = some order ∧
        ∃ other ∈ earlier, other.requestedOrder = some order := by
  unfold RepeatsAt
  rw [getElem?_length_append_cons, List.take_left]
  constructor
  · rintro ⟨found, order, hfound, horder, hother⟩
    obtain rfl := Option.some.inj hfound
    exact ⟨order, horder, hother⟩
  · rintro ⟨order, horder, hother⟩
    exact ⟨parameter, order, rfl, horder, hother⟩

/-- The search in front of a parameter finds the first one that asks for the position. -/
theorem isFirstToAsk_of_find? {order : Int32} {first : RequiredParameter}
    (h : (earlier.find? fun other => other.requestedOrder == some order) = some first) :
    IsFirstToAsk (earlier ++ behind) order first := by
  obtain ⟨hfirst, front, rest, rfl, hfront⟩ := List.find?_eq_some_iff_append.1 h
  refine ⟨front, rest ++ behind, by simp, beq_iff_eq.1 hfirst, fun other hother heq => ?_⟩
  have hnot := hfront other hother
  rw [heq, BEq.rfl] at hnot
  exact Bool.false_ne_true hnot

/-- A parameter is reported exactly when it repeats a position. -/
theorem repeatWarning?_cases (earlier : List RequiredParameter) (parameter : RequiredParameter)
    (behind : List RequiredParameter) :
    (∃ warning, repeatWarning? earlier parameter = some warning ∧
        RepeatsAt (earlier ++ parameter :: behind) earlier.length ∧
        WarnsAt (earlier ++ parameter :: behind) earlier.length warning) ∨
      repeatWarning? earlier parameter = none ∧
        ¬ RepeatsAt (earlier ++ parameter :: behind) earlier.length := by
  rw [repeatsAt_length_iff]
  unfold repeatWarning?
  cases horder : parameter.requestedOrder with
  | none =>
    refine .inr ⟨rfl, ?_⟩
    rintro ⟨order, hnone, -⟩
    cases hnone
  | some order =>
    dsimp only
    cases hfind : earlier.find? fun other => other.requestedOrder == some order with
    | some first =>
      have hplace := getElem?_length_append_cons earlier parameter behind
      have hfirst : IsFirstToAsk (earlier ++ parameter :: behind) order first :=
        isFirstToAsk_of_find? hfind
      have hmem := List.mem_of_find?_eq_some hfind
      have hasks : first.requestedOrder = some order := by
        obtain ⟨front, rest, -, hasks, -⟩ := hfirst
        exact hasks
      exact .inl ⟨_, rfl, ⟨order, rfl, first, hmem, hasks⟩, .repeats hplace horder hfirst⟩
    | none =>
      refine .inr ⟨rfl, ?_⟩
      rintro ⟨found, hfound, other, hother, hasks⟩
      obtain rfl := Option.some.inj hfound
      exact List.find?_eq_none.1 hfind other hother (beq_iff_eq.2 hasks)

/-- The warnings about the parameters behind some earlier ones are those of the places there. -/
theorem listsAt_repeatWarnings (earlier rest : List RequiredParameter) :
    ListsAt (fun place => earlier.length ≤ place ∧ RepeatsAt (earlier ++ rest) place)
      (WarnsAt (earlier ++ rest)) (repeatWarnings earlier rest) := by
  induction rest generalizing earlier with
  | nil =>
    refine listsAt_nil ?_
    rintro place ⟨hle, parameter, order, hparameter, -⟩
    rw [List.append_nil, List.getElem?_eq_none hle] at hparameter
    cases hparameter
  | cons parameter rest ih =>
    have hrest := ih (earlier ++ [parameter])
    rw [List.length_append, List.length_singleton, ← List.append_cons] at hrest
    rcases repeatWarning?_cases earlier parameter rest with
      ⟨warning, hwarning, hrepeats, hwarns⟩ | ⟨hnone, hunique⟩
    · rw [repeatWarnings, hwarning]
      exact hrest.take hrepeats hwarns
    · rw [repeatWarnings, hnone]
      exact hrest.pass hunique

end Scan

/-- The warnings about required parameters are about positions asked for twice. -/
theorem code_of_mem_repeatWarnings {earlier parameters : List RequiredParameter}
    {warning : Diagnostic} (h : warning ∈ repeatWarnings earlier parameters) :
    warning.code = .duplicateRequiredOrder := by
  induction parameters generalizing earlier with
  | nil => cases h
  | cons parameter rest ih =>
    rcases List.mem_append.1 h with hone | hrest
    · unfold repeatWarning? at hone
      cases hrequested : parameter.requestedOrder with
      | none =>
        rw [hrequested] at hone
        cases hone
      | some order =>
        rw [hrequested] at hone
        obtain ⟨first, -, rfl⟩ := Option.map_eq_some_iff.1 (Option.mem_toList.1 hone)
        rfl
    · exact ih hrest

/-- The positions asked for, in the order of the declaration. -/
def positions (parameters : List RequiredParameter) : List Int32 :=
  parameters.filterMap RequiredParameter.requestedOrder

/-- There is no warning about a parameter exactly when it asks for no position of an earlier one. -/
theorem nodup_positions_concat_iff (earlier : List RequiredParameter)
    (parameter : RequiredParameter) :
    (positions (earlier ++ [parameter])).Nodup ↔
      (positions earlier).Nodup ∧ repeatWarning? earlier parameter = none := by
  unfold positions repeatWarning?
  rw [List.filterMap_append]
  cases hrequested : parameter.requestedOrder with
  | none =>
    rw [List.filterMap_cons_none hrequested, List.filterMap_nil, List.append_nil]
    exact (and_iff_left rfl).symm
  | some order =>
    have hfree : (earlier.find? fun first => first.requestedOrder == some order) = none ↔
        order ∉ earlier.filterMap RequiredParameter.requestedOrder := by
      simp only [List.find?_eq_none, beq_iff_eq, List.mem_filterMap, not_exists, not_and]
    rw [List.filterMap_cons_some hrequested, List.filterMap_nil, List.nodup_append_comm,
      List.singleton_append, List.nodup_cons, Option.map_eq_none_iff, hfree, and_comm]

/-- There are no warnings exactly when no position is asked for twice. -/
theorem nodup_positions_append_iff (earlier parameters : List RequiredParameter) :
    (positions (earlier ++ parameters)).Nodup ↔
      (positions earlier).Nodup ∧ repeatWarnings earlier parameters = [] := by
  induction parameters generalizing earlier with
  | nil =>
    rw [List.append_nil]
    exact (and_iff_left rfl).symm
  | cons parameter rest ih =>
    rw [List.append_cons, ih, nodup_positions_concat_iff, repeatWarnings, List.append_eq_nil_iff,
      Option.toList_eq_nil_iff, and_assoc]

/-! ### Putting in order -/

/-- What becomes of declared parameters when they are put in order, and the warnings with it. -/
structure OrdersAndWarns (declared ordered : List RequiredParameter) (warnings : List Diagnostic) :
    Prop where
  /-- None is lost, none is changed, and none is made up. -/
  kept : ordered.Perm declared
  /-- The keys ascend, and no two are equal. -/
  ascending : ordered.Pairwise fun one other =>
    one.sortKey.1 < other.sortKey.1 ∨
      one.sortKey.1 = other.sortKey.1 ∧ one.sortKey.2 < other.sortKey.2
  /-- They bear the numbers from 1 on. -/
  numbered : (ordered.map RequiredParameter.declaredOrder).Perm (List.range' 1 declared.length)
  /-- There is one warning for every parameter that repeats a position, in the order of their
  declaration. -/
  warned : ListsAt (RepeatsAt declared) (WarnsAt declared) warnings

/-- Whatever is added, the parameters are put in the strict order of their keys, none is lost or
changed, and every parameter that repeats a position is reported once with the first one that asks
for it. -/
theorem finish_ordersAndWarns (additions : List Addition) :
    OrdersAndWarns (parametersOf additions) (ofAdditions additions).finish.1
      (ofAdditions additions).finish.2 := by
  have hdeclared := declared_ofAdditions additions
  have hnumbered := (isBuilt_ofAdditions additions).map_declaredOrder
  have hperm := (ofAdditions additions).finish_perm
  have hwarned : ListsAt _ _ (ofAdditions additions).finish.2 :=
    (listsAt_repeatWarnings [] (ofAdditions additions).declared).of_zero
  rw [List.nil_append, hdeclared] at hwarned
  exact
    { kept := hdeclared ▸ hperm
      ascending := pairwise_sortKey_finish hnumbered
      numbered := by
        rw [← hdeclared, ← hnumbered]
        exact hperm.map RequiredParameter.declaredOrder
      warned := hwarned }

/-- An addition that says no more than a name and the position asked for. -/
def Addition.named (name : String) (requestedOrder : Option Int32) : Addition where
  name := name
  requestedOrder := requestedOrder
  type := .string
  typeText := "string"
  initializer := none
  location := none

/-- Three parameters ask for one position, and one between them asks for none. -/
example :
    (ofAdditions [.named "to" (some 2), .named "from" (some 2), .named "note" none,
        .named "copy" (some 2), .named "date" (some 1)]).finish.2.map Diagnostic.message =
      ["required parameter 'from' repeats order 2 already used by 'to'",
        "required parameter 'copy' repeats order 2 already used by 'to'"] := by
  decide +kernel

end TemplateCodegen.RequiredParameters
