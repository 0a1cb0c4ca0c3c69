import Mathlib.Data.List.Basic
import TemplateCodegen.Parameter.Basic

/-!
# The order of required parameters

Required parameters are put in order by the positions they ask for, and those that ask for none are
taken to ask for the greatest 32-bit integer. So they come behind all smaller positions, but share
the last place with parameters that do ask for the greatest one, where the declaration decides.
Main statement: the positions ascend, and equal requests keep the order of the declaration; the
parameters with a position come before those without one exactly when none that asks for the
greatest is declared behind one that asks for nothing (`finish_ordersExplicitFirst_iff`).
-/

namespace TemplateCodegen

/-- Whether a parameter comes last: it asks for no position, or for the greatest one. -/
def RequiredParameter.comesLast (parameter : RequiredParameter) : Bool :=
  parameter.requestedOrder == none || parameter.requestedOrder == some Int32.maxValue

/-- The key of a parameter decides what it may stand in front of. -/
theorem RequiredParameter.precedes_iff {one other : RequiredParameter} :
    one.precedes other = true ↔ one.sortKey.1 < other.sortKey.1 ∨
      one.sortKey.1 = other.sortKey.1 ∧ one.sortKey.2 ≤ other.sortKey.2 := by
  simp [precedes]

namespace RequiredParameters

/-- The parameters have been added one after the other. -/
inductive IsBuilt : RequiredParameters → Prop where
  /-- No parameters have been added yet. -/
  | empty : IsBuilt .empty
  /-- One more parameter has been added. -/
  | add {parameters : RequiredParameters} (h : IsBuilt parameters) (name : String)
      (requestedOrder : Option Int32) (type : ParameterType) (typeText : String)
      (initializer : Option Initializer) (location : Option String) :
      IsBuilt (parameters.add name requestedOrder type typeText initializer location)

/-- The positions that are asked for ascend, while parameters that ask alike keep the order of their
declaration. -/
structure OrdersByRequest (declared ordered : List RequiredParameter) : Prop where
  /-- The positions that are asked for ascend. -/
  ascending : (ordered.filterMap RequiredParameter.requestedOrder).Pairwise (· ≤ ·)
  /-- Parameters that ask for one position, or for none, stand as they are declared. -/
  alike (request : Option Int32) :
    (ordered.filter fun parameter => parameter.requestedOrder == request) =
      declared.filter fun parameter => parameter.requestedOrder == request

/-- In addition, the parameters that ask for a position come first. -/
structure OrdersExplicitFirst (declared ordered : List RequiredParameter) : Prop
    extends OrdersByRequest declared ordered where
  /-- Behind a parameter that asks for no position there is none that asks for one. -/
  explicit : ordered.Pairwise fun one other =>
    one.requestedOrder = none → other.requestedOrder = none

/-! ### Keys -/

/-- Required parameters are put in order. -/
theorem pairwise_finish (parameters : RequiredParameters) :
    parameters.finish.1.Pairwise fun one other => one.precedes other = true := by
  refine List.pairwise_mergeSort ?_ ?_ parameters.declared
  · intro first second third hfirst hsecond
    rw [RequiredParameter.precedes_iff] at hfirst hsecond ⊢
    omega
  · intro one other
    rw [Bool.or_eq_true, RequiredParameter.precedes_iff, RequiredParameter.precedes_iff]
    omega

/-- Parameters that are numbered in order are put in the strict order of their keys. -/
theorem pairwise_sortKey_finish {parameters : RequiredParameters}
    (hnumbered : parameters.declared.map RequiredParameter.declaredOrder =
      List.range' 1 parameters.declared.length) :
    parameters.finish.1.Pairwise fun one other =>
      one.sortKey.1 < other.sortKey.1 ∨
        one.sortKey.1 = other.sortKey.1 ∧ one.sortKey.2 < other.sortKey.2 := by
  have hnodup : (parameters.finish.1.map RequiredParameter.declaredOrder).Nodup := by
    rw [(parameters.finish_perm.map _).nodup_iff, hnumbered]
    exact List.nodup_range'
  refine (parameters.pairwise_finish.and (List.pairwise_map.1 hnodup)).imp ?_
  rintro one other ⟨hprecedes, hne⟩
  have hne : one.sortKey.2 ≠ other.sortKey.2 := hne
  rw [RequiredParameter.precedes_iff] at hprecedes
  omega

/-! ### Places in the declaration -/

section Building

variable {parameters : RequiredParameters}

/-- Parameters that are added one after the other are numbered from 1. -/
theorem IsBuilt.map_declaredOrder (h : parameters.IsBuilt) :
    parameters.declared.map RequiredParameter.declaredOrder =
      List.range' 1 parameters.declared.length := by
  induction h with
  | empty => rfl
  | @add parameters _ name requestedOrder type typeText initializer location ih =>
    rw [RequiredParameters.add, List.map_append, ih, List.length_append, List.length_singleton,
      List.range'_concat, Nat.one_mul, Nat.add_comm 1]
    rfl

/-- They are declared in the order of their numbers. -/
theorem IsBuilt.pairwise_declaredOrder (h : parameters.IsBuilt) :
    parameters.declared.Pairwise fun one other => one.declaredOrder < other.declaredOrder := by
  rw [← List.pairwise_map (f := RequiredParameter.declaredOrder) (R := (· < ·)),
    h.map_declaredOrder]
  exact List.pairwise_lt_range' 1

/-- Parameters with one and the same first part of the key stand in the order of their declaration.
-/
theorem IsBuilt.filter_finish (h : parameters.IsBuilt) {p : RequiredParameter → Bool}
    (hkey : ∀ one other, p one = true → p other = true → one.sortKey.1 = other.sortKey.1) :
    parameters.finish.1.filter p = parameters.declared.filter p := by
  have hdeclared := h.pairwise_declaredOrder
  have hfinish : (parameters.finish.1.filter p).Pairwise fun one other =>
      one.declaredOrder < other.declaredOrder := by
    refine List.pairwise_filter.2 ((pairwise_sortKey_finish h.map_declaredOrder).imp ?_)
    rintro one other (hlt | ⟨-, hlt⟩) hone hother
    · exact absurd (hkey one other hone hother) (Int.ne_of_lt hlt)
    · exact hlt
  refine List.Perm.eq_of_pairwise (fun one other _ _ hlt hgt => ?_) hfinish (hdeclared.filter p)
    (parameters.finish_perm.filter p)
  exact absurd hgt (Nat.lt_asymm hlt)

end Building

/-! ### Requests -/

section Requests

variable {parameter : RequiredParameter}

/-- The first part of the key of a parameter that asks for a position is that position. -/
theorem sortKey_fst_of_some {order : Int32} (h : parameter.requestedOrder = some order) :
    parameter.sortKey.1 = order.toInt := by
  rw [RequiredParameter.sortKey, h]
  rfl

/-- A parameter that asks for no position comes last. -/
theorem comesLast_of_none (h : parameter.requestedOrder = none) : parameter.comesLast = true := by
  rw [RequiredParameter.comesLast, h]
  rfl

/-- The first part of the key of a parameter that comes last, and of no other, is the greatest one.
-/
theorem comesLast_iff :
    parameter.comesLast = true ↔ parameter.sortKey.1 = Int32.maxValue.toInt := by
  rw [RequiredParameter.comesLast, Bool.or_eq_true, beq_iff_eq, beq_iff_eq]
  cases h : parameter.requestedOrder with
  | none =>
    refine iff_of_true (.inl rfl) ?_
    rw [RequiredParameter.sortKey, h]
    rfl
  | some order =>
    rw [sortKey_fst_of_some h, Int32.toInt_inj, Option.some.injEq]
    exact or_iff_right (Option.some_ne_none order)

/-- No key has a greater first part. -/
theorem sortKey_fst_le (parameter : RequiredParameter) :
    parameter.sortKey.1 ≤ Int32.maxValue.toInt := by
  cases h : parameter.requestedOrder with
  | none => exact Int.le_of_eq (comesLast_iff.1 (comesLast_of_none h))
  | some order =>
    rw [sortKey_fst_of_some h]
    exact order.toInt_le

end Requests

/-! ### The order -/

/-- A list in which what has a property has only such entries behind it is made up of the others and
of these. -/
theorem eq_filter_append_filter {α : Type} {p : α → Bool} {items : List α}
    (h : items.Pairwise fun one other => p one = true → p other = true) :
    items = (items.filter fun item => !p item) ++ items.filter p := by
  induction items with
  | nil => rfl
  | cons first rest ih =>
    obtain ⟨hfirst, hrest⟩ := List.pairwise_cons.1 h
    cases hp : p first with
    | true =>
      have hall : ∀ item ∈ first :: rest, p item = true :=
        List.forall_mem_cons.2 ⟨hp, fun item hitem => hfirst item hitem hp⟩
      have hnone : ((first :: rest).filter fun item => !p item) = [] :=
        List.filter_eq_nil_iff.2 fun item hitem => by
          rw [hall item hitem]
          exact Bool.false_ne_true
      rw [hnone, List.filter_eq_self.2 hall, List.nil_append]
    | false =>
      rw [List.filter_cons_of_pos (by rw [hp]; rfl),
        List.filter_cons_of_neg (by rw [hp]; exact Bool.false_ne_true), List.cons_append,
        ← ih hrest]

section Ordering

variable {parameters : RequiredParameters}

/-- The first parts of the keys ascend. -/
theorem pairwise_sortKey_fst (parameters : RequiredParameters) :
    parameters.finish.1.Pairwise fun one other => one.sortKey.1 ≤ other.sortKey.1 := by
  refine parameters.pairwise_finish.imp fun hprecedes => ?_
  rcases RequiredParameter.precedes_iff.1 hprecedes with hlt | ⟨heq, -⟩
  · exact Int.le_of_lt hlt
  · exact Int.le_of_eq heq

/-- The parameters that come last stand behind all others, in the order of their declaration. -/
theorem IsBuilt.finish_eq_append (h : parameters.IsBuilt) :
    parameters.finish.1 =
      (parameters.finish.1.filter fun parameter => !parameter.comesLast) ++
        parameters.declared.filter RequiredParameter.comesLast := by
  have hlast : parameters.declared.filter RequiredParameter.comesLast =
      parameters.finish.1.filter RequiredParameter.comesLast :=
    (h.filter_finish fun one other hone hother =>
      (comesLast_iff.1 hone).trans (comesLast_iff.1 hother).symm).symm
  rw [hlast]
  refine eq_filter_append_filter ((pairwise_sortKey_fst parameters).imp fun hle hone => ?_)
  rw [comesLast_iff] at hone ⊢
  exact Int.le_antisymm (sortKey_fst_le _) (hone ▸ hle)

/-- Where all parameters come last, they stand as they are declared. -/
theorem IsBuilt.finish_eq_declared (h : parameters.IsBuilt)
    (hall : ∀ parameter ∈ parameters.declared, parameter.comesLast = true) :
    parameters.finish.1 = parameters.declared := by
  have hnone : (parameters.finish.1.filter fun parameter => !parameter.comesLast) = [] :=
    List.filter_eq_nil_iff.2 fun parameter hmem => by
      rw [hall parameter (parameters.finish_perm.mem_iff.1 hmem)]
      exact Bool.false_ne_true
  rw [h.finish_eq_append, hnone, List.filter_eq_self.2 hall, List.nil_append]

/-- Parameters that are added one after the other are put in order by what they ask for. -/
theorem IsBuilt.ordersByRequest (h : parameters.IsBuilt) :
    OrdersByRequest parameters.declared parameters.finish.1 where
  ascending := by
    refine List.pairwise_filterMap.2 ((pairwise_sortKey_fst parameters).imp ?_)
    intro one other hle order horder order' horder'
    rw [sortKey_fst_of_some horder, sortKey_fst_of_some horder'] at hle
    exact Int32.le_iff_toInt_le.2 hle
  alike request := h.filter_finish fun one other hone hother => by
    rw [RequiredParameter.sortKey, RequiredParameter.sortKey, beq_iff_eq.1 hone,
      beq_iff_eq.1 hother]

/-- Among parameters that come last, those with a position stand in front of those without one
exactly when none that asks for the greatest is declared behind one that asks for nothing. -/
theorem pairwise_filter_comesLast_iff (declared : List RequiredParameter) :
    ((declared.filter RequiredParameter.comesLast).Pairwise fun one other =>
      one.requestedOrder = none → other.requestedOrder = none) ↔
      declared.Pairwise fun one other =>
        one.requestedOrder = none → other.requestedOrder ≠ some Int32.maxValue := by
  rw [List.pairwise_filter]
  refine List.Pairwise.iff fun one other => ?_
  simp only [RequiredParameter.comesLast, Bool.or_eq_true, beq_iff_eq]
  constructor
  · intro h hone hother
    exact Option.some_ne_none _ (hother.symm.trans (h (.inl hone) (.inr hother) hone))
  · rintro h - (hother | hother) hone
    · exact hother
    · exact absurd hother (h hone)

/-- Those with a position come first exactly when none that asks for the greatest is declared behind
one that asks for nothing. -/
theorem IsBuilt.pairwise_explicit_iff (h : parameters.IsBuilt) :
    (parameters.finish.1.Pairwise fun one other =>
      one.requestedOrder = none → other.requestedOrder = none) ↔
      parameters.declared.Pairwise fun one other =>
        one.requestedOrder = none → other.requestedOrder ≠ some Int32.maxValue := by
  -- in front of those that come last nothing asks for no position
  have hfront : ∀ one ∈ parameters.finish.1.filter fun parameter => !parameter.comesLast,
      one.requestedOrder ≠ none := by
    intro one hone hnone
    have hearlier := (List.mem_filter.1 hone).2
    rw [comesLast_of_none hnone] at hearlier
    exact Bool.false_ne_true hearlier
  rw [← pairwise_filter_comesLast_iff, h.finish_eq_append, List.pairwise_append]
  refine ⟨fun hparts => hparts.2.1, fun hlast => ⟨?_, hlast, fun one hone _ _ hnone => ?_⟩⟩
  · exact List.pairwise_of_forall_mem_list fun one hone _ _ hnone =>
      absurd hnone (hfront one hone)
  · exact absurd hnone (hfront one hone)

/-- Parameters that are added one after the other are put in order by what they ask for: first those
that ask for a position but the greatest, and then all others as they are declared. So those with a
position come first exactly when none that asks for the greatest is declared behind one that asks
for nothing. -/
theorem finish_ordersExplicitFirst_iff (h : parameters.IsBuilt) :
    OrdersByRequest parameters.declared parameters.finish.1 ∧
      parameters.finish.1 =
        (parameters.finish.1.filter fun parameter => !parameter.comesLast) ++
          parameters.declared.filter RequiredParameter.comesLast ∧
      (OrdersExplicitFirst parameters.declared parameters.finish.1 ↔
        parameters.declared.Pairwise fun one other =>
          one.requestedOrder = none → other.requestedOrder ≠ some Int32.maxValue) := by
  refine ⟨h.ordersByRequest, h.finish_eq_append, fun hfirst => ?_, fun hdeclared => ?_⟩
  · exact h.pairwise_explicit_iff.1 hfirst.explicit
  · exact ⟨h.ordersByRequest, h.pairwise_explicit_iff.2 hdeclared⟩

end Ordering

/-- Three parameters, of which the second one asks for a position. -/
def letter (order : Int32) : RequiredParameters :=
  ((RequiredParameters.empty.add "from" none .string "string" none none).add "to" (some order)
    .string "string" none none).add "copy" none .string "string" none none

/-- They have been added one after the other. -/
theorem isBuilt_letter (order : Int32) : (letter order).IsBuilt :=
  ((IsBuilt.empty.add _ _ _ _ _ _).add _ _ _ _ _ _).add _ _ _ _ _ _

/-- Any other position than the greatest puts the parameter in front of the two others. -/
theorem letter_ordersExplicitFirst :
    (letter 7).IsBuilt ∧ OrdersExplicitFirst (letter 7).declared (letter 7).finish.1 ∧
      (letter 7).finish.1.map RequiredParameter.name = ["to", "from", "copy"] := by
  obtain ⟨-, hparts, hfirst⟩ := finish_ordersExplicitFirst_iff (isBuilt_letter 7)
  have hfront : ((letter 7).finish.1.filter fun parameter => !parameter.comesLast) =
      (letter 7).declared.filter fun parameter => !parameter.comesLast :=
    List.perm_singleton.1 ((letter 7).finish_perm.filter _)
  refine ⟨isBuilt_letter 7, hfirst.2 (by decide), ?_⟩
  rw [hparts, hfront]
  rfl

/-- The greatest one leaves it behind a parameter that asks for nothing. -/
theorem letter_not_ordersExplicitFirst :
    (letter Int32.maxValue).IsBuilt ∧
      (letter Int32.maxValue).finish.1.map RequiredParameter.name = ["from", "to", "copy"] ∧
      ¬ OrdersExplicitFirst (letter Int32.maxValue).declared
        (letter Int32.maxValue).finish.1 := by
  have hsame : (letter Int32.maxValue).finish.1 = (letter Int32.maxValue).declared :=
    (isBuilt_letter _).finish_eq_declared (by decide)
  rw [hsame]
  refine ⟨isBuilt_letter _, rfl, fun h => ?_⟩
  have hexplicit := h.explicit
  revert hexplicit
  decide

end RequiredParameters

end TemplateCodegen
