import Mathlib.Data.List.Basic

/-!
# Places in a list

A pass over a list that says something about some of its entries is told by their places: they are
taken in order, none is taken twice, and none is left out. A pass that has come to an entry knows the
places behind it, so every step either takes the entry's own place or passes over it.
-/

namespace TemplateCodegen

/-- The places, counted from 0, at which something holds, in order. -/
structure ArePlaces (holds : Nat → Prop) (places : List Nat) : Prop where
  /-- They ascend, so that none is there twice. -/
  ascending : places.Pairwise (· < ·)
  /-- They are the places at which it holds. -/
  mem_iff (place : Nat) : place ∈ places ↔ holds place

/-- There is one item for every place at which something holds, in order, and it is one that the
place gives. -/
def ListsAt {α : Type} (holds : Nat → Prop) (gives : Nat → α → Prop) (items : List α) : Prop :=
  ∃ places, ArePlaces holds places ∧ List.Forall₂ gives places items

/-- An entry stands at the place that has as many in front of it. -/
theorem getElem?_length_append_cons {α : Type} (front : List α) (entry : α) (behind : List α) :
    (front ++ entry :: behind)[front.length]? = some entry := by
  rw [List.getElem?_append_right (Nat.le_refl _), Nat.sub_self, List.getElem?_cons_zero]

section Passes

variable {α : Type} {holds : Nat → Prop} {gives : Nat → α → Prop} {items : List α} {start : Nat}

/-- Where it holds nowhere there is no item. -/
theorem listsAt_nil (h : ∀ place, ¬ holds place) : ListsAt holds gives [] := by
  refine ⟨[], ⟨List.Pairwise.nil, fun place => ?_⟩, List.Forall₂.nil⟩
  exact iff_of_false List.not_mem_nil (h place)

/-- An item of the place in front comes first. -/
theorem ListsAt.take (h : ListsAt (fun place => start + 1 ≤ place ∧ holds place) gives items)
    {item : α} (hstart : holds start) (hitem : gives start item) :
    ListsAt (fun place => start ≤ place ∧ holds place) gives (item :: items) := by
  obtain ⟨places, hplaces, hgives⟩ := h
  have hlater : ∀ place ∈ places, start < place := by
    intro place hplace
    exact ((hplaces.mem_iff place).1 hplace).1
  refine ⟨start :: places, ⟨List.pairwise_cons.2 ⟨hlater, hplaces.ascending⟩, fun place => ?_⟩,
    List.Forall₂.cons hitem hgives⟩
  rw [List.mem_cons, hplaces.mem_iff]
  constructor
  · rintro (rfl | ⟨hle, hplace⟩)
    · exact ⟨Nat.le_refl _, hstart⟩
    · exact ⟨by omega, hplace⟩
  · rintro ⟨hle, hplace⟩
    by_cases hfirst : place = start
    · exact .inl hfirst
    · exact .inr ⟨by omega, hplace⟩

/-- Where it does not hold at the place in front there is no item of that place. -/
theorem ListsAt.pass (h : ListsAt (fun place => start + 1 ≤ place ∧ holds place) gives items)
    (hstart : ¬ holds start) :
    ListsAt (fun place => start ≤ place ∧ holds place) gives items := by
  obtain ⟨places, hplaces, hgives⟩ := h
  refine ⟨places, ⟨hplaces.ascending, fun place => ?_⟩, hgives⟩
  rw [hplaces.mem_iff]
  constructor
  · rintro ⟨hle, hplace⟩
    exact ⟨by omega, hplace⟩
  · rintro ⟨hle, hplace⟩
    have hne : place ≠ start := by
      rintro rfl
      exact hstart hplace
    exact ⟨by omega, hplace⟩

/-- From the first place on are all places. -/
theorem ListsAt.of_zero (h : ListsAt (fun place => 0 ≤ place ∧ holds place) gives items) :
    ListsAt holds gives items := by
  obtain ⟨places, hplaces, hgives⟩ := h
  refine ⟨places, ⟨hplaces.ascending, fun place => ?_⟩, hgives⟩
  rw [hplaces.mem_iff]
  exact and_iff_right (Nat.zero_le place)

end Passes

end TemplateCodegen
