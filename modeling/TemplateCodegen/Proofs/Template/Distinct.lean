import Mathlib.Data.List.Nodup
import TemplateCodegen.Template.Basic

/-!
# First occurrences

The distinct entries of a list of names are its first occurrences. Main statements: they are listed
in the order in which they are found (`pairwise_idxOf_distinct`), those of two lists put together
are those of the one and then the new ones of the other (`distinct_append`), and nothing is left but
what erasing later duplicates leaves (`distinct_eq_eraseDups`).
-/

namespace TemplateCodegen.Template

/-- No entry is kept twice. -/
theorem nodup_distinct (names : List String) : (distinct names).Nodup := by
  induction names with
  | nil => exact List.nodup_nil
  | cons name rest ih => exact List.nodup_cons.2 ⟨by simp, ih.filter _⟩

/-! ### Selections -/

/-- The first occurrences among selected entries are the selected first occurrences. -/
theorem distinct_filter (p : String → Bool) (names : List String) :
    distinct (names.filter p) = (distinct names).filter p := by
  induction names with
  | nil => rfl
  | cons name rest ih =>
    rw [distinct, List.filter_cons, List.filter_cons]
    by_cases hname : p name = true
    · rw [if_pos hname, if_pos hname, distinct, ih, List.filter_filter, List.filter_filter]
      simp only [Bool.and_comm]
    · -- what is not selected is not the entry that is left out
      rw [if_neg hname, if_neg hname, ih, List.filter_filter]
      refine List.filter_congr fun other _ => ?_
      by_cases hother : other = name
      · rw [hother, Bool.eq_false_iff.2 hname, Bool.false_and]
      · rw [bne_iff_ne.2 hother, Bool.and_true]

/-- The first occurrence of an entry is the only one that is kept. -/
theorem filter_beq_distinct (names : List String) (name : String) :
    (distinct names).filter (· == name) = if name ∈ names then [name] else [] := by
  rw [List.filter_beq]
  by_cases h : name ∈ names
  · have hone : (distinct names).count name = 1 :=
      List.count_eq_one_of_mem (nodup_distinct names) (mem_distinct.2 h)
    rw [hone, if_pos h, List.replicate_one]
  · have hnone : (distinct names).count name = 0 :=
      List.count_eq_zero.2 fun hmem => h (mem_distinct.1 hmem)
    rw [hnone, if_neg h, List.replicate_zero]

/-- There is a single distinct name exactly when some name occurs and no other one does. -/
theorem distinct_eq_singleton_iff {names : List String} {name : String} :
    distinct names = [name] ↔ names ≠ [] ∧ ∀ other ∈ names, other = name := by
  constructor
  · intro h
    have hmem : ∀ other, other ∈ names ↔ other = name := fun other => by
      rw [← mem_distinct, h, List.mem_singleton]
    exact ⟨List.ne_nil_of_mem ((hmem name).2 rfl), fun other => (hmem other).1⟩
  · rintro ⟨hne, hall⟩
    obtain ⟨first, rest, rfl⟩ := List.exists_cons_of_ne_nil hne
    obtain rfl := hall first List.mem_cons_self
    have hrest : (distinct rest).filter (· != first) = [] := by
      refine List.filter_eq_nil_iff.2 fun other hother => ?_
      rw [hall other (List.mem_cons_of_mem first (mem_distinct.1 hother)), bne_self_eq_false]
      exact Bool.false_ne_true
    rw [distinct, hrest]

/-- Keeping first occurrences is erasing the later duplicates. -/
theorem distinct_eq_eraseDups (names : List String) : distinct names = names.eraseDups := by
  -- on the length, as the duplicates of the first entry are erased before the rest is gone through
  induction hlength : names.length using Nat.strongRecOn generalizing names with
  | ind length ih =>
    cases names with
    | nil => rfl
    | cons name rest =>
      have hshorter : (rest.filter (· != name)).length < length := by
        have hle := List.length_filter_le (· != name) rest
        rw [List.length_cons] at hlength
        omega
      rw [distinct, List.eraseDups_cons, ← distinct_filter, ih _ hshorter _ rfl]
      rfl

/-! ### Order -/

/-- First occurrences are listed in the order in which they are found. -/
theorem pairwise_idxOf_distinct (names : List String) :
    (distinct names).Pairwise fun one other => names.idxOf one < names.idxOf other := by
  induction names with
  | nil => exact List.Pairwise.nil
  | cons name rest ih =>
    have hbehind : ∀ other ∈ (distinct rest).filter (· != name),
        (name :: rest).idxOf other = rest.idxOf other + 1 := by
      intro other hother
      have hne : other ≠ name := by simpa using (List.mem_filter.1 hother).2
      exact List.idxOf_cons_ne rest (Ne.symm hne)
    refine List.pairwise_cons.2 ⟨fun other hother => ?_, ?_⟩
    · rw [List.idxOf_cons_self, hbehind other hother]
      exact Nat.succ_pos _
    · refine (ih.filter _).imp_of_mem fun {one other} hone hother hlt => ?_
      rw [hbehind one hone, hbehind other hother]
      exact Nat.succ_lt_succ hlt

/-- The first occurrences in two lists put together are those in the one, and those in the other of
what the one does not have. -/
theorem distinct_append (one other : List String) :
    distinct (one ++ other) = distinct one ++ (distinct other).filter (· ∉ one) := by
  induction one with
  | nil => simp [distinct]
  | cons name rest ih =>
    rw [List.cons_append, distinct, distinct, ih, List.filter_append, List.filter_filter,
      List.cons_append]
    refine congrArg (fun more => name :: (_ ++ more)) (List.filter_congr fun found _ => ?_)
    by_cases h : found = name <;> simp [h]

/-- An entry is first found where it is found when the list ends in front of it. -/
theorem idxOf_distinct_append (one : List String) (name : String) (other : List String) :
    (distinct (one ++ name :: other)).idxOf name = (distinct one).idxOf name := by
  rw [distinct_append]
  by_cases h : name ∈ one
  · exact List.idxOf_append_of_mem (mem_distinct.2 h)
  · have hnot : name ∉ distinct one := fun hmem => h (mem_distinct.1 hmem)
    rw [List.idxOf_append_of_notMem hnot, List.idxOf_eq_length hnot, distinct,
      List.filter_cons_of_pos (by simpa using h), List.idxOf_cons_self, Nat.add_zero]

end TemplateCodegen.Template
