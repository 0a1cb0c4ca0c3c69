import Mathlib.Data.List.Basic
import Mathlib.Data.List.Induction
import TemplateCodegen.Template.Context

/-!
# Entries and the values of a context

A context is filled by inserting one named value after the other, and a value that is inserted under
a known name takes the place of the old one. Main statement: of the entries that were inserted under
a name the context has the last (`get?_ofList_eq_some_iff`).
-/

namespace TemplateCodegen.Context

/-- The entry is the last one of its name. -/
def IsLast (name : String) (value : Value) (entries : List (String × Value)) : Prop :=
  ∃ front behind, entries = front ++ (name, value) :: behind ∧ ∀ later ∈ behind, later.1 ≠ name

/-- An entry behind which its name does not occur is the last one of the name. -/
theorem isLast_of_getElem? {entries : List (String × Value)} {i : Nat} {name : String}
    {value : Value} (hentry : entries[i]? = some (name, value))
    (hlast : ∀ later ∈ entries.drop (i + 1), later.1 ≠ name) :
    IsLast name value entries := by
  obtain ⟨hlt, hget⟩ := List.getElem?_eq_some_iff.1 hentry
  refine ⟨entries.take i, entries.drop (i + 1), ?_, hlast⟩
  rw [← hget, ← List.drop_eq_getElem_cons hlt, List.take_append_drop]

/-- Among entries of different names each one is the last of its name. -/
theorem isLast_of_nodup {entries : List (String × Value)}
    (h : (entries.map Prod.fst).Nodup) {entry : String × Value} (hentry : entry ∈ entries) :
    IsLast entry.1 entry.2 entries := by
  obtain ⟨front, behind, rfl⟩ := List.append_of_mem hentry
  refine ⟨front, behind, rfl, fun later hlater hname => ?_⟩
  rw [List.map_append, List.map_cons, List.nodup_append] at h
  have hbehind := (List.nodup_cons.1 h.2.1).1
  rw [← hname] at hbehind
  exact hbehind (List.mem_map_of_mem hlater)

/-- The last entry of a name stays the last one between entries of which those behind it do not have
the name. -/
theorem IsLast.append {name : String} {value : Value} {entries : List (String × Value)}
    (h : IsLast name value entries) (front : List (String × Value))
    {behind : List (String × Value)} (hbehind : ∀ later ∈ behind, later.1 ≠ name) :
    IsLast name value (front ++ entries ++ behind) := by
  obtain ⟨before, after, rfl, hafter⟩ := h
  refine ⟨front ++ before, after ++ behind, by simp, fun later hlater => ?_⟩
  rcases List.mem_append.1 hlater with hlater | hlater
  · exact hafter later hlater
  · exact hbehind later hlater

/-- The last entry of a name is the one at the end or, where that has another name, the last one in
front of it. -/
theorem isLast_concat {entries : List (String × Value)} {entry : String × Value} {name : String}
    {value : Value} :
    IsLast name value (entries ++ [entry]) ↔
      entry = (name, value) ∨ entry.1 ≠ name ∧ IsLast name value entries := by
  constructor
  · rintro ⟨front, behind, h, hlater⟩
    rcases List.eq_nil_or_concat' behind with rfl | ⟨behind, later, rfl⟩
    · obtain ⟨-, hentry⟩ := List.append_inj' h rfl
      exact .inl (List.cons.inj hentry).1
    · rw [← List.cons_append, ← List.append_assoc] at h
      obtain ⟨hentries, hentry⟩ := List.append_inj' h rfl
      rw [(List.cons.inj hentry).1]
      exact .inr ⟨hlater later (List.mem_append_right _ List.mem_cons_self), front, behind,
        hentries, fun earlier h => hlater earlier (List.mem_append_left _ h)⟩
  · rintro (rfl | ⟨hne, hlast⟩)
    · exact ⟨entries, [], rfl, fun later h => absurd h List.not_mem_nil⟩
    · have hbehind : ∀ later ∈ [entry], later.1 ≠ name := fun later h =>
        List.mem_singleton.1 h ▸ hne
      exact hlast.append [] hbehind

/-- One more entry at the end of a list is inserted last. -/
theorem ofList_concat (entries : List (String × Value)) (name : String) (value : Value) :
    ofList (entries ++ [(name, value)]) = (ofList entries).insert name value := by
  rw [ofList, List.foldl_append]
  rfl

/-- Of the entries inserted under a name, the context has the last. -/
theorem get?_ofList_eq_some_iff {entries : List (String × Value)} {name : String} {value : Value} :
    (ofList entries).get? name = some value ↔ IsLast name value entries := by
  induction entries using List.reverseRecOn with
  | nil => simp [ofList, empty, get?, IsLast]
  | append_singleton entries entry ih =>
    obtain ⟨known, last⟩ := entry
    rw [ofList_concat, isLast_concat]
    by_cases hname : known = name
    · obtain rfl := hname
      rw [get?_insert_self]
      simp
    · rw [get?_insert_of_ne _ _ (Ne.symm hname), ih]
      simp [hname]

/-- Insert one named value after the other behind those of a context. -/
def insertAll (context : Context) (entries : List (String × Value)) : Context :=
  entries.foldl (fun context entry => context.insert entry.1 entry.2) context

end TemplateCodegen.Context
