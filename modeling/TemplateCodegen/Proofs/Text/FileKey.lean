import TemplateCodegen.Text.FileKey

/-!
# Names and their keys

A key has a character for each one of its name, so keys of names in a row stand in a row, and
nothing becomes empty or gains a slash. Main statement: names are told apart by their keys as long
as they have none of the characters that stand for others (`escapeFileKey_inj`).
-/

namespace TemplateCodegen.Text

/-- The characters of a key. -/
theorem toList_escapeFileKey (name : String) :
    (escapeFileKey name).toList = name.toList.map fileKeyChar :=
  String.toList_ofList

/-- The key of two names in a row is that of the one and that of the other. -/
theorem escapeFileKey_append (one other : String) :
    escapeFileKey (one ++ other) = escapeFileKey one ++ escapeFileKey other := by
  rw [escapeFileKey, String.toList_append, List.map_append, String.ofList_append]
  rfl

/-- A key is empty when the name is. -/
theorem escapeFileKey_eq_empty {name : String} : escapeFileKey name = "" ↔ name = "" := by
  rw [← String.toList_eq_nil_iff, toList_escapeFileKey, List.map_eq_nil_iff,
    String.toList_eq_nil_iff]

/-- No other character becomes a slash. -/
theorem fileKeyChar_eq_slash {c : Char} : fileKeyChar c = '/' ↔ c = '/' := by
  unfold fileKeyChar
  split <;> simp

/-- A key has a slash when the name has one. -/
theorem slash_mem_escapeFileKey {name : String} :
    '/' ∈ (escapeFileKey name).toList ↔ '/' ∈ name.toList := by
  simp [toList_escapeFileKey, fileKeyChar_eq_slash]

/-- The character stands for another one in keys. -/
def IsStandIn (c : Char) : Prop := c = '[' ∨ c = ']' ∨ c = '-'

/-- Characters that stand for no other one are kept apart. -/
theorem fileKeyChar_inj {c d : Char} (hc : ¬ IsStandIn c) (hd : ¬ IsStandIn d)
    (h : fileKeyChar c = fileKeyChar d) : c = d := by
  obtain ⟨hc₁, hc₂, hc₃⟩ : c ≠ '[' ∧ c ≠ ']' ∧ c ≠ '-' := by simpa [IsStandIn] using hc
  obtain ⟨hd₁, hd₂, hd₃⟩ : d ≠ '[' ∧ d ≠ ']' ∧ d ≠ '-' := by simpa [IsStandIn] using hd
  unfold fileKeyChar at h
  split at h <;> split at h <;> simp_all [eq_comm]

/-- Names without stand-ins are kept apart. -/
theorem escapeFileKey_inj {one other : String} (hone : ∀ c ∈ one.toList, ¬ IsStandIn c)
    (hother : ∀ c ∈ other.toList, ¬ IsStandIn c) (h : escapeFileKey one = escapeFileKey other) :
    one = other := by
  have hchars : one.toList.map fileKeyChar = other.toList.map fileKeyChar := by
    rw [← toList_escapeFileKey, h, toList_escapeFileKey]
  have hequal : one.toList = other.toList := by
    generalize one.toList = cs at hone hchars
    generalize other.toList = ds at hother hchars
    induction cs generalizing ds with
    | nil => exact (List.map_eq_nil_iff.1 hchars.symm).symm
    | cons c rest ih =>
      obtain ⟨d, rest', rfl, hd, hrest⟩ := List.map_eq_cons_iff.1 hchars.symm
      rw [List.forall_mem_cons] at hone hother
      rw [fileKeyChar_inj hone.1 hother.1 hd.symm, ih hone.2 rest' hother.2 hrest.symm]
  exact String.toList_inj.1 hequal

end TemplateCodegen.Text
