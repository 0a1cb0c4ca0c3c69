import Mathlib.Data.List.TakeWhile
import TemplateCodegen.Text.Blank

/-!
# Trimmed texts

What stands around a text and what is left of it when its ends are trimmed. Main statements:
trimming removes blanks and nothing else (`exists_trim`), and gives what stands between blanks when
the ends of that are not blank (`trim_around`), so that a second trim changes nothing (`trim_trim`).
-/

namespace TemplateCodegen.Text

/-- The text has only blank characters. -/
def Blank (cs : List Char) : Prop := ∀ c ∈ cs, isBlank c = true

/-- The empty text is blank. -/
theorem blank_nil : Blank [] := List.forall_mem_nil _

/-- Blank texts, joined, are blank. -/
theorem Blank.append {one other : List Char} (hone : Blank one) (hother : Blank other) :
    Blank (one ++ other) :=
  List.forall_mem_append.2 ⟨hone, hother⟩

/-- Among blanks no other character is counted. -/
theorem Blank.count_eq_zero {blanks : List Char} (h : Blank blanks) {c : Char}
    (hsolid : isBlank c = false) : blanks.count c = 0 := by
  refine List.count_eq_zero.2 fun hmem => ?_
  rw [h c hmem] at hsolid
  cases hsolid

/-! ### One end -/

/-- Behind what is left without the blanks at the end there are blanks. -/
theorem exists_blank_behind (cs : List Char) :
    ∃ behind, cs = dropEndWhile isBlank cs ++ behind ∧ Blank behind :=
  ⟨_, (dropEndWhile_append_takeWhile isBlank cs).symm,
    fun _ hc => List.mem_takeWhile_imp (List.mem_reverse.1 hc)⟩

/-- What is left without the blanks at the end stands in front of them. -/
theorem dropEndWhile_append_blank {name behind : List Char} (hbehind : Blank behind)
    (hlast : ∀ c, name.getLast? = some c → isBlank c = false) :
    dropEndWhile isBlank (name ++ behind) = name := by
  have hblank : ∀ c ∈ behind.reverse, isBlank c = true :=
    fun c hc => hbehind c (List.mem_reverse.1 hc)
  have hstop : name.reverse.dropWhile isBlank = name.reverse := by
    rw [List.getLast?_eq_head?_reverse] at hlast
    cases hreverse : name.reverse with
    | nil => rfl
    | cons c rest =>
      rw [hreverse] at hlast
      exact List.dropWhile_cons_of_neg (by rw [hlast c rfl]; exact Bool.false_ne_true)
  rw [dropEndWhile, List.reverse_append, List.dropWhile_append_of_pos hblank, hstop,
    List.reverse_reverse]

/-! ### Both ends -/

/-- Trimming removes blanks at the two ends and nothing else. -/
theorem exists_trim (cs : List Char) :
    ∃ before behind, cs = before ++ trim cs ++ behind ∧ Blank before ∧ Blank behind := by
  obtain ⟨behind, hinner, hbehind⟩ := exists_blank_behind (cs.dropWhile isBlank)
  refine ⟨cs.takeWhile isBlank, behind, ?_, fun c hc => List.mem_takeWhile_imp hc, hbehind⟩
  rw [trim, List.append_assoc, ← hinner, List.takeWhile_append_dropWhile]

/-- A text whose ends are not blank is what trimming leaves of it between blanks. -/
theorem trim_around {before core behind : List Char} (hbefore : Blank before)
    (hbehind : Blank behind) (hne : core ≠ []) (hfirst : isBlank (core.head hne) = false)
    (hlast : isBlank (core.getLast hne) = false) : trim (before ++ core ++ behind) = core := by
  have hstart : (before ++ core ++ behind).dropWhile isBlank = core ++ behind := by
    rw [List.append_assoc, List.dropWhile_append_of_pos hbefore]
    obtain ⟨c, rest, rfl⟩ := List.exists_cons_of_ne_nil hne
    exact List.dropWhile_cons_of_neg (by simpa using hfirst)
  rw [trim, hstart]
  refine dropEndWhile_append_blank hbehind fun c hc => ?_
  rw [List.getLast?_eq_some_getLast hne] at hc
  rw [← Option.some.inj hc]
  exact hlast

/-- What trimming leaves does not begin with a blank. -/
theorem isBlank_of_head?_trim {cs : List Char} {c : Char} (h : (trim cs).head? = some c) :
    isBlank c = false := by
  unfold trim at h
  have hwhole := dropEndWhile_append_takeWhile isBlank (cs.dropWhile isBlank)
  have hhead : (cs.dropWhile isBlank).head? = some c := by
    rw [← hwhole, List.head?_append, h]
    rfl
  have hnot := List.head?_dropWhile_not isBlank cs
  rw [hhead] at hnot
  exact hnot

/-- Trimming twice is trimming once. -/
theorem trim_trim (cs : List Char) : trim (trim cs) = trim cs := by
  by_cases hempty : trim cs = []
  · rw [hempty, trim_nil]
  · have hfirst := isBlank_of_head?_trim (List.head?_eq_some_head hempty)
    have hlast := getLast?_dropEndWhile isBlank _ (List.getLast?_eq_some_getLast hempty)
    have htrim := trim_around blank_nil blank_nil hempty hfirst hlast
    rwa [List.nil_append, List.append_nil] at htrim

/-- Trimming brings in no character. -/
theorem notMem_trimmed {c : Char} {text : String} (h : c ∉ text.toList) :
    c ∉ (trimmed text).toList := by
  rw [trimmed, String.toList_ofList, trim, dropEndWhile, List.mem_reverse]
  intro hmem
  have hinner := List.mem_reverse.1 (List.dropWhile_subset _ hmem)
  exact h (List.dropWhile_subset _ hinner)

end TemplateCodegen.Text
