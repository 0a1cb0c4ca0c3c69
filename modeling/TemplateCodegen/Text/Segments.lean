/-!
# Cutting a text at a separator

A text is cut at every occurrence of one character; the pieces, joined again by that character, give
the text back.
-/

namespace TemplateCodegen.Text

/-- The pieces of a text between the occurrences of a separator; one piece when there is none. -/
def segments (separator : Char) : List Char → List (List Char)
  | [] => [[]]
  | c :: rest =>
    match segments separator rest with
    | [] => [[c]]
    | piece :: more => if c = separator then [] :: piece :: more else (c :: piece) :: more

/-- There is always at least one piece. -/
theorem segments_ne_nil (separator : Char) (cs : List Char) : segments separator cs ≠ [] := by
  cases cs with
  | nil => simp [segments]
  | cons c rest =>
    unfold segments
    split
    · simp
    · split <;> simp

/-- Joining the pieces by the separator gives the text back. -/
theorem intercalate_segments (separator : Char) (cs : List Char) :
    [separator].intercalate (segments separator cs) = cs := by
  induction cs with
  | nil => rfl
  | cons c rest ih =>
    unfold segments
    split
    · rename_i hnil
      exact absurd hnil (segments_ne_nil separator rest)
    · rename_i piece more hcons
      rw [hcons] at ih
      by_cases h : c = separator
      · subst h
        rw [if_pos rfl]
        rw [List.intercalate_cons_cons, ih]
        rfl
      · rw [if_neg h, ← ih]
        cases more <;> simp [List.intercalate]

/-- A separator between two texts divides the pieces of the one from those of the other. -/
theorem segments_append (separator : Char) (one other : List Char) :
    segments separator (one ++ separator :: other) =
      segments separator one ++ segments separator other := by
  induction one with
  | nil =>
    obtain ⟨piece, more, hmore⟩ := List.exists_cons_of_ne_nil (segments_ne_nil separator other)
    simp [segments, hmore]
  | cons c rest ih =>
    obtain ⟨piece, more, hmore⟩ := List.exists_cons_of_ne_nil (segments_ne_nil separator rest)
    rw [List.cons_append, segments, segments, ih, hmore]
    by_cases hc : c = separator <;> simp [hc]

/-- A text without separators is one piece. -/
theorem segments_of_notMem {separator : Char} {cs : List Char} (h : separator ∉ cs) :
    segments separator cs = [cs] := by
  induction cs with
  | nil => rfl
  | cons c rest ih =>
    rw [List.mem_cons, not_or] at h
    simp [segments, ih h.2, Ne.symm h.1]

/-- No piece has a separator. -/
theorem notMem_of_mem_segments {separator : Char} {cs piece : List Char}
    (h : piece ∈ segments separator cs) : separator ∉ piece := by
  induction cs generalizing piece with
  | nil =>
    obtain rfl := List.mem_singleton.1 h
    exact List.not_mem_nil
  | cons c rest ih =>
    obtain ⟨first, more, hmore⟩ := List.exists_cons_of_ne_nil (segments_ne_nil separator rest)
    rw [hmore] at ih
    simp only [segments, hmore] at h
    by_cases hc : c = separator
    · rw [if_pos hc, List.mem_cons] at h
      rcases h with rfl | h
      · exact List.not_mem_nil
      · exact ih h
    · rw [if_neg hc, List.mem_cons] at h
      rcases h with rfl | h
      · exact List.not_mem_cons_of_ne_of_not_mem (Ne.symm hc) (ih List.mem_cons_self)
      · exact ih (List.mem_cons_of_mem first h)

/-- The pieces of a text as texts. -/
def splitText (separator : Char) (text : String) : List String :=
  (segments separator text.toList).map String.ofList

end TemplateCodegen.Text
