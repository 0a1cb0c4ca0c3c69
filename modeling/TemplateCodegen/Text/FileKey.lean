/-!
# File keys

A generated artifact is stored under a key. Three characters of class names are unwelcome in file
names and are replaced one for one; every other character is kept.
-/

namespace TemplateCodegen.Text

/-- The replacement of one character: angle brackets become square ones and `?` becomes `-`. -/
def fileKeyChar : Char → Char
  | '<' => '['
  | '>' => ']'
  | '?' => '-'
  | c => c

/-- The file key of a name. -/
def escapeFileKey (name : String) : String :=
  String.ofList (name.toList.map fileKeyChar)

/-- No replaced character remains. -/
theorem fileKeyChar_ne (c : Char) :
    fileKeyChar c ≠ '<' ∧ fileKeyChar c ≠ '>' ∧ fileKeyChar c ≠ '?' := by
  unfold fileKeyChar
  split
  · decide
  · decide
  · decide
  · rename_i h₁ h₂ h₃
    exact ⟨h₁, h₂, h₃⟩

/-- Escaping a second time changes nothing. -/
theorem escapeFileKey_escapeFileKey (name : String) :
    escapeFileKey (escapeFileKey name) = escapeFileKey name := by
  have hchar : ∀ c, fileKeyChar (fileKeyChar c) = fileKeyChar c := by
    intro c
    have hne := fileKeyChar_ne c
    generalize fileKeyChar c = d at hne
    unfold fileKeyChar
    split
    · exact absurd rfl hne.1
    · exact absurd rfl hne.2.1
    · exact absurd rfl hne.2.2
    · rfl
  simp [escapeFileKey, Function.comp_def, hchar]

end TemplateCodegen.Text
