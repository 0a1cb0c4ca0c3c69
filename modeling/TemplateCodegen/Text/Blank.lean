/-!
# Blank characters and trimming

The property `White_Space` of Unicode, and the removal of blank characters from the two ends of a
text. Trimming leaves a text whose two ends are not blank, so a second trim changes nothing.
-/

namespace TemplateCodegen.Text

/-- The property `White_Space`: the ASCII blanks with the vertical tab and the form feed, the next
line, the no-break space, and the spaces and line separators beyond. -/
def isBlank (c : Char) : Bool :=
  let point := c.toNat
  (0x09 ≤ point && point ≤ 0x0D) || point == 0x20 || point == 0x85 || point == 0xA0 ||
    point == 0x1680 || (0x2000 ≤ point && point ≤ 0x200A) || point == 0x2028 || point == 0x2029 ||
    point == 0x202F || point == 0x205F || point == 0x3000

/-- Remove the characters of a class from the end of a text. -/
def dropEndWhile (p : Char → Bool) (cs : List Char) : List Char :=
  (cs.reverse.dropWhile p).reverse

/-- Remove the blank characters at the two ends. -/
def trim (cs : List Char) : List Char :=
  dropEndWhile isBlank (cs.dropWhile isBlank)

/-- A text without the blank characters at its two ends. -/
def trimmed (text : String) : String :=
  String.ofList (trim text.toList)

/-- A text without the blank characters at its end. -/
def trimmedEnd (text : String) : String :=
  String.ofList (dropEndWhile isBlank text.toList)

/-- Whether a text has no character other than blanks. -/
def isBlankText (text : String) : Bool :=
  text.toList.all isBlank

/-- Core's ASCII blanks are blank. -/
theorem isBlank_of_isWhitespace {c : Char} (h : c.isWhitespace = true) : isBlank c = true := by
  simp only [Char.isWhitespace, Bool.or_eq_true, decide_eq_true_eq] at h
  rcases h with ((h | h) | h) | h <;> subst h <;> decide

/-- What is removed from the end stands behind what is kept. -/
theorem dropEndWhile_append_takeWhile (p : Char → Bool) (cs : List Char) :
    dropEndWhile p cs ++ (cs.reverse.takeWhile p).reverse = cs := by
  unfold dropEndWhile
  rw [← List.reverse_append, List.takeWhile_append_dropWhile, List.reverse_reverse]

/-- The last character that is kept is outside the class. -/
theorem getLast?_dropEndWhile (p : Char → Bool) (cs : List Char) {c : Char}
    (h : (dropEndWhile p cs).getLast? = some c) : p c = false := by
  unfold dropEndWhile at h
  rw [List.getLast?_reverse] at h
  have hnot := List.head?_dropWhile_not p cs.reverse
  rw [h] at hnot
  exact hnot

/-- Trimming the empty text gives the empty text. -/
theorem trim_nil : trim [] = [] := rfl

end TemplateCodegen.Text
