import TemplateCodegen.Diagnostic.Basic
import TemplateCodegen.Text.Blank

/-!
# Lines of a source text

A text is cut behind every line break; a carriage return and a line feed that follows it are one
break. Each line knows how many characters stand in front of it. The empty text has no lines.
Cutting loses nothing: the lines, joined, are the text.
-/

namespace TemplateCodegen

/-- The characters that end a line. -/
def isLineBreak (c : Char) : Bool :=
  c == '\n' || c == '\r' || c == '\x0B' || c == '\x0C' ||
    c == '\u0085' || c == '\u2028' || c == '\u2029'

/-- The lines of a text with their breaks. -/
def cutLines : List Char → List (List Char)
  | [] => []
  | '\r' :: '\n' :: rest => ['\r', '\n'] :: cutLines rest
  | c :: rest =>
    if isLineBreak c then [c] :: cutLines rest
    else
      match cutLines rest with
      | [] => [[c]]
      | line :: lines => (c :: line) :: lines

/-- A line in its text. -/
structure SourceLine where
  /-- The number of characters in front of the line. -/
  offset : Nat
  /-- Its characters with the line break. -/
  content : List Char
deriving DecidableEq, Repr

namespace SourceLine

/-- The number of characters in front of what follows the line. -/
def stop (line : SourceLine) : Nat := line.offset + line.content.length

/-- The characters that are drawn: those in front of trailing blanks. -/
def drawn (line : SourceLine) : List Char := Text.dropEndWhile Text.isBlank line.content

/-- Whether a place of the text belongs to the line. -/
def contains (line : SourceLine) (place : Nat) : Bool := line.offset ≤ place && place < line.stop

end SourceLine

/-- Lines behind a number of characters. -/
def placeLines : Nat → List (List Char) → List SourceLine
  | _, [] => []
  | offset, line :: lines => ⟨offset, line⟩ :: placeLines (offset + line.length) lines

/-- The lines of a text. -/
def sourceLines (text : String) : List SourceLine := placeLines 0 (cutLines text.toList)

/-- The number of the line, from 0, that a place of a text is in; the end of the text belongs to the
last line. There is none for a place beyond the end, and none in the empty text. -/
def lineNumber? (text : String) (place : Nat) : Option Nat :=
  if place ≤ text.length then
    match ((sourceLines text).takeWhile fun line => line.offset ≤ place).length with
    | 0 => none
    | count + 1 => some count
  else none

/-- Cutting loses nothing. -/
theorem flatten_cutLines (cs : List Char) : (cutLines cs).flatten = cs := by
  fun_induction cutLines cs with
  | case1 => rfl
  | case2 rest ih => simp [ih]
  | case3 c rest _ _ ih => simp [ih]
  | case4 c rest _ _ h ih =>
    rw [h] at ih
    simp only [List.flatten_nil] at ih
    simp [← ih]
  | case5 c rest _ _ line lines h ih =>
    rw [h] at ih
    simp only [List.flatten_cons] at ih
    simp [← ih]

end TemplateCodegen
