/-!
# Leading parts of a text

Removal of a given beginning from a text, when the text has it.
-/

namespace TemplateCodegen.Text

/-- The characters behind a given beginning. -/
def stripStart? : List Char → List Char → Option (List Char)
  | [], cs => some cs
  | _ :: _, [] => none
  | expected :: more, c :: rest => if c = expected then stripStart? more rest else none

/-- A text without a given beginning; unchanged when it does not begin so. -/
def withoutStart (start : String) (cs : List Char) : List Char :=
  (stripStart? start.toList cs).getD cs

/-- The beginning and the remainder are the text. -/
theorem stripStart?_eq_some_iff {start cs rest : List Char} :
    stripStart? start cs = some rest ↔ cs = start ++ rest := by
  induction start generalizing cs with
  | nil => simp [stripStart?]
  | cons expected more ih =>
    cases cs with
    | nil => simp [stripStart?]
    | cons c cs =>
      by_cases h : c = expected
      · simp [stripStart?, h, ih]
      · simp [stripStart?, h]

end TemplateCodegen.Text
