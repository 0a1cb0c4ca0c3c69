import TemplateCodegen.Diagnostic.SourceLine
import TemplateCodegen.Text.Columns

/-!
# The layout of diagnostics

A diagnostic is shown to a person with the template text it points into: a header, the place, the
lines of the text with their numbers, the faulty part in colour with an arrow to the message, and a
note on the location. A part inside one line is underlined; of a part over several lines the first
and the last line are shown. The numbers of the span are taken as places of characters; a part that
ends beyond the text cannot be shown, and only the header is left; nor can anything of an empty
text. Without a text the one-line form is shown.
-/

namespace TemplateCodegen

/-- The colours of a report. -/
inductive Ink where
  /-- What belongs to an error. -/
  | error
  /-- What belongs to a warning. -/
  | warning
  /-- The margin of lines of the text, and the frame. -/
  | margin
  /-- The margin of the rows between them. -/
  | gap
  /-- The text that is not at fault. -/
  | plain
  /-- The word in front of a note. -/
  | note
deriving DecidableEq, Repr

/-- The parameters of the terminal's colour sequence. -/
def Ink.parameters : Ink → String
  | .error => "31"
  | .warning => "33"
  | .margin => "38;5;246"
  | .gap => "38;5;240"
  | .plain => "38;5;249"
  | .note => "38;5;115"

/-- The colour of what belongs to a severity. -/
def Severity.ink : Severity → Ink
  | .error => .error
  | .warning => .warning

/-- The word that stands in a header for a severity. -/
def Severity.heading : Severity → String
  | .error => "Error"
  | .warning => "Warning"

namespace Layout

/-- A text in a colour, and back to none. -/
def paint (ink : Ink) (text : String) : String :=
  "\x1b[" ++ ink.parameters ++ "m" ++ text ++ "\x1b[0m"

/-- Some blanks. -/
def blanks (count : Nat) : String := String.ofList (List.replicate count ' ')

/-- Text put together again and again. -/
def repeated (count : Nat) (text : String) : String := String.join (List.replicate count text)

/-- What a report shows of a snippet. -/
structure Scene where
  /-- The lines of the text. -/
  lines : List SourceLine
  /-- The part at fault, in characters of the text. -/
  part : Span
  /-- The number of the line, from 0, that the part begins in. -/
  firstLine : Nat
  /-- The number of the line that the part ends in. -/
  lastLine : Nat
  /-- The colour of the part. -/
  ink : Ink
  /-- What the arrow points to. -/
  message : String
deriving Repr

/-- The scene of a snippet; none when the part begins or ends beyond the text, or the
text is empty. -/
def scene? (snippet : Snippet) (ink : Ink) (message : String) : Option Scene := do
  let part := snippet.span
  let firstLine ← lineNumber? snippet.source part.start
  let lastLine ← lineNumber? snippet.source (max part.start (part.stop - 1))
  return { lines := sourceLines snippet.source, part, firstLine, lastLine, ink, message }

namespace Scene

/-- Whether a place is part of the fault. -/
def covers (scene : Scene) (place : Nat) : Bool :=
  scene.part.start ≤ place && place < scene.part.stop

/-- Whether the part goes over several lines. -/
def isTall (scene : Scene) : Bool := scene.firstLine != scene.lastLine

/-- The width of line numbers. -/
def numberWidth (scene : Scene) : Nat := (toString (scene.lastLine + 1)).length

/-- The margin of a line of the text. -/
def lineMargin (scene : Scene) (number : Nat) : String :=
  let shown := toString (number + 1)
  " " ++ paint .margin (blanks (scene.numberWidth - shown.length) ++ shown ++ " │") ++ " "

/-- The margin of a row that is no line of the text. -/
def rowMargin (scene : Scene) : String :=
  " " ++ paint .gap (blanks (scene.numberWidth + 1) ++ "│") ++ " "

/-- The margin of the row that stands for lines left out. -/
def gapMargin (scene : Scene) : String :=
  " " ++ paint .gap (blanks (scene.numberWidth + 1) ++ "┆") ++ " "

/-- Some strokes of the part, each in its colour. -/
def strokes (scene : Scene) (count : Nat) : String := repeated count (paint scene.ink "─")

/-- A line of the text, the part in its colour; trailing blanks are not drawn. -/
def drawLine (scene : Scene) (line : SourceLine) : String :=
  String.join (line.drawn.mapIdx fun place c =>
    let ink := if scene.covers (line.offset + place) then scene.ink else .plain
    let (drawn, columns) := Text.drawnChar place c
    if drawn = ' ' then repeated columns (paint ink " ") else paint ink (String.singleton drawn))

/-- A row under a line of the text: what is drawn at each place, given the number of its columns.
Places behind the drawn characters have one column. -/
def drawBelow (line : SourceLine) (length : Nat) (draw : Nat → Nat → String) : String :=
  let drawn := line.drawn
  String.join ((List.range length).map fun place =>
    let columns :=
      match drawn[place]? with
      | some c => (Text.drawnChar place c).2
      | none => 1
    draw place columns)

/-- A mark in the first of some columns and strokes in the others. -/
def markThenStrokes (scene : Scene) (mark : String) : Nat → String
  | 0 => ""
  | columns + 1 => paint scene.ink mark ++ scene.strokes columns

/-- The rows of a part that lies in one line: the line, the underline with the root of the arrow at
its middle, and the arrow to the message. A part that reaches beyond its line is not drawn. -/
def flatRows (scene : Scene) (line : SourceLine) : List String :=
  let part := scene.part
  if line.offset ≤ part.start ∧ part.stop ≤ line.stop then
    let root := max ((part.start + part.stop) / 2) part.start - line.offset
    let length := part.stop - line.offset + 2
    [scene.lineMargin scene.firstLine ++ scene.drawLine line,
     scene.rowMargin ++ drawBelow line length fun place columns =>
       if scene.covers (line.offset + place) then
         if place = root then scene.markThenStrokes "┬" columns else scene.strokes columns
       else if place = root then
         match columns with
         | 0 => ""
         | columns + 1 => paint scene.ink "│" ++ repeated columns (paint scene.ink " ")
       else blanks columns,
     scene.rowMargin ++ (drawBelow line length fun place columns =>
       if place < root then blanks columns
       else if place = root then scene.markThenStrokes "╰" columns
       else scene.strokes columns) ++ " " ++ scene.message]
  else [scene.rowMargin]

/-- The rows of the last line of a part over several lines: the line, and the arrow to the message.
-/
def closingRows (scene : Scene) (number : Nat) (line : SourceLine) : List String :=
  let length := line.content.length + 2
  [scene.lineMargin number ++
     String.join (["├", "─", "▶", " "].map (paint scene.ink)) ++ scene.drawLine line,
   scene.rowMargin ++ paint scene.ink "│" ++ blanks 3 ++ drawBelow line length fun _ => blanks,
   scene.rowMargin ++ paint scene.ink "╰" ++ scene.strokes 3 ++
     (drawBelow line length fun _ => scene.strokes) ++ " " ++ scene.message]

/-- The row that stands for the lines left out between the first and the last. -/
def gapRow (scene : Scene) : String := scene.gapMargin ++ paint scene.ink "┆" ++ blanks 3

/-- The rows of a part over several lines. When it ends behind the last character, no line is its
last, and the message is not drawn. -/
def tallRows (scene : Scene) : List String :=
  let opening :=
    match scene.lines[scene.firstLine]? with
    | some line =>
      [scene.lineMargin scene.firstLine ++
        String.join (["╭", "─", "▶", " "].map (paint scene.ink)) ++ scene.drawLine line]
    | none => []
  let closing :=
    match scene.lines[scene.lastLine]? with
    | some line =>
      if line.contains (scene.part.stop - 1) then scene.closingRows scene.lastLine line else []
    | none => []
  let left := scene.lastLine - scene.firstLine - (if closing.isEmpty then 0 else 1)
  opening ++ (if left = 0 then [] else [scene.gapRow]) ++ closing

/-- The rows of the text. -/
def rows (scene : Scene) : List String :=
  if scene.isTall then scene.tallRows
  else
    match scene.lines[scene.firstLine]? with
    | some line => scene.flatRows line
    | none => []

/-- What stands between the margin and a note: nothing for a part in one line. For a taller part two
columns are kept free, and its bar is drawn through them when it begins with the second line. -/
def noteIndent (scene : Scene) : String :=
  if !scene.isTall then ""
  else
    match scene.lines[1]? with
    | some second =>
      if scene.part.start = second.offset then paint scene.ink "│" ++ blanks 3 else blanks 4
    | none => blanks 4

/-- The rows of a note. -/
def noteRows (scene : Scene) (note : String) : List String :=
  let margin := scene.rowMargin ++ scene.noteIndent
  [margin, margin ++ paint .note "Note" ++ ": " ++ note]

/-- The frame around the rows: the place where the part begins, and the foot. -/
def framed (scene : Scene) (name : String) (rows : List String) : List String :=
  let indent := blanks (scene.numberWidth + 2)
  let offset := ((scene.lines[scene.firstLine]?).map SourceLine.offset).getD 0
  [indent ++ paint .margin "╭" ++ paint .margin "─" ++ paint .margin "[" ++ name ++ ":" ++
     toString (scene.firstLine + 1) ++ ":" ++ toString (scene.part.start - offset + 1) ++
     paint .margin "]",
   indent ++ paint .margin "│"] ++
  rows ++ [paint .margin (repeated (scene.numberWidth + 2) "─" ++ "╯")]

end Scene

/-- The first row of a report. -/
def header (diagnostic : Diagnostic) : String :=
  paint diagnostic.severity.ink
    ("[" ++ diagnostic.code.text ++ "] " ++ diagnostic.severity.heading ++ ":") ++
    " " ++ diagnostic.message

/-- The rows of a report on a snippet. -/
def reportRows (diagnostic : Diagnostic) (snippet : Snippet) : List String :=
  header diagnostic ::
    match scene? snippet diagnostic.severity.ink diagnostic.message with
    | none => []
    | some scene =>
      scene.framed snippet.name
        (scene.rows ++
          match diagnostic.location with
          | some location => scene.noteRows ("declared at " ++ location)
          | none => [])

end Layout

/-- The text shown to a person: a report when there is a snippet, and otherwise one line. -/
def Diagnostic.display (diagnostic : Diagnostic) : String :=
  match diagnostic.snippet with
  | none => diagnostic.line
  | some snippet =>
    String.join ((Layout.reportRows diagnostic snippet).map fun row => row ++ "\n")

end TemplateCodegen
