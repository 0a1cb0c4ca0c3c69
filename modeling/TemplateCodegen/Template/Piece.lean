import TemplateCodegen.Template.Fault
import TemplateCodegen.Text.Blank

/-!
# Pieces of template text

A template text falls into literal stretches and tags. A tag begins at two opening braces and ends
with the first closing brace behind them and one more that follows directly; everything between two
tags is one literal stretch. A tag that can be read is a placeholder, the opening or the closing of
a section; one that cannot is a fault and leaves no piece. The stretches, joined, are the text.
-/

namespace TemplateCodegen.Template

/-- What a piece of text stands for. -/
inductive PieceKind where
  /-- Literal text. -/
  | text (content : String)
  /-- A placeholder. -/
  | identifier (name : String)
  /-- The opening tag of a section. -/
  | sectionOpen (name : String)
  /-- The closing tag of a section. -/
  | sectionClose (name : String)
deriving DecidableEq, Repr

/-- A piece with the bytes it was read from. -/
structure Piece where
  /-- What the piece stands for. -/
  kind : PieceKind
  /-- Where it stands. -/
  span : Span
deriving DecidableEq, Repr

/-- A stretch of template text: literal, or a tag with its braces. -/
inductive Stretch where
  | literal (content : List Char)
  | tag (content : List Char)
deriving DecidableEq, Repr

/-- The characters of a stretch. -/
def Stretch.content : Stretch → List Char
  | .literal content => content
  | .tag content => content

/-- Cut a text behind its literal beginning, which ends in front of the first two adjoining opening
braces. -/
def cutLiteral : List Char → List Char × List Char
  | [] => ([], [])
  | '{' :: '{' :: rest => ([], '{' :: '{' :: rest)
  | c :: rest => (c :: (cutLiteral rest).1, (cutLiteral rest).2)

/-- Cut a text behind the tag whose opening braces have been read: behind the first closing brace
and a second one that adjoins it, or at the end when there is none. -/
def cutTag : List Char → List Char × List Char
  | [] => ([], [])
  | '}' :: '}' :: rest => (['}', '}'], rest)
  | '}' :: rest => (['}'], rest)
  | c :: rest => (c :: (cutTag rest).1, (cutTag rest).2)

/-- Cutting behind the literal beginning loses nothing. -/
theorem cutLiteral_append (cs : List Char) : (cutLiteral cs).1 ++ (cutLiteral cs).2 = cs := by
  fun_induction cutLiteral cs with
  | case1 => rfl
  | case2 => rfl
  | case3 c rest _ ih => simp [ih]

/-- Cutting behind a tag loses nothing. -/
theorem cutTag_append (cs : List Char) : (cutTag cs).1 ++ (cutTag cs).2 = cs := by
  fun_induction cutTag cs with
  | case1 => rfl
  | case2 => rfl
  | case3 => rfl
  | case4 c rest _ _ ih => simp [ih]

/-- The remainder behind the literal beginning is no longer than the text. -/
theorem length_cutLiteral_le (cs : List Char) : (cutLiteral cs).2.length ≤ cs.length := by
  have h := congrArg List.length (cutLiteral_append cs)
  simp only [List.length_append] at h
  omega

/-- The remainder behind a tag is no longer than the text. -/
theorem length_cutTag_le (cs : List Char) : (cutTag cs).2.length ≤ cs.length := by
  have h := congrArg List.length (cutTag_append cs)
  simp only [List.length_append] at h
  omega

/-- The stretches of a text, in order. -/
def stretches : List Char → List Stretch
  | [] => []
  | '{' :: '{' :: rest => .tag ('{' :: '{' :: (cutTag rest).1) :: stretches (cutTag rest).2
  | c :: rest => .literal (c :: (cutLiteral rest).1) :: stretches (cutLiteral rest).2
termination_by cs => cs.length
decreasing_by
  · have h := length_cutTag_le rest
    simp only [List.length_cons]
    omega
  · have h := length_cutLiteral_le rest
    simp only [List.length_cons]
    omega

/-- The stretches, joined, are the text. -/
theorem flatMap_stretches (cs : List Char) : (stretches cs).flatMap Stretch.content = cs := by
  fun_induction stretches cs with
  | case1 => rfl
  | case2 rest ih =>
    rw [List.flatMap_cons, ih]
    simp [Stretch.content, cutTag_append]
  | case3 c rest _ ih =>
    rw [List.flatMap_cons, ih]
    simp [Stretch.content, cutLiteral_append]

/-- The number of bytes of a text. -/
def byteLength : List Char → Nat
  | [] => 0
  | c :: rest => c.utf8Size + byteLength rest

/-- Names consist of ASCII letters and digits, underscores and dots. -/
def isNameChar (c : Char) : Bool := c.isAlphanum || c == '_' || c == '.'

/-- The text between the braces of a tag, when its last two characters are closing braces that are
not its opening ones. -/
def tagBody? (tag : List Char) : Option (List Char) :=
  match (tag.drop 2).reverse with
  | '}' :: '}' :: body => some body.reverse
  | _ => none

/-- The kind of piece that a mark in front of the name asks for, and the text behind the mark. -/
def splitSigil (body : List Char) : (String → PieceKind) × List Char :=
  match body with
  | '#' :: rest => (.sectionOpen, Text.trim rest)
  | '/' :: rest => (.sectionClose, Text.trim rest)
  | _ => (.identifier, body)

/-- Read a tag. -/
def readTag (tag : List Char) : Except FaultCause PieceKind :=
  match tagBody? tag with
  | none => .error (.unterminatedTag (String.ofList (Text.dropEndWhile Text.isBlank tag)))
  | some body =>
    let (kind, name) := splitSigil (Text.trim body)
    if name = [] then .error (.emptyIdentifier (String.ofList tag))
    else if name.all isNameChar then .ok (kind (String.ofList name))
    else .error (.invalidName (String.ofList name))

/-- The pieces and the faults of a text, each in the order of the text. -/
structure Tokens where
  /-- The pieces that could be read. -/
  pieces : List Piece
  /-- One fault for every tag that could not. -/
  faults : List Fault
deriving DecidableEq, Repr

/-- Read the stretches that begin at a byte. -/
def readStretches (start : Nat) : List Stretch → Tokens
  | [] => ⟨[], []⟩
  | stretch :: rest =>
    let stop := start + byteLength stretch.content
    let tokens := readStretches stop rest
    let span : Span := ⟨start, stop⟩
    match stretch with
    | .literal content => ⟨⟨.text (String.ofList content), span⟩ :: tokens.pieces, tokens.faults⟩
    | .tag content =>
      match readTag content with
      | .ok kind => ⟨⟨kind, span⟩ :: tokens.pieces, tokens.faults⟩
      | .error cause => ⟨tokens.pieces, ⟨cause, span⟩ :: tokens.faults⟩

/-- Read a template text into pieces; tags that cannot be read are reported together. -/
def tokenize (source : String) : Tokens :=
  readStretches 0 (stretches source.toList)

end TemplateCodegen.Template
