import TemplateCodegen.Template.Basic

/-!
# Reading templates

Pieces become a template when their sections nest. One pass over the pieces, with the sections that
are open, builds the rest of every open level at once; it stops at the first closing tag without an
open section, or at the end inside the innermost open one. Sections closed under another name are
told apart from that: they nest, and all of them are reported together with the faulty tags.
-/

namespace TemplateCodegen.Template

/-- A section that has been opened. -/
structure Opening where
  /-- The name in its opening tag. -/
  name : String
  /-- The place of its opening tag. -/
  span : Span
deriving DecidableEq, Repr

/-- The nodes of one level from some piece on, with the sections among them and below that are
closed under another name. -/
structure Level where
  /-- The nodes. -/
  nodes : Template
  /-- The mismatches, an outer section before those inside it. -/
  mismatches : List Fault
deriving DecidableEq, Repr

/-- What closes an open section: the name and the place of the closing tag. -/
structure Closing where
  /-- The name in the closing tag. -/
  name : String
  /-- The place of the closing tag. -/
  span : Span
deriving DecidableEq, Repr

/-- The rest of every level when so many sections are open: that of the innermost section and its
closing tag first, that of the top level last. -/
def Levels : Nat → Type
  | 0 => Level
  | depth + 1 => Level × Closing × Levels depth

/-- Change the nodes of the innermost level. -/
def Levels.mapInnermost (f : Template → Template) : {depth : Nat} → Levels depth → Levels depth
  | 0, level => { level with nodes := f level.nodes }
  | _ + 1, (level, closing, outer) => ({ level with nodes := f level.nodes }, closing, outer)

/-- The mismatch of a section, when it is closed under another name. -/
def mismatch (opening : Opening) (closing : Closing) : List Fault :=
  if closing.name = opening.name then []
  else [⟨.mismatchedClose opening.name closing.name, closing.span⟩]

/-- Put a finished section in front of a level. -/
def Level.addBlock (opening : Opening) (closing : Closing) (body level : Level) : Level :=
  { nodes := .block opening.name ⟨opening.span.start, closing.span.stop⟩ body.nodes level.nodes
    mismatches := mismatch opening closing ++ body.mismatches ++ level.mismatches }

/-- Finish the innermost section in front of the level around it. -/
def Levels.close (opening : Opening) : {depth : Nat} → Levels (depth + 1) → Levels depth
  | 0, (body, closing, level) => Level.addBlock opening closing body level
  | _ + 1, (body, closing, level, outerClosing, outer) =>
    (Level.addBlock opening closing body level, outerClosing, outer)

/-- Build the rest of every open level from the pieces that are left; `opened` are the open
sections, the innermost first. -/
def nest : (opened : List Opening) → List Piece → Except Fault (Levels opened.length)
  | [], [] => .ok (⟨.empty, []⟩ : Level)
  | opening :: _, [] => .error ⟨.unclosedSection opening.name, opening.span⟩
  | opened, ⟨.text content, span⟩ :: rest =>
    (nest opened rest).map (Levels.mapInnermost (.text content span))
  | opened, ⟨.identifier name, span⟩ :: rest =>
    (nest opened rest).map (Levels.mapInnermost (.identifier name span))
  | opened, ⟨.sectionOpen name, span⟩ :: rest =>
    (nest (⟨name, span⟩ :: opened) rest).map (Levels.close ⟨name, span⟩)
  | [], ⟨.sectionClose name, span⟩ :: _ => .error ⟨.unmatchedClose name, span⟩
  | _ :: opened, ⟨.sectionClose name, span⟩ :: rest =>
    (nest opened rest).map fun outer => ((⟨.empty, []⟩ : Level), (⟨name, span⟩ : Closing), outer)

/-- Read a template text. It is refused when a tag cannot be read, when a section is closed under
another name, or when the sections do not nest; the last ends the search for mismatches, and its
fault is sorted in among those of the tags by place. -/
def parse (source : String) : Except (List Fault) Template :=
  let tokens := tokenize source
  match nest [] tokens.pieces with
  | .ok level =>
    let level : Level := level
    match tokens.faults ++ level.mismatches with
    | [] => .ok level.nodes
    | faults => .error faults
  | .error fault =>
    .error ((tokens.faults ++ [fault]).mergeSort fun one other => one.span.start ≤ other.span.start)

/-- A text that is refused has at least one fault. -/
theorem parse_error_ne_nil {source : String} {faults : List Fault}
    (h : parse source = .error faults) :
    faults ≠ [] := by
  unfold parse at h
  simp only at h
  split at h
  · split at h
    · simp at h
    · rename_i hne
      obtain rfl := Except.error.inj h
      exact hne
  · obtain rfl := Except.error.inj h
    intro hnil
    have hlen := congrArg List.length hnil
    simp at hlen

end TemplateCodegen.Template
