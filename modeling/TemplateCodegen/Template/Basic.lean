import TemplateCodegen.Template.Piece

/-!
# Templates

A template is a sequence of nodes: literal text, placeholders, and sections, which hold a template
of their own. The sequence is kept as one inductive type, each node with the nodes behind it, so
that every function on templates is a plain recursion.
-/

namespace TemplateCodegen

/-- A sequence of template nodes. -/
inductive Template where
  /-- No nodes. -/
  | empty
  /-- Literal text, and the nodes behind it. -/
  | text (content : String) (span : Span) (rest : Template)
  /-- A placeholder, and the nodes behind it. -/
  | identifier (name : String) (span : Span) (rest : Template)
  /-- A section with its body, from its opening to its closing tag, and the nodes behind it. -/
  | block (name : String) (span : Span) (body rest : Template)
deriving DecidableEq, Repr, Inhabited

namespace Template

/-- The nodes of one template followed by those of another. -/
def append : Template → Template → Template
  | .empty, other => other
  | .text content span rest, other => .text content span (rest.append other)
  | .identifier name span rest, other => .identifier name span (rest.append other)
  | .block name span body rest, other => .block name span body (rest.append other)

/-- Templates are put one behind the other with `++`. -/
instance : Append Template := ⟨append⟩

/-- Whether the template has no nodes at all. -/
def isEmpty : Template → Bool
  | .empty => true
  | _ => false

/-- The names of the placeholders and sections at the top, with repetitions. -/
def topNames : Template → List String
  | .empty => []
  | .text _ _ rest => rest.topNames
  | .identifier name _ rest => name :: rest.topNames
  | .block name _ _ rest => name :: rest.topNames

/-- Keep the first occurrence of every entry. -/
def distinct : List String → List String
  | [] => []
  | name :: rest => name :: (distinct rest).filter (· != name)

/-- The distinct names at the top, in the order of their first use. -/
def identifiers (template : Template) : List String := distinct template.topNames

/-- The number of placeholders, at every depth. -/
def identifierCount : Template → Nat
  | .empty => 0
  | .text _ _ rest => rest.identifierCount
  | .identifier _ _ rest => rest.identifierCount + 1
  | .block _ _ body rest => body.identifierCount + rest.identifierCount

/-- The number of sections, at every depth. -/
def blockCount : Template → Nat
  | .empty => 0
  | .text _ _ rest => rest.blockCount
  | .identifier _ _ rest => rest.blockCount
  | .block _ _ body rest => body.blockCount + rest.blockCount + 1

/-- Whether a placeholder of the name stands at the top. -/
def hasTopIdentifier (wanted : String) : Template → Bool
  | .empty => false
  | .text _ _ rest => rest.hasTopIdentifier wanted
  | .identifier name _ rest => name == wanted || rest.hasTopIdentifier wanted
  | .block _ _ _ rest => rest.hasTopIdentifier wanted

/-- Nothing behind a template changes nothing. -/
theorem append_empty (template : Template) : template ++ Template.empty = template := by
  induction template with
  | empty => rfl
  | text content span rest ih => exact congrArg (Template.text content span) ih
  | identifier name span rest ih => exact congrArg (Template.identifier name span) ih
  | block name span body rest _ ih => exact congrArg (Template.block name span body) ih

/-- Placeholders are counted over both parts. -/
theorem identifierCount_append (one other : Template) :
    (one ++ other).identifierCount = one.identifierCount + other.identifierCount := by
  induction one with
  | empty => exact (Nat.zero_add _).symm
  | text content span rest ih => exact ih
  | identifier name span rest ih =>
    change (rest ++ other).identifierCount + 1 = rest.identifierCount + 1 + other.identifierCount
    omega
  | block name span body rest _ ih =>
    change body.identifierCount + (rest ++ other).identifierCount =
      body.identifierCount + rest.identifierCount + other.identifierCount
    omega

/-- A name is among the distinct ones exactly when it occurs. -/
theorem mem_distinct {name : String} {names : List String} :
    name ∈ distinct names ↔ name ∈ names := by
  induction names with
  | nil => simp [distinct]
  | cons first rest ih =>
    by_cases h : name = first
    · simp [distinct, h]
    · simp [distinct, h, ih]

end Template

end TemplateCodegen
