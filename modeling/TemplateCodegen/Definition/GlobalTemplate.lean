import TemplateCodegen.Template.Basic

/-!
# The restriction on global templates

A global template is rendered once for the whole assembly, so it may mention nothing, or the content
of its children as its one placeholder. The check looks at the names at the top and then counts the
placeholders at every depth.
-/

namespace TemplateCodegen

/-- The placeholder for the fragments of the children. -/
def childContent : String := "ChildContent"

/-- How a template breaks the restriction. -/
inductive GlobalViolation where
  /-- Its one name at the top is another one. -/
  | foreignName (name : String)
  /-- The children's content is not its only placeholder. -/
  | notAlone
  /-- It has several names at the top. -/
  | severalNames (names : List String)
deriving DecidableEq, Repr

/-- The text shown for a violation, as the rest of a sentence about the template. -/
def GlobalViolation.message : GlobalViolation → String
  | .foreignName name =>
    "references '" ++ name ++ "' but may only reference '" ++ childContent ++ "'"
  | .notAlone =>
    "'\x7b\x7b " ++ childContent ++ " \x7d\x7d' must be the only placeholder in the template"
  | .severalNames names =>
    "references " ++ toString names.length ++ " names (" ++ ", ".intercalate names ++
      ") but may reference at most one"

/-- How a template breaks the restriction on global templates, if it does. -/
def globalViolation? (template : Template) : Option GlobalViolation :=
  match template.identifiers with
  | [] => none
  | [name] =>
    if name ≠ childContent then some (.foreignName name)
    else if template.hasTopIdentifier childContent ∧ template.identifierCount = 1 then none
    else some .notAlone
  | names => some (.severalNames names)

end TemplateCodegen
