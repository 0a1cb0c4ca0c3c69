import TemplateCodegen.Template.Basic
import TemplateCodegen.Template.Context
import TemplateCodegen.Text.Segments

/-!
# Rendering

A template is rendered in a chain of scopes, the innermost first. A name is looked up in the
innermost map that has its first segment, and the further segments descend into maps; a lone dot is
the element of the innermost scope. What cannot be resolved is rendered as nothing, so rendering
never fails.
-/

namespace TemplateCodegen.Template

/-- One link of the chain: the entries of a map, or an element that is no map. -/
inductive Scope where
  | named (entries : List (String × Value))
  | element (value : Value)

/-- The scope that a value opens. -/
def Scope.of : Value → Scope
  | .map entries => .named entries
  | value => .element value

/-- The value of a name in one scope. -/
def Scope.get? (name : String) : Scope → Option Value
  | .named entries => entries.lookup name
  | .element _ => none

/-- Descend from a value along the segments of a name. -/
def descend : Value → List String → Option Value
  | value, [] => some value
  | .map entries, segment :: rest =>
    match entries.lookup segment with
    | some value => descend value rest
    | none => none
  | _, _ :: _ => none

/-- The element that a lone dot names: that of the innermost scope, unless it is a map. -/
def currentElement? : List Scope → Option Value
  | .element value :: _ => some value
  | _ => none

/-- The value of a name in a chain of scopes. -/
def resolve (scopes : List Scope) (name : String) : Option Value :=
  if name = "." then currentElement? scopes
  else
    match Text.splitText '.' name with
    | [] => none
    | first :: rest =>
      match scopes.findSome? (Scope.get? first) with
      | some value => descend value rest
      | none => none

/-- The text that a placeholder of the value is replaced by. -/
def shown : Value → String
  | .text content => content
  | .bool true => "true"
  | .bool false => "false"
  | .list _ => ""
  | .map _ => ""

/-- The chains of scopes in which the body of a section is rendered, one after the other: one for
each item of a list, the unchanged chain for `true`, one with the value itself for any other value
that is not empty or false, and none otherwise. -/
def blockScopes (scopes : List Scope) : Option Value → List (List Scope)
  | some (.list items) => items.map fun item => Scope.of item :: scopes
  | some (.bool true) => [scopes]
  | some value => if value.isTruthy then [Scope.of value :: scopes] else []
  | none => []

/-- Render a template in a chain of scopes. -/
def renderIn : Template → List Scope → String
  | .empty, _ => ""
  | .text content _ rest, scopes => content ++ renderIn rest scopes
  | .identifier name _ rest, scopes =>
    ((resolve scopes name).map shown).getD "" ++ renderIn rest scopes
  | .block name _ body rest, scopes =>
    String.join ((blockScopes scopes (resolve scopes name)).map (renderIn body)) ++
      renderIn rest scopes

/-- Render a template in a context. -/
def render (template : Template) (context : Context) : String :=
  renderIn template [.named context.entries]

/-- Two templates in a row are rendered one after the other. -/
theorem renderIn_append (one other : Template) (scopes : List Scope) :
    renderIn (one ++ other) scopes = renderIn one scopes ++ renderIn other scopes := by
  induction one with
  | empty =>
    change renderIn other scopes = "" ++ renderIn other scopes
    simp
  | text content span rest ih =>
    change content ++ renderIn (rest ++ other) scopes = _
    rw [ih, renderIn, String.append_assoc]
  | identifier name span rest ih =>
    change _ ++ renderIn (rest ++ other) scopes = _
    rw [ih, renderIn, String.append_assoc]
  | block name span body rest _ ih =>
    change _ ++ renderIn (rest ++ other) scopes = _
    rw [ih, renderIn, String.append_assoc]

end TemplateCodegen.Template
