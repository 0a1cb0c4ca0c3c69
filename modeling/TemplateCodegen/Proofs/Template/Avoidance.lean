import TemplateCodegen.Template.Render

/-!
# Characters that rendering does not bring in

Rendering copies the texts of the template and of the values that its placeholders stand for, and
writes the two flags. Main statement: a character that is in none of these is not in what a template
renders to (`Template.Avoids.notMem_render`).
-/

namespace TemplateCodegen

/-- No text in the value has the character. -/
inductive Value.Avoids (c : Char) : Value → Prop where
  /-- A text that does not have it. -/
  | text {content : String} (h : c ∉ content.toList) : Avoids c (.text content)
  /-- A flag. -/
  | bool (flag : Bool) : Avoids c (.bool flag)
  /-- A sequence of such values. -/
  | list {items : List Value} (h : ∀ item ∈ items, Avoids c item) : Avoids c (.list items)
  /-- Such values under any names. -/
  | map {entries : List (String × Value)} (h : ∀ name value, (name, value) ∈ entries →
      Avoids c value) : Avoids c (.map entries)

/-- No text under any of the names has the character. -/
def Context.Avoids (c : Char) (context : Context) : Prop := (Value.map context.entries).Avoids c

namespace Template

/-- No literal text has the character, at any depth. -/
def Avoids (c : Char) : Template → Prop
  | .empty => True
  | .text content _ rest => c ∉ content.toList ∧ rest.Avoids c
  | .identifier _ _ rest => rest.Avoids c
  | .block _ _ body rest => body.Avoids c ∧ rest.Avoids c

/-- No text of the scope has the character. -/
def Scope.Avoids (c : Char) : Scope → Prop
  | .named entries => (Value.map entries).Avoids c
  | .element value => value.Avoids c

variable {c : Char} {scopes : List Scope} {value : Value}

/-- A value that is found under a name has no character that the entries do not have. -/
theorem avoids_of_lookup {entries : List (String × Value)} {name : String}
    (h : (Value.map entries).Avoids c) (hvalue : entries.lookup name = some value) :
    value.Avoids c := by
  obtain ⟨front, behind, rfl, _⟩ := List.lookup_eq_some_iff.1 hvalue
  cases h with
  | map hentries => exact hentries name value (List.mem_append_right _ List.mem_cons_self)

/-- The scope that a value opens has no other texts. -/
theorem Scope.avoids_of (h : value.Avoids c) : (Scope.of value).Avoids c := by
  cases value <;> exact h

/-- Descending brings in no text. -/
theorem avoids_of_descend {segments : List String} {found : Value} (h : value.Avoids c)
    (hfound : descend value segments = some found) : found.Avoids c := by
  induction segments generalizing value with
  | nil =>
    rw [descend] at hfound
    exact Option.some.inj hfound ▸ h
  | cons segment rest ih =>
    cases value with
    | map entries =>
      rw [descend] at hfound
      split at hfound
      · rename_i inner hinner
        exact ih (avoids_of_lookup h hinner) hfound
      · cases hfound
    | text | bool | list => cases hfound

/-- What a name stands for has no other texts than the scopes. -/
theorem avoids_of_resolve {name : String} (h : ∀ scope ∈ scopes, scope.Avoids c)
    (hvalue : resolve scopes name = some value) : value.Avoids c := by
  unfold resolve at hvalue
  split at hvalue
  · unfold currentElement? at hvalue
    split at hvalue
    · exact Option.some.inj hvalue ▸ h _ List.mem_cons_self
    · cases hvalue
  · split at hvalue
    · cases hvalue
    · split at hvalue
      · rename_i found hfound
        obtain ⟨scope, hscope, hget⟩ := List.exists_of_findSome?_eq_some hfound
        cases scope with
        | named entries =>
          exact avoids_of_descend (avoids_of_lookup (h _ hscope) hget) hvalue
        | element element => cases hget
      · cases hvalue

/-- A chain that is longer by the scope of a value has no other texts. -/
theorem avoids_of_cons (h : ∀ scope ∈ scopes, scope.Avoids c) (hvalue : value.Avoids c) :
    ∀ scope ∈ Scope.of value :: scopes, scope.Avoids c :=
  List.forall_mem_cons.2 ⟨Scope.avoids_of hvalue, h⟩

/-- The chains for the body of a section have no other texts. -/
theorem avoids_of_blockScopes {found : Option Value} {inner : List Scope}
    (h : ∀ scope ∈ scopes, scope.Avoids c) (hfound : ∀ value, found = some value → value.Avoids c)
    (hinner : inner ∈ blockScopes scopes found) : ∀ scope ∈ inner, scope.Avoids c := by
  unfold blockScopes at hinner
  split at hinner
  · rename_i items
    obtain ⟨item, hitem, rfl⟩ := List.mem_map.1 hinner
    cases hfound _ rfl with
    | list hitems => exact avoids_of_cons h (hitems item hitem)
  · exact List.mem_singleton.1 hinner ▸ h
  · rename_i value _ _
    split at hinner
    · exact List.mem_singleton.1 hinner ▸ avoids_of_cons h (hfound value rfl)
    · cases hinner
  · cases hinner

/-- A value is shown by its text or as a flag. -/
theorem notMem_shown (hflags : ∀ flag, c ∉ (shown (.bool flag)).toList) (h : value.Avoids c) :
    c ∉ (shown value).toList := by
  cases h with
  | text hcontent => exact hcontent
  | bool flag => exact hflags flag
  | list | map => exact List.not_mem_nil

/-- A character that is in no joined text is not in what they are joined to. -/
theorem notMem_join {texts : List String} (h : ∀ text ∈ texts, c ∉ text.toList) :
    c ∉ (String.join texts).toList := by
  induction texts with
  | nil => exact List.not_mem_nil
  | cons text rest ih =>
    obtain ⟨htext, hrest⟩ := List.forall_mem_cons.1 h
    rw [String.join_cons, String.toList_append, List.mem_append, not_or]
    exact ⟨htext, ih hrest⟩

/-- Rendering in a chain of scopes brings in no character. -/
theorem Avoids.notMem_renderIn (hflags : ∀ flag, c ∉ (shown (.bool flag)).toList)
    {template : Template} (h : template.Avoids c) (hscopes : ∀ scope ∈ scopes, scope.Avoids c) :
    c ∉ (renderIn template scopes).toList := by
  induction template generalizing scopes with
  | empty => exact List.not_mem_nil
  | text content span rest ih =>
    rw [renderIn, String.toList_append, List.mem_append, not_or]
    exact ⟨h.1, ih h.2 hscopes⟩
  | identifier name span rest ih =>
    rw [renderIn, String.toList_append, List.mem_append, not_or]
    refine ⟨?_, ih h hscopes⟩
    cases hvalue : resolve scopes name with
    | none => exact List.not_mem_nil
    | some value => exact notMem_shown hflags (avoids_of_resolve hscopes hvalue)
  | block name span body rest ihBody ihRest =>
    rw [renderIn, String.toList_append, List.mem_append, not_or]
    refine ⟨notMem_join fun text htext => ?_, ihRest h.2 hscopes⟩
    obtain ⟨inner, hinner, rfl⟩ := List.mem_map.1 htext
    exact ihBody h.1 (avoids_of_blockScopes hscopes (fun value => avoids_of_resolve hscopes) hinner)

/-- A character that is neither in the template nor in the context nor in a flag is not in what the
template renders to. -/
theorem Avoids.notMem_render (hflags : ∀ flag, c ∉ (shown (.bool flag)).toList)
    {template : Template} (h : template.Avoids c) {context : Context}
    (hcontext : context.Avoids c) :
    c ∉ (template.render context).toList := by
  refine h.notMem_renderIn hflags fun scope hscope => ?_
  obtain rfl := List.mem_singleton.1 hscope
  exact hcontext

end Template

end TemplateCodegen
