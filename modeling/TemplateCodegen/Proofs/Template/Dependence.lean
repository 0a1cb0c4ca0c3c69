import Mathlib.Data.List.Nodup
import Mathlib.Data.List.Perm.Basic
import TemplateCodegen.Template.Parse
import TemplateCodegen.Template.Render

/-!
# What a template reads of its context

Rendering looks up the first segments of the names that stand in a template, at whatever depth, and
further segments in the values found. Scopes that sections open are put in front of the context, so
that two contexts which agree on the first segments agree behind every such scope; a lone dot is
never looked up in a context at all. Main statement: contexts that have the same values under the
first segments render a template alike, in whatever order their entries stand and whatever other
entries they have (`render_eq_of_roots`).
-/

namespace TemplateCodegen

/-! ### Entries in another order -/

/-- Entries of distinct names have the same values in any order. -/
theorem lookup_eq_of_perm {one other : List (String × Value)} (h : one.Perm other)
    (hdistinct : (one.map Prod.fst).Nodup) (name : String) :
    one.lookup name = other.lookup name := by
  induction h with
  | nil => rfl
  | cons entry _ ih =>
    rw [List.lookup_cons, List.lookup_cons, ih (List.nodup_cons.1 hdistinct).2]
  | swap first second rest =>
    -- the two entries in front have different names, so that only one of them can be meant
    have hne : second.1 ≠ first.1 := fun heq =>
      (List.nodup_cons.1 hdistinct).1 (heq ▸ List.mem_cons_self)
    obtain ⟨firstName, firstValue⟩ := first
    obtain ⟨secondName, secondValue⟩ := second
    simp only [List.lookup_cons]
    by_cases hfirst : name = firstName
    · have hsecond : (name == secondName) = false :=
        beq_eq_false_iff_ne.2 fun heq => hne (heq.symm.trans hfirst)
      rw [hsecond]
    · rw [beq_eq_false_iff_ne.2 hfirst]
  | trans hone _ ihone ihother =>
    exact (ihone hdistinct).trans (ihother ((hone.map Prod.fst).nodup_iff.1 hdistinct))

namespace Template

/-! ### Names -/

/-- The segment of a name that is looked up in the scopes, the first one; none of a lone dot. -/
def rootOf? (name : String) : Option String :=
  if name = "." then none else (Text.splitText '.' name).head?

/-- The first segments of the names of placeholders and sections, at every depth and with
repetitions; a lone dot has none. -/
def roots : Template → List String
  | .empty => []
  | .text _ _ rest => rest.roots
  | .identifier name _ rest => (rootOf? name).toList ++ rest.roots
  | .block name _ body rest => (rootOf? name).toList ++ body.roots ++ rest.roots

/-! ### Chains of scopes -/

/-- A map in front of a chain is searched first. -/
theorem findSome?_named (entries : List (String × Value)) (scopes : List Scope) (name : String) :
    (.named entries :: scopes).findSome? (Scope.get? name) =
      (entries.lookup name).or (scopes.findSome? (Scope.get? name)) := by
  rw [List.findSome?_cons, Scope.get?]
  cases entries.lookup name <;> rfl

/-- Two chains of scopes have the same current element, and the same values under some names. -/
structure Agree (names : List String) (one other : List Scope) : Prop where
  /-- A lone dot is the same in both. -/
  element : currentElement? one = currentElement? other
  /-- The names have the same values in both. -/
  value : ∀ name ∈ names, one.findSome? (Scope.get? name) = other.findSome? (Scope.get? name)

namespace Agree

variable {names fewer : List String} {one other : List Scope}

/-- Chains that agree on some names agree on fewer. -/
theorem mono (h : Agree names one other) (hfewer : fewer ⊆ names) : Agree fewer one other where
  element := h.element
  value name hname := h.value name (hfewer hname)

/-- Chains that agree do so behind any scope. -/
theorem push (h : Agree names one other) (scope : Scope) :
    Agree names (scope :: one) (scope :: other) where
  element := by cases scope <;> rfl
  value name hname := by rw [List.findSome?_cons, List.findSome?_cons, h.value name hname]

/-- A name of which the chains agree on the first segment is resolved alike. -/
theorem resolve_eq (h : Agree names one other) {name : String}
    (hname : (rootOf? name).toList ⊆ names) : resolve one name = resolve other name := by
  unfold rootOf? at hname
  unfold resolve
  by_cases hdot : name = "."
  · rw [if_pos hdot, if_pos hdot]
    exact h.element
  · rw [if_neg hdot] at hname ⊢
    rw [if_neg hdot]
    cases hsegments : Text.splitText '.' name with
    | nil => rfl
    | cons first rest =>
      rw [hsegments] at hname
      have hfirst := h.value first (hname List.mem_cons_self)
      dsimp only
      rw [hfirst]

end Agree

/-- A function that does not tell two chains apart, behind any scope or by themselves, does not tell
apart the chains that a section makes of them. -/
theorem map_blockScopes_congr {α : Type} {f : List Scope → α} {one other : List Scope}
    (hself : f one = f other) (hpush : ∀ scope, f (scope :: one) = f (scope :: other))
    (value : Option Value) : (blockScopes one value).map f = (blockScopes other value).map f := by
  match value with
  | none => rfl
  | some (.list items) =>
    simp only [blockScopes, List.map_map]
    exact List.map_congr_left fun item _ => hpush (Scope.of item)
  | some (.bool true) => exact congrArg ([·]) hself
  | some (.bool false) => rfl
  | some (.text content) =>
    unfold blockScopes
    dsimp only
    split
    · exact congrArg ([·]) (hpush _)
    · rfl
  | some (.map entries) => exact congrArg ([·]) (hpush _)

/-- Chains that agree on the first segments of its names render a template alike. -/
theorem Agree.renderIn_eq {template : Template} {one other : List Scope}
    (h : Agree template.roots one other) : renderIn template one = renderIn template other := by
  induction template generalizing one other with
  | empty => rfl
  | text content span rest ih => rw [renderIn, renderIn, ih h]
  | identifier name span rest ih =>
    have hname := h.resolve_eq (List.subset_append_left (rootOf? name).toList rest.roots)
    have hrest := ih (h.mono (List.subset_append_right (rootOf? name).toList rest.roots))
    rw [renderIn, renderIn, hname, hrest]
  | block name span body rest ihbody ihrest =>
    rw [roots, List.append_assoc] at h
    have hname := h.resolve_eq (List.subset_append_left _ _)
    have hinside := h.mono (List.subset_append_right _ _)
    have hbody := hinside.mono (List.subset_append_left body.roots rest.roots)
    have hrest := ihrest (hinside.mono (List.subset_append_right body.roots rest.roots))
    have hblock := map_blockScopes_congr (f := renderIn body) (ihbody hbody)
      (fun scope => ihbody (hbody.push scope)) (resolve other name)
    rw [renderIn, renderIn, hname, hblock, hrest]

/-! ### Contexts -/

/-- Contexts with the same values under some names agree on these. -/
theorem agree_of_get? {names : List String} {one other : Context}
    (h : ∀ name ∈ names, one.get? name = other.get? name) :
    Agree names [.named one.entries] [.named other.entries] where
  element := rfl
  value name hname := by
    have hvalue : one.entries.lookup name = other.entries.lookup name := h name hname
    rw [findSome?_named, findSome?_named, hvalue]

/-- Contexts with the same values under the first segments of its names render a template alike. The
order of their entries does not matter, nor does what they have under other names. -/
theorem render_eq_of_roots (template : Template) :
    (∀ one other : Context, (∀ root ∈ template.roots, one.get? root = other.get? root) →
      template.render one = template.render other) ∧
    (∀ one other : Context, (one.entries.map Prod.fst).Nodup → one.entries.Perm other.entries →
      template.render one = template.render other) ∧
    ∀ (context : Context) (name : String) (value : Value), name ∉ template.roots →
      template.render (context.insert name value) = template.render context := by
  have hread : ∀ one other : Context, (∀ root ∈ template.roots, one.get? root = other.get? root) →
      template.render one = template.render other :=
    fun one other h => (agree_of_get? h).renderIn_eq
  refine ⟨hread, fun one other hdistinct hperm => ?_, fun context name value hname => ?_⟩
  · exact hread one other fun root _ => lookup_eq_of_perm hperm hdistinct root
  · refine hread _ context fun root hroot => ?_
    exact Context.lookup_insertEntry_of_ne (ne_of_mem_of_not_mem hroot hname) value context.entries

/-- The unit and the name of every row, one behind the other. -/
def inventory : Template :=
  .block "r" ⟨0, 35⟩ (.identifier "unit.short" ⟨6, 22⟩ (.text "/" ⟨22, 23⟩
    (.identifier "." ⟨23, 28⟩ (.text " " ⟨28, 29⟩ .empty)))) .empty

/-- Two rows, the second of which has a unit of its own. -/
def stock : Context :=
  ⟨[("r", .list [.text "rice", .map [("unit", .map [("short", .text "g")])]]),
    ("unit", .map [("short", .text "kg")])]⟩

/-- The inventory reads the rows and the unit; it is the same with these in the other order, and
with an entry under a name that stands in it behind a dot only. -/
theorem inventory_render_eq :
    parse "{{#r}}{{ unit.short }}/{{.}} {{/r}}" = .ok inventory ∧
      inventory.roots = ["r", "unit"] ∧
      inventory.render stock = "kg/rice g/ " ∧
      inventory.render ⟨stock.entries.reverse⟩ = inventory.render stock ∧
      inventory.render (stock.insert "short" (.text "t")) = inventory.render stock ∧
      inventory.render (stock.insert "short" (.text "t")) =
        inventory.render ⟨stock.entries.reverse⟩ := by
  obtain ⟨hread, horder, hothers⟩ := render_eq_of_roots inventory
  refine ⟨by decide +kernel, by decide +kernel, by decide +kernel, ?_, ?_, ?_⟩
  · exact (horder stock ⟨stock.entries.reverse⟩ (by decide) (List.reverse_perm _).symm).symm
  · exact hothers stock "short" (.text "t") (by decide +kernel)
  · exact hread _ _ (by decide +kernel)

end Template

end TemplateCodegen
