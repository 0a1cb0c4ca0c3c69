import TemplateCodegen.Proofs.Template.Dependence
import TemplateCodegen.Proofs.Template.Entries
import TemplateCodegen.Proofs.Template.Restriction

/-!
# Sections

A section renders its body behind the scope that its value opens. A map is searched before the
context, so that the body renders as in the context overridden by the entries of the map, whatever
sections stand in it (`block_extendsContext`). A lone dot names an element that is a text and none
that is a map: a section of it in a section of a list leaves the maps of the list out, and renders
like its body in the section of the list exactly when the body shows nothing of the maps
(`reopening_eq_iff`).
-/

namespace TemplateCodegen

/-! ### Contexts with the entries of a map -/

namespace Context

/-- The entries of a map inserted over those of a context. The first of several entries of a name
comes last, so that it stays, as it is the one that is found in the map. -/
def overriddenBy (context : Context) (entries : List (String × Value)) : Context :=
  entries.foldr (fun entry inner => inner.insert entry.1 entry.2) context

/-- A name has the value that the map has for it, or else the one that it had. -/
theorem get?_overriddenBy (context : Context) (entries : List (String × Value)) (name : String) :
    (context.overriddenBy entries).get? name = (entries.lookup name).or (context.get? name) := by
  induction entries with
  | nil => rfl
  | cons entry rest ih =>
    obtain ⟨known, value⟩ := entry
    change ((context.overriddenBy rest).insert known value).get? name = _
    rw [List.lookup_cons]
    by_cases hname : name = known
    · subst hname
      rw [get?_insert_self, beq_self_eq_true]
      rfl
    · rw [get?_insert_of_ne _ _ hname, ih, beq_eq_false_iff_ne.2 hname]

/-- When the names of the map are distinct, its entries may as well be inserted in their order. -/
theorem get?_insertAll {entries : List (String × Value)} (h : (entries.map Prod.fst).Nodup)
    (context : Context) (name : String) :
    (context.insertAll entries).get? name = (context.overriddenBy entries).get? name := by
  rw [get?_overriddenBy]
  induction entries generalizing context with
  | nil => rfl
  | cons entry rest ih =>
    obtain ⟨known, value⟩ := entry
    obtain ⟨hknown, hrest⟩ := List.nodup_cons.1 h
    change ((context.insert known value).insertAll rest).get? name = _
    rw [ih hrest, List.lookup_cons]
    by_cases hname : name = known
    · subst hname
      have hnone : rest.lookup name = none := List.lookup_eq_none_iff.2 fun other hother =>
        bne_iff_ne.2 fun heq => hknown (List.mem_map.2 ⟨other, hother, heq.symm⟩)
      rw [hnone, get?_insert_self, beq_self_eq_true]
      rfl
    · rw [get?_insert_of_ne _ _ hname, beq_eq_false_iff_ne.2 hname]

end Context

namespace Template

/-- The value that a name stands for in a context. -/
def valueIn (context : Context) (name : String) : Option Value :=
  resolve [.named context.entries] name

/-- A single text is joined to itself. -/
theorem join_singleton (text : String) : String.join [text] = text := by
  rw [String.join_cons, String.join_nil, String.append_empty]

/-- What a section of a name renders to in a context, by the value that the name has there: what its
body does, with other entries over those of the context. -/
structure ExtendsContext (context : Context) (name : String) (span : Span) (body : Template) :
    Prop where
  /-- With a map, the body is rendered once, with the entries of the map over the context. -/
  map (entries : List (String × Value)) (h : valueIn context name = some (.map entries)) :
    (block name span body .empty).render context = body.render (context.overriddenBy entries)
  /-- With a list of maps, it is rendered so for one map after the other. -/
  maps (rows : List (List (String × Value)))
    (h : valueIn context name = some (.list (rows.map .map))) :
    (block name span body .empty).render context =
      String.join (rows.map fun entries => body.render (context.overriddenBy entries))
  /-- With `true`, it is rendered once as it is. -/
  flag (h : valueIn context name = some (.bool true)) :
    (block name span body .empty).render context = body.render context
  /-- Without a value, and with `false`, an empty text or an empty list, it is left out. -/
  nothing (h : valueIn context name = none ∨ valueIn context name = some (.bool false) ∨
      valueIn context name = some (.text "") ∨ valueIn context name = some (.list [])) :
    (block name span body .empty).render context = ""
  /-- Nothing but text is repeated for every item of a list. -/
  repeated (htext : body.IsText) (items : List Value)
    (h : valueIn context name = some (.list items)) :
    (block name span body .empty).render context =
      String.join (List.replicate items.length body.topText)
  /-- Nothing but text stands once with any other value of which sections are rendered. -/
  once (htext : body.IsText) (value : Value) (h : valueIn context name = some value)
    (htruthy : value.isTruthy = true) (hlist : ∀ items, value ≠ .list items) :
    (block name span body .empty).render context = body.topText
  /-- When the names of a map are distinct, its entries may as well be inserted in their order. -/
  inserted (entries : List (String × Value)) (hdistinct : (entries.map Prod.fst).Nodup) :
    body.render (context.insertAll entries) = body.render (context.overriddenBy entries)

section Rendering

variable (context : Context) (name : String) (span : Span) (body : Template)

/-- A section in a context renders its body behind what its value opens. -/
theorem render_block :
    (block name span body .empty).render context =
      String.join ((blockScopes [.named context.entries] (valueIn context name)).map
        (renderIn body)) := by
  rw [render, renderIn, renderIn, String.append_empty]
  rfl

/-- A map in front of a context is like the context overridden by the entries of the map. -/
theorem renderIn_named (entries : List (String × Value)) :
    renderIn body [.named entries, .named context.entries] =
      body.render (context.overriddenBy entries) := by
  refine Agree.renderIn_eq ⟨rfl, fun root _ => ?_⟩
  rw [findSome?_named, findSome?_named, findSome?_named, List.findSome?_nil, Option.or_none,
    Option.or_none]
  exact (context.get?_overriddenBy entries root).symm

/-- Nothing but text is rendered alike behind all chains of scopes. -/
theorem IsText.join_map_renderIn {body : Template} (h : body.IsText) (chains : List (List Scope)) :
    String.join (chains.map (renderIn body)) =
      String.join (List.replicate chains.length body.topText) := by
  rw [← List.map_const', List.map_congr_left fun scopes _ => h.renderIn_eq scopes]

/-- A text with something in it opens itself. -/
theorem blockScopes_text {content : String} (h : content ≠ "") (scopes : List Scope) :
    blockScopes scopes (some (.text content)) = [.element (.text content) :: scopes] :=
  if_pos (bne_iff_ne.2 h)

/-- A value that is no list opens one chain of scopes when sections of it are rendered. -/
theorem length_blockScopes {value : Value} (htruthy : value.isTruthy = true)
    (hlist : ∀ items, value ≠ .list items) (scopes : List Scope) :
    (blockScopes scopes (some value)).length = 1 := by
  match value with
  | .list items => exact absurd rfl (hlist items)
  | .bool true => rfl
  | .map entries => rfl
  | .text content =>
    rw [blockScopes_text (bne_iff_ne.1 htruthy)]
    rfl

end Rendering

/-- Every section extends the context by what its name stands for there, whatever stands in its
body. -/
theorem block_extendsContext (context : Context) (name : String) (span : Span) (body : Template) :
    ExtendsContext context name span body where
  map entries h := by
    rw [render_block, h]
    exact (join_singleton _).trans (renderIn_named context body entries)
  maps rows h := by
    have hrows : (blockScopes [.named context.entries] (some (.list (rows.map .map)))).map
        (renderIn body) = rows.map fun entries => body.render (context.overriddenBy entries) := by
      rw [blockScopes, List.map_map, List.map_map]
      exact List.map_congr_left fun entries _ => renderIn_named context body entries
    rw [render_block, h, hrows]
  flag h := by
    rw [render_block, h]
    exact join_singleton _
  nothing h := by
    have hnone : blockScopes [.named context.entries] (valueIn context name) = [] := by
      rcases h with h | h | h | h <;> rw [h] <;> rfl
    rw [render_block, hnone]
    rfl
  repeated htext items h := by
    rw [render_block, h, htext.join_map_renderIn, blockScopes, List.length_map]
  once htext value h htruthy hlist := by
    rw [render_block, h, htext.join_map_renderIn, length_blockScopes htruthy hlist]
    exact join_singleton _
  inserted entries hdistinct :=
    (agree_of_get? fun root _ => context.get?_insertAll hdistinct root).renderIn_eq

/-- The name of every line of an order, and a mark for every tag. -/
def orderLine : Template :=
  .identifier "name" ⟨12, 20⟩ (.block "t" ⟨20, 33⟩ (.text "+" ⟨26, 27⟩ .empty)
    (.text ";" ⟨33, 34⟩ .empty))

/-- Two lines: one with a name of its own and one with tags. -/
def orderRows : List (List (String × Value)) :=
  [[("name", .text "tea")], [("t", .list [.text "new", .text "sale"])]]

/-- An order of these lines, and a name for those that have none. -/
def shop : Context :=
  ⟨[("name", .text "any"), ("o", .map [("lines", .list (orderRows.map .map))])]⟩

/-- The body is rendered once for every line, in the context overridden by the line. -/
theorem orderLine_extendsContext :
    parse "{{#o.lines}}{{name}}{{#t}}+{{/t}};{{/o.lines}}" =
        .ok (block "o.lines" ⟨0, 46⟩ orderLine .empty) ∧
      valueIn shop "o.lines" = some (.list (orderRows.map .map)) ∧
      (block "o.lines" ⟨0, 46⟩ orderLine .empty).render shop =
        String.join (orderRows.map fun entries => orderLine.render (shop.overriddenBy entries)) ∧
      (block "o.lines" ⟨0, 46⟩ orderLine .empty).render shop = "tea;any++;" := by
  have hrows : valueIn shop "o.lines" = some (.list (orderRows.map .map)) := by decide +kernel
  exact ⟨by decide +kernel, hrows,
    (block_extendsContext shop "o.lines" ⟨0, 46⟩ orderLine).maps orderRows hrows,
    by decide +kernel⟩

/-! ### The current element -/

/-- A section with nothing in it but a section of the current element around the body. -/
def reopening (name : String) (span inner : Span) (body : Template) : Template :=
  .block name span (.block "." inner body .empty) .empty

/-- An item that is a map or a text with something in it. -/
inductive IsElement : Value → Prop where
  /-- A map. -/
  | map (entries : List (String × Value)) : IsElement (.map entries)
  /-- A text that is not empty. -/
  | text (content : String) (h : content ≠ "") : IsElement (.text content)

/-- Leaving out some of the texts of a list makes the joined text no longer. -/
theorem length_join_map_filter_le {α : Type} (f : α → String) (p : α → Bool) (items : List α) :
    (String.join ((items.filter p).map f)).length ≤ (String.join (items.map f)).length := by
  induction items with
  | nil => exact Nat.le_refl _
  | cons first rest ih =>
    rw [List.map_cons, String.join_cons, String.length_append, List.filter_cons]
    split
    · rw [List.map_cons, String.join_cons, String.length_append]
      exact Nat.add_le_add_left ih _
    · exact Nat.le_trans ih (Nat.le_add_left _ _)

/-- It leaves the joined text as it is exactly when those texts are empty. -/
theorem join_map_filter_eq_iff {α : Type} (f : α → String) (p : α → Bool) (items : List α) :
    String.join ((items.filter p).map f) = String.join (items.map f) ↔
      ∀ item ∈ items, p item = false → f item = "" := by
  induction items with
  | nil => exact iff_of_true rfl nofun
  | cons first rest ih =>
    rw [List.map_cons, String.join_cons, List.forall_mem_cons, ← ih]
    cases hfirst : p first with
    | true =>
      rw [List.filter_cons_of_pos hfirst, List.map_cons, String.join_cons, String.append_right_inj]
      exact (and_iff_right nofun).symm
    | false =>
      rw [List.filter_cons_of_neg (by rw [hfirst]; exact Bool.false_ne_true)]
      constructor
      · intro h
        -- what is left is no longer than the rest, so that there is no room for the first text
        have hle := length_join_map_filter_le f p rest
        rw [h, String.length_append] at hle
        have hempty : f first = "" := String.length_eq_zero_iff.1 (by omega)
        rw [hempty, String.empty_append] at h
        exact ⟨fun _ => hempty, h⟩
      · rintro ⟨hempty, hrest⟩
        rw [hempty rfl, String.empty_append, hrest]

/-- What the body renders to with an item in front of a context. -/
def itemText (context : Context) (body : Template) (item : Value) : String :=
  renderIn body [Scope.of item, .named context.entries]

section Reopening

variable {context : Context} {name : String} {items : List Value}

/-- A section of a list renders its body with one item after the other in front of the context. -/
theorem render_block_list (hlist : valueIn context name = some (.list items)) (span : Span)
    (body : Template) :
    (block name span body .empty).render context =
      String.join (items.map (itemText context body)) := by
  rw [render_block, hlist, blockScopes, List.map_map]
  rfl

/-- Behind an element that is a text, a section of the current element renders its body with the
element in front once more, which changes nothing; behind a map it is left out. -/
theorem itemText_reopened {item : Value} (h : IsElement item) (inner : Span) (body : Template) :
    itemText context (.block "." inner body .empty) item =
      if item.text?.isSome then itemText context body item else "" := by
  unfold itemText
  rw [renderIn, renderIn, String.append_empty, resolve, if_pos rfl]
  cases h with
  | map entries => rfl
  | text content hne =>
    have hagree : Agree body.roots
        [.element (.text content), .element (.text content), .named context.entries]
        [.element (.text content), .named context.entries] := ⟨rfl, fun _ _ => rfl⟩
    change String.join ((blockScopes _ (some (.text content))).map (renderIn body)) = _
    rw [blockScopes_text hne]
    exact (join_singleton _).trans hagree.renderIn_eq

/-- A section of the current element in a section of a list of elements renders its body for those
that are texts, one after the other. That is what the body renders to in the section of the list
exactly when the body shows nothing in the context overridden by any of the maps. -/
theorem reopening_eq_iff (hlist : valueIn context name = some (.list items))
    (hitems : ∀ item ∈ items, IsElement item) (span inner : Span) (body : Template) :
    (reopening name span inner body).render context =
        String.join ((items.filter fun item => item.text?.isSome).map (itemText context body)) ∧
      ((reopening name span inner body).render context =
          (block name span body .empty).render context ↔
        ∀ entries, .map entries ∈ items → body.render (context.overriddenBy entries) = "") := by
  have hreopened : (reopening name span inner body).render context =
      String.join ((items.filter fun item => item.text?.isSome).map (itemText context body)) := by
    -- what stands for the maps is empty, so that they may be left out of the list
    have htexts := (join_map_filter_eq_iff (itemText context (.block "." inner body .empty))
      (fun item => item.text?.isSome) items).2 fun item hitem hmap => by
        rw [itemText_reopened (hitems item hitem), hmap, if_neg Bool.false_ne_true]
    rw [reopening, render_block_list hlist, ← htexts]
    refine congrArg String.join (List.map_congr_left fun item hitem => ?_)
    obtain ⟨hmem, htext⟩ := List.mem_filter.1 hitem
    rw [itemText_reopened (hitems item hmem), if_pos htext]
  refine ⟨hreopened, ?_⟩
  rw [hreopened, render_block_list hlist, join_map_filter_eq_iff]
  constructor
  · intro h entries hentries
    exact (renderIn_named context body entries).symm.trans (h _ hentries rfl)
  · intro h item hitem hmap
    cases hitems item hitem with
    | map entries => exact (renderIn_named context body entries).trans (h entries hitem)
    | text content hne => cases hmap

end Reopening

/-- A context with a list of a text and a map. -/
def mixed : Context := ⟨[("x", .list [.text "a", .map [("n", .text "1")]])]⟩

/-- The items of the list are elements. -/
theorem isElement_of_mem_mixed :
    ∀ item ∈ [.text "a", .map [("n", .text "1")]], IsElement item := by
  intro item hitem
  rcases List.mem_cons.1 hitem with rfl | hitem
  · exact .text "a" (by decide)
  · rw [List.mem_singleton.1 hitem]
    exact .map _

/-- A body that shows the current element shows nothing of the map, so that it may be rendered in a
section of the current element. -/
theorem reopening_eq_mixed :
    parse "{{#x}}{{#.}}{{.}}{{/.}}{{/x}}" =
        .ok (reopening "x" ⟨0, 29⟩ ⟨6, 23⟩ (.identifier "." ⟨12, 17⟩ .empty)) ∧
      (reopening "x" ⟨0, 29⟩ ⟨6, 23⟩ (.identifier "." ⟨12, 17⟩ .empty)).render mixed =
        (block "x" ⟨0, 29⟩ (.identifier "." ⟨12, 17⟩ .empty) .empty).render mixed ∧
      (block "x" ⟨0, 29⟩ (.identifier "." ⟨12, 17⟩ .empty) .empty).render mixed = "a" := by
  have hlist : valueIn mixed "x" = some (.list [.text "a", .map [("n", .text "1")]]) := by
    decide +kernel
  obtain ⟨-, heq⟩ := reopening_eq_iff hlist isElement_of_mem_mixed ⟨0, 29⟩ ⟨6, 23⟩
    (.identifier "." ⟨12, 17⟩ .empty)
  exact ⟨by decide +kernel, heq.2 fun entries _ => rfl, by decide +kernel⟩

/-- A body of text is shown for the map as well, but not in a section of the current element. -/
theorem reopening_ne_mixed :
    parse "{{#x}}{{#.}}y{{/.}}{{/x}}" =
        .ok (reopening "x" ⟨0, 25⟩ ⟨6, 19⟩ (.text "y" ⟨12, 13⟩ .empty)) ∧
      valueIn mixed "x" = some (.list [.text "a", .map [("n", .text "1")]]) ∧
      (∀ item ∈ [.text "a", .map [("n", .text "1")]], IsElement item) ∧
      (reopening "x" ⟨0, 25⟩ ⟨6, 19⟩ (.text "y" ⟨12, 13⟩ .empty)).render mixed = "y" ∧
      (block "x" ⟨0, 25⟩ (.text "y" ⟨12, 13⟩ .empty) .empty).render mixed = "yy" ∧
      (reopening "x" ⟨0, 25⟩ ⟨6, 19⟩ (.text "y" ⟨12, 13⟩ .empty)).render mixed ≠
        (block "x" ⟨0, 25⟩ (.text "y" ⟨12, 13⟩ .empty) .empty).render mixed :=
  ⟨by decide +kernel, by decide +kernel, isElement_of_mem_mixed, by decide +kernel,
    by decide +kernel, by decide +kernel⟩

end Template

end TemplateCodegen
