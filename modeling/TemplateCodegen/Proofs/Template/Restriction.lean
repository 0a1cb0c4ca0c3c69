import Mathlib.Data.List.Basic
import TemplateCodegen.Output.Collection
import TemplateCodegen.Proofs.Template.Distinct
import TemplateCodegen.Template.Parse

/-!
# What the restriction on global templates admits

A global file should hold the text of its children once and depend on nothing else. The check counts
placeholders and looks at the names at the top, so it also admits sections of the children's
content, whatever sections stand in them. Main statement: the check admits exactly the templates
that are nothing but text, or that have the children's content between two parts without
placeholders whose sections at the top are of the children's content; among those, the ones without
sections render to the children's content between two fixed texts (`globalRestriction_exact`).
-/

namespace TemplateCodegen

namespace Template

/-- The number of placeholders and sections, at every depth. -/
def markCount (template : Template) : Nat := template.identifierCount + template.blockCount

/-- The texts at the top, one behind the other. -/
def topText : Template → String
  | .empty => ""
  | .text content _ rest => content ++ rest.topText
  | .identifier _ _ rest => rest.topText
  | .block _ _ _ rest => rest.topText

/-- The template has neither placeholders nor sections. -/
def IsText (template : Template) : Prop := template.markCount = 0

/-- The template has no placeholders at any depth, and at the top no sections but those of the
children's content. -/
structure IsSectioned (template : Template) : Prop where
  /-- There are no placeholders. -/
  identifiers : template.identifierCount = 0
  /-- Every section at the top is of the children's content. -/
  names : ∀ name ∈ template.topNames, name = childContent

/-- The template is nothing but text, or the children's content stands in it at the top, between two
parts of a certain form. -/
inductive Frames (part : Template → Prop) : Template → Prop where
  /-- Nothing but text. -/
  | text {template : Template} (h : template.IsText) : Frames part template
  /-- The children's content between two parts. -/
  | around {before after : Template} (span : Span) (hbefore : part before) (hafter : part after) :
    Frames part (before ++ .identifier childContent span after)

/-- In every context the template renders to the one text, or it renders to the children's content
between the two texts wherever that content is a text. -/
def RendersBetween (template : Template) (front behind : String) : Prop :=
  (∀ context, template.render context = front) ∨
    ∀ context content, context.get? childContent = some (.text content) →
      template.render context = front ++ content ++ behind

/-- Every global file of the template is its header and the one text, or its header and the text of
its children between the two texts. -/
def FilesBetween (template : Template) (front behind : String) : Prop :=
  (∀ (request : GlobalRequest) (rendered : List RenderedUsage), request.body = template →
    (request.artifact rendered).content = request.header ++ front) ∨
  ∀ (request : GlobalRequest) (rendered : List RenderedUsage), request.body = template →
    (request.artifact rendered).content =
      request.header ++ (front ++ childrenText rendered request.generatorName ++ behind)

/-! ### Parts put together -/

/-- The names at the top come one behind the other. -/
theorem topNames_append (one other : Template) :
    (one ++ other).topNames = one.topNames ++ other.topNames := by
  induction one with
  | empty => rfl
  | text content span rest ih => exact ih
  | identifier name span rest ih => exact congrArg (name :: ·) ih
  | block name span body rest _ ih => exact congrArg (name :: ·) ih

/-- Sections are counted over both parts. -/
theorem blockCount_append (one other : Template) :
    (one ++ other).blockCount = one.blockCount + other.blockCount := by
  induction one with
  | empty => exact (Nat.zero_add _).symm
  | text content span rest ih => exact ih
  | identifier name span rest ih => exact ih
  | block name span body rest _ ih =>
    change body.blockCount + (rest ++ other).blockCount + 1 =
      body.blockCount + rest.blockCount + 1 + other.blockCount
    omega

/-- A name stands at the top as a placeholder exactly when the template is made up of that
placeholder and two parts. -/
theorem hasTopIdentifier_iff {wanted : String} {template : Template} :
    template.hasTopIdentifier wanted = true ↔
      ∃ before span after, template = before ++ .identifier wanted span after := by
  constructor
  · intro h
    induction template with
    | empty => cases h
    | text content span rest ih =>
      obtain ⟨before, span', after, rfl⟩ := ih h
      exact ⟨.text content span before, span', after, rfl⟩
    | identifier name span rest ih =>
      rw [hasTopIdentifier, Bool.or_eq_true, beq_iff_eq] at h
      rcases h with rfl | hrest
      · exact ⟨.empty, span, rest, rfl⟩
      · obtain ⟨before, span', after, rfl⟩ := ih hrest
        exact ⟨.identifier name span before, span', after, rfl⟩
    | block name span body rest _ ih =>
      obtain ⟨before, span', after, rfl⟩ := ih h
      exact ⟨.block name span body before, span', after, rfl⟩
  · rintro ⟨before, span, after, rfl⟩
    induction before with
    | empty => exact Bool.or_eq_true_iff.2 (.inl (beq_self_eq_true wanted))
    | text content span' rest ih => exact ih
    | identifier name span' rest ih => exact Bool.or_eq_true_iff.2 (.inr ih)
    | block name span' body rest _ ih => exact ih

/-- Without names at the top there are no names at all. -/
theorem isText_iff {template : Template} : template.IsText ↔ template.topNames = [] := by
  unfold IsText markCount
  induction template with
  | empty => exact ⟨fun _ => rfl, fun _ => rfl⟩
  | text content span rest ih => exact ih
  | identifier name span rest ih =>
    refine ⟨fun h => ?_, nofun⟩
    rw [identifierCount] at h
    omega
  | block name span body rest _ ih =>
    refine ⟨fun h => ?_, nofun⟩
    rw [blockCount] at h
    omega

/-- Text has no sections of any name. -/
theorem IsText.isSectioned {template : Template} (h : template.IsText) : template.IsSectioned where
  identifiers := (Nat.add_eq_zero_iff.1 h).1
  names := by
    rw [isText_iff.1 h]
    exact nofun

/-! ### The check -/

/-- There are no distinct names exactly when there are no names at the top. -/
theorem identifiers_eq_nil_iff {template : Template} :
    template.identifiers = [] ↔ template.topNames = [] := by
  rw [identifiers]
  cases template.topNames <;> simp [distinct]

/-- A template with names at the top is admitted when they are all that of the children's content,
which stands there as the one placeholder. -/
theorem globalViolation?_eq_none_iff {template : Template} :
    globalViolation? template = none ↔ template.topNames = [] ∨
      (∀ name ∈ template.topNames, name = childContent) ∧
        template.hasTopIdentifier childContent = true ∧ template.identifierCount = 1 := by
  unfold globalViolation?
  split
  · rename_i hnil
    exact ⟨fun _ => .inl (identifiers_eq_nil_iff.1 hnil), fun _ => rfl⟩
  · rename_i name hsingle
    obtain ⟨hne, hall⟩ := distinct_eq_singleton_iff.1 hsingle
    rw [or_iff_right hne]
    by_cases hname : name = childContent
    · subst hname
      rw [if_neg (not_not.2 rfl), and_iff_right hall]
      by_cases halone : template.hasTopIdentifier childContent = true ∧ template.identifierCount = 1
      · rw [if_pos halone]
        exact iff_of_true rfl halone
      · rw [if_neg halone]
        exact iff_of_false (Option.some_ne_none _) halone
    · rw [if_pos hname]
      refine iff_of_false (Option.some_ne_none _) fun h => ?_
      obtain ⟨first, hfirst⟩ := List.exists_mem_of_ne_nil _ hne
      exact hname ((hall first hfirst).symm.trans (h.1 first hfirst))
  · rename_i hnil hsingle
    refine iff_of_false (Option.some_ne_none _) fun h => ?_
    rcases h with hnone | ⟨hall, htop, _⟩
    · exact hnil (identifiers_eq_nil_iff.2 hnone)
    · obtain ⟨before, span, after, rfl⟩ := hasTopIdentifier_iff.1 htop
      refine hsingle childContent (distinct_eq_singleton_iff.2 ⟨?_, hall⟩)
      rw [topNames_append]
      exact List.append_ne_nil_of_right_ne_nil _ (List.cons_ne_nil _ _)

/-- The admitted templates are those that frame the children's content by sections of it. -/
theorem globalViolation?_eq_none_iff_frames {template : Template} :
    globalViolation? template = none ↔ template.Frames IsSectioned := by
  rw [globalViolation?_eq_none_iff]
  constructor
  · rintro (hnil | ⟨hnames, htop, hcount⟩)
    · exact .text (isText_iff.2 hnil)
    · obtain ⟨before, span, after, rfl⟩ := hasTopIdentifier_iff.1 htop
      rw [topNames_append, List.forall_mem_append] at hnames
      rw [identifierCount_append, identifierCount] at hcount
      refine .around span ⟨by omega, hnames.1⟩ ⟨by omega, fun name hname => ?_⟩
      exact hnames.2 name (List.mem_cons_of_mem childContent hname)
  · rintro (htext | ⟨span, hbefore, hafter⟩)
    · exact .inl (isText_iff.1 htext)
    · refine .inr ⟨?_, hasTopIdentifier_iff.2 ⟨_, span, _, rfl⟩, ?_⟩
      · rw [topNames_append, List.forall_mem_append]
        exact ⟨hbefore.names, List.forall_mem_cons.2 ⟨rfl, hafter.names⟩⟩
      · rw [identifierCount_append, identifierCount, hbefore.identifiers, hafter.identifiers]

/-- The templates that frame the children's content by text are the admitted ones without sections.
-/
theorem frames_isText_iff {template : Template} :
    template.Frames IsText ↔ globalViolation? template = none ∧ template.blockCount = 0 := by
  rw [globalViolation?_eq_none_iff_frames]
  constructor
  · rintro (htext | ⟨span, hbefore, hafter⟩)
    · exact ⟨.text htext, (Nat.add_eq_zero_iff.1 htext).2⟩
    · refine ⟨.around span hbefore.isSectioned hafter.isSectioned, ?_⟩
      rw [blockCount_append, blockCount, (Nat.add_eq_zero_iff.1 hbefore).2,
        (Nat.add_eq_zero_iff.1 hafter).2]
  · rintro ⟨htext | @⟨before, after, span, hbefore, hafter⟩, hblocks⟩
    · exact .text htext
    · rw [blockCount_append, blockCount, Nat.add_eq_zero_iff] at hblocks
      exact .around span (Nat.add_eq_zero_iff.2 ⟨hbefore.identifiers, hblocks.1⟩)
        (Nat.add_eq_zero_iff.2 ⟨hafter.identifiers, hblocks.2⟩)

/-! ### Rendering -/

/-- Text is rendered as it stands. -/
theorem IsText.renderIn_eq {template : Template} (h : template.IsText) (scopes : List Scope) :
    renderIn template scopes = template.topText := by
  rw [isText_iff] at h
  induction template with
  | empty => rfl
  | text content span rest ih => exact congrArg (content ++ ·) (ih h)
  | identifier name span rest => cases h
  | block name span body rest => cases h

/-- The children's content is looked up as a whole. -/
theorem resolve_childContent (context : Context) :
    resolve [.named context.entries] childContent = context.get? childContent := by
  have hsegments : Text.splitText '.' childContent = [childContent] := by decide +kernel
  rw [resolve, if_neg (by decide), hsegments, Context.get?]
  cases hvalue : context.entries.lookup childContent <;> simp [Scope.get?, descend, hvalue]

/-- The children's content stands between what the two parts render to. -/
theorem render_around {context : Context} {content : String}
    (h : context.get? childContent = some (.text content)) (before : Template) (span : Span)
    (after : Template) :
    (before ++ .identifier childContent span after).render context =
      before.render context ++ content ++ after.render context := by
  rw [render, renderIn_append, renderIn, resolve_childContent, h, Option.map_some, shown,
    Option.getD_some, String.append_assoc]
  rfl

/-- When the children give no text, sections of their content are left out. -/
theorem IsSectioned.render_eq {template : Template} (h : template.IsSectioned) {context : Context}
    (hempty : context.get? childContent = some (.text "")) :
    template.render context = template.topText := by
  obtain ⟨hidentifiers, hnames⟩ := h
  unfold render
  induction template with
  | empty => rfl
  | text content span rest ih => exact congrArg (content ++ ·) (ih hidentifiers hnames)
  | identifier name span rest =>
    rw [identifierCount] at hidentifiers
    omega
  | block name span body rest _ ih =>
    obtain ⟨rfl, hrest⟩ := List.forall_mem_cons.1 hnames
    rw [identifierCount] at hidentifiers
    have hnone : blockScopes [.named context.entries]
        (resolve [.named context.entries] childContent) = [] := by
      rw [resolve_childContent, hempty]
      rfl
    rw [renderIn, hnone, ih (by omega) hrest, List.map_nil]
    exact String.empty_append

/-- What frames the children's content by text renders to it between two fixed texts. -/
theorem Frames.exists_rendersBetween {template : Template} (h : template.Frames IsText) :
    ∃ front behind, template.RendersBetween front behind := by
  obtain htext | @⟨before, after, span, hbefore, hafter⟩ := h
  · exact ⟨template.topText, "", .inl fun _ => htext.renderIn_eq _⟩
  · refine ⟨before.topText, after.topText, .inr fun context content hcontent => ?_⟩
    rw [render_around hcontent, render, render, hbefore.renderIn_eq, hafter.renderIn_eq]

/-- What renders to the children's content between two texts is filed as their text between them.
-/
theorem RendersBetween.filesBetween {template : Template} {front behind : String}
    (h : template.RendersBetween front behind) : template.FilesBetween front behind := by
  refine h.imp (fun hall => ?_) fun hall => ?_
  · rintro request rendered rfl
    exact congrArg (request.header ++ ·) (hall _)
  · rintro request rendered rfl
    exact congrArg (request.header ++ ·)
      (hall _ _ (Context.lookup_insertEntry_self _ _ request.context.entries))

end Template

open Template

/-- The check admits exactly the templates that frame the children's content by sections of it, and
of these the ones without sections are exactly those that frame it by text. A template that frames
it by text renders to it between two fixed texts, and its global files depend on their children and
on nothing else. In every admitted template with a placeholder the children's content stands once,
between what the two parts render to; where the children give no text, the sections are left out. -/
theorem globalRestriction_exact (template : Template) :
    (globalViolation? template = none ↔ template.Frames IsSectioned) ∧
    (template.Frames IsText ↔ globalViolation? template = none ∧ template.blockCount = 0) ∧
    (template.Frames IsText → ∃ front behind,
      template.RendersBetween front behind ∧ template.FilesBetween front behind) ∧
    (globalViolation? template = none → template.IsText ∨ ∃ before span after,
      template = before ++ .identifier childContent span after ∧
      ∀ context content, context.get? childContent = some (.text content) →
        template.render context = before.render context ++ content ++ after.render context ∧
        (content = "" → template.render context = before.topText ++ after.topText)) := by
  refine ⟨globalViolation?_eq_none_iff_frames, frames_isText_iff, fun h => ?_, fun h => ?_⟩
  · obtain ⟨front, behind, hrender⟩ := h.exists_rendersBetween
    exact ⟨front, behind, hrender, hrender.filesBetween⟩
  · obtain htext | @⟨before, after, span, hbefore, hafter⟩ :=
      globalViolation?_eq_none_iff_frames.1 h
    · exact .inl htext
    · refine .inr ⟨before, span, after, rfl, fun context content hcontent => ?_⟩
      have haround := render_around hcontent before span after
      refine ⟨haround, ?_⟩
      rintro rfl
      rw [haround, hbefore.render_eq hcontent, hafter.render_eq hcontent, String.append_empty]

/-- The children's content in brackets. -/
def bracketed : Template :=
  .text "[" ⟨0, 1⟩ (.identifier childContent ⟨1, 19⟩ (.text "]" ⟨19, 20⟩ .empty))

/-- The children's content in brackets is admitted, and renders to itself between two texts. -/
theorem bracketed_exact :
    parse "[{{ ChildContent }}]" = .ok bracketed ∧ bracketed.Frames IsText ∧
      (∃ front behind, bracketed.RendersBetween front behind ∧
        bracketed.FilesBetween front behind) ∧
      ∃ before span after, bracketed = before ++ .identifier childContent span after ∧
        bracketed.render (Context.empty.insertText childContent "") =
          before.topText ++ after.topText := by
  have hexact := globalRestriction_exact bracketed
  have hadmitted : globalViolation? bracketed = none := by decide +kernel
  have hframes := hexact.2.1.2 ⟨hadmitted, rfl⟩
  refine ⟨by decide +kernel, hframes, hexact.2.2.1 hframes, ?_⟩
  obtain htext | ⟨before, span, after, hparts, hrender⟩ := hexact.2.2.2 hadmitted
  · cases htext
  · exact ⟨before, span, after, hparts, (hrender _ "" rfl).2 rfl⟩

/-- The children's content, and behind it a section of it in which another section stands. -/
def sectioned : Template :=
  .identifier childContent ⟨0, 18⟩ (.block childContent ⟨18, 73⟩
    (.block "Extra" ⟨35, 56⟩ (.text "x" ⟨45, 46⟩ .empty) .empty) .empty)

/-- A section of the children's content is admitted behind them, although other names decide whether
it shows anything: no two texts are right in every context. -/
theorem sectioned_not_exact :
    parse ("\x7b\x7b ChildContent \x7d\x7d\x7b\x7b#ChildContent\x7d\x7d" ++
        "\x7b\x7b#Extra\x7d\x7dx\x7b\x7b/Extra\x7d\x7d\x7b\x7b/ChildContent\x7d\x7d") =
        .ok sectioned ∧
      globalViolation? sectioned = none ∧ ¬ sectioned.Frames IsText ∧
      ¬ ∃ front behind, sectioned.RendersBetween front behind := by
  have hadmitted : globalViolation? sectioned = none := by decide +kernel
  refine ⟨by decide +kernel, hadmitted, fun h => ?_, ?_⟩
  · exact absurd (frames_isText_iff.1 h).2 (by decide)
  rintro ⟨front, behind, hfixed | hfixed⟩
  · have hnothing := hfixed .empty
    have hchild := hfixed (Context.empty.insertText childContent "c")
    exact absurd (hnothing.trans hchild.symm) (by decide +kernel)
  · have hplain := hfixed (Context.empty.insertText childContent "c") "c" rfl
    have hextra := hfixed ((Context.empty.insertText childContent "c").insertText "Extra" "y") "c"
      rfl
    exact absurd (hplain.trans hextra.symm) (by decide +kernel)

end TemplateCodegen
