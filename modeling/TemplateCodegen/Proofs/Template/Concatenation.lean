import TemplateCodegen.Template.Render
import TemplateCodegen.Proofs.Template.Nesting

/-!
# Templates are composed by concatenation

Where two texts meet, neighbouring literal text becomes one stretch, and nothing else changes: a tag
that can be read is closed, so it takes nothing from the text behind it, and two opening braces meet
at the seam only when each text brings one. What a template renders to depends on the kinds of its
nodes, with neighbouring texts merged, and not on their places. Main statement: two texts that are
read as templates are read as one when they are put one behind the other, and it renders to what
they render to; a text in which no tag begins renders to itself (`parse_append`).
-/

namespace TemplateCodegen.Template

/-- Put a stretch in front of stretches, as part of the first one when both are literal. -/
def Stretch.join : Stretch → List Stretch → List Stretch
  | .literal content, rest => joinLiteral content rest
  | .tag content, rest => .tag content :: rest

/-- The tag has its two closing braces. -/
def Closed (tag : List Char) : Prop := (tagBody? tag).isSome = true

/-- What a stretch is read as. -/
def Stretch.readKind : Stretch → Except FaultCause PieceKind
  | .literal content => .ok (.text (String.ofList content))
  | .tag content => readTag content

/-- Put a kind of piece in front of others, as part of the first one when both are literal text. -/
def PieceKind.join : PieceKind → List PieceKind → List PieceKind
  | .text content, .text more :: rest => .text (content ++ more) :: rest
  | kind, rest => kind :: rest

/-- Put literal text in front of nodes, as part of the first one when that is literal text. -/
def joinText (content : String) (span : Span) : Template → Template
  | .text more span' rest => .text (content ++ more) ⟨span.start, span'.stop⟩ rest
  | rest => .text content span rest

/-- The template with neighbouring literal texts merged, at every depth. -/
def merged : Template → Template
  | .empty => .empty
  | .text content span rest => joinText content span rest.merged
  | .identifier name span rest => .identifier name span rest.merged
  | .block name span body rest => .block name span body.merged rest.merged

/-- The same nodes at other places. -/
inductive Alike : Template → Template → Prop where
  /-- No nodes. -/
  | empty : Alike .empty .empty
  /-- The same literal text. -/
  | text {one other : Template} (content : String) (span span' : Span) (hrest : Alike one other) :
      Alike (.text content span one) (.text content span' other)
  /-- The same placeholder. -/
  | identifier {one other : Template} (name : String) (span span' : Span)
      (hrest : Alike one other) : Alike (.identifier name span one) (.identifier name span' other)
  /-- The same section. -/
  | block {body body' one other : Template} (name : String) (span span' : Span)
      (hbody : Alike body body') (hrest : Alike one other) :
      Alike (.block name span body one) (.block name span' body' other)

/-! ### Cutting at a seam -/

/-- No tag begins in the literal beginning, nor at its end. -/
theorem cutLiteral_tagless (cs : List Char) :
    ¬ ['{', '{'] <:+: (cutLiteral cs).1 ++ (cutLiteral cs).2.take 1 := by
  rintro ⟨before, after, h⟩
  have hcs : cs = before ++ '{' :: '{' :: (after ++ (cutLiteral cs).2.drop 1) := by
    conv_lhs => rw [← cutLiteral_append cs, ← List.take_append_drop 1 (cutLiteral cs).2,
      ← List.append_assoc, ← h]
    simp
  have hbefore := (cutLiteral_isPrefix hcs).length_le
  have hlength := congrArg List.length h
  have htake := List.length_take_le 1 (cutLiteral cs).2
  simp only [List.length_append, List.length_cons, List.length_nil] at hlength
  omega

/-- A tag that is closed takes nothing from the text behind it. -/
theorem cutTag_append_of_closed {cs body : List Char} (h : (cutTag cs).1 = body ++ ['}', '}'])
    (behind : List Char) :
    cutTag (cs ++ behind) = ((cutTag cs).1, (cutTag cs).2 ++ behind) := by
  fun_induction cutTag cs generalizing body with
  | case1 => simp at h
  | case2 rest => rfl
  | case3 rest _ =>
    have hlength := congrArg List.length h
    simp at hlength
  | case4 c rest _ hc ih =>
    have hc' : ∀ more, c = '}' → rest ++ behind = '}' :: more → False := fun _ h => (hc h).elim
    cases body with
    | nil => exact absurd (List.cons.inj h).1 hc
    | cons d body =>
      rw [List.cons_append, cutTag.eq_4 c (rest ++ behind) hc' hc, ih (List.cons.inj h).2]

/-- With a text behind, no tag begins in the literal beginning either. -/
theorem cutLiteral_append_tagless {cs other : List Char}
    (hseam : ¬ (['{'] <:+ cs ∧ ['{'] <+: other)) :
    ¬ ['{', '{'] <:+: (cutLiteral cs).1 ++ ((cutLiteral cs).2 ++ other).take 1 := by
  have hfree := cutLiteral_tagless cs
  have hsplit := cutLiteral_append cs
  rcases cutLiteral_snd cs with hnil | ⟨after, hafter⟩
  · -- the whole text is literal, so that the seam is its end
    rw [hnil, List.append_nil] at hsplit
    rw [hnil, hsplit] at hfree ⊢
    exact tagless_append_take (by simpa using hfree) hseam
  · rw [hafter] at hfree ⊢
    exact hfree

/-! ### Stretches of two texts -/

/-- The stretches of two texts, one behind the other, are those of each text, joined at the seam. -/
theorem stretches_append_of_closed {one other : List Char}
    (hclosed : ∀ tag, .tag tag ∈ stretches one → Closed tag)
    (hseam : ¬ (['{'] <:+ one ∧ ['{'] <+: other)) :
    stretches (one ++ other) = (stretches one).foldr Stretch.join (stretches other) := by
  fun_induction stretches one with
  | case1 => rfl
  | case2 rest ih =>
    obtain ⟨body, hbody⟩ := Option.isSome_iff_exists.1 (hclosed _ List.mem_cons_self)
    have hcut := cutTag_append_of_closed (tagBody?_eq_some_iff.1 hbody) other
    have hsuffix : (cutTag rest).2 <:+ '{' :: '{' :: rest :=
      ⟨'{' :: '{' :: (cutTag rest).1, by simp [cutTag_append]⟩
    have hbehind := ih (fun tag htag => hclosed tag (List.mem_cons_of_mem _ htag))
      fun h => hseam ⟨h.1.trans hsuffix, h.2⟩
    rw [List.cons_append, List.cons_append, stretches, hcut, hbehind]
    rfl
  | case3 c rest hnext ih =>
    have hfree := cutLiteral_append_tagless hseam
    have hsplit := cutLiteral_append (c :: rest)
    rw [cutLiteral.eq_3 c rest hnext] at hfree hsplit
    have hbehind := ih (fun tag htag => hclosed tag (List.mem_cons_of_mem _ htag))
      fun h => hseam ⟨h.1.trans ⟨_, hsplit⟩, h.2⟩
    conv_lhs => rw [← hsplit, List.append_assoc]
    rw [stretches_append_of_tagless (List.cons_ne_nil _ _) hfree, hbehind]
    rfl

/-- The stretches of a text do not join any further. -/
theorem foldr_join_stretches {cs : List Char}
    (hclosed : ∀ tag, .tag tag ∈ stretches cs → Closed tag) :
    (stretches cs).foldr Stretch.join [] = stretches cs := by
  have h : stretches (cs ++ []) = (stretches cs).foldr Stretch.join (stretches []) :=
    stretches_append_of_closed hclosed fun h => absurd h.2 (by simp)
  rw [List.append_nil, stretches] at h
  exact h.symm

/-! ### Kinds of stretches -/

/-- A tag is not read as literal text. -/
theorem readTag_ne_text {tag : List Char} (content : String) :
    readTag tag ≠ .ok (.text content) := by
  intro h
  obtain ⟨body, -, -, hkind⟩ := readTag_eq_ok.1 h
  obtain ⟨mark, rest, make, hmark, -, hmake, -⟩ := exists_splitSigil (Text.trim body)
  rw [hmake] at hkind
  cases hmark <;> exact nomatch hkind

/-- A tag that can be read is closed. -/
theorem closed_of_readTag {tag : List Char} {kind : PieceKind} (h : readTag tag = .ok kind) :
    Closed tag := by
  obtain ⟨body, hbody, -⟩ := readTag_eq_ok.1 h
  exact Option.isSome_iff_exists.2 ⟨body, hbody⟩

/-- Stretches leave no fault and give pieces of these kinds exactly when each is read as one. -/
theorem readStretches_iff (start : Nat) {all : List Stretch} {kinds : List PieceKind} :
    (readStretches start all).faults = [] ∧
        (readStretches start all).pieces.map Piece.kind = kinds ↔
      all.map Stretch.readKind = kinds.map .ok := by
  induction all generalizing start kinds with
  | nil => simp [readStretches, eq_comm]
  | cons stretch rest ih =>
    cases kinds with
    | nil =>
      cases stretch with
      | literal content => simp [readStretches]
      | tag content => cases hread : readTag content <;> simp [readStretches, hread]
    | cons kind kinds =>
      have hrest := @ih (start + byteLength stretch.content) kinds
      cases stretch with
      | literal content =>
        simp only [readStretches, Stretch.readKind, List.map_cons, List.cons.injEq, ← hrest,
          Except.ok.injEq]
        tauto
      | tag content =>
        cases hread : readTag content with
        | ok found =>
          simp only [readStretches, Stretch.readKind, hread, List.map_cons, List.cons.injEq,
            ← hrest, Except.ok.injEq]
          tauto
        | error cause => simp [readStretches, Stretch.readKind, hread]

/-- A kind that is no literal text is not joined to what stands behind it. -/
theorem PieceKind.join_of_ne_text (kind : PieceKind) (h : ∀ content, kind ≠ .text content)
    (kinds : List PieceKind) : kind.join kinds = kind :: kinds :=
  PieceKind.join.eq_2 kind kinds fun content _ _ hkind _ => h content hkind

/-- Nothing is joined to what does not begin with literal text. -/
theorem PieceKind.join_of_head_ne_text {kinds : List PieceKind}
    (h : ∀ content rest, kinds ≠ .text content :: rest) (kind : PieceKind) :
    kind.join kinds = kind :: kinds :=
  PieceKind.join.eq_2 kind kinds fun _ more rest _ hkinds => h more rest hkinds

/-- A stretch in front is read as what its kind is joined to. -/
theorem map_readKind_join {stretch : Stretch} {all : List Stretch} {kind : PieceKind}
    {kinds : List PieceKind} (h : stretch.readKind = .ok kind)
    (hall : all.map Stretch.readKind = kinds.map .ok) :
    (stretch.join all).map Stretch.readKind = (kind.join kinds).map .ok := by
  cases stretch with
  | tag content =>
    have hkind : ∀ text, kind ≠ .text text := fun text heq => readTag_ne_text text (heq ▸ h)
    rw [PieceKind.join_of_ne_text kind hkind, List.map_cons, ← hall, ← h]
    rfl
  | literal content =>
    obtain rfl := Except.ok.inj h
    match all, kinds, hall with
    | [], [], _ => rfl
    | .literal more :: all, kind :: kinds, hall =>
      obtain ⟨hmore, hrest⟩ := List.cons.inj hall
      obtain rfl := Except.ok.inj hmore
      change .ok (.text (String.ofList (content ++ more))) :: all.map Stretch.readKind = _
      rw [hrest, String.ofList_append]
      rfl
    | .tag more :: all, kind :: kinds, hall =>
      have hkind : ∀ text rest, kind :: kinds ≠ .text text :: rest := fun text rest heq =>
        readTag_ne_text text ((List.cons.inj hall).1.trans
          (congrArg Except.ok (List.cons.inj heq).1))
      rw [PieceKind.join_of_head_ne_text hkind, List.map_cons, ← hall]
      rfl

/-- Joined stretches are read as what their kinds are joined to. -/
theorem map_readKind_foldr {all : List Stretch} {kinds : List PieceKind}
    (h : all.map Stretch.readKind = kinds.map .ok) :
    (all.foldr Stretch.join []).map Stretch.readKind = (kinds.foldr PieceKind.join []).map .ok := by
  induction all generalizing kinds with
  | nil =>
    obtain rfl := List.map_eq_nil_iff.1 h.symm
    rfl
  | cons stretch rest ih =>
    cases kinds with
    | nil => exact nomatch h
    | cons kind kinds =>
      obtain ⟨hkind, hrest⟩ := List.cons.inj h
      exact map_readKind_join hkind (ih hrest)

/-! ### Section tags of joined kinds -/

/-- Joining to what stands behind changes no section tag. -/
theorem filterMap_bracket_join (kind : PieceKind) (kinds : List PieceKind) :
    (kind.join kinds).filterMap PieceKind.bracket? =
      (kind :: kinds).filterMap PieceKind.bracket? := by
  fun_cases PieceKind.join kind kinds with
  | case1 content more rest => rfl
  | case2 => rfl

/-- Joining changes no section tag. -/
theorem filterMap_bracket_foldr (kinds : List PieceKind) :
    (kinds.foldr PieceKind.join []).filterMap PieceKind.bracket? =
      kinds.filterMap PieceKind.bracket? := by
  induction kinds with
  | nil => rfl
  | cons kind rest ih =>
    rw [List.foldr_cons, filterMap_bracket_join, List.filterMap_cons, List.filterMap_cons, ih]

/-- Well-bracketed tags may follow each other. -/
theorem WellBracketed.append {one other : List Bracket} (hone : WellBracketed one)
    (hother : WellBracketed other) : WellBracketed (one ++ other) := by
  induction hone with
  | nil => exact hother
  | pair name hinner _ _ ih =>
    have h := WellBracketed.pair name hinner ih
    simpa using h

/-- The section tags of pieces are told by their kinds. -/
theorem brackets_eq (pieces : List Piece) :
    brackets pieces = (pieces.map Piece.kind).filterMap PieceKind.bracket? := by
  rw [List.filterMap_map]
  rfl

/-- A text is read as a template of these kinds exactly when its stretches are read as them and the
section tags among them are well-bracketed. -/
theorem exists_parse_iff {source : String} {kinds : List PieceKind} :
    (∃ template, parse source = .ok template ∧ template.flatten = kinds) ↔
      (stretches source.toList).map Stretch.readKind = kinds.map .ok ∧
        WellBracketed (kinds.filterMap PieceKind.bracket?) := by
  rw [← readStretches_iff 0]
  change _ ↔ ((tokenize source).faults = [] ∧ (tokenize source).pieces.map Piece.kind = kinds) ∧ _
  constructor
  · rintro ⟨template, hparse, rfl⟩
    obtain ⟨hfaults, hspells⟩ := parse_eq_ok_iff.1 hparse
    have hbrackets := hspells.wellBracketed
    rw [brackets_eq, ← hspells.flatten_eq] at hbrackets
    exact ⟨⟨hfaults, hspells.flatten_eq.symm⟩, hbrackets⟩
  · rintro ⟨⟨hfaults, rfl⟩, hbrackets⟩
    rw [← brackets_eq] at hbrackets
    obtain ⟨template, hspells⟩ := hbrackets.exists_spells rfl
    exact ⟨template, parse_eq_ok_iff.2 ⟨hfaults, hspells⟩, hspells.flatten_eq⟩

/-! ### Templates up to their places -/

/-- What is rendered does not depend on places. -/
theorem Alike.renderIn_eq {one other : Template} (h : Alike one other) (scopes : List Scope) :
    renderIn one scopes = renderIn other scopes := by
  induction h generalizing scopes with
  | empty => rfl
  | text content span span' _ ih => rw [renderIn, renderIn, ih]
  | identifier name span span' _ ih => rw [renderIn, renderIn, ih]
  | block name span span' _ _ ihbody ih =>
    rw [renderIn, renderIn, ih, funext ihbody]

/-- The kinds begin with no node: none is left, or a section is closed. -/
def Ends : List PieceKind → Prop
  | [] => True
  | .sectionClose _ :: _ => True
  | _ :: _ => False

/-- Nothing is left. -/
theorem Ends.nil : Ends [] := trivial

/-- A section is closed. -/
theorem Ends.closing (name : String) (rest : List PieceKind) : Ends (.sectionClose name :: rest) :=
  trivial

/-- A template is told by its kinds, up to the places of its nodes. -/
theorem alike_of_flatten_append {one other : Template} {behind behind' : List PieceKind}
    (h : one.flatten ++ behind = other.flatten ++ behind') (hbehind : Ends behind)
    (hbehind' : Ends behind') : Alike one other ∧ behind = behind' := by
  induction one generalizing other behind behind' with
  | empty =>
    replace h : behind = other.flatten ++ behind' := h
    subst h
    cases other with
    | empty => exact ⟨.empty, rfl⟩
    | text content span rest => exact hbehind.elim
    | identifier name span rest => exact hbehind.elim
    | block name span body rest => exact hbehind.elim
  | text content span rest ih =>
    cases other with
    | empty =>
      obtain rfl : _ = behind' := h
      exact hbehind'.elim
    | text content' span' rest' =>
      obtain ⟨hkind, hrest⟩ := List.cons.inj h
      obtain rfl := PieceKind.text.inj hkind
      obtain ⟨halike, heq⟩ := ih hrest hbehind hbehind'
      exact ⟨.text content span span' halike, heq⟩
    | identifier name span' rest' => exact nomatch (List.cons.inj h).1
    | block name span' body rest' => exact nomatch (List.cons.inj h).1
  | identifier name span rest ih =>
    cases other with
    | empty =>
      obtain rfl : _ = behind' := h
      exact hbehind'.elim
    | text content span' rest' => exact nomatch (List.cons.inj h).1
    | identifier name' span' rest' =>
      obtain ⟨hkind, hrest⟩ := List.cons.inj h
      obtain rfl := PieceKind.identifier.inj hkind
      obtain ⟨halike, heq⟩ := ih hrest hbehind hbehind'
      exact ⟨.identifier name span span' halike, heq⟩
    | block name' span' body rest' => exact nomatch (List.cons.inj h).1
  | block name span body rest ihbody ih =>
    cases other with
    | empty =>
      obtain rfl : _ = behind' := h
      exact hbehind'.elim
    | text content span' rest' => exact nomatch (List.cons.inj h).1
    | identifier name' span' rest' => exact nomatch (List.cons.inj h).1
    | block name' span' body' rest' =>
      simp only [flatten, List.cons_append, List.append_assoc] at h
      obtain ⟨hkind, htail⟩ := List.cons.inj h
      obtain rfl := PieceKind.sectionOpen.inj hkind
      -- behind its body, each section is closed
      obtain ⟨halike, hclose⟩ := ihbody htail (.closing name _) (.closing name _)
      obtain ⟨-, hrest⟩ := List.cons.inj hclose
      obtain ⟨halike', heq⟩ := ih hrest hbehind hbehind'
      exact ⟨.block name span span' halike halike', heq⟩

/-- Templates with the same kinds have the same nodes. -/
theorem alike_of_flatten_eq {one other : Template} (h : one.flatten = other.flatten) :
    Alike one other := by
  have happend : one.flatten ++ [] = other.flatten ++ [] := by rw [h]
  exact (alike_of_flatten_append happend .nil .nil).1

/-- The kinds of two templates in a row. -/
theorem flatten_append (one other : Template) :
    (one ++ other).flatten = one.flatten ++ other.flatten := by
  induction one with
  | empty => rfl
  | text content span rest ih => exact congrArg (_ :: ·) ih
  | identifier name span rest ih => exact congrArg (_ :: ·) ih
  | block name span body rest _ ih =>
    change .sectionOpen name :: body.flatten ++ .sectionClose name :: (rest ++ other).flatten = _
    rw [ih]
    simp [flatten]

/-! ### Merging neighbouring texts -/

/-- Literal text in front of a template is rendered in front of it. -/
theorem renderIn_joinText (content : String) (span : Span) (rest : Template)
    (scopes : List Scope) :
    renderIn (joinText content span rest) scopes = content ++ renderIn rest scopes := by
  cases rest with
  | text more span' rest => 
    rw [joinText, renderIn, renderIn, String.append_assoc]
  | empty => rfl
  | identifier name span' rest => rfl
  | block name span' body rest => rfl

/-- Merging neighbouring texts changes nothing that is rendered. -/
theorem renderIn_merged (template : Template) (scopes : List Scope) :
    renderIn template.merged scopes = renderIn template scopes := by
  induction template generalizing scopes with
  | empty => rfl
  | text content span rest ih => rw [merged, renderIn_joinText, renderIn, ih]
  | identifier name span rest ih => rw [merged, renderIn, renderIn, ih]
  | block name span body rest ihbody ih =>
    rw [merged, renderIn, renderIn, ih, funext ihbody]

/-- Literal text in front of nodes is joined to their kinds. -/
theorem flatten_joinText_append (content : String) (span : Span) (rest : Template)
    {behind : List PieceKind} (hbehind : Ends behind) :
    (joinText content span rest).flatten ++ behind =
      PieceKind.join (.text content) (rest.flatten ++ behind) := by
  cases rest with
  | empty =>
    have hhead : ∀ text tail, behind ≠ .text text :: tail := by
      rintro text tail rfl
      exact hbehind.elim
    exact (PieceKind.join_of_head_ne_text hhead _).symm
  | text more span' rest => rfl
  | identifier name span' rest => rfl
  | block name span' body rest => rfl

/-- Merged kinds are the kinds of the merged template. -/
theorem foldr_join_flatten (template : Template) {behind : List PieceKind} (hbehind : Ends behind) :
    template.flatten.foldr PieceKind.join behind = template.merged.flatten ++ behind := by
  induction template generalizing behind with
  | empty => rfl
  | text content span rest ih =>
    rw [merged, flatten_joinText_append _ _ _ hbehind, ← ih hbehind]
    rfl
  | identifier name span rest ih =>
    rw [flatten, List.foldr_cons, ih hbehind]
    rfl
  | block name span body rest ihbody ih =>
    have hclose : (PieceKind.sectionClose name).join (rest.merged.flatten ++ behind) =
        .sectionClose name :: (rest.merged.flatten ++ behind) := rfl
    rw [flatten, List.foldr_append, List.foldr_cons, List.foldr_cons, ih hbehind, hclose,
      ihbody (.closing name _)]
    simp [merged, flatten, PieceKind.join]

/-! ### Two texts in a row -/

/-- The tags of a text that is read as a template are closed. -/
theorem closed_of_map_readKind {all : List Stretch} {kinds : List PieceKind}
    (h : all.map Stretch.readKind = kinds.map .ok) {tag : List Char} (htag : .tag tag ∈ all) :
    Closed tag := by
  have hmem : Stretch.readKind (.tag tag) ∈ kinds.map .ok := by
    rw [← h]
    exact List.mem_map_of_mem htag
  obtain ⟨kind, -, hkind⟩ := List.mem_map.1 hmem
  exact closed_of_readTag hkind.symm

/-- The stretches of two texts in a row are read as the joined kinds of both. -/
theorem map_readKind_append {one other : List Char} {kinds kinds' : List PieceKind}
    (hone : (stretches one).map Stretch.readKind = kinds.map .ok)
    (hother : (stretches other).map Stretch.readKind = kinds'.map .ok)
    (hseam : ¬ (['{'] <:+ one ∧ ['{'] <+: other)) :
    (stretches (one ++ other)).map Stretch.readKind =
      ((kinds ++ kinds').foldr PieceKind.join []).map .ok := by
  have hstretches := stretches_append_of_closed (fun _ => closed_of_map_readKind hone) hseam
  rw [← foldr_join_stretches fun _ => closed_of_map_readKind hother, ← List.foldr_append]
    at hstretches
  rw [hstretches]
  refine map_readKind_foldr ?_
  rw [List.map_append, List.map_append, hone, hother]

/-- Two texts that are read as templates are read as one, up to places, in a row. -/
theorem exists_parse_append {one other : String} {template template' : Template}
    (hone : parse one = .ok template) (hother : parse other = .ok template')
    (hseam : ¬ (['{'] <:+ one.toList ∧ ['{'] <+: other.toList)) :
    ∃ whole, parse (one ++ other) = .ok whole ∧ Alike whole (template ++ template').merged := by
  obtain ⟨hread, hbrackets⟩ := exists_parse_iff.1 ⟨template, hone, rfl⟩
  obtain ⟨hread', hbrackets'⟩ := exists_parse_iff.1 ⟨template', hother, rfl⟩
  have hkinds : (template.flatten ++ template'.flatten).foldr PieceKind.join [] =
      (template ++ template').merged.flatten := by
    rw [← flatten_append, foldr_join_flatten _ .nil, List.append_nil]
  have hwhole : ∃ whole, parse (one ++ other) = .ok whole ∧
      whole.flatten = (template ++ template').merged.flatten := by
    rw [exists_parse_iff, String.toList_append, ← hkinds, filterMap_bracket_foldr,
      List.filterMap_append]
    exact ⟨map_readKind_append hread hread' hseam, hbrackets.append hbrackets'⟩
  obtain ⟨whole, hparse, hflatten⟩ := hwhole
  exact ⟨whole, hparse, alike_of_flatten_eq hflatten⟩

/-- A text in which no tag begins is literal. -/
theorem map_readKind_of_tagless {cs : List Char} (h : ¬ ['{', '{'] <:+: cs) (hne : cs ≠ []) :
    (stretches cs).map Stretch.readKind = [.ok (.text (String.ofList cs))] := by
  have hfree : ¬ ['{', '{'] <:+: cs ++ ([] : List Char).take 1 := by simpa using h
  have hstretches := stretches_append_of_tagless hne hfree
  rw [List.append_nil] at hstretches
  rw [hstretches, stretches]
  rfl

/-- A text in which no tag begins is read as one literal text, up to places. -/
theorem exists_parse_of_tagless {source : String} (h : ¬ ['{', '{'] <:+: source.toList)
    (hne : source.toList ≠ []) :
    ∃ template, parse source = .ok template ∧ Alike template (.text source ⟨0, 0⟩ .empty) := by
  have hread := map_readKind_of_tagless h hne
  rw [String.ofList_toList] at hread
  have hkinds : (stretches source.toList).map Stretch.readKind =
      [PieceKind.text source].map Except.ok := hread
  obtain ⟨template, hparse, hflatten⟩ := exists_parse_iff.2 ⟨hkinds, .nil⟩
  exact ⟨template, hparse, alike_of_flatten_eq hflatten⟩

/-- Templates compose by concatenation: two texts that are read as templates, of which not both
bring an opening brace to the seam, are read as one template when they are put one behind the other,
and it renders to what they render to, one behind the other. A text in which no tag begins is read
as a template, and it renders to itself. -/
theorem parse_append :
    (∀ (one other : String) (template template' : Template), parse one = .ok template →
      parse other = .ok template' → ¬ (['{'] <:+ one.toList ∧ ['{'] <+: other.toList) →
      ∃ whole, parse (one ++ other) = .ok whole ∧
        ∀ context, whole.render context = template.render context ++ template'.render context) ∧
    ∀ source : String, ¬ ['{', '{'] <:+: source.toList →
      ∃ template, parse source = .ok template ∧ ∀ context, template.render context = source := by
  constructor
  · intro one other template template' hone hother hseam
    obtain ⟨whole, hparse, halike⟩ := exists_parse_append hone hother hseam
    refine ⟨whole, hparse, fun context => ?_⟩
    rw [render, halike.renderIn_eq, renderIn_merged, renderIn_append]
    rfl
  · intro source hfree
    by_cases hempty : source = ""
    · subst hempty
      exact ⟨.empty, by decide +kernel, fun context => rfl⟩
    · have hne : source.toList ≠ [] := by simpa using hempty
      obtain ⟨template, hparse, halike⟩ := exists_parse_of_tagless hfree hne
      refine ⟨template, hparse, fun context => ?_⟩
      rw [render, halike.renderIn_eq, renderIn, renderIn, String.append_empty]

/-- A brace in front of the seam is literal text, and so is one behind an opening tag. -/
theorem parse_append_braces :
    (∃ whole, parse ("a\x7b\x7bx\x7d\x7d\x7b" ++ "b\x7b\x7b#s\x7d\x7d\x7d\x7b\x7b/s\x7d\x7d") =
        .ok whole ∧
      whole.render ⟨[("x", .text "y"), ("s", .bool true)]⟩ = "ay\x7bb\x7d") ∧
    ∃ template, parse "\x7b\x7d" = .ok template ∧ template.render ⟨[]⟩ = "\x7b\x7d" := by
  have hone : parse "a\x7b\x7bx\x7d\x7d\x7b" =
      .ok (.text "a" ⟨0, 1⟩ (.identifier "x" ⟨1, 6⟩ (.text "\x7b" ⟨6, 7⟩ .empty))) := by
    decide +kernel
  have hother : parse "b\x7b\x7b#s\x7d\x7d\x7d\x7b\x7b/s\x7d\x7d" =
      .ok (.text "b" ⟨0, 1⟩ (.block "s" ⟨1, 14⟩ (.text "\x7d" ⟨7, 8⟩ .empty) .empty)) := by
    decide +kernel
  obtain ⟨whole, hparse, hrender⟩ := parse_append.1 _ _ _ _ hone hother (by decide)
  obtain ⟨plain, hplain, hcontent⟩ := parse_append.2 "\x7b\x7d" (by decide)
  refine ⟨⟨whole, hparse, ?_⟩, plain, hplain, hcontent _⟩
  rw [hrender]
  decide +kernel

end TemplateCodegen.Template
