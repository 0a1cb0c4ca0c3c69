import TemplateCodegen.Template.Parse
import TemplateCodegen.Proofs.Template.Tokenizing
import Mathlib.Data.List.Basic

/-!
# Templates are read from well-bracketed pieces

A template spells out pieces: those of its nodes in order, a section with its opening tag in front
of its body and its closing tag behind. Main statement: a text is read as a template exactly when
its tags can be read and its section tags are well-bracketed, and then the template spells out the
pieces of the text, with every span in its place (`parse_exact`).
-/

namespace TemplateCodegen.Template

/-- A section tag, by the name in it. -/
inductive Bracket where
  | opening (name : String)
  | closing (name : String)
deriving DecidableEq, Repr

/-- The section tag among the pieces, when it is one. -/
def PieceKind.bracket? : PieceKind → Option Bracket
  | .sectionOpen name => some (.opening name)
  | .sectionClose name => some (.closing name)
  | .text _ | .identifier _ => none

/-- The section tags among pieces, in order. -/
def brackets (pieces : List Piece) : List Bracket :=
  pieces.filterMap fun piece => piece.kind.bracket?

/-- Every closing tag has the name of the opening tag that it matches. -/
inductive WellBracketed : List Bracket → Prop where
  /-- No tags. -/
  | nil : WellBracketed []
  /-- A pair of tags with what stands between them, and what follows. -/
  | pair {inner rest : List Bracket} (name : String) (hinner : WellBracketed inner)
      (hrest : WellBracketed rest) :
      WellBracketed (.opening name :: inner ++ .closing name :: rest)

/-- The kinds of piece that the nodes come from, in order, a section with its opening tag in front
of its body and its closing tag behind. -/
def flatten : Template → List PieceKind
  | .empty => []
  | .text content _ rest => .text content :: rest.flatten
  | .identifier name _ rest => .identifier name :: rest.flatten
  | .block name _ body rest =>
    .sectionOpen name :: body.flatten ++ .sectionClose name :: rest.flatten

/-- The spans of the nodes at the top. -/
def spans : Template → List Span
  | .empty => []
  | .text _ span rest => span :: rest.spans
  | .identifier _ span rest => span :: rest.spans
  | .block _ span _ rest => span :: rest.spans

/-- A template comes from pieces, node by node. A section's span goes from the start of its opening
tag to the end of its closing tag; `within` holds of the spans of the two tags and the body. -/
inductive Spells (within : (opening closing : Span) → Template → Prop) :
    Template → List Piece → Prop where
  /-- No nodes come from no pieces. -/
  | empty : Spells within .empty []
  /-- Literal text stands where its piece does. -/
  | text {rest : Template} {pieces : List Piece} (content : String) (span : Span)
      (hrest : Spells within rest pieces) :
      Spells within (.text content span rest) (⟨.text content, span⟩ :: pieces)
  /-- A placeholder stands where its piece does. -/
  | identifier {rest : Template} {pieces : List Piece} (name : String) (span : Span)
      (hrest : Spells within rest pieces) :
      Spells within (.identifier name span rest) (⟨.identifier name, span⟩ :: pieces)
  /-- A section stands from its opening to its closing tag. -/
  | block {body rest : Template} {inner pieces : List Piece} (name : String)
      (opening closing : Span) (hwithin : within opening closing body)
      (hbody : Spells within body inner) (hrest : Spells within rest pieces) :
      Spells within (.block name ⟨opening.start, closing.stop⟩ body rest)
        (⟨.sectionOpen name, opening⟩ :: inner ++ ⟨.sectionClose name, closing⟩ :: pieces)

/-- The body tiles the bytes between the two tags of its section. -/
def Fills (opening closing : Span) (body : Template) : Prop :=
  Tiles opening.stop closing.start body.spans

/-- Nothing is asked of the body of a section. -/
def Anyhow (_ _ : Span) (_ : Template) : Prop := True

variable {within : (opening closing : Span) → Template → Prop} {template : Template}
  {pieces : List Piece}

/-! ### Templates and pieces -/

/-- The pieces of a template are of the kinds of its nodes. -/
theorem Spells.flatten_eq (h : Spells within template pieces) :
    template.flatten = pieces.map Piece.kind := by
  induction h with
  | empty => rfl
  | text content span _ ih => simp [flatten, ih]
  | identifier name span _ ih => simp [flatten, ih]
  | block name opening closing _ _ _ ihbody ihrest => simp [flatten, ihbody, ihrest]

/-- Section tags of pieces put together are put together. -/
theorem brackets_append (front behind : List Piece) :
    brackets (front ++ behind) = brackets front ++ brackets behind :=
  List.filterMap_append

/-- The section tags of a template are well-bracketed. -/
theorem Spells.wellBracketed (h : Spells within template pieces) :
    WellBracketed (brackets pieces) := by
  induction h with
  | empty => exact .nil
  | text content span _ ih => exact ih
  | identifier name span _ ih => exact ih
  | block name opening closing _ _ _ ihbody ihrest =>
    have h := WellBracketed.pair name ihbody ihrest
    simpa [brackets, List.filterMap_append, PieceKind.bracket?] using h

/-- When the pieces tile a range, the nodes at the top tile it, and every body fills its section. -/
theorem Spells.fills {start stop : Nat} (h : Spells within template pieces)
    (htiles : Tiles start stop (pieces.map Piece.span)) :
    Spells Fills template pieces ∧ Tiles start stop template.spans := by
  induction h generalizing start stop with
  | empty => exact ⟨.empty, htiles⟩
  | text content span _ ih =>
    obtain ⟨hstart, hlt, hrest⟩ := htiles
    obtain ⟨hspells, htop⟩ := ih hrest
    exact ⟨.text content span hspells, hstart, hlt, htop⟩
  | identifier name span _ ih =>
    obtain ⟨hstart, hlt, hrest⟩ := htiles
    obtain ⟨hspells, htop⟩ := ih hrest
    exact ⟨.identifier name span hspells, hstart, hlt, htop⟩
  | block name opening closing _ _ _ ihbody ihrest =>
    obtain ⟨hstart, hopening, htail⟩ := htiles
    rw [List.append_eq, List.map_append, List.map_cons] at htail
    obtain ⟨hinner, hclosing, hbehind⟩ := htail.split
    obtain ⟨hspells, hbody⟩ := ihbody hinner
    obtain ⟨hspells', htop⟩ := ihrest hbehind
    refine ⟨.block name opening closing hbody hspells hspells', hstart, ?_, htop⟩
    have hle : opening.stop ≤ closing.start := hbody.le
    have hopening : opening.start < opening.stop := hopening
    have hclosing : closing.start < closing.stop := hclosing
    have hlt : opening.start < closing.stop := by omega
    exact hlt

/-- Pieces other than section tags may stand in front. -/
theorem exists_spells_append {front : List Piece} (hfront : brackets front = [])
    (h : Spells within template pieces) :
    ∃ template, Spells within template (front ++ pieces) := by
  induction front with
  | nil => exact ⟨template, h⟩
  | cons piece front ih =>
    obtain ⟨kind, span⟩ := piece
    cases kind with
    | text content =>
      obtain ⟨rest, hrest⟩ := ih hfront
      exact ⟨_, .text content span hrest⟩
    | identifier name =>
      obtain ⟨rest, hrest⟩ := ih hfront
      exact ⟨_, .identifier name span hrest⟩
    | sectionOpen name => exact nomatch hfront
    | sectionClose name => exact nomatch hfront

/-- A section tag among the pieces stands behind pieces that are none. -/
theorem exists_of_brackets_eq_cons {bracket : Bracket} {rest : List Bracket}
    (h : brackets pieces = bracket :: rest) :
    ∃ front piece behind, pieces = front ++ piece :: behind ∧ brackets front = [] ∧
      piece.kind.bracket? = some bracket ∧ brackets behind = rest := by
  obtain ⟨front, piece, behind, hpieces, hfront, hpiece, hbehind⟩ :=
    List.filterMap_eq_cons_iff.1 h
  exact ⟨front, piece, behind, hpieces, List.filterMap_eq_nil_iff.2 hfront, hpiece, hbehind⟩

/-- Only an opening tag opens. -/
theorem eq_sectionOpen {kind : PieceKind} {name : String}
    (h : kind.bracket? = some (.opening name)) : kind = .sectionOpen name := by
  cases kind <;> simp_all [PieceKind.bracket?]

/-- Only a closing tag closes. -/
theorem eq_sectionClose {kind : PieceKind} {name : String}
    (h : kind.bracket? = some (.closing name)) : kind = .sectionClose name := by
  cases kind <;> simp_all [PieceKind.bracket?]

/-- Pieces whose section tags are well-bracketed are those of a template. -/
theorem WellBracketed.exists_spells {tags : List Bracket} (h : WellBracketed tags)
    (hpieces : brackets pieces = tags) : ∃ template, Spells Anyhow template pieces := by
  induction h generalizing pieces with
  | nil =>
    obtain ⟨template, hspells⟩ := exists_spells_append hpieces Spells.empty
    rw [List.append_nil] at hspells
    exact ⟨template, hspells⟩
  | pair name _ _ ihinner ihrest =>
    obtain ⟨front, ⟨kind, opening⟩, behind, rfl, hfront, hopen, hbehind⟩ :=
      exists_of_brackets_eq_cons hpieces
    obtain ⟨inner, tail, rfl, hinner, htail⟩ := List.filterMap_eq_append_iff.1 hbehind
    obtain ⟨plain, ⟨kind', closing⟩, rest, rfl, hplain, hclose, hrest⟩ :=
      exists_of_brackets_eq_cons htail
    obtain rfl := eq_sectionOpen hopen
    obtain rfl := eq_sectionClose hclose
    -- what stands between the tags is all that precedes the closing one
    have hbetween : brackets (inner ++ plain) = brackets inner := by
      rw [brackets_append, hplain, List.append_nil]
    obtain ⟨body, hbody⟩ := ihinner (hbetween.trans hinner)
    obtain ⟨behind, hspells⟩ := ihrest hrest
    obtain ⟨template, htemplate⟩ := exists_spells_append hfront
      (Spells.block name opening closing trivial hbody hspells)
    refine ⟨template, ?_⟩
    simpa using htemplate

/-! ### One pass over the pieces -/

/-- A result that was changed was a result. -/
theorem exists_of_map_eq_ok {α β ε : Type} {f : α → β} {result : Except ε α} {value : β}
    (h : result.map f = .ok value) : ∃ inner, result = .ok inner ∧ f inner = value := by
  cases result with
  | error err => exact nomatch h
  | ok inner => exact ⟨inner, rfl, Except.ok.inj h⟩

/-- The levels in front of a closing tag: nothing is left of the innermost one. -/
def Levels.ending (closing : Closing) {depth : Nat} (outer : Levels depth) : Levels (depth + 1) :=
  (⟨.empty, []⟩, closing, outer)

/-- Two changes of the innermost level are one. -/
theorem Levels.mapInnermost_mapInnermost (f g : Template → Template) {depth : Nat}
    (levels : Levels depth) :
    (levels.mapInnermost f).mapInnermost g = levels.mapInnermost (g ∘ f) := by
  cases depth with
  | zero => rfl
  | succ depth => rfl

/-- No change of the innermost level is none. -/
theorem Levels.mapInnermost_id {depth : Nat} (levels : Levels depth) :
    levels.mapInnermost id = levels := by
  cases depth with
  | zero => rfl
  | succ depth => rfl

/-- A section that is closed under its own name adds its block and no mismatch. -/
theorem Level.addBlock_matching (name : String) (opening closing : Span) (body : Template)
    (level : Level) :
    Level.addBlock ⟨name, opening⟩ ⟨name, closing⟩ ⟨body ++ Template.empty, []⟩ level =
      { level with nodes := .block name ⟨opening.start, closing.stop⟩ body level.nodes } := by
  have hmatch : mismatch ⟨name, opening⟩ ⟨name, closing⟩ = [] := if_pos rfl
  rw [Level.addBlock, hmatch, append_empty]
  rfl

/-- In front of its closing tag, a section that is closed under its own name is finished. -/
theorem Levels.close_ending {depth : Nat} (name : String) (opening closing : Span)
    (body : Template) (outer : Levels depth) :
    Levels.close ⟨name, opening⟩ ((Levels.ending ⟨name, closing⟩ outer).mapInnermost (body ++ ·)) =
      outer.mapInnermost (.block name ⟨opening.start, closing.stop⟩ body) := by
  cases depth with
  | zero => exact Level.addBlock_matching name opening closing body outer
  | succ depth =>
    obtain ⟨level, closing', outer⟩ := outer
    exact congrArg (·, closing', outer) (Level.addBlock_matching name opening closing body level)

/-- What stays to be done behind the pieces of a template is put behind its nodes. -/
theorem Spells.nest_append (h : Spells within template pieces) (opened : List Opening)
    (behind : List Piece) :
    nest opened (pieces ++ behind) =
      (nest opened behind).map (Levels.mapInnermost (template ++ ·)) := by
  induction h generalizing opened behind with
  | empty =>
    rw [List.nil_append]
    cases nest opened behind with
    | error fault => rfl
    | ok levels => exact congrArg Except.ok levels.mapInnermost_id.symm
  | text content span _ ih =>
    rw [List.cons_append, nest, ih]
    cases nest opened behind with
    | error fault => rfl
    | ok levels => exact congrArg Except.ok (levels.mapInnermost_mapInnermost _ _)
  | identifier name span _ ih =>
    rw [List.cons_append, nest, ih]
    cases nest opened behind with
    | error fault => rfl
    | ok levels => exact congrArg Except.ok (levels.mapInnermost_mapInnermost _ _)
  | @block body rest inner pieces name opening closing _ _ _ ihbody ihrest =>
    have hclosing : nest (⟨name, opening⟩ :: opened)
        (⟨.sectionClose name, closing⟩ :: (pieces ++ behind)) =
        (nest opened (pieces ++ behind)).map (Levels.ending ⟨name, closing⟩) := by
      rw [nest]
      rfl
    rw [List.cons_append, List.cons_append, List.append_assoc, List.cons_append, nest, ihbody,
      hclosing, ihrest]
    cases nest opened behind with
    | error fault => rfl
    | ok levels =>
      refine congrArg Except.ok ?_
      change Levels.close _ ((Levels.ending _ _).mapInnermost (body ++ ·)) = _
      rw [Levels.close_ending, Levels.mapInnermost_mapInnermost]
      rfl

/-- The nodes of a level come from the pieces, unless sections are closed under other names. -/
def Level.ComesFrom (level : Level) (pieces : List Piece) : Prop :=
  level.mismatches = [] → Spells Anyhow level.nodes pieces

/-- The levels come from the pieces: those up to the next closing tag make up the innermost level,
and the levels around it come from those behind. -/
def Levels.ComeFrom : {depth : Nat} → Levels depth → List Piece → Prop
  | 0, level, pieces => Level.ComesFrom level pieces
  | _ + 1, (level, closing, outer), pieces => ∃ inner behind,
      pieces = inner ++ ⟨.sectionClose closing.name, closing.span⟩ :: behind ∧
        level.ComesFrom inner ∧ outer.ComeFrom behind

/-- A node that comes from a piece is put in front together with it. -/
theorem Levels.ComeFrom.mapInnermost {f : Template → Template} {piece : Piece}
    (hf : ∀ template pieces, Spells Anyhow template pieces →
      Spells Anyhow (f template) (piece :: pieces))
    {depth : Nat} {levels : Levels depth} (h : levels.ComeFrom pieces) :
    (levels.mapInnermost f).ComeFrom (piece :: pieces) := by
  cases depth with
  | zero => exact fun hnone => hf _ _ (h hnone)
  | succ depth =>
    obtain ⟨level, closing, outer⟩ := levels
    obtain ⟨inner, behind, rfl, hlevel, houter⟩ := h
    exact ⟨piece :: inner, behind, rfl, fun hnone => hf _ _ (hlevel hnone), houter⟩

/-- A finished section is put in front together with its opening tag. -/
theorem Level.ComesFrom.addBlock {opening : Opening} {closing : Closing} {body level : Level}
    {inner : List Piece} (hbody : body.ComesFrom inner) (hlevel : level.ComesFrom pieces) :
    (Level.addBlock opening closing body level).ComesFrom
      (⟨.sectionOpen opening.name, opening.span⟩ :: inner ++
        ⟨.sectionClose closing.name, closing.span⟩ :: pieces) := by
  intro hnone
  obtain ⟨hnone, hlevels⟩ := List.append_eq_nil_iff.1 hnone
  obtain ⟨hmatch, hbodies⟩ := List.append_eq_nil_iff.1 hnone
  have hname : closing.name = opening.name := by
    by_contra hne
    exact List.cons_ne_nil _ _ ((if_neg hne).symm.trans hmatch)
  rw [hname]
  exact .block opening.name opening.span closing.span trivial (hbody hbodies) (hlevel hlevels)

/-- Finishing the innermost section takes its opening tag. -/
theorem Levels.ComeFrom.close {opening : Opening} {depth : Nat} {levels : Levels (depth + 1)}
    (h : levels.ComeFrom pieces) :
    (levels.close opening).ComeFrom (⟨.sectionOpen opening.name, opening.span⟩ :: pieces) := by
  cases depth with
  | zero =>
    obtain ⟨body, closing, level⟩ := levels
    obtain ⟨inner, behind, rfl, hbody, hlevel⟩ := h
    exact hbody.addBlock hlevel
  | succ depth =>
    obtain ⟨body, closing, level, outerClosing, outer⟩ := levels
    obtain ⟨inner, behind, rfl, hbody, between, rest, rfl, hlevel, houter⟩ := h
    refine ⟨_, rest, ?_, hbody.addBlock hlevel, houter⟩
    simp

/-- The levels that one pass builds come from its pieces. -/
theorem comeFrom_of_nest {opened : List Opening} {levels : Levels opened.length}
    (h : nest opened pieces = .ok levels) : levels.ComeFrom pieces := by
  fun_induction nest opened pieces with
  | case1 =>
    obtain rfl := Except.ok.inj h
    exact fun _ => .empty
  | case2 => exact nomatch h
  | case3 opened content span rest ih =>
    obtain ⟨inner, hinner, rfl⟩ := exists_of_map_eq_ok h
    exact (ih hinner).mapInnermost fun _ _ => .text content span
  | case4 opened name span rest ih =>
    obtain ⟨inner, hinner, rfl⟩ := exists_of_map_eq_ok h
    exact (ih hinner).mapInnermost fun _ _ => .identifier name span
  | case5 opened name span rest ih =>
    obtain ⟨inner, hinner, rfl⟩ := exists_of_map_eq_ok h
    exact (ih hinner).close
  | case6 => exact nomatch h
  | case7 opening opened name span rest ih =>
    obtain ⟨outer, houter, rfl⟩ := exists_of_map_eq_ok h
    exact ⟨[], rest, rfl, fun _ => .empty, ih houter⟩

/-- What is read when the sections nest. -/
theorem parse_of_nest {source : String} {level : Level}
    (h : nest [] (tokenize source).pieces = .ok level) {template : Template} :
    parse source = .ok template ↔
      (tokenize source).faults = [] ∧ level.mismatches = [] ∧ level.nodes = template := by
  rw [← and_assoc, ← List.append_eq_nil_iff]
  unfold parse
  simp only [h]
  cases (tokenize source).faults ++ level.mismatches with
  | nil => simp
  | cons fault faults => simp

/-- A text is read as a template exactly when no tag is at fault and the template comes from the
pieces. -/
theorem parse_eq_ok_iff {source : String} {template : Template} :
    parse source = .ok template ↔
      (tokenize source).faults = [] ∧ Spells Anyhow template (tokenize source).pieces := by
  constructor
  · intro h
    cases hnest : nest [] (tokenize source).pieces with
    | error fault =>
      unfold parse at h
      simp only [hnest] at h
      exact nomatch h
    | ok level =>
      obtain ⟨hfaults, hmatch, rfl⟩ := (parse_of_nest hnest).1 h
      have hcomes : Level.ComesFrom level (tokenize source).pieces := comeFrom_of_nest hnest
      exact ⟨hfaults, hcomes hmatch⟩
  · rintro ⟨hfaults, hspells⟩
    have hnest := hspells.nest_append [] []
    rw [List.append_nil] at hnest
    exact (parse_of_nest hnest).2 ⟨hfaults, rfl, append_empty template⟩

/-- Without faults, the pieces tile the bytes of the text. -/
theorem tiles_pieces {source : String} (h : (tokenize source).faults = []) :
    Tiles 0 source.utf8ByteSize ((tokenize source).pieces.map Piece.span) := by
  have hreads := reads_tokensOf source
  have hfaults := hreads.faults
  have htiles := hreads.tiles
  rw [h, List.filterMap_eq_nil_iff] at hfaults
  rw [← hreads.pieces]
  have hspans : ∀ tokens : List Token, (∀ token ∈ tokens, token.fault? = none) →
      (tokens.filterMap Token.piece?).map Piece.span = tokens.map Token.span := by
    intro tokens hnone
    induction tokens with
    | nil => rfl
    | cons token rest ih =>
      obtain ⟨hfirst, hrest⟩ := List.forall_mem_cons.1 hnone
      cases token with
      | piece read => exact congrArg (read.span :: ·) (ih hrest)
      | fault found => exact nomatch hfirst
  rw [hspans (tokensOf source) hfaults]
  exact htiles

/-- A text is read as a template exactly when none of its tags is at fault and its section tags are
well-bracketed. The template then has, in order, the nodes and section tags of the pieces; every
node stands where its pieces do, the bodies fill their sections, and the nodes at the top tile the
text. -/
theorem parse_exact (source : String) :
    ((∃ template, parse source = .ok template) ↔
      (tokenize source).faults = [] ∧ WellBracketed (brackets (tokenize source).pieces)) ∧
    ∀ template, parse source = .ok template →
      template.flatten = (tokenize source).pieces.map Piece.kind ∧
      Spells Fills template (tokenize source).pieces ∧
      Tiles 0 source.utf8ByteSize template.spans := by
  refine ⟨⟨?_, ?_⟩, ?_⟩
  · rintro ⟨template, h⟩
    obtain ⟨hfaults, hspells⟩ := parse_eq_ok_iff.1 h
    exact ⟨hfaults, hspells.wellBracketed⟩
  · rintro ⟨hfaults, hbrackets⟩
    obtain ⟨template, hspells⟩ := hbrackets.exists_spells rfl
    exact ⟨template, parse_eq_ok_iff.2 ⟨hfaults, hspells⟩⟩
  · intro template h
    obtain ⟨hfaults, hspells⟩ := parse_eq_ok_iff.1 h
    exact ⟨hspells.flatten_eq, hspells.fills (tiles_pieces hfaults)⟩

/-- Sections inside a section, with text between the tags, are read. -/
theorem parse_exact_nested :
    parse "a{{#s}}{{#t}}{{n}}{{/t}}.{{/s}}" =
        .ok (.text "a" ⟨0, 1⟩
          (.block "s" ⟨1, 31⟩
            (.block "t" ⟨7, 24⟩ (.identifier "n" ⟨13, 18⟩ .empty) (.text "." ⟨24, 25⟩ .empty))
            .empty)) ∧
      Tiles 0 31 [⟨0, 1⟩, ⟨1, 31⟩] := by
  have hparse : parse "a{{#s}}{{#t}}{{n}}{{/t}}.{{/s}}" =
      .ok (.text "a" ⟨0, 1⟩
        (.block "s" ⟨1, 31⟩
          (.block "t" ⟨7, 24⟩ (.identifier "n" ⟨13, 18⟩ .empty) (.text "." ⟨24, 25⟩ .empty))
          .empty)) := by decide +kernel
  exact ⟨hparse, ((parse_exact _).2 _ hparse).2.2⟩

end TemplateCodegen.Template
