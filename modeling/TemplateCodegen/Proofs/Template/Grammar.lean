import TemplateCodegen.Proofs.Template.Nesting

/-!
# Reading templates by their grammar

A node is a text, a placeholder or a section; a section is an opening tag, as many nodes as there
are, and a closing tag; a template is as many nodes as there are, up to the end. A section that does
not come to its closing tag is given up, and with it every section around it, so that the nodes end
in front of the outermost. Of all places where reading failed, the one that was got furthest to
tells the error, and who is still open at the end is found out apart from that. Main statement: a
text is read in this way as it is read in one pass (`readByGrammar_eq`).
-/

namespace TemplateCodegen.Template

/-- Nodes as they are read, before the names in the tags of a section are compared. -/
inductive Draft where
  /-- No nodes. -/
  | empty
  /-- Literal text, and the nodes behind it. -/
  | text (content : String) (span : Span) (rest : Draft)
  /-- A placeholder, and the nodes behind it. -/
  | identifier (name : String) (span : Span) (rest : Draft)
  /-- A section with both its tags, and the nodes behind it. -/
  | block (opening : Opening) (body : Draft) (closing : Closing) (rest : Draft)
deriving DecidableEq, Repr

/-- The piece of an opening tag. -/
def Opening.piece (opening : Opening) : Piece := ⟨.sectionOpen opening.name, opening.span⟩

/-- The piece of a closing tag. -/
def Closing.piece (closing : Closing) : Piece := ⟨.sectionClose closing.name, closing.span⟩

namespace Draft

/-- The pieces that the nodes were read from. -/
def pieces : Draft → List Piece
  | .empty => []
  | .text content span rest => ⟨.text content, span⟩ :: rest.pieces
  | .identifier name span rest => ⟨.identifier name, span⟩ :: rest.pieces
  | .block opening body closing rest =>
    opening.piece :: (body.pieces ++ closing.piece :: rest.pieces)

/-- The nodes as a template; a section has the name of its opening tag. -/
def template : Draft → Template
  | .empty => .empty
  | .text content span rest => .text content span rest.template
  | .identifier name span rest => .identifier name span rest.template
  | .block opening body closing rest =>
    .block opening.name ⟨opening.span.start, closing.span.stop⟩ body.template rest.template

/-- The sections that are closed under another name, an outer one before those inside it. -/
def mismatches : Draft → List Fault
  | .empty => []
  | .text _ _ rest => rest.mismatches
  | .identifier _ _ rest => rest.mismatches
  | .block opening body closing rest =>
    mismatch opening closing ++ body.mismatches ++ rest.mismatches

end Draft

/-! ### Choice and repetition -/

/-- The place that was got further to: the one with fewer pieces left. -/
def further (one other : List Piece) : List Piece :=
  if other.length < one.length then other else one

/-- How far as many nodes as there are take a reader of these pieces. -/
structure Advance (pieces : List Piece) where
  /-- The nodes. -/
  draft : Draft
  /-- The pieces behind the nodes. -/
  rest : List Piece
  /-- The pieces left at the furthest place where reading failed. -/
  furthest : List Piece
  /-- Reading never goes back. -/
  length_rest_le : rest.length ≤ pieces.length

/-- Put a node in front that was read from one piece. -/
def Advance.prepend (node : Draft → Draft) (piece : Piece) {pieces : List Piece}
    (advance : Advance pieces) : Advance (piece :: pieces) :=
  ⟨node advance.draft, advance.rest, advance.furthest,
    Nat.le_succ_of_le advance.length_rest_le⟩

/-- Read a closing tag. -/
def closing? : List Piece → Option (Closing × List Piece)
  | ⟨.sectionClose name, span⟩ :: rest => some (⟨name, span⟩, rest)
  | _ => none

/-- A closing tag is read from the first piece. -/
theorem closing?_eq_some {pieces rest : List Piece} {closing : Closing}
    (h : closing? pieces = some (closing, rest)) : pieces = closing.piece :: rest := by
  unfold closing? at h
  split at h
  · obtain ⟨rfl, rfl⟩ := Prod.mk.inj (Option.some.inj h)
    rfl
  · cases h

/-- Read as many nodes as there are. At most one of the three choices takes the first piece; when
none does, or a section does not come to its closing tag, the nodes end in front of it. -/
def nodes : (pieces : List Piece) → Advance pieces
  | [] => ⟨.empty, [], [], Nat.le_refl _⟩
  | ⟨.text content, span⟩ :: behind => (nodes behind).prepend (.text content span) _
  | ⟨.identifier name, span⟩ :: behind => (nodes behind).prepend (.identifier name span) _
  | ⟨.sectionClose name, span⟩ :: behind =>
    ⟨.empty, ⟨.sectionClose name, span⟩ :: behind, ⟨.sectionClose name, span⟩ :: behind,
      Nat.le_refl _⟩
  | ⟨.sectionOpen name, span⟩ :: behind =>
    let body := nodes behind
    match hclosing : closing? body.rest with
    | some (closing, after) =>
      have hafter : after.length < behind.length := by
        have hrest := body.length_rest_le
        rw [closing?_eq_some hclosing] at hrest
        exact hrest
      let next := nodes after
      ⟨.block ⟨name, span⟩ body.draft closing next.draft, next.rest,
        further body.furthest next.furthest,
        next.length_rest_le.trans (hafter.le.trans (Nat.le_succ _))⟩
    | none =>
      ⟨.empty, ⟨.sectionOpen name, span⟩ :: behind, further body.furthest body.rest, Nat.le_refl _⟩
termination_by pieces => pieces.length

/-! ### Errors -/

/-- The sections that are open behind pieces, the innermost first; a closing tag without an open
section is passed over. -/
def openBehind (opened : List Opening) : List Piece → List Opening
  | [] => opened
  | ⟨.sectionOpen name, span⟩ :: rest => openBehind (⟨name, span⟩ :: opened) rest
  | ⟨.sectionClose _, _⟩ :: rest => openBehind opened.tail rest
  | ⟨.text _, _⟩ :: rest => openBehind opened rest
  | ⟨.identifier _, _⟩ :: rest => openBehind opened rest

/-- An error as it is shown. -/
structure Complaint where
  /-- The code. -/
  code : DiagnosticCode
  /-- The text. -/
  message : String
  /-- The place. -/
  span : Span
deriving DecidableEq, Repr

/-- A fault as it is shown. -/
def Fault.complaint (fault : Fault) : Complaint :=
  ⟨fault.cause.code, fault.cause.message, fault.span⟩

/-- What is said of a reading that got no further than to the pieces left: the section that is open
at the end, a closing tag, or, where neither applies, that the text ended or what was found; pieces
are shown as given. -/
def complaintAt (shown : PieceKind → String) (unclosed : Option Opening) (size : Nat) :
    (left : List Piece) → Complaint
  | [] =>
    match unclosed with
    | some opening => Fault.complaint ⟨.unclosedSection opening.name, opening.span⟩
    | none => ⟨.unclosedSection, "template ends inside an open section", ⟨size, size⟩⟩
  | ⟨.sectionClose name, span⟩ :: _ => Fault.complaint ⟨.unmatchedClose name, span⟩
  | ⟨kind, span⟩ :: _ => ⟨.malformedTag, "unexpected " ++ shown kind, span⟩

/-- Read a template text by the grammar. Names are compared when the nodes go up to the end;
otherwise that they do not is sorted in among the faults of the tags by place. -/
def readByGrammar (shown : PieceKind → String) (source : String) :
    Except (List Complaint) Template :=
  let tokens := tokenize source
  let complaints := tokens.faults.map Fault.complaint
  let advance := nodes tokens.pieces
  match advance.rest with
  | [] =>
    match complaints ++ advance.draft.mismatches.map Fault.complaint with
    | [] => .ok advance.draft.template
    | complaints => .error complaints
  | rest =>
    let complaint := complaintAt shown (openBehind [] tokens.pieces).head? source.utf8ByteSize
      (further advance.furthest rest)
    .error ((complaints ++ [complaint]).mergeSort fun one other =>
      one.span.start ≤ other.span.start)

/-! ### One pass over nodes that were read -/

/-- Put nodes in front of a level. -/
def Level.prepend (draft : Draft) (level : Level) : Level :=
  ⟨draft.template ++ level.nodes, draft.mismatches ++ level.mismatches⟩

/-- Put nodes in front of the innermost level. -/
def Levels.prepend (draft : Draft) : {depth : Nat} → Levels depth → Levels depth
  | 0, level => Level.prepend draft level
  | _ + 1, (level, closing, outer) => (Level.prepend draft level, closing, outer)

/-- No nodes in front are none. -/
theorem Levels.prepend_empty {depth : Nat} (levels : Levels depth) :
    levels.prepend .empty = levels := by
  cases depth with
  | zero => rfl
  | succ depth => rfl

/-- In front of nothing the nodes are the level. -/
theorem Level.prepend_nothing (draft : Draft) :
    Level.prepend draft ⟨.empty, []⟩ = ⟨draft.template, draft.mismatches⟩ := by
  rw [prepend, append_empty, List.append_nil]

/-- A finished section in front of nodes is one more node. -/
theorem Level.addBlock_prepend (opening : Opening) (closing : Closing) (body rest : Draft)
    (level : Level) :
    Level.addBlock opening closing (Level.prepend body ⟨.empty, []⟩) (level.prepend rest) =
      level.prepend (.block opening body closing rest) := by
  have hbody : body.template ++ Template.empty = body.template := append_empty _
  simp only [addBlock, prepend, hbody, List.append_nil, Draft.mismatches, List.append_assoc]
  rfl

/-- In front of its closing tag a section is finished with the nodes that were read. -/
theorem Levels.close_prepend (opening : Opening) (closing : Closing) (body rest : Draft)
    {depth : Nat} (outer : Levels depth) :
    Levels.close opening ((Levels.ending closing (outer.prepend rest)).prepend body) =
      outer.prepend (.block opening body closing rest) := by
  cases depth with
  | zero => exact Level.addBlock_prepend opening closing body rest outer
  | succ depth =>
    obtain ⟨level, closing', outer⟩ := outer
    exact congrArg (·, closing', outer) (Level.addBlock_prepend opening closing body rest level)

/-- In one pass, the pieces of nodes give the nodes. -/
theorem Draft.nest_pieces_append (draft : Draft) (opened : List Opening) (behind : List Piece) :
    nest opened (draft.pieces ++ behind) = (nest opened behind).map (Levels.prepend draft) := by
  induction draft generalizing opened behind with
  | empty =>
    change nest opened behind = _
    cases nest opened behind with
    | error fault => rfl
    | ok levels => exact congrArg Except.ok levels.prepend_empty.symm
  | text content span rest ih =>
    rw [pieces, List.cons_append, nest, ih]
    cases nest opened behind with
    | error fault => rfl
    | ok levels => cases opened <;> rfl
  | identifier name span rest ih =>
    rw [pieces, List.cons_append, nest, ih]
    cases nest opened behind with
    | error fault => rfl
    | ok levels => cases opened <;> rfl
  | block opening body closing rest ihbody ihrest =>
    have hclosing : nest (opening :: opened) (closing.piece :: (rest.pieces ++ behind)) =
        (nest opened (rest.pieces ++ behind)).map (Levels.ending closing) := by
      rw [Closing.piece, nest]
      rfl
    rw [pieces, List.cons_append, List.append_assoc, List.cons_append, Opening.piece, nest, ihbody,
      hclosing, ihrest]
    cases nest opened behind with
    | error fault => rfl
    | ok levels => exact congrArg Except.ok (levels.close_prepend opening closing body rest)

/-- Nodes leave no section open. -/
theorem Draft.openBehind_pieces_append (draft : Draft) (opened : List Opening)
    (behind : List Piece) :
    openBehind opened (draft.pieces ++ behind) = openBehind opened behind := by
  induction draft generalizing opened behind with
  | empty => rfl
  | text content span rest ih => exact ih opened behind
  | identifier name span rest ih => exact ih opened behind
  | block opening body closing rest ihbody ihrest =>
    rw [pieces, List.cons_append, List.append_assoc, List.cons_append, Opening.piece, openBehind,
      ihbody, Closing.piece, openBehind]
    exact ihrest opened behind

/-! ### Where reading stops -/

/-- Sections are open up to the end of the pieces, each with nodes in front of the next. -/
inductive Unclosed : List Piece → Prop where
  /-- One section, with nodes up to the end. -/
  | innermost (opening : Opening) (body : Draft) : Unclosed (opening.piece :: body.pieces)
  /-- A section around others. -/
  | outer {rest : List Piece} (opening : Opening) (body : Draft) (hrest : Unclosed rest) :
      Unclosed (opening.piece :: (body.pieces ++ rest))

/-- Where sections are open there is a piece. -/
theorem Unclosed.exists_cons {pieces : List Piece} (h : Unclosed pieces) :
    ∃ piece behind, pieces = piece :: behind := by
  cases h with
  | innermost opening body => exact ⟨_, _, rfl⟩
  | outer opening body hrest => exact ⟨_, _, rfl⟩

/-- What is left behind nodes, and how far reading got: to the end, to a closing tag, or, in front
of sections that are open up to the end, there. -/
inductive Stops : (rest furthest : List Piece) → Prop where
  /-- Nothing is left. -/
  | atEnd : Stops [] []
  /-- A closing tag is left. -/
  | closing (closing : Closing) (behind : List Piece) :
      Stops (closing.piece :: behind) (closing.piece :: behind)
  /-- Open sections are left. -/
  | unclosed {rest : List Piece} (h : Unclosed rest) : Stops rest []

/-- Reading got at least to where the nodes end. -/
theorem Stops.length_le {rest furthest : List Piece} (h : Stops rest furthest) :
    furthest.length ≤ rest.length := by
  cases h with
  | atEnd => exact le_rfl
  | closing closing behind => exact le_rfl
  | unclosed h => exact Nat.zero_le _

/-- In front of a closing tag, reading got to it. -/
theorem Stops.eq_of_closing {closing : Closing} {behind furthest : List Piece}
    (h : Stops (closing.piece :: behind) furthest) : furthest = closing.piece :: behind := by
  generalize hrest : closing.piece :: behind = rest at h
  cases h with
  | atEnd => rfl
  | closing closing behind => rfl
  | unclosed h => cases h <;> exact nomatch (List.cons.inj hrest).1

/-- The nodes and what is left are the pieces. -/
theorem pieces_nodes_append (pieces : List Piece) :
    (nodes pieces).draft.pieces ++ (nodes pieces).rest = pieces := by
  fun_induction nodes pieces with
  | case1 => rfl
  | case2 content span behind ih => exact congrArg (_ :: ·) ih
  | case3 name span behind ih => exact congrArg (_ :: ·) ih
  | case4 name span behind => rfl
  | case5 name span behind body closing after hclosing hafter next ihbody ihnext =>
    rw [closing?_eq_some hclosing] at ihbody
    rw [Draft.pieces, List.cons_append, List.append_assoc, List.cons_append, ihnext, ihbody]
    rfl
  | case6 name span behind body hclosing ih => rfl

/-- No place was got further to than the end. -/
theorem further_nil (pieces : List Piece) : further [] pieces = [] :=
  if_neg (Nat.not_lt_zero _)

/-- A section whose closing tag is not read is given up. -/
theorem Stops.give_up {rest furthest : List Piece} (h : Stops rest furthest)
    (hclosing : closing? rest = none) (opening : Opening) (body : Draft) :
    Stops (opening.piece :: (body.pieces ++ rest)) (further furthest rest) := by
  cases h with
  | atEnd =>
    rw [List.append_nil]
    exact .unclosed (.innermost opening body)
  | closing closing behind => cases hclosing
  | unclosed hrest =>
    rw [further_nil]
    exact .unclosed (.outer opening body hrest)

/-- Nodes are read as far as there are any. -/
theorem stops_nodes (pieces : List Piece) :
    Stops (nodes pieces).rest (nodes pieces).furthest := by
  fun_induction nodes pieces with
  | case1 => exact .atEnd
  | case2 content span behind ih => exact ih
  | case3 name span behind ih => exact ih
  | case4 name span behind => exact .closing ⟨name, span⟩ behind
  | case5 name span behind body closing after hclosing hafter next ihbody ihnext =>
    -- a section that is finished was read further than its body
    rw [closing?_eq_some hclosing] at ihbody
    have hlt : next.furthest.length < (closing.piece :: after).length :=
      Nat.lt_succ_of_le (ihnext.length_le.trans next.length_rest_le)
    have hfurther : further body.furthest next.furthest = next.furthest := by
      rw [ihbody.eq_of_closing]
      exact if_pos hlt
    rw [hfurther]
    exact ihnext
  | case6 name span behind body hclosing ih =>
    have hpieces : body.draft.pieces ++ body.rest = behind := pieces_nodes_append behind
    have hstops := ih.give_up hclosing ⟨name, span⟩ body.draft
    rw [hpieces] at hstops
    exact hstops

/-- Of sections that are open up to the end, one pass finds the innermost, and it is the innermost
of those that are open behind the pieces, whatever is open in front of them. -/
theorem Unclosed.exists_innermost {pieces : List Piece} (h : Unclosed pieces) :
    ∃ (opening : Opening) (front : List Piece) (body : Draft),
      pieces = front ++ opening.piece :: body.pieces ∧ ∀ opened,
        nest opened pieces = .error ⟨.unclosedSection opening.name, opening.span⟩ ∧
          (openBehind opened pieces).head? = some opening := by
  induction h with
  | innermost opening body =>
    refine ⟨opening, [], body, rfl, fun opened => ?_⟩
    have hnest := body.nest_pieces_append (opening :: opened) []
    have hopen := body.openBehind_pieces_append (opening :: opened) []
    rw [List.append_nil] at hnest hopen
    rw [Opening.piece, nest, hnest, openBehind, hopen]
    exact ⟨rfl, rfl⟩
  | @outer rest opening body _ ih =>
    obtain ⟨innermost, front, inside, rfl, hinnermost⟩ := ih
    refine ⟨innermost, opening.piece :: (body.pieces ++ front), inside, by simp, fun opened => ?_⟩
    obtain ⟨hnest, hopen⟩ := hinnermost (opening :: opened)
    rw [Opening.piece, nest, body.nest_pieces_append, hnest, openBehind,
      body.openBehind_pieces_append]
    exact ⟨rfl, hopen⟩

/-! ### The two readings -/

/-- Sorting by place and showing may be done in either order. -/
theorem map_complaint_mergeSort (faults : List Fault) :
    (faults.mergeSort fun one other => one.span.start ≤ other.span.start).map Fault.complaint =
      (faults.map Fault.complaint).mergeSort fun one other =>
        one.span.start ≤ other.span.start :=
  List.map_mergeSort fun _ _ _ _ => rfl

/-- A fault that ends the pass is complained about at the place that reading got to. -/
theorem parse_of_nest_error {source : String} {fault : Fault}
    (h : nest [] (tokenize source).pieces = .error fault) :
    parse source = .error (((tokenize source).faults ++ [fault]).mergeSort fun one other =>
      one.span.start ≤ other.span.start) := by
  unfold parse
  simp only [h]

/-- The pieces of nodes are read as the nodes, unless tags are at fault or names differ. -/
theorem parse_of_pieces {source : String} {draft : Draft}
    (h : draft.pieces = (tokenize source).pieces) :
    parse source =
      if (tokenize source).faults ++ draft.mismatches = [] then .ok draft.template
      else .error ((tokenize source).faults ++ draft.mismatches) := by
  have hnest := draft.nest_pieces_append [] []
  rw [List.append_nil, h] at hnest
  replace hnest : nest [] (tokenize source).pieces =
      .ok (⟨draft.template, draft.mismatches⟩ : Level) :=
    hnest.trans (congrArg Except.ok (Level.prepend_nothing draft))
  unfold parse
  simp only [hnest]
  cases (tokenize source).faults ++ draft.mismatches with
  | nil => rfl
  | cons fault faults => rfl

/-- Reading by the grammar accepts the texts that one pass accepts, as the same templates, and shows
the faults of the others. -/
theorem readByGrammar_eq (shown : PieceKind → String) (source : String) :
    readByGrammar shown source = (parse source).mapError (List.map Fault.complaint) := by
  have hpieces := pieces_nodes_append (tokenize source).pieces
  have hstops := stops_nodes (tokenize source).pieces
  unfold readByGrammar
  dsimp only
  generalize nodes (tokenize source).pieces = advance at hpieces hstops ⊢
  obtain ⟨draft, rest, furthest, hle⟩ := advance
  have hnest := draft.nest_pieces_append [] rest
  have hopen := draft.openBehind_pieces_append [] rest
  dsimp only at hpieces hstops ⊢
  rw [hpieces] at hnest hopen
  cases hstops with
  | atEnd =>
    rw [List.append_nil] at hpieces
    rw [parse_of_pieces hpieces]
    simp only [← List.map_append]
    cases (tokenize source).faults ++ draft.mismatches with
    | nil => rfl
    | cons fault faults => rfl
  | closing closing behind =>
    have hfurther : further (closing.piece :: behind) (closing.piece :: behind) =
        closing.piece :: behind := ite_self _
    rw [parse_of_nest_error hnest, Except.mapError, map_complaint_mergeSort, List.map_append]
    dsimp only
    rw [hfurther]
    rfl
  | unclosed h =>
    obtain ⟨opening, -, -, -, hinnermost⟩ := h.exists_innermost
    obtain ⟨hfault, hhead⟩ := hinnermost []
    rw [hfault] at hnest
    rw [parse_of_nest_error hnest, hopen, hhead, Except.mapError, map_complaint_mergeSort,
      List.map_append]
    obtain ⟨piece, behind, rfl⟩ := h.exists_cons
    dsimp only
    rw [further_nil]
    rfl

end TemplateCodegen.Template
