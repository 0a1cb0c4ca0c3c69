import Mathlib.Data.List.Nodup
import TemplateCodegen.Proofs.Template.Grammar

/-!
# The one fault of sections that do not nest

Names aside, section tags nest when every closing tag has an opening tag to close and every opening
tag a closing one. Pieces whose tags do not nest have one fault of their nesting: the first closing
tag without an opening one or, where there is none, the innermost section that is open at the end.
Main statement: a text that does not nest is refused for that fault and those of its tags, in the
order of their places, and a text that nests is refused for no fault of nesting, whether it is read
in one pass or by the grammar (`parse_tells_nesting`).
-/

namespace TemplateCodegen.Template

/-! ### Nesting, names aside -/

/-- Every closing tag closes an opening tag and every opening tag is closed, whatever their names
are. -/
inductive Balanced : List Piece → Prop where
  /-- No pieces. -/
  | nil : Balanced []
  /-- A piece that is no section tag, and what follows. -/
  | plain {rest : List Piece} (piece : Piece) (hplain : piece.kind.bracket? = none)
      (hrest : Balanced rest) : Balanced (piece :: rest)
  /-- A pair of tags with what stands between them, and what follows. -/
  | pair {inner rest : List Piece} (opening : Opening) (closing : Closing)
      (hinner : Balanced inner) (hrest : Balanced rest) :
      Balanced (opening.piece :: (inner ++ closing.piece :: rest))

/-- A fault of nesting of the pieces. -/
inductive NestingFault (pieces : List Piece) : Fault → Prop where
  /-- A closing tag in front of which all tags nest has no opening tag. -/
  | unmatched (closing : Closing) {front behind : List Piece}
      (hpieces : pieces = front ++ closing.piece :: behind) (hfront : Balanced front) :
      NestingFault pieces ⟨.unmatchedClose closing.name, closing.span⟩
  /-- Where every closing tag has an opening one, a section behind whose opening tag all tags nest
  is open at the end. -/
  | unclosed (opening : Opening) {front behind : List Piece}
      (hmatched : ∀ (closing : Closing) (before after : List Piece), Balanced before →
        pieces ≠ before ++ closing.piece :: after)
      (hpieces : pieces = front ++ opening.piece :: behind) (hbehind : Balanced behind) :
      NestingFault pieces ⟨.unclosedSection opening.name, opening.span⟩

/-- Whether a fault is one of nesting. -/
def FaultCause.isOfNesting : FaultCause → Bool
  | .unclosedSection _ | .unmatchedClose _ => true
  | .mismatchedClose _ _ | .emptyIdentifier _ | .unterminatedTag _ | .invalidName _ => false

/-- The pieces of nodes nest. -/
theorem Draft.balanced_pieces (draft : Draft) : Balanced draft.pieces := by
  induction draft with
  | empty => exact .nil
  | text content span rest ih => exact .plain _ rfl ih
  | identifier name span rest ih => exact .plain _ rfl ih
  | block opening body closing rest ihbody ih => exact .pair opening closing ihbody ih

/-- Pieces that nest are those of nodes. -/
theorem Balanced.exists_draft {pieces : List Piece} (h : Balanced pieces) :
    ∃ draft : Draft, draft.pieces = pieces := by
  induction h with
  | nil => exact ⟨.empty, rfl⟩
  | @plain rest piece hplain _ ih =>
    obtain ⟨draft, rfl⟩ := ih
    obtain ⟨kind, span⟩ := piece
    cases kind with
    | text content => exact ⟨.text content span draft, rfl⟩
    | identifier name => exact ⟨.identifier name span draft, rfl⟩
    | sectionOpen name => exact nomatch hplain
    | sectionClose name => exact nomatch hplain
  | pair opening closing _ _ ihinner ih =>
    obtain ⟨body, rfl⟩ := ihinner
    obtain ⟨rest, rfl⟩ := ih
    exact ⟨.block opening body closing rest, rfl⟩

section Passes

variable {pieces front behind : List Piece} {fault : Fault}

/-- Pieces that nest do not end the pass. -/
theorem Balanced.nest_append_error (h : Balanced front) {opened : List Opening}
    (hbehind : nest opened behind = .error fault) :
    nest opened (front ++ behind) = .error fault := by
  obtain ⟨draft, rfl⟩ := h.exists_draft
  rw [draft.nest_pieces_append, hbehind]
  rfl

/-- A closing tag without an opening one ends the pass. -/
theorem Balanced.nest_closing (h : Balanced front) (closing : Closing) :
    nest [] (front ++ closing.piece :: behind) =
      .error ⟨.unmatchedClose closing.name, closing.span⟩ :=
  h.nest_append_error (by rw [Closing.piece, nest])

/-- A section behind whose opening tag all tags nest ends the pass. -/
theorem Balanced.nest_opening (h : Balanced behind) (opening : Opening) (opened : List Opening) :
    nest opened (opening.piece :: behind) =
      .error ⟨.unclosedSection opening.name, opening.span⟩ := by
  have hend : nest (opening :: opened) (behind ++ []) =
      .error ⟨.unclosedSection opening.name, opening.span⟩ := h.nest_append_error (by rw [nest])
  rw [List.append_nil] at hend
  rw [Opening.piece, nest, hend]
  rfl

/-- Open sections do not change what ends the pass behind them, when that does not depend on them.
-/
theorem Unclosed.nest_append (h : Unclosed front)
    (hbehind : ∀ opened, nest opened behind = .error fault) (opened : List Opening) :
    nest opened (front ++ behind) = .error fault := by
  induction h generalizing opened with
  | innermost opening body =>
    rw [Opening.piece, List.cons_append, nest,
      body.balanced_pieces.nest_append_error (hbehind (opening :: opened))]
    rfl
  | outer opening body _ ih =>
    rw [Opening.piece, List.cons_append, List.append_assoc, nest,
      body.balanced_pieces.nest_append_error (ih (opening :: opened))]
    rfl

/-- Pieces are those of nodes up to where reading stops. -/
theorem exists_stops (pieces : List Piece) :
    ∃ (draft : Draft) (rest furthest : List Piece),
      pieces = draft.pieces ++ rest ∧ Stops rest furthest :=
  ⟨_, _, _, (pieces_nodes_append pieces).symm, stops_nodes pieces⟩

/-- One pass comes to the end exactly when the tags nest. -/
theorem exists_nest_iff : (∃ levels, nest [] pieces = .ok levels) ↔ Balanced pieces := by
  constructor
  · rintro ⟨levels, hnest⟩
    obtain ⟨draft, rest, furthest, rfl, hstops⟩ := exists_stops pieces
    cases hstops with
    | atEnd =>
      rw [List.append_nil]
      exact draft.balanced_pieces
    | closing closing behind =>
      rw [draft.balanced_pieces.nest_closing closing] at hnest
      cases hnest
    | unclosed h =>
      obtain ⟨opening, -, -, -, hinnermost⟩ := h.exists_innermost
      rw [draft.balanced_pieces.nest_append_error (hinnermost []).1] at hnest
      cases hnest
  · intro h
    obtain ⟨draft, rfl⟩ := h.exists_draft
    have hnest := draft.nest_pieces_append [] []
    rw [List.append_nil] at hnest
    exact ⟨_, hnest⟩

/-- The fault that ends the pass is one of nesting. -/
theorem nestingFault_of_nest (h : nest [] pieces = .error fault) : NestingFault pieces fault := by
  obtain ⟨draft, rest, furthest, rfl, hstops⟩ := exists_stops pieces
  have hdraft := draft.balanced_pieces
  cases hstops with
  | atEnd =>
    rw [List.append_nil] at h
    obtain ⟨levels, hlevels⟩ := exists_nest_iff.2 hdraft
    rw [hlevels] at h
    cases h
  | closing closing behind =>
    obtain rfl := Except.error.inj ((hdraft.nest_closing closing).symm.trans h)
    exact .unmatched closing rfl hdraft
  | unclosed hunclosed =>
    obtain ⟨opening, front, body, hrest, hinnermost⟩ := hunclosed.exists_innermost
    have hend := hdraft.nest_append_error (hinnermost []).1
    obtain rfl := Except.error.inj (hend.symm.trans h)
    have hpieces : draft.pieces ++ rest =
        draft.pieces ++ front ++ opening.piece :: body.pieces := by
      rw [hrest, List.append_assoc]
    refine .unclosed opening (fun closing before after hbefore hstray => ?_) hpieces
      body.balanced_pieces
    rw [hstray, hbefore.nest_closing closing] at hend
    cases hend

/-- A fault of nesting ends the pass. -/
theorem NestingFault.nest_eq (h : NestingFault pieces fault) : nest [] pieces = .error fault := by
  cases h with
  | unmatched closing hpieces hfront =>
    rw [hpieces]
    exact hfront.nest_closing closing
  | @unclosed opening front behind hmatched hpieces hbehind =>
    have hopening := hbehind.nest_opening opening
    obtain ⟨draft, rest, furthest, rfl, hstops⟩ := exists_stops front
    rw [List.append_assoc] at hpieces
    rw [hpieces]
    refine draft.balanced_pieces.nest_append_error ?_
    cases hstops with
    | atEnd => exact hopening []
    | closing closing after => exact absurd hpieces (hmatched closing _ _ draft.balanced_pieces)
    | unclosed hunclosed => exact hunclosed.nest_append hopening []

end Passes

/-- Pieces that do not nest have one fault of nesting. -/
theorem exists_nestingFault {pieces : List Piece} (h : ¬ Balanced pieces) :
    ∃ fault, NestingFault pieces fault ∧ ∀ other, NestingFault pieces other → other = fault := by
  cases hnest : nest [] pieces with
  | ok levels => exact absurd (exists_nest_iff.1 ⟨levels, hnest⟩) h
  | error fault =>
    refine ⟨fault, nestingFault_of_nest hnest, fun other hother => ?_⟩
    exact Except.error.inj (hother.nest_eq.symm.trans hnest)

/-- Whether pieces nest can be found out in one pass. -/
instance (pieces : List Piece) : Decidable (Balanced pieces) :=
  match hnest : nest [] pieces with
  | .ok levels => isTrue (exists_nest_iff.1 ⟨levels, hnest⟩)
  | .error fault => isFalse fun h => by
    obtain ⟨levels, hlevels⟩ := exists_nest_iff.2 h
    rw [hnest] at hlevels
    cases hlevels

/-! ### Places -/

/-- What tiles a range begins at strictly increasing places. -/
theorem Tiles.pairwise_start {α : Type} {place : α → Span} {start stop : Nat} {all : List α}
    (h : Tiles start stop (all.map place)) :
    all.Pairwise fun one other => (place one).start < (place other).start := by
  induction all generalizing start with
  | nil => exact .nil
  | cons first rest ih =>
    obtain ⟨-, hlt, hrest⟩ := h
    refine .cons (fun other hother => ?_) (ih hrest)
    have hbounds := hrest.bounds (List.mem_map_of_mem hother)
    omega

/-- Every fault of the tags of a text is one of its tokens. -/
theorem fault_mem_tokensOf {source : String} {fault : Fault}
    (h : fault ∈ (tokenize source).faults) : .fault fault ∈ tokensOf source := by
  rw [tokenize_eq] at h
  obtain ⟨token, htoken, hread⟩ := List.mem_filterMap.1 h
  cases token with
  | piece read => cases hread
  | fault found =>
    obtain rfl := Option.some.inj hread
    exact htoken

/-- A token of a text lies in it. -/
theorem bounds_of_mem_tokensOf {source : String} {token : Token} (h : token ∈ tokensOf source) :
    token.span.start < token.span.stop ∧ token.span.stop ≤ source.utf8ByteSize :=
  ((tiles_tokensOf source).bounds (List.mem_map_of_mem h)).2

/-- The faults of the tags of a text are in the order of their places. -/
theorem pairwise_faults (source : String) :
    (tokenize source).faults.Pairwise fun one other => one.span.start < other.span.start := by
  rw [tokenize_eq]
  refine List.Pairwise.filterMap Token.fault? ?_ (tiles_tokensOf source).pairwise_start
  intro one other hlt fault hfault fault' hfault'
  cases one with
  | piece read => cases hfault
  | fault found =>
    obtain rfl := Option.some.inj hfault
    cases other with
    | piece read => cases hfault'
    | fault found' =>
      obtain rfl := Option.some.inj hfault'
      exact hlt

/-- A fault of a tag stands at another place than any piece. -/
theorem start_ne_of_mem {source : String} {fault : Fault} {piece : Piece}
    (hfault : fault ∈ (tokenize source).faults) (hpiece : piece ∈ (tokenize source).pieces) :
    fault.span.start ≠ piece.span.start := by
  have hstarts : ((tokensOf source).map fun token => token.span.start).Nodup :=
    List.pairwise_map.2 ((tiles_tokensOf source).pairwise_start.imp Nat.ne_of_lt)
  intro heq
  have hsame := List.inj_on_of_nodup_map hstarts (fault_mem_tokensOf hfault)
    (piece_mem_tokensOf hpiece) heq
  cases hsame

/-- A fault of a tag is that it names nothing or is malformed. -/
theorem code_of_mem_faults {source : String} {fault : Fault}
    (h : fault ∈ (tokenize source).faults) :
    fault.cause.code = .emptyIdentifier ∨ fault.cause.code = .malformedTag := by
  have hstretches : ∀ (start : Nat) (all : List Stretch),
      ∀ one ∈ (readStretches start all).faults,
        one.cause.code = .emptyIdentifier ∨ one.cause.code = .malformedTag := by
    intro start all
    induction all generalizing start with
    | nil => exact fun _ hmem => nomatch hmem
    | cons stretch rest ih =>
      cases stretch with
      | literal content => exact ih _
      | tag content =>
        cases hread : readTag content with
        | ok kind =>
          simp only [readStretches, hread]
          exact ih _
        | error cause =>
          simp only [readStretches, hread]
          exact List.forall_mem_cons.2 ⟨code_of_readTag_eq_error hread, ih _⟩
  exact hstretches 0 _ fault h

/-- The fault of a tag is not one of nesting. -/
theorem isOfNesting_of_mem_faults {source : String} {fault : Fault}
    (h : fault ∈ (tokenize source).faults) : fault.cause.isOfNesting = false := by
  rcases code_of_mem_faults h with hcode | hcode <;>
    (cases hcause : fault.cause <;> rw [hcause] at hcode <;> first | rfl | cases hcode)

/-- A section that is closed under another name is reported at its closing tag. -/
theorem Draft.exists_closing_of_mem_mismatches {draft : Draft} {fault : Fault}
    (h : fault ∈ draft.mismatches) :
    fault.cause.code = .mismatchedClose ∧
      ∃ closing : Closing, closing.piece ∈ draft.pieces ∧ closing.span = fault.span := by
  induction draft with
  | empty => cases h
  | text content span rest ih =>
    obtain ⟨hcode, closing, hmem, hspan⟩ := ih h
    exact ⟨hcode, closing, List.mem_cons_of_mem _ hmem, hspan⟩
  | identifier name span rest ih =>
    obtain ⟨hcode, closing, hmem, hspan⟩ := ih h
    exact ⟨hcode, closing, List.mem_cons_of_mem _ hmem, hspan⟩
  | block opening body closing rest ihbody ih =>
    simp only [pieces, List.mem_cons, List.mem_append]
    rcases List.mem_append.1 h with h | h
    · rcases List.mem_append.1 h with h | h
      · unfold mismatch at h
        split at h
        · cases h
        · obtain rfl := List.mem_singleton.1 h
          exact ⟨rfl, closing, .inr (.inr (.inl rfl)), rfl⟩
      · obtain ⟨hcode, found, hmem, hspan⟩ := ihbody h
        exact ⟨hcode, found, .inr (.inl hmem), hspan⟩
    · obtain ⟨hcode, found, hmem, hspan⟩ := ih h
      exact ⟨hcode, found, .inr (.inr (.inr hmem)), hspan⟩

/-- A fault of nesting is about a piece. -/
theorem NestingFault.exists_piece {pieces : List Piece} {fault : Fault}
    (h : NestingFault pieces fault) :
    fault.cause.isOfNesting = true ∧ ∃ piece ∈ pieces, piece.span = fault.span := by
  cases h with
  | unmatched closing hpieces hfront =>
    subst hpieces
    exact ⟨rfl, closing.piece, List.mem_append_right _ List.mem_cons_self, rfl⟩
  | unclosed opening hmatched hpieces hbehind =>
    subst hpieces
    exact ⟨rfl, opening.piece, List.mem_append_right _ List.mem_cons_self, rfl⟩

/-! ### Refusals -/

/-- What a text that does not nest is refused for. -/
structure ReportsNesting (found : Tokens) (fault : Fault) (faults : List Fault) : Prop where
  /-- There is a fault of nesting. -/
  isOfNesting : NestingFault found.pieces fault
  /-- There is no other. -/
  unique : ∀ other, NestingFault found.pieces other → other = fault
  /-- The faults are those of the tags and that one. -/
  perm : faults.Perm (found.faults ++ [fault])
  /-- They are in the order of their places. -/
  sorted : faults.Pairwise fun one other => one.span.start < other.span.start
  /-- None of the others is one of nesting. -/
  once : faults.filter (fun one => one.cause.isOfNesting) = [fault]

/-- A text that nests is refused for faults of its tags and for sections closed under other names;
another one is refused for the faults of its tags and the one of its nesting. -/
theorem exists_of_parse_error {source : String} {faults : List Fault}
    (h : parse source = .error faults) :
    (∃ draft : Draft, draft.pieces = (tokenize source).pieces ∧
      faults = (tokenize source).faults ++ draft.mismatches) ∨
    ∃ fault, NestingFault (tokenize source).pieces fault ∧
      faults = ((tokenize source).faults ++ [fault]).mergeSort fun one other =>
        one.span.start ≤ other.span.start := by
  by_cases hbalanced : Balanced (tokenize source).pieces
  · obtain ⟨draft, hpieces⟩ := hbalanced.exists_draft
    refine .inl ⟨draft, hpieces, ?_⟩
    rw [parse_of_pieces hpieces] at h
    split at h
    · cases h
    · exact (Except.error.inj h).symm
  · obtain ⟨fault, hfault, -⟩ := exists_nestingFault hbalanced
    refine .inr ⟨fault, hfault, ?_⟩
    rw [parse_of_nest_error hfault.nest_eq] at h
    exact (Except.error.inj h).symm

/-- Faults of which no two stand at one place are put into the strict order of their places. -/
theorem pairwise_start_mergeSort {faults : List Fault}
    (hne : faults.Pairwise fun one other => one.span.start ≠ other.span.start) :
    (faults.mergeSort fun one other => one.span.start ≤ other.span.start).Pairwise
      fun one other => one.span.start < other.span.start := by
  have hsorted : (faults.mergeSort fun one other => one.span.start ≤ other.span.start).Pairwise
      fun one other => decide (one.span.start ≤ other.span.start) = true := by
    refine List.pairwise_mergeSort (fun one middle other => ?_) (fun one other => ?_) faults
    · simp only [decide_eq_true_eq]
      exact Nat.le_trans
    · simp only [Bool.or_eq_true, decide_eq_true_eq]
      exact Nat.le_total _ _
  refine (hsorted.and (((List.mergeSort_perm faults _).pairwise_iff Ne.symm).2 hne)).imp ?_
  rintro one other ⟨hle, hne⟩
  exact Nat.lt_of_le_of_ne (of_decide_eq_true hle) hne

/-- The faults of the tags and one of nesting, in the order of their places. -/
theorem reportsNesting_mergeSort {source : String} {fault : Fault}
    (hfault : NestingFault (tokenize source).pieces fault) :
    ReportsNesting (tokenize source) fault
      (((tokenize source).faults ++ [fault]).mergeSort fun one other =>
        one.span.start ≤ other.span.start) := by
  have hperm := List.mergeSort_perm ((tokenize source).faults ++ [fault]) fun one other =>
    one.span.start ≤ other.span.start
  obtain ⟨hnesting, piece, hpiece, hspan⟩ := hfault.exists_piece
  refine ⟨hfault, fun other hother => ?_, hperm, ?_, ?_⟩
  · exact Except.error.inj (hother.nest_eq.symm.trans hfault.nest_eq)
  · -- tags and pieces do not share a place
    have hne : ((tokenize source).faults ++ [fault]).Pairwise fun one other =>
        one.span.start ≠ other.span.start := by
      refine List.pairwise_append.2 ⟨(pairwise_faults source).imp Nat.ne_of_lt,
        List.pairwise_singleton _ _, fun one hone other hother => ?_⟩
      obtain rfl := List.mem_singleton.1 hother
      rw [← hspan]
      exact start_ne_of_mem hone hpiece
    exact pairwise_start_mergeSort hne
  · have hkept := hperm.filter fun one => one.cause.isOfNesting
    have htags : (tokenize source).faults.filter (fun one => one.cause.isOfNesting) = [] :=
      List.filter_eq_nil_iff.2 fun one hone => by
        rw [isOfNesting_of_mem_faults hone]
        exact Bool.false_ne_true
    have hone : [fault].filter (fun one => one.cause.isOfNesting) = [fault] :=
      List.filter_cons_of_pos hnesting
    rw [List.filter_append, htags, hone] at hkept
    exact List.perm_singleton.1 hkept

/-- Every fault that a text is refused for lies in the text. -/
theorem bounds_of_parse_error {source : String} {faults : List Fault}
    (h : parse source = .error faults) {fault : Fault} (hmem : fault ∈ faults) :
    fault.span.start < fault.span.stop ∧ fault.span.stop ≤ source.utf8ByteSize := by
  have hpieces {piece : Piece} (hpiece : piece ∈ (tokenize source).pieces)
      (hspan : piece.span = fault.span) :
      fault.span.start < fault.span.stop ∧ fault.span.stop ≤ source.utf8ByteSize := by
    rw [← hspan]
    exact bounds_of_mem_tokensOf (piece_mem_tokensOf hpiece)
  have htags (htag : fault ∈ (tokenize source).faults) :
      fault.span.start < fault.span.stop ∧ fault.span.stop ≤ source.utf8ByteSize :=
    bounds_of_mem_tokensOf (fault_mem_tokensOf htag)
  rcases exists_of_parse_error h with ⟨draft, hdraft, rfl⟩ | ⟨nesting, hnesting, rfl⟩
  · rcases List.mem_append.1 hmem with htag | hmismatch
    · exact htags htag
    · obtain ⟨-, closing, hclosing, hspan⟩ := Draft.exists_closing_of_mem_mismatches hmismatch
      exact hpieces (hdraft ▸ hclosing) hspan
  · rcases List.mem_append.1 (List.mem_mergeSort.1 hmem) with htag | hfault
    · exact htags htag
    · obtain rfl := List.mem_singleton.1 hfault
      obtain ⟨-, piece, hpiece, hspan⟩ := hnesting.exists_piece
      exact hpieces hpiece hspan

/-- A text that nests is refused for no fault of nesting. -/
theorem isOfNesting_of_balanced {source : String} {faults : List Fault}
    (hbalanced : Balanced (tokenize source).pieces) (h : parse source = .error faults) :
    ∀ fault ∈ faults, fault.cause.isOfNesting = false := by
  intro fault hmem
  rcases exists_of_parse_error h with ⟨draft, hdraft, rfl⟩ | ⟨nesting, hnesting, rfl⟩
  · rcases List.mem_append.1 hmem with htag | hmismatch
    · exact isOfNesting_of_mem_faults htag
    · have hcode := (Draft.exists_closing_of_mem_mismatches hmismatch).1
      cases hcause : fault.cause <;> rw [hcause] at hcode <;> first | rfl | cases hcode
  · obtain ⟨levels, hlevels⟩ := exists_nest_iff.2 hbalanced
    rw [hnesting.nest_eq] at hlevels
    cases hlevels

/-! ### Messages -/

/-- The message of a fault begins with one of these. -/
theorem FaultCause.exists_opener (cause : FaultCause) :
    ∃ opener ∈ ["section '", "tag '", "'", "'\x7b\x7b/"],
      opener.toList <+: cause.message.toList := by
  have hopener {opener message : String} (rest : String) (h : message = opener ++ rest) :
      opener.toList <+: message.toList := by
    rw [h, String.toList_append]
    exact List.prefix_append _ _
  cases cause with
  | unclosedSection name =>
    exact ⟨"section '", by decide, hopener _ (String.append_assoc ..)⟩
  | unmatchedClose name =>
    exact ⟨"'\x7b\x7b/", by decide, hopener _ (String.append_assoc ..)⟩
  | mismatchedClose opened closed =>
    refine ⟨"section '", by decide, hopener (opened ++ "' is closed by '" ++ closed ++ "'") ?_⟩
    simp only [message, String.append_assoc]
  | emptyIdentifier tag => exact ⟨"tag '", by decide, hopener _ (String.append_assoc ..)⟩
  | unterminatedTag tag => exact ⟨"tag '", by decide, hopener _ (String.append_assoc ..)⟩
  | invalidName name => exact ⟨"'", by decide, hopener _ (String.append_assoc ..)⟩

/-- No fault is shown as a text that ended inside a section, or as something unexpected. -/
theorem FaultCause.message_ne (cause : FaultCause) :
    cause.message ≠ "template ends inside an open section" ∧
      ¬ "unexpected ".toList <+: cause.message.toList := by
  obtain ⟨opener, hmem, hopener⟩ := cause.exists_opener
  constructor
  · intro heq
    rw [heq] at hopener
    have hnone : ∀ opener ∈ ["section '", "tag '", "'", "'\x7b\x7b/"],
        ¬ opener.toList <+: "template ends inside an open section".toList := by decide +kernel
    exact hnone opener hmem hopener
  · intro hunexpected
    have hnone : ∀ opener ∈ ["section '", "tag '", "'", "'\x7b\x7b/"],
        ¬ (opener.toList <+: "unexpected ".toList ∨ "unexpected ".toList <+: opener.toList) := by
      decide +kernel
    exact hnone opener hmem (List.prefix_or_prefix_of_prefix hopener hunexpected)

/-- What a text that does not nest is refused for, and where: parsing reports the faults of the
tags and one of nesting, the first closing tag without an opening one or else the innermost section
open at the end, in the order of their places. No fault of nesting is reported of a text that nests,
and every fault lies in the text. Reading by the grammar gives the same, so that neither of the
messages for anything else is ever shown. -/
theorem parse_tells_nesting (shown : PieceKind → String) (source : String) :
    (¬ Balanced (tokenize source).pieces → ∃ fault faults, parse source = .error faults ∧
      ReportsNesting (tokenize source) fault faults) ∧
    (Balanced (tokenize source).pieces → ∀ faults, parse source = .error faults →
      ∀ fault ∈ faults, fault.cause.isOfNesting = false) ∧
    (∀ faults, parse source = .error faults → ∀ fault ∈ faults,
      fault.span.start < fault.span.stop ∧ fault.span.stop ≤ source.utf8ByteSize) ∧
    readByGrammar shown source = (parse source).mapError (List.map Fault.complaint) ∧
    ∀ complaints, readByGrammar shown source = .error complaints → ∀ complaint ∈ complaints,
      complaint.message ≠ "template ends inside an open section" ∧
        ¬ "unexpected ".toList <+: complaint.message.toList := by
  have hgrammar := readByGrammar_eq shown source
  refine ⟨fun hunbalanced => ?_, fun hbalanced faults => isOfNesting_of_balanced hbalanced,
    fun faults h fault => bounds_of_parse_error h, hgrammar, fun complaints h => ?_⟩
  · obtain ⟨fault, hfault, -⟩ := exists_nestingFault hunbalanced
    exact ⟨fault, _, parse_of_nest_error hfault.nest_eq, reportsNesting_mergeSort hfault⟩
  · rw [hgrammar] at h
    cases hparse : parse source with
    | ok template =>
      rw [hparse] at h
      cases h
    | error faults =>
      rw [hparse] at h
      obtain rfl := Except.error.inj h
      intro complaint hmem
      obtain ⟨fault, -, rfl⟩ := List.mem_map.1 hmem
      exact fault.cause.message_ne

/-- A text with a tag that names nothing, sections closed under each other's names, a closing tag
that closes nothing and a section that is open at the end. -/
def tangled : String := "{{ }}{{#a}}{{#b}}{{/a}}{{/b}}{{/c}}{{#d}}"

/-- The tangled text is refused for the tag that names nothing and for the one that closes nothing;
up to that one it nests, and is refused for the names. -/
theorem tangled_tells_nesting :
    ¬ Balanced (tokenize tangled).pieces ∧
      ReportsNesting (tokenize tangled) ⟨.unmatchedClose "c", ⟨29, 35⟩⟩
        [⟨.emptyIdentifier "{{ }}", ⟨0, 5⟩⟩, ⟨.unmatchedClose "c", ⟨29, 35⟩⟩] ∧
      Balanced (tokenize "{{ }}{{#a}}{{#b}}{{/a}}{{/b}}").pieces ∧
      ∃ faults, parse "{{ }}{{#a}}{{#b}}{{/a}}{{/b}}" = .error faults ∧
        (∀ fault ∈ faults, fault.cause.isOfNesting = false ∧ fault.span.stop ≤ 29) ∧
        faults.map (fun fault => fault.cause.code) =
          [.emptyIdentifier, .mismatchedClose, .mismatchedClose] := by
  have hunbalanced : ¬ Balanced (tokenize tangled).pieces := by decide +kernel
  have hbalanced : Balanced (tokenize "{{ }}{{#a}}{{#b}}{{/a}}{{/b}}").pieces := by decide +kernel
  obtain ⟨hnesting, -⟩ := parse_tells_nesting (fun _ => "a piece") tangled
  obtain ⟨-, hnests, hbounds, -⟩ :=
    parse_tells_nesting (fun _ => "a piece") "{{ }}{{#a}}{{#b}}{{/a}}{{/b}}"
  have hparse : parse tangled = .error
      [⟨.emptyIdentifier "{{ }}", ⟨0, 5⟩⟩, ⟨.unmatchedClose "c", ⟨29, 35⟩⟩] := by
    have hpieces : (tokenize tangled).pieces =
        (tokenize "{{ }}{{#a}}{{#b}}{{/a}}{{/b}}").pieces ++
          Closing.piece ⟨"c", ⟨29, 35⟩⟩ :: [Opening.piece ⟨"d", ⟨35, 41⟩⟩] := by decide +kernel
    have hfaults : (tokenize tangled).faults = [⟨.emptyIdentifier "{{ }}", ⟨0, 5⟩⟩] := by
      decide +kernel
    rw [parse_of_nest_error (NestingFault.unmatched _ hpieces hbalanced).nest_eq, hfaults]
    exact congrArg Except.error (List.mergeSort_of_pairwise (by decide))
  have hparse' : parse "{{ }}{{#a}}{{#b}}{{/a}}{{/b}}" = .error
      [⟨.emptyIdentifier "{{ }}", ⟨0, 5⟩⟩, ⟨.mismatchedClose "a" "b", ⟨23, 29⟩⟩,
        ⟨.mismatchedClose "b" "a", ⟨17, 23⟩⟩] := by decide +kernel
  obtain ⟨fault, faults, hfaults, hreports⟩ := hnesting hunbalanced
  obtain rfl := Except.error.inj (hparse.symm.trans hfaults)
  have honce := hreports.once
  obtain rfl := List.head_eq_of_cons_eq honce
  exact ⟨hunbalanced, hreports, hbalanced, _, hparse', fun fault hmem =>
    ⟨hnests hbalanced _ hparse' fault hmem, (hbounds _ hparse' fault hmem).2⟩, rfl⟩

end TemplateCodegen.Template
