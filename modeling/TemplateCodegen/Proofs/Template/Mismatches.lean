import TemplateCodegen.Proofs.Template.Bracketing

/-!
# Sections closed under other names

A closing tag closes the innermost section that is open, whatever its name is; a closing tag where
none is open ends the pairing. Pairs of tags with different names are reported when the tags nest.
A text whose tags do not nest is refused before names are compared, so that its pairs go unreported,
although the faults of its tags are all reported. Main statement: exactly the pairs with different
names are reported if the tags nest or there are no such pairs, and otherwise none of them is
(`mismatches_told_iff`).
-/

namespace TemplateCodegen.Template

/-- The pairs of tags when every closing tag closes the innermost open section, up to the first
closing tag where none is open. -/
def pairs : (opened : List Opening) → List Piece → List (Opening × Closing)
  | _, [] => []
  | opened, ⟨.text _, _⟩ :: rest => pairs opened rest
  | opened, ⟨.identifier _, _⟩ :: rest => pairs opened rest
  | opened, ⟨.sectionOpen name, span⟩ :: rest => pairs (⟨name, span⟩ :: opened) rest
  | [], ⟨.sectionClose _, _⟩ :: _ => []
  | opening :: opened, ⟨.sectionClose name, span⟩ :: rest =>
    (opening, ⟨name, span⟩) :: pairs opened rest

/-- The faults of the pairs of tags with different names. -/
def misnamed (pieces : List Piece) : List Fault :=
  (pairs [] pieces).flatMap fun pair => mismatch pair.1 pair.2

/-- The faults that a text is refused for; none when it is read. -/
def faultsOf (source : String) : List Fault :=
  match parse source with
  | .ok _ => []
  | .error faults => faults

/-- Whether a fault is a section that is closed under another name. -/
def Fault.isMismatch (fault : Fault) : Bool := fault.cause.code == .mismatchedClose

/-- Of sections closed under other names, exactly the pairs of tags with different names are
reported, each at its closing tag with both names. -/
def TellsMismatches (source : String) : Prop :=
  ∀ fault : Fault, fault.isMismatch = true →
    (fault ∈ faultsOf source ↔ ∃ opening closing,
      (opening, closing) ∈ pairs [] (tokenize source).pieces ∧ closing.name ≠ opening.name ∧
        fault = ⟨.mismatchedClose opening.name closing.name, closing.span⟩)

/-! ### Pairs of nodes -/

/-- The pairs of tags of the sections among nodes, a section behind those inside it. -/
def Draft.pairs : Draft → List (Opening × Closing)
  | .empty => []
  | .text _ _ rest => rest.pairs
  | .identifier _ _ rest => rest.pairs
  | .block opening body closing rest => body.pairs ++ (opening, closing) :: rest.pairs

/-- The pieces of nodes are paired as the nodes have them. -/
theorem Draft.pairs_pieces_append (draft : Draft) (opened : List Opening) (behind : List Piece) :
    Template.pairs opened (draft.pieces ++ behind) =
      draft.pairs ++ Template.pairs opened behind := by
  induction draft generalizing opened behind with
  | empty => rfl
  | text content span rest ih => exact ih opened behind
  | identifier name span rest ih => exact ih opened behind
  | block opening body closing rest ihbody ihrest =>
    rw [pieces, List.cons_append, List.append_assoc, List.cons_append, Opening.piece,
      Template.pairs, ihbody, Closing.piece, Template.pairs, ihrest, pairs, List.append_assoc,
      List.cons_append]

/-- The mismatches of nodes are those of their pairs, in another order. -/
theorem Draft.mismatches_perm (draft : Draft) :
    draft.mismatches.Perm (draft.pairs.flatMap fun pair => mismatch pair.1 pair.2) := by
  induction draft with
  | empty => exact .nil
  | text content span rest ih => exact ih
  | identifier name span rest ih => exact ih
  | block opening body closing rest ihbody ihrest =>
    rw [mismatches, pairs, List.flatMap_append, List.flatMap_cons, ← List.append_assoc]
    exact (List.perm_append_comm.trans (ihbody.append_right _)).append ihrest

/-- The mismatches of nodes are the misnamed pairs of their pieces. -/
theorem Draft.mismatches_perm_misnamed (draft : Draft) :
    draft.mismatches.Perm (misnamed draft.pieces) := by
  have hpairs : Template.pairs [] draft.pieces = draft.pairs := by
    have h := draft.pairs_pieces_append [] []
    rwa [List.append_nil, Template.pairs, List.append_nil] at h
  rw [misnamed, hpairs]
  exact draft.mismatches_perm

/-- The misnamed pairs are those whose names differ. -/
theorem mem_misnamed_iff {pieces : List Piece} {fault : Fault} :
    fault ∈ misnamed pieces ↔ ∃ opening closing, (opening, closing) ∈ pairs [] pieces ∧
      closing.name ≠ opening.name ∧
        fault = ⟨.mismatchedClose opening.name closing.name, closing.span⟩ := by
  simp only [misnamed, mismatch, List.mem_flatMap, Prod.exists, List.mem_ite_nil_left,
    List.mem_singleton, ne_eq]

/-- A misnamed pair is a mismatch. -/
theorem isMismatch_of_mem_misnamed {pieces : List Piece} {fault : Fault}
    (h : fault ∈ misnamed pieces) : fault.isMismatch = true := by
  obtain ⟨opening, closing, -, -, rfl⟩ := mem_misnamed_iff.1 h
  rfl

/-! ### Reports -/

/-- Among the faults of tags none is about different names. -/
theorem filter_isMismatch_faults (source : String) :
    (tokenize source).faults.filter Fault.isMismatch = [] := by
  refine List.filter_eq_nil_iff.2 fun fault hfault hmismatch => ?_
  have hcode : fault.cause.code = .mismatchedClose := beq_iff_eq.1 hmismatch
  rcases code_of_mem_faults hfault with h | h <;> exact nomatch hcode.symm.trans h

/-- All mismatches of nodes are about different names. -/
theorem Draft.filter_isMismatch_mismatches (draft : Draft) :
    draft.mismatches.filter Fault.isMismatch = draft.mismatches :=
  List.filter_eq_self.2 fun _ hfault =>
    beq_iff_eq.2 (Draft.exists_closing_of_mem_mismatches hfault).1

/-- A text that nests is refused for its misnamed pairs, and among them for no others. -/
theorem filter_faultsOf_of_balanced {source : String}
    (h : Balanced (tokenize source).pieces) :
    ((faultsOf source).filter Fault.isMismatch).Perm (misnamed (tokenize source).pieces) := by
  obtain ⟨draft, hpieces⟩ := h.exists_draft
  have hperm := draft.mismatches_perm_misnamed
  rw [hpieces] at hperm
  have hfaults : faultsOf source = (tokenize source).faults ++ draft.mismatches := by
    unfold faultsOf
    rw [parse_of_pieces hpieces]
    split_ifs with hnone
    · exact hnone.symm
    · rfl
  rw [hfaults, List.filter_append, filter_isMismatch_faults, draft.filter_isMismatch_mismatches]
  exact hperm

/-- A text that does not nest is refused for no pair. -/
theorem filter_faultsOf_of_not_balanced {source : String}
    (h : ¬ Balanced (tokenize source).pieces) :
    (faultsOf source).filter Fault.isMismatch = [] := by
  obtain ⟨fault, hfault, -⟩ := exists_nestingFault h
  have hreports := reportsNesting_mergeSort hfault
  have hnesting := hfault.exists_piece.1
  have hone : fault.isMismatch = false := by
    unfold Fault.isMismatch
    cases hcause : fault.cause <;> rw [hcause] at hnesting <;> first | rfl | cases hnesting
  unfold faultsOf
  rw [parse_of_nest_error hfault.nest_eq]
  have hkept := hreports.perm.filter Fault.isMismatch
  rw [List.filter_append, filter_isMismatch_faults, List.filter_cons, if_neg] at hkept
  · exact List.perm_nil.1 hkept
  · rw [hone]
    exact Bool.false_ne_true

/-- No mismatch is reported but those of misnamed pairs. -/
theorem mem_misnamed_of_mem_faultsOf {source : String} {fault : Fault}
    (hmem : fault ∈ faultsOf source) (hmismatch : fault.isMismatch = true) :
    fault ∈ misnamed (tokenize source).pieces := by
  have hfilter := List.mem_filter.2 ⟨hmem, hmismatch⟩
  by_cases hnests : Balanced (tokenize source).pieces
  · exact (filter_faultsOf_of_balanced hnests).mem_iff.1 hfilter
  · rw [filter_faultsOf_of_not_balanced hnests] at hfilter
    cases hfilter

/-- Where a misnamed pair is reported, the tags nest. -/
theorem balanced_of_mem_faultsOf {source : String} {fault : Fault}
    (hmem : fault ∈ faultsOf source) (hmismatch : fault.isMismatch = true) :
    Balanced (tokenize source).pieces := by
  by_contra hnests
  have hfilter := List.mem_filter.2 ⟨hmem, hmismatch⟩
  rw [filter_faultsOf_of_not_balanced hnests] at hfilter
  cases hfilter

/-- Whatever the text, no mismatch is reported but those of its misnamed pairs. They are all
reported when its tags nest, and none of them when its tags do not, so that the mismatches are
reported exactly if the tags nest or no pair is misnamed. -/
theorem mismatches_told_iff (source : String) :
    (∀ fault ∈ faultsOf source, fault.isMismatch = true →
      fault ∈ misnamed (tokenize source).pieces) ∧
    (Balanced (tokenize source).pieces →
      ((faultsOf source).filter Fault.isMismatch).Perm (misnamed (tokenize source).pieces)) ∧
    (¬ Balanced (tokenize source).pieces → (faultsOf source).filter Fault.isMismatch = []) ∧
    (TellsMismatches source ↔
      Balanced (tokenize source).pieces ∨ misnamed (tokenize source).pieces = []) := by
  refine ⟨fun _ => mem_misnamed_of_mem_faultsOf, filter_faultsOf_of_balanced,
    filter_faultsOf_of_not_balanced, ?_, ?_⟩
  · intro htells
    refine or_iff_not_imp_right.2 fun hmisnamed => ?_
    obtain ⟨fault, hfault⟩ := List.exists_mem_of_ne_nil _ hmisnamed
    have hmismatch := isMismatch_of_mem_misnamed hfault
    have hreported := (htells fault hmismatch).2 (mem_misnamed_iff.1 hfault)
    exact balanced_of_mem_faultsOf hreported hmismatch
  · intro h fault hmismatch
    rw [← mem_misnamed_iff]
    refine ⟨fun hmem => mem_misnamed_of_mem_faultsOf hmem hmismatch, fun hmem => ?_⟩
    rcases h with hnests | hnone
    · exact (List.mem_filter.1 ((filter_faultsOf_of_balanced hnests).mem_iff.2 hmem)).1
    · rw [hnone] at hmem
      cases hmem

/-- A text with a tag that names nothing and two sections, each closed under the other's name. -/
def crossed : String := "{{ }}{{#a}}{{#b}}{{/a}}{{/b}}"

/-- The tags of the crossed text nest, so that both mismatches are reported beside the tag that
names nothing. -/
theorem crossed_tells :
    TellsMismatches crossed ∧
      (faultsOf crossed).map (fun fault => (fault.cause, fault.span)) =
        [(.emptyIdentifier "{{ }}", ⟨0, 5⟩), (.mismatchedClose "a" "b", ⟨23, 29⟩),
          (.mismatchedClose "b" "a", ⟨17, 23⟩)] := by
  obtain ⟨-, -, -, htells⟩ := mismatches_told_iff crossed
  exact ⟨htells.2 (.inl (by decide +kernel)), by decide +kernel⟩

/-- Behind a section that is closed under another name, an open section or a closing tag that closes
nothing is all that is reported. -/
theorem unended_not_tells :
    pairs [] (tokenize "{{#a}}{{/b}}{{#c}}").pieces = [(⟨"a", ⟨0, 6⟩⟩, ⟨"b", ⟨6, 12⟩⟩)] ∧
      faultsOf "{{#a}}{{/b}}{{#c}}" = [⟨.unclosedSection "c", ⟨12, 18⟩⟩] ∧
      ¬ TellsMismatches "{{#a}}{{/b}}{{#c}}" ∧
      faultsOf "{{#a}}{{/b}}{{/c}}" = [⟨.unmatchedClose "c", ⟨12, 18⟩⟩] ∧
      ¬ TellsMismatches "{{#a}}{{/b}}{{/c}}" := by
  -- no tag is at fault by itself, and reading stops at the fault of the nesting
  have hfault {source : String} {fault : Fault} (htags : (tokenize source).faults = [])
      (hnest : nest [] (tokenize source).pieces = .error fault) : faultsOf source = [fault] := by
    unfold faultsOf
    rw [parse_of_nest_error hnest, htags, List.nil_append, List.mergeSort_singleton]
  have hunended : (tokenize "{{#a}}{{/b}}{{#c}}").pieces =
      [Opening.piece ⟨"a", ⟨0, 6⟩⟩, Closing.piece ⟨"b", ⟨6, 12⟩⟩,
        Opening.piece ⟨"c", ⟨12, 18⟩⟩] := by decide +kernel
  have hunmatched : (tokenize "{{#a}}{{/b}}{{/c}}").pieces =
      [Opening.piece ⟨"a", ⟨0, 6⟩⟩, Closing.piece ⟨"b", ⟨6, 12⟩⟩,
        Closing.piece ⟨"c", ⟨12, 18⟩⟩] := by decide +kernel
  have hfaults : faultsOf "{{#a}}{{/b}}{{#c}}" = [⟨.unclosedSection "c", ⟨12, 18⟩⟩] :=
    hfault (by decide +kernel) (by rw [hunended]; rfl)
  have hfaults' : faultsOf "{{#a}}{{/b}}{{/c}}" = [⟨.unmatchedClose "c", ⟨12, 18⟩⟩] :=
    hfault (by decide +kernel) (by rw [hunmatched]; rfl)
  have hpairs : pairs [] (tokenize "{{#a}}{{/b}}{{#c}}").pieces =
      [(⟨"a", ⟨0, 6⟩⟩, ⟨"b", ⟨6, 12⟩⟩)] := by rw [hunended]; rfl
  have hpairs' : pairs [] (tokenize "{{#a}}{{/b}}{{/c}}").pieces =
      [(⟨"a", ⟨0, 6⟩⟩, ⟨"b", ⟨6, 12⟩⟩)] := by rw [hunmatched]; rfl
  have hneeds {source : String}
      (hpair : pairs [] (tokenize source).pieces = [(⟨"a", ⟨0, 6⟩⟩, ⟨"b", ⟨6, 12⟩⟩)])
      (htells : TellsMismatches source) : ⟨.mismatchedClose "a" "b", ⟨6, 12⟩⟩ ∈ faultsOf source :=
    (htells ⟨.mismatchedClose "a" "b", ⟨6, 12⟩⟩ rfl).2
      ⟨_, _, by rw [hpair]; exact List.mem_singleton.2 rfl, by decide, rfl⟩
  refine ⟨hpairs, hfaults, fun htells => ?_, hfaults', fun htells => ?_⟩
  · have hreported := hneeds hpairs htells
    rw [hfaults] at hreported
    exact absurd hreported (by decide)
  · have hreported := hneeds hpairs' htells
    rw [hfaults'] at hreported
    exact absurd hreported (by decide)

end TemplateCodegen.Template
