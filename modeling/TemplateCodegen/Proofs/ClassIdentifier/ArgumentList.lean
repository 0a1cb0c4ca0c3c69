import TemplateCodegen.Proofs.ClassIdentifier.Attribute
import TemplateCodegen.Proofs.ClassIdentifier.Brackets

/-!
# Argument lists

The argument list of a class name is cut at the commas that stand in no further brackets. The
brackets of each piece match, and with the commas between them the pieces are the inside of the
list. Main statement: the arguments that are returned are these pieces without the blanks around
them, as many as are counted, and the other names of a class have the same ones
(`isArgumentList_genericArguments`).
-/

namespace TemplateCodegen.ClassIdentifier

/-! ### Pieces -/

/-- A piece of a list, behind so many open brackets: it closes them, and its commas are inside of
brackets. -/
structure IsPiece (depth : Nat) (cs : List Char) : Prop extends Closes depth cs where
  /-- In front of a comma something is open. -/
  nested : ∀ front behind, cs = front ++ ',' :: behind →
    front.count '>' < front.count '<' + depth

/-- The pieces of a text that stands behind so many open brackets. -/
inductive IsCut : Nat → List Char → List (List Char) → Prop where
  /-- The text is one piece. -/
  | last {depth : Nat} {piece : List Char} (hpiece : IsPiece depth piece) :
      IsCut depth piece [piece]
  /-- A comma stands behind the first piece. -/
  | more {depth : Nat} {piece rest : List Char} {pieces : List (List Char)}
      (hpiece : IsPiece depth piece) (h : IsCut 0 rest pieces) :
      IsCut depth (piece ++ ',' :: rest) (piece :: pieces)

/-- Where nothing is open the empty text is a piece. -/
theorem isPiece_nil : IsPiece 0 [] := by
  refine ⟨closes_nil_iff.2 rfl, fun front behind hsplit => ?_⟩
  exact absurd (List.append_eq_nil_iff.1 hsplit.symm).2 (List.cons_ne_nil _ _)

section Cutting

variable {depth inner : Nat} {c : Char}

/-- One character in front of a piece. -/
theorem IsPiece.cons {rest : List Char} (h : IsPiece inner rest) (hnests : Nests depth c inner) :
    IsPiece depth (c :: rest) := by
  have hcloses := hnests.closes_cons_iff.2 h.toCloses
  refine ⟨hcloses, fun front behind hsplit => ?_⟩
  cases front with
  | nil =>
    -- the character itself is the comma
    have hdepth : depth ≠ 0 := fun hzero => hnests.not_comma ⟨(List.cons.inj hsplit).1, hzero⟩
    rw [List.count_nil, List.count_nil]
    omega
  | cons first front =>
    rw [List.cons_append] at hsplit
    obtain ⟨rfl, hrest⟩ := List.cons.inj hsplit
    have hnested := h.nested front behind hrest
    have hwhole := hcloses.total
    have hlater := h.total
    rw [List.count_cons, List.count_cons] at hwhole ⊢
    omega

/-- One character in front of the first piece. -/
theorem IsCut.extendFirst {rest : List Char} {pieces extended : List (List Char)}
    (h : IsCut inner rest pieces) (hnests : Nests depth c inner)
    (hextended : splitArguments.extendFirst c (some pieces) = some extended) :
    IsCut depth (c :: rest) extended := by
  cases h with
  | last hpiece =>
    obtain rfl := Option.some.inj hextended
    exact .last (hpiece.cons hnests)
  | more hpiece hrest =>
    obtain rfl := Option.some.inj hextended
    exact .more (hpiece.cons hnests) hrest

/-- Cutting gives the pieces of the text. -/
theorem isCut_splitArguments {cs : List Char} {pieces : List (List Char)}
    (h : splitArguments depth cs = some pieces) : IsCut depth cs pieces := by
  induction cs generalizing depth pieces with
  | nil =>
    cases depth with
    | zero =>
      obtain rfl := Option.some.inj h
      exact .last isPiece_nil
    | succ outer => cases h
  | cons c rest ih =>
    rcases splitArguments_cons_cases depth c rest with
      ⟨rfl, rfl, heq⟩ | ⟨rfl, rfl, heq⟩ | ⟨inner, hnests, heq⟩
    · -- a comma ends the first piece, which is empty so far
      rw [heq] at h
      obtain ⟨later, hlater, rfl⟩ := Option.map_eq_some_iff.1 h
      exact .more isPiece_nil (ih hlater)
    · rw [heq] at h
      cases h
    · rw [heq] at h
      cases hfound : splitArguments inner rest with
      | none =>
        rw [hfound] at h
        cases h
      | some found =>
        rw [hfound] at h
        exact (ih hfound).extendFirst hnests h

end Cutting

/-- There is at least one piece. -/
theorem IsCut.ne_nil {depth : Nat} {cs : List Char} {pieces : List (List Char)}
    (h : IsCut depth cs pieces) : pieces ≠ [] := by
  cases h with
  | last hpiece => exact List.cons_ne_nil _ _
  | more hpiece hrest => exact List.cons_ne_nil _ _

/-- With commas between them the pieces are the text. -/
theorem IsCut.intercalate_eq {depth : Nat} {cs : List Char} {pieces : List (List Char)}
    (h : IsCut depth cs pieces) : [','].intercalate pieces = cs := by
  induction h with
  | last hpiece => exact List.intercalate_singleton
  | more hpiece hrest ih =>
    rw [List.intercalate_cons_of_ne_nil hrest.ne_nil, ih, List.append_assoc, List.singleton_append]

/-- Where nothing is open in front, all pieces are such that nothing is open in front of them. -/
theorem IsCut.isPiece {cs : List Char} {pieces : List (List Char)} (h : IsCut 0 cs pieces) :
    ∀ piece ∈ pieces, IsPiece 0 piece := by
  generalize hdepth : 0 = depth at h
  induction h with
  | last hpiece =>
    obtain rfl := hdepth
    exact List.forall_mem_singleton.2 hpiece
  | more hpiece hrest ih =>
    obtain rfl := hdepth
    exact List.forall_mem_cons.2 ⟨hpiece, ih rfl⟩

/-! ### Arguments -/

/-- What an argument is. -/
structure IsArgument (argument : String) : Prop extends IsMatched argument.toList where
  /-- No blanks are around it. -/
  trimmed : Text.trimmed argument = argument
  /-- Its commas are inside of brackets. -/
  nested : ∀ front behind, argument.toList = front ++ ',' :: behind →
    front.count '>' < front.count '<'

/-- Without the blanks around it a piece is an argument. -/
theorem IsPiece.isArgument {piece : List Char} (h : IsPiece 0 piece) :
    IsArgument (String.ofList (Text.trim piece)) := by
  obtain ⟨before, behind, hpiece, hbefore, hbehind⟩ := Text.exists_trim piece
  have hopen : before.count '<' = 0 := hbefore.count_eq_zero (by decide)
  have hclose : before.count '>' = 0 := hbefore.count_eq_zero (by decide)
  have hopen' : behind.count '<' = 0 := hbehind.count_eq_zero (by decide)
  have hclose' : behind.count '>' = 0 := hbehind.count_eq_zero (by decide)
  have htrimmed := Text.trim_trim piece
  generalize Text.trim piece = core at hpiece htrimmed
  have htotal := h.total
  rw [hpiece, List.count_append, List.count_append, List.count_append, List.count_append] at htotal
  refine ⟨⟨fun front hfront => ?_, ?_⟩, ?_, fun front later hsplit => ?_⟩
  · rw [String.toList_ofList] at hfront
    obtain ⟨later, rfl⟩ := hfront
    have hprefix := h.prefixes (before ++ front) ⟨later ++ behind, by simp [hpiece]⟩
    rw [List.count_append, List.count_append] at hprefix
    omega
  · rw [String.toList_ofList]
    omega
  · rw [Text.trimmed, String.toList_ofList, htrimmed]
  · rw [String.toList_ofList] at hsplit
    have hnested := h.nested (before ++ front) (later ++ behind) (by simp [hpiece, hsplit])
    rw [List.count_append, List.count_append] at hnested
    omega

/-- Nothing is open in front of the pieces that are cut out of an argument list, and with commas
between them they are the inside of the list. -/
theorem rejoin_rawArguments? {name : List Char} {pieces : List (List Char)}
    (h : rawArguments? name = some pieces) :
    (∀ piece ∈ pieces, IsPiece 0 piece) ∧
      (suffixOf name = [] ∧ pieces = [] ∨
        suffixOf name = '<' :: ([','].intercalate pieces ++ ['>'])) := by
  unfold rawArguments? at h
  cases hsuffix : suffixOf name with
  | nil =>
    rw [hsuffix] at h
    obtain rfl := Option.some.inj h
    exact ⟨List.forall_mem_nil _, .inl ⟨rfl, rfl⟩⟩
  | cons c tail =>
    obtain rfl : c = '<' := eq_of_head?_suffixOf (by rw [hsuffix, List.head?_cons])
    rw [hsuffix] at h
    dsimp only at h
    split at h
    · rename_i hlast
      have hcut := isCut_splitArguments h
      refine ⟨hcut.isPiece, .inr ?_⟩
      rw [hcut.intercalate_eq, List.dropLast_append_getLast? '>' hlast]
    · cases h

/-! ### Lists -/

/-- The arguments of a name, in their order. -/
structure IsArgumentList (identifier : ClassIdentifier) (arguments : List String) : Prop where
  /-- There are as many as are counted. -/
  arity : identifier.genericArity = arguments.length
  /-- Each one is an argument. -/
  each : ∀ argument ∈ arguments, IsArgument argument
  /-- They are the pieces of the list without the blanks around them; with commas between them the
  pieces are the inside of the list. -/
  rejoined : ∃ pieces, rawArguments? identifier.className.toList = some pieces ∧
    arguments = pieces.map (fun piece => String.ofList (Text.trim piece)) ∧
    (identifier.genericSuffix = "" ∧ pieces = [] ∨
      identifier.genericSuffix.toList = '<' :: ([','].intercalate pieces ++ ['>']))
  /-- Other names of the class have the same arguments, and as many are counted. -/
  kept : ∀ renamed, identifier.IsRenamed renamed →
    renamed.genericArguments = .ok arguments ∧ renamed.genericArity = identifier.genericArity

/-- The arguments that are returned are those of the name. -/
theorem isArgumentList_genericArguments {identifier : ClassIdentifier} {arguments : List String}
    (h : identifier.genericArguments = .ok arguments) : identifier.IsArgumentList arguments := by
  have harity := length_genericArguments h
  obtain ⟨pieces, hpieces, rfl⟩ : ∃ pieces,
      rawArguments? identifier.className.toList = some pieces ∧
        arguments = pieces.map fun piece => String.ofList (Text.trim piece) := by
    unfold genericArguments at h
    split at h
    · rename_i pieces hpieces
      exact ⟨pieces, hpieces, (Except.ok.inj h).symm⟩
    · cases h
  obtain ⟨heach, hrejoined⟩ := rejoin_rawArguments? hpieces
  refine ⟨harity.symm, fun argument hargument => ?_, ⟨pieces, hpieces, rfl, ?_⟩,
    fun renamed hrenamed => ?_⟩
  · obtain ⟨piece, hpiece, rfl⟩ := List.mem_map.1 hargument
    exact (heach piece hpiece).isArgument
  · rw [genericSuffix, String.toList_ofList]
    refine hrejoined.imp_left fun hnone => ⟨?_, hnone.2⟩
    rw [hnone.1]
  · have hsuffix := hrenamed.suffixOf_eq
    constructor
    · rw [genericArguments, rawArguments?, hsuffix, ← rawArguments?, hpieces]
    · exact hrenamed.genericArity_eq

/-- A class with that base name and two arguments, of which the second one has a list of its own. -/
def indexed (base : String) : ClassIdentifier := ⟨"Acme", base ++ "< TKey , Map<string, List<T>>>"⟩

/-- The generator of indexes has the two arguments, and so has its attribute class. -/
theorem indexed_isArgumentList :
    (indexed "IndexGenerator").genericArguments = .ok ["TKey", "Map<string, List<T>>"] ∧
      (indexed "IndexGenerator").IsArgumentList ["TKey", "Map<string, List<T>>"] ∧
      (indexed "IndexAttribute").genericArguments = .ok ["TKey", "Map<string, List<T>>"] := by
  have harguments :
      (indexed "IndexGenerator").genericArguments = .ok ["TKey", "Map<string, List<T>>"] := rfl
  have hlist := isArgumentList_genericArguments harguments
  exact ⟨harguments, hlist, (hlist.kept _ .attributeForGenerator).1⟩

end TemplateCodegen.ClassIdentifier
