import TemplateCodegen.Proofs.Text.Trimming
import TemplateCodegen.Template.Piece

/-!
# The shape of tags

A tag that can be read is two opening braces, blanks, a mark or none, blanks, a name, blanks, and
two closing braces. Main statement: reading a tag gives a piece exactly when the tag has that shape,
and then the piece is the one that the mark asks for with that name (`readTag_eq_ok_iff`).
-/

namespace TemplateCodegen.Template

open Text (Blank)

/-- The word can stand in a tag as a name. -/
structure IsName (name : List Char) : Prop where
  /-- It is not empty. -/
  ne_nil : name ≠ []
  /-- It has only characters of names. -/
  chars : ∀ c ∈ name, isNameChar c = true

/-- The mark in front of a name, and the piece that it asks for. -/
inductive Marks : List Char → (String → PieceKind) → Prop where
  /-- No mark stands in front of the name of a placeholder. -/
  | bare : Marks [] .identifier
  /-- The mark of an opening tag. -/
  | opening : Marks ['#'] .sectionOpen
  /-- The mark of a closing tag. -/
  | closing : Marks ['/'] .sectionClose

/-- The text has the shape of a tag for the kind of piece. -/
inductive IsTag : PieceKind → List Char → Prop where
  /-- Braces, blanks, mark, blanks, name, blanks, braces. -/
  | intro {mark name before between behind : List Char} {make : String → PieceKind}
      (hmark : Marks mark make) (hname : IsName name) (hbefore : Blank before)
      (hbetween : Blank between) (hbehind : Blank behind) :
      IsTag (make (String.ofList name))
        (['{', '{'] ++ before ++ mark ++ between ++ name ++ behind ++ ['}', '}'])

/-! ### Trimming -/

/-- Characters of names are not blank. -/
theorem isBlank_of_isNameChar {c : Char} (h : isNameChar c = true) : Text.isBlank c = false := by
  simp only [isNameChar, Bool.or_eq_true, beq_iff_eq] at h
  rcases h with (halnum | rfl) | rfl
  · have hranges : (decide (c.val ≥ 65 ∧ c.val ≤ 90) ||
        (decide (c.val ≥ 97) && decide (c.val ≤ 122)) ||
        (decide (c.val ≥ 48) && decide (c.val ≤ 57))) = true := halnum
    simp only [Bool.or_eq_true, Bool.and_eq_true, decide_eq_true_eq, ge_iff_le,
      UInt32.le_iff_toNat_le] at hranges
    change ((65 ≤ c.toNat ∧ c.toNat ≤ 90) ∨ (97 ≤ c.toNat ∧ c.toNat ≤ 122)) ∨
      (48 ≤ c.toNat ∧ c.toNat ≤ 57) at hranges
    simp only [Text.isBlank, Bool.or_eq_false_iff, Bool.and_eq_false_iff, decide_eq_false_iff_not,
      beq_eq_false_iff_ne]
    omega
  · decide
  · decide

/-- A name is what trimming leaves of it between blanks. -/
theorem IsName.trim_around {name before behind : List Char} (h : IsName name)
    (hbefore : Blank before) (hbehind : Blank behind) :
    Text.trim (before ++ name ++ behind) = name :=
  Text.trim_around hbefore hbehind h.ne_nil
    (isBlank_of_isNameChar (h.chars _ (List.head_mem h.ne_nil)))
    (isBlank_of_isNameChar (h.chars _ (List.getLast_mem h.ne_nil)))

/-- A name is what trimming leaves behind blanks. -/
theorem IsName.trim_behind {name between : List Char} (h : IsName name)
    (hbetween : Blank between) : Text.trim (between ++ name) = name := by
  have htrim := h.trim_around hbetween Text.blank_nil
  rwa [List.append_nil] at htrim

/-- Trimming leaves a mark with the name behind it. -/
theorem IsName.trim_marked {name before between behind : List Char} {mark : Char}
    (h : IsName name) (hmark : Text.isBlank mark = false) (hbefore : Blank before)
    (hbehind : Blank behind) :
    Text.trim (before ++ [mark] ++ between ++ name ++ behind) = mark :: (between ++ name) := by
  have hne : between ++ name ≠ [] := List.append_ne_nil_of_right_ne_nil between h.ne_nil
  have hlast : Text.isBlank ((mark :: (between ++ name)).getLast (List.cons_ne_nil _ _)) =
      false := by
    rw [List.getLast_cons hne, List.getLast_append_of_ne_nil hne h.ne_nil]
    exact isBlank_of_isNameChar (h.chars _ (List.getLast_mem h.ne_nil))
  have htrim := Text.trim_around hbefore hbehind (List.cons_ne_nil _ _) hmark hlast
  simpa using htrim

/-! ### Reading -/

/-- The body of a tag stands between its two pairs of braces. -/
theorem tagBody?_eq_some_iff {rest body : List Char} :
    tagBody? ('{' :: '{' :: rest) = some body ↔ rest = body ++ ['}', '}'] := by
  have hrest : rest = rest.reverse.reverse := rest.reverse_reverse.symm
  unfold tagBody?
  rw [List.drop_succ_cons, List.drop_succ_cons, List.drop_zero]
  split
  · rename_i body' heq
    rw [hrest, heq]
    simp [eq_comm]
  · rename_i hnot
    refine ⟨fun h => (Option.some_ne_none _ h.symm).elim, ?_⟩
    rintro rfl
    exact (hnot body.reverse (by simp)).elim

/-- A tag is read when it has a body and its body a name, behind the mark. -/
theorem readTag_eq_ok {tag : List Char} {kind : PieceKind} :
    readTag tag = .ok kind ↔ ∃ body, tagBody? tag = some body ∧
      IsName (splitSigil (Text.trim body)).2 ∧
      kind = (splitSigil (Text.trim body)).1 (String.ofList (splitSigil (Text.trim body)).2) := by
  unfold readTag
  cases tagBody? tag with
  | none => simp
  | some body =>
    simp only [Option.some.injEq, exists_eq_left']
    generalize (splitSigil (Text.trim body)).1 = make
    generalize (splitSigil (Text.trim body)).2 = name
    by_cases hname : name = []
    · rw [if_pos hname]
      exact ⟨nofun, fun h => absurd hname h.1.ne_nil⟩
    · rw [if_neg hname]
      by_cases hchars : name.all isNameChar = true
      · rw [if_pos hchars, Except.ok.injEq]
        have hname' : IsName name := ⟨hname, List.all_eq_true.1 hchars⟩
        exact ⟨fun h => ⟨hname', h.symm⟩, fun h => h.2.symm⟩
      · rw [if_neg hchars]
        exact ⟨nofun, fun h => absurd (List.all_eq_true.2 h.1.chars) hchars⟩

/-- A tag that is not read names nothing or is malformed. -/
theorem code_of_readTag_eq_error {tag : List Char} {cause : FaultCause}
    (h : readTag tag = .error cause) :
    cause.code = .emptyIdentifier ∨ cause.code = .malformedTag := by
  unfold readTag at h
  cases hbody : tagBody? tag with
  | none =>
    rw [hbody] at h
    obtain rfl := Except.error.inj h
    exact .inr rfl
  | some body =>
    simp only [hbody] at h
    split at h
    · obtain rfl := Except.error.inj h
      exact .inl rfl
    · split at h
      · exact nomatch h
      · obtain rfl := Except.error.inj h
        exact .inr rfl

/-- Behind a mark the name is trimmed once more; a text without a mark is the name. -/
theorem exists_splitSigil (body : List Char) :
    ∃ mark rest make, Marks mark make ∧ body = mark ++ rest ∧ (splitSigil body).1 = make ∧
      ((splitSigil body).2 = Text.trim rest ∨ (splitSigil body).2 = rest) := by
  unfold splitSigil
  split
  · exact ⟨_, _, _, .opening, rfl, rfl, .inl rfl⟩
  · exact ⟨_, _, _, .closing, rfl, rfl, .inl rfl⟩
  · exact ⟨_, _, _, .bare, rfl, rfl, .inr rfl⟩

/-- A body that has a name behind its mark has the shape of a tag's inside. -/
theorem isTag_of_isName {body : List Char} (h : IsName (splitSigil (Text.trim body)).2) :
    IsTag ((splitSigil (Text.trim body)).1 (String.ofList (splitSigil (Text.trim body)).2))
      ('{' :: '{' :: (body ++ ['}', '}'])) := by
  obtain ⟨before, behind, hbody, hbefore, hbehind⟩ := Text.exists_trim body
  obtain ⟨mark, rest, make, hmark, hrest, hmake, hname⟩ := exists_splitSigil (Text.trim body)
  rw [hmake]
  generalize (splitSigil (Text.trim body)).2 = name at h hname
  rw [hbody, hrest]
  rcases hname with rfl | rfl
  · obtain ⟨between, after, heq, hbetween, hafter⟩ := Text.exists_trim rest
    have htag := IsTag.intro hmark h hbefore hbetween (hafter.append hbehind)
    generalize Text.trim rest = name at heq htag
    subst heq
    simpa using htag
  · have htag := IsTag.intro hmark h hbefore Text.blank_nil hbehind
    simpa using htag

/-- Without a mark in front, a name is taken as it is. -/
theorem IsName.splitSigil_eq {name : List Char} (h : IsName name) :
    splitSigil name = (.identifier, name) := by
  unfold splitSigil
  split
  · exact absurd (h.chars _ List.mem_cons_self) (by decide)
  · exact absurd (h.chars _ List.mem_cons_self) (by decide)
  · rfl

/-- Inside a tag, the mark and the name are found again. -/
theorem splitSigil_trim {mark name before between behind : List Char} {make : String → PieceKind}
    (hmark : Marks mark make) (hname : IsName name) (hbefore : Blank before)
    (hbetween : Blank between) (hbehind : Blank behind) :
    splitSigil (Text.trim (before ++ mark ++ between ++ name ++ behind)) = (make, name) := by
  have hinner := hname.trim_behind hbetween
  cases hmark with
  | bare =>
    rw [List.append_nil, hname.trim_around (hbefore.append hbetween) hbehind, hname.splitSigil_eq]
  | opening =>
    rw [hname.trim_marked (by decide) hbefore hbehind]
    exact congrArg (Prod.mk PieceKind.sectionOpen) hinner
  | closing =>
    rw [hname.trim_marked (by decide) hbefore hbehind]
    exact congrArg (Prod.mk PieceKind.sectionClose) hinner

/-- A text of the shape of a tag is read as the piece that the shape asks for. -/
theorem IsTag.readTag_eq {kind : PieceKind} {tag : List Char} (h : IsTag kind tag) :
    readTag tag = .ok kind := by
  obtain @⟨mark, name, before, between, behind, make, hmark, hname, hbefore, hbetween, hbehind⟩ := h
  refine readTag_eq_ok.2 ⟨before ++ mark ++ between ++ name ++ behind, ?_, ?_⟩
  · have hbraces : ['{', '{'] ++ before ++ mark ++ between ++ name ++ behind ++ ['}', '}'] =
        '{' :: '{' :: (before ++ mark ++ between ++ name ++ behind ++ ['}', '}']) := by simp
    rw [hbraces, tagBody?_eq_some_iff]
  · rw [splitSigil_trim hmark hname hbefore hbetween hbehind]
    exact ⟨hname, rfl⟩

/-- Reading a tag gives a piece exactly when the tag has the shape that the piece asks for. -/
theorem readTag_eq_ok_iff {rest : List Char} {kind : PieceKind} :
    readTag ('{' :: '{' :: rest) = .ok kind ↔ IsTag kind ('{' :: '{' :: rest) := by
  refine ⟨fun h => ?_, fun h => h.readTag_eq⟩
  obtain ⟨body, hbody, hname, rfl⟩ := readTag_eq_ok.1 h
  rw [tagBody?_eq_some_iff.1 hbody]
  exact isTag_of_isName hname

end TemplateCodegen.Template
