import TemplateCodegen.Proofs.ClassIdentifier.Arity

/-!
# Brackets of class names

Reading looks at the brackets of a class name from the first `<` on: there they must be balanced,
and the list that they enclose must end the name. A `>` in front of the first `<` is not looked at.
Main statement: what is read has a balanced argument list, and unbalanced names are refused exactly
when no such `>` is in what is read (`refusesUnbalanced_iff`).
-/

namespace TemplateCodegen.ClassIdentifier

/-! ### Balance -/

/-- The brackets of a text match. -/
structure IsMatched (cs : List Char) : Prop where
  /-- No part at the beginning closes more than it opens. -/
  prefixes : ∀ front, front <+: cs → front.count '>' ≤ front.count '<'
  /-- As many brackets are closed as are opened. -/
  total : cs.count '>' = cs.count '<'

/-- The brackets of a name match, and its argument list, if it has one, ends it. -/
structure IsBalanced (name : List Char) : Prop extends IsMatched name where
  /-- Behind brackets that have all been closed there is nothing. -/
  ending : ∀ front behind, name = front ++ behind → '<' ∈ front →
    front.count '>' = front.count '<' → behind = []

/-- A text closes the levels that are open in front of it, and those that it opens itself. -/
structure Closes (depth : Nat) (cs : List Char) : Prop where
  /-- No part at the beginning closes more levels than are open. -/
  prefixes : ∀ front, front <+: cs → front.count '>' ≤ front.count '<' + depth
  /-- At the end all levels are closed. -/
  total : cs.count '>' = cs.count '<' + depth

/-- Where nothing is open in front, a text closes what is open when its brackets match. -/
theorem closes_zero_iff {cs : List Char} : Closes 0 cs ↔ IsMatched cs :=
  ⟨fun h => ⟨h.prefixes, h.total⟩, fun h => ⟨h.prefixes, h.total⟩⟩

/-- The empty text closes nothing. -/
theorem closes_nil_iff {depth : Nat} : Closes depth [] ↔ depth = 0 := by
  constructor
  · intro h
    have htotal := h.total
    rw [List.count_nil, List.count_nil] at htotal
    omega
  · rintro rfl
    refine ⟨fun front hfront => ?_, rfl⟩
    rw [List.prefix_nil.1 hfront]
    exact Nat.le_refl 0

/-- A part that closes nothing but levels that are open in front of it changes the number of levels
that the rest has to close. -/
theorem closes_append_iff {depth inner : Nat} (part : List Char) {rest : List Char}
    (hopen : part.count '>' ≤ depth) (hinner : part.count '>' + inner = part.count '<' + depth) :
    Closes depth (part ++ rest) ↔ Closes inner rest := by
  constructor
  · intro h
    refine ⟨fun front hfront => ?_, ?_⟩
    · have hlonger := h.prefixes (part ++ front) ((List.prefix_append_right_inj part).2 hfront)
      rw [List.count_append, List.count_append] at hlonger
      omega
    · have htotal := h.total
      rw [List.count_append, List.count_append] at htotal
      omega
  · intro h
    refine ⟨fun front hfront => ?_, ?_⟩
    · rcases List.prefix_or_prefix_of_prefix hfront (List.prefix_append part rest) with
        hshort | ⟨later, rfl⟩
      · have hfew := hshort.count_le '>'
        omega
      · have hlater := h.prefixes later ((List.prefix_append_right_inj part).1 hfront)
        rw [List.count_append, List.count_append]
        omega
    · have htotal := h.total
      rw [List.count_append, List.count_append]
      omega

/-- A character inside of a piece leaves what is open behind it for the rest to close. -/
theorem Nests.closes_cons_iff {depth inner : Nat} {c : Char} {rest : List Char}
    (h : Nests depth c inner) : Closes depth (c :: rest) ↔ Closes inner rest := by
  have hlevel : [c].count '>' ≤ depth ∧ [c].count '>' + inner = [c].count '<' + depth := by
    cases h with
    | opening =>
      have hclosed : ['<'].count '>' = 0 := rfl
      have hopened : ['<'].count '<' = 1 := rfl
      omega
    | closing =>
      have hclosed : ['>'].count '>' = 1 := rfl
      have hopened : ['>'].count '<' = 0 := rfl
      omega
    | other hopen hclose hcomma =>
      have hclosed : [c].count '>' = 0 := List.count_eq_zero.2 (by simpa using Ne.symm hclose)
      have hopened : [c].count '<' = 0 := List.count_eq_zero.2 (by simpa using Ne.symm hopen)
      omega
  exact closes_append_iff [c] hlevel.1 hlevel.2

/-- A part without brackets makes no difference. -/
theorem closes_append_iff_of_notMem {depth : Nat} {part rest : List Char} (hopen : '<' ∉ part)
    (hclose : '>' ∉ part) : Closes depth (part ++ rest) ↔ Closes depth rest := by
  have hclosed : part.count '>' = 0 := List.count_eq_zero.2 hclose
  have hopened : part.count '<' = 0 := List.count_eq_zero.2 hopen
  exact closes_append_iff part (by omega) (by omega)

/-- One closing bracket more at the end closes one level more. -/
theorem Closes.concat_close {depth : Nat} {cs : List Char} (h : Closes depth cs) :
    Closes (depth + 1) (cs ++ ['>']) := by
  have hclosed : ['>'].count '>' = 1 := rfl
  have hopened : ['>'].count '<' = 0 := rfl
  have htotal := h.total
  have hwhole : (cs ++ ['>']).count '>' = (cs ++ ['>']).count '<' + (depth + 1) := by
    rw [List.count_append, List.count_append]
    omega
  refine ⟨fun front hfront => ?_, hwhole⟩
  rcases List.prefix_concat_iff.1 hfront with rfl | hshort
  · exact Nat.le_of_eq hwhole
  · have hprefix := h.prefixes front hshort
    omega

/-- Where nothing is open nothing can be closed. -/
theorem not_closes_zero {rest : List Char} : ¬ Closes 0 ('>' :: rest) := by
  intro h
  have hfirst := h.prefixes ['>'] (List.prefix_append ['>'] rest)
  exact absurd hfirst (by decide)

/-! ### Cutting -/

/-- One character in front does not decide whether there are pieces. -/
theorem isSome_extendFirst (c : Char) (pieces : Option (List (List Char))) :
    (splitArguments.extendFirst c pieces).isSome = pieces.isSome := by
  cases pieces with
  | none => rfl
  | some found =>
    cases found with
    | nil => rfl
    | cons piece more => rfl

/-- The inside of a list is cut exactly when it closes what is open. -/
theorem isSome_splitArguments_iff {depth : Nat} {cs : List Char} :
    (splitArguments depth cs).isSome = true ↔ Closes depth cs := by
  induction cs generalizing depth with
  | nil =>
    rw [closes_nil_iff]
    cases depth with
    | zero => exact ⟨fun _ => rfl, fun _ => rfl⟩
    | succ outer => exact ⟨nofun, nofun⟩
  | cons c rest ih =>
    rcases splitArguments_cons_cases depth c rest with
      ⟨rfl, rfl, heq⟩ | ⟨rfl, rfl, heq⟩ | ⟨inner, hnests, heq⟩
    · -- a comma ends the first piece
      have hcomma : Closes 0 ([','] ++ rest) ↔ Closes 0 rest :=
        closes_append_iff_of_notMem (by decide) (by decide)
      rw [heq, Option.isSome_map, ih]
      exact hcomma.symm
    · rw [heq]
      exact ⟨nofun, fun h => absurd h not_closes_zero⟩
    · rw [heq, isSome_extendFirst, ih, hnests.closes_cons_iff]

/-- A balanced argument list is closed by its last character, and its inside matches. -/
theorem IsBalanced.exists_inner {tail : List Char} (h : IsBalanced ('<' :: tail)) :
    ∃ inner, tail = inner ++ ['>'] ∧ IsMatched inner := by
  -- in front of its end the list stays open
  have hopen : ∀ front behind, tail = front ++ behind → behind ≠ [] →
      front.count '>' ≤ front.count '<' := by
    intro front behind htail hbehind
    have hprefix := h.prefixes ('<' :: front) ⟨behind, by rw [htail, List.cons_append]⟩
    have hending := h.ending ('<' :: front) behind (by rw [htail, List.cons_append])
      List.mem_cons_self
    rw [List.count_cons_self, List.count_cons_of_ne (by decide)] at hprefix hending
    have hne : front.count '>' ≠ front.count '<' + 1 := fun heq => hbehind (hending heq)
    omega
  have htotal := h.total
  rw [List.count_cons_self, List.count_cons_of_ne (by decide)] at htotal
  rcases List.eq_nil_or_concat' tail with rfl | ⟨inner, c, rfl⟩
  · exact absurd htotal (by decide)
  have hinner := hopen inner [c] rfl (List.cons_ne_nil c [])
  rw [List.count_append, List.count_append] at htotal
  have hlast : c = '>' := by
    by_contra hne
    have hnone : '>' ∉ [c] := fun hmem => hne (List.mem_singleton.1 hmem).symm
    rw [List.count_eq_zero.2 hnone] at htotal
    omega
  obtain rfl := hlast
  have hclosed : ['>'].count '>' = 1 := rfl
  have hopened : ['>'].count '<' = 0 := rfl
  refine ⟨inner, rfl, fun front hfront => ?_, by omega⟩
  obtain ⟨behind, rfl⟩ := hfront
  exact hopen front (behind ++ ['>']) (List.append_assoc front behind ['>'])
    (List.append_ne_nil_of_right_ne_nil behind (List.cons_ne_nil _ []))

/-- Brackets around a text whose brackets match are a balanced argument list. -/
theorem IsMatched.isBalanced {inner : List Char} (h : IsMatched inner) :
    IsBalanced ('<' :: (inner ++ ['>'])) := by
  have hwhole : Closes 0 ('<' :: (inner ++ ['>'])) :=
    Nests.opening.closes_cons_iff.2 (closes_zero_iff.2 h).concat_close
  refine ⟨closes_zero_iff.1 hwhole, fun front behind hsplit hmem hcount => ?_⟩
  cases front with
  | nil => exact absurd hmem List.not_mem_nil
  | cons c front =>
    rw [List.cons_append] at hsplit
    obtain ⟨rfl, htail⟩ := List.cons.inj hsplit
    rcases List.eq_nil_or_concat' behind with hnil | ⟨behind, last, rfl⟩
    · exact hnil
    · -- in front of the end the first bracket is still open
      rw [← List.append_assoc] at htail
      obtain ⟨hinner, -⟩ := List.append_inj' htail rfl
      have hprefix := h.prefixes front ⟨behind, hinner.symm⟩
      rw [List.count_cons_self, List.count_cons_of_ne (by decide)] at hcount
      omega

/-- The arguments of a name can be read exactly when its argument list is balanced. -/
theorem isSome_rawArguments?_iff {name : List Char} :
    (rawArguments? name).isSome = true ↔ IsBalanced (suffixOf name) := by
  unfold rawArguments?
  cases hsuffix : suffixOf name with
  | nil =>
    have hempty : IsMatched [] := closes_zero_iff.1 (closes_nil_iff.2 rfl)
    exact ⟨fun _ => ⟨hempty, fun _ _ hsplit _ _ => (List.append_eq_nil_iff.1 hsplit.symm).2⟩,
      fun _ => rfl⟩
  | cons c tail =>
    obtain rfl : c = '<' := eq_of_head?_suffixOf (by rw [hsuffix, List.head?_cons])
    dsimp only
    constructor
    · intro h
      split at h
      · rename_i hlast
        have htail : tail.dropLast ++ ['>'] = tail := List.dropLast_append_getLast? '>' hlast
        rw [← htail]
        exact (closes_zero_iff.1 (isSome_splitArguments_iff.1 h)).isBalanced
      · cases h
    · intro h
      obtain ⟨inner, rfl, hinner⟩ := h.exists_inner
      rw [List.getLast?_concat, if_pos rfl, List.dropLast_concat]
      exact isSome_splitArguments_iff.2 (closes_zero_iff.2 hinner)

/-! ### Names -/

/-- A part without brackets in front of a name does not decide whether it is balanced. -/
theorem isBalanced_append_iff {base name : List Char} (hopen : '<' ∉ base) (hclose : '>' ∉ base) :
    IsBalanced (base ++ name) ↔ IsBalanced name := by
  have hcount : ∀ front, (base ++ front).count '>' = front.count '>' ∧
      (base ++ front).count '<' = front.count '<' := by
    intro front
    rw [List.count_append, List.count_append, List.count_eq_zero.2 hopen,
      List.count_eq_zero.2 hclose, Nat.zero_add, Nat.zero_add]
    exact ⟨rfl, rfl⟩
  have hmatched : IsMatched (base ++ name) ↔ IsMatched name := by
    rw [← closes_zero_iff, ← closes_zero_iff, closes_append_iff_of_notMem hopen hclose]
  constructor
  · intro h
    refine ⟨hmatched.1 h.toIsMatched, fun front behind hsplit hmem heq => ?_⟩
    refine h.ending (base ++ front) behind ?_ (List.mem_append_right base hmem) ?_
    · rw [hsplit, List.append_assoc]
    · rw [(hcount front).1, (hcount front).2, heq]
  · intro h
    refine ⟨hmatched.2 h.toIsMatched, fun front behind hsplit hmem heq => ?_⟩
    rcases List.append_eq_append_iff.1 hsplit with ⟨later, rfl, hname⟩ | ⟨later, rfl, -⟩
    · rw [(hcount later).1, (hcount later).2] at heq
      have hlater : '<' ∈ later := (List.mem_append.1 hmem).resolve_left hopen
      exact h.ending later behind hname hlater heq
    · exact absurd (List.mem_append_left later hmem) hopen

/-- A name is balanced when its argument list is and nothing is closed in front of it. -/
theorem isBalanced_iff {name : List Char} :
    IsBalanced name ↔ '>' ∉ baseOf name ∧ IsBalanced (suffixOf name) := by
  have hparts := baseOf_append_suffixOf name
  constructor
  · intro h
    have hclose : '>' ∉ baseOf name := by
      have hprefix := h.prefixes (baseOf name) ⟨suffixOf name, hparts⟩
      rw [List.count_eq_zero.2 (notMem_baseOf name)] at hprefix
      exact List.count_eq_zero.1 (Nat.le_zero.1 hprefix)
    refine ⟨hclose, ?_⟩
    rwa [← isBalanced_append_iff (notMem_baseOf name) hclose, hparts]
  · rintro ⟨hclose, hsuffix⟩
    rw [← hparts]
    exact (isBalanced_append_iff (notMem_baseOf name) hclose).2 hsuffix

/-! ### Reading -/

/-- A text without dots is read as a class name in the global namespace, when its arguments can be
read, and else it is refused with that name. -/
theorem parse_of_undotted {text : String} (hne : Text.trim text.toList ≠ [])
    (hdot : '.' ∉ Text.trim text.toList) :
    parse text =
      if (rawArguments? (Text.trim text.toList)).isSome = true then .ok ⟨"", Text.trimmed text⟩
      else .error (.unbalancedGenerics (Text.trimmed text)) := by
  unfold parse
  simp only [splitAtLastDot_of_notMem hdot, Option.getD_none, if_neg hne]
  rw [genericArguments]
  dsimp only
  rw [String.toList_ofList]
  cases rawArguments? (Text.trim text.toList) with
  | none => rfl
  | some arguments => rfl

/-- What is read has a balanced argument list. -/
theorem isBalanced_of_parse {text : String} {identifier : ClassIdentifier}
    (h : parse text = .ok identifier) : IsBalanced (suffixOf identifier.className.toList) := by
  obtain ⟨before, front, behind, -, -, -, hspelling⟩ := parse_eq_ok_iff.1 h
  exact isSome_rawArguments?_iff.1 hspelling.balanced

/-- Nothing unbalanced is read from the text, and as a class name without dots an unbalanced text is
refused for its brackets. -/
structure RefusesUnbalanced (text : String) : Prop where
  /-- The class name that is read is balanced. -/
  read (identifier : ClassIdentifier) :
    parse text = .ok identifier → IsBalanced identifier.className.toList
  /-- A text without dots that is not balanced is refused with that name. -/
  refused : Text.trim text.toList ≠ [] → '.' ∉ Text.trim text.toList →
    ¬ IsBalanced (Text.trim text.toList) →
      parse text = .error (.unbalancedGenerics (Text.trimmed text))

/-- What is read always has a balanced argument list at its end, and a text without dots whose list
is not balanced is refused for its brackets. All that is not balanced is refused exactly when
nothing is read that has a closing bracket in front of its list. -/
theorem refusesUnbalanced_iff (text : String) :
    (∀ identifier, parse text = .ok identifier →
        IsBalanced (suffixOf identifier.className.toList)) ∧
      (Text.trim text.toList ≠ [] → '.' ∉ Text.trim text.toList →
        ¬ IsBalanced (suffixOf (Text.trim text.toList)) →
          parse text = .error (.unbalancedGenerics (Text.trimmed text))) ∧
      (RefusesUnbalanced text ↔ ∀ identifier, parse text = .ok identifier →
        '>' ∉ baseOf identifier.className.toList) := by
  have hrefused : Text.trim text.toList ≠ [] → '.' ∉ Text.trim text.toList →
      ¬ IsBalanced (suffixOf (Text.trim text.toList)) →
        parse text = .error (.unbalancedGenerics (Text.trimmed text)) := by
    intro hne hdot hsuffix
    rw [parse_of_undotted hne hdot, if_neg (mt isSome_rawArguments?_iff.1 hsuffix)]
  refine ⟨fun _ => isBalanced_of_parse, hrefused, fun h identifier hread => ?_, fun h => ?_⟩
  · exact (isBalanced_iff.1 (h.read identifier hread)).1
  · refine ⟨fun identifier hread => ?_, fun hne hdot hname => ?_⟩
    · exact isBalanced_iff.2 ⟨h identifier hread, isBalanced_of_parse hread⟩
    · by_cases hsuffix : IsBalanced (suffixOf (Text.trim text.toList))
      · -- then it would be read, with a closing bracket in front of its list
        have hread := parse_of_undotted hne hdot
        rw [if_pos (isSome_rawArguments?_iff.2 hsuffix)] at hread
        have hclose := h _ hread
        rw [Text.trimmed, String.toList_ofList] at hclose
        exact absurd (isBalanced_iff.2 ⟨hclose, hsuffix⟩) hname
      · exact hrefused hne hdot hsuffix

/-- With closed lists in its list a name is read, and it is refused when one of them stays open. -/
theorem lists_refusesUnbalanced :
    RefusesUnbalanced "Acme.Map<string, List<int>>" ∧
      parse "Acme.Map<string, List<int>>" = .ok ⟨"Acme", "Map<string, List<int>>"⟩ ∧
      RefusesUnbalanced " Map<string, List<int> " ∧
      parse " Map<string, List<int> " = .error (.unbalancedGenerics "Map<string, List<int>") := by
  have hread : parse "Acme.Map<string, List<int>>" = .ok ⟨"Acme", "Map<string, List<int>>"⟩ := rfl
  have hopen : ¬ IsBalanced (suffixOf (Text.trim " Map<string, List<int> ".toList)) :=
    fun h => absurd h.total (by decide)
  have hrefused :=
    (refusesUnbalanced_iff " Map<string, List<int> ").2.1 (by decide) (by decide) hopen
  refine ⟨(refusesUnbalanced_iff _).2.2.2 fun identifier h => ?_, hread,
    (refusesUnbalanced_iff _).2.2.2 fun identifier h => ?_, hrefused⟩
  · rw [hread] at h
    obtain rfl := Except.ok.inj h
    decide
  · rw [hrefused] at h
    cases h

/-- A closing bracket without any opening one is read as part of a class name. -/
theorem stray_not_refusesUnbalanced :
    parse "Map>" = .ok ⟨"", "Map>"⟩ ∧ ¬ IsBalanced "Map>".toList ∧ ¬ RefusesUnbalanced "Map>" := by
  have hread : parse "Map>" = .ok ⟨"", "Map>"⟩ := rfl
  have hname : ¬ IsBalanced "Map>".toList := fun h => absurd h.total (by decide)
  exact ⟨hread, hname, fun h => hname (h.read _ hread)⟩

end TemplateCodegen.ClassIdentifier
