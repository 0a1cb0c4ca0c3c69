import TemplateCodegen.Proofs.ClassIdentifier.Rereading

/-!
# Numbers of type arguments

The type arguments of a name are counted in two ways: by cutting its argument list, which must be
balanced, and by counting commas without asking for balance. Main statement: where the list can be
cut both give one number (`length_genericArguments`), and so they do for every name that has been
read (`exists_genericArguments_of_parse`).
-/

namespace TemplateCodegen.ClassIdentifier

/-- One more character in front leaves the number of pieces as it is. -/
theorem length_extendFirst {c : Char} {pieces : Option (List (List Char))}
    {extended : List (List Char)}
    (h : splitArguments.extendFirst c pieces = some extended) {count : Nat}
    (hcount : ∀ found, pieces = some found → found.length = count + 1) :
    extended.length = count + 1 := by
  unfold splitArguments.extendFirst at h
  split at h
  · rename_i piece more
    obtain rfl := Option.some.inj h
    have hfound := hcount (piece :: more) rfl
    rw [List.length_cons] at hfound ⊢
    exact hfound
  · exact absurd (hcount [] rfl) (Nat.succ_ne_zero count).symm
  · cases h

/-- What the first character does to the pieces of the others. -/
theorem splitArguments_cons (depth : Nat) (c : Char) (rest : List Char) :
    splitArguments depth (c :: rest) =
      if c = '<' then splitArguments.extendFirst c (splitArguments (depth + 1) rest)
      else if c = '>' then
        match depth with
        | 0 => none
        | outer + 1 => splitArguments.extendFirst c (splitArguments outer rest)
      else if c = ',' ∧ depth = 0 then (splitArguments 0 rest).map ([] :: ·)
      else splitArguments.extendFirst c (splitArguments depth rest) := by
  cases depth with
  | zero => rfl
  | succ outer => rfl

/-- A character inside of a piece takes the number of open brackets from one to another. -/
inductive Nests : Nat → Char → Nat → Prop where
  /-- A bracket is opened. -/
  | opening {depth : Nat} : Nests depth '<' (depth + 1)
  /-- A bracket is closed. -/
  | closing {outer : Nat} : Nests (outer + 1) '>' outer
  /-- Another character leaves them as they are, and is no comma where none is open. -/
  | other {depth : Nat} {c : Char} (hopen : c ≠ '<') (hclose : c ≠ '>')
      (hcomma : ¬(c = ',' ∧ depth = 0)) : Nests depth c depth

/-- No character inside of a piece is a comma where no bracket is open. -/
theorem Nests.not_comma {depth inner : Nat} {c : Char} (h : Nests depth c inner) :
    ¬(c = ',' ∧ depth = 0) := by
  cases h with
  | opening => exact fun hcomma => absurd hcomma.1 (by decide)
  | closing => exact fun hcomma => absurd hcomma.1 (by decide)
  | other hopen hclose hcomma => exact hcomma

/-- Inside of a list the signed depth is one more than the number of brackets open in it. -/
theorem Nests.depthAfter_eq {depth inner : Nat} {c : Char} (h : Nests depth c inner) :
    depthAfter (depth + 1) c = inner + 1 := by
  cases h with
  | opening => exact if_pos rfl
  | closing =>
    rw [depthAfter, if_neg (by decide), if_pos rfl]
    omega
  | other hopen hclose hcomma => rw [depthAfter, if_neg hopen, if_neg hclose]

/-- A character ends the first piece, or closes what has not been opened, or is put in front of the
first piece of the others. -/
theorem splitArguments_cons_cases (depth : Nat) (c : Char) (rest : List Char) :
    (c = ',' ∧ depth = 0 ∧
        splitArguments depth (c :: rest) = (splitArguments 0 rest).map ([] :: ·)) ∨
      (c = '>' ∧ depth = 0 ∧ splitArguments depth (c :: rest) = none) ∨
      ∃ inner, Nests depth c inner ∧ splitArguments depth (c :: rest) =
        splitArguments.extendFirst c (splitArguments inner rest) := by
  rw [splitArguments_cons]
  by_cases hopen : c = '<'
  · obtain rfl := hopen
    exact .inr (.inr ⟨depth + 1, .opening, if_pos rfl⟩)
  rw [if_neg hopen]
  by_cases hclose : c = '>'
  · obtain rfl := hclose
    rw [if_pos rfl]
    cases depth with
    | zero => exact .inr (.inl ⟨rfl, rfl, rfl⟩)
    | succ outer => exact .inr (.inr ⟨outer, .closing, rfl⟩)
  rw [if_neg hclose]
  by_cases hcomma : c = ',' ∧ depth = 0
  · exact .inl ⟨hcomma.1, hcomma.2, if_pos hcomma⟩
  · exact .inr (.inr ⟨depth, .other hopen hclose hcomma, if_neg hcomma⟩)

/-- Inside of brackets there is one piece more than there are commas on the level of the list. -/
theorem length_splitArguments {depth : Nat} {cs : List Char} {pieces : List (List Char)}
    (h : splitArguments depth cs = some pieces) :
    pieces.length = countCommas (depth + 1) cs + 1 := by
  induction cs generalizing depth pieces with
  | nil =>
    cases depth with
    | zero =>
      obtain rfl := Option.some.inj h
      rfl
    | succ outer => cases h
  | cons c rest ih =>
    rw [countCommas]
    rcases splitArguments_cons_cases depth c rest with
      ⟨rfl, rfl, heq⟩ | ⟨rfl, rfl, heq⟩ | ⟨inner, hnests, heq⟩
    · -- a comma that is counted ends the first piece
      rw [heq] at h
      obtain ⟨later, hlater, rfl⟩ := Option.map_eq_some_iff.1 h
      have hdepth : depthAfter ((0 : Nat) + 1) ',' = (0 : Nat) + 1 := by decide
      rw [List.length_cons, ih hlater, if_pos ⟨rfl, rfl⟩, hdepth]
      omega
    · rw [heq] at h
      cases h
    · rw [heq] at h
      rw [hnests.depthAfter_eq, if_neg fun hcounted => hnests.not_comma ⟨hcounted.1, by omega⟩,
        Nat.zero_add]
      exact length_extendFirst h fun found hfound => ih hfound

/-- A name whose argument list can be cut has as many arguments as are counted. -/
theorem length_rawArguments? {name : List Char} {arguments : List (List Char)}
    (h : rawArguments? name = some arguments) : arguments.length = arityOf name := by
  unfold rawArguments? at h
  unfold arityOf
  cases hsuffix : suffixOf name with
  | nil =>
    rw [hsuffix] at h
    obtain rfl := Option.some.inj h
    rfl
  | cons c tail =>
    obtain rfl : c = '<' := eq_of_head?_suffixOf (by rw [hsuffix, List.head?_cons])
    rw [hsuffix] at h
    dsimp only at h ⊢
    split at h
    · rename_i hlast
      have htail : tail.dropLast ++ ['>'] = tail := List.dropLast_append_getLast? '>' hlast
      have hclose : ',' ∉ ['>'] := by decide
      have hdepth : depthAfter 0 '<' = 1 := by decide
      rw [countCommas, if_neg (by decide), hdepth, Nat.zero_add, ← htail,
        countCommas_append_of_notMem hclose, length_splitArguments h]
      rfl
    · cases h

/-- The arguments that are returned are as many as are counted. -/
theorem length_genericArguments {identifier : ClassIdentifier} {arguments : List String}
    (h : identifier.genericArguments = .ok arguments) :
    arguments.length = identifier.genericArity := by
  unfold genericArguments at h
  split at h
  · rename_i pieces hpieces
    obtain rfl := Except.ok.inj h
    rw [List.length_map, genericArity, length_rawArguments? hpieces]
  · cases h

/-- An identifier that has been read has arguments, and as many as are counted. -/
theorem exists_genericArguments_of_parse {text : String} {identifier : ClassIdentifier}
    (h : parse text = .ok identifier) :
    ∃ arguments, identifier.genericArguments = .ok arguments ∧
      arguments.length = identifier.genericArity := by
  obtain ⟨before, front, behind, -, -, -, hspelling⟩ := parse_eq_ok_iff.1 h
  obtain ⟨arguments, harguments⟩ := (genericArguments_isOk_iff identifier).2 hspelling.balanced
  exact ⟨arguments, harguments, length_genericArguments harguments⟩

end TemplateCodegen.ClassIdentifier
