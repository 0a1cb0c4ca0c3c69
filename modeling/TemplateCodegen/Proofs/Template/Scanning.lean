import TemplateCodegen.Template.Piece
import Mathlib.Data.List.Basic
import Mathlib.Data.List.Infix
import Mathlib.Data.List.TakeWhile

/-!
# Stretches are longest matches

The stretches of a text can be told by three rules, without saying how the text is cut: a tag is two
opening braces, characters other than closing braces, and at most two closing braces; a run has no
opening brace; a brace is a single opening brace. A scan takes the longest beginning of what is left
that some rule matches. Main statements: a text has one scan, and at no place of it are the rules at
a loss (`Scans.unique`, `exists_scans`); with neighbouring runs and braces joined it is the list of
stretches (`exists_scans` again).
-/

namespace TemplateCodegen.Template

/-- The rules for the beginning of a text. -/
inductive Rule where
  /-- Two opening braces, characters other than closing braces, at most two closing braces. -/
  | tag
  /-- One or more characters other than opening braces. -/
  | run
  /-- A single opening brace. -/
  | brace
deriving DecidableEq, Repr

/-- The rule matches a text. -/
def Rule.Matches : Rule → List Char → Prop
  | .tag, cs => ∃ inner closers,
      cs = '{' :: '{' :: (inner ++ closers) ∧ '}' ∉ inner ∧ closers <+: ['}', '}']
  | .run, cs => cs ≠ [] ∧ '{' ∉ cs
  | .brace, cs => cs = ['{']

/-- A part of a text with the rule that matched it; none did when the part is unexpected. -/
structure Lexeme where
  /-- The rule. -/
  rule : Option Rule
  /-- The part. -/
  content : List Char
deriving DecidableEq, Repr

/-- A rule matches the beginning of a text, and no rule matches a longer one. -/
structure Longest (rule : Rule) (content after : List Char) : Prop where
  /-- The rule matches the beginning. -/
  admits : rule.Matches content
  /-- A longer beginning is matched by no rule. -/
  longest (other : Rule) (more : List Char) (hmore : other.Matches more)
    (hbegins : more <+: content ++ after) : more.length ≤ content.length

/-- A text is taken apart by longest matches. -/
inductive Scans : List Char → List Lexeme → Prop where
  /-- Nothing is left. -/
  | done : Scans [] []
  /-- The longest match is the next lexeme. -/
  | matched {cs after : List Char} {rest : List Lexeme} (rule : Rule) (content : List Char)
      (hcs : cs = content ++ after) (hlongest : Longest rule content after)
      (hrest : Scans after rest) : Scans cs (⟨some rule, content⟩ :: rest)
  /-- No rule matches, and one character is skipped. -/
  | unexpected {after : List Char} {rest : List Lexeme} (c : Char)
      (hnone : ∀ (rule : Rule) (content : List Char), rule.Matches content →
        ¬ content <+: c :: after)
      (hrest : Scans after rest) : Scans (c :: after) (⟨none, [c]⟩ :: rest)

/-- Put literal characters in front of stretches, as part of the first one when that is literal. -/
def joinLiteral (content : List Char) : List Stretch → List Stretch
  | .literal more :: rest => .literal (content ++ more) :: rest
  | rest => .literal content :: rest

/-- Put a lexeme in front of stretches. -/
def Lexeme.join (lexeme : Lexeme) (rest : List Stretch) : List Stretch :=
  match lexeme.rule with
  | some .tag => .tag lexeme.content :: rest
  | some .run | some .brace => joinLiteral lexeme.content rest
  | none => rest

/-- The stretches of lexemes: tags stand alone, neighbouring runs and braces are joined. -/
def joinRuns (lexemes : List Lexeme) : List Stretch :=
  lexemes.foldr Lexeme.join []

/-! ### Rules -/

/-- No rule matches the empty text. -/
theorem Rule.Matches.ne_nil {rule : Rule} {cs : List Char} (h : rule.Matches cs) : cs ≠ [] := by
  cases rule with
  | tag =>
    obtain ⟨inner, closers, rfl, -⟩ := h
    exact List.cons_ne_nil _ _
  | run => exact h.1
  | brace =>
    obtain rfl := h
    exact List.cons_ne_nil _ _

/-- A text is matched by at most one rule. -/
theorem Rule.Matches.unique {one other : Rule} {cs : List Char} (hone : one.Matches cs)
    (hother : other.Matches cs) : one = other := by
  cases one <;> cases other <;> simp only [Rule.Matches] at hone hother <;> grind

/-- Two longest matches of one text are the same. -/
theorem Longest.unique {rule rule' : Rule} {content content' after after' : List Char}
    (h : Longest rule content after) (h' : Longest rule' content' after')
    (hcs : content ++ after = content' ++ after') :
    rule = rule' ∧ content = content' ∧ after = after' := by
  have hle := h'.longest rule content h.admits (hcs ▸ List.prefix_append content after)
  have hle' := h.longest rule' content' h'.admits (hcs ▸ List.prefix_append content' after')
  obtain ⟨rfl, rfl⟩ := List.append_inj hcs (Nat.le_antisymm hle hle')
  exact ⟨h.admits.unique h'.admits, rfl, rfl⟩

/-- A text has at most one scan. -/
theorem Scans.unique {cs : List Char} {lexemes lexemes' : List Lexeme} (h : Scans cs lexemes)
    (h' : Scans cs lexemes') : lexemes = lexemes' := by
  induction h generalizing lexemes' with
  | done =>
    cases h' with
    | done => rfl
    | matched rule content hcs hlongest _ =>
      exact absurd (List.append_eq_nil_iff.1 hcs.symm).1 hlongest.admits.ne_nil
  | matched rule content hcs hlongest _ ih =>
    cases h' with
    | done => exact absurd (List.append_eq_nil_iff.1 hcs.symm).1 hlongest.admits.ne_nil
    | matched rule' content' hcs' hlongest' hrest' =>
      obtain ⟨rfl, rfl, rfl⟩ := hlongest.unique hlongest' (hcs.symm.trans hcs')
      rw [ih hrest']
    | unexpected c hnone _ =>
      exact absurd (hcs ▸ List.prefix_append content _) (hnone rule content hlongest.admits)
  | unexpected c hnone _ ih =>
    cases h' with
    | matched rule content hcs hlongest _ =>
      exact absurd (hcs ▸ List.prefix_append content _) (hnone rule content hlongest.admits)
    | unexpected _ _ hrest' => rw [ih hrest']

/-! ### The cuts -/

/-- A cut tag goes up to the first closing brace, and over at most two of them. -/
theorem cutTag_fst (cs : List Char) :
    (cutTag cs).1 =
      cs.takeWhile (· ≠ '}') ++ ((cs.dropWhile (· ≠ '}')).takeWhile (· = '}')).take 2 := by
  fun_induction cutTag cs with
  | case1 => rfl
  | case2 rest => simp
  | case3 rest hnext =>
    cases rest with
    | nil => rfl
    | cons c rest =>
      have hc : c ≠ '}' := fun h => hnext rest (by rw [h])
      simp [hc]
  | case4 c rest _ hc ih =>
    have hc' : c ≠ '}' := fun h => hc h
    simp [hc', ih]

/-- The cut tag with its opening braces is a tag. -/
theorem matches_cutTag (cs : List Char) : Rule.tag.Matches ('{' :: '{' :: (cutTag cs).1) := by
  refine ⟨_, _, by rw [cutTag_fst], ?_, ?_⟩
  · intro hmem
    simpa using List.mem_takeWhile_imp hmem
  · -- closing braces only, and at most two
    generalize hclosers : (cs.dropWhile (· ≠ '}')).takeWhile (· = '}') = closers
    have hall : ∀ c ∈ closers, c = '}' := by
      intro c hc
      rw [← hclosers] at hc
      simpa using List.mem_takeWhile_imp hc
    match closers, hall with
    | [], _ => exact List.nil_prefix
    | [c], hall =>
      rw [hall c (by simp)]
      exact ⟨['}'], rfl⟩
    | c :: d :: _, hall =>
      rw [hall c (by simp), hall d (by simp)]
      exact List.prefix_rfl

/-- No beginning that has the form of a tag goes beyond the cut. -/
theorem length_le_cutTag {cs inner closers : List Char} (hinner : '}' ∉ inner)
    (hclosers : closers <+: ['}', '}']) (hbegins : inner ++ closers <+: cs) :
    (inner ++ closers).length ≤ (cutTag cs).1.length := by
  fun_induction cutTag cs generalizing inner with
  | case1 => exact hbegins.length_le
  | case2 rest =>
    cases inner with
    | nil => exact hclosers.length_le
    | cons c inner =>
      obtain ⟨rfl, -⟩ := List.cons_prefix_cons.1 hbegins
      exact absurd List.mem_cons_self hinner
  | case3 rest hnext =>
    cases inner with
    | nil =>
      rcases closers with _ | ⟨c, _ | ⟨d, more⟩⟩
      · exact Nat.zero_le _
      · exact le_rfl
      · -- a second closing brace would stand in front of the rest
        obtain ⟨rfl, hd⟩ := List.cons_prefix_cons.1 hclosers
        obtain ⟨rfl, -⟩ := List.cons_prefix_cons.1 hd
        obtain ⟨after, rfl⟩ := (List.cons_prefix_cons.1 hbegins).2
        exact absurd rfl (hnext (more ++ after))
    | cons c inner =>
      obtain ⟨rfl, -⟩ := List.cons_prefix_cons.1 hbegins
      exact absurd List.mem_cons_self hinner
  | case4 d rest _ hd ih =>
    cases inner with
    | nil =>
      cases closers with
      | nil => exact Nat.zero_le _
      | cons c more =>
        obtain ⟨rfl, -⟩ := List.cons_prefix_cons.1 hclosers
        obtain ⟨rfl, -⟩ := List.cons_prefix_cons.1 hbegins
        exact absurd rfl hd
    | cons c inner =>
      have hrest := ih (fun h => hinner (List.mem_cons_of_mem c h))
        (List.cons_prefix_cons.1 hbegins).2
      exact Nat.succ_le_succ hrest

/-- Where two opening braces stand, the cut tag is the longest match. -/
theorem longest_tag (cs : List Char) :
    Longest .tag ('{' :: '{' :: (cutTag cs).1) (cutTag cs).2 where
  admits := matches_cutTag cs
  longest other more hmore hbegins := by
    rw [List.cons_append, List.cons_append, cutTag_append] at hbegins
    cases other with
    | tag =>
      obtain ⟨inner, closers, rfl, hinner, hclosers⟩ := hmore
      have htail := (List.cons_prefix_cons.1 (List.cons_prefix_cons.1 hbegins).2).2
      simpa using length_le_cutTag hinner hclosers htail
    | run =>
      obtain ⟨hne, hfree⟩ := hmore
      cases more with
      | nil => exact Nat.zero_le _
      | cons c more =>
        obtain ⟨rfl, -⟩ := List.cons_prefix_cons.1 hbegins
        exact absurd List.mem_cons_self hfree
    | brace =>
      obtain rfl := hmore
      simp

/-- An opening brace without a second one behind it is the longest match. -/
theorem longest_brace {cs : List Char} (hcs : ¬ ['{'] <+: cs) : Longest .brace ['{'] cs where
  admits := rfl
  longest other more hmore hbegins := by
    cases other with
    | tag =>
      obtain ⟨inner, closers, rfl, -⟩ := hmore
      obtain ⟨after, hafter⟩ := (List.cons_prefix_cons.1 hbegins).2
      exact absurd ⟨_, hafter⟩ hcs
    | run =>
      obtain ⟨hne, hfree⟩ := hmore
      cases more with
      | nil => exact Nat.zero_le _
      | cons c more =>
        obtain ⟨rfl, -⟩ := List.cons_prefix_cons.1 hbegins
        exact absurd List.mem_cons_self hfree
    | brace =>
      obtain rfl := hmore
      exact le_rfl

/-- Characters up to the next opening brace are the longest match. -/
theorem longest_run {content cs : List Char} (hne : content ≠ []) (hfree : '{' ∉ content)
    (hcs : ∀ c rest, cs = c :: rest → c = '{') : Longest .run content cs where
  admits := ⟨hne, hfree⟩
  longest other more hmore hbegins := by
    obtain ⟨d, content, rfl⟩ := List.exists_cons_of_ne_nil hne
    have hd : d ≠ '{' := fun h => hfree (h ▸ List.mem_cons_self)
    cases other with
    | tag =>
      obtain ⟨inner, closers, rfl, -⟩ := hmore
      exact absurd (List.cons_prefix_cons.1 hbegins).1.symm hd
    | run =>
      obtain ⟨-, hmore⟩ := hmore
      rcases List.prefix_or_prefix_of_prefix hbegins (List.prefix_append _ cs) with h | ⟨x, rfl⟩
      · exact h.length_le
      · cases x with
        | nil => simp
        | cons c x =>
          obtain ⟨after, hafter⟩ := (List.prefix_append_right_inj _).1 hbegins
          obtain rfl := hcs c (x ++ after) hafter.symm
          exact absurd (List.mem_append_right _ List.mem_cons_self) hmore
    | brace =>
      obtain rfl := hmore
      exact absurd (List.cons_prefix_cons.1 hbegins).1.symm hd

/-! ### Joining -/

/-- Literal characters may be put in front all at once. -/
theorem joinLiteral_joinLiteral (one other : List Char) (rest : List Stretch) :
    joinLiteral one (joinLiteral other rest) = joinLiteral (one ++ other) rest := by
  cases rest with
  | nil => rfl
  | cons stretch rest =>
    cases stretch with
    | literal content => simp [joinLiteral]
    | tag content => rfl

/-- A character at which no tag begins is literal. -/
theorem stretches_cons {c : Char} {rest : List Char} (h : ¬ ['{', '{'] <+: c :: rest) :
    stretches (c :: rest) = joinLiteral [c] (stretches rest) := by
  have hc : ∀ more, c = '{' → rest = '{' :: more → False := by
    rintro more rfl rfl
    exact h ⟨more, rfl⟩
  rw [stretches.eq_3 c rest hc]
  fun_cases stretches rest with
  | case1 => simp [cutLiteral, stretches, joinLiteral]
  | case2 more => simp [cutLiteral, stretches, joinLiteral]
  | case3 d more hd =>
    rw [cutLiteral.eq_3 d more hd]
    rfl

/-- Text in which no tag begins is literal. -/
theorem stretches_append_of_tagless {content rest : List Char} (hne : content ≠ [])
    (hfree : ¬ ['{', '{'] <:+: content ++ rest.take 1) :
    stretches (content ++ rest) = joinLiteral content (stretches rest) := by
  induction content with
  | nil => exact absurd rfl hne
  | cons c content ih =>
    rw [List.cons_append, List.infix_cons_iff, not_or] at hfree
    have hc : ¬ ['{', '{'] <+: c :: (content ++ rest) := by
      intro h
      refine hfree.1 ?_
      cases content with
      | nil =>
        cases rest with
        | nil => simp at h
        | cons d rest => simpa using h
      | cons d content => simpa using h
    rw [List.cons_append, stretches_cons hc]
    by_cases hnil : content = []
    · rw [hnil, List.nil_append]
    · rw [ih hnil hfree.2, joinLiteral_joinLiteral]
      rfl

/-- Two opening braces that stand across a seam end the one text and begin the other. -/
theorem tagless_append_take {one other : List Char} (hone : ¬ ['{', '{'] <:+: one)
    (hseam : ¬ (['{'] <:+ one ∧ ['{'] <+: other)) : ¬ ['{', '{'] <:+: one ++ other.take 1 := by
  cases other with
  | nil => simpa using hone
  | cons c rest =>
    rw [List.take_succ_cons, List.take_zero, List.infix_concat_iff, not_or]
    refine ⟨?_, hone⟩
    rintro ⟨before, h⟩
    have hsplit : (before ++ ['{']) ++ ['{'] = one ++ [c] := by simpa using h
    obtain ⟨hfront, hlast⟩ := List.append_inj' hsplit rfl
    obtain rfl := (List.cons.inj hlast).1
    exact hseam ⟨⟨before, hfront⟩, ⟨rest, rfl⟩⟩

/-- Characters other than opening braces are literal. -/
theorem stretches_append {content rest : List Char} (hne : content ≠ []) (hfree : '{' ∉ content) :
    stretches (content ++ rest) = joinLiteral content (stretches rest) := by
  have hcontent : ¬ ['{', '{'] <:+: content := fun h => hfree (h.subset List.mem_cons_self)
  have hend : ¬ ['{'] <:+ content := fun h => hfree (h.subset List.mem_cons_self)
  exact stretches_append_of_tagless hne (tagless_append_take hcontent fun h => hend h.1)

/-- Some rule matches the beginning of a text that is not empty, and its stretches are those behind
the longest match with that match in front. -/
theorem exists_longest {cs : List Char} (hcs : cs ≠ []) :
    ∃ rule content after, cs = content ++ after ∧ Longest rule content after ∧
      stretches cs = Lexeme.join ⟨some rule, content⟩ (stretches after) := by
  obtain ⟨c, rest, rfl⟩ := List.exists_cons_of_ne_nil hcs
  by_cases hc : c = '{'
  · subst hc
    by_cases hrest : ['{'] <+: rest
    · obtain ⟨more, rfl⟩ := hrest
      refine ⟨.tag, _, _, ?_, longest_tag more, ?_⟩
      · simp [cutTag_append]
      · simp [stretches, Lexeme.join]
    · refine ⟨.brace, ['{'], rest, rfl, longest_brace hrest, ?_⟩
      exact stretches_cons fun h => hrest (List.cons_prefix_cons.1 h).2
  · -- the run goes up to the next opening brace
    have hsplit := List.takeWhile_append_dropWhile (p := (· ≠ '{')) (l := c :: rest)
    have hne : (c :: rest).takeWhile (· ≠ '{') ≠ [] := by simp [hc]
    have hfree : '{' ∉ (c :: rest).takeWhile (· ≠ '{') := fun h => by
      simpa using List.mem_takeWhile_imp h
    refine ⟨.run, _, _, hsplit.symm, longest_run hne hfree ?_, ?_⟩
    · intro d more hd
      have hnot := List.head?_dropWhile_not (· ≠ '{') (c :: rest)
      rw [hd] at hnot
      simpa using hnot
    · conv_lhs => rw [← hsplit]
      exact stretches_append hne hfree

/-- A text has a scan in which a rule matches everywhere; its lexemes make up the stretches. -/
theorem exists_scans (cs : List Char) :
    ∃ lexemes, Scans cs lexemes ∧ (∀ lexeme ∈ lexemes, lexeme.rule ≠ none) ∧
      joinRuns lexemes = stretches cs := by
  induction hn : cs.length using Nat.strongRecOn generalizing cs with
  | ind n ih =>
    by_cases hcs : cs = []
    · subst hcs
      exact ⟨[], .done, fun _ h => absurd h List.not_mem_nil, by simp [joinRuns, stretches]⟩
    · obtain ⟨rule, content, after, heq, hlongest, hstretches⟩ := exists_longest hcs
      have hlt : after.length < n := by
        have hpos := List.length_pos_of_ne_nil hlongest.admits.ne_nil
        rw [← hn, heq, List.length_append]
        omega
      obtain ⟨rest, hrest, hmatched, hjoin⟩ := ih after.length hlt after rfl
      refine ⟨⟨some rule, content⟩ :: rest, .matched rule content heq hlongest hrest, ?_, ?_⟩
      · exact List.forall_mem_cons.2 ⟨Option.some_ne_none rule, hmatched⟩
      · rw [hstretches, ← hjoin]
        rfl

end TemplateCodegen.Template
