import Mathlib.Data.List.Basic
import TemplateCodegen.ClassIdentifier.Basic
import TemplateCodegen.Proofs.Text.Trimming

/-!
# Reading a full name again

Reading cuts a text at its last dot outside the brackets and drops the blanks at its two ends, so
what is written as one namespace and one class name may be read as another class, or not at all.
Main statement: the full name of an attribute class is read as that class exactly when it does not
begin with a blank, its namespace closes its brackets, its class name has no dot outside the
brackets, and its arguments can be read (`exists_parse_fullName_iff`).
-/

namespace TemplateCodegen.ClassIdentifier

open Text (Blank)

/-! ### Dots -/

/-- The nesting depth behind a text. -/
def depthBehind (depth : Int) (cs : List Char) : Int := cs.foldl depthAfter depth

/-- A text without brackets leaves the nesting depth as it is. -/
theorem depthBehind_of_forall_ne {cs : List Char} (h : ∀ c ∈ cs, c ≠ '<' ∧ c ≠ '>') (depth : Int) :
    depthBehind depth cs = depth := by
  induction cs generalizing depth with
  | nil => rfl
  | cons c rest ih =>
    obtain ⟨⟨hopen, hclose⟩, hrest⟩ := List.forall_mem_cons.1 h
    have hdepth : depthAfter depth c = depth := by rw [depthAfter, if_neg hopen, if_neg hclose]
    exact (congrArg (depthBehind · rest) hdepth).trans (ih hrest depth)

/-- A text has no dot to cut at when neither of its parts has one. -/
theorem splitAtLastDot_append_eq_none_iff (depth : Int) (one other : List Char) :
    splitAtLastDot depth (one ++ other) = none ↔
      splitAtLastDot depth one = none ∧ splitAtLastDot (depthBehind depth one) other = none := by
  induction one generalizing depth with
  | nil => exact ⟨fun h => ⟨rfl, h⟩, fun h => h.2⟩
  | cons c rest ih =>
    have hrest := ih (depthAfter depth c)
    change _ ↔ _ ∧ splitAtLastDot (depthBehind (depthAfter depth c) rest) other = none
    rw [List.cons_append, splitAtLastDot, splitAtLastDot]
    cases hwhole : splitAtLastDot (depthAfter depth c) (rest ++ other) with
    | none =>
      obtain ⟨hone, hother⟩ := hrest.1 hwhole
      rw [hone, hother]
      simp
    | some parts =>
      rw [hwhole] at hrest
      cases hone : splitAtLastDot (depthAfter depth c) rest with
      | none => simp_all
      | some parts' => simp

/-- A text without dots has none to cut at. -/
theorem splitAtLastDot_of_notMem {cs : List Char} (h : '.' ∉ cs) (depth : Int) :
    splitAtLastDot depth cs = none := by
  induction cs generalizing depth with
  | nil => rfl
  | cons c rest ih =>
    rw [List.mem_cons, not_or] at h
    rw [splitAtLastDot, ih h.2]
    exact if_neg fun hdot => h.1 hdot.1.symm

/-- A text is cut at a dot behind closed brackets when there is no such dot behind it. -/
theorem splitAtLastDot_append_dot {depth : Int} {before after : List Char}
    (hclosed : depthBehind depth before = 0) (hundotted : splitAtLastDot 0 after = none) :
    splitAtLastDot depth (before ++ '.' :: after) = some (before, after) := by
  induction before generalizing depth with
  | nil =>
    obtain rfl : depth = 0 := hclosed
    have hdepth : depthAfter 0 '.' = 0 := by decide
    rw [List.nil_append, splitAtLastDot, hdepth, hundotted]
    exact if_pos ⟨rfl, rfl⟩
  | cons c rest ih => rw [List.cons_append, splitAtLastDot, ih hclosed]

/-- Where a text is cut the brackets are closed, and there is no such dot behind. -/
theorem closed_of_splitAtLastDot {depth : Int} {cs before after : List Char}
    (h : splitAtLastDot depth cs = some (before, after)) :
    depthBehind depth before = 0 ∧ splitAtLastDot 0 after = none := by
  induction cs generalizing depth before with
  | nil => cases h
  | cons c rest ih =>
    rw [splitAtLastDot] at h
    cases hrest : splitAtLastDot (depthAfter depth c) rest with
    | some parts =>
      obtain ⟨before', after'⟩ := parts
      rw [hrest] at h
      cases h
      have hclosed := ih hrest
      exact hclosed
    | none =>
      rw [hrest] at h
      dsimp only at h
      split at h
      · rename_i hdot
        obtain ⟨rfl, rfl⟩ := hdot
        cases h
        exact ⟨rfl, hrest⟩
      · cases h

/-! ### Reading -/

/-- What stands in front of a class name that is read with a namespace. -/
inductive Qualifies : List Char → List Char → Prop where
  /-- Nothing, in the global namespace. -/
  | unqualified : Qualifies [] []
  /-- A dot behind a namespace whose brackets are closed. -/
  | qualified {space : List Char} (hclosed : depthBehind 0 space = 0) :
      Qualifies (space ++ ['.']) space

/-- In front of a class name stands nothing, or the namespace and a dot. -/
theorem Qualifies.eq_or {front space : List Char} (h : Qualifies front space) :
    front = [] ∧ space = [] ∨ front = space ++ ['.'] := by
  cases h with
  | unqualified => exact .inl ⟨rfl, rfl⟩
  | qualified hclosed => exact .inr rfl

/-- The brackets of the namespace are closed. -/
theorem Qualifies.closed {front space : List Char} (h : Qualifies front space) :
    depthBehind 0 space = 0 := by
  cases h with
  | unqualified => rfl
  | qualified hclosed => exact hclosed

/-- The class name behind such a front is read as the identifier. -/
structure IsSpelling (front : List Char) (identifier : ClassIdentifier) : Prop where
  /-- The front is that of the namespace. -/
  qualifies : Qualifies front identifier.namespaceName.toList
  /-- The class name has no dot outside the brackets. -/
  undotted : splitAtLastDot 0 identifier.className.toList = none
  /-- The arguments can be read. -/
  balanced : (rawArguments? identifier.className.toList).isSome = true
  /-- There is a class name. -/
  ne_nil : identifier.className.toList ≠ []
  /-- No blank is at the beginning. -/
  first : ∀ c, (front ++ identifier.className.toList).head? = some c → Text.isBlank c = false
  /-- No blank is at the end. -/
  last : ∀ c, identifier.className.toList.getLast? = some c → Text.isBlank c = false

/-- The arguments are returned when they can be read. -/
theorem genericArguments_isOk_iff (identifier : ClassIdentifier) :
    (∃ arguments, identifier.genericArguments = .ok arguments) ↔
      (rawArguments? identifier.className.toList).isSome = true := by
  unfold genericArguments
  cases rawArguments? identifier.className.toList with
  | none => exact ⟨nofun, nofun⟩
  | some arguments => exact ⟨fun _ => rfl, fun _ => ⟨_, rfl⟩⟩

/-- A text is cut into the front of a namespace and a class name without a dot to cut at. -/
theorem exists_front_of_cut {core space name : List Char}
    (h : (splitAtLastDot 0 core).getD ([], core) = (space, name)) :
    ∃ front, core = front ++ name ∧ Qualifies front space ∧ splitAtLastDot 0 name = none := by
  cases hcut : splitAtLastDot 0 core with
  | none =>
    rw [hcut] at h
    cases h
    exact ⟨[], rfl, .unqualified, hcut⟩
  | some parts =>
    rw [hcut] at h
    obtain rfl : parts = (space, name) := h
    obtain ⟨hclosed, hundotted⟩ := closed_of_splitAtLastDot hcut
    refine ⟨space ++ ['.'], ?_, .qualified hclosed, hundotted⟩
    rw [List.append_assoc]
    exact (splitAtLastDot_append hcut).symm

/-- The front of a namespace and a class name without a dot to cut at are cut apart. -/
theorem Qualifies.cut {front space name : List Char} (h : Qualifies front space)
    (hundotted : splitAtLastDot 0 name = none) :
    (splitAtLastDot 0 (front ++ name)).getD ([], front ++ name) = (space, name) := by
  cases h with
  | unqualified => rw [List.nil_append, hundotted, Option.getD_none]
  | qualified hclosed =>
    rw [List.append_assoc, List.singleton_append, splitAtLastDot_append_dot hclosed hundotted,
      Option.getD_some]

/-- A text is read as an identifier exactly when it is a spelling of it between blanks. -/
theorem parse_eq_ok_iff {text : String} {identifier : ClassIdentifier} :
    parse text = .ok identifier ↔ ∃ before front behind,
      text.toList = before ++ (front ++ identifier.className.toList) ++ behind ∧
        Blank before ∧ Blank behind ∧ IsSpelling front identifier := by
  constructor
  · intro h
    obtain ⟨before, behind, htext, hbefore, hbehind⟩ := Text.exists_trim text.toList
    have hfirst : ∀ c, (Text.trim text.toList).head? = some c → Text.isBlank c = false :=
      fun c => Text.isBlank_of_head?_trim
    have hlast : ∀ c, (Text.trim text.toList).getLast? = some c → Text.isBlank c = false :=
      fun c => Text.getLast?_dropEndWhile Text.isBlank _
    unfold parse at h
    generalize Text.trim text.toList = core at htext hfirst hlast h
    obtain ⟨space, name, hcut⟩ : ∃ space name,
        (splitAtLastDot 0 core).getD ([], core) = (space, name) := ⟨_, _, rfl⟩
    obtain ⟨front, rfl, hqualifies, hundotted⟩ := exists_front_of_cut hcut
    simp only [hcut] at h
    split at h
    · cases h
    rename_i hname
    split at h
    · rename_i arguments harguments
      obtain rfl := Except.ok.inj h
      have hbalanced := (genericArguments_isOk_iff _).1 ⟨arguments, harguments⟩
      have hend : ∀ c, name.getLast? = some c → Text.isBlank c = false := by
        intro c hc
        refine hlast c ?_
        rw [List.getLast?_append, hc, Option.some_or]
      refine ⟨before, front, behind, ?_, hbefore, hbehind, ?_, ?_, hbalanced, ?_, ?_, ?_⟩ <;>
        simp only [String.toList_ofList] <;> assumption
    · cases h
  · rintro ⟨before, front, behind, htext, hbefore, hbehind, h⟩
    have hne : front ++ identifier.className.toList ≠ [] :=
      List.append_ne_nil_of_right_ne_nil front h.ne_nil
    have htrim : Text.trim text.toList = front ++ identifier.className.toList := by
      rw [htext]
      refine Text.trim_around hbefore hbehind hne (h.first _ (List.head?_eq_some_head hne)) ?_
      refine h.last _ ?_
      rw [List.getLast_append_of_ne_nil hne h.ne_nil]
      exact List.getLast?_eq_some_getLast h.ne_nil
    obtain ⟨arguments, harguments⟩ := (genericArguments_isOk_iff identifier).2 h.balanced
    unfold parse
    simp only [htrim, h.qualifies.cut h.undotted, if_neg h.ne_nil, String.ofList_toList]
    rw [harguments]

/-! ### Base names -/

/-- The base name has no bracket. -/
theorem notMem_baseOf (name : List Char) : '<' ∉ baseOf name := by
  intro hmem
  have hbracket := List.mem_takeWhile_imp hmem
  exact absurd hbracket (by decide)

/-- The argument list begins with a bracket, if there is one. -/
theorem eq_of_head?_suffixOf {name : List Char} {c : Char} (h : (suffixOf name).head? = some c) :
    c = '<' := by
  have hnot := List.head?_dropWhile_not (· != '<') name
  unfold suffixOf at h
  rw [h] at hnot
  simpa using hnot

/-- The base name and the argument list are the name. -/
theorem baseOf_append_suffixOf (name : List Char) : baseOf name ++ suffixOf name = name :=
  List.takeWhile_append_dropWhile

/-- Behind a text without a bracket the parts of a name are what they are by themselves. -/
theorem parts_append_of_notMem {front : List Char} (h : '<' ∉ front) (name : List Char) :
    baseOf (front ++ name) = front ++ baseOf name ∧ suffixOf (front ++ name) = suffixOf name := by
  have hkept : ∀ c ∈ front, (c != '<') = true := by
    intro c hc
    rw [bne_iff_ne]
    rintro rfl
    exact h hc
  exact ⟨List.takeWhile_append_of_pos hkept, List.dropWhile_append_of_pos hkept⟩

/-- A text without a bracket and an argument list are base name and argument list of both together.
-/
theorem parts_append {base : List Char} (hbase : '<' ∉ base) (suffix : List Char)
    (hsuffix : ∀ c, suffix.head? = some c → c = '<') :
    baseOf (base ++ suffix) = base ∧ suffixOf (base ++ suffix) = suffix := by
  obtain ⟨hfront, hbehind⟩ := parts_append_of_notMem hbase suffix
  rw [hfront, hbehind]
  cases suffix with
  | nil => exact ⟨List.append_nil base, rfl⟩
  | cons c rest =>
    obtain rfl := hsuffix c rfl
    exact ⟨List.append_nil base, rfl⟩

/-- Blanks behind a name without arguments are in its base name, those behind arguments are not. -/
theorem parts_append_blank (name : List Char) {behind : List Char} (hbehind : Blank behind) :
    suffixOf name = [] ∧ baseOf (name ++ behind) = baseOf name ++ behind ∨
      suffixOf name ≠ [] ∧ baseOf (name ++ behind) = baseOf name ∧
        suffixOf (name ++ behind) = suffixOf name ++ behind := by
  have hname := baseOf_append_suffixOf name
  have hfirst : ∀ c, (suffixOf name).head? = some c → c = '<' := fun c => eq_of_head?_suffixOf
  cases hsuffix : suffixOf name with
  | nil =>
    rw [hsuffix, List.append_nil] at hname
    have hbracket : '<' ∉ name ++ behind := by
      intro hmem
      rcases List.mem_append.1 hmem with hmem | hmem
      · rw [← hname] at hmem
        exact notMem_baseOf name hmem
      · exact absurd (hbehind _ hmem) (by decide)
    have hparts := parts_append hbracket [] nofun
    rw [List.append_nil] at hparts
    rw [hname]
    exact .inl ⟨rfl, hparts.1⟩
  | cons c rest =>
    rw [hsuffix] at hfirst
    have hbracket : c = '<' := hfirst c rfl
    have hparts := parts_append (notMem_baseOf name) (c :: rest ++ behind)
      fun d hd => by rw [← Option.some.inj hd, hbracket]
    rw [hsuffix] at hname
    rw [← List.append_assoc, hname] at hparts
    exact .inr ⟨List.cons_ne_nil c rest, hparts⟩

/-- Texts without commas have none to count. -/
theorem countCommas_of_notMem {depth : Int} {cs : List Char} (h : ',' ∉ cs) :
    countCommas depth cs = 0 := by
  induction cs generalizing depth with
  | nil => rfl
  | cons c rest ih =>
    rw [List.mem_cons, not_or] at h
    rw [countCommas, ih h.2, if_neg fun hcomma => h.1 hcomma.1.symm]

/-- Behind an argument list they do not count. -/
theorem countCommas_append_of_notMem {depth : Int} {suffix behind : List Char}
    (h : ',' ∉ behind) : countCommas depth (suffix ++ behind) = countCommas depth suffix := by
  induction suffix generalizing depth with
  | nil => exact countCommas_of_notMem h
  | cons c rest ih => rw [List.cons_append, countCommas, countCommas, ih]

/-- A text with arguments has as many as there are commas to count, and one more. -/
theorem arityOf_of_suffixOf_ne_nil {name : List Char} (h : suffixOf name ≠ []) :
    arityOf name = countCommas 0 (suffixOf name) + 1 := by
  unfold arityOf
  cases hsuffix : suffixOf name with
  | nil => exact absurd hsuffix h
  | cons c rest => rfl

/-- A class name whose base name does not end in a blank has the base name and the number of
arguments that it has without the blanks at its end. -/
theorem parts_of_append_blank (name : List Char) {behind : List Char} (hbehind : Blank behind)
    (hfirm : ∀ c, (baseOf (name ++ behind)).getLast? = some c → Text.isBlank c = false) :
    baseOf (name ++ behind) = baseOf name ∧ arityOf (name ++ behind) = arityOf name := by
  have hcomma : ',' ∉ behind := fun hmem => absurd (hbehind _ hmem) (by decide)
  rcases parts_append_blank name hbehind with ⟨hsuffix, hbase⟩ | ⟨hne, hbase, hsuffix⟩
  · rw [hbase] at hfirm
    cases hlast : behind.getLast? with
    | none =>
      obtain rfl := List.getLast?_eq_none_iff.1 hlast
      rw [List.append_nil]
      exact ⟨rfl, rfl⟩
    | some c =>
      have hblank := hbehind c (List.mem_of_getLast? hlast)
      rw [hfirm c (by rw [List.getLast?_append, hlast, Option.some_or])] at hblank
      cases hblank
  · have hne' : suffixOf (name ++ behind) ≠ [] := by
      rw [hsuffix]
      exact List.append_ne_nil_of_left_ne_nil hne behind
    refine ⟨hbase, ?_⟩
    rw [arityOf_of_suffixOf_ne_nil hne', arityOf_of_suffixOf_ne_nil hne, hsuffix,
      countCommas_append_of_notMem hcomma]

/-! ### Full names -/

/-- What stands in front of the class name in a full name. -/
def frontOf (identifier : ClassIdentifier) : List Char :=
  if identifier.namespaceName = "" then [] else identifier.namespaceName.toList ++ ['.']

/-- The characters of a full name. -/
theorem toList_fullName (identifier : ClassIdentifier) :
    identifier.fullName.toList = identifier.frontOf ++ identifier.className.toList := by
  unfold fullName frontOf
  split
  · rfl
  · rw [String.toList_append, String.toList_append]
    rfl

/-- What stands in front of the class name is what is read as the namespace. -/
theorem qualifies_frontOf {identifier : ClassIdentifier}
    (hclosed : depthBehind 0 identifier.namespaceName.toList = 0) :
    Qualifies identifier.frontOf identifier.namespaceName.toList := by
  unfold frontOf
  split
  · rename_i hglobal
    rw [hglobal]
    exact .unqualified
  · exact .qualified hclosed

/-- What it takes for a full name to be read as the class that it is written for. -/
structure IsWritable (identifier : ClassIdentifier) : Prop where
  /-- It does not begin with a blank. -/
  first : ∀ c, identifier.fullName.toList.head? = some c → Text.isBlank c = false
  /-- The namespace closes its brackets. -/
  closed : depthBehind 0 identifier.namespaceName.toList = 0
  /-- The class name has no dot outside the brackets. -/
  undotted : splitAtLastDot 0 identifier.className.toList = none
  /-- The arguments can be read, whatever blanks stand behind them. -/
  balanced : (rawArguments? (Text.dropEndWhile Text.isBlank identifier.className.toList)).isSome =
    true

variable {identifier read : ClassIdentifier}

/-- Where a full name is read in its own namespace, the class name that is read stands in the one
that was written, between blanks and perhaps behind a dot. -/
theorem exists_around_of_parse (h : parse identifier.fullName = .ok read)
    (hspace : read.namespaceName = identifier.namespaceName) :
    ∃ before behind, identifier.className.toList = before ++ read.className.toList ++ behind ∧
      (∀ c ∈ before, Text.isBlank c = true ∨ c = '.') ∧ Blank behind ∧
      (before = [] → IsSpelling identifier.frontOf read) := by
  obtain ⟨before, front, behind, htext, hbefore, hbehind, hspelling⟩ := parse_eq_ok_iff.1 h
  rw [toList_fullName] at htext
  have hfront := hspelling.qualifies.eq_or
  rw [hspace] at hfront
  by_cases hglobal : identifier.namespaceName = ""
  · -- without a namespace the blanks and the dot in front are in the class name
    have hnone : identifier.frontOf = [] := if_pos hglobal
    rw [hnone, List.nil_append, ← List.append_assoc before] at htext
    rw [hglobal] at hfront
    refine ⟨before ++ front, behind, htext, fun c hc => ?_, hbehind, fun hempty => ?_⟩
    · rcases List.mem_append.1 hc with hmem | hmem
      · exact .inl (hbefore c hmem)
      · rcases hfront with ⟨rfl, -⟩ | rfl
        · cases hmem
        · exact .inr (List.mem_singleton.1 hmem)
    · rw [hnone, ← (List.append_eq_nil_iff.1 hempty).2]
      exact hspelling
  · -- with one there is nothing in front of it
    have hspaceNe : identifier.namespaceName.toList ≠ [] :=
      fun hnil => hglobal (String.toList_eq_nil_iff.1 hnil)
    have hsome : identifier.frontOf = front := by
      rcases hfront with ⟨-, hnil⟩ | hfront
      · exact absurd hnil hspaceNe
      · rw [hfront]
        exact if_neg hglobal
    have hhead : ∀ c, before.head? ≠ some c := by
      intro c hc
      have hblank := hbefore c (List.mem_of_mem_head? hc)
      have hstart : (identifier.frontOf ++ identifier.className.toList).head? = some c := by
        rw [htext, List.append_assoc, List.head?_append, hc, Option.some_or]
      have hfirst : (front ++ read.className.toList).head? = some c := by
        have hne : front ≠ [] := by
          rw [← hsome, frontOf, if_neg hglobal]
          exact List.append_ne_nil_of_right_ne_nil _ (List.cons_ne_nil _ _)
        rw [hsome, List.head?_append_of_ne_nil front hne] at hstart
        rw [List.head?_append_of_ne_nil front hne, hstart]
      rw [hspelling.first c hfirst] at hblank
      cases hblank
    have hnone : before = [] := by
      cases before with
      | nil => rfl
      | cons c rest => exact absurd rfl (hhead c)
    rw [hnone, List.nil_append, hsome, List.append_assoc, List.append_cancel_left_eq] at htext
    exact ⟨[], behind, htext, List.forall_mem_nil _, hbehind, fun _ => hsome ▸ hspelling⟩

/-- The base name of a class name between blanks and dots begins and ends with these. -/
theorem exists_baseOf_around {before behind : List Char} (name : List Char)
    (hbefore : ∀ c ∈ before, Text.isBlank c = true ∨ c = '.') (hbehind : Blank behind) :
    ∃ more, baseOf (before ++ name ++ behind) = before ++ baseOf name ++ more ∧ Blank more := by
  have hbracket : '<' ∉ before := by
    intro hmem
    rcases hbefore _ hmem with hblank | hdot
    · exact absurd hblank (by decide)
    · exact absurd hdot (by decide)
  rw [List.append_assoc before name, (parts_append_of_notMem hbracket _).1]
  rcases parts_append_blank name hbehind with ⟨-, hbase⟩ | ⟨-, hbase, -⟩
  · exact ⟨behind, by rw [hbase, List.append_assoc], hbehind⟩
  · exact ⟨[], by rw [hbase, List.append_nil], List.forall_mem_nil _⟩

/-- The full name of a class whose base name ends in a character other than a blank is read as the
class exactly when it is writable. -/
theorem exists_parse_fullName_iff
    (hfirm : ∃ c, (baseOf identifier.className.toList).getLast? = some c ∧ Text.isBlank c = false) :
    (∃ read, parse identifier.fullName = .ok read ∧ identifier.isSameClass read = true) ↔
      identifier.IsWritable := by
  constructor
  · rintro ⟨read, hread, hsame⟩
    simp only [isSameClass, Bool.and_eq_true, beq_iff_eq, nameWithoutGenerics,
      String.ofList_inj] at hsame
    obtain ⟨⟨hspace, hbase⟩, -⟩ := hsame
    obtain ⟨before, behind, hname, hbefore, hbehind, hspelling⟩ :=
      exists_around_of_parse hread hspace.symm
    have hnone : before = [] := by
      obtain ⟨more, hmore, -⟩ := exists_baseOf_around read.className.toList hbefore hbehind
      rw [← hname, hbase] at hmore
      have hlength := congrArg List.length hmore
      simp only [List.length_append] at hlength
      exact List.length_eq_zero_iff.1 (by omega)
    have hspelled := hspelling hnone
    rw [hnone, List.nil_append] at hname
    have hdots : '.' ∉ behind := fun hmem => absurd (hbehind _ hmem) (by decide)
    refine ⟨fun c hc => ?_, ?_, ?_, ?_⟩
    · have hne : identifier.frontOf ++ read.className.toList ≠ [] :=
        List.append_ne_nil_of_right_ne_nil _ hspelled.ne_nil
      rw [toList_fullName, hname, ← List.append_assoc, List.head?_append_of_ne_nil _ hne] at hc
      exact hspelled.first c hc
    · rw [hspace]
      exact hspelled.qualifies.closed
    · rw [hname]
      exact (splitAtLastDot_append_eq_none_iff _ _ _).2
        ⟨hspelled.undotted, splitAtLastDot_of_notMem hdots _⟩
    · rw [hname, Text.dropEndWhile_append_blank hbehind hspelled.last]
      exact hspelled.balanced
  · intro h
    obtain ⟨last, hlast, hsolid⟩ := hfirm
    have hend : ∀ c,
        (Text.dropEndWhile Text.isBlank identifier.className.toList).getLast? = some c →
          Text.isBlank c = false := fun c => Text.getLast?_dropEndWhile Text.isBlank _
    have hbalanced := h.balanced
    obtain ⟨behind, hname, hbehind⟩ := Text.exists_blank_behind identifier.className.toList
    obtain ⟨name, hcore⟩ : ∃ name : String,
        Text.dropEndWhile Text.isBlank identifier.className.toList = name.toList :=
      ⟨_, String.toList_ofList.symm⟩
    rw [hcore] at hend hbalanced hname
    have hne : name.toList ≠ [] := by
      intro hnil
      have hmem := (List.takeWhile_subset _) (List.mem_of_getLast? hlast)
      rw [hname, hnil, List.nil_append] at hmem
      rw [hbehind last hmem] at hsolid
      cases hsolid
    have hundotted := h.undotted
    rw [hname, splitAtLastDot_append_eq_none_iff] at hundotted
    have hfirst : ∀ c, (identifier.frontOf ++ name.toList).head? = some c →
        Text.isBlank c = false := by
      intro c hc
      refine h.first c ?_
      rw [toList_fullName, hname, ← List.append_assoc, List.head?_append, hc, Option.some_or]
    have hparts := parts_of_append_blank name.toList hbehind fun c hc => by
      rw [← hname, hlast] at hc
      rw [← Option.some.inj hc]
      exact hsolid
    have htext : identifier.fullName.toList =
        [] ++ (identifier.frontOf ++ name.toList) ++ behind := by
      rw [toList_fullName, hname, List.nil_append, List.append_assoc]
    have hspelling : IsSpelling identifier.frontOf ⟨identifier.namespaceName, name⟩ :=
      ⟨qualifies_frontOf h.closed, hundotted.1, hbalanced, hne, hfirst, hend⟩
    rw [← hname] at hparts
    refine ⟨⟨identifier.namespaceName, name⟩,
      parse_eq_ok_iff.2 ⟨[], _, behind, htext, List.forall_mem_nil _, hbehind, hspelling⟩, ?_⟩
    simp [isSameClass, nameWithoutGenerics, genericArity, hparts]

end TemplateCodegen.ClassIdentifier
