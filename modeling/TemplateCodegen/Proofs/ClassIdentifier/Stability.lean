import TemplateCodegen.Proofs.ClassIdentifier.Rereading

/-!
# Writing and reading again

A class that has been read is written as its full name, which has no dot in front when there is no
namespace. Blanks that stood behind such a dot then stand at the beginning, where reading drops
them. Main statement: the full name of a class that has been read is read as that class again,
without blanks in front of a class name that has no namespace, and from then on nothing changes
(`parse_fullName_of_parse`).
-/

namespace TemplateCodegen.ClassIdentifier

open Text (Blank)

/-- The class that is read from the full name: in the global namespace without the blanks around its
name. -/
def reread (identifier : ClassIdentifier) : ClassIdentifier :=
  if identifier.namespaceName = "" then ⟨"", Text.trimmed identifier.className⟩ else identifier

variable {front : List Char} {identifier : ClassIdentifier}

/-- With a namespace the class name is read behind what its full name has in front of it. -/
theorem IsSpelling.eq_frontOf (h : IsSpelling front identifier)
    (hspace : identifier.namespaceName ≠ "") : front = identifier.frontOf := by
  rcases h.qualifies.eq_or with ⟨-, hnil⟩ | hfront
  · exact absurd (String.toList_eq_nil_iff.1 hnil) hspace
  · rw [hfront, frontOf, if_neg hspace]

/-- Blanks in front of a name do not belong to its argument list. -/
theorem rawArguments?_append_of_blank {before : List Char} (hbefore : Blank before)
    (name : List Char) : rawArguments? (before ++ name) = rawArguments? name := by
  have hbracket : '<' ∉ before := fun hmem => absurd (hbefore _ hmem) (by decide)
  unfold rawArguments?
  rw [(parts_append_of_notMem hbracket name).2]

/-- Blanks are no brackets. -/
theorem depthBehind_of_blank {before : List Char} (hbefore : Blank before) (depth : Int) :
    depthBehind depth before = depth := by
  refine depthBehind_of_forall_ne (fun c hc => ?_) depth
  have hblank := hbefore c hc
  constructor
  · rintro rfl
    exact absurd hblank (by decide)
  · rintro rfl
    exact absurd hblank (by decide)

/-- Without a namespace the class name is read by itself, without the blanks in front of it. -/
theorem IsSpelling.trimmed (h : IsSpelling front identifier) :
    IsSpelling [] ⟨"", Text.trimmed identifier.className⟩ := by
  obtain ⟨before, behind, hname, hbefore, hbehind⟩ :=
    Text.exists_trim identifier.className.toList
  have hlast := h.last
  have hempty : behind = [] := by
    cases hend : behind.getLast? with
    | none => exact List.getLast?_eq_none_iff.1 hend
    | some c =>
      have hblank := hbehind c (List.mem_of_getLast? hend)
      rw [hlast c (by rw [hname, List.getLast?_append, hend, Option.some_or])] at hblank
      cases hblank
  rw [hempty, List.append_nil] at hname
  have hfirst : ∀ c, (Text.trim identifier.className.toList).head? = some c →
      Text.isBlank c = false := fun c => Text.isBlank_of_head?_trim
  have hundotted := h.undotted
  have hbalanced := h.balanced
  have hsome := h.ne_nil
  unfold Text.trimmed
  generalize Text.trim identifier.className.toList = core at hname hfirst
  rw [hname] at hlast hundotted hbalanced hsome
  rw [splitAtLastDot_append_eq_none_iff, depthBehind_of_blank hbefore] at hundotted
  rw [rawArguments?_append_of_blank hbefore] at hbalanced
  refine ⟨.unqualified, ?_, ?_, ?_, ?_, ?_⟩ <;> rw [String.toList_ofList]
  · exact hundotted.2
  · exact hbalanced
  · rintro rfl
    rw [List.append_nil] at hlast hsome
    have hblank := hbefore _ (List.getLast_mem hsome)
    rw [hlast _ (List.getLast?_eq_some_getLast hsome)] at hblank
    cases hblank
  · exact hfirst
  · intro c hc
    refine hlast c ?_
    rw [List.getLast?_append, hc, Option.some_or]

/-- The full name of a class that has been read is read again. -/
theorem parse_fullName_eq_reread {text : String} (h : parse text = .ok identifier) :
    parse identifier.fullName = .ok identifier.reread := by
  obtain ⟨-, front, -, -, -, -, hspelling⟩ := parse_eq_ok_iff.1 h
  unfold reread
  by_cases hspace : identifier.namespaceName = ""
  · obtain ⟨before, behind, hname, hbefore, hbehind⟩ :=
      Text.exists_trim identifier.className.toList
    rw [if_pos hspace]
    refine parse_eq_ok_iff.2 ⟨before, [], behind, ?_, hbefore, hbehind, hspelling.trimmed⟩
    rw [toList_fullName, frontOf, if_pos hspace, List.nil_append, List.nil_append, Text.trimmed,
      String.toList_ofList]
    exact hname
  · rw [if_neg hspace]
    refine parse_eq_ok_iff.2 ⟨[], front, [], ?_, Text.blank_nil, Text.blank_nil, hspelling⟩
    rw [toList_fullName, hspelling.eq_frontOf hspace, List.nil_append, List.append_nil]

/-- A class that has been read again is not changed by reading it once more. -/
theorem reread_reread (identifier : ClassIdentifier) :
    identifier.reread.reread = identifier.reread := by
  unfold reread
  by_cases hspace : identifier.namespaceName = ""
  · rw [if_pos hspace, if_pos rfl, Text.trimmed, Text.trimmed, String.toList_ofList, Text.trim_trim]
  · rw [if_neg hspace, if_neg hspace]

/-- Trimming leaves a class name that has been read as it is when it does not begin with a blank. -/
theorem IsSpelling.trimmed_eq_self_iff (h : IsSpelling front identifier) :
    Text.trimmed identifier.className = identifier.className ↔
      ∀ c, identifier.className.toList.head? = some c → Text.isBlank c = false := by
  have hsome := h.ne_nil
  have hlast := h.last _ (List.getLast?_eq_some_getLast hsome)
  constructor
  · intro heq c hc
    rw [← heq, Text.trimmed, String.toList_ofList] at hc
    exact Text.isBlank_of_head?_trim hc
  · intro hfirst
    have htrim := Text.trim_around Text.blank_nil Text.blank_nil hsome
      (hfirst _ (List.head?_eq_some_head hsome)) hlast
    rw [List.nil_append, List.append_nil] at htrim
    rw [Text.trimmed, htrim, String.ofList_toList]

/-- The full name of a class that has been read is read as the class again, in the same namespace
and with the same name, where without a namespace the blanks in front of the name are dropped; the
full name of what is read so is read as just that. The class is the same exactly when it has a
namespace or its name does not begin with a blank. -/
theorem parse_fullName_of_parse {text : String} (h : parse text = .ok identifier) :
    parse identifier.fullName = .ok identifier.reread ∧
      identifier.reread.namespaceName = identifier.namespaceName ∧
      parse identifier.reread.fullName = .ok identifier.reread ∧
      (identifier.reread = identifier ↔ (identifier.namespaceName = "" →
        ∀ c, identifier.className.toList.head? = some c → Text.isBlank c = false)) := by
  have hread := parse_fullName_eq_reread h
  have hagain := parse_fullName_eq_reread hread
  rw [reread_reread] at hagain
  refine ⟨hread, ?_, hagain, ?_⟩
  · unfold reread
    split
    · rename_i hspace
      exact hspace.symm
    · rfl
  · obtain ⟨-, front, -, -, -, -, hspelling⟩ := parse_eq_ok_iff.1 h
    rw [← hspelling.trimmed_eq_self_iff]
    obtain ⟨namespaceName, className⟩ := identifier
    unfold reread
    by_cases hspace : namespaceName = ""
    · obtain rfl := hspace
      rw [if_pos rfl, ClassIdentifier.mk.injEq]
      exact ⟨fun heq _ => heq.2, fun heq => ⟨rfl, heq rfl⟩⟩
    · rw [if_neg hspace]
      exact ⟨fun _ hglobal => absurd hglobal hspace, fun _ => rfl⟩

/-- A class with blanks around a dot, and dots in its arguments, is read again as it is. -/
theorem cache_parse_fullName :
    parse " Acme . Cache<Acme.Key, Map<int, T.U>> " =
        .ok ⟨"Acme ", " Cache<Acme.Key, Map<int, T.U>>"⟩ ∧
      parse "Acme . Cache<Acme.Key, Map<int, T.U>>" =
        .ok ⟨"Acme ", " Cache<Acme.Key, Map<int, T.U>>"⟩ := by
  have hread : parse " Acme . Cache<Acme.Key, Map<int, T.U>> " =
      .ok ⟨"Acme ", " Cache<Acme.Key, Map<int, T.U>>"⟩ := rfl
  obtain ⟨hagain, -, -, hsame⟩ := parse_fullName_of_parse hread
  rw [hsame.2 fun hglobal => absurd hglobal (by decide)] at hagain
  exact ⟨hread, hagain⟩

/-- Behind a dot that stands first a blank belongs to the class name, and is lost when the full name
is read. -/
theorem dotted_parse_fullName_ne :
    parse ". Cache" = .ok ⟨"", " Cache"⟩ ∧
      (⟨"", " Cache"⟩ : ClassIdentifier).fullName = " Cache" ∧
      parse " Cache" = .ok ⟨"", "Cache"⟩ ∧ parse " Cache" ≠ .ok ⟨"", " Cache"⟩ := by
  have hread : parse " Cache" = .ok ⟨"", "Cache"⟩ := rfl
  refine ⟨rfl, rfl, hread, fun hsame => ?_⟩
  rw [hread] at hsame
  have hname := congrArg ClassIdentifier.className (Except.ok.inj hsame)
  exact absurd hname (by decide)

end TemplateCodegen.ClassIdentifier
