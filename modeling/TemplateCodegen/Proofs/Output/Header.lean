import TemplateCodegen.Proofs.Output.Cosmetics

/-!
# Comments in front of artifacts

The header writes every text behind the comment marker and ends it with a line feed. A text that has
line feeds itself is not looked at, so only its first line is sure to be a comment. Main statement:
the lines of a header are all comments exactly when in every text that it shows each line feed is
followed by the marker (`header_isCommented_iff`).
-/

namespace TemplateCodegen

/-! ### Lines -/

/-- The lines of a text, each ended by a line feed; what stands behind the last line feed is no line
of it. -/
def endedLines : List Char → List (List Char)
  | [] => []
  | c :: rest =>
    if c = '\n' then [] :: endedLines rest
    else
      match endedLines rest with
      | [] => []
      | line :: lines => (c :: line) :: lines

/-- Every line of the text begins with the marker. -/
def IsCommented (marker text : String) : Prop :=
  ∀ line ∈ endedLines text.toList, marker.toList <+: line

/-- Every line feed in the text is followed by the marker. -/
def ResumesWith (marker text : List Char) : Prop :=
  ∀ before behind, text = before ++ '\n' :: behind → marker <+: behind

section Lines

variable {marker text : List Char}

/-- A text that is ended has a first line, which goes up to its first line feed. -/
theorem exists_endedLines (text rest : List Char) :
    ∃ lines, endedLines (text ++ '\n' :: rest) = text.takeWhile (· != '\n') :: lines := by
  induction text with
  | nil => exact ⟨_, rfl⟩
  | cons c text ih =>
    obtain ⟨lines, hlines⟩ := ih
    rw [List.cons_append, endedLines]
    by_cases hbreak : c = '\n'
    · obtain rfl := hbreak
      exact ⟨_, rfl⟩
    · have hfirst : (c :: text).takeWhile (· != '\n') = c :: text.takeWhile (· != '\n') :=
        List.takeWhile_cons_of_pos (bne_iff_ne.2 hbreak)
      rw [if_neg hbreak, hlines, hfirst]
      exact ⟨_, rfl⟩

/-- A marker without line feeds stands at the beginning of the first line when it stands at the
beginning of the text. -/
theorem prefix_takeWhile_iff (hmarker : '\n' ∉ marker) :
    marker <+: text.takeWhile (· != '\n') ↔ marker <+: text := by
  constructor
  · intro h
    exact h.trans (List.takeWhile_prefix _)
  · rintro ⟨behind, rfl⟩
    have hkeep : ∀ c ∈ marker, (c != '\n') = true := by
      intro c hc
      rw [bne_iff_ne]
      rintro rfl
      exact hmarker hc
    rw [List.takeWhile_append_of_pos hkeep]
    exact List.prefix_append _ _

/-- A text that begins with a line feed resumes with the marker right behind it, and later. -/
theorem resumesWith_cons_break : ResumesWith marker ('\n' :: text) ↔
    marker <+: text ∧ ResumesWith marker text := by
  constructor
  · intro h
    refine ⟨h [] text rfl, fun before behind hsplit => h ('\n' :: before) behind ?_⟩
    rw [hsplit, List.cons_append]
  · rintro ⟨hfirst, hlater⟩ before behind hsplit
    cases before with
    | nil =>
      obtain rfl := (List.cons.inj hsplit).2
      exact hfirst
    | cons c before => exact hlater before behind (List.cons.inj hsplit).2

/-- Other characters in front make no difference. -/
theorem resumesWith_append (front : List Char) (hfront : '\n' ∉ front) :
    ResumesWith marker (front ++ text) ↔ ResumesWith marker text := by
  induction front with
  | nil => rfl
  | cons c front ih =>
    rw [List.mem_cons, not_or] at hfront
    rw [← ih hfront.2, List.cons_append]
    constructor
    · intro h before behind hsplit
      refine h (c :: before) behind ?_
      rw [hsplit, List.cons_append]
    · intro h before behind hsplit
      cases before with
      | nil => exact absurd (List.cons.inj hsplit).1.symm hfront.1
      | cons _ before => exact h before behind (List.cons.inj hsplit).2

/-- A text without line feeds has nothing to resume. -/
theorem resumesWith_of_notMem (h : '\n' ∉ text) : ResumesWith marker text := by
  rintro before behind rfl
  exact absurd (List.mem_append_right before List.mem_cons_self) h

/-- Behind the first line of an ended text the lines begin with the marker exactly when the text
resumes with it and the lines of the rest begin with it. -/
theorem forall_tail_endedLines_iff (hmarker : '\n' ∉ marker) (text rest : List Char) :
    (∀ line ∈ (endedLines (text ++ '\n' :: rest)).tail, marker <+: line) ↔
      ResumesWith marker text ∧ ∀ line ∈ endedLines rest, marker <+: line := by
  induction text with
  | nil => exact (and_iff_right (resumesWith_of_notMem List.not_mem_nil)).symm
  | cons c text ih =>
    obtain ⟨lines, hlines⟩ := exists_endedLines text rest
    rw [hlines, List.tail_cons] at ih
    rw [List.cons_append, endedLines]
    by_cases hbreak : c = '\n'
    · rw [if_pos hbreak, List.tail_cons, hlines, List.forall_mem_cons, ih,
        prefix_takeWhile_iff hmarker, hbreak, resumesWith_cons_break, and_assoc]
    · have hsame : ResumesWith marker ([c] ++ text) ↔ ResumesWith marker text :=
        resumesWith_append [c] fun hmem => hbreak (List.mem_singleton.1 hmem).symm
      rw [if_neg hbreak, hlines, List.tail_cons, ih, ← List.singleton_append, hsame]

/-- The lines of texts behind a marker and a blank all begin with the marker exactly when each text
resumes with it. -/
theorem forall_endedLines_iff (hmarker : '\n' ∉ marker) (texts : List (List Char)) :
    (∀ line ∈ endedLines (texts.flatMap fun text => marker ++ ' ' :: text ++ ['\n']),
        marker <+: line) ↔
      ∀ text ∈ texts, ResumesWith marker text := by
  induction texts with
  | nil => simp [endedLines]
  | cons text texts ih =>
    have hfront : '\n' ∉ marker ++ [' '] := by
      intro hmem
      rcases List.mem_append.1 hmem with hmem | hmem
      · exact hmarker hmem
      · exact absurd hmem (by decide)
    have hcommented : marker <+: (marker ++ ' ' :: text).takeWhile (· != '\n') :=
      (prefix_takeWhile_iff hmarker).2 (List.prefix_append _ _)
    have htail := forall_tail_endedLines_iff hmarker (marker ++ ' ' :: text)
      (texts.flatMap fun text => marker ++ ' ' :: text ++ ['\n'])
    obtain ⟨lines, hlines⟩ := exists_endedLines (marker ++ ' ' :: text)
      (texts.flatMap fun text => marker ++ ' ' :: text ++ ['\n'])
    rw [hlines, List.tail_cons, List.append_cons, resumesWith_append _ hfront, ih] at htail
    rw [List.flatMap_cons, List.append_assoc, List.singleton_append, hlines, List.forall_mem_cons,
      List.forall_mem_cons, htail]
    exact and_iff_right hcommented

end Lines

/-! ### Headers -/

/-- The texts that the header of a usage shows: which generator it is, and the names and values of
the context. -/
def BoundUsage.shownTexts (usage : BoundUsage) : List String :=
  ("Generated by " ++ usage.definition.identifier.fullName) ::
    usage.context.entries.map fun entry => entry.1 ++ ": " ++ headerValue entry.2

/-- The header has every text behind the marker and ends it with a line feed. -/
theorem BoundUsage.toList_header (usage : BoundUsage) {config : Config}
    (hdebug : config.debugHeader = true) :
    (usage.header config).toList = (usage.shownTexts.map String.toList).flatMap fun text =>
      config.commentMarker.toList ++ ' ' :: text ++ ['\n'] := by
  have hline : ∀ text : String, (config.commentMarker ++ " " ++ text ++ "\n").toList =
      config.commentMarker.toList ++ ' ' :: text.toList ++ ['\n'] := by
    intro text
    simp
  have hheader : usage.header config = String.join (usage.shownTexts.map fun text =>
      config.commentMarker ++ " " ++ text ++ "\n") := by
    rw [header, if_pos hdebug, debugHeader, shownTexts, List.map_cons, List.map_map]
    simp only [Function.comp_def, String.append_assoc]
    rfl
  rw [hheader, String.toList_join, List.flatMap_map, List.flatMap_map]
  exact List.flatMap_congr fun text _ => hline text

/-- Under a configuration with headers and a marker without line feeds a usage gives what it gives
without headers, behind its header. All lines of the header are comments exactly when in every text
that it shows each line feed is followed by the marker. -/
theorem BoundUsage.header_isCommented_iff (usage : BoundUsage) {config : Config}
    (hdebug : config.debugHeader = true) (hmarker : '\n' ∉ config.commentMarker.toList) :
    usage.render config =
        (usage.render { config with debugHeader := false }).headed (usage.header config) ∧
      (IsCommented config.commentMarker (usage.header config) ↔
        ∀ text ∈ usage.shownTexts, ResumesWith config.commentMarker.toList text.toList) := by
  refine ⟨usage.render_eq_headed rfl rfl, ?_⟩
  rw [IsCommented, usage.toList_header hdebug, forall_endedLines_iff hmarker, List.forall_mem_map]

/-- A generator of notes, and one order that gets a note with that text. -/
def notes (text : String) : Manifest where
  definitions := [((Declaration.ofIdentifier ⟨"Gen", "NoteGenerator"⟩ .onClass).addMember
    (.ofTemplate "Body" .template "done")).addProperty
    ((Property.ofType "text" "string").require none)]
  usages := [(Usage.ofTarget ⟨"Stencil", "Note"⟩ (.onClass ⟨"Shop", "Order"⟩)).addArgument text]

/-- The configuration with headers, and otherwise the usual one. -/
def withHeaders : Config := { debugHeader := true }

/-- A note whose second line begins like a comment is commented. -/
theorem notes_isCommented :
    ∃ usage ∈ (notes "first\n// second").keptUsages withHeaders,
      withHeaders.debugHeader = true ∧ '\n' ∉ withHeaders.commentMarker.toList ∧
      usage.shownTexts = ["Generated by Gen.NoteGenerator", "Text: first\n// second",
        "ClassName: Order", "ClassNamespace: Shop", "ClassFullName: Shop.Order"] ∧
      IsCommented withHeaders.commentMarker (usage.header withHeaders) := by
  have hkept : ((notes "first\n// second").keptUsages withHeaders).map BoundUsage.shownTexts =
      [["Generated by Gen.NoteGenerator", "Text: first\n// second",
        "ClassName: Order", "ClassNamespace: Shop", "ClassFullName: Shop.Order"]] := by
    decide +kernel
  obtain ⟨usage, husage, hshown⟩ := List.mem_map.1 (hkept ▸ List.mem_singleton_self _)
  have hmarker : '\n' ∉ withHeaders.commentMarker.toList := by decide
  have hresumes : ResumesWith "//".toList ("Text: first".toList ++ '\n' :: "// second".toList) :=
    (resumesWith_append "Text: first".toList (by decide)).2 <| resumesWith_cons_break.2
      ⟨List.prefix_append _ _, resumesWith_of_notMem (by decide)⟩
  have hothers : ∀ text ∈ usage.shownTexts,
      text = "Text: first\n// second" ∨ '\n' ∉ text.toList := by
    rw [hshown]
    decide
  refine ⟨usage, husage, rfl, hmarker, hshown,
    (usage.header_isCommented_iff rfl hmarker).2.2 fun text htext => ?_⟩
  rcases hothers text htext with rfl | hplain
  · exact hresumes
  · exact resumesWith_of_notMem hplain

/-- The second line of a note gets into the artifact without the marker. -/
theorem notes_not_isCommented :
    withHeaders.debugHeader = true ∧ '\n' ∉ withHeaders.commentMarker.toList ∧
      (∃ usage ∈ (notes "first\nsecond").keptUsages withHeaders,
        ¬ IsCommented withHeaders.commentMarker (usage.header withHeaders)) ∧
      ∃ generation, generate (notes "first\nsecond") withHeaders .quiet = .ok generation ∧
        generation.artifacts = [⟨"Shop.Order",
          "// Generated by Gen.NoteGenerator\n" ++ "// Text: first\n" ++ "second\n" ++
          "// ClassName: Order\n" ++ "// ClassNamespace: Shop\n" ++
          "// ClassFullName: Shop.Order\n" ++ "done"⟩] := by
  have hkept : ((notes "first\nsecond").keptUsages withHeaders).map (fun usage =>
      endedLines (usage.header withHeaders).toList) =
      [["// Generated by Gen.NoteGenerator".toList, "// Text: first".toList, "second".toList,
        "// ClassName: Order".toList, "// ClassNamespace: Shop".toList,
        "// ClassFullName: Shop.Order".toList]] := by
    decide +kernel
  obtain ⟨usage, husage, hlines⟩ := List.mem_map.1 (hkept ▸ List.mem_singleton_self _)
  refine ⟨rfl, by decide, ⟨usage, husage, fun hcommented => ?_⟩, _, generate_quiet _ _,
    by decide +kernel⟩
  have hsecond := hcommented "second".toList (by rw [hlines]; decide)
  exact absurd hsecond (by decide)

end TemplateCodegen
