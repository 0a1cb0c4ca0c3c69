import TemplateCodegen.Proofs.Output.Collisions

/-!
# Where the content of artifacts comes from

What outputs give for a key are the inline fragments of the key, the files of the key, and the
global files of the key with the fragments of their children, which may stand in usages in front of
the one that asks for the global file or behind it. The artifacts of a key are put together from
these and from nothing else. Main statement: where no keys collide, the fragments of a key are
joined in one artifact, every file is handed out as it is, every global file has the fragments of
its children in the place of their content, and outputs that give the same for a key give the same
artifact (`collectOutputs_conserves`).
-/

namespace TemplateCodegen

/-! ### Contributions -/

/-- The texts of the child fragments of a generator name, in the order of the usages. -/
def childTexts (rendered : List RenderedUsage) (generatorName : String) : List String :=
  ((rendered.flatMap RenderedUsage.children).filter fun child =>
    child.generatorName == generatorName).map ChildFragment.text

/-- The artifact of a global file with the texts of its children. -/
def GlobalRequest.filled (request : GlobalRequest) (texts : List String) : Artifact where
  key := request.key
  content := request.header ++
    request.body.render (request.context.insertText "ChildContent" (String.join texts))

/-- What outputs give for a key. -/
structure Contributions where
  /-- The texts of the inline fragments of the key, in the order of the usages. -/
  texts : List String
  /-- The files of the key. -/
  files : List Artifact
  /-- The global files of the key, each with the texts of its children. -/
  globals : List (GlobalRequest × List String)

/-- What rendered usages give for a key. -/
def contributionsTo (rendered : List RenderedUsage) (key : String) : Contributions where
  texts := textsOf (rendered.filterMap RenderedUsage.inline) key
  files := (rendered.flatMap RenderedUsage.files).filter fun file => file.key == key
  globals := ((rendered.flatMap RenderedUsage.globals).filter fun request =>
    request.key == key).map fun request => (request, childTexts rendered request.generatorName)

/-- The artifacts that the contributions to a key make: one of all texts together, if there are any,
one for each file and one for each global file. -/
def Contributions.artifacts (contributions : Contributions) (separator key : String) :
    List Artifact :=
  (if contributions.texts = [] then [] else [⟨key, separator.intercalate contributions.texts⟩]) ++
    contributions.files ++ contributions.globals.map fun entry => entry.1.filled entry.2

/-- The fragments of a key are in the artifact of the key, and in no other one. -/
theorem filter_groupFragments (separator : String) (fragments : List InlineFragment)
    (key : String) :
    (groupFragments separator fragments).filter (fun artifact => artifact.key == key) =
      if textsOf fragments key = [] then []
      else [⟨key, separator.intercalate (textsOf fragments key)⟩] := by
  have hkeys : ((fun artifact : Artifact => artifact.key == key) ∘ gathered separator fragments) =
      fun name => name == key := rfl
  rw [groupFragments_eq, List.filter_map, hkeys, Template.filter_beq_distinct]
  by_cases hmem : key ∈ fragments.map InlineFragment.key
  · have hsome : textsOf fragments key ≠ [] := fun hnil => textsOf_eq_nil_iff.1 hnil hmem
    rw [if_pos hmem, if_neg hsome]
    rfl
  · rw [if_neg hmem, if_pos (textsOf_eq_nil_iff.2 hmem)]
    rfl

/-- The artifacts of a key are those that the contributions to the key make. -/
theorem filter_allArtifacts (rendered : List RenderedUsage) (separator key : String) :
    (allArtifacts rendered separator).filter (fun artifact => artifact.key == key) =
      (contributionsTo rendered key).artifacts separator key := by
  have hglobals : ((rendered.flatMap RenderedUsage.globals).map fun request =>
      request.artifact rendered).filter (fun artifact => artifact.key == key) =
        (contributionsTo rendered key).globals.map fun entry => entry.1.filled entry.2 := by
    rw [List.filter_map, contributionsTo, List.map_map]
    rfl
  rw [allArtifacts, List.filter_append, List.filter_append, filter_groupFragments, hglobals]
  rfl

/-! ### Artifacts of different keys -/

/-- Where keys are different, an artifact is the only one of its key. -/
theorem filter_key_eq_singleton {artifacts : List Artifact}
    (hkeys : (artifacts.map Artifact.key).Nodup) {artifact : Artifact}
    (hmem : artifact ∈ artifacts) :
    artifacts.filter (fun other => other.key == artifact.key) = [artifact] := by
  induction artifacts with
  | nil => cases hmem
  | cons first rest ih =>
    obtain ⟨hfresh, hrest⟩ := List.nodup_cons.1 hkeys
    rcases List.mem_cons.1 hmem with rfl | hlater
    · have hnone : rest.filter (fun other => other.key == artifact.key) = [] := by
        refine List.filter_eq_nil_iff.2 fun other hother hsame => hfresh ?_
        rw [← beq_iff_eq.1 hsame]
        exact List.mem_map_of_mem hother
      have hkept : (artifact.key == artifact.key) = true := beq_self_eq_true _
      rw [List.filter_cons, if_pos hkept, hnone]
    · have hne : ¬ (first.key == artifact.key) = true := by
        intro hsame
        rw [beq_iff_eq.1 hsame] at hfresh
        exact hfresh (List.mem_map_of_mem hlater)
      rw [List.filter_cons, if_neg hne]
      exact ih hrest hlater

/-- The artifacts have everything that the rendered usages give, each thing where it belongs. -/
structure Conserves (rendered : List RenderedUsage) (separator : String)
    (artifacts : List Artifact) : Prop where
  /-- There is one artifact for each key that is asked for, in the order of the keys. -/
  keys : artifacts.map Artifact.key = outputKeys rendered ∧ (outputKeys rendered).Nodup
  /-- The inline fragments of a key are joined in the order of the usages. -/
  inline : ∀ fragment ∈ rendered.filterMap RenderedUsage.inline,
    artifacts.filter (fun artifact => artifact.key == fragment.key) =
      [⟨fragment.key, separator.intercalate
        (textsOf (rendered.filterMap RenderedUsage.inline) fragment.key)⟩]
  /-- Every file is there once, as it is. -/
  file : ∀ file ∈ rendered.flatMap RenderedUsage.files,
    artifacts.filter (fun artifact => artifact.key == file.key) = [file]
  /-- Every global file is rendered behind its header in its own context, in which only the
  children's content is replaced by the texts of its children. -/
  globalFile : ∀ request ∈ rendered.flatMap RenderedUsage.globals,
    ∃ context : Context,
      (∀ name, context.get? name =
        if name = "ChildContent" then
          some (.text (String.join (childTexts rendered request.generatorName)))
        else request.context.get? name) ∧
      artifacts.filter (fun artifact => artifact.key == request.key) =
        [⟨request.key, request.header ++ request.body.render context⟩]
  /-- Every artifact is made of what is given for its key. -/
  only : ∀ key, artifacts.filter (fun artifact => artifact.key == key) =
    (contributionsTo rendered key).artifacts separator key

/-- All artifacts together have everything, when their keys are different. -/
theorem conserves_allArtifacts {rendered : List RenderedUsage} {separator : String}
    (h : ((allArtifacts rendered separator).map Artifact.key).Nodup) :
    Conserves rendered separator (allArtifacts rendered separator) where
  keys := ⟨keys_allArtifacts rendered separator, keys_allArtifacts rendered separator ▸ h⟩
  inline fragment hfragment := by
    have hkey : fragment.key ∈ Template.distinct
        ((rendered.filterMap RenderedUsage.inline).map InlineFragment.key) :=
      Template.mem_distinct.2 (List.mem_map_of_mem hfragment)
    have hgroup : gathered separator (rendered.filterMap RenderedUsage.inline) fragment.key ∈
        groupFragments separator (rendered.filterMap RenderedUsage.inline) := by
      rw [groupFragments_eq]
      exact List.mem_map_of_mem hkey
    exact filter_key_eq_singleton h
      (List.mem_append_left _ (List.mem_append_left _ hgroup))
  file file hfile :=
    filter_key_eq_singleton h (List.mem_append_left _ (List.mem_append_right _ hfile))
  globalFile request hrequest := by
    have hmem : request.artifact rendered ∈ allArtifacts rendered separator :=
      List.mem_append_right _ (List.mem_map_of_mem hrequest)
    exact ⟨_, fun name => Context.get?_insertText request.context _ _ name,
      filter_key_eq_singleton h hmem⟩
  only := filter_allArtifacts rendered separator

/-- Where no keys collide, what the artifacts have is what the rendered usages give, each thing
where it belongs; and other usages without collisions that give the same for a key have the same
artifact of that key. -/
theorem collectOutputs_conserves {rendered : List RenderedUsage} {config : Config}
    (h : (collectOutputs rendered config).diagnostics = []) :
    Conserves rendered config.fragmentSeparator (collectOutputs rendered config).artifacts ∧
    ∀ (others : List RenderedUsage) (key : String),
      (collectOutputs others config).diagnostics = [] →
      contributionsTo others key = contributionsTo rendered key →
      (collectOutputs others config).artifacts.filter (fun artifact => artifact.key == key) =
        (collectOutputs rendered config).artifacts.filter fun artifact => artifact.key == key := by
  have hconserves : ∀ usages, (collectOutputs usages config).diagnostics = [] →
      Conserves usages config.fragmentSeparator (collectOutputs usages config).artifacts := by
    intro usages hnone
    rcases collectOutputs_cases usages config with ⟨hkeys, hall⟩ | ⟨-, hsome⟩
    · rw [hall]
      exact conserves_allArtifacts hkeys
    · exact absurd hnone hsome
  refine ⟨hconserves rendered h, fun others key hnone hsame => ?_⟩
  rw [(hconserves others hnone).only key, (hconserves rendered h).only key, hsame]

/-- The fragments of two classes between each other, and a global file with a child in front of it,
one behind it and one of another name. -/
def interleaved : List RenderedUsage :=
  [{ inline := some ⟨"Order", "a"⟩, children := [⟨"Registry", "A;"⟩] },
    { inline := some ⟨"Cart", "b"⟩, files := [⟨"Log", "1"⟩],
      globals := [⟨"All", "Registry", .identifier "ChildContent" ⟨0, 18⟩ .empty, .empty, "// "⟩] },
    { inline := some ⟨"Order", "c"⟩, children := [⟨"Other", "X;"⟩, ⟨"Registry", "B;"⟩] }]

/-- Nothing of it is lost or moved, and its global file is the same without its classes. -/
theorem interleaved_conserves :
    (collectOutputs interleaved {}).diagnostics = [] ∧
    Conserves interleaved "\n" (collectOutputs interleaved {}).artifacts ∧
    (collectOutputs interleaved {}).artifacts =
      [⟨"Order", "a\nc"⟩, ⟨"Cart", "b"⟩, ⟨"Log", "1"⟩, ⟨"All", "// A;B;"⟩] ∧
    (collectOutputs (interleaved.map fun usage => { usage with inline := none })
        {}).artifacts.filter (fun artifact => artifact.key == "All") =
      (collectOutputs interleaved {}).artifacts.filter fun artifact => artifact.key == "All" := by
  have hnone : (collectOutputs interleaved {}).diagnostics = [] := by decide +kernel
  obtain ⟨hconserves, halike⟩ := collectOutputs_conserves hnone
  exact ⟨hnone, hconserves, by decide +kernel, halike _ _ (by decide +kernel) rfl⟩

end TemplateCodegen
