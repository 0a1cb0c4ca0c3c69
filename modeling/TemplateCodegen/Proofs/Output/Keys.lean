import TemplateCodegen.Proofs.Output.Grouping
import TemplateCodegen.Proofs.Pipeline.Isolation
import TemplateCodegen.Proofs.Storage.Placement
import TemplateCodegen.Proofs.Template.Avoidance
import TemplateCodegen.Proofs.Text.Trimming

/-!
# The keys of a generation

An artifact is keyed by a name: the full name of its target class, the rendered name of its file,
the name of the file's member where that is blank, or the name of a global file. Keys replace three
characters of those names and keep all others, slashes among them, and an empty name gives an empty
key. Main statement: in every generation the keys are different, they come from these names, and
where the files of the artifacts lie is decided by the slashes of the names (`generate_keys_exact`).
-/

namespace TemplateCodegen

open Storage

/-! ### Keys of names -/

namespace Text

/-- A key begins at the root when the name does. -/
theorem isAbsolutePath_escapeFileKey (name : String) :
    isAbsolutePath (escapeFileKey name) = isAbsolutePath name := by
  unfold isAbsolutePath
  rw [toList_escapeFileKey]
  cases name.toList with
  | nil => rfl
  | cons c rest =>
    rw [List.map_cons, List.head?_cons, List.head?_cons, Bool.eq_iff_iff, beq_iff_eq, beq_iff_eq,
      Option.some.injEq, Option.some.injEq, fileKeyChar_eq_slash]

end Text

/-- The artifact is stored under the key of the name, which is empty, has a slash, or begins at the
root exactly when the name does. -/
structure Artifact.IsKeyedBy (artifact : Artifact) (name : String) : Prop where
  /-- The key is that of the name. -/
  key : artifact.key = Text.escapeFileKey name
  /-- It is empty when the name is. -/
  empty : artifact.key = "" ↔ name = ""
  /-- It has a slash when the name has. -/
  slash : '/' ∈ artifact.key.toList ↔ '/' ∈ name.toList
  /-- It begins at the root when the name does. -/
  absolute : isAbsolutePath artifact.key = isAbsolutePath name

/-- Whatever has the key of a name is keyed by it. -/
theorem Artifact.isKeyedBy {artifact : Artifact} {name : String}
    (h : artifact.key = Text.escapeFileKey name) : artifact.IsKeyedBy name where
  key := h
  empty := h ▸ Text.escapeFileKey_eq_empty
  slash := h ▸ Text.slash_mem_escapeFileKey
  absolute := h ▸ Text.isAbsolutePath_escapeFileKey name

/-! ### Names of artifacts -/

namespace BoundUsage

/-- The name from which the artifact of a file template is keyed. -/
def fileNameOf (usage : BoundUsage) (file : FileTemplate) : String :=
  if Text.trimmed (file.fileName.render usage.context) = "" then file.member
  else Text.trimmed (file.fileName.render usage.context)

/-- The usage asks for an artifact that is keyed by the name. -/
inductive Names (usage : BoundUsage) : String → Prop where
  /-- The artifact of the target class. -/
  | owner {owner : ClassIdentifier} (howner : usage.target.owner? = some owner)
      (hinline : usage.definition.templates.inline ≠ []) : Names usage owner.fullName
  /-- A file of its own. -/
  | file {file : FileTemplate} (h : file ∈ usage.definition.templates.file) :
      Names usage (usage.fileNameOf file)
  /-- A global file. -/
  | global {file : GlobalFileTemplate} (h : file ∈ usage.definition.templates.globalFile)
      (hassembly : usage.target.owner? = none) : Names usage (Text.trimmed file.fileName)

/-- The keys of a rendered usage are those of its names. -/
theorem exists_names_iff (usage : BoundUsage) (config : Config) (key : String) :
    (∃ name, usage.Names name ∧ key = Text.escapeFileKey name) ↔
      (∃ fragment, usage.inlineFragment? config = some fragment ∧ fragment.key = key) ∨
      (∃ artifact ∈ (usage.render config).files, artifact.key = key) ∨
      ∃ request ∈ (usage.render config).globals, request.key = key := by
  rw [exists_inlineFragment_iff]
  constructor
  · rintro ⟨_, ⟨howner, hinline⟩ | ⟨hfile⟩ | ⟨hfile, hassembly⟩, rfl⟩
    · exact .inl ⟨_, howner, hinline, rfl⟩
    · exact .inr (.inl ⟨_, List.mem_map_of_mem hfile, rfl⟩)
    · refine .inr (.inr ⟨usage.globalRequest config _, ?_, rfl⟩)
      simp only [render, hassembly, Option.isNone_none, if_true]
      exact List.mem_map_of_mem hfile
  · rintro (⟨owner, howner, hinline, rfl⟩ | ⟨artifact, hmem, rfl⟩ | ⟨request, hmem, rfl⟩)
    · exact ⟨_, .owner howner hinline, rfl⟩
    · obtain ⟨file, hfile, rfl⟩ := List.mem_map.1 hmem
      exact ⟨_, .file hfile, rfl⟩
    · simp only [render] at hmem
      split at hmem
      · rename_i hassembly
        obtain ⟨file, hfile, rfl⟩ := List.mem_map.1 hmem
        exact ⟨_, .global hfile (Option.isNone_iff_eq_none.1 hassembly), rfl⟩
      · cases hmem

end BoundUsage

/-- The keys of the artifacts of classes are those of the inline fragments. -/
theorem mem_keys_inline {usages : List BoundUsage} {config : Config} {key : String} :
    key ∈ (groupFragments config.fragmentSeparator
        (inlineFragments usages config)).map Artifact.key ↔
      ∃ usage ∈ usages, ∃ fragment, usage.inlineFragment? config = some fragment ∧
        fragment.key = key := by
  have hkeys : Artifact.key ∘ gathered config.fragmentSeparator (inlineFragments usages config) =
      id := rfl
  rw [groupFragments_eq, List.map_map, hkeys, List.map_id, Template.mem_distinct, List.mem_map]
  constructor
  · rintro ⟨fragment, hmem, hkey⟩
    obtain ⟨usage, husage, hfragment⟩ := List.mem_filterMap.1 hmem
    exact ⟨usage, husage, fragment, hfragment, hkey⟩
  · rintro ⟨usage, husage, fragment, hfragment, hkey⟩
    exact ⟨fragment, List.mem_filterMap.2 ⟨usage, husage, hfragment⟩, hkey⟩

/-- What rendered usages hold is held by one of them. -/
theorem mem_flatMap_render {α : Type} {usages : List BoundUsage} {config : Config}
    {part : RenderedUsage → List α} {item : α} :
    item ∈ (usages.map fun usage => usage.render config).flatMap part ↔
      ∃ usage ∈ usages, item ∈ part (usage.render config) := by
  rw [List.flatMap_map, List.mem_flatMap]

/-- The keys of all artifacts of usages are those of their names. -/
theorem mem_keys_allArtifacts {usages : List BoundUsage} {config : Config} {key : String} :
    key ∈ (allArtifacts (usages.map fun usage => usage.render config)
        config.fragmentSeparator).map Artifact.key ↔
      ∃ usage ∈ usages, ∃ name, usage.Names name ∧ key = Text.escapeFileKey name := by
  rw [allArtifacts, filterMap_inline, List.map_append, List.map_append, List.mem_append,
    List.mem_append, mem_keys_inline, List.map_map, List.mem_map, List.mem_map]
  constructor
  · rintro ((⟨usage, husage, hfragment⟩ | ⟨artifact, hmem, hkey⟩) | ⟨request, hmem, hkey⟩)
    · exact ⟨usage, husage, (usage.exists_names_iff config key).2 (.inl hfragment)⟩
    · obtain ⟨usage, husage, hfile⟩ := mem_flatMap_render.1 hmem
      exact ⟨usage, husage, (usage.exists_names_iff config key).2 (.inr (.inl ⟨_, hfile, hkey⟩))⟩
    · obtain ⟨usage, husage, hglobal⟩ := mem_flatMap_render.1 hmem
      exact ⟨usage, husage,
        (usage.exists_names_iff config key).2 (.inr (.inr ⟨_, hglobal, hkey⟩))⟩
  · rintro ⟨usage, husage, hname⟩
    rcases (usage.exists_names_iff config key).1 hname with
      hfragment | ⟨artifact, hfile, hkey⟩ | ⟨request, hglobal, hkey⟩
    · exact .inl (.inl ⟨usage, husage, hfragment⟩)
    · exact .inl (.inr ⟨artifact, mem_flatMap_render.2 ⟨usage, husage, hfile⟩, hkey⟩)
    · exact .inr ⟨request, mem_flatMap_render.2 ⟨usage, husage, hglobal⟩, hkey⟩

/-! ### Names without slashes -/

/-- No text from which a usage makes the name of an artifact has the character. -/
structure BoundUsage.Avoids (c : Char) (usage : BoundUsage) : Prop where
  /-- The full name of the target class. -/
  owner : ∀ owner, usage.target.owner? = some owner → c ∉ owner.fullName.toList
  /-- The values of the placeholders. -/
  context : usage.context.Avoids c
  /-- The members of file templates. -/
  members : ∀ file ∈ usage.definition.templates.file, c ∉ file.member.toList
  /-- The templates of file names. -/
  fileNames : ∀ file ∈ usage.definition.templates.file, file.fileName.Avoids c
  /-- The names of global files. -/
  globals : ∀ file ∈ usage.definition.templates.globalFile, c ∉ file.fileName.toList

/-- A usage whose texts have no slash asks for names without slashes. -/
theorem BoundUsage.Avoids.slash_notMem {usage : BoundUsage} (h : usage.Avoids '/') {name : String}
    (hname : usage.Names name) : '/' ∉ name.toList := by
  cases hname with
  | owner howner hinline => exact h.owner _ howner
  | @file file hfile =>
    have hflags : ∀ flag, '/' ∉ (Template.shown (.bool flag)).toList := by decide
    unfold fileNameOf
    split
    · exact h.members file hfile
    · exact Text.notMem_trimmed ((h.fileNames file hfile).notMem_render hflags h.context)
  | global hfile hassembly => exact Text.notMem_trimmed (h.globals _ hfile)

/-! ### Generations -/

/-- The bound usages of a manifest that are not forbidden repeats. -/
def Manifest.keptUsages (manifest : Manifest) (config : Config) : List BoundUsage :=
  (enforceMultiplicity (Reported.valuesOf (manifest.bindings config))).value.getD []

/-- The artifacts of a generation are those of the kept usages, unless some are withheld. -/
theorem artifacts_sequential (manifest : Manifest) (config : Config) :
    (sequential manifest config).artifacts =
      (collectOutputs ((manifest.keptUsages config).map fun usage => usage.render config)
        config).artifacts := rfl

/-- The keys of a generation are different. -/
theorem nodup_keys (manifest : Manifest) (config : Config) :
    ((sequential manifest config).artifacts.map Artifact.key).Nodup := by
  rw [artifacts_sequential]
  rcases collectOutputs_cases ((manifest.keptUsages config).map fun usage => usage.render config)
    config with ⟨hnodup, hall⟩ | ⟨hnone, _⟩
  · rw [hall]
    exact hnodup
  · rw [hnone]
    exact List.nodup_nil

/-- A generation has the keys of all names of its kept usages, or no artifacts. -/
theorem mem_keys_iff (manifest : Manifest) (config : Config) :
    (sequential manifest config).artifacts = [] ∨
      ∀ key, key ∈ (sequential manifest config).artifacts.map Artifact.key ↔
        ∃ usage ∈ manifest.keptUsages config, ∃ name, usage.Names name ∧
          key = Text.escapeFileKey name := by
  rw [artifacts_sequential]
  rcases collectOutputs_cases ((manifest.keptUsages config).map fun usage => usage.render config)
    config with ⟨_, hall⟩ | ⟨hnone, _⟩
  · rw [hall]
    exact .inr fun key => mem_keys_allArtifacts
  · exact .inl hnone

/-- What is known of the keys of a generation. -/
structure Generation.IsKeyed (manifest : Manifest) (config : Config) (generation : Generation) :
    Prop where
  /-- The keys are different. -/
  different : (generation.artifacts.map Artifact.key).Nodup
  /-- They are those of the names that the kept usages ask for, unless all artifacts are withheld.
  -/
  names : generation.artifacts = [] ∨ ∀ key, key ∈ generation.artifacts.map Artifact.key ↔
    ∃ usage ∈ manifest.keptUsages config, ∃ name, usage.Names name ∧
      key = Text.escapeFileKey name
  /-- Every artifact is keyed by one of those names. -/
  keyed : ∀ artifact ∈ generation.artifacts, ∃ usage ∈ manifest.keptUsages config, ∃ name,
    usage.Names name ∧ artifact.IsKeyedBy name
  /-- Where the texts that names are made of have no slash, the keys have none. -/
  slashes : (∀ usage ∈ manifest.keptUsages config, usage.Avoids '/') →
    ∀ artifact ∈ generation.artifacts, '/' ∉ artifact.key.toList

/-- What is known of the places at which an output directory has the files of artifacts. -/
structure OutputDirectory.Places (output : OutputDirectory) (artifacts : List Artifact) :
    Prop where
  /-- With an extension, the files directly inside the directory are those of the keys without
  slashes, if the extension has none either. -/
  extended : output.HasExtension → ∀ artifact ∈ artifacts, (output.PutsInside artifact.key ↔
    '/' ∉ artifact.key.toList ∧ '/' ∉ output.fileExtension.toList)
  /-- Without an extension, they are those of the keys that an entry can have as its name. -/
  bare : ¬ output.HasExtension → ∀ artifact ∈ artifacts,
    (output.PutsInside artifact.key ↔ IsEntryName artifact.key)
  /-- Paths are different unless one key begins at the root and the other one does not. -/
  paths : artifacts.Pairwise fun one other =>
    isAbsolutePath one.key = isAbsolutePath other.key →
      output.pathFor one.key ≠ output.pathFor other.key
  /-- Files directly inside the directory are different files. -/
  files : artifacts.Pairwise fun one other =>
    output.PutsInside one.key → output.PutsInside other.key →
      components (output.pathFor one.key) ≠ components (output.pathFor other.key)

/-- The plain composition of the steps of a generation has such keys. -/
theorem isKeyed_sequential (manifest : Manifest) (config : Config) :
    (sequential manifest config).IsKeyed manifest config := by
  have hkeys := mem_keys_iff manifest config
  have hkeyed : ∀ artifact ∈ (sequential manifest config).artifacts,
      ∃ usage ∈ manifest.keptUsages config, ∃ name,
        usage.Names name ∧ artifact.IsKeyedBy name := by
    intro artifact hartifact
    rcases hkeys with hnone | hall
    · rw [hnone] at hartifact
      cases hartifact
    · obtain ⟨usage, husage, name, hname, hkey⟩ :=
        (hall artifact.key).1 (List.mem_map_of_mem hartifact)
      exact ⟨usage, husage, name, hname, Artifact.isKeyedBy hkey⟩
  refine ⟨nodup_keys manifest config, hkeys, hkeyed, fun havoids artifact hartifact hslash => ?_⟩
  obtain ⟨usage, husage, name, hname, hartifactKey⟩ := hkeyed artifact hartifact
  exact (havoids usage husage).slash_notMem hname (hartifactKey.slash.1 hslash)

/-- Artifacts with different keys have such places. -/
theorem places_of_nodup {artifacts : List Artifact} (h : (artifacts.map Artifact.key).Nodup)
    (output : OutputDirectory) : output.Places artifacts where
  extended hextension _ _ := OutputDirectory.putsInside_iff_of_extension hextension
  bare hextension _ _ := OutputDirectory.putsInside_iff_of_not_extension hextension
  paths := (List.pairwise_map.1 h).imp fun hne habsolute heq =>
    hne ((OutputDirectory.pathFor_inj habsolute).1 heq)
  files := (List.pairwise_map.1 h).imp fun hne hone hother heq => hne (hone.key_eq hother heq)

/-- Every manifest gives one generation, whatever the signal, unless it is cancelled. Its keys are
different and come from the names that the usages ask for; a key is empty, has a slash, or begins at
the root when its name does. The files of its artifacts lie directly inside any output directory
exactly when neither key nor extension has a slash, and are then different files. -/
theorem generate_keys_exact (manifest : Manifest) (config : Config) :
    ∃ generation, generate manifest config .quiet = .ok generation ∧
      (∀ signal other, generate manifest config signal = .ok other → other = generation) ∧
      generation.IsKeyed manifest config ∧
      ∀ output : OutputDirectory, output.Places generation.artifacts := by
  have hkeyed := isKeyed_sequential manifest config
  refine ⟨_, generate_quiet manifest config, fun signal other hother => ?_, hkeyed,
    places_of_nodup hkeyed.different⟩
  rcases generate_cases manifest config signal with hok | ⟨hcancelled, _⟩
  · exact Except.ok.inj (hother.symm.trans hok)
  · rw [hcancelled] at hother
    cases hother

/-- The texts from which the usage of the generator of letters makes names have no slash. -/
theorem letters_avoids : ∀ usage ∈ letters.keptUsages {}, usage.Avoids '/' := by
  have hkept : (letters.keptUsages {}).map (fun usage => (usage.target.owner?.map
      ClassIdentifier.fullName, usage.context.entries, usage.definition.templates.file,
      usage.definition.templates.globalFile)) =
      [(some "Order", [("ClassName", .text "Order"), ("ClassNamespace", .text ""),
        ("ClassFullName", .text "Order")], [], [])] := by decide +kernel
  intro usage husage
  have hparts := List.mem_map_of_mem (f := fun usage : BoundUsage => (usage.target.owner?.map
      ClassIdentifier.fullName, usage.context.entries, usage.definition.templates.file,
      usage.definition.templates.globalFile)) husage
  rw [hkept, List.mem_singleton] at hparts
  simp only [Prod.mk.injEq] at hparts
  obtain ⟨hname, hentries, hfiles, hglobals⟩ := hparts
  refine ⟨fun owner howner => ?_, .map fun name value hvalue => ?_, ?_, ?_, ?_⟩
  · rw [howner, Option.map_some, Option.some.injEq] at hname
    rw [hname]
    decide
  · rw [hentries] at hvalue
    simp only [List.mem_cons, Prod.mk.injEq, List.not_mem_nil, or_false] at hvalue
    rcases hvalue with ⟨_, rfl⟩ | ⟨_, rfl⟩ | ⟨_, rfl⟩ <;> exact .text (by decide)
  · simp [hfiles]
  · simp [hfiles]
  · simp [hglobals]

/-- A generator of letters has one artifact, whose file lies directly inside the directory. -/
theorem letters_keys_exact :
    ∃ generation, generate letters {} .quiet = .ok generation ∧
      generation.artifacts = [⟨"Order", "x"⟩] ∧
      (∀ usage ∈ letters.keptUsages {}, usage.Avoids '/') ∧
      ∀ artifact ∈ generation.artifacts, '/' ∉ artifact.key.toList ∧
        (⟨"/out", "g.cs"⟩ : OutputDirectory).PutsInside artifact.key := by
  obtain ⟨generation, hgenerate, _, hkeyed, hplaces⟩ := generate_keys_exact letters {}
  have hartifacts : generation.artifacts = [⟨"Order", "x"⟩] := by
    rw [generate_quiet] at hgenerate
    rw [← Except.ok.inj hgenerate]
    decide +kernel
  have hextension : (⟨"/out", "g.cs"⟩ : OutputDirectory).HasExtension := ⟨'g', by decide, by decide⟩
  refine ⟨generation, hgenerate, hartifacts, letters_avoids, fun artifact hartifact => ?_⟩
  have hslash := hkeyed.slashes letters_avoids artifact hartifact
  exact ⟨hslash, ((hplaces _).extended hextension artifact hartifact).2 ⟨hslash, by decide⟩⟩

/-- A generator of files: a plain one, one at the root, one above, and one without a name. -/
def routes : Manifest where
  definitions := [((((Declaration.ofIdentifier ⟨"Gen", "RouteGenerator"⟩ .onClass).addMember
    (.ofTemplate "Plain" (.fileTemplate "a") "x")).addMember
    (.ofTemplate "Rooted" (.fileTemplate "/out/a") "y")).addMember
    (.ofTemplate "Above" (.fileTemplate "../{{ ClassName }}") "x")).addMember
    (.ofTemplate "" (.fileTemplate "") "z")]
  usages := [.ofTarget ⟨"Stencil", "Route"⟩ (.onClass ⟨"Shop", "Order"⟩)]

/-- Keys may be empty, begin at the root, and lead out of the output directory, and two different
ones may have one path. -/
theorem routes_not_inside :
    ∃ generation, generate routes {} .quiet = .ok generation ∧
      generation.artifacts = [⟨"a", "x"⟩, ⟨"/out/a", "y"⟩, ⟨"../Order", "x"⟩, ⟨"", "z"⟩] ∧
      isAbsolutePath "/out/a" = true ∧
      (⟨"/out", "g.cs"⟩ : OutputDirectory).pathFor "a" =
        (⟨"/out", "g.cs"⟩ : OutputDirectory).pathFor "/out/a" ∧
      ¬ (⟨"/out", "g.cs"⟩ : OutputDirectory).PutsInside "../Order" := by
  refine ⟨_, generate_quiet routes {}, by decide +kernel, by decide, by decide +kernel, ?_⟩
  rw [OutputDirectory.putsInside_iff]
  exact fun h => h.slash (by decide +kernel)

end TemplateCodegen
