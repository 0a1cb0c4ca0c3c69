import TemplateCodegen.Storage.Path
import Mathlib.Data.List.TakeWhile

/-!
# Where the files of artifacts lie

A path is taken apart at its slashes, so joining a directory and a relative path puts their
components one behind the other, and an absolute path forgets the directory. Main statement: the
file of a key lies directly inside the output directory exactly when the file name is one that an
entry of a directory can have (`OutputDirectory.putsInside_iff`).
-/

namespace TemplateCodegen

namespace Storage

/-- A name that an entry of a directory can have. -/
structure IsEntryName (name : String) : Prop where
  /-- It is not empty. -/
  ne_empty : name ≠ ""
  /-- It is one component. -/
  slash : '/' ∉ name.toList
  /-- It is not that of the directory itself. -/
  ne_self : name ≠ "."
  /-- It is not that of the directory above. -/
  ne_above : name ≠ ".."

/-- The components of two paths with a slash between them. -/
theorem components_slash (one other : String) :
    components (one ++ "/" ++ other) = components one ++ components other := by
  have hchars : (one ++ "/" ++ other).toList = one.toList ++ '/' :: other.toList := by simp
  rw [components, hchars, Text.segments_append, List.filter_append, List.map_append]
  rfl

/-- The empty path has no components. -/
theorem components_empty : components "" = [] := rfl

/-- A name without slashes is its one component. -/
theorem components_of_notMem {name : String} (h : '/' ∉ name.toList) (hne : name ≠ "") :
    components name = [name] := by
  have hfilter : [name.toList].filter (fun component => !component.isEmpty) = [name.toList] := by
    simp [hne]
  rw [components, Text.segments_of_notMem h, hfilter, List.map_singleton, String.ofList_toList]

/-- No component is empty or has a slash. -/
theorem of_mem_components {path component : String} (h : component ∈ components path) :
    component ≠ "" ∧ '/' ∉ component.toList := by
  obtain ⟨piece, hpiece, rfl⟩ := List.mem_map.1 h
  obtain ⟨hmem, hne⟩ := List.mem_filter.1 hpiece
  rw [String.toList_ofList]
  exact ⟨by simpa using hne, Text.notMem_of_mem_segments hmem⟩

/-- What a directory puts in front of a relative path. -/
def frontOf (directory : String) : String :=
  if directory = "" ∨ directory.toList.getLast? = some '/' then directory else directory ++ "/"

/-- A relative path stands behind what the directory puts in front of it. -/
theorem joinPath_eq {path : String} (h : isAbsolutePath path = false) (directory : String) :
    joinPath directory path = frontOf directory ++ path := by
  rw [joinPath, h, if_neg Bool.false_ne_true, frontOf]
  split
  · rfl
  · rfl

/-- What is in front of a path has the components of the directory. -/
theorem components_frontOf_append (directory path : String) :
    components (frontOf directory ++ path) = components directory ++ components path := by
  by_cases hempty : directory = ""
  · rw [frontOf, if_pos (.inl hempty), hempty, String.empty_append, components_empty,
      List.nil_append]
  by_cases hslash : directory.toList.getLast? = some '/'
  · obtain ⟨front, hfront⟩ := List.getLast?_eq_some_iff.1 hslash
    have hdirectory : directory = String.ofList front ++ "/" := by
      apply String.toList_inj.1
      simp [hfront]
    have hcomponents := components_slash (String.ofList front) ""
    rw [String.append_empty, components_empty, List.append_nil, ← hdirectory] at hcomponents
    rw [frontOf, if_pos (.inr hslash), hcomponents, hdirectory, components_slash]
  · rw [frontOf, if_neg (not_or.2 ⟨hempty, hslash⟩), components_slash]

/-- A relative path behind a directory begins where the directory does. -/
theorem isAbsolutePath_frontOf_append (directory : String) {path : String}
    (h : isAbsolutePath path = false) :
    isAbsolutePath (frontOf directory ++ path) = isAbsolutePath directory := by
  by_cases hempty : directory = ""
  · rw [frontOf, if_pos (.inl hempty), hempty, String.empty_append]
    exact h
  · obtain ⟨c, rest, hcs⟩ := List.exists_cons_of_ne_nil
      (fun hnil => hempty (String.toList_eq_nil_iff.1 hnil))
    unfold frontOf
    split <;> simp [isAbsolutePath, hcs]

end Storage

namespace OutputDirectory

variable {output : OutputDirectory} {key key' : String}

open Storage

/-! ### Files inside the directory -/

/-- The file of a key lies directly inside the directory: its path begins where the directory's does
and goes on behind it with one name, which is that of an entry. -/
structure PutsInside (output : OutputDirectory) (key : String) : Prop where
  /-- The path begins where the directory's does. -/
  origin : isAbsolutePath (output.pathFor key) = isAbsolutePath output.directory
  /-- The path goes on with one name. -/
  components : Storage.components (output.pathFor key) =
    Storage.components output.directory ++ [output.fileName key]
  /-- The name is not that of the directory itself. -/
  ne_self : output.fileName key ≠ "."
  /-- The name is not that of the directory above. -/
  ne_above : output.fileName key ≠ ".."

/-- The file of a key lies directly inside the directory exactly when its name is one that an entry
can have. -/
theorem putsInside_iff : output.PutsInside key ↔ IsEntryName (output.fileName key) := by
  constructor
  · intro h
    have hmem : output.fileName key ∈ Storage.components (output.pathFor key) := by
      rw [h.components]
      exact List.mem_append_right _ (List.mem_singleton_self _)
    obtain ⟨hne, hslash⟩ := of_mem_components hmem
    exact ⟨hne, hslash, h.ne_self, h.ne_above⟩
  · intro h
    have hrelative : isAbsolutePath (output.fileName key) = false := by
      rw [isAbsolutePath, beq_eq_false_iff_ne]
      exact fun hhead => h.slash (List.mem_of_head? hhead)
    have hpath : output.pathFor key = frontOf output.directory ++ output.fileName key :=
      joinPath_eq hrelative output.directory
    refine ⟨?_, ?_, h.ne_self, h.ne_above⟩
    · rw [hpath, isAbsolutePath_frontOf_append output.directory hrelative]
    · rw [hpath, components_frontOf_append, components_of_notMem h.slash h.ne_empty]

/-! ### File names -/

/-- The extension has more than dots. -/
def HasExtension (output : OutputDirectory) : Prop := ∃ c ∈ output.fileExtension.toList, c ≠ '.'

/-- What the file name has behind the key: nothing when the extension has only dots. -/
def suffix (output : OutputDirectory) : String :=
  if output.fileExtension.toList.dropWhile (· == '.') = [] then ""
  else "." ++ String.ofList (output.fileExtension.toList.dropWhile (· == '.'))

/-- The file name is the key and the suffix. -/
theorem fileName_eq (output : OutputDirectory) (key : String) :
    output.fileName key = key ++ output.suffix := by
  unfold fileName suffix
  cases output.fileExtension.toList.dropWhile (· == '.') with
  | nil => exact String.append_empty.symm
  | cons c rest => exact String.append_assoc

/-- Different keys have different file names. -/
theorem fileName_inj : output.fileName key = output.fileName key' ↔ key = key' := by
  rw [fileName_eq, fileName_eq, String.append_left_inj]

/-- A character that is not a dot stands in the file name when it stands in the key or in the
extension. -/
theorem mem_fileName {c : Char} (hc : c ≠ '.') :
    c ∈ (output.fileName key).toList ↔ c ∈ key.toList ∨ c ∈ output.fileExtension.toList := by
  have hbare : c ∈ output.fileExtension.toList.dropWhile (· == '.') ↔
      c ∈ output.fileExtension.toList := by
    refine ⟨fun hmem => List.dropWhile_subset _ hmem, fun hmem => ?_⟩
    rw [← List.takeWhile_append_dropWhile (p := (· == '.')) (l := output.fileExtension.toList),
      List.mem_append] at hmem
    exact hmem.resolve_left fun hdots => hc (by simpa using List.mem_takeWhile_imp hdots)
  rw [fileName_eq, String.toList_append, List.mem_append, suffix, ← hbare]
  split
  · rename_i hnil
    simp [hnil]
  · simp [hc]

/-- With an extension, the file of a key lies directly inside the directory exactly when neither the
key nor the extension has a slash. -/
theorem putsInside_iff_of_extension (h : output.HasExtension) :
    output.PutsInside key ↔ '/' ∉ key.toList ∧ '/' ∉ output.fileExtension.toList := by
  obtain ⟨c, hmem, hc⟩ := h
  have hname : c ∈ (output.fileName key).toList := (mem_fileName hc).2 (.inr hmem)
  rw [putsInside_iff, ← not_or, ← mem_fileName (by decide)]
  refine ⟨fun h => h.slash, fun hslash => ⟨?_, hslash, ?_, ?_⟩⟩
  · rintro hempty
    rw [hempty] at hname
    cases hname
  · rintro hself
    rw [hself] at hname
    exact hc (List.mem_singleton.1 hname)
  · rintro habove
    rw [habove] at hname
    simp [hc] at hname

/-- Without an extension, the file of a key lies directly inside the directory exactly when the key
is a name that an entry can have. -/
theorem putsInside_iff_of_not_extension (h : ¬ output.HasExtension) :
    output.PutsInside key ↔ IsEntryName key := by
  have hnone : output.fileExtension.toList.dropWhile (· == '.') = [] := by
    refine List.dropWhile_eq_nil_iff.2 fun c hc => beq_iff_eq.2 ?_
    by_contra hother
    exact h ⟨c, hc, hother⟩
  rw [putsInside_iff, fileName_eq, suffix, if_pos hnone, String.append_empty]

/-! ### Different paths -/

/-- The file name begins at the root when the key does. -/
theorem isAbsolutePath_fileName (output : OutputDirectory) (key : String) :
    isAbsolutePath (output.fileName key) = isAbsolutePath key := by
  unfold isAbsolutePath
  rw [fileName_eq, String.toList_append]
  cases key.toList with
  | cons c rest => rfl
  | nil =>
    rw [List.nil_append, suffix]
    split
    · rfl
    · simp

/-- Two relative keys, and two absolute ones, have different paths unless they are the same. -/
theorem pathFor_inj (h : isAbsolutePath key = isAbsolutePath key') :
    output.pathFor key = output.pathFor key' ↔ key = key' := by
  refine ⟨fun hpath => ?_, congrArg _⟩
  rw [← isAbsolutePath_fileName output key, ← isAbsolutePath_fileName output key'] at h
  unfold pathFor at hpath
  apply fileName_inj.1
  cases hkey : isAbsolutePath (output.fileName key) with
  | true =>
    rwa [joinPath_of_isAbsolutePath _ hkey, joinPath_of_isAbsolutePath _ (h ▸ hkey)] at hpath
  | false =>
    rw [joinPath_eq hkey, joinPath_eq (h ▸ hkey)] at hpath
    exact (String.append_right_inj _).1 hpath

/-- Files directly inside the directory lie at different places unless their keys are the same. -/
theorem PutsInside.key_eq (h : output.PutsInside key) (h' : output.PutsInside key')
    (hplace : Storage.components (output.pathFor key) =
      Storage.components (output.pathFor key')) : key = key' := by
  rw [h.components, h'.components] at hplace
  exact fileName_inj.1 (List.singleton_inj.1 (List.append_cancel_left hplace))

end OutputDirectory

end TemplateCodegen
