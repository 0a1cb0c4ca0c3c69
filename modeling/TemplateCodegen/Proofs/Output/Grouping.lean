import Mathlib.Data.List.Induction
import Mathlib.Data.List.Nodup
import TemplateCodegen.Output.Collection
import TemplateCodegen.Proofs.ClassIdentifier.FileKey
import TemplateCodegen.Proofs.Template.Distinct

/-!
# Fragments that share an artifact

Fragments are put one by one into the first artifact of their key, or into a new one behind the
others. A key comes from the full name of the target class with its generic arguments as they are
written, while classes are told apart by the number of those arguments. Main statement: two
fragments share an artifact exactly when the escaped full names of their classes agree, which for
two spellings of one class is a matter of their generic arguments (`collectOutputs_shares`).
-/

namespace TemplateCodegen

/-! ### Groups -/

section Groups

variable {separator : String} {fragments : List InlineFragment}

/-- A text is joined behind others by one more separator. -/
theorem intercalate_concat {texts : List String} (h : texts ≠ []) (text : String) :
    separator.intercalate (texts ++ [text]) =
      separator.intercalate texts ++ separator ++ text := by
  induction texts with
  | nil => exact absurd rfl h
  | cons first rest ih =>
    cases rest with
    | nil => exact String.intercalate_cons_cons
    | cons second more =>
      rw [List.cons_append, List.cons_append, String.intercalate_cons_cons,
        String.intercalate_cons_cons, ← List.cons_append, ih (List.cons_ne_nil _ _)]
      simp only [String.append_assoc]

/-- The texts of the fragments that have a key, in order. -/
def textsOf (fragments : List InlineFragment) (key : String) : List String :=
  (fragments.filter fun fragment => fragment.key == key).map InlineFragment.text

/-- The artifact of the fragments that have a key. -/
def gathered (separator : String) (fragments : List InlineFragment) (key : String) : Artifact :=
  ⟨key, separator.intercalate (textsOf fragments key)⟩

/-- A further fragment adds its text to those of its own key. -/
theorem textsOf_concat (fragments : List InlineFragment) (fragment : InlineFragment)
    (key : String) :
    textsOf (fragments ++ [fragment]) key =
      textsOf fragments key ++ if fragment.key = key then [fragment.text] else [] := by
  rw [textsOf, List.filter_append, List.map_append]
  by_cases h : fragment.key = key <;> simp [textsOf, h]

/-- There are texts of a key exactly when a fragment has it. -/
theorem textsOf_eq_nil_iff {key : String} :
    textsOf fragments key = [] ↔ key ∉ fragments.map InlineFragment.key := by
  simp [textsOf]

/-- A fragment leaves the artifacts of other keys alone. -/
theorem gathered_concat_of_ne {fragment : InlineFragment} {key : String} (h : fragment.key ≠ key) :
    gathered separator (fragments ++ [fragment]) key = gathered separator fragments key := by
  rw [gathered, textsOf_concat, if_neg h, List.append_nil]
  rfl

/-- The first fragment of a key is its artifact. -/
theorem gathered_concat_of_notMem {fragment : InlineFragment}
    (h : fragment.key ∉ fragments.map InlineFragment.key) :
    gathered separator (fragments ++ [fragment]) fragment.key = ⟨fragment.key, fragment.text⟩ := by
  rw [gathered, textsOf_concat, if_pos rfl, textsOf_eq_nil_iff.2 h, List.nil_append,
    String.intercalate_singleton]

/-- A further fragment of a key stands behind the others of it. -/
theorem gathered_concat_of_mem {fragment : InlineFragment}
    (h : fragment.key ∈ fragments.map InlineFragment.key) :
    gathered separator (fragments ++ [fragment]) fragment.key =
      ⟨fragment.key, (gathered separator fragments fragment.key).content ++ separator ++
        fragment.text⟩ := by
  have hsome : textsOf fragments fragment.key ≠ [] := fun hnil => textsOf_eq_nil_iff.1 hnil h
  rw [gathered, textsOf_concat, if_pos rfl, intercalate_concat hsome]
  rfl

/-- The number of the artifact that a fragment is put into: that of the first one of its key, or of
a new one behind the others. -/
def InlineFragment.placeIn (fragment : InlineFragment) (artifacts : List Artifact) : Nat :=
  (artifacts.map Artifact.key).idxOf fragment.key

/-- The artifact with that number has the text of the fragment behind what it had, if it was there;
the other ones stay. -/
theorem addFragment_getElem? (separator : String) (fragment : InlineFragment)
    (artifacts : List Artifact) (number : Nat) :
    (addFragment separator fragment artifacts)[number]? =
      if number = fragment.placeIn artifacts then
        some ⟨fragment.key, (artifacts[number]?.map fun artifact =>
          artifact.content ++ separator ++ fragment.text).getD fragment.text⟩
      else artifacts[number]? := by
  unfold InlineFragment.placeIn
  induction artifacts generalizing number with
  | nil => cases number <;> rfl
  | cons artifact rest ih =>
    rw [addFragment, List.map_cons, List.idxOf_cons]
    by_cases hkey : artifact.key = fragment.key
    · rw [if_pos hkey]
      cases number with
      | zero => simp [hkey]
      | succ number => simp [hkey]
    · rw [if_neg hkey, beq_eq_false_iff_ne.2 hkey, cond_false]
      cases number with
      | zero => simp
      | succ number => simp [ih]

/-- Artifacts of some keys have a fragment put in where its key is found among these, or behind
them. -/
theorem placeIn_map_gathered (fragment : InlineFragment) (keys : List String) :
    fragment.placeIn (keys.map (gathered separator fragments)) = keys.idxOf fragment.key := by
  rw [InlineFragment.placeIn, List.map_map]
  exact congrArg (List.idxOf fragment.key) (List.map_id keys)

/-- One more fragment is put into the artifact of its key, or makes a new one. -/
theorem addFragment_gathered (fragment : InlineFragment) {keys : List String} (hkeys : keys.Nodup)
    (hfound : fragment.key ∈ keys → fragment.key ∈ fragments.map InlineFragment.key) :
    addFragment separator fragment (keys.map (gathered separator fragments)) =
      keys.map (gathered separator (fragments ++ [fragment])) ++
        if fragment.key ∈ keys then [] else [⟨fragment.key, fragment.text⟩] := by
  refine List.ext_getElem? fun number => ?_
  rw [addFragment_getElem?, placeIn_map_gathered, List.getElem?_append, List.length_map,
    List.getElem?_map, List.getElem?_map]
  by_cases hnumber : number = keys.idxOf fragment.key
  · rw [if_pos hnumber]
    by_cases hmem : fragment.key ∈ keys
    · have hlt : number < keys.length := hnumber ▸ List.idxOf_lt_length_of_mem hmem
      have hkey : keys[number]? = some fragment.key := hnumber ▸ List.getElem?_idxOf hmem
      rw [if_pos hlt, hkey, Option.map_some, Option.map_some, Option.map_some,
        gathered_concat_of_mem (hfound hmem)]
      rfl
    · have hend : number = keys.length := hnumber.trans (List.idxOf_eq_length hmem)
      rw [if_neg hmem, if_neg (Nat.not_lt.2 (Nat.le_of_eq hend.symm)), hend, List.getElem?_eq_none (Nat.le_refl _),
        Nat.sub_self]
      rfl
  · rw [if_neg hnumber]
    cases hkey : keys[number]? with
    | none =>
      have hbehind := List.getElem?_eq_none_iff.1 hkey
      rw [if_neg (Nat.not_lt.2 hbehind)]
      by_cases hmem : fragment.key ∈ keys
      · rw [if_pos hmem]
        rfl
      · have hfirst : 1 ≤ number - keys.length := by
          rw [List.idxOf_eq_length hmem] at hnumber
          omega
        rw [if_neg hmem, List.getElem?_eq_none hfirst]
        rfl
    | some key =>
      obtain ⟨hlt, hget⟩ := List.getElem?_eq_some_iff.1 hkey
      have hne : fragment.key ≠ key := by
        intro heq
        rw [heq, ← hget] at hnumber
        exact hnumber (hkeys.idxOf_getElem number hlt).symm
      rw [if_pos hlt, Option.map_some, Option.map_some, gathered_concat_of_ne hne]

/-- Fragments are grouped by their keys, in the order in which the keys occur first. -/
theorem groupFragments_eq (separator : String) (fragments : List InlineFragment) :
    groupFragments separator fragments =
      (Template.distinct (fragments.map InlineFragment.key)).map
        (gathered separator fragments) := by
  induction fragments using List.reverseRecOn with
  | nil => rfl
  | append_singleton fragments fragment ih =>
    rw [groupFragments, List.foldl_concat, ← groupFragments, ih,
      addFragment_gathered fragment (Template.nodup_distinct _) Template.mem_distinct.1,
      List.map_append, Template.distinct_append, List.map_append]
    refine congrArg (_ ++ ·) ?_
    by_cases h : fragment.key ∈ fragments.map InlineFragment.key
    · rw [if_pos (Template.mem_distinct.2 h)]
      simp [Template.distinct, List.mem_map.1 h]
    · rw [if_neg fun hmem => h (Template.mem_distinct.1 hmem), List.map_singleton,
        Template.distinct, Template.distinct, List.filter_nil,
        List.filter_cons_of_pos (by simpa using h), List.filter_nil, List.map_singleton,
        gathered_concat_of_notMem h]

/-- Without collisions all artifacts are handed out, and their keys are different. -/
theorem collectOutputs_cases (rendered : List RenderedUsage) (config : Config) :
    (((allArtifacts rendered config.fragmentSeparator).map Artifact.key).Nodup ∧
      collectOutputs rendered config = ⟨allArtifacts rendered config.fragmentSeparator, []⟩) ∨
    ((collectOutputs rendered config).artifacts = [] ∧
      (collectOutputs rendered config).diagnostics ≠ []) := by
  unfold collectOutputs
  dsimp only
  generalize allArtifacts rendered config.fragmentSeparator = artifacts
  split
  · rename_i hnone
    refine .inl ⟨List.nodup_iff_count_le_one.2 fun key => ?_, rfl⟩
    by_contra hmany
    have hmem : key ∈ Template.distinct (artifacts.map Artifact.key) :=
      Template.mem_distinct.2 (List.count_pos_iff.1 (by omega))
    have hfound := List.filterMap_eq_nil_iff.1 hnone key hmem
    rw [if_pos (by omega)] at hfound
    cases hfound
  · rename_i hsome
    exact .inr ⟨rfl, fun hnil => hsome (List.map_eq_nil_iff.1 hnil)⟩

end Groups

/-! ### Usages -/

/-- The number of the artifact that the inline fragment of the usage at a position is put into. -/
def artifactNumber? (usages : List BoundUsage) (config : Config) (position : Nat) : Option Nat := do
  let usage ← usages[position]?
  let fragment ← usage.inlineFragment? config
  return fragment.placeIn (groupFragments config.fragmentSeparator
    ((usages.take position).filterMap fun earlier => earlier.inlineFragment? config))

/-- The inline fragments of the usages at two positions are put into one artifact. -/
def ShareArtifact (usages : List BoundUsage) (config : Config) (i j : Nat) : Prop :=
  ∃ number, artifactNumber? usages config i = some number ∧
    artifactNumber? usages config j = some number

/-- The usage at a position has inline templates and is on a class or on a member of it. -/
def TargetsClass (usages : List BoundUsage) (position : Nat) (owner : ClassIdentifier) : Prop :=
  ∃ usage, usages[position]? = some usage ∧ usage.definition.templates.inline ≠ [] ∧
    usage.target.owner? = some owner

section Usages

variable {usages : List BoundUsage} {config : Config} {position : Nat} {owner : ClassIdentifier}

/-- The inline fragments of usages, in order. -/
def inlineFragments (usages : List BoundUsage) (config : Config) : List InlineFragment :=
  usages.filterMap fun usage => usage.inlineFragment? config

/-- Rendering all usages gives their inline fragments. -/
theorem filterMap_inline (usages : List BoundUsage) (config : Config) :
    (usages.map fun usage => usage.render config).filterMap RenderedUsage.inline =
      inlineFragments usages config :=
  List.filterMap_map

/-- A usage on a class with inline templates has a fragment, under the key of the class. -/
theorem BoundUsage.exists_inlineFragment_iff {usage : BoundUsage} {key : String} :
    (∃ fragment, usage.inlineFragment? config = some fragment ∧ fragment.key = key) ↔
      ∃ owner, usage.target.owner? = some owner ∧ usage.definition.templates.inline ≠ [] ∧
        key = owner.escapedFileKey := by
  unfold inlineFragment?
  cases htemplates : usage.definition.templates.inline with
  | nil => simp
  | cons first rest =>
    cases howner : usage.target.owner? with
    | none => simp
    | some owner =>
      refine ⟨?_, ?_⟩
      · rintro ⟨_, hfragment, rfl⟩
        obtain rfl := Option.some.inj hfragment
        exact ⟨owner, rfl, List.cons_ne_nil _ _, rfl⟩
      · rintro ⟨_, hsame, _, rfl⟩
        obtain rfl := Option.some.inj hsame
        exact ⟨_, rfl, rfl⟩

/-- The fragment of a usage on a class has the key of the class. -/
theorem TargetsClass.exists_fragment (h : TargetsClass usages position owner) (config : Config) :
    ∃ usage fragment, usages[position]? = some usage ∧
      usage.inlineFragment? config = some fragment ∧ fragment.key = owner.escapedFileKey := by
  obtain ⟨usage, husage, hinline, howner⟩ := h
  obtain ⟨fragment, hfragment, hkey⟩ :=
    BoundUsage.exists_inlineFragment_iff.2 ⟨owner, howner, hinline, rfl⟩
  exact ⟨usage, fragment, husage, hfragment, hkey⟩

/-- A fragment is put into the artifact whose key comes as early as its own. -/
theorem artifactNumber?_eq {usage : BoundUsage} {fragment : InlineFragment}
    (husage : usages[position]? = some usage)
    (hfragment : usage.inlineFragment? config = some fragment) :
    artifactNumber? usages config position = some
      ((Template.distinct ((inlineFragments usages config).map InlineFragment.key)).idxOf
        fragment.key) := by
  obtain ⟨hposition, hget⟩ := List.getElem?_eq_some_iff.1 husage
  have hsplit : usages = usages.take position ++ usage :: usages.drop (position + 1) := by
    rw [← hget, ← List.drop_eq_getElem_cons hposition, List.take_append_drop]
  have hkeys : ((inlineFragments usages config).map InlineFragment.key) =
      (inlineFragments (usages.take position) config).map InlineFragment.key ++ fragment.key ::
        (inlineFragments (usages.drop (position + 1)) config).map InlineFragment.key := by
    conv_lhs => rw [hsplit]
    rw [inlineFragments, List.filterMap_append, List.map_append, List.filterMap_cons, hfragment]
    rfl
  rw [hkeys, Template.idxOf_distinct_append, artifactNumber?, husage]
  simp only [Option.bind_eq_bind, Option.bind_some, hfragment, InlineFragment.placeIn,
    groupFragments_eq, List.map_map]
  refine congrArg some (congrArg (List.idxOf fragment.key) ?_)
  exact List.map_id _

/-- The key of a fragment is one of the keys. -/
theorem key_mem_distinct {usage : BoundUsage} {fragment : InlineFragment}
    (husage : usages[position]? = some usage)
    (hfragment : usage.inlineFragment? config = some fragment) :
    fragment.key ∈ Template.distinct ((inlineFragments usages config).map InlineFragment.key) := by
  have hmem : fragment ∈ inlineFragments usages config :=
    List.mem_filterMap.2 ⟨usage, List.mem_of_getElem? husage, hfragment⟩
  exact Template.mem_distinct.2 (List.mem_map_of_mem hmem)

/-- Two fragments share an artifact exactly when they have one key. -/
theorem TargetsClass.shareArtifact_iff {i j : Nat} {one other : ClassIdentifier}
    (hone : TargetsClass usages i one) (hother : TargetsClass usages j other) (config : Config) :
    ShareArtifact usages config i j ↔ one.escapedFileKey = other.escapedFileKey := by
  obtain ⟨usage, fragment, husage, hfragment, hkey⟩ := hone.exists_fragment config
  obtain ⟨usage', fragment', husage', hfragment', hkey'⟩ := hother.exists_fragment config
  have hmem := key_mem_distinct husage hfragment
  rw [ShareArtifact, artifactNumber?_eq husage hfragment, artifactNumber?_eq husage' hfragment',
    ← hkey, ← hkey', ← List.idxOf_inj hmem]
  simp only [Option.some.injEq, exists_eq_left']
  exact eq_comm

/-- The fragments that are put into an artifact are its content. -/
theorem TargetsClass.exists_artifact (h : TargetsClass usages position owner) (config : Config) :
    ∃ number, artifactNumber? usages config position = some number ∧
      (groupFragments config.fragmentSeparator (inlineFragments usages config))[number]? =
        some (gathered config.fragmentSeparator (inlineFragments usages config)
          owner.escapedFileKey) := by
  obtain ⟨usage, fragment, husage, hfragment, hkey⟩ := h.exists_fragment config
  have hmem := key_mem_distinct husage hfragment
  refine ⟨_, artifactNumber?_eq husage hfragment, ?_⟩
  rw [groupFragments_eq, List.getElem?_map, List.getElem?_idxOf hmem, hkey]
  rfl

end Usages

/-- Where no keys collide, the inline fragments on a class are handed out in the artifact of its
key, which holds the texts of all fragments of that key. Two of them share an artifact exactly when
the keys agree: for two spellings of a class, exactly when their generic arguments have one key; and
plain identifiers that share an artifact are of one class. -/
theorem collectOutputs_shares {usages : List BoundUsage} {config : Config}
    (h : (collectOutputs (usages.map fun usage => usage.render config) config).diagnostics = []) :
    (∀ position owner, TargetsClass usages position owner →
      ∃ number artifact, artifactNumber? usages config position = some number ∧
        (collectOutputs (usages.map fun usage => usage.render config) config).artifacts[number]? =
          some artifact ∧
        artifact.key = owner.escapedFileKey ∧
        artifact.content = config.fragmentSeparator.intercalate
          (textsOf (inlineFragments usages config) owner.escapedFileKey)) ∧
    ∀ i j one other, TargetsClass usages i one → TargetsClass usages j other →
      (ShareArtifact usages config i j ↔ one.escapedFileKey = other.escapedFileKey) ∧
      (one.isSameClass other = true → (ShareArtifact usages config i j ↔
        Text.escapeFileKey one.genericSuffix = Text.escapeFileKey other.genericSuffix)) ∧
      (one.IsPlain → other.IsPlain → ShareArtifact usages config i j →
        one.isSameClass other = true) := by
  constructor
  · intro position owner howner
    obtain ⟨number, hnumber, hartifact⟩ := howner.exists_artifact config
    have hhanded : (collectOutputs (usages.map fun usage => usage.render config)
        config).artifacts[number]? = some (gathered config.fragmentSeparator
          (inlineFragments usages config) owner.escapedFileKey) := by
      rcases collectOutputs_cases (usages.map fun usage => usage.render config) config with
        ⟨_, hall⟩ | ⟨_, hsome⟩
      · rw [hall, allArtifacts, filterMap_inline, List.append_assoc,
          List.getElem?_append_left (List.getElem?_eq_some_iff.1 hartifact).1]
        exact hartifact
      · exact absurd h hsome
    exact ⟨number, _, hnumber, hhanded, rfl, rfl⟩
  · intro i j one other hone hother
    have hshare := hone.shareArtifact_iff hother config
    refine ⟨hshare, fun hsame => ?_, fun hplain hplain' hboth => ?_⟩
    · rw [hshare, ClassIdentifier.escapedFileKey_eq_iff hsame]
    · exact hplain.isSameClass hplain' (hshare.1 hboth)

/-- A generator that writes down the name of its class. -/
def naming : Definition where
  identifier := ⟨"Gen", "NameGenerator"⟩
  attributeClass := ⟨"Stencil", "NameAttribute"⟩
  kind := .onClass
  allowMultiple := false
  required := []
  optional := []
  generic := []
  templates := { inline := [⟨"Body", .identifier "ClassName" ⟨0, 15⟩ .empty⟩] }
  location := none

/-- A usage of it. -/
def named (owner : ClassIdentifier) : BoundUsage where
  definition := naming
  target := .onClass owner
  context := Context.empty.insertText "ClassName" owner.className
  location := none

/-- The usage at a position is on its class. -/
theorem targetsClass_named {owners : List ClassIdentifier} {position : Nat}
    {owner : ClassIdentifier} (h : owners[position]? = some owner) :
    TargetsClass (owners.map named) position owner := by
  refine ⟨named owner, ?_, List.cons_ne_nil _ _, rfl⟩
  rw [List.getElem?_map, h]
  rfl

/-- The fragments on one class, between which another class has one, are joined in one artifact. -/
theorem carts_share :
    let usages := [⟨"Shop", "Cart"⟩, ⟨"Shop", "Order"⟩, ⟨"Shop", "Cart"⟩].map named
    (collectOutputs (usages.map fun usage => usage.render {}) {}).diagnostics = [] ∧
      (collectOutputs (usages.map fun usage => usage.render {}) {}).artifacts =
        [⟨"Shop.Cart", "Cart\nCart"⟩, ⟨"Shop.Order", "Order"⟩] ∧
      ShareArtifact usages {} 0 2 ∧ ¬ ShareArtifact usages {} 0 1 := by
  intro usages
  have hcollected : (collectOutputs (usages.map fun usage => usage.render {}) {}).diagnostics =
      [] := by decide +kernel
  have hshares := (collectOutputs_shares hcollected).2
  have hcart : TargetsClass usages 0 ⟨"Shop", "Cart"⟩ := targetsClass_named rfl
  have hbehind : TargetsClass usages 2 ⟨"Shop", "Cart"⟩ := targetsClass_named rfl
  have horder : TargetsClass usages 1 ⟨"Shop", "Order"⟩ := targetsClass_named rfl
  refine ⟨hcollected, by decide +kernel, (hshares _ _ _ _ hcart hbehind).1.2 rfl, fun hboth => ?_⟩
  exact absurd ((hshares _ _ _ _ hcart horder).1.1 hboth) (by decide +kernel)

/-- Two spellings of a class may have an artifact each, and two classes may share one. -/
theorem spellings_not_share :
    (∃ one other : ClassIdentifier, one.isSameClass other = true ∧
      let usages := [one, other].map named
      TargetsClass usages 0 one ∧ TargetsClass usages 1 other ∧
      (collectOutputs (usages.map fun usage => usage.render {}) {}).diagnostics = [] ∧
      (collectOutputs (usages.map fun usage => usage.render {}) {}).artifacts =
        [⟨"Shop.Order[int]", "Order<int>"⟩, ⟨"Shop.Order[string]", "Order<string>"⟩] ∧
      ¬ ShareArtifact usages {} 0 1) ∧
    ∃ one other : ClassIdentifier, one.isSameClass other = false ∧
      let usages := [one, other].map named
      TargetsClass usages 0 one ∧ TargetsClass usages 1 other ∧
      (collectOutputs (usages.map fun usage => usage.render {}) {}).diagnostics = [] ∧
      (collectOutputs (usages.map fun usage => usage.render {}) {}).artifacts =
        [⟨"Order[T]", "Order<T>\nOrder[T]"⟩] ∧
      ShareArtifact usages {} 0 1 := by
  refine ⟨⟨⟨"Shop", "Order<int>"⟩, ⟨"Shop", "Order<string>"⟩, by decide +kernel, ?_⟩,
    ⟨"", "Order<T>"⟩, ⟨"", "Order[T]"⟩, by decide +kernel, ?_⟩
  · have hone : TargetsClass ([⟨"Shop", "Order<int>"⟩, ⟨"Shop", "Order<string>"⟩].map named) 0
        ⟨"Shop", "Order<int>"⟩ := targetsClass_named rfl
    have hother : TargetsClass ([⟨"Shop", "Order<int>"⟩, ⟨"Shop", "Order<string>"⟩].map named) 1
        ⟨"Shop", "Order<string>"⟩ := targetsClass_named rfl
    refine ⟨hone, hother, by decide +kernel, by decide +kernel, fun hboth => ?_⟩
    exact absurd ((hone.shareArtifact_iff hother {}).1 hboth) (by decide +kernel)
  · have hone : TargetsClass ([⟨"", "Order<T>"⟩, ⟨"", "Order[T]"⟩].map named) 0
        ⟨"", "Order<T>"⟩ := targetsClass_named rfl
    have hother : TargetsClass ([⟨"", "Order<T>"⟩, ⟨"", "Order[T]"⟩].map named) 1
        ⟨"", "Order[T]"⟩ := targetsClass_named rfl
    refine ⟨hone, hother, by decide +kernel, by decide +kernel, ?_⟩
    exact (hone.shareArtifact_iff hother {}).2 (by decide +kernel)

end TemplateCodegen
