import TemplateCodegen.Proofs.Output.Grouping

/-!
# Keys that collide

Inline fragments of one key are put together and ask for their key once; every file and every global
file asks for a key of its own. Main statement: where no key is asked for twice there is one
artifact for each key, in order, and nothing is reported; otherwise there is no artifact, and every
key that is asked for several times is reported once, with the number of times
(`collectOutputs_allOrNothing`).
-/

namespace TemplateCodegen

/-! ### Keys -/

/-- The keys for which outputs ask: one for all fragments of a class, in the order of the first
ones, then one for each file, and then one for each global file. -/
def outputKeys (rendered : List RenderedUsage) : List String :=
  ((rendered.filterMap RenderedUsage.inline).map InlineFragment.key).eraseDups ++
    (rendered.flatMap RenderedUsage.files).map Artifact.key ++
    (rendered.flatMap RenderedUsage.globals).map GlobalRequest.key

/-- The artifacts have the keys that are asked for. -/
theorem keys_allArtifacts (rendered : List RenderedUsage) (separator : String) :
    (allArtifacts rendered separator).map Artifact.key = outputKeys rendered := by
  have hinline : (groupFragments separator (rendered.filterMap RenderedUsage.inline)).map
      Artifact.key =
        ((rendered.filterMap RenderedUsage.inline).map InlineFragment.key).eraseDups := by
    rw [groupFragments_eq, List.map_map, ← Template.distinct_eq_eraseDups]
    exact List.map_id _
  have hglobals : ((rendered.flatMap RenderedUsage.globals).map fun request =>
      request.artifact rendered).map Artifact.key =
        (rendered.flatMap RenderedUsage.globals).map GlobalRequest.key := by
    rw [List.map_map]
    rfl
  rw [allArtifacts, List.map_append, List.map_append, hinline, hglobals, outputKeys]

/-- The error about a key that so many artifacts have. -/
def collisionError (count : Nat) (key : String) : Diagnostic where
  code := .duplicateArtifactKey
  severity := .error
  message := toString count ++ " artifacts would be written to '" ++ key ++ "'"
  location := none
  snippet := none

/-- The diagnostics are the errors about the keys that occur several times, one for each of these
keys, in the order in which the keys occur first. -/
def ReportsCollisions (keys : List String) (diagnostics : List Diagnostic) : Prop :=
  ∃ collided : List String,
    (∀ key, key ∈ collided ↔ 2 ≤ keys.count key) ∧
    (collided.Pairwise fun one other => keys.idxOf one < keys.idxOf other) ∧
    diagnostics = collided.map fun key => collisionError (keys.count key) key

/-- The findings about collisions are those about the keys that occur several times. -/
theorem keyCollisions_eq (keys : List String) :
    keyCollisions keys = ((Template.distinct keys).filter fun key => 1 < keys.count key).map
      fun key => .duplicateArtifactKey (keys.count key) key := by
  rw [keyCollisions]
  generalize Template.distinct keys = names
  induction names with
  | nil => rfl
  | cons name rest ih =>
    by_cases hmany : 1 < keys.count name
    · rw [List.filterMap_cons, if_pos hmany, List.filter_cons_of_pos (by simpa using hmany),
        List.map_cons, ih]
    · rw [List.filterMap_cons, if_neg hmany, List.filter_cons_of_neg (by simpa using hmany), ih]

/-- Keys collide unless they are all different. -/
theorem keyCollisions_eq_nil_iff (keys : List String) : keyCollisions keys = [] ↔ keys.Nodup := by
  rw [keyCollisions_eq, List.map_eq_nil_iff, List.filter_eq_nil_iff, List.nodup_iff_count_le_one]
  constructor
  · intro hnone key
    by_contra hmany
    have hmem : key ∈ keys := List.count_pos_iff.1 (by omega)
    exact hnone key (Template.mem_distinct.2 hmem) (by simpa using hmany)
  · intro hfew key _ hmany
    have hle := hfew key
    have hlt : 1 < keys.count key := by simpa using hmany
    omega

/-- The findings about collisions report them. -/
theorem reportsCollisions_keyCollisions (keys : List String) :
    ReportsCollisions keys ((keyCollisions keys).map fun finding => finding.located none) := by
  refine ⟨(Template.distinct keys).filter fun key => 1 < keys.count key, fun key => ?_,
    (Template.pairwise_idxOf_distinct keys).filter _, ?_⟩
  · rw [List.mem_filter, Template.mem_distinct, decide_eq_true_iff]
    constructor
    · exact fun h => h.2
    · intro hmany
      have hpos : 0 < keys.count key := by omega
      exact ⟨List.count_pos_iff.1 hpos, hmany⟩
  · rw [keyCollisions_eq, List.map_map]
    rfl

/-! ### Collection -/

/-- Either all keys that outputs ask for are different: then nothing is reported, and there is one
artifact for each of them, in their order. Or some occur several times: then there is no artifact,
and each of these is reported once, with the number of its occurrences. -/
theorem collectOutputs_allOrNothing (rendered : List RenderedUsage) (config : Config) :
    ((outputKeys rendered).Nodup ∧ (collectOutputs rendered config).diagnostics = [] ∧
      (collectOutputs rendered config).artifacts.map Artifact.key = outputKeys rendered) ∨
    (¬ (outputKeys rendered).Nodup ∧ (collectOutputs rendered config).artifacts = [] ∧
      ReportsCollisions (outputKeys rendered) (collectOutputs rendered config).diagnostics) := by
  have hkeys := keys_allArtifacts rendered config.fragmentSeparator
  have hnodup := keyCollisions_eq_nil_iff (outputKeys rendered)
  have hreports := reportsCollisions_keyCollisions (outputKeys rendered)
  unfold collectOutputs
  dsimp only
  rw [hkeys]
  cases hcollisions : keyCollisions (outputKeys rendered) with
  | nil => exact .inl ⟨hnodup.1 hcollisions, rfl, hkeys⟩
  | cons finding findings =>
    rw [hcollisions] at hreports
    have hsome : ¬ (outputKeys rendered).Nodup := by
      rw [← hnodup, hcollisions]
      exact List.cons_ne_nil _ _
    exact .inr ⟨hsome, rfl, hreports⟩

/-- Two fragments of a class share their key with a file, and a global file asks for a key that a
file has. -/
example :
    collectOutputs
      [{ inline := some ⟨"Order", "a"⟩, files := [⟨"Log", "1"⟩] },
        { inline := some ⟨"Order", "b"⟩, files := [⟨"Order", "2"⟩],
          globals := [⟨"Log", "Registry", .empty, .empty, ""⟩] }] {} =
      ⟨[], [collisionError 2 "Order", collisionError 2 "Log"]⟩ := by
  decide +kernel

end TemplateCodegen
