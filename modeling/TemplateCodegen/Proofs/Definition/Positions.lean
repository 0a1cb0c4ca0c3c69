import TemplateCodegen.Proofs.Definition.Tolerance

/-!
# Positions that cannot be used

A required property that asks for a position which is no 32-bit integer ends the binding of its
declaration with the findings made so far. The unsuitable types among the properties in front of it
have been found by then; that two of these ask for one position is looked at behind the last
property only, and is not found any more. Main statement: what is reported of the properties in
front is what their own binding reports exactly when no position is asked for twice among them
(`bindDefinition_unusable`).
-/

namespace TemplateCodegen

open Incremental RequiredParameters

/-! ### Properties -/

namespace Property

/-- The finding about a property of a type that parameters may not have. -/
def typeFinding? (property : Property) : Option Diagnostic :=
  if property.isAllowed then none
  else some ((Finding.disallowedParameterType property.name property.typeText).located
    property.location)

/-- It is of that code. -/
theorem code_of_typeFinding? {property : Property} {diagnostic : Diagnostic}
    (h : property.typeFinding? = some diagnostic) : diagnostic.code = .disallowedParameterType := by
  unfold typeFinding? at h
  split at h
  · cases h
  · obtain rfl := Option.some.inj h
    rfl

/-- The position that a property asks for, when it becomes a required parameter. -/
def position? (property : Property) : Option Int32 :=
  if property.isAllowed then
    property.required.bind fun marker =>
      match requestedOrder? marker.order with
      | .ok order => order
      | .error _ => none
  else none

/-- The diagnostics about unsuitable types are about those. -/
theorem code_of_mem_typeFindings {properties : List Property} {diagnostic : Diagnostic}
    (h : diagnostic ∈ properties.filterMap typeFinding?) :
    diagnostic.code = .disallowedParameterType := by
  obtain ⟨property, -, hfinding⟩ := List.mem_filterMap.1 h
  exact code_of_typeFinding? hfinding

/-- The property would be a required parameter, but what it asks for is no position. -/
structure AsksUnusably (property : Property) (literal : LiteralArgument) : Prop where
  /-- Parameters may have its type. -/
  allowed : property.isAllowed = true
  /-- Its marker asks for the literal, which is no 32-bit integer. -/
  refused : ∃ marker, property.required = some marker ∧
    requestedOrder? marker.order = .error literal

/-- The finding about a property that asks for such a literal. -/
def positionFinding (property : Property) (literal : LiteralArgument) : Diagnostic :=
  (Finding.invalidRequiredOrder property.name literal.shown).located property.location

end Property

namespace ParameterStage

/-- A property that asks for nothing unusable is taken in with what there is to say about its type
and with its position. -/
theorem exists_addProperty (stage : ParameterStage) {property : Property}
    (h : ∀ literal, ¬ property.AsksUnusably literal) :
    ∃ next, addProperty stage property = .ok next ∧
      next.diagnostics = stage.diagnostics ++ property.typeFinding?.toList ∧
      positions next.required.declared =
        positions stage.required.declared ++ property.position?.toList := by
  unfold addProperty Property.typeFinding? Property.position?
  cases htype : ParameterType.ofTypeText? property.typeText property.typeKind with
  | none =>
    have hdropped : ¬ property.isAllowed = true := by
      unfold Property.isAllowed
      rw [htype]
      exact Bool.false_ne_true
    rw [if_neg hdropped, if_neg hdropped]
    exact ⟨_, rfl, rfl, (List.append_nil _).symm⟩
  | some type =>
    have hallowed : property.isAllowed = true := by
      unfold Property.isAllowed
      rw [htype]
      rfl
    rw [if_pos hallowed, if_pos hallowed]
    dsimp only
    cases hrequired : property.required with
    | none => exact ⟨_, rfl, (List.append_nil _).symm, (List.append_nil _).symm⟩
    | some marker =>
      dsimp only [Option.bind_some]
      cases horder : requestedOrder? marker.order with
      | error literal => exact absurd ⟨hallowed, marker, hrequired, horder⟩ (h literal)
      | ok order =>
        refine ⟨_, rfl, (List.append_nil _).symm, ?_⟩
        unfold positions RequiredParameters.add
        rw [List.filterMap_append]
        cases order <;> rfl

/-- The walk over such properties goes through, with what there is to say about their types and with
their positions. -/
theorem exists_foldlM {properties : List Property}
    (h : ∀ property ∈ properties, ∀ literal, ¬ property.AsksUnusably literal)
    (stage : ParameterStage) :
    ∃ last, properties.foldlM addProperty stage = .ok last ∧
      last.diagnostics = stage.diagnostics ++ properties.filterMap Property.typeFinding? ∧
      positions last.required.declared =
        positions stage.required.declared ++ properties.filterMap Property.position? := by
  induction properties generalizing stage with
  | nil => exact ⟨stage, rfl, (List.append_nil _).symm, (List.append_nil _).symm⟩
  | cons property rest ih =>
    obtain ⟨hproperty, hrest⟩ := List.forall_mem_cons.1 h
    obtain ⟨next, hnext, htypes, hpositions⟩ := exists_addProperty stage hproperty
    obtain ⟨last, hlast, htypes', hpositions'⟩ := ih hrest next
    rw [List.foldlM_cons, hnext]
    refine ⟨last, hlast, ?_, ?_⟩
    · rw [htypes', htypes, List.append_assoc, List.filterMap_cons]
      cases property.typeFinding? <;> rfl
    · rw [hpositions', hpositions, List.append_assoc, List.filterMap_cons]
      cases property.position? <;> rfl

/-- A property that asks for something unusable ends the walk. -/
theorem addProperty_of_asksUnusably (stage : ParameterStage) {property : Property}
    {literal : LiteralArgument} (h : property.AsksUnusably literal) :
    addProperty stage property =
      .error (stage.diagnostics ++ [property.positionFinding literal]) := by
  obtain ⟨type, htype⟩ := Option.isSome_iff_exists.1 h.allowed
  obtain ⟨marker, hrequired, horder⟩ := h.refused
  unfold addProperty
  rw [htype, hrequired]
  dsimp only
  rw [horder]
  rfl

end ParameterStage

/-! ### Codes of properties -/

/-- Whether a mistake of this code is one of properties that does not end the binding. -/
def DiagnosticCode.isOfProperty : DiagnosticCode → Bool
  | .disallowedParameterType | .duplicateRequiredOrder => true
  | _ => false

/-- The diagnostics about properties that are dropped or put in order. -/
def ofProperties (diagnostics : List Diagnostic) : List Diagnostic :=
  diagnostics.filter fun diagnostic => diagnostic.code.isOfProperty

section OfProperties

variable {diagnostics : List Diagnostic}

/-- Diagnostics put together keep what each of the parts keeps. -/
theorem ofProperties_append (one other : List Diagnostic) :
    ofProperties (one ++ other) = ofProperties one ++ ofProperties other :=
  List.filter_append ..

/-- Where all diagnostics are about properties they all stay. -/
theorem ofProperties_eq_self (h : ∀ one ∈ diagnostics, one.code.isOfProperty = true) :
    ofProperties diagnostics = diagnostics :=
  List.filter_eq_self.2 h

/-- Where no diagnostic is about a property nothing stays. -/
theorem ofProperties_eq_nil (h : ∀ one ∈ diagnostics, one.code.isOfProperty = false) :
    ofProperties diagnostics = [] :=
  List.filter_eq_nil_iff.2 fun one hone => by rw [h one hone]; exact Bool.false_ne_true

/-- The diagnostics about unsuitable types are among those about properties. -/
theorem filter_ofProperties (diagnostics : List Diagnostic) :
    (ofProperties diagnostics).filter
        (fun diagnostic => diagnostic.code == .disallowedParameterType) =
      diagnostics.filter fun diagnostic => diagnostic.code == .disallowedParameterType := by
  unfold ofProperties
  rw [List.filter_filter]
  refine List.filter_congr fun diagnostic _ => ?_
  cases diagnostic.code <;> rfl

end OfProperties

/-- Reading a template says nothing about properties. -/
theorem ofProperties_readTemplate (member : Member) (name text : String) :
    ofProperties (readTemplate member name text).diagnostics = [] := by
  refine ofProperties_eq_nil fun diagnostic hmem => ?_
  obtain ⟨cause, hcode⟩ := exists_cause_of_mem_readTemplate hmem
  rw [hcode]
  cases cause <;> rfl

namespace TemplateStage

/-- Taking in a member says nothing about properties. -/
theorem ofProperties_ofMember (member : Member) :
    ofProperties (ofMember member).diagnostics = [] := by
  have hsilent := ofProperties_readTemplate member
  unfold ofMember
  split
  · exact hsilent ..
  · rw [ofFile, ofProperties_append, hsilent, hsilent, List.append_nil]
  · unfold ofGlobalFile
    dsimp only
    split
    · exact hsilent ..
    · split <;> rfl
  · exact hsilent ..
  · rfl

/-- Neither does the walk over the members. -/
theorem exists_foldlM_addMember (members : List Member) (stage : TemplateStage) :
    ∃ last, members.foldlM addMember stage = .ok last ∧
      ofProperties last.diagnostics = ofProperties stage.diagnostics := by
  induction members generalizing stage with
  | nil => exact ⟨stage, rfl, rfl⟩
  | cons member rest ih =>
    obtain ⟨last, hlast, hsame⟩ := ih (stage.append (ofMember member))
    refine ⟨last, hlast, hsame.trans ?_⟩
    rw [append, ofProperties_append, ofProperties_ofMember, List.append_nil]

end TemplateStage

/-- The end of a binding reports of properties what the walk over them has found and that positions
are asked for twice. -/
theorem ofProperties_finishBinding (declaration : Declaration) (config : Config)
    (parameters : ParameterStage) (members : TemplateStage) :
    ofProperties (finishBinding declaration config parameters members).diagnostics =
      ofProperties parameters.diagnostics ++ parameters.required.finish.2 ++
        ofProperties members.diagnostics := by
  have hwarnings : ofProperties parameters.required.finish.2 = parameters.required.finish.2 :=
    ofProperties_eq_self fun warning hwarning => by
      rw [code_of_mem_repeatWarnings hwarning]
      rfl
  have hfound : ofProperties
      (parameters.diagnostics ++ parameters.required.finish.2 ++ members.diagnostics) =
      ofProperties parameters.diagnostics ++ parameters.required.finish.2 ++
        ofProperties members.diagnostics := by
    rw [ofProperties_append, ofProperties_append, hwarnings]
  unfold finishBinding
  dsimp only
  split
  · exact hfound
  · -- that nothing is produced is no mistake of a property
    split
    · rw [List.append_nil]
      exact hfound
    · rw [ofProperties_append, hfound]
      exact List.append_nil _

section Bindings

variable {declaration : Declaration} {before rest : List Property} {unusable : Property}
  {literal : LiteralArgument}

/-- Binding the properties alone that ask for nothing unusable reports of them the unsuitable types
and then the positions asked for twice. -/
theorem exists_ofProperties_bindDefinition (hclass : declaration.classFindings = [])
    (hbefore : ∀ property ∈ before, ∀ literal, ¬ property.AsksUnusably literal)
    (config : Config) :
    ∃ repeats,
      ofProperties (bindDefinition { declaration with properties := before } config).diagnostics =
        before.filterMap Property.typeFinding? ++ repeats ∧
      (∀ warning ∈ repeats, warning.code = .duplicateRequiredOrder) ∧
      (repeats = [] ↔ (before.filterMap Property.position?).Nodup) := by
  obtain ⟨parameters, hparameters, htypes, hpositions⟩ :=
    ParameterStage.exists_foldlM hbefore {}
  obtain ⟨members, hmembers, hsilent⟩ :=
    TemplateStage.exists_foldlM_addMember declaration.members {}
  have hclass' : ({ declaration with properties := before } : Declaration).classFindings = [] :=
    hclass
  have hkept : ofProperties (before.filterMap Property.typeFinding?) =
      before.filterMap Property.typeFinding? :=
    ofProperties_eq_self fun diagnostic hmem => by
      rw [Property.code_of_mem_typeFindings hmem]
      rfl
  refine ⟨parameters.required.finish.2, ?_, fun warning => code_of_mem_repeatWarnings, ?_⟩
  · rw [bindDefinition_eq, hclass']
    dsimp only
    rw [hparameters, hmembers]
    dsimp only
    rw [ofProperties_finishBinding, hsilent, htypes, List.nil_append, hkept]
    exact List.append_nil _
  · have hnodup := nodup_positions_append_iff [] parameters.required.declared
    rw [List.nil_append, hpositions] at hnodup
    exact (hnodup.trans (and_iff_right List.nodup_nil)).symm

/-- The unusable position refuses the declaration with what was found of the properties in front of
it, and with itself. -/
theorem bindDefinition_of_asksUnusably (hclass : declaration.classFindings = [])
    (hproperties : declaration.properties = before ++ unusable :: rest)
    (hunusable : unusable.AsksUnusably literal)
    (hbefore : ∀ property ∈ before, ∀ literal, ¬ property.AsksUnusably literal)
    (config : Config) :
    bindDefinition declaration config =
      ⟨none, before.filterMap Property.typeFinding? ++ [unusable.positionFinding literal]⟩ := by
  obtain ⟨parameters, hparameters, htypes, -⟩ := ParameterStage.exists_foldlM hbefore {}
  have hend := ParameterStage.addProperty_of_asksUnusably parameters hunusable
  rw [htypes, List.nil_append] at hend
  have hwalk : declaration.properties.foldlM ParameterStage.addProperty {} =
      .error (before.filterMap Property.typeFinding? ++ [unusable.positionFinding literal]) := by
    rw [hproperties, List.foldlM_append, hparameters]
    change (unusable :: rest).foldlM ParameterStage.addProperty parameters = _
    rw [List.foldlM_cons, hend]
    rfl
  rw [bindDefinition_eq, hclass, hwalk]

/-- Where nobody stops the binding, a property whose position is no 32-bit integer refuses its
declaration. Of the properties in front, the unsuitable types are reported as when these are bound
alone, and the position itself behind them; with the positions asked for twice that is all exactly
when there are none. -/
theorem bindDefinition_unusable (hclass : declaration.classFindings = [])
    (hproperties : declaration.properties = before ++ unusable :: rest)
    (hunusable : unusable.AsksUnusably literal)
    (hbefore : ∀ property ∈ before, ∀ literal, ¬ property.AsksUnusably literal)
    (config : Config) {token : Token} (hnever : token.NeverCancels) (spent : List Nat) :
    ∃ rejected alone : Reported Definition,
      (bindDefinitionWith Run.poll declaration config).outcome ⟨token, spent⟩ = .ok rejected ∧
      (bindDefinitionWith Run.poll { declaration with properties := before } config).outcome
        ⟨token, spent⟩ = .ok alone ∧
      rejected.value = none ∧
      rejected.diagnostics =
        alone.diagnostics.filter (fun diagnostic =>
          diagnostic.code == .disallowedParameterType) ++ [unusable.positionFinding literal] ∧
      ((ofProperties alone.diagnostics).Sublist rejected.diagnostics ↔
        (before.filterMap Property.position?).Nodup) := by
  have hrejected := bindDefinition_of_asksUnusably hclass hproperties hunusable hbefore config
  obtain ⟨repeats, halone, hcodes, hnone⟩ :=
    exists_ofProperties_bindDefinition hclass hbefore config
  have hwhole := outcome_bindDefinitionWith declaration config hnever spent
  rw [hrejected] at hwhole
  have htypes : (before.filterMap Property.typeFinding?).filter (fun diagnostic =>
      diagnostic.code == .disallowedParameterType) = before.filterMap Property.typeFinding? :=
    List.filter_eq_self.2 fun diagnostic hmem =>
      beq_iff_eq.2 (Property.code_of_mem_typeFindings hmem)
  have hrepeats : repeats.filter (fun diagnostic =>
      diagnostic.code == .disallowedParameterType) = [] :=
    List.filter_eq_nil_iff.2 fun warning hwarning => by
      rw [hcodes warning hwarning]
      decide
  refine ⟨_, _, hwhole, outcome_bindDefinitionWith _ config hnever spent, rfl, ?_, ?_⟩
  · rw [← filter_ofProperties, halone, List.filter_append, htypes, hrepeats, List.append_nil]
  · rw [halone, List.append_sublist_append_left, ← hnone]
    constructor
    · intro hkept
      refine List.eq_nil_iff_forall_not_mem.2 fun warning hwarning => ?_
      have hcode := hcodes warning hwarning
      rw [List.mem_singleton.1 (hkept.subset hwarning)] at hcode
      cases hcode
    · rintro rfl
      exact List.nil_sublist _

end Bindings

/-- The properties of a letter in front of the one whose position is a text: one of an unsuitable
type, one at the first position and one at a position of choice. -/
def letterProperties (position : Int) : List Property :=
  [.ofType "when" "DateTime",
    (Property.ofType "to" "string").require (some (.integer 1)),
    (Property.ofType "from" "string").require (some (.integer position))]

/-- A property that asks for a text as its position. -/
def stamp : Property := (Property.ofType "stamp" "string").require (some (.text "last"))

/-- A letter with the stamp behind the other properties. -/
def stampedLetter (position : Int) : Declaration :=
  { identifier := ⟨"Acme", "LetterGenerator"⟩
    kind := .onField
    properties := letterProperties position ++ [stamp] }

/-- A text is no position. -/
theorem stamp_asksUnusably : stamp.AsksUnusably (.text "last") where
  allowed := by decide +kernel
  refused := ⟨_, rfl, rfl⟩

/-- The properties in front of the stamp ask for 32-bit integers. -/
theorem not_asksUnusably_of_mem_letterProperties {position : Int}
    (hposition : Int32.minValue.toInt ≤ position ∧ position ≤ Int32.maxValue.toInt) :
    ∀ property ∈ letterProperties position, ∀ literal, ¬ property.AsksUnusably literal := by
  have hinteger : ∀ value : Int,
      Int32.minValue.toInt ≤ value ∧ value ≤ Int32.maxValue.toInt →
      requestedOrder? (some (.integer value)) = .ok (some (Int32.ofInt value)) :=
    fun value hvalue => if_pos hvalue
  rintro property hmem literal ⟨-, marker, hrequired, horder⟩
  simp only [letterProperties, List.mem_cons, List.not_mem_nil, or_false] at hmem
  rcases hmem with rfl | rfl | rfl
  · cases hrequired
  · obtain rfl := Option.some.inj hrequired
    rw [hinteger 1 (by decide)] at horder
    cases horder
  · obtain rfl := Option.some.inj hrequired
    rw [hinteger position hposition] at horder
    cases horder

/-- With different positions in front of the stamp all is reported that is reported without it. -/
theorem stampedLetter_keeps :
    ∃ rejected alone : Reported Definition,
      (bindDefinitionWith Run.poll (stampedLetter 2) {}).outcome ⟨.fresh, []⟩ = .ok rejected ∧
      (bindDefinitionWith Run.poll
        { stampedLetter 2 with properties := letterProperties 2 } {}).outcome ⟨.fresh, []⟩ =
          .ok alone ∧
      rejected.value = none ∧ (ofProperties alone.diagnostics).Sublist rejected.diagnostics := by
  have hnever := (Token.neverCancels_iff .fresh).2 (.inr rfl)
  obtain ⟨rejected, alone, hrejected, halone, hvalue, -, hkeeps⟩ :=
    bindDefinition_unusable
      (show (stampedLetter 2).classFindings = [] from by decide +kernel) rfl
      stamp_asksUnusably (not_asksUnusably_of_mem_letterProperties (by decide)) {} hnever []
  exact ⟨rejected, alone, hrejected, halone, hvalue, hkeeps.2 (by decide +kernel)⟩

/-- With one position asked for twice in front of the stamp, the warning about that is reported when
these properties are bound alone and is lost with the stamp behind them. -/
theorem stampedLetter_loses :
    (stampedLetter 1).classFindings = [] ∧
    stamp.AsksUnusably (.text "last") ∧
    (∀ property ∈ letterProperties 1, ∀ literal, ¬ property.AsksUnusably literal) ∧
    (ofProperties (bindDefinition { stampedLetter 1 with properties := letterProperties 1 }
      {}).diagnostics).map Diagnostic.line =
      ["error[GB2005]: property 'when' has type 'DateTime', which cannot be a generator parameter",
        "warning[GB2101]: required parameter 'from' repeats order 1 already used by 'to'"] ∧
    (bindDefinition (stampedLetter 1) {}).diagnostics.map Diagnostic.line =
      ["error[GB2005]: property 'when' has type 'DateTime', which cannot be a generator parameter",
        "error[GB2004]: required property 'stamp' has order \"last\", which is not a 32-bit " ++
          "integer"] :=
  ⟨by decide +kernel, stamp_asksUnusably, not_asksUnusably_of_mem_letterProperties (by decide),
    by decide +kernel, by decide +kernel⟩

end TemplateCodegen
