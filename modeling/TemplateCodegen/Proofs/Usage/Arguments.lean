import TemplateCodegen.Definition.Binding
import TemplateCodegen.Proofs.Parameter.Order
import TemplateCodegen.Proofs.Template.Entries
import TemplateCodegen.Usage.Binding

/-!
# Arguments in the context

What a usage supplies reaches its context as entries, one after the other: the required parameters
with the arguments by position, the optional ones with the last argument by name or their default,
the generic ones with the type arguments, and the facts about the target. Names are not kept apart:
of several entries of one name the last stays. Main statement: the context of a bound usage has for
every parameter what was supplied for it, unless a later entry has its name
(`bindUsage_holds`).
-/

namespace TemplateCodegen

/-! ## Entries of a usage -/

/-- The required parameters with the arguments by position. -/
def requiredEntries (parameters : List RequiredParameter) (arguments : List String) :
    List (String × Value) :=
  parameters.zipWith
    (fun parameter argument => (parameter.pascalName, argumentValue parameter.type argument))
    arguments

/-- The optional parameters with the arguments by name and the defaults. -/
def optionalEntries (parameters : List OptionalParameter) (arguments : List NamedArgument) :
    List (String × Value) :=
  parameters.map fun parameter =>
    (parameter.pascalName, argumentValue parameter.type (parameter.argument arguments))

/-- The generic parameters with the type arguments, when there are as many of these. -/
def genericEntries (parameters : List GenericParameter) (generator : ClassIdentifier) :
    List (String × Value) :=
  match generator.genericArguments with
  | .ok arguments =>
    if arguments.length = parameters.length then
      (parameters.zip arguments).map fun entry => (entry.1.name, .text entry.2)
    else []
  | .error _ => []

/-- The names of a class. -/
def ClassIdentifier.entries (owner : ClassIdentifier) : List (String × Value) :=
  [("ClassName", .text owner.className), ("ClassNamespace", .text owner.namespaceName),
   ("ClassFullName", .text owner.fullName)]

/-- The facts about a target. -/
def UsageTarget.entries : UsageTarget → List (String × Value)
  | .onMember owner member =>
    owner.entries ++ [("FieldName", .text member),
      ("FieldNamePascal", .text (Text.pascalMemberName member))]
  | .onClass owner => owner.entries
  | .onAssembly => []

/-- Everything that a usage of a definition supplies, in order. -/
def Definition.supplied (definition : Definition) (usage : Usage) : List (String × Value) :=
  requiredEntries definition.required usage.arguments ++
    optionalEntries definition.optional usage.namedArguments ++
    genericEntries definition.generic usage.generator ++ usage.target.entries

/-- Filling the required parameters inserts their entries. -/
theorem insertRequired_eq (context : Context) (parameters : List RequiredParameter)
    (arguments : List String) :
    insertRequired context parameters arguments =
      context.insertAll (requiredEntries parameters arguments) := by
  induction parameters generalizing context arguments with
  | nil => rfl
  | cons parameter parameters ih =>
    cases arguments with
    | nil => rfl
    | cons argument arguments => exact ih _ arguments

/-- Filling the optional parameters inserts their entries. -/
theorem insertOptional_eq (context : Context) (parameters : List OptionalParameter)
    (arguments : List NamedArgument) :
    insertOptional context parameters arguments =
      context.insertAll (optionalEntries parameters arguments) := by
  rw [Context.insertAll, optionalEntries, List.foldl_map]
  rfl

/-- Filling the generic parameters inserts their entries. -/
theorem insertGeneric_eq (context : Context) (parameters : List GenericParameter)
    (generator : ClassIdentifier) :
    insertGeneric context parameters generator =
      context.insertAll (genericEntries parameters generator) := by
  unfold insertGeneric genericEntries
  cases generator.genericArguments with
  | error reason => rfl
  | ok arguments =>
    by_cases hcount : arguments.length = parameters.length
    · simp only [if_pos hcount, Context.insertAll, List.foldl_map]
      rfl
    · simp only [if_neg hcount]
      rfl

/-- The facts about a target are inserted as its entries. -/
theorem insertTarget_eq (context : Context) (target : UsageTarget) :
    insertTarget context target = context.insertAll target.entries := by
  cases target with
  | onMember owner member => rfl
  | onClass owner => rfl
  | onAssembly => rfl

/-- The context of a usage is made of everything that it supplies. -/
theorem usageContext_eq (definition : Definition) (usage : Usage) :
    usageContext definition usage = Context.ofList (definition.supplied usage) := by
  rw [usageContext, insertTarget_eq, insertGeneric_eq, insertOptional_eq, insertRequired_eq,
    Definition.supplied, Context.ofList, List.foldl_append, List.foldl_append, List.foldl_append]
  rfl

/-! ## Arguments -/

/-- The texts have the same letters in any case. -/
def SameLetters (one other : String) : Prop :=
  one.toList.map Char.toLower = other.toList.map Char.toLower

/-- The value that an argument stands for under a type. -/
inductive Denotes (type : ParameterType) (argument : String) : Value → Prop where
  /-- Under the type `bool`, `true` and `false` in any case are flags. -/
  | flag (flag : Bool) (htype : type = .bool) (hargument : SameLetters argument (toString flag)) :
      Denotes type argument (.bool flag)
  /-- Any other argument is text. -/
  | text (hplain : type = .bool → ∀ flag : Bool, ¬ SameLetters argument (toString flag)) :
      Denotes type argument (.text argument)

/-- The text for an optional parameter. -/
inductive OptionalParameter.Receives (parameter : OptionalParameter)
    (arguments : List NamedArgument) : String → Prop where
  /-- The last argument by the declared or the Pascal name. -/
  | argument (front behind : List NamedArgument) (argument : NamedArgument)
      (harguments : arguments = front ++ argument :: behind)
      (hname : argument.name = parameter.name ∨ argument.name = parameter.pascalName)
      (hlast : ∀ later ∈ behind, later.name ≠ parameter.name ∧ later.name ≠ parameter.pascalName) :
      parameter.Receives arguments argument.value
  /-- The default, when there is no such argument. -/
  | default (hnone : ∀ argument ∈ arguments,
        argument.name ≠ parameter.name ∧ argument.name ≠ parameter.pascalName) :
      parameter.Receives arguments (Initializer.constant parameter.initializer)

/-- The text that an argument stands for is the argument. -/
theorem Denotes.eq_of_text {type : ParameterType} {argument content : String}
    (h : Denotes type argument (.text content)) : content = argument := by
  cases h
  rfl

/-- Whether two texts have the same letters is decided letter by letter. -/
instance (one other : String) : Decidable (SameLetters one other) :=
  inferInstanceAs (Decidable (_ = _))

/-- The text of a flag is told from that of the other in any case. -/
theorem not_sameLetters_flags {argument : String} (htrue : SameLetters argument "true") :
    ¬ SameLetters argument "false" := by
  intro hfalse
  have h := htrue.symm.trans hfalse
  exact absurd h (by decide)

/-- The value of an argument, told by its letters. -/
theorem argumentValue_eq (type : ParameterType) (argument : String) :
    argumentValue type argument =
      if type = .bool ∧ SameLetters argument "true" then .bool true
      else if type = .bool ∧ SameLetters argument "false" then .bool false
      else .text argument := rfl

/-- An argument stands for its value, and for nothing else. -/
theorem denotes_iff {type : ParameterType} {argument : String} {value : Value} :
    Denotes type argument value ↔ value = argumentValue type argument := by
  rw [argumentValue_eq]
  constructor
  · intro h
    cases h with
    | flag flag htype hargument =>
      cases flag with
      | true => rw [if_pos ⟨htype, hargument⟩]
      | false =>
        rw [if_neg fun h => not_sameLetters_flags h.2 hargument, if_pos ⟨htype, hargument⟩]
    | text hplain =>
      rw [if_neg fun h => hplain h.1 true h.2, if_neg fun h => hplain h.1 false h.2]
  · rintro rfl
    by_cases htrue : type = .bool ∧ SameLetters argument "true"
    · rw [if_pos htrue]
      exact .flag true htrue.1 htrue.2
    · rw [if_neg htrue]
      by_cases hfalse : type = .bool ∧ SameLetters argument "false"
      · rw [if_pos hfalse]
        exact .flag false hfalse.1 hfalse.2
      · rw [if_neg hfalse]
        refine .text fun htype flag hflag => ?_
        cases flag with
        | true => exact htrue ⟨htype, hflag⟩
        | false => exact hfalse ⟨htype, hflag⟩

/-- Whether a name is one of the two names of an optional parameter. -/
theorem OptionalParameter.hasName_iff {parameter : OptionalParameter} {name : String} :
    parameter.hasName name = true ↔ name = parameter.name ∨ name = parameter.pascalName := by
  rw [hasName, Bool.or_eq_true, beq_iff_eq, beq_iff_eq, @eq_comm _ parameter.name,
    @eq_comm _ parameter.pascalName]

/-- An optional parameter receives the text that is chosen for it. -/
theorem OptionalParameter.receives_argument (parameter : OptionalParameter)
    (arguments : List NamedArgument) :
    parameter.Receives arguments (parameter.argument arguments) := by
  unfold argument
  cases hfind : arguments.reverse.find? fun argument => parameter.hasName argument.name with
  | none =>
    refine .default fun argument hmem => ?_
    have hnot := List.find?_eq_none.1 hfind argument (List.mem_reverse.2 hmem)
    rw [hasName_iff, not_or] at hnot
    exact hnot
  | some argument =>
    obtain ⟨hname, before, after, hreverse, hbefore⟩ := List.find?_eq_some_iff_append.1 hfind
    have harguments : arguments = after.reverse ++ argument :: before.reverse := by
      rw [← arguments.reverse_reverse, hreverse]
      simp
    refine .argument _ _ argument harguments (hasName_iff.1 hname) fun later hlater => ?_
    have hnot := hbefore later (List.mem_reverse.1 hlater)
    rw [Bool.not_eq_true', ← Bool.not_eq_true, hasName_iff, not_or] at hnot
    exact hnot

/-! ## Binding -/

/-- A usage is bound when there is an argument by position for every required parameter. -/
theorem length_of_usageErrors {definition : Definition} {usage : Usage}
    (h : usageErrors definition usage = []) :
    usage.arguments.length = definition.required.length := by
  unfold usageErrors at h
  dsimp only at h
  split at h
  · obtain ⟨hmany, hfew⟩ := List.append_eq_nil_iff.1 h
    rw [List.map_eq_nil_iff, List.drop_eq_nil_iff] at hfew
    have hle : ¬ definition.required.length < usage.arguments.length := by
      intro hlt
      rw [if_pos hlt] at hmany
      exact List.cons_ne_nil _ _ hmany
    omega
  · exact absurd h (List.cons_ne_nil _ _)

/-- The required parameters of a definition are those that the properties of its declaration give,
in order; the optional ones are left as they are declared. -/
def Declaration.Gives (declaration : Declaration) (definition : Definition) : Prop :=
  ∃ parameters, declaration.properties.foldlM ParameterStage.addProperty {} = .ok parameters ∧
    definition.required.Perm parameters.required.declared ∧
    definition.required.Pairwise (fun one other => one.precedes other = true) ∧
    definition.optional = parameters.optional

/-- The context has what a usage supplies for the parameters of a definition. -/
structure Definition.Holds (definition : Definition) (usage : Usage) (context : Context) :
    Prop where
  /-- There is an argument by position for every required parameter. -/
  count : usage.arguments.length = definition.required.length
  /-- A required parameter has the argument at its position, unless a later entry has its name. -/
  required (i : Nat) (parameter : RequiredParameter) (argument : String)
    (hparameter : definition.required[i]? = some parameter)
    (hargument : usage.arguments[i]? = some argument)
    (hlast : ∀ later ∈ (definition.supplied usage).drop (i + 1),
      later.1 ≠ parameter.pascalName) :
    ∃ value, Denotes parameter.type argument value ∧
      context.get? parameter.pascalName = some value
  /-- An optional parameter has the last argument by one of its names or its default, unless a later
  entry has its name. -/
  optional (i : Nat) (parameter : OptionalParameter)
    (hparameter : definition.optional[i]? = some parameter)
    (hlast : ∀ later ∈ (definition.supplied usage).drop (definition.required.length + i + 1),
      later.1 ≠ parameter.pascalName) :
    ∃ argument value, parameter.Receives usage.namedArguments argument ∧
      Denotes parameter.type argument value ∧ context.get? parameter.pascalName = some value
  /-- Of several entries of one name the last one is there, and nothing else is. -/
  last (name : String) (value : Value) :
    context.get? name = some value ↔ Context.IsLast name value (definition.supplied usage)

/-- The entry of a required parameter. -/
theorem supplied_required {definition : Definition} {usage : Usage} {i : Nat}
    {parameter : RequiredParameter} {argument : String}
    (hparameter : definition.required[i]? = some parameter)
    (hargument : usage.arguments[i]? = some argument) :
    (definition.supplied usage)[i]? =
      some (parameter.pascalName, argumentValue parameter.type argument) := by
  have hentry : (requiredEntries definition.required usage.arguments)[i]? =
      some (parameter.pascalName, argumentValue parameter.type argument) := by
    rw [requiredEntries, List.getElem?_zipWith, hparameter, hargument]
  obtain ⟨hlt, -⟩ := List.getElem?_eq_some_iff.1 hentry
  rw [Definition.supplied, List.append_assoc, List.append_assoc, List.getElem?_append_left hlt,
    hentry]

/-- The entry of an optional parameter stands behind those of the required ones. -/
theorem supplied_optional {definition : Definition} {usage : Usage} {i : Nat}
    {parameter : OptionalParameter}
    (hcount : usage.arguments.length = definition.required.length)
    (hparameter : definition.optional[i]? = some parameter) :
    (definition.supplied usage)[definition.required.length + i]? =
      some (parameter.pascalName,
        argumentValue parameter.type (parameter.argument usage.namedArguments)) := by
  have hfront : (requiredEntries definition.required usage.arguments).length =
      definition.required.length := by
    rw [requiredEntries, List.length_zipWith, hcount, Nat.min_self]
  have hentry : (optionalEntries definition.optional usage.namedArguments)[i]? =
      some (parameter.pascalName,
        argumentValue parameter.type (parameter.argument usage.namedArguments)) := by
    rw [optionalEntries, List.getElem?_map, hparameter]
    rfl
  obtain ⟨hlt, -⟩ := List.getElem?_eq_some_iff.1 hentry
  rw [Definition.supplied, List.append_assoc, List.append_assoc,
    List.getElem?_append_right (by omega), hfront, Nat.add_sub_cancel_left,
    List.getElem?_append_left hlt, hentry]

/-- The context of a usage with enough arguments has what it supplies. -/
theorem holds_usageContext {definition : Definition} {usage : Usage}
    (hcount : usage.arguments.length = definition.required.length) :
    definition.Holds usage (usageContext definition usage) where
  count := hcount
  required i parameter argument hparameter hargument hlast := by
    refine ⟨_, denotes_iff.2 rfl, ?_⟩
    rw [usageContext_eq, Context.get?_ofList_eq_some_iff]
    exact Context.isLast_of_getElem? (supplied_required hparameter hargument) hlast
  optional i parameter hparameter hlast := by
    refine ⟨_, _, parameter.receives_argument _, denotes_iff.2 rfl, ?_⟩
    rw [usageContext_eq, Context.get?_ofList_eq_some_iff]
    exact Context.isLast_of_getElem? (supplied_optional hcount hparameter) hlast
  last name value := by rw [usageContext_eq, Context.get?_ofList_eq_some_iff]

/-- The parameters of a definition are those of its declaration. -/
theorem gives_of_bindDefinition {declaration : Declaration} {config : Config}
    {definition : Definition} (h : (bindDefinition declaration config).value = some definition) :
    declaration.Gives definition := by
  obtain ⟨-, parameters, members, hproperties, -, hfinish⟩ := exists_of_bindDefinition h
  obtain ⟨-, -, -, hrequired, hoptional⟩ := finishBinding_value hfinish
  refine ⟨parameters, hproperties, ?_, ?_, hoptional⟩
  · rw [hrequired]
    exact parameters.required.finish_perm
  · rw [hrequired]
    exact parameters.required.pairwise_finish

/-- Every usage that is bound to the definition of a declaration has an argument by position for
every required parameter, and its context has these, the arguments by name and the defaults under
the names of their parameters, unless an entry that is supplied later has the name: that of a later
parameter, of a type argument, or of a fact about the target. -/
theorem bindUsage_holds {declaration : Declaration} {config : Config}
    {definitions : List Definition} {usage : Usage} {result : Reported BoundUsage}
    {bound : BoundUsage}
    (hdefinition : (bindDefinition declaration config).value = some bound.definition)
    (hresult : bindUsage definitions usage = some result) (hbound : result.value = some bound) :
    declaration.Gives bound.definition ∧ bound.definition.Holds usage bound.context := by
  obtain ⟨definition, -, rfl⟩ := Option.map_eq_some_iff.1 hresult
  have hsome : (bindTo definition usage).value.isSome = true := by rw [hbound]; rfl
  have hcount := length_of_usageErrors ((bindTo_value_isSome_iff definition usage).1 hsome)
  obtain rfl := bindTo_value hbound
  exact ⟨gives_of_bindDefinition hdefinition, holds_usageContext hcount⟩

/-- What is seen of a usage that is bound to the definition of a declaration can be computed. -/
theorem exists_bound_of_eq {α : Type} (declaration : Declaration) (usage : Usage)
    (view : Definition → Context → α) {seen : α}
    (h : ((bindDefinition declaration {}).value.bind fun definition =>
        (bindUsage [definition] usage).bind fun result => result.value.map fun bound =>
          view definition bound.context) = some seen) :
    ∃ definition result bound, (bindDefinition declaration {}).value = some definition ∧
      bindUsage [definition] usage = some result ∧ result.value = some bound ∧
      bound.definition = definition ∧ view definition bound.context = seen := by
  obtain ⟨definition, hdefinition, h⟩ := Option.bind_eq_some_iff.1 h
  obtain ⟨result, hresult, h⟩ := Option.bind_eq_some_iff.1 h
  obtain ⟨bound, hbound, hview⟩ := Option.map_eq_some_iff.1 h
  obtain ⟨found, hfound, rfl⟩ := Option.map_eq_some_iff.1 hresult
  obtain rfl := List.mem_singleton.1 (List.mem_of_find?_eq_some hfound)
  have hbinds : bound.definition = found := by rw [bindTo_value hbound]
  exact ⟨found, _, bound, hdefinition, hresult, hbound, hbinds, hview⟩

/-- A generator with a required and two optional parameters. -/
def badge (label : String) : Declaration :=
  { identifier := ⟨"Gen", "BadgeGenerator"⟩
    kind := .onClass
    properties :=
      [(Property.ofType label "string").require none,
        (Property.ofType "bold" "bool").withInitializer "true" "True",
        (Property.ofType "color" "string").withInitializer "\"red\"" "red"] }

/-- A usage of it, with one optional argument twice. -/
def badged : Usage :=
  { generator := ⟨"Stencil", "Badge"⟩
    target := .onClass ⟨"Shop", "Order"⟩
    arguments := ["new"]
    namedArguments := [⟨"color", "blue"⟩, ⟨"Color", "green"⟩] }

/-- The usage is bound to the definition, and these are the Pascal names of the required parameters
and the context. -/
def BadgeBinds (label : String) (names : List String) (context : Context) : Prop :=
  ∃ definition result bound, (bindDefinition (badge label) {}).value = some definition ∧
    bindUsage [definition] badged = some result ∧ result.value = some bound ∧
    bound.definition = definition ∧ definition.required.map RequiredParameter.pascalName = names ∧
    bound.context = context

/-- What the binding gives can be computed. -/
theorem badgeBinds_of_eq {label : String} {names : List String} {context : Context}
    (h : ((bindDefinition (badge label) {}).value.bind fun definition =>
        (bindUsage [definition] badged).bind fun result => result.value.map fun bound =>
          (definition.required.map RequiredParameter.pascalName, bound.context)) =
      some (names, context)) : BadgeBinds label names context := by
  obtain ⟨definition, result, bound, hdefinition, hresult, hbound, hbinds, hview⟩ :=
    exists_bound_of_eq (badge label) badged
      (fun definition context => (definition.required.map RequiredParameter.pascalName, context)) h
  obtain ⟨hnames, hcontext⟩ := Prod.mk.inj hview
  exact ⟨definition, result, bound, hdefinition, hresult, hbound, hbinds, hnames, hcontext⟩

/-- The argument, the default and the last argument by name reach the context. -/
theorem bindUsage_holds_badged :
    ∃ definition result bound, (bindDefinition (badge "label") {}).value = some definition ∧
      bindUsage [definition] badged = some result ∧ result.value = some bound ∧
      (badge "label").Gives definition ∧ definition.Holds badged bound.context ∧
      bound.context.entries = [("Label", .text "new"), ("Bold", .bool true),
        ("Color", .text "green"), ("ClassName", .text "Order"), ("ClassNamespace", .text "Shop"),
        ("ClassFullName", .text "Shop.Order")] := by
  have hbinds : BadgeBinds "label" ["Label"]
      ⟨[("Label", .text "new"), ("Bold", .bool true), ("Color", .text "green"),
        ("ClassName", .text "Order"), ("ClassNamespace", .text "Shop"),
        ("ClassFullName", .text "Shop.Order")]⟩ := badgeBinds_of_eq (by decide +kernel)
  obtain ⟨definition, result, bound, hdefinition, hresult, hbound, rfl, -, hcontext⟩ := hbinds
  obtain ⟨hgives, hholds⟩ := bindUsage_holds hdefinition hresult hbound
  exact ⟨_, result, bound, hdefinition, hresult, hbound, hgives, hholds, by rw [hcontext]⟩

/-- The argument is lost when its parameter has the name of a fact about the target. -/
theorem badged_loses_argument :
    ∃ definition result bound, (bindDefinition (badge "className") {}).value = some definition ∧
      bindUsage [definition] badged = some result ∧ result.value = some bound ∧
      ¬ ∀ (i : Nat) (parameter : RequiredParameter) (argument : String),
        definition.required[i]? = some parameter → badged.arguments[i]? = some argument →
          ∃ value, Denotes parameter.type argument value ∧
            bound.context.get? parameter.pascalName = some value := by
  have hbinds : BadgeBinds "className" ["ClassName"]
      ⟨[("ClassName", .text "Order"), ("Bold", .bool true), ("Color", .text "green"),
        ("ClassNamespace", .text "Shop"), ("ClassFullName", .text "Shop.Order")]⟩ :=
    badgeBinds_of_eq (by decide +kernel)
  obtain ⟨definition, result, bound, hdefinition, hresult, hbound, -, hnames, hcontext⟩ := hbinds
  refine ⟨definition, result, bound, hdefinition, hresult, hbound, fun hheld => ?_⟩
  obtain ⟨parameter, rest, hrequired, hname, -⟩ := List.map_eq_cons_iff.1 hnames
  obtain ⟨value, hdenotes, hvalue⟩ := hheld 0 parameter "new" (by rw [hrequired]; rfl) rfl
  rw [hname, hcontext] at hvalue
  obtain rfl : Value.text "Order" = value := Option.some.inj hvalue
  exact absurd hdenotes.eq_of_text (by decide)

end TemplateCodegen
