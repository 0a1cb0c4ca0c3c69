import TemplateCodegen.Proofs.ClassIdentifier.Arity
import TemplateCodegen.Proofs.ClassIdentifier.Attribute
import TemplateCodegen.Proofs.Usage.Arguments

/-!
# Type arguments in the context

A usage has as many type arguments as the attribute class that it names, and this one has as many as
the class of the generator or the name that the declaration brings for the attribute. The generic
parameters are counted apart from that: they are listed by the declaration, or else taken from the
class. Main statement: where the two numbers agree every generic parameter receives the type argument
at its position, unless a later parameter or a fact about the target has its name, and where they do
not agree no type argument reaches the context (`bindUsage_fillsGeneric`).
-/

namespace TemplateCodegen

open ClassIdentifier

/-! ### Numbers -/

/-- The name that the declaration brings for the attribute, unless it is blank. -/
def Declaration.ownName? (declaration : Declaration) : Option String :=
  match declaration.nameOverride with
  | none => none
  | some override =>
    if Text.trimmed override.name = "" then none else some (Text.trimmed override.name)

/-- The name whose type arguments count for usages: the declaration's own, or that of the class. -/
def Declaration.appliedName (declaration : Declaration) : String :=
  declaration.ownName?.getD declaration.identifier.className

/-- The attribute class has the type arguments of the name that counts. -/
theorem Declaration.genericArity_attributeClass (declaration : Declaration) (config : Config) :
    (declaration.attributeClass config).genericArity =
      arityOf declaration.appliedName.toList := by
  have hderived : declaration.identifier.attributeForGenerator.genericArity =
      declaration.identifier.genericArity := IsRenamed.attributeForGenerator.genericArity_eq
  unfold attributeClass appliedName ownName?
  cases declaration.nameOverride with
  | none => exact hderived
  | some override =>
    dsimp only
    by_cases hblank : Text.trimmed override.name = ""
    · rw [if_pos hblank, if_pos hblank]
      exact hderived
    · rw [if_neg hblank, if_neg hblank]
      exact IsRenamed.withAttributeSuffix.genericArity_eq

/-- Without a name of its own and a list of parameters a declaration has as many parameters as type
arguments count. -/
theorem Declaration.length_genericNames {declaration : Declaration}
    (hname : declaration.ownName? = none) (hlist : declaration.genericParameters = [])
    {names : List String} (hnames : declaration.identifier.genericArguments = .ok names) :
    declaration.genericNames.length = arityOf declaration.appliedName.toList := by
  rw [genericNames, if_pos hlist, hnames, appliedName, hname]
  exact length_genericArguments hnames

/-- A written attribute that names a definition has as many arguments as its attribute class. -/
theorem Definition.genericArity_of_isNamedBy {definition : Definition} {written : ClassIdentifier}
    (h : definition.isNamedBy written = true) :
    written.genericArity = definition.attributeClass.genericArity := by
  unfold isNamedBy at h
  rw [Bool.or_eq_true] at h
  rcases h with hsame | hshort
  · exact (genericArity_eq_of_isSameClass hsame).symm
  · cases hfound : definition.attributeClass.withoutAttributeSuffix? with
    | none =>
      rw [hfound] at hshort
      cases hshort
    | some short =>
      rw [hfound] at hshort
      rw [← (IsRenamed.withoutAttributeSuffix hfound).genericArity_eq]
      exact (genericArity_eq_of_isSameClass hshort).symm

/-! ### Entries -/

/-- The facts about a target have different names. -/
theorem UsageTarget.nodup_entries (target : UsageTarget) :
    (target.entries.map Prod.fst).Nodup := by
  cases target with
  | onMember owner member =>
    change ["ClassName", "ClassNamespace", "ClassFullName", "FieldName", "FieldNamePascal"].Nodup
    decide
  | onClass owner =>
    change ["ClassName", "ClassNamespace", "ClassFullName"].Nodup
    decide
  | onAssembly => exact List.nodup_nil

section Entries

variable {parameters : List GenericParameter} {generator : ClassIdentifier}
  {arguments : List String}

/-- Where the numbers agree every parameter has the type argument at its position. -/
theorem genericEntries_of_length_eq (harguments : generator.genericArguments = .ok arguments)
    (hcount : arguments.length = parameters.length) :
    genericEntries parameters generator =
      (parameters.zip arguments).map fun entry => (entry.1.name, .text entry.2) := by
  rw [genericEntries, harguments]
  exact if_pos hcount

/-- Where they do not agree there are no entries. -/
theorem genericEntries_of_length_ne (harguments : generator.genericArguments = .ok arguments)
    (hcount : arguments.length ≠ parameters.length) : genericEntries parameters generator = [] := by
  rw [genericEntries, harguments]
  exact if_neg hcount

/-- The entry of a parameter is the last one of its name when no later parameter has the name. -/
theorem isLast_genericEntries (harguments : generator.genericArguments = .ok arguments)
    (hcount : arguments.length = parameters.length) {i : Nat} {parameter : GenericParameter}
    {argument : String} (hparameter : parameters[i]? = some parameter)
    (hargument : arguments[i]? = some argument)
    (hlater : ∀ later ∈ parameters.drop (i + 1), later.name ≠ parameter.name) :
    Context.IsLast parameter.name (.text argument) (genericEntries parameters generator) := by
  have hzip : (parameters.zip arguments)[i]? = some (parameter, argument) :=
    List.getElem?_zip_eq_some.2 ⟨hparameter, hargument⟩
  rw [genericEntries_of_length_eq harguments hcount]
  refine Context.isLast_of_getElem? (i := i) (by rw [List.getElem?_map, hzip]; rfl) fun later hmem => ?_
  rw [← List.map_drop, List.zip, List.drop_zipWith] at hmem
  obtain ⟨entry, hentry, rfl⟩ := List.mem_map.1 hmem
  exact hlater entry.1 (List.of_mem_zip hentry).1

end Entries

/-! ### Binding -/

/-- What becomes of the type arguments of a usage, and of the facts about its target. -/
structure Definition.FillsGeneric (definition : Definition) (usage : Usage)
    (arguments : List String) (context : Context) : Prop where
  /-- Where there are as many type arguments as generic parameters, each parameter has the argument
  at its position, unless a later parameter or a fact about the target has its name. -/
  filled (hcount : arguments.length = definition.generic.length) (i : Nat)
    (parameter : GenericParameter) (argument : String)
    (hparameter : definition.generic[i]? = some parameter)
    (hargument : arguments[i]? = some argument)
    (hlater : ∀ later ∈ definition.generic.drop (i + 1), later.name ≠ parameter.name)
    (htarget : ∀ entry ∈ usage.target.entries, entry.1 ≠ parameter.name) :
    context.get? parameter.name = some (.text argument)
  /-- Where there are not, no type argument reaches the context. -/
  unfilled (hcount : arguments.length ≠ definition.generic.length) :
    context = Context.ofList (requiredEntries definition.required usage.arguments ++
      optionalEntries definition.optional usage.namedArguments ++ usage.target.entries)
  /-- The facts about the target are there in either case. -/
  target : ∀ entry ∈ usage.target.entries, context.get? entry.1 = some entry.2

/-- The context of a usage has its type arguments. -/
theorem fillsGeneric_usageContext {definition : Definition} {usage : Usage}
    {arguments : List String} (harguments : usage.generator.genericArguments = .ok arguments) :
    definition.FillsGeneric usage arguments (usageContext definition usage) where
  filled hcount i parameter argument hparameter hargument hlater htarget := by
    rw [usageContext_eq, Context.get?_ofList_eq_some_iff]
    exact (isLast_genericEntries harguments hcount hparameter hargument hlater).append _ htarget
  unfilled hcount := by
    rw [usageContext_eq, Definition.supplied, genericEntries_of_length_ne harguments hcount,
      List.append_nil]
  target entry hentry := by
    have hlast := Context.isLast_of_nodup usage.target.nodup_entries hentry
    have hwhole := hlast.append (requiredEntries definition.required usage.arguments ++
      optionalEntries definition.optional usage.namedArguments ++
        genericEntries definition.generic usage.generator)
      (fun _ hnone => absurd hnone List.not_mem_nil)
    rw [List.append_nil] at hwhole
    rw [usageContext_eq, Context.get?_ofList_eq_some_iff]
    exact hwhole

/-- Every usage that is bound to the definition of a declaration has as many type arguments as the
name under which the generator is applied, which are as many as the generic parameters when the
declaration brings no name of its own and lists no parameters. Where the two numbers agree the
context has every type argument under the name of the parameter at its position, unless a later
parameter or a fact about the target has the name; where they do not it has none of them. -/
theorem bindUsage_fillsGeneric {declaration : Declaration} {config : Config}
    {definitions : List Definition} {usage : Usage} {result : Reported BoundUsage}
    {bound : BoundUsage} {text : String}
    (hdefinition : (bindDefinition declaration config).value = some bound.definition)
    (hgenerator : parse text = .ok usage.generator)
    (hresult : bindUsage definitions usage = some result) (hbound : result.value = some bound) :
    ∃ arguments, usage.generator.genericArguments = .ok arguments ∧
      arguments.length = arityOf declaration.appliedName.toList ∧
      bound.definition.generic = declaration.genericNames.map GenericParameter.mk ∧
      (∀ names, declaration.ownName? = none → declaration.genericParameters = [] →
        declaration.identifier.genericArguments = .ok names →
        arguments.length = bound.definition.generic.length) ∧
      bound.definition.FillsGeneric usage arguments bound.context := by
  obtain ⟨definition, hfind, rfl⟩ := Option.map_eq_some_iff.1 hresult
  have hnamed : definition.isNamedBy usage.generator = true := by
    have hfound := List.find?_some hfind
    exact hfound
  obtain rfl := bindTo_value hbound
  obtain ⟨-, hattribute, hgeneric⟩ := bindDefinition_value hdefinition
  obtain ⟨arguments, harguments, harity⟩ := exists_genericArguments_of_parse hgenerator
  have hcount : arguments.length = arityOf declaration.appliedName.toList := by
    rw [harity, Definition.genericArity_of_isNamedBy hnamed, hattribute,
      declaration.genericArity_attributeClass]
  refine ⟨arguments, harguments, hcount, hgeneric, fun names hname hlist hnames => ?_,
    fillsGeneric_usageContext harguments⟩
  rw [hcount, hgeneric, List.length_map, Declaration.length_genericNames hname hlist hnames]

/-- A generator of classes without members and properties, under the attribute name that it brings.
-/
def genericGenerator (className : String) (ownName : Option String) : Declaration :=
  { identifier := ⟨"Gen", className⟩
    kind := .onClass
    nameOverride := ownName.map fun name => ⟨name, none, false⟩ }

/-- A usage of an attribute on a class. -/
def genericUsage (attributeName : String) : Usage :=
  { generator := ⟨"Stencil", attributeName⟩
    target := .onClass ⟨"Shop", "Store"⟩ }

/-- The second type argument reaches the context under the name of the second parameter. -/
theorem bindUsage_fillsGeneric_repository :
    ∃ definition result bound,
      (bindDefinition (genericGenerator "RepositoryGenerator<TKey, TEntity>" none) {}).value =
        some definition ∧
      parse "Stencil.Repository<int, Customer>" =
        .ok (genericUsage "Repository<int, Customer>").generator ∧
      bindUsage [definition] (genericUsage "Repository<int, Customer>") = some result ∧
      result.value = some bound ∧
      definition.generic = [⟨"TKey"⟩, ⟨"TEntity"⟩] ∧
      bound.context.get? "TEntity" = some (.text "Customer") ∧
      bound.context.get? "ClassName" = some (.text "Store") := by
  have hread : parse "Stencil.Repository<int, Customer>" =
      .ok (genericUsage "Repository<int, Customer>").generator := by rfl
  obtain ⟨definition, result, bound, hdefinition, hresult, hbound, rfl, hgeneric⟩ :=
    exists_bound_of_eq (genericGenerator "RepositoryGenerator<TKey, TEntity>" none)
      (genericUsage "Repository<int, Customer>") (fun definition _ => definition.generic)
      (show _ = some [⟨"TKey"⟩, ⟨"TEntity"⟩] by decide +kernel)
  obtain ⟨arguments, harguments, -, -, -, hfills⟩ :=
    bindUsage_fillsGeneric hdefinition hread hresult hbound
  have hgiven : (genericUsage "Repository<int, Customer>").generator.genericArguments =
      .ok ["int", "Customer"] := by rfl
  obtain rfl := Except.ok.inj (harguments.symm.trans hgiven)
  refine ⟨_, result, bound, hdefinition, hread, hresult, hbound, hgeneric, ?_, ?_⟩
  · exact hfills.filled (by rw [hgeneric]; rfl) 1 ⟨"TEntity"⟩ "Customer" (by rw [hgeneric]; rfl) rfl
      (by rw [hgeneric]; decide) (by decide)
  · exact hfills.target ("ClassName", .text "Store") (by decide)

/-- A usage has fewer type arguments than there are generic parameters when the declaration brings a
name without any; and of two parameters of one name the first does not have its argument. -/
theorem genericUsage_not_filled :
    (∃ definition result bound,
      (bindDefinition (genericGenerator "RepositoryGenerator<TEntity>" (some "Repo")) {}).value =
        some definition ∧
      parse "Stencil.Repo" = .ok (genericUsage "Repo").generator ∧
      bindUsage [definition] (genericUsage "Repo") = some result ∧ result.value = some bound ∧
      bound.context.get? "TEntity" = none ∧
      ¬ ∃ arguments, (genericUsage "Repo").generator.genericArguments = .ok arguments ∧
        arguments.length = definition.generic.length) ∧
    ∃ definition result bound,
      (bindDefinition (genericGenerator "PairGenerator<T, T>" none) {}).value = some definition ∧
      parse "Stencil.Pair<A, B>" = .ok (genericUsage "Pair<A, B>").generator ∧
      bindUsage [definition] (genericUsage "Pair<A, B>") = some result ∧
      result.value = some bound ∧
      (genericUsage "Pair<A, B>").generator.genericArguments = .ok ["A", "B"] ∧
      ¬ ∀ (i : Nat) (parameter : GenericParameter) (argument : String),
        definition.generic[i]? = some parameter → ["A", "B"][i]? = some argument →
        (∀ entry ∈ (genericUsage "Pair<A, B>").target.entries, entry.1 ≠ parameter.name) →
        bound.context.get? parameter.name = some (.text argument) := by
  constructor
  · obtain ⟨definition, result, bound, hdefinition, hresult, hbound, -, hview⟩ :=
      exists_bound_of_eq (genericGenerator "RepositoryGenerator<TEntity>" (some "Repo"))
        (genericUsage "Repo")
        (fun definition context => (definition.generic, context.get? "TEntity"))
        (show _ = some ([⟨"TEntity"⟩], none) by decide +kernel)
    obtain ⟨hgeneric, hmissing⟩ := Prod.mk.inj hview
    refine ⟨definition, result, bound, hdefinition, rfl, hresult, hbound, hmissing, ?_⟩
    rintro ⟨arguments, harguments, hcount⟩
    have hnone : (genericUsage "Repo").generator.genericArguments = .ok [] := by rfl
    obtain rfl := Except.ok.inj (hnone.symm.trans harguments)
    rw [hgeneric] at hcount
    exact absurd hcount (by decide)
  · obtain ⟨definition, result, bound, hdefinition, hresult, hbound, -, hview⟩ :=
      exists_bound_of_eq (genericGenerator "PairGenerator<T, T>" none)
        (genericUsage "Pair<A, B>")
        (fun definition context => (definition.generic, context.get? "T"))
        (show _ = some ([⟨"T"⟩, ⟨"T"⟩], some (.text "B")) by decide +kernel)
    obtain ⟨hgeneric, hlast⟩ := Prod.mk.inj hview
    refine ⟨definition, result, bound, hdefinition, rfl, hresult, hbound, rfl, fun hheld => ?_⟩
    have hfirst := hheld 0 ⟨"T"⟩ "A" (by rw [hgeneric]; rfl) rfl (by decide)
    rw [hlast] at hfirst
    exact absurd hfirst (by decide)

end TemplateCodegen
