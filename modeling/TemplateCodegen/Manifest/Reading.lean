import TemplateCodegen.Config
import TemplateCodegen.Datum.Reading
import TemplateCodegen.Usage.Basic

/-!
# Reading declarations, usages and configurations

The records of a manifest and of a configuration, field by field, with their spellings and defaults.
-/

namespace TemplateCodegen

/-- What a manifest holds for one generation. -/
structure Manifest where
  /-- The declarations of the compilation. -/
  definitions : List Declaration := []
  /-- The declarations of referenced libraries. -/
  supplementary : List Declaration := []
  /-- The usages. -/
  usages : List Usage := []
deriving BEq

/-- The spellings of the kinds of types. -/
def TypeKind.read : Reader TypeKind :=
  Reader.choice [("primitive", .primitive), ("enum", .enumeration), ("reference", .reference)]

/-- The spellings of the kinds of generators. -/
def GeneratorKind.read : Reader GeneratorKind :=
  Reader.choice [("field", .onField), ("class", .onClass), ("assembly", .onAssembly)]

/-- A default is its literal and its constant. -/
def Initializer.read : Reader Initializer :=
  RecordShape.read
    { blank := ⟨"", ""⟩
      fields :=
        [.required "text" Reader.text fun record text => { record with text },
         .required "value" Reader.text fun record value => { record with value }] }

/-- The fields of a name override. -/
def NameOverride.read : Reader NameOverride :=
  RecordShape.read
    { blank := { name := "" }
      fields :=
        [.required "name" Reader.text fun record name => { record with name },
         .optional "namespace" (Reader.option Reader.text)
           fun record namespaceName => { record with namespaceName },
         .optional "allow_multiple" Reader.flag
           fun record allowMultiple => { record with allowMultiple }] }

/-- The spellings and fields of markers. -/
def Marker.read : Reader Marker :=
  TaggedShape.read "marker"
    [("template", .plain .template),
     ("file_template", .fields
       { blank := .fileTemplate ""
         fields := [.optional "file_name" Reader.text fun _ fileName => .fileTemplate fileName] }),
     ("global_file_template", .fields
       { blank := .globalFileTemplate "" ""
         fields :=
           [.required "generator_name" Reader.text setGeneratorName,
            .optional "file_name" Reader.text setFileName] }),
     ("global_child_template", .fields
       { blank := .globalChildTemplate ""
         fields := [.required "generator_name" Reader.text setGeneratorName] })]
where
  /-- The marker with another generator name, where it has one. -/
  setGeneratorName : Marker → String → Marker
    | .globalFileTemplate _ fileName, generatorName => .globalFileTemplate generatorName fileName
    | .globalChildTemplate _, generatorName => .globalChildTemplate generatorName
    | marker, _ => marker
  /-- The marker with another file name, where it has one. -/
  setFileName : Marker → String → Marker
    | .globalFileTemplate generatorName _, fileName => .globalFileTemplate generatorName fileName
    | .fileTemplate _, fileName => .fileTemplate fileName
    | marker, _ => marker

/-- The fields of a member. -/
def Member.read : Reader Member :=
  RecordShape.read
    { blank := { name := "" }
      fields :=
        [.required "name" Reader.text fun record name => { record with name },
         .optional "markers" (Reader.list Marker.read) fun record markers =>
           { record with markers },
         .optional "constant_text" (Reader.option Reader.text)
           fun record constantText => { record with constantText },
         .optional "location" (Reader.option Reader.text)
           fun record location => { record with location }] }

/-- A literal argument is a whole number of 64 bits, a flag or a text. -/
def LiteralArgument.read : Reader LiteralArgument
  | _, .integer value =>
    if Int64.minValue.toInt ≤ value ∧ value ≤ Int64.maxValue.toInt then .ok (.integer value)
    else .error .shape
  | _, .bool value => .ok (.bool value)
  | _, .string value => .ok (.text value)
  | _, _ => .error .shape

/-- The field of a required marker. -/
def RequiredMarker.read : Reader RequiredMarker :=
  RecordShape.read
    { blank := {}
      fields :=
        [.optional "order" (Reader.option LiteralArgument.read) fun record order =>
          { record with order }] }

/-- The fields of a property. -/
def Property.read : Reader Property :=
  RecordShape.read
    { blank := { name := "", typeText := "" }
      fields :=
        [.required "name" Reader.text fun record name => { record with name },
         .required "type_text" Reader.text fun record typeText => { record with typeText },
         .optional "type_kind" TypeKind.read fun record typeKind => { record with typeKind },
         .optional "initializer" (Reader.option Initializer.read)
           fun record initializer => { record with initializer },
         .optional "required" (Reader.option RequiredMarker.read)
           fun record required => { record with required },
         .optional "location" (Reader.option Reader.text)
           fun record location => { record with location }] }

/-- The fields of a declaration. -/
def Declaration.read : Reader Declaration :=
  RecordShape.read
    { blank := { identifier := ⟨"", ""⟩, kind := .onField }
      fields :=
        [.required "identifier" Reader.identifier fun record identifier =>
            { record with identifier },
         .required "kind" GeneratorKind.read fun record kind => { record with kind },
         .optional "is_sealed" Reader.flag fun record isSealed => { record with isSealed },
         .optional "is_partial" Reader.flag fun record isPartial => { record with isPartial },
         .optional "name_override" (Reader.option NameOverride.read)
           fun record nameOverride => { record with nameOverride },
         .optional "generic_parameters" (Reader.list Reader.text)
           fun record genericParameters => { record with genericParameters },
         .optional "members" (Reader.list Member.read) fun record members =>
           { record with members },
         .optional "properties" (Reader.list Property.read)
           fun record properties => { record with properties },
         .optional "location" (Reader.option Reader.text)
           fun record location => { record with location }] }

/-- The spellings and fields of targets. -/
def UsageTarget.read : Reader UsageTarget :=
  TaggedShape.read "kind"
    [("member", .fields
       { blank := .onMember ⟨"", ""⟩ ""
         fields :=
           [.required "class" Reader.identifier setOwner,
            .required "member" Reader.text setMember] }),
     ("class", .fields
       { blank := .onClass ⟨"", ""⟩
         fields := [.required "class" Reader.identifier setOwner] }),
     ("assembly", .plain .onAssembly)]
where
  /-- The target in another class, where it has one. -/
  setOwner : UsageTarget → ClassIdentifier → UsageTarget
    | .onMember _ member, owner => .onMember owner member
    | .onClass _, owner => .onClass owner
    | .onAssembly, _ => .onAssembly
  /-- The target on another member, where it has one. -/
  setMember : UsageTarget → String → UsageTarget
    | .onMember owner _, member => .onMember owner member
    | target, _ => target

/-- The fields of a named argument. -/
def NamedArgument.read : Reader NamedArgument :=
  RecordShape.read
    { blank := ⟨"", ""⟩
      fields :=
        [.required "name" Reader.text fun record name => { record with name },
         .required "value" Reader.text fun record value => { record with value }] }

/-- The fields of a usage. -/
def Usage.read : Reader Usage :=
  RecordShape.read
    { blank := { generator := ⟨"", ""⟩, target := .onAssembly }
      fields :=
        [.required "generator" Reader.identifier fun record generator => { record with generator },
         .required "target" UsageTarget.read fun record target => { record with target },
         .optional "arguments" (Reader.list Reader.text)
           fun record arguments => { record with arguments },
         .optional "named_arguments" (Reader.list NamedArgument.read)
           fun record namedArguments => { record with namedArguments },
         .optional "location" (Reader.option Reader.text)
           fun record location => { record with location }] }

/-- The fields of a manifest, which has no others. -/
def Manifest.read : Reader Manifest :=
  RecordShape.read
    { blank := {}
      fields :=
        [.optional "definitions" (Reader.list Declaration.read)
           fun record definitions => { record with definitions },
         .optional "supplementary" (Reader.list Declaration.read)
           fun record supplementary => { record with supplementary },
         .optional "usages" (Reader.list Usage.read) fun record usages => { record with usages }]
      isClosed := true }

/-- The fields of a configuration, which has no others. -/
def Config.read : Reader Config :=
  RecordShape.read
    { blank := {}
      fields :=
        [.optional "attribute_namespace" Reader.text
           fun record attributeNamespace => { record with attributeNamespace },
         .optional "fragment_separator" Reader.text
           fun record fragmentSeparator => { record with fragmentSeparator },
         .optional "debug_header" Reader.flag fun record debugHeader => { record with debugHeader },
         .optional "comment_prefix" Reader.text
           fun record commentMarker => { record with commentMarker },
         .optional "file_extension" Reader.text
           fun record fileExtension => { record with fileExtension },
         .optional "parallel" Reader.flag fun record isParallel => { record with isParallel }]
      isClosed := true }

end TemplateCodegen
