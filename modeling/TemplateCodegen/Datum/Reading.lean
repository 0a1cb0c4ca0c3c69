import TemplateCodegen.ClassIdentifier.Basic
import TemplateCodegen.Datum.Basic

/-!
# Reading records from data

A record is read from a table by its field names or from a sequence by their order. The entries are
read in the order of the document and the first that does not fit decides; only then are missing
fields noticed. Unknown names are ignored unless the record is a closed one.
-/

namespace TemplateCodegen

/-- Why a datum does not fit what is read from it. -/
inductive Misfit where
  /-- A text is no class identifier. -/
  | identifier (error : IdentifierError)
  /-- The datum has another shape: a wrong type, an unknown spelling, or a missing field. -/
  | shape
deriving DecidableEq, Repr

/-- The identifier error behind a misfit, in words. -/
def Misfit.message? : Misfit → Option String
  | .identifier error => some error.message
  | .shape => none

/-- A way to read a value from a datum of a document of some form. -/
abbrev Reader (α : Type) := DatumForm → Datum → Except Misfit α

namespace Reader

/-- Read a text. -/
def text : Reader String
  | _, .string value => .ok value
  | _, _ => .error .shape

/-- Read a flag. -/
def flag : Reader Bool
  | _, .bool value => .ok value
  | _, _ => .error .shape

/-- Read a class identifier from its full name. -/
def identifier : Reader ClassIdentifier
  | _, .string value => (ClassIdentifier.parse value).mapError Misfit.identifier
  | _, _ => .error .shape

/-- Read a value that may be absent. -/
def option {α : Type} (read : Reader α) : Reader (Option α)
  | _, .null => .ok none
  | form, datum => (read form datum).map some

/-- Read the items of a sequence, from the first on. -/
def list {α : Type} (read : Reader α) : Reader (List α)
  | form, .array items => items.mapM (read form)
  | _, _ => .error .shape

/-- Whether a datum stands for no content at all: the absent value in JSON, an empty sequence or
table in TOML. -/
def isVoid : DatumForm → Datum → Bool
  | .json, .null => true
  | .toml, .array [] => true
  | .toml, .table [] => true
  | _, _ => false

/-- Read one of several spellings, given as a text or as the only name of a table without content.
-/
def choice {α : Type} (spellings : List (String × α)) : Reader α
  | _, .string name => ofName name
  | form, .table [(name, content)] =>
    match ofName name with
    | .ok value => if isVoid form content then .ok value else .error .shape
    | .error error => .error error
  | _, _ => .error .shape
where
  /-- The value of a spelling. -/
  ofName (name : String) : Except Misfit α :=
    match spellings.lookup name with
    | some value => .ok value
    | none => .error .shape

end Reader

/-- A field of a record of some type. -/
structure RecordField (α : Type) where
  /-- The name. -/
  name : String
  /-- Whether it must be there. -/
  isRequired : Bool
  /-- Read the field into a record. -/
  read : DatumForm → Datum → α → Except Misfit α

namespace RecordField

/-- A field that must be there. -/
def required {α γ : Type} (name : String) (read : Reader γ) (set : α → γ → α) : RecordField α :=
  ⟨name, true, fun form datum record => (read form datum).map (set record)⟩

/-- A field that keeps its default when it is not there. -/
def optional {α γ : Type} (name : String) (read : Reader γ) (set : α → γ → α) : RecordField α :=
  ⟨name, false, fun form datum record => (read form datum).map (set record)⟩

end RecordField

/-- How a record is read: what it is before any field has been read, its fields in order, and
whether other names are refused. Required fields of the blank record are always replaced. -/
structure RecordShape (α : Type) where
  /-- The record before any field has been read. -/
  blank : α
  /-- The fields in order. -/
  fields : List (RecordField α)
  /-- Whether names that are no fields are refused. -/
  isClosed : Bool := false

namespace RecordShape

variable {α : Type}

/-- Read one entry into a record. -/
def readEntry (shape : RecordShape α) (form : DatumForm) (record : α) (entry : String × Datum) :
    Except Misfit α :=
  match shape.fields.find? fun field => field.name == entry.1 with
  | some field => field.read form entry.2 record
  | none => if shape.isClosed then .error .shape else .ok record

/-- Read a record from the entries of a table. -/
def readTable (shape : RecordShape α) (form : DatumForm) (entries : List (String × Datum)) :
    Except Misfit α :=
  match entries.foldlM (shape.readEntry form) shape.blank with
  | .error misfit => .error misfit
  | .ok record =>
    if shape.fields.all fun field => !field.isRequired || entries.any (·.1 == field.name) then
      .ok record
    else .error .shape

/-- Read a record from a sequence, one item for each field; fields behind the end keep their
defaults. Says how many items are left over. -/
def readItems (form : DatumForm) : List (RecordField α) → List Datum → α → Except Misfit (α × Nat)
  | [], items, record => .ok (record, items.length)
  | field :: fields, [], record =>
    if field.isRequired then .error .shape else readItems form fields [] record
  | field :: fields, item :: items, record =>
    match field.read form item record with
    | .ok next => readItems form fields items next
    | .error misfit => .error misfit

/-- Read a record. In TOML a sequence may be too long, and a date counts as a table of unknown
names. -/
def read (shape : RecordShape α) : Reader α
  | form, .table entries => shape.readTable form entries
  | form, .datetime _ => shape.readTable form []
  | form, .array items =>
    match readItems form shape.fields items shape.blank with
    | .ok (record, surplus) =>
      if surplus = 0 ∨ form = .toml then .ok record else .error .shape
    | .error misfit => .error misfit
  | _, _ => .error .shape

end RecordShape

/-- An alternative of a type whose values carry the alternative's name in a field of their own. -/
inductive TaggedShape (α : Type) where
  /-- An alternative without fields. -/
  | plain (value : α)
  /-- An alternative with fields. -/
  | fields (shape : RecordShape α)

namespace TaggedShape

variable {α : Type}

/-- Read an alternative from the entries besides its name. -/
def readTable (form : DatumForm) (entries : List (String × Datum)) : TaggedShape α → Except Misfit α
  | .plain value => .ok value
  | .fields shape => shape.readTable form entries

/-- Read an alternative from the items behind its name; none may be left over. -/
def readItems (form : DatumForm) (items : List Datum) : TaggedShape α → Except Misfit α
  | .plain value => if items.isEmpty then .ok value else .error .shape
  | .fields shape =>
    match RecordShape.readItems form shape.fields items shape.blank with
    | .ok (record, surplus) => if surplus = 0 then .ok record else .error .shape
    | .error misfit => .error misfit

/-- Read a value from a table that names its alternative under a tag, or from a sequence that begins
with the name. -/
def read (tag : String) (alternatives : List (String × TaggedShape α)) : Reader α
  | form, .table entries =>
    match entries.lookup tag with
    | some (.string name) =>
      match alternatives.lookup name with
      | some alternative => alternative.readTable form (entries.filter (·.1 != tag))
      | none => .error .shape
    | _ => .error .shape
  | form, .array (.string name :: items) =>
    match alternatives.lookup name with
    | some alternative => alternative.readItems form items
    | none => .error .shape
  | _, _ => .error .shape

end TaggedShape

end TemplateCodegen
