/-!
# Diagnostics

Mistakes in templates, declarations and usages are data: a stage returns a value, or none, together
with the diagnostics found on the way. A diagnostic has a stable code, and the code decides whether
it is an error or a warning.
-/

namespace TemplateCodegen

/-- A half-open range of bytes of a text in its UTF-8 form. -/
structure Span where
  /-- First byte. -/
  start : Nat
  /-- First byte behind the range. -/
  stop : Nat
deriving DecidableEq, Repr, Inhabited

/-- Whether a diagnostic stops the item it belongs to or only informs. -/
inductive Severity where
  | warning
  | error
deriving DecidableEq, Repr

/-- The text of a severity. -/
def Severity.text : Severity → String
  | .warning => "warning"
  | .error => "error"

/-- The stable codes. Numbers group by stage: templates from 1001, definitions from 2001, usages
from 3001 and output from 4001; warnings start at 101 within a group. -/
inductive DiagnosticCode where
  | unclosedSection
  | unmatchedClose
  | mismatchedClose
  | emptyIdentifier
  | malformedTag
  | notSealed
  | partialDeclaration
  | invalidGeneratorName
  | invalidRequiredOrder
  | disallowedParameterType
  | invalidGlobalTemplate
  | duplicateRequiredOrder
  | emptyGenerator
  | duplicateGenerator
  | missingRequiredArgument
  | tooManyArguments
  | invalidUsageTarget
  | multipleNotAllowed
  | unknownNamedArgument
  | duplicateArtifactKey
deriving DecidableEq, Repr

namespace DiagnosticCode

/-- Every code, by group, the errors of a group in front of its warnings. -/
def all : List DiagnosticCode :=
  [.unclosedSection, .unmatchedClose, .mismatchedClose, .emptyIdentifier,
   .malformedTag, .notSealed, .partialDeclaration, .invalidGeneratorName,
   .invalidRequiredOrder, .disallowedParameterType, .invalidGlobalTemplate, .duplicateRequiredOrder,
   .emptyGenerator, .duplicateGenerator, .missingRequiredArgument, .tooManyArguments,
   .invalidUsageTarget, .multipleNotAllowed, .unknownNamedArgument, .duplicateArtifactKey]

/-- No code is missing. -/
theorem mem_all (code : DiagnosticCode) : code ∈ all := by
  cases code <;> decide

/-- The written form of a code. -/
def text : DiagnosticCode → String
  | .unclosedSection => "GB1001"
  | .unmatchedClose => "GB1002"
  | .mismatchedClose => "GB1003"
  | .emptyIdentifier => "GB1004"
  | .malformedTag => "GB1005"
  | .notSealed => "GB2001"
  | .partialDeclaration => "GB2002"
  | .invalidGeneratorName => "GB2003"
  | .invalidRequiredOrder => "GB2004"
  | .disallowedParameterType => "GB2005"
  | .invalidGlobalTemplate => "GB2006"
  | .duplicateRequiredOrder => "GB2101"
  | .emptyGenerator => "GB2102"
  | .duplicateGenerator => "GB2103"
  | .missingRequiredArgument => "GB3001"
  | .tooManyArguments => "GB3002"
  | .invalidUsageTarget => "GB3003"
  | .multipleNotAllowed => "GB3004"
  | .unknownNamedArgument => "GB3101"
  | .duplicateArtifactKey => "GB4001"

/-- Four codes are warnings; every other code is an error. -/
def severity : DiagnosticCode → Severity
  | .duplicateRequiredOrder | .emptyGenerator | .duplicateGenerator | .unknownNamedArgument =>
    .warning
  | _ => .error

/-- Two codes are never written alike. -/
theorem text_injective {one other : DiagnosticCode} (h : one.text = other.text) : one = other := by
  have hall : ∀ a ∈ all, ∀ b ∈ all, a.text = b.text → a = b := by decide +kernel
  exact hall one (mem_all one) other (mem_all other) h

end DiagnosticCode

/-- Template text that a diagnostic points into. -/
structure Snippet where
  /-- Shown name of the text, usually the member that holds it. -/
  name : String
  /-- The whole text. -/
  source : String
  /-- The part that is at fault. -/
  span : Span
deriving DecidableEq, Repr

/-- One finding of a stage. -/
structure Diagnostic where
  /-- Its stable code. -/
  code : DiagnosticCode
  /-- Error or warning. -/
  severity : Severity
  /-- What is wrong, in words. -/
  message : String
  /-- Where the host says the faulty item stands. -/
  location : Option String
  /-- The template text at fault, for template errors. -/
  snippet : Option Snippet
deriving DecidableEq, Repr

namespace Diagnostic

/-- A diagnostic with the severity of its code, and no place yet. -/
def ofCode (code : DiagnosticCode) (message : String) : Diagnostic :=
  ⟨code, code.severity, message, none, none⟩

/-- The diagnostic at a location of the host, or at none. -/
def located (diagnostic : Diagnostic) (location : Option String) : Diagnostic :=
  { diagnostic with location := location }

/-- The diagnostic with the template text it points into. -/
def within (diagnostic : Diagnostic) (snippet : Snippet) : Diagnostic :=
  { diagnostic with snippet := some snippet }

/-- Whether the diagnostic is an error. -/
def isError (diagnostic : Diagnostic) : Bool := diagnostic.severity == .error

/-- The one-line form: severity, code, message and, when known, the location. -/
def line (diagnostic : Diagnostic) : String :=
  let head := diagnostic.severity.text ++ "[" ++ diagnostic.code.text ++ "]: " ++ diagnostic.message
  match diagnostic.location with
  | some location => head ++ " (at " ++ location ++ ")"
  | none => head

end Diagnostic

/-- The result of a stage on one item: perhaps a value, and what was found on the way. -/
structure Reported (α : Type) where
  /-- The value, unless the item was refused. -/
  value : Option α
  /-- The findings in the order in which they were made. -/
  diagnostics : List Diagnostic
deriving BEq, Repr

namespace Reported

/-- Whether one of the findings is an error. -/
def hasErrors {α : Type} (reported : Reported α) : Bool :=
  reported.diagnostics.any Diagnostic.isError

end Reported

end TemplateCodegen
