import TemplateCodegen.Diagnostic.Basic

/-!
# Faults of templates

What can be wrong with the text of a template: a tag that cannot be read, or sections that do not
nest. A fault is its cause and the bytes it is about; wording and code follow from the cause.
-/

namespace TemplateCodegen.Template

/-- Why a piece of template text is at fault. -/
inductive FaultCause where
  /-- A section is still open at the end of the text. -/
  | unclosedSection (name : String)
  /-- A closing tag stands where no section is open. -/
  | unmatchedClose (name : String)
  /-- A section is closed under another name. -/
  | mismatchedClose (opened closed : String)
  /-- A tag holds no name. -/
  | emptyIdentifier (tag : String)
  /-- A tag does not end in two closing braces. -/
  | unterminatedTag (tag : String)
  /-- The name in a tag has a character that names do not have. -/
  | invalidName (name : String)
deriving DecidableEq, Repr

namespace FaultCause

/-- The diagnostic code of a cause. -/
def code : FaultCause → DiagnosticCode
  | .unclosedSection _ => .unclosedSection
  | .unmatchedClose _ => .unmatchedClose
  | .mismatchedClose _ _ => .mismatchedClose
  | .emptyIdentifier _ => .emptyIdentifier
  | .unterminatedTag _ => .malformedTag
  | .invalidName _ => .malformedTag

/-- The text shown for a cause. -/
def message : FaultCause → String
  | .unclosedSection name => "section '" ++ name ++ "' is never closed"
  | .unmatchedClose name =>
    "'\x7b\x7b/" ++ name ++ "\x7d\x7d' closes a section that was never opened"
  | .mismatchedClose opened closed => "section '" ++ opened ++ "' is closed by '" ++ closed ++ "'"
  | .emptyIdentifier tag => "tag '" ++ tag ++ "' does not name anything"
  | .unterminatedTag tag => "tag '" ++ tag ++ "' is missing its closing '\x7d\x7d'"
  | .invalidName name => "'" ++ name ++ "' is not a valid placeholder name"

end FaultCause

/-- A fault of a template text. -/
structure Fault where
  /-- What is wrong. -/
  cause : FaultCause
  /-- Where it is wrong. -/
  span : Span
deriving DecidableEq, Repr

namespace Fault

/-- The fault as a diagnostic about the template text of a member, at the member's location. -/
def toDiagnostic (fault : Fault) (name source : String) (location : Option String) : Diagnostic :=
  ((Diagnostic.ofCode fault.cause.code
      ("template '" ++ name ++ "': " ++ fault.cause.message)).within
        ⟨name, source, fault.span⟩).located
    location

/-- The fault's text with its place. -/
def line (fault : Fault) : String :=
  fault.cause.message ++ " at " ++ toString fault.span.start ++ ".." ++ toString fault.span.stop

end Fault

end TemplateCodegen.Template
