/-!
# Configuration

The options of a generation: how attribute classes are named, how outputs are put together, and how
the work is done. Every option has a default, so the empty configuration is valid.
-/

namespace TemplateCodegen

/-- The options of a generation. -/
structure Config where
  /-- The namespace of derived attribute classes. -/
  attributeNamespace : String := "Stencil"
  /-- What stands between the inline fragments of one class. -/
  fragmentSeparator : String := "\n"
  /-- Whether artifacts begin with comments that list what they were rendered with. -/
  debugHeader : Bool := false
  /-- What begins a line comment in the generated text. -/
  commentMarker : String := "//"
  /-- The extension of the files that artifacts are written to. -/
  fileExtension : String := "g.cs"
  /-- Whether the elements of a stage may be worked on side by side. -/
  isParallel : Bool := false
deriving DecidableEq, Repr

end TemplateCodegen
