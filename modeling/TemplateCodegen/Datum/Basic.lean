/-!
# Data

The plain values that records are written in: those of TOML documents, and of JSON ones, which add
an absent value. Tables keep their entries in the order of the document.
-/

namespace TemplateCodegen

/-- A plain value of a document. -/
inductive Datum where
  /-- The absent value. -/
  | null
  /-- A flag. -/
  | bool (value : Bool)
  /-- A whole number. -/
  | integer (value : Int)
  /-- A number with a fraction or an exponent, as written. -/
  | float (written : String)
  /-- A text. -/
  | string (value : String)
  /-- A date, a time, or both, as written. -/
  | datetime (written : String)
  /-- A sequence. -/
  | array (items : List Datum)
  /-- Named values in the order of the document. -/
  | table (entries : List (String × Datum))
deriving Repr, Inhabited

/-- The two ways in which documents are written; they differ in how much surplus a record tolerates.
-/
inductive DatumForm where
  | json
  | toml
deriving DecidableEq, Repr

end TemplateCodegen
