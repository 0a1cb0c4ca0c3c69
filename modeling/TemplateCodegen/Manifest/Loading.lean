import TemplateCodegen.Datum.Toml.Document
import TemplateCodegen.Manifest.Reading

/-!
# Loading manifests and configurations

Manifests and configurations are written as TOML documents. Loading fails in one of two ways: the
text is no TOML, or it is and does not fit the records.
-/

namespace TemplateCodegen

/-- Why a document cannot be loaded. -/
inductive LoadError where
  /-- The text is not TOML. -/
  | notToml
  /-- The document does not fit. -/
  | misfit (misfit : Misfit)
deriving DecidableEq, Repr

/-- Read a value from the text of a TOML document. -/
def loadToml {α : Type} (read : Reader α) (text : String) : Except LoadError α :=
  match Toml.parse? text with
  | none => .error .notToml
  | some document => (read .toml document).mapError LoadError.misfit

/-- Load a manifest. -/
def Manifest.load (text : String) : Except LoadError Manifest := loadToml Manifest.read text

/-- Load a configuration. -/
def Config.load (text : String) : Except LoadError Config := loadToml Config.read text

/-- Loading fails without a look at the records exactly when the text is not TOML. -/
theorem loadToml_eq_notToml_iff {α : Type} (read : Reader α) (text : String) :
    loadToml read text = .error .notToml ↔ Toml.parse? text = none := by
  unfold loadToml
  split
  · rename_i h
    simp [h]
  · rename_i document h
    cases hread : read .toml document with
    | ok value => exact ⟨nofun, fun hnone => nomatch h.symm.trans hnone⟩
    | error misfit => exact ⟨nofun, fun hnone => nomatch h.symm.trans hnone⟩

end TemplateCodegen
