import CatalogGraph.Mapping.DocumentYaml

/-!
# Texts of mapping documents

A mapping document is written in JSON or in YAML.
-/

namespace CatalogGraph.Mapping

/-- The form in which a mapping document is written. -/
inductive DocumentForm
  | json
  | yaml
  deriving DecidableEq, Repr

/-- Reads a document that is written in a form. -/
def Document.read (form : DocumentForm) (text : String) : Outcome Document :=
  match form with
  | .json => Document.ofJsonText text
  | .yaml => Document.ofYamlText text

end CatalogGraph.Mapping
