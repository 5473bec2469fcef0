import CatalogGraph.Mapping.Spec
import CatalogGraph.Rdf.Statement
import CatalogGraph.Uri.Host

/-!
# Objects from values

A value becomes a URI together with the base of its rule, if both are an absolute IRI that names a
host.  If they are not, the same text becomes a plain literal; this never fails.
-/

namespace CatalogGraph.Conversion

open CatalogGraph.Mapping CatalogGraph.Rdf

/-- The URI of a value after its base, or that text as a literal. -/
def objectUri (value base : String) : Object :=
  if Uri.isHostedIri (base ++ value) then .iri (base ++ value) else .plain (base ++ value)

/-- The object of a value according to the datatype of its rule.  Without a datatype it is a literal. -/
def objectOf (spec : ObjectSpec) (value : String) : Object :=
  match spec.datatype with
  | some .uri => objectUri value spec.base
  | some .integer => .typed value (Vocabulary.xsd "integer")
  | some .float => .typed value (Vocabulary.xsd "float")
  | some .gYear => .typed value (Vocabulary.xsd "gYear")
  | some .literal => .literal value spec.language
  | none => .literal value spec.language

end CatalogGraph.Conversion
