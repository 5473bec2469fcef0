import CatalogGraph.Rdf.Format
import CatalogGraph.Rdf.JsonLd
import CatalogGraph.Rdf.NTriples
import CatalogGraph.Rdf.RdfXml
import CatalogGraph.Rdf.Turtle

/-!
# Writing statements

Statements are written as a document of one of the four formats.
-/

namespace CatalogGraph.Rdf

/-- Writes statements as far as they can be written. -/
def Format.write (format : Format) (statements : List Statement) : Transcript :=
  match format with
  | .rdfXml => Rdf.rdfXml.write statements
  | .jsonLd => Rdf.jsonLd.write statements
  | .turtle => Rdf.turtle.write statements
  | .nTriples => Rdf.nTriples.write statements

/-- The document of some statements. -/
def serialize (format : Format) (statements : List Statement) : Outcome String :=
  (format.write statements).complete

end CatalogGraph.Rdf
