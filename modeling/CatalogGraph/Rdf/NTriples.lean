import CatalogGraph.Rdf.Layout

/-!
# N-Triples

One line for each statement, as it is displayed.
-/

namespace CatalogGraph.Rdf

/-- The layout of N-Triples. -/
def nTriples : Layout Unit where
  start := ()
  add _ s := .ok (s.display ++ "\n", ())
  finish _ := ""

end CatalogGraph.Rdf
